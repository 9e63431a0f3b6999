import GuardedRules.Proofs.BoundNames

/-!
# How environments come about

An environment is empty or of a single name, or it comes from a merge or a match. Whatever
such steps lead to it, they mention names in some order, and it binds just these names, each
once and in the order of first mention. Looking up a name then finds the only entry there is
for it. That no name is bound twice follows here from how names are added and merged.
-/

namespace GuardedRules.Bindings

open Pattern (addName)

variable {V : Type}

section Steps

variable [BEq V]

/-- The environment comes about in steps that mention these names, from first to last. -/
inductive Built : List String → Bindings V → Prop
  | empty : Built [] empty
  | default : Built [] default
  | singleton (name : String) (value : V) : Built [name] (singleton name value)
  | merge {before after : List String} {l r m : Bindings V} :
      Built before l → Built after r → l.merge r = .ok m → Built (before ++ after) m
  | matched {σ : Type} {p : Pattern σ V} {subject : V} {journal : Journal σ} {b : Bindings V} :
      ((p.matchSubject subject).runFrom journal).1 = .ok (some b) → Built p.mentions b

theorem Built.names_eq {mentioned : List String} {b : Bindings V} (h : Built mentioned b) :
    b.names = mentioned.foldl addName [] := by
  induction h with
  | empty => rfl
  | default => rfl
  | singleton => rfl
  | @merge before after l r m _ _ hmerge ihLeft ihRight =>
    calc m.names
      _ = r.names.foldl addName l.names := names_of_merge hmerge
      _ = (after.foldl addName []).foldl addName (before.foldl addName []) := by
        rw [ihLeft, ihRight]
      _ = after.foldl addName (before.foldl addName []) := Pattern.foldl_addName_foldl _ _ _
      _ = (before ++ after).foldl addName [] := (List.foldl_append).symm
  | matched hmatch => exact Pattern.names_of_match _ _ _ _ hmatch

end Steps

/-- The environment is a table of names, in which each name has one entry at most. -/
structure IsTable (b : Bindings V) : Prop where
  names_nodup : b.names.Nodup
  size_eq : b.size = b.names.length
  isEmpty_iff : b.isEmpty = true ↔ b.size = 0
  /-- Going through the entries gives the names in their order. -/
  entries_names : b.entries.map Prod.fst = b.names
  contains_iff : ∀ name, b.contains name = true ↔ name ∈ b.names
  get?_iff_only_entry : ∀ name value,
    b.get? name = some value ↔ (b.entries.filter fun entry => entry.1 = name) = [(name, value)]
  get?_eq_none_iff : ∀ name, b.get? name = none ↔ name ∉ b.names

/-- Where no name occurs twice, an entry is the only one of its name. -/
theorem filter_name_eq_iff {entries : List (String × V)} (h : (entries.map Prod.fst).Nodup)
    {name : String} {value : V} :
    (entries.filter fun entry => entry.1 = name) = [(name, value)] ↔ (name, value) ∈ entries := by
  induction entries with
  | nil => simp
  | cons entry rest ih =>
    obtain ⟨habsent, hrest⟩ := List.nodup_cons.mp h
    by_cases hname : entry.1 = name
    · have hothers : ∀ other ∈ rest, other.1 ≠ name := by
        intro other hother hsame
        exact habsent (hname ▸ hsame ▸ List.mem_map_of_mem hother)
      have hnone : (rest.filter fun other => other.1 = name) = [] :=
        List.filter_eq_nil_iff.mpr fun other hother => by simpa using hothers other hother
      have hmem : (name, value) ∉ rest := fun hmem => hothers _ hmem rfl
      rw [List.filter_cons_of_pos (by simp [hname]), hnone, List.mem_cons, or_iff_left hmem,
        List.cons.injEq, and_iff_left rfl, eq_comm]
    · have hne : (name, value) ≠ entry := fun heq => hname (heq ▸ rfl)
      rw [List.filter_cons_of_neg (by simp [hname]), ih hrest, List.mem_cons, or_iff_right hne]

theorem isTable_of_nodup {b : Bindings V} (h : b.names.Nodup) : b.IsTable where
  names_nodup := h
  size_eq := (List.length_map _).symm
  isEmpty_iff := by
    rw [isEmpty, size, List.isEmpty_iff, List.length_eq_zero_iff]
  entries_names := rfl
  contains_iff := by
    intro name
    rw [contains, Option.isSome_iff_ne_none, ne_eq, get?_eq_none_iff, Decidable.not_not]
  get?_iff_only_entry := by
    intro name value
    rw [get?_eq_some_iff, filter_name_eq_iff h]
  get?_eq_none_iff := fun _ => get?_eq_none_iff

variable [BEq V]

/-- Whatever steps lead to an environment, it is a table of the names that they mention, in the
order of first mention. -/
theorem Built.isTable_of_mentioned {mentioned : List String} {b : Bindings V}
    (h : Built mentioned b) : b.names = mentioned.foldl addName [] ∧ b.IsTable := by
  have hnames := h.names_eq
  refine ⟨hnames, isTable_of_nodup ?_⟩
  rw [hnames]
  exact Pattern.nodup_foldl_addName mentioned List.nodup_nil

/-- A match in which one name occurs twice is merged behind a name of its own and in front of one
that it has bound already. -/
theorem Built.isTable_of_mentioned_twice :
    let p : Pattern Unit Nat :=
      .constructor "twice" [.var "x", .aliased "y" (.var "x")] fun n => return some [n, n]
    let b : Bindings Nat := ⟨[("z", 1), ("x", 7), ("y", 7)], by decide⟩
    ((p.matchSubject 7).runFrom ⟨(), #[]⟩).1 =
        .ok (some ⟨[("x", 7), ("y", 7)], by decide⟩) ∧
      Built ["z", "x", "y", "x", "y"] b ∧ b.IsTable := by
  intro p b
  have hmatch : ((p.matchSubject 7).runFrom ⟨(), #[]⟩).1 =
      .ok (some ⟨[("x", 7), ("y", 7)], by decide⟩) := rfl
  have hfront : Built ["z", "x", "y", "x"] b := .merge (.singleton "z" 1) (.matched hmatch) rfl
  have hb : Built ["z", "x", "y", "x", "y"] b := .merge hfront (.singleton "y" 7) rfl
  exact ⟨hmatch, hb, hb.isTable_of_mentioned.2⟩

end GuardedRules.Bindings
