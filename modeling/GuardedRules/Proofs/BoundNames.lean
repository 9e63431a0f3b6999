import GuardedRules.Proofs.Merging
import GuardedRules.Proofs.Success

/-!
# The names a pattern binds

The list of variables threads one list of names through the pattern; a match merges
separate environments. Both come to folding the mentions of the pattern into a list that
takes every name once, and a fold into an empty list may be folded on without loss.
-/

namespace GuardedRules

variable {σ V : Type}

namespace Pattern

theorem mem_addName {names : List String} {name other : String} :
    other ∈ addName names name ↔ other ∈ names ∨ other = name := by
  rw [addName]
  by_cases hmem : name ∈ names
  · rw [if_pos hmem]
    exact ⟨Or.inl, fun h => h.elim id fun he => he ▸ hmem⟩
  · rw [if_neg hmem, List.mem_append, List.mem_singleton]

theorem nodup_addName {names : List String} {name : String} (h : names.Nodup) :
    (addName names name).Nodup := by
  rw [addName]
  by_cases hmem : name ∈ names
  · rwa [if_pos hmem]
  · rw [if_neg hmem]
    refine List.nodup_append.mpr ⟨h, by simp, ?_⟩
    intro other hother last hlast heq
    rw [List.mem_singleton.mp hlast] at heq
    exact hmem (heq ▸ hother)

theorem mem_foldl_addName {found names : List String} {name : String} :
    name ∈ names.foldl addName found ↔ name ∈ found ∨ name ∈ names := by
  induction names generalizing found with
  | nil => simp
  | cons first rest ih => rw [List.foldl_cons, ih, mem_addName, List.mem_cons, or_assoc]

theorem nodup_foldl_addName {found : List String} (names : List String) (h : found.Nodup) :
    (names.foldl addName found).Nodup := by
  induction names generalizing found with
  | nil => exact h
  | cons first rest ih => exact ih (nodup_addName h)

theorem foldl_addName_addName (found names : List String) (name : String) :
    (addName names name).foldl addName found = addName (names.foldl addName found) name := by
  by_cases hmem : name ∈ names
  · have hlater : name ∈ names.foldl addName found := mem_foldl_addName.mpr (Or.inr hmem)
    rw [addName, if_pos hmem, addName, if_pos hlater]
  · rw [addName, if_neg hmem, List.foldl_append, List.foldl_cons, List.foldl_nil]

/-- Names that were put together from `start` on can be folded on as one list. -/
theorem foldl_addName_foldl (found start names : List String) :
    (names.foldl addName start).foldl addName found =
      names.foldl addName (start.foldl addName found) := by
  induction names generalizing start with
  | nil => rfl
  | cons name rest ih => rw [List.foldl_cons, List.foldl_cons, ih, foldl_addName_addName]

theorem collectAllVariables_eq_foldl {children : List (Pattern σ V)}
    (hchildren : ∀ child ∈ children, ∀ found,
      collectVariables found child = child.mentions.foldl addName found) (found : List String) :
    collectAllVariables found children = (mentionsIn children).foldl addName found := by
  induction children generalizing found with
  | nil => rfl
  | cons child rest ih =>
    have hrest := ih fun other hmem => hchildren other (List.mem_cons_of_mem child hmem)
    rw [collectAllVariables, mentionsIn, List.foldl_append, hchildren child (by simp), hrest]

/-- The variables are the mentions without repetitions. -/
theorem collectVariables_eq_foldl (p : Pattern σ V) (found : List String) :
    collectVariables found p = p.mentions.foldl addName found := by
  induction p using Pattern.induction generalizing found with
  | constructor name children extract ih => exact collectAllVariables_eq_foldl ih found
  | aliased name inner ih => rw [collectVariables, mentions, List.foldl_cons, ih]
  | var => rfl
  | wildcard => rfl
  | equality => rfl

end Pattern

variable [BEq V]

/-- The names of the left side, and behind them the new ones of the right side. -/
theorem Bindings.names_of_merge {l r m : Bindings V} (h : l.merge r = .ok m) :
    m.names = r.names.foldl Pattern.addName l.names := by
  rw [merge] at h
  rw [names, names, names]
  generalize r.entries = entries at h ⊢
  induction entries generalizing l with
  | nil =>
    cases h
    rfl
  | cons entry rest ih =>
    obtain ⟨grown, hstep, hrest⟩ := bind_eq_ok_iff.mp h
    rw [List.map_cons, List.foldl_cons, Pattern.addName, ih hrest]
    rcases insertAgreeing_cases hstep with ⟨known, hknown, -, hsame⟩ | ⟨hfresh, rfl⟩
    · have hbound : entry.1 ∈ l.entries.map Prod.fst :=
        mem_names_of_mem (get?_eq_some_iff.mp hknown)
      rw [if_pos hbound, hsame]
    · have habsent : entry.1 ∉ l.entries.map Prod.fst := get?_eq_none_iff.mp hfresh
      rw [if_neg habsent, append, List.map_append]
      rfl

namespace Pattern

theorem names_of_components {children : List (Pattern σ V)}
    (hchildren : ∀ child ∈ children, ∀ subject (journal : Journal σ) b,
      ((child.matchSubject subject).runFrom journal).1 = .ok (some b) →
        b.names = child.mentions.foldl addName [])
    {name : String} {found b : Bindings V} {values : List V}
    (hlength : values.length = children.length) {journal : Journal σ}
    (h : ((matchComponents name found children values).runFrom journal).1 = .ok (some b)) :
    b.names = (mentionsIn children).foldl addName found.names := by
  induction children generalizing found values journal with
  | nil =>
    rw [components_nil_succeed_iff.mp h]
    rfl
  | cons child rest ih =>
    obtain ⟨value, values, rfl⟩ := List.exists_cons_of_length_eq_add_one hlength
    obtain ⟨bindings, merged, hchild, hmerge, hlast⟩ := components_cons_succeed_iff.mp h
    have hrest := ih (fun other hmem => hchildren other (List.mem_cons_of_mem child hmem))
      (Nat.succ.inj hlength) hlast
    have hnames : merged.names = child.mentions.foldl addName found.names := by
      rw [Bindings.names_of_merge hmerge, hchildren child (by simp) value journal bindings hchild,
        foldl_addName_foldl, List.foldl_nil]
    rw [hrest, hnames, mentionsIn, List.foldl_append]

/-- A match binds the mentions of the pattern without repetitions. -/
theorem names_of_match (p : Pattern σ V) (subject : V) (journal : Journal σ) (b : Bindings V)
    (h : ((p.matchSubject subject).runFrom journal).1 = .ok (some b)) :
    b.names = p.mentions.foldl addName [] := by
  induction p using Pattern.induction generalizing subject journal b with
  | var name =>
    rw [var_succeeds_iff.mp h]
    rfl
  | wildcard =>
    rw [wildcard_succeeds_iff.mp h]
    rfl
  | equality value =>
    rw [(equality_succeeds_iff.mp h).2]
    rfl
  | aliased name inner ih =>
    obtain ⟨found, hinner, hmerge⟩ := aliased_succeeds_iff.mp h
    rw [Bindings.names_of_merge hmerge, ih subject journal found hinner, foldl_addName_foldl]
    rfl
  | constructor name children extract ih =>
    obtain ⟨values, -, hlength, hrest⟩ := constructor_succeeds_iff.mp h
    exact names_of_components ih hlength hrest

/-- The list of variables names every variable and alias once and nothing else, and a match
binds these names in this order. -/
theorem names_eq_variableNames (p : Pattern σ V) :
    p.variableNames.Nodup ∧ (∀ name, name ∈ p.variableNames ↔ name ∈ p.mentions) ∧
    ∀ (subject : V) (journal : Journal σ) (b : Bindings V),
      ((p.matchSubject subject).runFrom journal).1 = .ok (some b) →
        b.names = p.variableNames := by
  have heq : p.variableNames = p.mentions.foldl addName [] := collectVariables_eq_foldl p []
  rw [heq]
  refine ⟨nodup_foldl_addName p.mentions List.nodup_nil, ?_, names_of_match p⟩
  intro name
  rw [mem_foldl_addName]
  simp

/-- A pattern with a name in two places and an alias around both. Its extractor counts its calls. -/
def twiceTheSame : Pattern Nat Nat :=
  .aliased "whole" (.constructor "twice" [.var "x", .aliased "y" (.var "x")] fun subject => do
    modify fun journal => { journal with state := journal.state + 1 }
    return some [subject, subject])

theorem names_eq_variableNames_twice :
    ((twiceTheSame.matchSubject 7).runFrom ⟨0, #[]⟩).1 =
      .ok (some ⟨[("whole", 7), ("x", 7), ("y", 7)], by decide⟩) ∧
    Bindings.names (⟨[("whole", 7), ("x", 7), ("y", 7)], by decide⟩ : Bindings Nat) =
      twiceTheSame.variableNames := by
  have hmatch : ((twiceTheSame.matchSubject 7).runFrom ⟨0, #[]⟩).1 =
      .ok (some ⟨[("whole", 7), ("x", 7), ("y", 7)], by decide⟩) := rfl
  exact ⟨hmatch, (names_eq_variableNames twiceTheSame).2.2 7 _ _ hmatch⟩

end Pattern

end GuardedRules
