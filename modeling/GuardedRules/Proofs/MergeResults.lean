import Mathlib.Data.List.Find
import GuardedRules.Proofs.Merging

/-!
# What a merge keeps and what it reports

A merge goes through the right side and adds to the environment that it has built so far. The
right side has no name twice, so an entry never meets one that was added in front of it: what is
looked up in the growing environment is what the left side binds. From this one step follows
what a whole merge comes to. It succeeds on compatible sides, puts the new entries of the right
side behind all of the left side, and otherwise reports the first name of the right side that
the left side contradicts.
-/

namespace GuardedRules.Bindings

variable {V : Type}

theorem get?_append_of_ne {b : Bindings V} {name other : String} {value : V}
    (fresh : b.get? name = none) (h : other ≠ name) :
    (b.append name value fresh).get? other = b.get? other := by
  have hmiss : ([(name, value)] : List (String × V)).lookup other = none := by
    rw [List.lookup_cons, beq_false_of_ne h]
    rfl
  rw [get?, append, List.lookup_append, hmiss, Option.or_none, get?]

variable [BEq V]

section Steps

variable {b grown : Bindings V} {entry : String × V}

/-- The name of the entry is bound already, and to a value that the entry's does not match. -/
def contradicts (b : Bindings V) (entry : String × V) : Bool :=
  (b.get? entry.1).any fun known => !(known == entry.2)

theorem contradicts_iff :
    b.contradicts entry = true ↔
      ∃ known, b.get? entry.1 = some known ∧ (known == entry.2) = false := by
  rw [contradicts, Option.any_eq_true]
  simp only [Bool.not_eq_true']

theorem insertAgreeing_eq_error_iff {conflict : MergeConflict} :
    b.insertAgreeing entry = .error conflict ↔ b.contradicts entry = true ∧ conflict = ⟨entry.1⟩ := by
  rw [contradicts]
  cases hknown : b.get? entry.1 with
  | none => simp [insertAgreeing_of_none hknown]
  | some known =>
    rw [insertAgreeing_of_some hknown]
    cases hvalue : known == entry.2 with
    | false => simp [hvalue, eq_comm]
    | true => simp [hvalue]

/-- Adding an entry is invisible to every other name. -/
theorem get?_insertAgreeing {other : String} (h : b.insertAgreeing entry = .ok grown)
    (hother : other ≠ entry.1) : grown.get? other = b.get? other := by
  rcases insertAgreeing_cases h with ⟨known, -, -, rfl⟩ | ⟨fresh, rfl⟩
  · rfl
  · exact get?_append_of_ne fresh hother

/-- Entries with distinct names fail at the first one that the environment contradicts as it was
before any of them was added. -/
theorem foldlM_insertAgreeing_eq_error_iff {entries : List (String × V)} {conflict : MergeConflict}
    (hnodup : (entries.map Prod.fst).Nodup) :
    entries.foldlM insertAgreeing b = .error conflict ↔
      ∃ entry, entries.find? b.contradicts = some entry ∧ conflict = ⟨entry.1⟩ := by
  induction entries generalizing b with
  | nil =>
    rw [List.foldlM_nil]
    simp [pure, Except.pure]
  | cons entry rest ih =>
    obtain ⟨habsent, hrest⟩ := List.nodup_cons.mp hnodup
    rw [List.foldlM_cons, List.find?_cons]
    rcases hstep : b.insertAgreeing entry with found | grown
    · obtain ⟨hcontradicts, rfl⟩ := insertAgreeing_eq_error_iff.mp hstep
      simp [hcontradicts, bind, Except.bind, eq_comm]
    · have hfits : b.contradicts entry = false := by
        refine Bool.eq_false_iff.mpr ?_
        intro hcontradicts
        have herror := insertAgreeing_eq_error_iff.mpr ⟨hcontradicts, rfl⟩
        rw [hstep] at herror
        cases herror
      have hsame : rest.find? grown.contradicts = rest.find? b.contradicts := by
        refine List.find?_congr ?_
        intro other hother
        have hname : other.1 ≠ entry.1 := fun h => habsent (h ▸ List.mem_map_of_mem hother)
        rw [contradicts, contradicts, get?_insertAgreeing hstep hname]
      rw [hfits, ← hsame]
      exact ih hrest

end Steps

variable {l r m : Bindings V}

theorem merge_eq_error_iff {conflict : MergeConflict} :
    l.merge r = .error conflict ↔
      ∃ entry, r.entries.find? l.contradicts = some entry ∧ conflict = ⟨entry.1⟩ :=
  foldlM_insertAgreeing_eq_error_iff r.nodup

/-- Every name bound in both environments has a value on the left that equals the one on the
right. -/
def Compatible (l r : Bindings V) : Prop :=
  ∀ name left right, l.get? name = some left → r.get? name = some right → (left == right) = true

/-- Only names of both sides are compared, each once. -/
theorem pairwise_accord_iff_compatible :
    (l.entries ++ r.entries).Pairwise Place.Accord ↔ l.Compatible r := by
  constructor
  · intro h name left right hleft hright
    have hcross := (List.pairwise_append.mp h).2.2
    exact hcross _ (get?_eq_some_iff.mp hleft) _ (get?_eq_some_iff.mp hright) rfl
  · intro h
    refine List.pairwise_append.mpr ⟨Place.pairwise_accord_of_nodup l.nodup,
      Place.pairwise_accord_of_nodup r.nodup, ?_⟩
    intro left hleft right hright hname
    have hother : (left.1, right.2) ∈ r.entries := hname ▸ hright
    exact h left.1 left.2 right.2 (get?_eq_some_iff.mpr hleft) (get?_eq_some_iff.mpr hother)

theorem exists_merge_eq_ok_iff : (∃ m, l.merge r = .ok m) ↔ l.Compatible r := by
  rw [← pairwise_accord_iff_compatible]
  constructor
  · intro h
    obtain ⟨m, hmerge⟩ := h
    exact (merge_eq_ok_iff.mp hmerge).1
  · intro h
    obtain ⟨m, hm⟩ := exists_collects h
    exact ⟨m, merge_eq_ok_iff.mpr ⟨hm.accord, hm.entries_eq⟩⟩

/-- All of the left side comes first, and behind it the entries of the right side with new names. -/
theorem entries_of_merge (h : l.merge r = .ok m) :
    m.entries = l.entries ++ r.entries.filter fun entry => entry.1 ∉ l.names := by
  rw [(merge_eq_ok_iff.mp h).2, Place.firsts_append, Place.firsts_of_nodup l.nodup,
    Place.firsts_of_nodup r.nodup]
  rfl

/-- What the left side binds is kept; the right side is asked only for the other names. -/
theorem get?_of_merge (h : l.merge r = .ok m) (name : String) :
    m.get? name = (l.get? name).or (r.get? name) := by
  cases hleft : l.get? name with
  | some value =>
    rw [Option.some_or, get?_eq_some_iff, entries_of_merge h]
    exact List.mem_append_left _ (get?_eq_some_iff.mp hleft)
  | none =>
    have habsent : name ∉ l.names := get?_eq_none_iff.mp hleft
    rw [Option.none_or]
    refine Option.eq_of_eq_some ?_
    intro value
    have hother : (name, value) ∉ l.entries := fun hmem => habsent (mem_names_of_mem hmem)
    rw [get?_eq_some_iff, get?_eq_some_iff, entries_of_merge h, List.mem_append,
      or_iff_right hother, List.mem_filter, decide_eq_true habsent, and_iff_left rfl]

/-- A merge succeeds exactly on compatible sides and then puts the entries of the right side with
new names behind those of the left side. If it fails, it names the first entry of the right side
that the left side contradicts. -/
theorem merge_extends_or_names_first_conflict (l r : Bindings V) :
    ((∃ m, l.merge r = .ok m) ↔ l.Compatible r) ∧
      (∀ m, l.merge r = .ok m →
        m.entries = l.entries ++ r.entries.filter fun entry => entry.1 ∉ l.names) ∧
      ∀ conflict, l.merge r = .error conflict →
        ∃ before value after known, r.entries = before ++ (conflict.name, value) :: after ∧
          l.get? conflict.name = some known ∧ (known == value) = false ∧
          ∀ entry ∈ before, ∀ kept, l.get? entry.1 = some kept → (kept == entry.2) = true := by
  refine ⟨exists_merge_eq_ok_iff, fun _ => entries_of_merge, ?_⟩
  intro conflict h
  obtain ⟨⟨name, value⟩, hfind, rfl⟩ := merge_eq_error_iff.mp h
  obtain ⟨hcontradicts, before, after, hsplit, hbefore⟩ := List.find?_eq_some_iff_append.mp hfind
  obtain ⟨known, hknown, hvalue⟩ := contradicts_iff.mp hcontradicts
  refine ⟨before, value, after, known, hsplit, hknown, hvalue, ?_⟩
  intro entry hentry kept hkept
  refine Bool.of_not_eq_false ?_
  intro hdiffers
  have hnot := hbefore entry hentry
  rw [contradicts_iff.mpr ⟨kept, hkept, hdiffers⟩] at hnot
  cases hnot

/-- Of two conflicts the one that comes first on the right is reported. -/
example :
    let l : Bindings Nat := ⟨[("x", 1), ("y", 2)], by decide⟩
    let r : Bindings Nat := ⟨[("z", 5), ("y", 3), ("x", 4)], by decide⟩
    l.merge r = .error ⟨"y"⟩ := rfl

end GuardedRules.Bindings
