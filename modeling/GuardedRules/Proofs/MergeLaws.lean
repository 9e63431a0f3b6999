import GuardedRules.Proofs.MergeResults
import GuardedRules.Proofs.ValueEquality

/-!
# Grouping and order of merges

How merges are grouped makes no difference: either way the first places of all entries in a row
are left, and either way these have to be in accord. The order of two sides makes a difference,
since the earlier side keeps its place and its values. It is one that equality of environments
cannot see, except that a NaN which only one side binds does not equal itself.
-/

namespace GuardedRules.Bindings

variable {V : Type} [BEq V]

theorem mem_names_of_merge {l r m : Bindings V} (h : l.merge r = .ok m) {name : String} :
    name ∈ m.names ↔ name ∈ l.names ∨ name ∈ r.names := by
  have hnone : name ∉ m.names ↔ name ∉ l.names ∧ name ∉ r.names := by
    rw [← get?_eq_none_iff, ← get?_eq_none_iff, ← get?_eq_none_iff, get?_of_merge h,
      Option.or_eq_none_iff]
  rw [← not_iff_not, hnone, not_or]

/-- Environments are equal when they bind as many names and every entry of the first has one of
equal value in the second. -/
theorem beq_iff {l r : Bindings V} :
    (l == r) = true ↔ l.size = r.size ∧
      ∀ entry ∈ l.entries, ∃ value, r.get? entry.1 = some value ∧ (entry.2 == value) = true := by
  show (l.size == r.size && l.entries.all _) = true ↔ _
  rw [Bool.and_eq_true, beq_iff_eq, List.all_eq_true]
  refine and_congr_right fun _ => forall₂_congr ?_
  intro entry _
  cases r.get? entry.1 with
  | none => simp
  | some value => simp

section Grouping

variable [PartialEquivBEq V] {a b c m : Bindings V}

/-- Two merges from the left collect all three lists of entries. -/
theorem merge_then_merge_eq_ok_iff :
    (a.merge b >>= fun front => front.merge c) = .ok m ↔
      m.Collects (a.entries ++ b.entries ++ c.entries) := by
  have hall : [b, c].foldlM merge a = .ok m ↔ m.Collects (a.entries ++ [b, c].flatMap entries) :=
    foldlM_merge_eq_ok_iff a.collects_entries
  simpa only [List.foldlM_cons, List.foldlM_nil, bind_pure, List.flatMap_cons, List.flatMap_nil,
    List.append_nil, List.append_assoc] using hall

/-- Merging the last two first collects the same entries. -/
theorem merge_after_merge_eq_ok_iff :
    (b.merge c >>= fun back => a.merge back) = .ok m ↔
      m.Collects (a.entries ++ b.entries ++ c.entries) := by
  rw [bind_eq_ok_iff, List.append_assoc]
  constructor
  · intro h
    obtain ⟨back, hback, hmerge⟩ := h
    have hcollects := (merge_eq_ok_iff_collects b.collects_entries c.collects_entries).mp hback
    exact (merge_eq_ok_iff_collects a.collects_entries hcollects).mp hmerge
  · intro h
    obtain ⟨back, hback⟩ := exists_collects (List.pairwise_append.mp h.accord).2.1
    refine ⟨back, ?_, ?_⟩
    · exact (merge_eq_ok_iff_collects b.collects_entries c.collects_entries).mpr hback
    · exact (merge_eq_ok_iff_collects a.collects_entries hback).mpr h

end Grouping

/-- Three environments can be merged from the left or from the right: both succeed together and
with one result, entry by entry. -/
theorem merge_assoc (a b c m : Bindings Value) :
    (a.merge b >>= fun front => front.merge c) = .ok m ↔
      (b.merge c >>= fun back => a.merge back) = .ok m :=
  merge_then_merge_eq_ok_iff.trans merge_after_merge_eq_ok_iff.symm

/-- Whether a merge fails does not depend on the grouping, but which variable it reports does. -/
example :
    let a : Bindings Nat := ⟨[("x", 1)], by decide⟩
    let b : Bindings Nat := ⟨[("x", 2), ("y", 1)], by decide⟩
    let c : Bindings Nat := ⟨[("y", 2)], by decide⟩
    (a.merge b >>= fun front => front.merge c) = .error ⟨"x"⟩ ∧
      (b.merge c >>= fun back => a.merge back) = .error ⟨"y"⟩ := ⟨rfl, rfl⟩

theorem Compatible.symm [PartialEquivBEq V] {l r : Bindings V} (h : l.Compatible r) :
    r.Compatible l :=
  fun name left right hleft hright => BEq.symm (h name right left hright hleft)

/-- Environments that bind the same names are equal as soon as the values of each name are. -/
theorem beq_of_values {m n : Bindings V} (hnames : ∀ name, name ∈ m.names ↔ name ∈ n.names)
    (hvalues : ∀ name left right, m.get? name = some left → n.get? name = some right →
      (left == right) = true) : (m == n) = true := by
  have hperm : m.names.Perm n.names := (List.perm_ext_iff_of_nodup m.nodup n.nodup).mpr hnames
  have hsize : m.size = n.size := by
    rw [size, size, ← List.length_map Prod.fst, ← List.length_map Prod.fst]
    exact hperm.length_eq
  refine beq_iff.mpr ⟨hsize, ?_⟩
  intro entry hentry
  have hbound : entry.1 ∈ n.names := (hnames entry.1).mp (mem_names_of_mem hentry)
  cases hright : n.get? entry.1 with
  | none => exact absurd hbound (get?_eq_none_iff.mp hright)
  | some right =>
    exact ⟨right, rfl, hvalues entry.1 entry.2 right (get?_eq_some_iff.mpr hentry) hright⟩

/-- The results of both orders are equal if every bound value equals itself. -/
theorem merge_beq_merge {l r m n : Bindings V} (hm : l.merge r = .ok m) (hn : r.merge l = .ok n)
    (hself : ∀ entry ∈ l.entries ++ r.entries, (entry.2 == entry.2) = true) : (m == n) = true := by
  have hcompatible : l.Compatible r := exists_merge_eq_ok_iff.mp ⟨m, hm⟩
  refine beq_of_values ?_ ?_
  · intro name
    rw [mem_names_of_merge hm, mem_names_of_merge hn, or_comm]
  · intro name kept other hkept hother
    rw [get?_of_merge hm] at hkept
    rw [get?_of_merge hn] at hother
    cases hl : l.get? name with
    | none =>
      rw [hl, Option.none_or] at hkept
      rw [hl, Option.or_none] at hother
      obtain rfl := Option.some.inj (hkept.symm.trans hother)
      exact hself _ (List.mem_append_right _ (get?_eq_some_iff.mp hkept))
    | some left =>
      rw [hl, Option.some_or] at hkept
      obtain rfl := Option.some.inj hkept
      cases hr : r.get? name with
      | none =>
        rw [hr, hl, Option.none_or] at hother
        obtain rfl := Option.some.inj hother
        exact hself _ (List.mem_append_left _ (get?_eq_some_iff.mp hl))
      | some right =>
        rw [hr, Option.some_or] at hother
        obtain rfl := Option.some.inj hother
        exact hcompatible name _ _ hl hr

/-- What `l` and `r` merged in this order and in the other one have in common. -/
structure MergedBothWays (l r m n : Bindings Value) : Prop where
  same_names : ∀ name, name ∈ m.names ↔ name ∈ n.names
  of_left_only : ∀ name value, l.get? name = some value → r.get? name = none →
    m.get? name = some value ∧ n.get? name = some value
  of_right_only : ∀ name value, l.get? name = none → r.get? name = some value →
    m.get? name = some value ∧ n.get? name = some value
  /-- Of a name on both sides each result keeps the value that comes first in its own order. -/
  of_both : ∀ name left right, l.get? name = some left → r.get? name = some right →
    m.get? name = some left ∧ n.get? name = some right ∧ (left == right) = true
  beq_of_nanFree : (∀ entry ∈ l.entries ++ r.entries, entry.2.NaNFree) → (m == n) = true

/-- Merging succeeds in one order exactly when it does in the other, and the results bind the same
names to equal values. -/
theorem merge_symmetric (l r : Bindings Value) :
    ((∃ m, l.merge r = .ok m) ↔ ∃ n, r.merge l = .ok n) ∧
      ∀ m n, l.merge r = .ok m → r.merge l = .ok n → MergedBothWays l r m n := by
  refine ⟨?_, ?_⟩
  · rw [exists_merge_eq_ok_iff, exists_merge_eq_ok_iff]
    exact ⟨Compatible.symm, Compatible.symm⟩
  · intro m n hm hn
    have hcompatible : l.Compatible r := exists_merge_eq_ok_iff.mp ⟨m, hm⟩
    exact {
      same_names := by
        intro name
        rw [mem_names_of_merge hm, mem_names_of_merge hn, or_comm]
      of_left_only := by
        intro name value hl hr
        rw [get?_of_merge hm, get?_of_merge hn, hl, hr]
        exact ⟨rfl, rfl⟩
      of_right_only := by
        intro name value hl hr
        rw [get?_of_merge hm, get?_of_merge hn, hl, hr]
        exact ⟨rfl, rfl⟩
      of_both := by
        intro name left right hl hr
        rw [get?_of_merge hm, get?_of_merge hn, hl, hr]
        exact ⟨rfl, rfl, hcompatible name left right hl hr⟩
      beq_of_nanFree := by
        intro hfree
        exact merge_beq_merge hm hn fun entry hentry => Value.beq_self_of_nanFree (hfree entry hentry)
    }

/-- Two zeros of different sign, one in each environment, keep their places and their signs. -/
theorem merge_symmetric_signed_zeros :
    let zero := Value.float ⟨0⟩
    let minusZero := Value.float ⟨0x8000000000000000⟩
    let l : Bindings Value := ⟨[("x", zero), ("y", .tuple [minusZero])], by decide⟩
    let r : Bindings Value := ⟨[("z", .unit), ("x", minusZero)], by decide⟩
    let m : Bindings Value := ⟨[("x", zero), ("y", .tuple [minusZero]), ("z", .unit)], by decide⟩
    let n : Bindings Value := ⟨[("z", .unit), ("x", minusZero), ("y", .tuple [minusZero])], by decide⟩
    l.merge r = .ok m ∧ r.merge l = .ok n ∧ MergedBothWays l r m n ∧ (m == n) = true := by
  intro zero minusZero l r m n
  have hm : l.merge r = .ok m := rfl
  have hn : r.merge l = .ok n := rfl
  have hboth : MergedBothWays l r m n := (merge_symmetric l r).2 m n hm hn
  refine ⟨hm, hn, hboth, hboth.beq_of_nanFree ?_⟩
  simp only [l, r, List.cons_append, List.nil_append, List.forall_mem_cons]
  exact ⟨rfl, ⟨rfl, trivial⟩, trivial, rfl, fun _ hmem => absurd hmem List.not_mem_nil⟩

/-- A NaN that only one side binds keeps the results of the two orders apart. -/
example :
    let nan := Value.float ⟨0x7ff8000000000000⟩
    let l : Bindings Value := singleton "x" nan
    let m : Bindings Value := ⟨[("x", nan), ("y", .unit)], by decide⟩
    let n : Bindings Value := ⟨[("y", .unit), ("x", nan)], by decide⟩
    l.merge (singleton "y" .unit) = .ok m ∧ (singleton "y" .unit).merge l = .ok n ∧
      (m == n) = false := ⟨rfl, rfl, rfl⟩

end GuardedRules.Bindings
