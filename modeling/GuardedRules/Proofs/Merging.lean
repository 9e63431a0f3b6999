import GuardedRules.Proofs.Agreement

/-!
# What a merge of environments yields

A merge succeeds when the entries of both sides, read as places one after the other,
are in accord, and the result consists of their first places. An environment collects
a list of places when it could have come out of merging them one by one; the two sides
of a merge may stand for any lists of places, not only for their own entries.
-/

namespace GuardedRules

theorem bind_eq_ok_iff {ε α β : Type} {first : Except ε α} {next : α → Except ε β} {value : β} :
    (first >>= next) = .ok value ↔ ∃ middle, first = .ok middle ∧ next middle = .ok value := by
  cases first with
  | error error => simp [bind, Except.bind]
  | ok middle => simp [bind, Except.bind]

namespace Bindings

open Place (Accord firsts)

variable {V : Type}

theorem get?_eq_some_iff {b : Bindings V} {name : String} {value : V} :
    b.get? name = some value ↔ (name, value) ∈ b.entries := by
  constructor
  · intro h
    obtain ⟨front, back, heq, -⟩ := List.lookup_eq_some_iff.mp h
    simp [heq]
  · intro hmem
    obtain ⟨front, back, heq⟩ := List.append_of_mem hmem
    refine List.lookup_eq_some_iff.mpr ⟨front, back, heq, ?_⟩
    intro entry hentry
    have hnodup := b.nodup
    rw [heq, List.map_append, List.nodup_append] at hnodup
    have hne := hnodup.2.2 entry.1 (List.mem_map_of_mem hentry) name (by simp)
    exact bne_iff_ne.mpr hne.symm

/-- An environment holds at most one value of a name. -/
theorem value_unique {b : Bindings V} {name : String} {value other : V}
    (h : (name, value) ∈ b.entries) (hother : (name, other) ∈ b.entries) : value = other :=
  Option.some.inj ((get?_eq_some_iff.mpr h).symm.trans (get?_eq_some_iff.mpr hother))

theorem mem_names_of_mem {b : Bindings V} {name : String} {value : V}
    (h : (name, value) ∈ b.entries) : name ∈ b.names :=
  List.mem_map.mpr ⟨(name, value), h, rfl⟩

variable [BEq V]

theorem insertAgreeing_of_some {b : Bindings V} {entry : String × V} {known : V}
    (h : b.get? entry.1 = some known) :
    b.insertAgreeing entry = if known == entry.2 then .ok b else .error ⟨entry.1⟩ := by
  unfold insertAgreeing
  split <;> simp_all

theorem insertAgreeing_of_none {b : Bindings V} {entry : String × V} (h : b.get? entry.1 = none) :
    b.insertAgreeing entry = .ok (b.append entry.1 entry.2 h) := by
  unfold insertAgreeing
  split <;> simp_all

/-- All that adding an entry can come to when it succeeds. -/
theorem insertAgreeing_cases {b grown : Bindings V} {entry : String × V}
    (h : b.insertAgreeing entry = .ok grown) :
    (∃ known, b.get? entry.1 = some known ∧ (known == entry.2) = true ∧ grown = b) ∨
      ∃ fresh : b.get? entry.1 = none, grown = b.append entry.1 entry.2 fresh := by
  rcases Option.eq_none_or_eq_some (b.get? entry.1) with hfresh | ⟨known, hknown⟩
  · rw [insertAgreeing_of_none hfresh] at h
    exact .inr ⟨hfresh, (Except.ok.inj h).symm⟩
  · rw [insertAgreeing_of_some hknown] at h
    by_cases hvalue : (known == entry.2) = true
    · rw [if_pos hvalue] at h
      exact .inl ⟨known, hknown, hvalue, (Except.ok.inj h).symm⟩
    · rw [if_neg hvalue] at h
      cases h

/-- A further place of a bound name needs the value that the name has already. -/
theorem pairwise_append_cons_iff {b : Bindings V} {entry : String × V} {known : V}
    {rest : List (String × V)} (hknown : b.get? entry.1 = some known)
    (hrest : ((entry :: rest).map Prod.fst).Nodup) :
    (b.entries ++ entry :: rest).Pairwise Accord ↔
      (known == entry.2) = true ∧ (b.entries ++ rest).Pairwise Accord := by
  have hbound : (entry.1, known) ∈ b.entries := get?_eq_some_iff.mp hknown
  constructor
  · intro h
    refine ⟨?_, h.sublist ((List.sublist_cons_self entry rest).append_left _)⟩
    exact (List.pairwise_append.mp h).2.2 (entry.1, known) hbound entry (by simp) rfl
  · intro h
    obtain ⟨hvalue, hpairs⟩ := h
    obtain ⟨hself, -, hcross⟩ := List.pairwise_append.mp hpairs
    refine List.pairwise_append.mpr ⟨hself, Place.pairwise_accord_of_nodup hrest, ?_⟩
    intro left hleft right hright
    rcases List.mem_cons.mp hright with rfl | hright
    · intro hname
      have hsame : left.2 = known := value_unique (hname ▸ hleft) hbound
      exact hsame ▸ hvalue
    · exact hcross left hleft right hright

/-- Adding entries with distinct names one by one succeeds exactly when all places are in
accord, and then gives the first places. -/
theorem foldlM_insertAgreeing_eq_ok_iff {b m : Bindings V} {entries : List (String × V)}
    (hnodup : (entries.map Prod.fst).Nodup) :
    entries.foldlM insertAgreeing b = .ok m ↔
      (b.entries ++ entries).Pairwise Accord ∧ m.entries = firsts (b.entries ++ entries) := by
  induction entries generalizing b with
  | nil =>
    rw [List.foldlM_nil, List.append_nil, Place.firsts_of_nodup b.nodup]
    constructor
    · intro h
      cases h
      exact ⟨Place.pairwise_accord_of_nodup m.nodup, rfl⟩
    · exact fun h => congrArg Except.ok (Bindings.ext h.2.symm)
  | cons entry rest ih =>
    have hrest := (List.nodup_cons.mp hnodup).2
    rw [List.foldlM_cons]
    cases hknown : b.get? entry.1 with
    | none =>
      rw [insertAgreeing_of_none hknown]
      refine (ih hrest).trans ?_
      simp only [append, List.append_assoc, List.singleton_append]
    | some known =>
      have hname : entry.1 ∈ b.names :=
        mem_names_of_mem (get?_eq_some_iff.mp hknown)
      rw [insertAgreeing_of_some hknown, pairwise_append_cons_iff hknown hnodup,
        Place.firsts_append_cons_of_mem hname]
      by_cases hvalue : (known == entry.2) = true
      · rw [if_pos hvalue]
        simp only [hvalue, true_and]
        exact ih hrest
      · rw [if_neg hvalue]
        constructor
        · intro h
          cases h
        · exact fun h => absurd h.1.1 hvalue

theorem merge_eq_ok_iff {l r m : Bindings V} :
    l.merge r = .ok m ↔
      (l.entries ++ r.entries).Pairwise Accord ∧ m.entries = firsts (l.entries ++ r.entries) :=
  foldlM_insertAgreeing_eq_ok_iff r.nodup

/-- Nothing is in the way of a merge into the empty environment. -/
theorem empty_merge (b : Bindings V) : empty.merge b = .ok b :=
  merge_eq_ok_iff.mpr
    ⟨Place.pairwise_accord_of_nodup b.nodup, (Place.firsts_of_nodup b.nodup).symm⟩

/-- The environment of a list of places in accord: the first places are its entries. -/
structure Collects (b : Bindings V) (places : List (Place V)) : Prop where
  accord : places.Pairwise Accord
  entries_eq : b.entries = firsts places

/-- Every list of places in accord has an environment. -/
theorem exists_collects {places : List (Place V)} (h : places.Pairwise Accord) :
    ∃ b : Bindings V, b.Collects places :=
  ⟨⟨firsts places, Place.nodup_firsts places⟩, h, rfl⟩

theorem Collects.eq {b other : Bindings V} {places : List (Place V)} (h : b.Collects places)
    (hother : other.Collects places) : b = other :=
  Bindings.ext (h.entries_eq.trans hother.entries_eq.symm)

theorem empty_collects_iff {b : Bindings V} : b.Collects [] ↔ b = empty :=
  ⟨fun h => Bindings.ext h.entries_eq, fun h => ⟨List.Pairwise.nil, h ▸ rfl⟩⟩

theorem singleton_collects_iff {b : Bindings V} {name : String} {value : V} :
    b.Collects [(name, value)] ↔ b = singleton name value :=
  ⟨fun h => Bindings.ext h.entries_eq, fun h => ⟨List.pairwise_singleton _ _, h ▸ rfl⟩⟩

/-- A merge collects the places of the left side and then those of the right side. -/
theorem merge_eq_ok_iff_collects [PartialEquivBEq V] {l r m : Bindings V}
    {before after : List (Place V)} (hl : l.Collects before) (hr : r.Collects after) :
    l.merge r = .ok m ↔ m.Collects (before ++ after) := by
  rw [merge_eq_ok_iff, hl.entries_eq, hr.entries_eq, Place.firsts_append_firsts,
    ← Place.pairwise_append_iff_firsts hl.accord hr.accord]
  exact ⟨fun h => ⟨h.1, h.2⟩, fun h => ⟨h.accord, h.entries_eq⟩⟩

theorem collects_entries (b : Bindings V) : b.Collects b.entries :=
  ⟨Place.pairwise_accord_of_nodup b.nodup, (Place.firsts_of_nodup b.nodup).symm⟩

section Grouping

variable [PartialEquivBEq V] {b found : Bindings V} {others : List (Bindings V)}

/-- Merging environments one by one into a first one collects their entries behind its places. -/
theorem foldlM_merge_eq_ok_iff {passed : List (Place V)} (hfound : found.Collects passed) :
    others.foldlM merge found = .ok b ↔ b.Collects (passed ++ others.flatMap entries) := by
  induction others generalizing found passed with
  | nil =>
    rw [List.foldlM_nil, List.flatMap_nil, List.append_nil]
    constructor
    · intro h
      cases h
      exact hfound
    · exact fun h => congrArg Except.ok (hfound.eq h)
  | cons first rest ih =>
    rw [List.foldlM_cons, bind_eq_ok_iff, List.flatMap_cons, ← List.append_assoc]
    constructor
    · intro h
      obtain ⟨merged, hmerge, hrest⟩ := h
      have hmerged := (merge_eq_ok_iff_collects hfound first.collects_entries).mp hmerge
      exact (ih hmerged).mp hrest
    · intro h
      obtain ⟨merged, hmerged⟩ := exists_collects (List.pairwise_append.mp h.accord).1
      have hmerge := (merge_eq_ok_iff_collects hfound first.collects_entries).mpr hmerged
      exact ⟨merged, hmerge, (ih hmerged).mpr h⟩

/-- Merging environments into the last one first collects the same places. -/
theorem foldrM_merge_eq_ok_iff :
    others.foldrM merge empty = .ok b ↔ b.Collects (others.flatMap entries) := by
  induction others generalizing b with
  | nil =>
    rw [List.foldrM_nil, List.flatMap_nil, empty_collects_iff]
    exact ⟨fun h => (Except.ok.inj h).symm, fun h => congrArg Except.ok h.symm⟩
  | cons first rest ih =>
    rw [List.foldrM_cons, bind_eq_ok_iff, List.flatMap_cons]
    constructor
    · intro h
      obtain ⟨merged, hrest, hmerge⟩ := h
      exact (merge_eq_ok_iff_collects first.collects_entries (ih.mp hrest)).mp hmerge
    · intro h
      obtain ⟨merged, hmerged⟩ := exists_collects (List.pairwise_append.mp h.accord).2.1
      have hmerge := (merge_eq_ok_iff_collects first.collects_entries hmerged).mpr h
      exact ⟨merged, ih.mpr hmerged, hmerge⟩

/-- Environments can be merged from the left or from the right. -/
theorem foldlM_merge_eq_ok_iff_foldrM :
    others.foldlM merge empty = .ok b ↔ others.foldrM merge empty = .ok b := by
  have hnothing : (empty : Bindings V).Collects [] := empty_collects_iff.mpr rfl
  rw [foldlM_merge_eq_ok_iff hnothing, List.nil_append, foldrM_merge_eq_ok_iff]

end Grouping

end Bindings

end GuardedRules
