import GuardedRules.Pattern.Occurrences

/-!
# First places and agreement

The first places of a list are a sublist of it with every name once. With an equality
that is symmetric and transitive it makes no difference whether the later places of a
name are compared with the first one only or with one another. Reflexivity is not
assumed: a single place agrees with itself whatever its value.
-/

namespace GuardedRules.Place

variable {V : Type}

theorem firsts_sublist (places : List (Place V)) : (firsts places).Sublist places := by
  induction places with
  | nil => exact List.Sublist.slnil
  | cons place rest ih => exact (List.filter_sublist.trans ih).cons_cons place

theorem mem_of_mem_firsts {places : List (Place V)} {place : Place V}
    (h : place ∈ firsts places) : place ∈ places :=
  (firsts_sublist places).subset h

/-- No name has two first places. -/
theorem nodup_firsts (places : List (Place V)) : ((firsts places).map Prod.fst).Nodup := by
  induction places with
  | nil => exact List.nodup_nil
  | cons place rest ih =>
    simp only [firsts, List.map_cons, List.nodup_cons]
    refine ⟨?_, ih.sublist (List.filter_sublist.map _)⟩
    intro hmem
    obtain ⟨other, hother, hname⟩ := List.mem_map.mp hmem
    have hne := (List.mem_filter.mp hother).2
    exact (of_decide_eq_true hne) hname

/-- A list without repeated names consists of first places. -/
theorem firsts_of_nodup {places : List (Place V)} (h : (places.map Prod.fst).Nodup) :
    firsts places = places := by
  induction places with
  | nil => rfl
  | cons place rest ih =>
    rw [List.map_cons, List.nodup_cons] at h
    rw [firsts, ih h.2, List.filter_eq_self.mpr]
    intro other hother
    refine decide_eq_true ?_
    intro hname
    exact h.1 (hname ▸ List.mem_map_of_mem hother)

/-- Leaving out the later places of a name loses no name. -/
theorem mem_names_firsts {places : List (Place V)} {name : String} :
    name ∈ (firsts places).map Prod.fst ↔ name ∈ places.map Prod.fst := by
  induction places with
  | nil => rfl
  | cons place rest ih =>
    by_cases hname : name = place.1
    · simp [firsts, hname]
    · rw [firsts, List.map_cons, List.map_cons, List.mem_cons, List.mem_cons, ← ih]
      refine or_congr_right ?_
      constructor
      · exact fun hmem => (List.filter_sublist.map Prod.fst).subset hmem
      · intro hmem
        obtain ⟨other, hother, rfl⟩ := List.mem_map.mp hmem
        exact List.mem_map_of_mem (List.mem_filter.mpr ⟨hother, decide_eq_true hname⟩)

theorem firsts_append (before after : List (Place V)) :
    firsts (before ++ after) =
      firsts before ++ (firsts after).filter fun place => place.1 ∉ before.map Prod.fst := by
  induction before with
  | nil =>
    rw [firsts, List.nil_append, List.nil_append, List.filter_eq_self.mpr]
    intro place _
    exact decide_eq_true List.not_mem_nil
  | cons place rest ih =>
    have hfilter : ((firsts after).filter fun other => other.1 ∉ rest.map Prod.fst).filter
          (fun other => other.1 ≠ place.1) =
        (firsts after).filter fun other => other.1 ∉ (place :: rest).map Prod.fst := by
      rw [List.filter_filter]
      refine List.filter_congr ?_
      intro other _
      rw [List.map_cons, ← Bool.decide_and]
      simp only [List.mem_cons, not_or]
    rw [List.cons_append, firsts, ih, List.filter_append, hfilter]
    rfl

/-- The first places of two lists, taken together, have the same first places as the
lists themselves. -/
theorem firsts_append_firsts (before after : List (Place V)) :
    firsts (firsts before ++ firsts after) = firsts (before ++ after) := by
  rw [firsts_append, firsts_append, firsts_of_nodup (nodup_firsts before),
    firsts_of_nodup (nodup_firsts after)]
  congr 1
  refine List.filter_congr ?_
  intro place _
  simp only [mem_names_firsts]

/-- A place whose name occurs before it is no first place. -/
theorem firsts_append_cons_of_mem {before after : List (Place V)} {place : Place V}
    (h : place.1 ∈ before.map Prod.fst) :
    firsts (before ++ place :: after) = firsts (before ++ after) := by
  have hskip : decide (place.1 ∉ before.map Prod.fst) = false := decide_eq_false (not_not_intro h)
  rw [firsts_append, firsts_append, firsts, List.filter_cons_of_neg (by rw [hskip]; decide),
    List.filter_filter]
  congr 1
  refine List.filter_congr ?_
  intro other _
  by_cases hname : other.1 = place.1
  · simp only [hname, hskip, Bool.false_and]
  · simp only [hname, ne_eq, not_false_eq_true, decide_true, Bool.and_true]

variable [BEq V]

/-- If both places have one name, the later value equals the earlier one. -/
def Accord (earlier later : Place V) : Prop :=
  earlier.1 = later.1 → (earlier.2 == later.2) = true

instance (earlier later : Place V) : Decidable (Accord earlier later) :=
  inferInstanceAs (Decidable (_ → _))

theorem pairwise_accord_of_nodup {places : List (Place V)} (h : (places.map Prod.fst).Nodup) :
    places.Pairwise Accord :=
  (List.pairwise_map.mp h).imp fun hne heq => absurd heq hne

/-- The first of two places with one name decides about every place after both. -/
theorem Agree.head {place : Place V} {rest : List (Place V)} (h : Agree (place :: rest)) :
    ∀ later ∈ rest, Accord place later := by
  intro later hlater hname
  obtain ⟨before, after, rfl⟩ := List.append_of_mem hlater
  refine h (place :: before) later after rfl place.2 ?_
  rw [List.lookup_cons, ← hname, beq_self_eq_true]

/-- In a list in accord, the first place of a name is the place itself or equals it. -/
theorem exists_first_accord {places : List (Place V)} {place : Place V}
    (h : places.Pairwise Accord) (hmem : place ∈ places) :
    ∃ first ∈ firsts places, first.1 = place.1 ∧
      (first = place ∨ (first.2 == place.2) = true) := by
  induction places with
  | nil => simp at hmem
  | cons head rest ih =>
    obtain ⟨hhead, hrest⟩ := List.pairwise_cons.mp h
    rcases List.mem_cons.mp hmem with rfl | hmem
    · exact ⟨place, by simp [firsts], rfl, Or.inl rfl⟩
    · by_cases hname : head.1 = place.1
      · exact ⟨head, by simp [firsts], hname, Or.inr (hhead place hmem hname)⟩
      · obtain ⟨first, hfirst, heq, hvalue⟩ := ih hrest hmem
        refine ⟨first, ?_, heq, hvalue⟩
        refine List.mem_cons_of_mem _ (List.mem_filter.mpr ⟨hfirst, decide_eq_true ?_⟩)
        exact fun hsame => hname (hsame.symm.trans heq)

variable [PartialEquivBEq V]

theorem Agree.tail {place : Place V} {rest : List (Place V)} (h : Agree (place :: rest)) :
    Agree rest := by
  intro before later after hsplit known hknown
  by_cases hname : place.1 = later.1
  · -- the head is now the first place of the name, so both values are compared with it
    obtain ⟨front, back, rfl, -⟩ := List.lookup_eq_some_iff.mp hknown
    have hfirst : (place.2 == known) = true :=
      h.head (later.1, known) (by simp [hsplit]) hname
    have hsecond : (place.2 == later.2) = true := h.head later (by simp [hsplit]) hname
    exact BEq.trans (BEq.symm hfirst) hsecond
  · refine h (place :: before) later after (by rw [hsplit, List.cons_append]) known ?_
    have hne : (later.1 == place.1) = false := beq_false_of_ne (Ne.symm hname)
    rwa [List.lookup_cons, hne]

/-- Comparing with the first places only is as good as comparing all pairs. -/
theorem agree_iff_pairwise {places : List (Place V)} :
    Agree places ↔ places.Pairwise Accord := by
  constructor
  · intro h
    induction places with
    | nil => exact List.Pairwise.nil
    | cons place rest ih => exact List.Pairwise.cons h.head (ih h.tail)
  · intro h before later after hsplit known hknown
    subst hsplit
    obtain ⟨front, back, rfl, -⟩ := List.lookup_eq_some_iff.mp hknown
    have hcross := (List.pairwise_append.mp h).2.2
    exact hcross (later.1, known) (by simp) later (by simp) rfl

/-- Two lists in accord are in accord with one another as soon as their first places are. -/
theorem pairwise_append_iff_firsts {before after : List (Place V)}
    (hbefore : before.Pairwise Accord) (hafter : after.Pairwise Accord) :
    (before ++ after).Pairwise Accord ↔ (firsts before ++ firsts after).Pairwise Accord := by
  constructor
  · intro h
    exact h.sublist ((firsts_sublist before).append (firsts_sublist after))
  · intro h
    refine List.pairwise_append.mpr ⟨hbefore, hafter, ?_⟩
    intro left hleft right hright hname
    have hcross := (List.pairwise_append.mp h).2.2
    obtain ⟨first, hfirst, hfname, hfvalue⟩ := exists_first_accord hbefore hleft
    obtain ⟨second, hsecond, hsname, hsvalue⟩ := exists_first_accord hafter hright
    have hmiddle : (first.2 == second.2) = true :=
      hcross first hfirst second hsecond (hfname.trans (hname.trans hsname.symm))
    have hstart : (left.2 == second.2) = true := by
      rcases hfvalue with rfl | hfvalue
      · exact hmiddle
      · exact BEq.trans (BEq.symm hfvalue) hmiddle
    rcases hsvalue with rfl | hsvalue
    · exact hstart
    · exact BEq.trans hstart hsvalue

end GuardedRules.Place
