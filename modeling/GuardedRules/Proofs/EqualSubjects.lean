import GuardedRules.Proofs.Instances
import GuardedRules.Proofs.Lockstep

/-!
# Equal subjects are matched alike

Equal values may differ in the signs of zeros at any depth, so two matches of one pattern on
equal subjects bind different values and compare different values whenever a name is merged.
They still go in lockstep: what the two sides hold at corresponding places is equal, and for a
symmetric and transitive equality every test then comes out the same on both sides.
-/

namespace GuardedRules

variable {σ V : Type}

section Equality

variable {α : Type} [BEq α]

/-- A test of two values has the outcome of the same test on values equal to these. -/
theorem beq_eq_of_beq [PartialEquivBEq α] {a b c d : α} (hac : (a == c) = true)
    (hbd : (b == d) = true) : (a == b) = (c == d) :=
  (BEq.congr_left hac).trans (BEq.congr_right hbd)

theorem append_beq_append {as bs cs ds : List α} (h : (as == bs) = true)
    (hlater : (cs == ds) = true) : (as ++ cs == bs ++ ds) = true := by
  induction as generalizing bs with
  | nil =>
    cases bs with
    | nil => exact hlater
    | cons => cases h
  | cons a as ih =>
    cases bs with
    | nil => cases h
    | cons b bs =>
      rw [List.cons_beq_cons, Bool.and_eq_true] at h
      rw [List.cons_append, List.cons_append, List.cons_beq_cons, Bool.and_eq_true]
      exact ⟨h.1, ih h.2⟩

theorem singleton_beq_singleton {a b : α} (h : (a == b) = true) : ([a] == [b]) = true := by
  rw [List.cons_beq_cons, Bool.and_eq_true]
  exact ⟨h, rfl⟩

end Equality

/-- Equal entries have one name and equal values. -/
theorem entry_beq_iff [BEq V] {entry other : String × V} :
    (entry == other) = true ↔ entry.1 = other.1 ∧ (entry.2 == other.2) = true := by
  show (entry.1 == other.1 && entry.2 == other.2) = true ↔ _
  rw [Bool.and_eq_true, beq_iff_eq]

namespace Bindings

variable [BEq V]

/-- The same names in the same order, with values that are equal one by one. -/
def Alike (l r : Bindings V) : Prop := (l.entries == r.entries) = true

theorem singleton_alike (name : String) {value other : V} (h : (value == other) = true) :
    (singleton name value).Alike (singleton name other) :=
  singleton_beq_singleton (entry_beq_iff.mpr ⟨rfl, h⟩)

theorem lookup_beq_lookup {entries others : List (String × V)} (h : (entries == others) = true)
    (name : String) : (entries.lookup name == others.lookup name) = true := by
  induction entries generalizing others with
  | nil =>
    cases others with
    | nil => rfl
    | cons => cases h
  | cons entry entries ih =>
    cases others with
    | nil => cases h
    | cons other others =>
      rw [List.cons_beq_cons, Bool.and_eq_true, entry_beq_iff] at h
      obtain ⟨⟨hname, hvalue⟩, hrest⟩ := h
      rw [List.lookup_cons, List.lookup_cons, hname]
      cases name == other.1 with
      | true => exact hvalue
      | false => exact ih hrest

/-- Adding equal entries to environments that are alike keeps them alike, or both are refused. -/
theorem insertAgreeing_agree [PartialEquivBEq V] {l r : Bindings V} (h : l.Alike r)
    {entry other : String × V} (hentry : (entry == other) = true) :
    OutcomesAgree Alike (l.insertAgreeing entry) (r.insertAgreeing other) := by
  obtain ⟨hname, hvalue⟩ := entry_beq_iff.mp hentry
  have hlookup : (l.get? entry.1 == r.get? other.1) = true := by
    rw [← hname]
    exact lookup_beq_lookup h entry.1
  rcases hl : l.get? entry.1 with _ | known
  · rcases hr : r.get? other.1 with _ | found
    · rw [insertAgreeing_of_none hl, insertAgreeing_of_none hr]
      exact .ok (append_beq_append h (singleton_beq_singleton hentry))
    · rw [hl, hr] at hlookup
      cases hlookup
  · rcases hr : r.get? other.1 with _ | found
    · rw [hl, hr] at hlookup
      cases hlookup
    · rw [hl, hr, Option.some_beq_some] at hlookup
      rw [insertAgreeing_of_some hl, insertAgreeing_of_some hr, beq_eq_of_beq hlookup hvalue, hname]
      by_cases hsame : (found == other.2) = true
      · rw [if_pos hsame, if_pos hsame]
        exact .ok h
      · rw [if_neg hsame, if_neg hsame]
        exact .error _

/-- Merges of environments that are alike have results that are alike, or one conflict. -/
theorem merge_agree [PartialEquivBEq V] {l r found other : Bindings V} (h : l.Alike r)
    (hfound : found.Alike other) : OutcomesAgree Alike (l.merge found) (r.merge other) := by
  rw [Alike] at hfound
  rw [merge, merge]
  generalize found.entries = entries at hfound ⊢
  generalize other.entries = others at hfound ⊢
  induction entries generalizing others l r with
  | nil =>
    cases others with
    | nil => exact .ok h
    | cons => cases hfound
  | cons entry entries ih =>
    cases others with
    | nil => cases hfound
    | cons second others =>
      rw [List.cons_beq_cons, Bool.and_eq_true] at hfound
      rw [List.foldlM_cons, List.foldlM_cons]
      exact (insertAgreeing_agree h hfound.1).bind fun _ _ hstep => ih hstep others hfound.2

end Bindings

/-- The extractor puts nothing on record and treats equal subjects alike. -/
def Extractor.IsIndifferent [BEq V] (extract : Extractor σ V) : Prop :=
  extract.IsQuiet ∧ extract.RespectsEquality

namespace Pattern

variable [BEq V] [PartialEquivBEq V]

/-- Matches on equal subjects go in lockstep. -/
def MatchesEqualsAlike (p : Pattern σ V) : Prop :=
  ∀ subject other : V, (subject == other) = true →
    (p.matchSubject subject).Lockstep (Option.Rel Bindings.Alike) (p.matchSubject other)

theorem components_lockstep {children : List (Pattern σ V)}
    (hchildren : ∀ child ∈ children, child.MatchesEqualsAlike) (name : String)
    {found other : Bindings V} (hfound : found.Alike other) {values others : List V}
    (hvalues : (values == others) = true) :
    (matchComponents name found children values).Lockstep (Option.Rel Bindings.Alike)
      (matchComponents name other children others) := by
  induction children generalizing found other values others with
  | nil => exact Attempt.lockstep_pure (.some hfound)
  | cons child rest ih =>
    rcases values with _ | ⟨value, values⟩
    · rcases others with _ | ⟨second, others⟩
      · exact Attempt.lockstep_pure (.some hfound)
      · cases hvalues
    · rcases others with _ | ⟨second, others⟩
      · cases hvalues
      · rw [List.cons_beq_cons, Bool.and_eq_true] at hvalues
        have hchild := hchildren child List.mem_cons_self value second hvalues.1
        have hrest := fun other hmem => hchildren other (List.mem_cons_of_mem child hmem)
        rw [matchComponents, matchComponents]
        refine hchild.bind ?_
        intro matched result hmatched
        cases hmatched with
        | none => exact Attempt.lockstep_pure .none
        | some hbindings =>
          have hmerge := Bindings.merge_agree hfound hbindings
          dsimp only
          generalize found.merge _ = first at hmerge ⊢
          generalize other.merge _ = joined at hmerge ⊢
          cases hmerge with
          | error conflict => exact Attempt.lockstep_record_bind _ (Attempt.lockstep_pure .none)
          | ok hmerged => exact ih hrest hmerged hvalues.2

/-- With extractors that cannot tell equal subjects apart, no pattern can. -/
theorem matchesEqualsAlike_of_indifferent (p : Pattern σ V)
    (hp : p.EveryExtractor Extractor.IsIndifferent) : p.MatchesEqualsAlike := by
  induction p using Pattern.induction with
  | var name =>
    intro subject other hsubject
    exact Attempt.lockstep_pure (.some (Bindings.singleton_alike name hsubject))
  | wildcard =>
    intro subject other _
    exact Attempt.lockstep_pure (.some rfl)
  | equality value =>
    intro subject other hsubject
    have hsame : (subject == value) = (other == value) := BEq.congr_left hsubject
    rw [matchSubject, matchSubject, hsame]
    by_cases hequal : (other == value) = true
    · rw [if_pos hequal]
      exact Attempt.lockstep_pure (.some rfl)
    · rw [if_neg hequal]
      exact Attempt.lockstep_record_bind _ (Attempt.lockstep_pure .none)
  | aliased name inner ih =>
    intro subject other hsubject
    have hown := Bindings.singleton_alike name hsubject
    rw [matchSubject, matchSubject]
    refine (ih hp subject other hsubject).bind ?_
    intro matched result hmatched
    cases hmatched with
    | none => exact Attempt.lockstep_pure .none
    | some hfound =>
      have hmerge := Bindings.merge_agree hown hfound
      dsimp only
      generalize (Bindings.singleton name subject).merge _ = first at hmerge ⊢
      generalize (Bindings.singleton name other).merge _ = second at hmerge ⊢
      cases hmerge with
      | error conflict => exact Attempt.lockstep_record_bind _ (Attempt.lockstep_pure .none)
      | ok hmerged => exact Attempt.lockstep_pure (.some hmerged)
  | constructor name children extract ih =>
    intro subject other hsubject
    have hchildren := fun child hmem => ih child hmem (everyExtractorIn_iff.mp hp.2 child hmem)
    obtain ⟨hquiet, hrespects⟩ := hp.1
    have hextract : Attempt.Lockstep (fun found others => (found == others) = true)
        (liftM (extract subject) : Attempt MatchError σ _) (liftM (extract other)) :=
      Attempt.lockstep_lift (hquiet subject) (hquiet other) (hrespects subject other hsubject)
    rw [matchSubject, matchSubject]
    refine hextract.bind ?_
    intro found others hfound
    rcases found with _ | values
    · rcases others with _ | others
      · exact Attempt.lockstep_record_bind _ (Attempt.lockstep_pure .none)
      · cases hfound
    · rcases others with _ | others
      · cases hfound
      · rw [Option.some_beq_some] at hfound
        have hlengths : values.length = others.length := List.length_eq_of_beq hfound
        dsimp only
        rw [hlengths]
        by_cases hlength : others.length = children.length
        · rw [if_pos hlength, if_pos hlength]
          exact components_lockstep hchildren name (rfl : Bindings.Alike .empty .empty) hfound
        · rw [if_neg hlength, if_neg hlength]
          exact Attempt.lockstep_throw _

end Pattern

theorem Value.eqAll_eq_beq (items others : List Value) :
    eqAll items others = (items == others) := by
  induction items generalizing others with
  | nil => cases others <;> rfl
  | cons item items ih =>
    cases others with
    | nil => rfl
    | cons other others =>
      rw [eqAll, ih, List.cons_beq_cons]
      rfl

/-- For an answer to respect equality it is enough that components are found for every subject
that equals one with components, since equality goes both ways. -/
theorem Extractor.indifferent_of_some [BEq V] [PartialEquivBEq V] {answer : V → Option (List V)}
    (h : ∀ subject other values, (subject == other) = true → answer subject = some values →
      ∃ others, answer other = some others ∧ (values == others) = true) :
    (ofFunction (σ := σ) answer).IsIndifferent := by
  refine ⟨IsPure.isQuiet ⟨answer, rfl⟩, respectsEquality_ofFunction ?_⟩
  intro subject other hsubject
  rcases hanswer : answer subject with _ | values
  · rcases hother : answer other with _ | others
    · rfl
    · obtain ⟨values, hvalues, -⟩ := h other subject others (BEq.symm hsubject) hother
      rw [hvalues] at hanswer
      cases hanswer
  · obtain ⟨others, hothers, hequal⟩ := h subject other values hsubject hanswer
    rw [hothers, Option.some_beq_some]
    exact hequal

theorem Variant.extract_indifferent (tag : String) :
    (Extractor.ofFunction (σ := σ) (extract tag)).IsIndifferent := by
  refine Extractor.indifferent_of_some ?_
  intro subject other fields hsubject hfields
  obtain rfl := extract_eq_some_iff.mp hfields
  obtain ⟨others, rfl, hothers⟩ := Value.data_beq_iff.mp hsubject
  rw [Value.eqAll_eq_beq] at hothers
  exact ⟨others, extract_eq_some_iff.mpr rfl, hothers⟩

theorem Value.extractTuple_indifferent (length : Nat) :
    (Extractor.ofFunction (σ := σ) (extractTuple length)).IsIndifferent := by
  refine Extractor.indifferent_of_some ?_
  intro subject other items hsubject hitems
  obtain ⟨rfl, hlength⟩ := extractTuple_eq_some_iff.mp hitems
  obtain ⟨others, rfl, hothers⟩ := tuple_beq_iff.mp hsubject
  rw [eqAll_eq_beq] at hothers
  have hsame : items.length = others.length := List.length_eq_of_beq hothers
  exact ⟨others, extractTuple_eq_some_iff.mpr ⟨rfl, hsame.symm.trans hlength⟩, hothers⟩

namespace Pattern

/-- Variant and tuple patterns, and so those of lists, cannot tell equal subjects apart if their
sub-patterns cannot. A pattern of which this is true has the same outcome on equal subjects, with
the same names bound in the same order to equal values, and the same events. -/
theorem equal_subjects_match_alike :
    (∀ (v : Variant) (children : List (Pattern σ Value)),
      EveryExtractorIn Extractor.IsIndifferent children →
        (v.pattern children).EveryExtractor Extractor.IsIndifferent) ∧
    (∀ children : List (Pattern σ Value), EveryExtractorIn Extractor.IsIndifferent children →
      (Value.tuplePattern children).EveryExtractor Extractor.IsIndifferent) ∧
    ∀ p : Pattern σ Value, p.EveryExtractor Extractor.IsIndifferent →
      ∀ subject other : Value, (subject == other) = true →
        (p.matchSubject subject).Lockstep (Option.Rel Bindings.Alike) (p.matchSubject other) := by
  refine ⟨?_, ?_, matchesEqualsAlike_of_indifferent⟩
  · intro v children hchildren
    exact ⟨Variant.extract_indifferent v.tag, hchildren⟩
  · intro children hchildren
    exact ⟨Value.extractTuple_indifferent children.length, hchildren⟩

/-- Two pairs of zeros with the signs exchanged, matched from different journals by a pattern with
one name in two places and an extractor that counts its calls. The signs of the zeros that are
bound differ. -/
theorem equal_subjects_match_alike_signed_zeros :
    let zero := Value.float ⟨0⟩
    let minusZero := Value.float ⟨0x8000000000000000⟩
    let counted : Extractor Nat Value := fun value => do
      modify fun journal => { journal with state := journal.state + 1 }
      return some [value]
    let p := Value.tuplePattern [.var "x", .constructor "counted" [.var "x"] counted]
    let first := (p.matchSubject (.tuple [zero, minusZero])).runFrom ⟨0, #[]⟩
    let second := (p.matchSubject (.tuple [minusZero, zero])).runFrom ⟨7, #[]⟩
    p.EveryExtractor Extractor.IsIndifferent ∧
      (Value.tuple [zero, minusZero] == .tuple [minusZero, zero]) = true ∧
      first.1 = .ok (some ⟨[("x", zero)], by decide⟩) ∧
      second.1 = .ok (some ⟨[("x", minusZero)], by decide⟩) ∧
      OutcomesAgree (Option.Rel Bindings.Alike) first.1 second.1 := by
  intro zero minusZero counted p first second
  have hcounted : counted.IsIndifferent := by
    refine ⟨fun _ _ => rfl, ?_⟩
    intro value other hvalue _ _
    show (some [value] == some [other]) = true
    rw [Option.some_beq_some]
    exact singleton_beq_singleton hvalue
  have hp : p.EveryExtractor Extractor.IsIndifferent :=
    equal_subjects_match_alike.2.1 _ ⟨trivial, ⟨hcounted, trivial, trivial⟩, trivial⟩
  have hequal : (Value.tuple [zero, minusZero] == .tuple [minusZero, zero]) = true := by decide
  obtain ⟨_, -, -, hagree⟩ := equal_subjects_match_alike.2.2 p hp _ _ hequal ⟨0, #[]⟩ ⟨7, #[]⟩
  exact ⟨hp, hequal, rfl, rfl, hagree⟩

end Pattern

end GuardedRules
