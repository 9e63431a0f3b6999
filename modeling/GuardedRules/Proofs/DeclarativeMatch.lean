import GuardedRules.Proofs.Fitting
import GuardedRules.Proofs.MatchedPlaces
import GuardedRules.Proofs.ValueEquality
import GuardedRules.Value.Pattern

/-!
# What a match binds, said without merging

Matching merges the environments of sibling patterns at every level. Here the result is
read off the list of places instead: a pattern with pure extractors matches when it fits
its subject in shape and its places agree, and then it binds the first places. With pure
extractors the places that a match passes are those of the pattern in its subject, whatever
the journal is.
-/

namespace GuardedRules

variable {σ V : Type}

/-- What a pure extractor gives does not depend on the journal. -/
theorem Extractor.IsPure.gives_iff {extract : Extractor σ V} (h : extract.IsPure) {subject : V}
    {journal : Journal σ} {values : List V} :
    ((extract subject).run journal).1 = some values ↔ extract subject = pure (some values) := by
  obtain ⟨answer, rfl⟩ := h
  constructor
  · intro hgives
    have hanswer : answer subject = some values := hgives
    rw [Extractor.ofFunction, hanswer]
  · intro hpure
    rw [hpure]
    rfl

namespace Pattern

variable [BEq V]

/-- Matching the pattern gives exactly the environments that collect its places. -/
def CollectsPlaces (p : Pattern σ V) : Prop :=
  ∀ subject journal b, ((p.matchSubject subject).runFrom journal).1 = .ok (some b) ↔
    ∃ places, p.Occurs subject places ∧ b.Collects places

mutual

theorem Occurs.occursFrom {p : Pattern σ V} {subject : V} {places : List (Place V)}
    (journal : Journal σ) : p.Occurs subject places → p.OccursFrom subject journal places journal
  | .var name subject => .var name subject journal
  | .wildcard subject => .wildcard subject journal
  | .aliased hinner => .aliased (hinner.occursFrom journal)
  | .equality hequal => .equality journal hequal
  | .constructor hextract hplaces =>
    .constructor (congrFun hextract journal) (hplaces.occurInTurn journal)

theorem OccursIn.occurInTurn {children : List (Pattern σ V)} {values : List V}
    {places : List (Place V)} (journal : Journal σ) :
    OccursIn children values places → OccurInTurn children values journal places journal
  | .nil => .nil journal
  | .cons hplaces hlater => .cons (hplaces.occursFrom journal) (hlater.occurInTurn journal)

end

mutual

theorem OccursFrom.occurs {p : Pattern σ V} {subject : V} {places : List (Place V)}
    {journal left : Journal σ} :
    p.OccursFrom subject journal places left → p.EveryExtractor Extractor.IsPure →
      p.Occurs subject places
  | .var name subject _, _ => .var name subject
  | .wildcard subject _, _ => .wildcard subject
  | .aliased hinner, hp => .aliased (hinner.occurs hp)
  | .equality _ hequal, _ => .equality hequal
  | .constructor hextract hplaces, hp =>
    .constructor (hp.1.gives_iff.mp (congrArg Prod.fst hextract)) (hplaces.occursIn hp.2)

theorem OccurInTurn.occursIn {children : List (Pattern σ V)} {values : List V}
    {places : List (Place V)} {journal left : Journal σ} :
    OccurInTurn children values journal places left →
      EveryExtractorIn Extractor.IsPure children → OccursIn children values places
  | .nil _, _ => .nil
  | .cons hplaces hlater, hp => .cons (hplaces.occurs hp.1) (hlater.occursIn hp.2)

end

variable [PartialEquivBEq V]

/-- With pure extractors, matching collects the places of the pattern in its subject. -/
theorem collectsPlaces_of_pure (p : Pattern σ V) (hp : p.EveryExtractor Extractor.IsPure) :
    p.CollectsPlaces := by
  intro subject journal b
  constructor
  · intro h
    obtain ⟨places, hplaces, hb⟩ := (p.collectsFrom subject journal b _).mp (Prod.ext h rfl)
    exact ⟨places, hplaces.occurs hp, hb⟩
  · intro h
    obtain ⟨places, hplaces, hb⟩ := h
    have hmatch := (p.collectsFrom subject journal b journal).mpr
      ⟨places, hplaces.occursFrom journal, hb⟩
    exact congrArg Prod.fst hmatch

/-- A pattern with pure extractors has at most one list of places in a value. It matches
exactly when there is one and its places agree, and then it binds the first of them. -/
theorem matches_iff_places_agree (p : Pattern σ Value) (hp : p.EveryExtractor Extractor.IsPure)
    (subject : Value) (journal : Journal σ) :
    (∀ places others, p.Occurs subject places → p.Occurs subject others → places = others) ∧
    ∀ b, ((p.matchSubject subject).runFrom journal).1 = .ok (some b) ↔
      ∃ places, p.Occurs subject places ∧ Place.Agree places ∧
        b.entries = Place.firsts places := by
  refine ⟨fun _ _ h hother => h.unique journal hother, ?_⟩
  intro b
  rw [collectsPlaces_of_pure p hp subject journal b]
  constructor
  · intro h
    obtain ⟨places, hplaces, hb⟩ := h
    exact ⟨places, hplaces, Place.agree_iff_pairwise.mpr hb.accord, hb.entries_eq⟩
  · intro h
    obtain ⟨places, hplaces, hagree, hentries⟩ := h
    exact ⟨places, hplaces, Place.agree_iff_pairwise.mp hagree, hentries⟩

/-- Zeros of different signs agree; the value at the first place is the one that is kept. -/
theorem matches_iff_places_agree_signed_zeros :
    let zero := Value.float ⟨0⟩
    let minusZero := Value.float ⟨0x8000000000000000⟩
    let p : Pattern Unit Value := Value.tuplePattern [.var "x", .aliased "y" (.var "x")]
    p.EveryExtractor Extractor.IsPure ∧
      ((p.matchSubject (.tuple [zero, minusZero])).runFrom ⟨(), #[]⟩).1 =
        .ok (some ⟨[("x", zero), ("y", minusZero)], by decide⟩) := by
  intro zero minusZero p
  have hp : p.EveryExtractor Extractor.IsPure := ⟨⟨_, rfl⟩, trivial, trivial, trivial⟩
  refine ⟨hp, ((matches_iff_places_agree p hp _ _).2 _).mpr ?_⟩
  refine ⟨[("x", zero), ("y", minusZero), ("x", minusZero)], ?_, ?_, rfl⟩
  · exact .constructor rfl (.cons (.var "x" zero) (.cons (.aliased (.var "x" minusZero)) .nil))
  · exact Place.agree_iff_pairwise.mpr (by decide)

end Pattern

end GuardedRules
