import GuardedRules.Pattern.Variation
import GuardedRules.Proofs.MatchedPlaces
import GuardedRules.Proofs.ValueEquality
import GuardedRules.Value.Pattern

/-!
# Patterns with parts replaced by wildcards

A wildcard takes every subject and passes no place, so a weakened pattern passes some of the
places of the pattern, in their order. Places that are left out of a list in accord leave one in
accord. What may change is which place of a name comes first, and with it the value that is kept
and where the name stands among the others; the value stays equal.
-/

namespace GuardedRules

variable {σ V : Type}

/-- A steady extractor gives its answer from every journal. -/
theorem Extractor.IsSteady.exists_run_eq {extract : Extractor σ V} (h : extract.IsSteady)
    {subject : V} {answer : Option (List V)} {journal left : Journal σ}
    (hrun : (extract subject).run journal = (answer, left)) (other : Journal σ) :
    ∃ reached, (extract subject).run other = (answer, reached) := by
  have hanswer : ((extract subject).run other).1 = answer := by
    rw [h subject other journal, hrun]
  exact ⟨((extract subject).run other).2, Prod.ext hanswer rfl⟩

namespace Pattern

variable [BEq V]

mutual

/-- The extractors that are left are asked from other journals, since some no longer run. -/
theorem OccursFrom.weaken {p weaker : Pattern σ V} {subject : V} {places : List (Place V)}
    {journal left : Journal σ} (other : Journal σ) :
    p.Weakens weaker → weaker.EveryExtractor Extractor.IsSteady →
      p.OccursFrom subject journal places left →
      ∃ kept reached, weaker.OccursFrom subject other kept reached ∧ kept.Sublist places
  | .wildcard _, _, _ => ⟨[], other, .wildcard subject other, List.nil_sublist places⟩
  | .var name, _, .var _ _ _ => ⟨_, other, .var name subject other, List.Sublist.refl _⟩
  | .equality _, _, .equality _ hequal =>
    ⟨[], other, .equality other hequal, List.Sublist.refl _⟩
  | .aliased hinner, hsteady, .aliased hplaces => by
    obtain ⟨kept, reached, hkept, hsublist⟩ := OccursFrom.weaken other hinner hsteady hplaces
    exact ⟨_, reached, .aliased hkept, hsublist.cons_cons _⟩
  | .constructor hchildren, hsteady, .constructor hextract hplaces => by
    obtain ⟨middle, hother⟩ := hsteady.1.exists_run_eq hextract other
    obtain ⟨kept, reached, hkept, hsublist⟩ :=
      OccurInTurn.weaken middle hchildren hsteady.2 hplaces
    exact ⟨kept, reached, .constructor hother hkept, hsublist⟩

theorem OccurInTurn.weaken {children weaker : List (Pattern σ V)} {values : List V}
    {places : List (Place V)} {journal left : Journal σ} (other : Journal σ) :
    WeakensIn children weaker → EveryExtractorIn Extractor.IsSteady weaker →
      OccurInTurn children values journal places left →
      ∃ kept reached, OccurInTurn weaker values other kept reached ∧ kept.Sublist places
  | .nil, _, .nil _ => ⟨[], other, .nil other, List.Sublist.refl _⟩
  | .cons hchild hrest, hsteady, .cons hplaces hlater => by
    obtain ⟨first, middle, hfirst, hown⟩ := OccursFrom.weaken other hchild hsteady.1 hplaces
    obtain ⟨others, reached, hothers, hsublist⟩ :=
      OccurInTurn.weaken middle hrest hsteady.2 hlater
    exact ⟨first ++ others, reached, .cons hfirst hothers, hown.append hsublist⟩

end

/-- Replacing parts of a pattern by wildcards keeps its matches. If the answers of the extractors
that are left do not depend on the journal, the weakened pattern matches what the pattern matches,
from whatever journals the two start. It binds its own variables, and each of them has the value
that the pattern gives it, or an equal one. -/
theorem weakens_matches {p weaker : Pattern σ Value} (hweakens : p.Weakens weaker)
    (hsteady : weaker.EveryExtractor Extractor.IsSteady) {subject : Value} {b : Bindings Value}
    {journal : Journal σ} (h : ((p.matchSubject subject).runFrom journal).1 = .ok (some b))
    (other : Journal σ) :
    ∃ weakened, ((weaker.matchSubject subject).runFrom other).1 = .ok (some weakened) ∧
      weakened.names = weaker.variableNames ∧
      ∀ name ∈ weaker.variableNames, ∃ value kept,
        weakened.get? name = some value ∧ b.get? name = some kept ∧ SameOrEqual value kept := by
  obtain ⟨places, hplaces, hb⟩ := (p.collectsFrom subject journal b _).mp (Prod.ext h rfl)
  obtain ⟨kept, reached, hkept, hsublist⟩ := hplaces.weaken other hweakens hsteady
  obtain ⟨weakened, hweakened⟩ := Bindings.exists_collects (hb.accord.sublist hsublist)
  have hrun := (weaker.collectsFrom subject other weakened reached).mpr ⟨kept, hkept, hweakened⟩
  have hmatch := congrArg Prod.fst hrun
  have hnames := weaker.names_of_match subject other weakened hmatch
  refine ⟨weakened, hmatch, hnames.trans (collectVariables_eq_foldl weaker []).symm, ?_⟩
  intro name hname
  obtain ⟨value, hvalue⟩ := exists_get?_of_match hmatch hname
  have hplace : (name, value) ∈ places := hsublist.subset (hweakened.mem_of_get? hvalue)
  obtain ⟨known, hknown, hsame⟩ := hb.exists_get?_of_mem hplace
  exact ⟨value, known, hvalue, hknown, hsame.symm⟩

/-- Without its first component the tuple binds `x` after `y`, and to the zero of the other
sign. -/
theorem weakens_matches_signed_zeros :
    let zero := Value.float ⟨0⟩
    let minusZero := Value.float ⟨0x8000000000000000⟩
    let p : Pattern Unit Value := Value.tuplePattern [.var "x", .aliased "y" (.var "x")]
    let weaker : Pattern Unit Value :=
      Value.tuplePattern [.wildcard, .aliased "y" (.var "x")]
    p.Weakens weaker ∧ weaker.EveryExtractor Extractor.IsSteady ∧
      ((p.matchSubject (.tuple [zero, minusZero])).runFrom ⟨(), #[]⟩).1 =
        .ok (some ⟨[("x", zero), ("y", minusZero)], by decide⟩) ∧
      ∃ weakened, ((weaker.matchSubject (.tuple [zero, minusZero])).runFrom ⟨(), #[]⟩).1 =
          .ok (some weakened) ∧ weakened.names = ["y", "x"] ∧
        ∃ value, weakened.get? "x" = some value ∧ SameOrEqual value zero := by
  intro zero minusZero p weaker
  have hweakens : p.Weakens weaker :=
    .constructor (.cons (.wildcard _) (.cons (.aliased (.var "x")) .nil))
  have hsteady : weaker.EveryExtractor Extractor.IsSteady :=
    ⟨fun _ _ _ => rfl, trivial, trivial, trivial⟩
  have hmatch : ((p.matchSubject (.tuple [zero, minusZero])).runFrom ⟨(), #[]⟩).1 =
      .ok (some ⟨[("x", zero), ("y", minusZero)], by decide⟩) := rfl
  obtain ⟨weakened, hrun, hnames, hvalues⟩ :=
    weakens_matches hweakens hsteady hmatch ⟨(), #[]⟩
  obtain ⟨value, kept, hvalue, hkept, hsame⟩ := hvalues "x" (by decide)
  obtain rfl : zero = kept := Option.some.inj hkept
  exact ⟨hweakens, hsteady, hmatch, weakened, hrun, hnames, value, hvalue, hsame⟩

end Pattern

end GuardedRules
