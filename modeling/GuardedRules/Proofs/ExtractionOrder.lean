import GuardedRules.Pattern.Extractors
import GuardedRules.Proofs.Extractions
import GuardedRules.Proofs.PatternRuns

/-!
# The order of extraction

From the calls that a match makes one can read how far it has come and why it ended. The
constructors that were asked are the first ones of the pattern, and all of them if it has matched;
nothing is asked behind an extractor that declines or does not fit. Only a misfit makes a match
fail, and the error tells of that constructor.
-/

namespace GuardedRules

variable {σ V α : Type}

/-- A call of an extractor while a pattern is matched. Constructors are counted in the order in
which they are written. -/
structure Extraction (V : Type) where
  node : Nat
  values : Option (List V)

namespace Extraction

/-- The extractor gave another number of values than its constructor has sub-patterns, which
comes to this error. -/
def Misfits (nodes : List (String × Nat)) (call : Extraction V) (error : MatchError) : Prop :=
  ∃ name expected values, nodes[call.node]? = some (name, expected) ∧ call.values = some values ∧
    values.length ≠ expected ∧ error = .arityMismatch name expected values.length

/-- The extractor declined, or what it gave does not fit. -/
def Stops (nodes : List (String × Nat)) (call : Extraction V) : Prop :=
  call.values = none ∨ ∃ error, call.Misfits nodes error

theorem misfits_some_iff {nodes : List (String × Nat)} {number expected : Nat} {name : String}
    {values : List V} {error : MatchError} (h : nodes[number]? = some (name, expected)) :
    Misfits nodes ⟨number, some values⟩ error ↔
      values.length ≠ expected ∧ error = .arityMismatch name expected values.length := by
  constructor
  · rintro ⟨other, count, given, hnode, hgiven, hmisfit⟩
    cases Option.some.inj hgiven
    cases Option.some.inj (h.symm.trans hnode)
    exact hmisfit
  · exact fun hmisfit => ⟨name, expected, values, h, rfl, hmisfit⟩

theorem not_stops_of_fits {nodes : List (String × Nat)} {number : Nat} {name : String}
    {values : List V} (h : nodes[number]? = some (name, values.length)) :
    ¬ Stops nodes ⟨number, some values⟩ := by
  rintro (hnone | ⟨error, hmisfits⟩)
  · cases hnone
  · exact ((misfits_some_iff h).mp hmisfits).1 rfl

theorem eq_nil_of_single {only call : Extraction V} {before after : List (Extraction V)}
    (h : [only] = before ++ call :: after) : after = [] := by
  rcases List.append_eq_singleton_iff.mp h.symm with ⟨-, hlast⟩ | ⟨-, hlast⟩
  · exact (List.cons.inj hlast).2
  · cases hlast

end Extraction

namespace CallsInTurn

open Extraction

variable {nodes : List (String × Nat)} {number stop : Nat} {outcome : Except MatchError (Option α)}
  {calls : List (Extraction V)}

/-- The calls are of constructors in a row. -/
theorem nodes_eq (h : CallsInTurn Extraction.mk nodes number stop outcome calls) :
    calls.map node = List.range' number calls.length := by
  induction h with
  | done => rfl
  | leaves => rfl
  | fits _ _ ih => rw [List.map_cons, ih, List.length_cons, List.range'_succ]
  | declines => rfl
  | misfits => rfl

theorem length_le (h : CallsInTurn Extraction.mk nodes number stop outcome calls) :
    number + calls.length ≤ stop := by
  induction h with
  | done => exact Nat.le_refl _
  | leaves hle => exact hle
  | fits _ _ ih =>
    rw [List.length_cons]
    omega
  | declines hlt => exact hlt
  | misfits hlt => exact hlt

/-- A match that succeeds has asked them all. -/
theorem length_eq (h : CallsInTurn Extraction.mk nodes number stop outcome calls) {found : α}
    (hmatched : outcome = .ok (some found)) : number + calls.length = stop := by
  induction h with
  | done => rfl
  | leaves => cases hmatched
  | fits _ _ ih =>
    have hrest := ih hmatched
    rw [List.length_cons]
    omega
  | declines => cases hmatched
  | misfits => cases hmatched

theorem nothing_after (h : CallsInTurn Extraction.mk nodes number stop outcome calls)
    {before after : List (Extraction V)} {call : Extraction V}
    (hsplit : calls = before ++ call :: after) (hcall : call.Stops nodes) : after = [] := by
  induction h generalizing before with
  | done => simp at hsplit
  | leaves => simp at hsplit
  | fits hnode _ ih =>
    cases before with
    | nil =>
      obtain ⟨rfl, -⟩ := List.cons.inj hsplit
      exact absurd hcall (not_stops_of_fits hnode)
    | cons head rest => exact ih (List.cons.inj hsplit).2
  | declines => exact eq_nil_of_single hsplit
  | misfits => exact eq_nil_of_single hsplit

theorem fails_iff (h : CallsInTurn Extraction.mk nodes number stop outcome calls)
    {error : MatchError} :
    outcome = .error error ↔ ∃ call ∈ calls, call.Misfits nodes error := by
  induction h with
  | done => simp
  | leaves => simp
  | fits hnode _ ih =>
    have hfits := not_stops_of_fits hnode
    simp only [List.mem_cons, exists_eq_or_imp]
    rw [ih, or_iff_right fun hmisfits => hfits (.inr ⟨error, hmisfits⟩)]
  | declines => simp [Misfits]
  | misfits _ hnode hlength =>
    simp only [List.mem_singleton, exists_eq_left]
    rw [misfits_some_iff hnode, and_iff_right hlength, Except.error.injEq, eq_comm]

end CallsInTurn

namespace Pattern

variable [BEq V]

/-- An equality pattern is a constructor without sub-patterns whose extractor has no values for a
subject that equals the given one, and declines every other. -/
theorem matchSubject_equality (value subject : V) :
    (equality value : Pattern σ V).matchSubject subject =
      (constructor equalityName [] (.ofFunction fun other =>
        if other == value then some [] else none)).matchSubject subject := by
  apply Attempt.ext
  intro journal
  rw [runFrom_constructor, matchSubject]
  by_cases hequal : (subject == value) = true
  · simp only [Extractor.ofFunction, hequal, if_true]
    rfl
  · simp only [Extractor.ofFunction, hequal]
    rfl

/-- What the calls of extractors made by one match tell about the way it took and about its
outcome. -/
structure ExtractsInOrder (p : Pattern σ V) (outcome : Except MatchError (Option (Bindings V)))
    (calls : List (Extraction V)) : Prop where
  /-- Constructors are asked in the order in which they are written, each at most once, and none is
  left out in front of another. -/
  first_nodes : calls.map Extraction.node <+: List.range p.constructors.length
  all_of_matched : ∀ b, outcome = .ok (some b) →
    calls.map Extraction.node = List.range p.constructors.length
  last_of_stops : ∀ before call after, calls = before ++ call :: after →
    call.Stops p.constructors → after = []
  fails_iff : ∀ error, outcome = .error error ↔
    ∃ call ∈ calls, call.Misfits p.constructors error

/-- Whatever the extractors do, a match asks them in the order of their constructors up to the
first one that declines or does not fit, and it fails exactly on a misfit. An equality test never
fails. -/
theorem extracts_in_order (p : Pattern σ V) (subject : V) (journal : Journal σ) :
    (∃ calls,
      ((p.watch Extraction.mk 0).matchSubject subject).runFrom (journal.watched []) =
        (((p.matchSubject subject).runFrom journal).1,
          ((p.matchSubject subject).runFrom journal).2.watched calls) ∧
      p.ExtractsInOrder ((p.matchSubject subject).runFrom journal).1 calls) ∧
    ∀ value, ∃ matched,
      (((equality value : Pattern σ V).matchSubject subject).runFrom journal).1 = .ok matched := by
  constructor
  · have hextracts : p.ExtractsInTurn Extraction.mk p.constructors := p.extractsInTurn
    obtain ⟨calls, hturn, hrun⟩ := hextracts 0 (List.prefix_refl _) subject journal []
    rw [Nat.zero_add] at hturn
    have hnodes : calls.map Extraction.node = List.range calls.length := by
      rw [hturn.nodes_eq, List.range_eq_range']
    refine ⟨calls, hrun, ?_⟩
    exact {
      first_nodes := by
        have hlength := hturn.length_le
        rw [Nat.zero_add] at hlength
        rw [hnodes, List.prefix_iff_eq_take, List.length_range, List.take_range,
          Nat.min_eq_left hlength]
      all_of_matched := by
        intro b hmatched
        have hlength := hturn.length_eq hmatched
        rw [Nat.zero_add] at hlength
        rw [hnodes, hlength]
      last_of_stops := fun _ _ _ hsplit hcall => hturn.nothing_after hsplit hcall
      fails_iff := fun _ => hturn.fails_iff
    }
  · intro value
    rw [matchSubject_equality, runFrom_constructor]
    by_cases hequal : (subject == value) = true
    · simp only [Extractor.ofFunction, hequal, if_true]
      exact ⟨some .empty, rfl⟩
    · simp only [Extractor.ofFunction, hequal]
      exact ⟨none, rfl⟩

/-- The second sub-pattern is not asked when the first one has declined. -/
example :
    let never : Pattern Unit Nat := .constructor "never" [] fun _ => return none
    let twice : Pattern Unit Nat := .constructor "twice" [never, never] fun n => return some [n, n]
    let journal : Journal Unit := ⟨(), #[]⟩
    (((twice.watch Extraction.mk 0).matchSubject 7).runFrom (journal.watched [])).2.state.calls =
      [⟨0, some [7, 7]⟩, ⟨1, none⟩] := rfl

end Pattern

end GuardedRules
