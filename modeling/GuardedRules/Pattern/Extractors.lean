import GuardedRules.Pattern

/-!
# What is known about extractors

A pattern may contain any extractors. The conditions here single out those that only
look at their subject, those that put nothing on record, those whose answers do not
depend on the journal, and those that cannot tell equal subjects apart;
`EveryExtractor` carries a condition through a whole pattern.
-/

namespace GuardedRules

variable {σ V : Type}

namespace Extractor

/-- The extractor that answers by a function and leaves the journal alone. -/
def ofFunction (answer : V → Option (List V)) : Extractor σ V := fun subject => pure (answer subject)

/-- The extractor only looks at its subject. -/
def IsPure (extract : Extractor σ V) : Prop := ∃ answer, extract = ofFunction answer

/-- The extractor may use the caller's state but puts no event on record. -/
def IsQuiet (extract : Extractor σ V) : Prop :=
  ∀ subject journal, ((extract subject).run journal).2.events = journal.events

/-- The extractor may write to the journal, but what it answers does not depend on it. -/
def IsSteady (extract : Extractor σ V) : Prop :=
  ∀ subject first second, ((extract subject).run first).1 = ((extract subject).run second).1

/-- The extractor treats equal subjects alike, from whatever journals: both are declined, or
they have equally many components and these are equal one by one. -/
def RespectsEquality [BEq V] (extract : Extractor σ V) : Prop :=
  ∀ first second : V, (first == second) = true → ∀ journal other,
    (((extract first).run journal).1 == ((extract second).run other).1) = true

theorem IsPure.isQuiet {extract : Extractor σ V} (h : extract.IsPure) : extract.IsQuiet := by
  obtain ⟨answer, rfl⟩ := h
  exact fun _ _ => rfl

theorem IsPure.isSteady {extract : Extractor σ V} (h : extract.IsPure) : extract.IsSteady := by
  obtain ⟨answer, rfl⟩ := h
  exact fun _ _ _ => rfl

theorem respectsEquality_ofFunction [BEq V] {answer : V → Option (List V)}
    (h : ∀ first second : V, (first == second) = true → (answer first == answer second) = true) :
    (ofFunction (σ := σ) answer).RespectsEquality :=
  fun first second hequal _ _ => h first second hequal

end Extractor

namespace Pattern

mutual

/-- Every extractor within the pattern meets a condition. -/
def EveryExtractor (condition : Extractor σ V → Prop) : Pattern σ V → Prop
  | .constructor _ children extract => condition extract ∧ EveryExtractorIn condition children
  | .var _ => True
  | .wildcard => True
  | .aliased _ inner => EveryExtractor condition inner
  | .equality _ => True

def EveryExtractorIn (condition : Extractor σ V → Prop) : List (Pattern σ V) → Prop
  | [] => True
  | child :: rest => EveryExtractor condition child ∧ EveryExtractorIn condition rest

end

theorem everyExtractorIn_iff {condition : Extractor σ V → Prop} {children : List (Pattern σ V)} :
    EveryExtractorIn condition children ↔ ∀ child ∈ children, child.EveryExtractor condition := by
  induction children with
  | nil => simp [EveryExtractorIn]
  | cons child rest ih => simp [EveryExtractorIn, ih]

/-- A stronger condition on the extractors carries over to a weaker one. -/
theorem EveryExtractor.imp {weaker stronger : Extractor σ V → Prop}
    (h : ∀ extract, stronger extract → weaker extract) {p : Pattern σ V}
    (hp : p.EveryExtractor stronger) : p.EveryExtractor weaker := by
  induction p using Pattern.induction with
  | constructor name children extract ih =>
    refine ⟨h extract hp.1, everyExtractorIn_iff.mpr ?_⟩
    intro child hmem
    exact ih child hmem (everyExtractorIn_iff.mp hp.2 child hmem)
  | var => trivial
  | wildcard => trivial
  | aliased name inner ih => exact ih hp
  | equality => trivial

end Pattern

end GuardedRules
