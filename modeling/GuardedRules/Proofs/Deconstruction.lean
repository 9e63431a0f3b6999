import GuardedRules.Proofs.Covering
import GuardedRules.Proofs.Declarations
import GuardedRules.Proofs.ListPatterns

/-!
# Taking apart what was put together

Constructing a value and matching it against the pattern of its variant are inverse to each other,
and so are building a list and reading its elements. A variant counts its fields when it
constructs, and its pattern counts its sub-patterns when it matches, so the two can differ and the
match then fails. Where they do not, the fields are matched as the items of a tuple are. What the
pattern turns down is what carries another tag, letter by letter.
-/

namespace GuardedRules

variable {σ V : Type}

namespace Pattern

/-- Under another name a constructor matches the same components alike, up to the name in the
report of unequal bindings. -/
theorem runFrom_components_of_names [BEq V] (name other : String) (found : Bindings V)
    (children : List (Pattern σ V)) (values : List V) (journal : Journal σ) :
    (matchComponents name found children values).runFrom journal =
        (matchComponents other found children values).runFrom journal ∨
      ∃ (left : Journal σ) (variableName : String),
        (matchComponents name found children values).runFrom journal =
          (.ok none, left.push (.unequalBindings name variableName)) ∧
        (matchComponents other found children values).runFrom journal =
          (.ok none, left.push (.unequalBindings other variableName)) := by
  induction children generalizing found values journal with
  | nil => exact .inl (by rw [matchComponents, matchComponents])
  | cons child children ih =>
    cases values with
    | nil => exact .inl (by rw [matchComponents, matchComponents])
    | cons value values =>
      rw [runFrom_components_cons, runFrom_components_cons]
      rcases (child.matchSubject value).runFrom journal with ⟨_ | _ | bindings, left⟩
      · exact .inl rfl
      · exact .inl rfl
      · rcases hmerge : found.merge bindings with conflict | merged
        · simp only [hmerge]
          exact .inr ⟨left, conflict.name, rfl, rfl⟩
        · simp only [hmerge]
          exact ih merged values left

/-- The pattern is a constructor whose extractor turns the subject down, so that no sub-pattern is
asked. -/
def ExtractorDeclines : Pattern σ V → V → Journal σ → Prop
  | .constructor _ _ extract, subject, journal => ((extract subject).run journal).1 = none
  | _, _, _ => False

end Pattern

namespace Variant

variable {variant : Variant} {value : Value}

theorem isInstance_eq_false_iff : variant.isInstance value = false ↔
    value.tag? ≠ some variant.tag :=
  beq_eq_false_iff_ne

theorem extractorDeclines_pattern_iff {children : List (Pattern σ Value)} {journal : Journal σ} :
    (variant.pattern children).ExtractorDeclines value journal ↔
      variant.isInstance value = false :=
  extract_eq_none_iff.trans isInstance_eq_false_iff.symm

/-- The fields of data are matched as the items of a tuple are, if there are as many of them as
sub-patterns. -/
theorem runFrom_pattern_eq_tuplePattern (variant : Variant) {children : List (Pattern σ Value)}
    {fields : List Value} (h : fields.length = children.length) (journal : Journal σ) :
    let data := ((variant.pattern children).matchSubject (.data variant.tag fields)).runFrom journal
    let tuple := ((Value.tuplePattern children).matchSubject (.tuple fields)).runFrom journal
    data.1 = tuple.1 ∧ data.2.state = tuple.2.state := by
  intro data tuple
  have hdata : data = (Pattern.matchComponents (Text.lowercase variant.tag) .empty children
      fields).runFrom journal :=
    (runFrom_pattern_data variant children fields journal).trans (if_pos h)
  have htuple : tuple = (Pattern.matchComponents "tuple" .empty children fields).runFrom journal :=
    (Value.runFrom_tuplePattern children fields journal).trans (if_pos h)
  rcases Pattern.runFrom_components_of_names (Text.lowercase variant.tag) "tuple" .empty children
    fields journal with hsame | ⟨left, variableName, hleft, hright⟩
  · rw [hdata, htuple, hsame]
    exact ⟨rfl, rfl⟩
  · rw [hdata, htuple, hleft, hright]
    -- Projects first, so that the two names are not compared with each other.
    dsimp only [Journal.push]
    exact ⟨rfl, rfl⟩

/-- What a variant makes of these fields, and what its pattern with these sub-patterns and the
patterns of other variants make of that. -/
structure Deconstructs (variant : Variant) (children : List (Pattern σ Value))
    (fields : List Value) (journal : Journal σ) : Prop where
  constructs_iff : ∀ value, variant.construct fields = .ok value ↔
    fields.length = variant.arity ∧ value = .data variant.tag fields
  refuses : fields.length ≠ variant.arity →
    variant.construct fields = .error (.wrongFieldCount variant.tag variant.arity fields.length)
  /-- As many sub-patterns as fields are matched as in a tuple, whatever they come to. -/
  fits : ∀ value, variant.construct fields = .ok value → children.length = fields.length →
    let data := ((variant.pattern children).matchSubject value).runFrom journal
    let tuple := ((Value.tuplePattern children).matchSubject (.tuple fields)).runFrom journal
    data.1 = tuple.1 ∧ data.2.state = tuple.2.state
  misfits : ∀ value, variant.construct fields = .ok value → children.length ≠ fields.length →
    ((variant.pattern children).matchSubject value).runFrom journal =
      (.error (.arityMismatch (Text.lowercase variant.tag) children.length fields.length), journal)
  declines_iff : ∀ value, (variant.pattern children).ExtractorDeclines value journal ↔
    variant.isInstance value = false
  declines : ∀ value, variant.isInstance value = false →
    ((variant.pattern children).matchSubject value).runFrom journal =
      (.ok none, journal.push (.extractorDeclined (Text.lowercase variant.tag)))
  /-- Another tag is another variant, even if the two are the same in small letters. -/
  foreign : ∀ value, variant.construct fields = .ok value → ∀ other : Variant,
    other.tag ≠ variant.tag →
      (other.pattern children).ExtractorDeclines value journal ∧
      ((other.pattern children).matchSubject value).runFrom journal =
        (.ok none, journal.push (.extractorDeclined (Text.lowercase other.tag)))

/-- The pattern of a variant takes apart what the variant has constructed, and nothing that
another one has. -/
theorem pattern_undoes_construct (variant : Variant) (children : List (Pattern σ Value))
    (fields : List Value) (journal : Journal σ) :
    variant.Deconstructs children fields journal where
  constructs_iff := fun _ => construct_eq_ok_iff
  refuses := construct_of_length_ne
  fits := by
    intro value hvalue hlength
    obtain ⟨-, rfl⟩ := construct_eq_ok_iff.mp hvalue
    exact runFrom_pattern_eq_tuplePattern variant hlength.symm journal
  misfits := by
    intro value hvalue hlength
    obtain ⟨-, rfl⟩ := construct_eq_ok_iff.mp hvalue
    rw [runFrom_pattern_data, if_neg (Ne.symm hlength)]
  declines_iff := fun _ => extractorDeclines_pattern_iff
  declines := by
    intro value hvalue
    exact runFrom_pattern_of_ne (isInstance_eq_false_iff.mp hvalue) children journal
  foreign := by
    intro value hvalue other htag
    obtain ⟨-, rfl⟩ := construct_eq_ok_iff.mp hvalue
    have hother : (Value.data variant.tag fields).tag? ≠ some other.tag := by
      rw [Value.tag?, ne_eq, Option.some.injEq]
      exact Ne.symm htag
    exact ⟨extractorDeclines_pattern_iff.mpr (isInstance_eq_false_iff.mpr hother),
      runFrom_pattern_of_ne hother children journal⟩

/-- Two variants whose tags differ in the size of the letters only. -/
example : Text.lowercase "Some" = Text.lowercase "SOME" ∧
    Variant.isInstance ⟨"SOME", 1⟩ (.data "Some" [.unit]) = false := by
  decide

end Variant

namespace Value

/-- A list has the elements from which it was built, and what has elements is the list of them. So
no two values have the same elements, and what has none is not to be had from any. -/
theorem elements?_inverts_ofList :
    (∀ items, (ofList items).elements? = some items) ∧
    (∀ (v : Value) items, v.elements? = some items → v = ofList items) ∧
    (∀ (v other : Value) items, v.elements? = some items → other.elements? = some items →
      v = other) ∧
    ∀ v : Value, v.elements? = none ↔ ∀ items, v ≠ ofList items := by
  refine ⟨elements?_ofList, fun _ _ => eq_ofList_of_elements?, ?_, ?_⟩
  · intro v other items hv hother
    rw [eq_ofList_of_elements? hv, eq_ofList_of_elements? hother]
  · intro v
    rw [Option.eq_none_iff_forall_ne_some]
    exact forall_congr' fun _ => not_congr elements?_eq_some_iff

end Value

end GuardedRules
