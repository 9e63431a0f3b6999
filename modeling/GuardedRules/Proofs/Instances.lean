import GuardedRules.Proofs.BoundNames
import GuardedRules.Proofs.DeclarativeMatch
import GuardedRules.Value.Template

/-!
# Matching as the inverse of instantiation

A template without wildcards stands for a value as soon as its variables have values. An
assignment makes it stand for a subject exactly when it gives every place of the
template in the subject an equal value, so matching, which collects places, succeeds on
the instances and on nothing else. A NaN is the one thing in the way: no assignment
gives it an equal value.
-/

namespace GuardedRules

variable {σ : Type}

theorem Value.extractTuple_eq_some_iff {length : Nat} {subject : Value} {items : List Value} :
    extractTuple length subject = some items ↔ subject = tuple items ∧ items.length = length := by
  cases subject with
  | tuple found =>
    rw [extractTuple, Option.ite_none_right_eq_some, Option.some.injEq, tuple.injEq]
    constructor
    · intro h
      obtain ⟨hlength, rfl⟩ := h
      exact ⟨rfl, hlength⟩
    · intro h
      obtain ⟨rfl, hlength⟩ := h
      exact ⟨hlength, rfl⟩
  | _ => simp [extractTuple]

theorem Variant.extract_eq_some_iff {tag : String} {subject : Value} {fields : List Value} :
    extract tag subject = some fields ↔ subject = .data tag fields := by
  cases subject with
  | data found others =>
    rw [extract, Option.ite_none_right_eq_some, Option.some.injEq, Value.data.injEq]
  | _ => simp [extract]

theorem Variant.extract_eq_none_iff {tag : String} {subject : Value} :
    extract tag subject = none ↔ subject.tag? ≠ some tag := by
  cases subject <;> simp [extract, Value.tag?]

/-- The components of a tuple pattern are the items of a tuple of the right length. -/
theorem Value.tuplePattern_occurs_iff (journal : Journal σ) {children : List (Pattern σ Value)}
    {subject : Value} {places : List (Place Value)} :
    (tuplePattern children).Occurs subject places ↔
      ∃ items, subject = tuple items ∧ Pattern.OccursIn children items places := by
  rw [tuplePattern, Pattern.occurs_constructor_iff]
  constructor
  · intro h
    obtain ⟨items, hextract, hchildren⟩ := h
    have hgives := congrArg Prod.fst (congrFun hextract journal)
    exact ⟨items, (extractTuple_eq_some_iff.mp hgives).1, hchildren⟩
  · intro h
    obtain ⟨items, rfl, hchildren⟩ := h
    have hgives := extractTuple_eq_some_iff.mpr ⟨rfl, hchildren.length_eq⟩
    exact ⟨items, congrArg pure hgives, hchildren⟩

/-- The components of a variant pattern are the fields of data with its tag. -/
theorem Variant.pattern_occurs_iff (journal : Journal σ) {v : Variant}
    {children : List (Pattern σ Value)} {subject : Value} {places : List (Place Value)} :
    (v.pattern children).Occurs subject places ↔
      ∃ fields, subject = .data v.tag fields ∧ Pattern.OccursIn children fields places := by
  rw [pattern, Pattern.occurs_constructor_iff]
  constructor
  · intro h
    obtain ⟨fields, hextract, hchildren⟩ := h
    have hgives := congrArg Prod.fst (congrFun hextract journal)
    exact ⟨fields, extract_eq_some_iff.mp hgives, hchildren⟩
  · intro h
    obtain ⟨fields, rfl, hchildren⟩ := h
    exact ⟨fields, congrArg pure (extract_eq_some_iff.mpr rfl), hchildren⟩

/-- The assignment gives every place an equal value. -/
def Place.Fulfils (values : String → Value) (places : List (Place Value)) : Prop :=
  ∀ place ∈ places, (values place.1 == place.2) = true

namespace Template

theorem everyExtractorIn_toPatterns {condition : Extractor σ Value → Prop}
    {children : List Template}
    (h : ∀ child ∈ children, (child.toPattern (σ := σ)).EveryExtractor condition) :
    Pattern.EveryExtractorIn condition (toPatterns (σ := σ) children) := by
  induction children with
  | nil => trivial
  | cons child rest ih =>
    exact ⟨h child (by simp), ih fun other hmem => h other (List.mem_cons_of_mem child hmem)⟩

/-- The extractors of templates only look at their subject. -/
theorem toPattern_pure (t : Template) :
    (t.toPattern (σ := σ)).EveryExtractor Extractor.IsPure := by
  induction t using Template.induction with
  | tuple children ih => exact ⟨⟨_, rfl⟩, everyExtractorIn_toPatterns ih⟩
  | variant v children ih => exact ⟨⟨_, rfl⟩, everyExtractorIn_toPatterns ih⟩
  | aliased name inner ih => exact ih
  | wildcard => trivial
  | var => trivial
  | equality => trivial

theorem wildcardFreeAll_iff {children : List Template} :
    WildcardFreeAll children ↔ ∀ child ∈ children, child.WildcardFree := by
  induction children with
  | nil => simp [WildcardFreeAll]
  | cons child rest ih => simp [WildcardFreeAll, ih]

/-- The assignment makes the template stand for the subject, up to equality, and its aliases
for what they name. -/
def InstanceOf (values : String → Value) (t : Template) (subject : Value) : Prop :=
  (t.instantiate values == subject) = true ∧ t.AliasesHold values

theorem instances_iff_occur {values : String → Value} {children : List Template}
    (hchildren : ∀ child ∈ children, ∀ subject,
      InstanceOf values child subject ↔
        ∃ places, (child.toPattern (σ := σ)).Occurs subject places ∧ Place.Fulfils values places)
    {items : List Value} :
    Value.eqAll (instantiateAll values children) items = true ∧ AliasesHoldAll values children ↔
      ∃ places, Pattern.OccursIn (toPatterns (σ := σ) children) items places ∧
        Place.Fulfils values places := by
  induction children generalizing items with
  | nil =>
    rw [instantiateAll, Value.nil_eqAll_iff]
    constructor
    · intro h
      rw [h.1]
      exact ⟨[], .nil, by simp [Place.Fulfils]⟩
    · intro h
      obtain ⟨places, hplaces, -⟩ := h
      exact ⟨(Pattern.nil_occursIn_iff.mp hplaces).1, trivial⟩
  | cons child rest ih =>
    have hothers := fun other hmem => hchildren other (List.mem_cons_of_mem child hmem)
    rw [instantiateAll, Value.cons_eqAll_iff]
    constructor
    · intro h
      obtain ⟨⟨item, items, rfl, hhead, htail⟩, hown, hrest⟩ := h
      obtain ⟨places, hplaces, hfulfil⟩ := (hchildren child (by simp) item).mp ⟨hhead, hown⟩
      obtain ⟨later, hlater, hfulfilLater⟩ := (ih hothers).mp ⟨htail, hrest⟩
      refine ⟨places ++ later, .cons hplaces hlater, ?_⟩
      exact fun place hmem => (List.mem_append.mp hmem).elim (hfulfil place) (hfulfilLater place)
    · intro h
      obtain ⟨_, _ | ⟨hplaces, hlater⟩, hfulfil⟩ := h
      have hhead := (hchildren child (by simp) _).mpr
        ⟨_, hplaces, fun place hmem => hfulfil place (List.mem_append_left _ hmem)⟩
      have htail := (ih hothers).mpr
        ⟨_, hlater, fun place hmem => hfulfil place (List.mem_append_right _ hmem)⟩
      exact ⟨⟨_, _, rfl, hhead.1, htail.1⟩, hhead.2, htail.2⟩

/-- An assignment makes the template stand for the subject exactly when it gives every place
of the template in the subject an equal value. -/
theorem instance_iff_occurs (journal : Journal σ) {values : String → Value} {t : Template}
    (ht : t.WildcardFree) (subject : Value) :
    InstanceOf values t subject ↔
      ∃ places, (t.toPattern (σ := σ)).Occurs subject places ∧ Place.Fulfils values places := by
  induction t using Template.induction generalizing subject with
  | wildcard => exact ht.elim
  | var name =>
    constructor
    · intro h
      exact ⟨_, .var name subject, List.forall_mem_singleton.mpr h.1⟩
    · intro h
      obtain ⟨places, hplaces, hfulfil⟩ := h
      rw [Pattern.occurs_var_iff.mp hplaces] at hfulfil
      exact ⟨hfulfil _ (List.mem_singleton_self _), trivial⟩
  | equality value =>
    constructor
    · intro h
      exact ⟨[], .equality (BEq.symm h.1), by simp [Place.Fulfils]⟩
    · intro h
      obtain ⟨places, hplaces, -⟩ := h
      exact ⟨BEq.symm (Pattern.occurs_equality_iff.mp hplaces).1, trivial⟩
  | aliased name inner ih =>
    constructor
    · intro h
      obtain ⟨hvalue, halias, hinner⟩ := h
      obtain ⟨places, hplaces, hfulfil⟩ := (ih ht subject).mp ⟨hvalue, hinner⟩
      have hname : (values name == subject) = true := BEq.trans halias hvalue
      exact ⟨_, .aliased hplaces, List.forall_mem_cons.mpr ⟨hname, hfulfil⟩⟩
    · intro h
      obtain ⟨places, hall, hfulfil⟩ := h
      obtain ⟨rest, hplaces, rfl⟩ := Pattern.occurs_aliased_iff.mp hall
      obtain ⟨hname, hrest⟩ := List.forall_mem_cons.mp hfulfil
      obtain ⟨hvalue, hinner⟩ := (ih ht subject).mpr ⟨rest, hplaces, hrest⟩
      exact ⟨hvalue, BEq.trans hname (BEq.symm hvalue), hinner⟩
  | tuple children ih =>
    have hchildren := fun child hmem => ih child hmem (wildcardFreeAll_iff.mp ht child hmem)
    rw [InstanceOf, instantiate, AliasesHold, Value.tuple_beq_iff]
    constructor
    · intro h
      obtain ⟨⟨items, rfl, hitems⟩, haliases⟩ := h
      obtain ⟨places, hplaces, hfulfil⟩ := (instances_iff_occur hchildren).mp ⟨hitems, haliases⟩
      exact ⟨places, (Value.tuplePattern_occurs_iff journal).mpr ⟨items, rfl, hplaces⟩, hfulfil⟩
    · intro h
      obtain ⟨places, hoccurs, hfulfil⟩ := h
      obtain ⟨items, rfl, hplaces⟩ := (Value.tuplePattern_occurs_iff journal).mp hoccurs
      have hitems := (instances_iff_occur hchildren).mpr ⟨places, hplaces, hfulfil⟩
      exact ⟨⟨items, rfl, hitems.1⟩, hitems.2⟩
  | variant v children ih =>
    have hchildren := fun child hmem => ih child hmem (wildcardFreeAll_iff.mp ht child hmem)
    rw [InstanceOf, instantiate, AliasesHold, Value.data_beq_iff]
    constructor
    · intro h
      obtain ⟨⟨fields, rfl, hfields⟩, haliases⟩ := h
      obtain ⟨places, hplaces, hfulfil⟩ := (instances_iff_occur hchildren).mp ⟨hfields, haliases⟩
      exact ⟨places, (Variant.pattern_occurs_iff journal).mpr ⟨fields, rfl, hplaces⟩, hfulfil⟩
    · intro h
      obtain ⟨places, hoccurs, hfulfil⟩ := h
      obtain ⟨fields, rfl, hplaces⟩ := (Variant.pattern_occurs_iff journal).mp hoccurs
      have hfields := (instances_iff_occur hchildren).mpr ⟨places, hplaces, hfulfil⟩
      exact ⟨⟨fields, rfl, hfields.1⟩, hfields.2⟩

theorem nanFree_of_occurIn {children : List Template}
    (hchildren : ∀ child ∈ children, ∀ subject places, subject.NaNFree →
      (child.toPattern (σ := σ)).Occurs subject places → ∀ place ∈ places, place.2.NaNFree)
    {items : List Value} (hitems : Value.NaNFreeAll items) {places : List (Place Value)}
    (h : Pattern.OccursIn (toPatterns (σ := σ) children) items places) :
    ∀ place ∈ places, place.2.NaNFree := by
  induction children generalizing items places with
  | nil =>
    rw [(Pattern.nil_occursIn_iff.mp h).2]
    simp
  | cons child rest ih =>
    obtain _ | ⟨hchild, hrest⟩ := h
    have hothers := fun other hmem => hchildren other (List.mem_cons_of_mem child hmem)
    intro place hmem
    rcases List.mem_append.mp hmem with hmem | hmem
    · exact hchildren child (by simp) _ _ hitems.1 hchild place hmem
    · exact ih hothers hitems.2 hrest place hmem

/-- The places of a template hold parts of the subject. -/
theorem nanFree_of_occurs (journal : Journal σ) {t : Template} (subject : Value)
    (places : List (Place Value)) (hsubject : subject.NaNFree)
    (h : (t.toPattern (σ := σ)).Occurs subject places) : ∀ place ∈ places, place.2.NaNFree := by
  induction t using Template.induction generalizing subject places with
  | wildcard =>
    rw [Pattern.occurs_wildcard_iff.mp h]
    simp
  | var name =>
    rw [Pattern.occurs_var_iff.mp h]
    exact List.forall_mem_singleton.mpr hsubject
  | equality value =>
    rw [(Pattern.occurs_equality_iff.mp h).2]
    simp
  | aliased name inner ih =>
    obtain ⟨rest, hinner, rfl⟩ := Pattern.occurs_aliased_iff.mp h
    exact List.forall_mem_cons.mpr ⟨hsubject, ih subject rest hsubject hinner⟩
  | tuple children ih =>
    obtain ⟨items, rfl, hchildren⟩ := (Value.tuplePattern_occurs_iff journal).mp h
    exact nanFree_of_occurIn ih hsubject hchildren
  | variant v children ih =>
    obtain ⟨fields, rfl, hchildren⟩ := (Variant.pattern_occurs_iff journal).mp h
    exact nanFree_of_occurIn ih hsubject hchildren

end Template

/-- Places that one assignment fulfils are in accord. -/
theorem Place.Fulfils.accord {values : String → Value} {places : List (Place Value)}
    (h : Place.Fulfils values places) : places.Pairwise Place.Accord := by
  refine List.pairwise_of_forall_mem_list ?_
  intro left hleft right hright hname
  have hfirst : (values left.1 == left.2) = true := h left hleft
  have hsecond : (values left.1 == right.2) = true := hname ▸ h right hright
  exact BEq.trans (BEq.symm hfirst) hsecond

namespace Bindings

/-- The bound values as an assignment, which gives every other name the unit value. -/
def assignment (b : Bindings Value) (name : String) : Value := (b.get? name).getD .unit

/-- What has been bound fulfils the places it was collected from, unless one holds a NaN. -/
theorem Collects.fulfils {b : Bindings Value} {places : List (Place Value)} (h : b.Collects places)
    (hplaces : ∀ place ∈ places, place.2.NaNFree) : Place.Fulfils b.assignment places := by
  intro place hmem
  obtain ⟨first, hfirst, hname, hvalue⟩ := Place.exists_first_accord h.accord hmem
  have hbound : (place.1, first.2) ∈ b.entries := by
    rw [h.entries_eq, ← hname]
    exact hfirst
  rw [assignment, get?_eq_some_iff.mpr hbound, Option.getD_some]
  rcases hvalue with rfl | hvalue
  · exact Value.beq_self_of_nanFree (hplaces first hmem)
  · exact hvalue

/-- Whatever fulfils the places gives each bound name a value equal to the bound one. -/
theorem Collects.get?_of_fulfils {b : Bindings Value} {places : List (Place Value)}
    (h : b.Collects places) {values : String → Value} (hfulfil : Place.Fulfils values places)
    {name : String} (hname : name ∈ b.names) :
    ∃ value, b.get? name = some value ∧ (value == values name) = true := by
  obtain ⟨entry, hentry, rfl⟩ := List.mem_map.mp hname
  refine ⟨entry.2, get?_eq_some_iff.mpr hentry, ?_⟩
  rw [h.entries_eq] at hentry
  exact BEq.symm (hfulfil entry (Place.mem_of_mem_firsts hentry))

end Bindings

namespace Template

/-- A template without wildcards matches a value without NaN exactly when the value is an
instance of it. The bound values then make it one, and every assignment that does agrees
with them on the variables of the template. -/
theorem matches_iff_instance (t : Template) (ht : t.WildcardFree) (subject : Value)
    (hsubject : subject.NaNFree) (journal : Journal σ) :
    ((∃ b, ((t.toPattern.matchSubject subject).runFrom journal).1 = .ok (some b)) ↔
      ∃ values, InstanceOf values t subject) ∧
    ∀ b, ((t.toPattern.matchSubject subject).runFrom journal).1 = .ok (some b) →
      InstanceOf b.assignment t subject ∧
      ∀ values, InstanceOf values t subject →
        ∀ name ∈ (t.toPattern (σ := σ)).variableNames,
          ∃ value, b.get? name = some value ∧ (value == values name) = true := by
  have hcollects := Pattern.collectsPlaces_of_pure (t.toPattern (σ := σ)) t.toPattern_pure subject
  have hinstance : ∀ b, ((t.toPattern.matchSubject subject).runFrom journal).1 = .ok (some b) →
      InstanceOf b.assignment t subject := by
    intro b hmatch
    obtain ⟨places, hplaces, hb⟩ := (hcollects journal b).mp hmatch
    have hfulfil := hb.fulfils (nanFree_of_occurs journal subject places hsubject hplaces)
    exact (instance_iff_occurs journal ht subject).mpr ⟨places, hplaces, hfulfil⟩
  refine ⟨⟨?_, ?_⟩, ?_⟩
  · intro h
    obtain ⟨b, hmatch⟩ := h
    exact ⟨b.assignment, hinstance b hmatch⟩
  · intro h
    obtain ⟨values, hvalues⟩ := h
    obtain ⟨places, hplaces, hfulfil⟩ := (instance_iff_occurs journal ht subject).mp hvalues
    obtain ⟨b, hb⟩ := Bindings.exists_collects hfulfil.accord
    exact ⟨b, (hcollects journal b).mpr ⟨places, hplaces, hb⟩⟩
  · intro b hmatch
    refine ⟨hinstance b hmatch, ?_⟩
    intro values hvalues name hname
    obtain ⟨places, hplaces, hb⟩ := (hcollects journal b).mp hmatch
    obtain ⟨others, hothers, hfulfil⟩ := (instance_iff_occurs journal ht subject).mp hvalues
    obtain rfl := hplaces.unique journal hothers
    refine hb.get?_of_fulfils hfulfil ?_
    rw [Pattern.names_of_match _ subject journal b hmatch]
    rwa [Pattern.variableNames, Pattern.collectVariables_eq_foldl] at hname

/-- One variable in two places, the second time in a tuple that an alias names: the two zeros
make no difference. -/
theorem matches_iff_instance_pair :
    let t := Template.variant ⟨"Pair", 7⟩
      [.var "x", .aliased "y" (.tuple [.var "x", .equality (.integer 1)])]
    let subject := Value.data "Pair"
      [.float ⟨0⟩, .tuple [.float ⟨0x8000000000000000⟩, .integer 1]]
    t.WildcardFree ∧ subject.NaNFree ∧
      ∃ b, ((t.toPattern.matchSubject subject).runFrom (⟨(), #[]⟩ : Journal Unit)).1 =
        .ok (some b) := by
  intro t subject
  have ht : t.WildcardFree := ⟨trivial, ⟨trivial, trivial, trivial⟩, trivial⟩
  have hsubject : subject.NaNFree := ⟨rfl, ⟨rfl, trivial, trivial⟩, trivial⟩
  refine ⟨ht, hsubject, (matches_iff_instance t ht subject hsubject _).1.mpr ?_⟩
  refine ⟨fun name => if name = "x" then .float ⟨0⟩ else .tuple [.float ⟨0⟩, .integer 1], ?_⟩
  exact ⟨by decide, trivial, ⟨by decide, trivial, trivial, trivial⟩, trivial⟩

example (head tail : Template) :
    (cons head tail).toPattern (σ := σ) = Value.consPattern head.toPattern tail.toPattern := rfl

example : nil.toPattern (σ := σ) = Value.nilPattern := rfl

end Template

end GuardedRules
