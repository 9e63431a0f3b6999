import Mathlib.Data.List.Induction
import GuardedRules.DataType

/-!
# Declaring variants

A data type is what its declarations have made of it, one after the other. Each of them changes
the look-up of its own tag and no other, and a tag that is declared again keeps its place. So the
first declaration of a tag gives its place and the last one its number of fields, and the
instances of the data type are the values that its variants construct.
-/

namespace GuardedRules

namespace Variant

variable {variant : Variant} {fields : List Value} {value : Value}

/-- A variant constructs data with its tag, if there are as many fields as declared. -/
theorem construct_eq_ok_iff :
    variant.construct fields = .ok value ↔
      fields.length = variant.arity ∧ value = .data variant.tag fields := by
  rw [construct]
  by_cases hlength : fields.length = variant.arity
  · rw [if_pos hlength, Except.ok.injEq, and_iff_right hlength, eq_comm]
  · simp [hlength]

theorem construct_of_length_ne (h : fields.length ≠ variant.arity) :
    variant.construct fields =
      .error (.wrongFieldCount variant.tag variant.arity fields.length) := by
  rw [construct, if_neg h]

end Variant

namespace DataType

variable {type : DataType} {tag : String} {variant : Variant} {value : Value}

theorem constructor_eq_ok_iff :
    type.constructor tag = .ok variant ↔ type.variant? tag = some variant := by
  rw [constructor]
  cases type.variant? tag with
  | none => simp
  | some found => simp

theorem constructor_of_none (h : type.variant? tag = none) :
    type.constructor tag = .error (.unknownVariant type.name tag) := by
  rw [constructor, h]

/-- The instances of a data type are what its variants construct. -/
theorem isInstance_iff_constructed :
    type.isInstance value = true ↔
      ∃ tag variant fields, type.constructor tag = .ok variant ∧
        variant.construct fields = .ok value := by
  rw [isInstance_iff]
  constructor
  · intro h
    obtain ⟨variant, hmem, fields, hvalue, hlength⟩ := h
    exact ⟨variant.tag, variant, fields,
      constructor_eq_ok_iff.mpr (variant?_eq_some_iff.mpr ⟨hmem, rfl⟩),
      Variant.construct_eq_ok_iff.mpr ⟨hlength, hvalue⟩⟩
  · intro h
    obtain ⟨tag, variant, fields, hfound, hconstructed⟩ := h
    obtain ⟨hmem, -⟩ := variant?_eq_some_iff.mp (constructor_eq_ok_iff.mp hfound)
    obtain ⟨hlength, hvalue⟩ := Variant.construct_eq_ok_iff.mp hconstructed
    exact ⟨variant, hmem, fields, hvalue, hlength⟩

section Declaring

theorem find?_placeVariant (variant : Variant) (variants : List Variant) (tag : String) :
    (placeVariant variant variants).find? (·.tag == tag) =
      if tag = variant.tag then some variant else variants.find? (·.tag == tag) := by
  induction variants with
  | nil =>
    by_cases htag : variant.tag = tag
    · simp [placeVariant, htag]
    · simp [placeVariant, htag, Ne.symm htag]
  | cons known rest ih =>
    by_cases hplace : known.tag = variant.tag
    · by_cases htag : variant.tag = tag
      · simp [placeVariant, hplace, htag]
      · have hother : (variant.tag == tag) = false := beq_eq_false_iff_ne.mpr htag
        simp [placeVariant, hplace, hother, Ne.symm htag]
    · by_cases htag : known.tag = tag
      · have hother : tag ≠ variant.tag := htag ▸ hplace
        simp [placeVariant, htag, hother]
      · have hother : (known.tag == tag) = false := beq_eq_false_iff_ne.mpr htag
        simp [placeVariant, hplace, hother, ih]

/-- A declaration changes the look-up of its own tag only. -/
theorem variant?_declare (type : DataType) (declared : String) (arity : Nat) (tag : String) :
    (type.declare declared arity).variant? tag =
      if tag = declared then some ⟨declared, arity⟩ else type.variant? tag :=
  find?_placeVariant ⟨declared, arity⟩ type.variants tag

/-- A tag that is declared again keeps its place, and a new one goes behind the others. -/
theorem tags_placeVariant (variant : Variant) (variants : List Variant) :
    (placeVariant variant variants).map Variant.tag =
      if variant.tag ∈ variants.map Variant.tag then variants.map Variant.tag
      else variants.map Variant.tag ++ [variant.tag] := by
  induction variants with
  | nil => rfl
  | cons known rest ih =>
    rw [placeVariant]
    by_cases hplace : known.tag = variant.tag
    · simp [hplace]
    · have hother : variant.tag ≠ known.tag := Ne.symm hplace
      rw [if_neg hplace, List.map_cons, ih]
      by_cases hmem : variant.tag ∈ rest.map Variant.tag
      · rw [if_pos hmem, List.map_cons, if_pos (List.mem_cons_of_mem _ hmem)]
      · have hfresh : variant.tag ∉ known.tag :: rest.map Variant.tag :=
          List.not_mem_cons_of_ne_of_not_mem hother hmem
        rw [if_neg hmem, List.map_cons, if_neg hfresh, List.cons_append]

/-- The data type that has been declared so, first declaration first. -/
def declareAll (name : String) (declarations : List (String × Nat)) : DataType :=
  declarations.foldl (fun type declaration => type.declare declaration.1 declaration.2) (new name)

theorem declareAll_concat (name : String) (declarations : List (String × Nat)) (tag : String)
    (arity : Nat) :
    declareAll name (declarations ++ [(tag, arity)]) =
      (declareAll name declarations).declare tag arity := by
  rw [declareAll, List.foldl_append]
  rfl

theorem name_declareAll (name : String) (declarations : List (String × Nat)) :
    (declareAll name declarations).name = name := by
  induction declarations using List.reverseRecOn with
  | nil => rfl
  | append_singleton declarations declaration ih => rw [declareAll_concat]; exact ih

/-- The tags stand in the order in which they were declared first. -/
theorem tags_declareAll (name : String) (declarations : List (String × Nat)) :
    (declareAll name declarations).variants.map Variant.tag =
      (declarations.map Prod.fst).eraseDups := by
  induction declarations using List.reverseRecOn with
  | nil => rfl
  | append_singleton declarations declaration ih =>
    obtain ⟨tag, arity⟩ := declaration
    rw [declareAll_concat, declare, tags_placeVariant, ih, List.map_append, List.eraseDups_append]
    by_cases hmem : tag ∈ declarations.map Prod.fst
    · rw [if_pos (List.mem_eraseDups.mpr hmem)]
      simp [List.removeAll, hmem]
    · have hsingle : [tag].eraseDups = [tag] := rfl
      rw [if_neg (mt List.mem_eraseDups.mp hmem)]
      simp [List.removeAll, hmem, hsingle]

/-- The last declaration of a tag gives it this number of fields. -/
def LastDeclared (declarations : List (String × Nat)) (tag : String) (arity : Nat) : Prop :=
  ∃ before after, declarations = before ++ (tag, arity) :: after ∧ tag ∉ after.map Prod.fst

theorem LastDeclared.mem {declarations : List (String × Nat)} {arity : Nat}
    (h : LastDeclared declarations tag arity) : tag ∈ declarations.map Prod.fst := by
  obtain ⟨before, after, rfl, -⟩ := h
  simp

/-- One more declaration is the last one of its tag, and the others keep theirs. -/
theorem lastDeclared_concat_iff {declarations : List (String × Nat)} {declared : String}
    {given arity : Nat} :
    LastDeclared (declarations ++ [(declared, given)]) tag arity ↔
      if tag = declared then arity = given else LastDeclared declarations tag arity := by
  constructor
  · intro h
    obtain ⟨before, after, hsplit, hlast⟩ := h
    rcases List.eq_nil_or_concat after with rfl | ⟨later, last, rfl⟩
    · obtain ⟨-, hdeclared⟩ := List.append_singleton_inj.mp hsplit
      cases hdeclared
      rw [if_pos rfl]
    · rw [List.concat_eq_append] at hsplit hlast
      rw [← List.cons_append, ← List.append_assoc] at hsplit
      obtain ⟨hfront, rfl⟩ := List.append_singleton_inj.mp hsplit
      rw [List.map_append, List.mem_append, not_or] at hlast
      rw [if_neg (by simpa using hlast.2)]
      exact ⟨before, later, hfront, hlast.1⟩
  · intro h
    by_cases htag : tag = declared
    · rw [if_pos htag] at h
      subst htag h
      exact ⟨declarations, [], rfl, List.not_mem_nil⟩
    · rw [if_neg htag] at h
      obtain ⟨before, after, rfl, hlast⟩ := h
      refine ⟨before, after ++ [(declared, given)], by simp, ?_⟩
      simpa [htag] using hlast

/-- The look-up of a tag gives what was declared last. -/
theorem variant?_declareAll (name : String) (declarations : List (String × Nat)) :
    (declareAll name declarations).variant? tag = some variant ↔
      variant.tag = tag ∧ LastDeclared declarations tag variant.arity := by
  induction declarations using List.reverseRecOn with
  | nil =>
    constructor
    · intro h
      cases h
    · intro h
      cases h.2.mem
  | append_singleton declarations declaration ih =>
    obtain ⟨declared, given⟩ := declaration
    rw [declareAll_concat, variant?_declare, lastDeclared_concat_iff]
    by_cases htag : tag = declared
    · subst htag
      rw [if_pos rfl, if_pos rfl, Option.some.injEq, eq_comm, Variant.mk.injEq]
    · rw [if_neg htag, if_neg htag, ih]

end Declaring

/-- What a data type offers after these declarations, of which some may be for one tag. -/
structure DeclaredBy (type : DataType) (name : String) (declarations : List (String × Nat)) :
    Prop where
  constructor_iff : ∀ tag, (∃ variant, type.constructor tag = .ok variant) ↔
    tag ∈ declarations.map Prod.fst
  /-- A tag comes with the number of fields that was declared last. -/
  constructor_eq_iff : ∀ tag variant, type.constructor tag = .ok variant ↔
    variant.tag = tag ∧ LastDeclared declarations tag variant.arity
  unknown : ∀ tag, tag ∉ declarations.map Prod.fst →
    type.constructor tag = .error (.unknownVariant name tag)
  /-- Every tag is listed once, in the order of the first declarations. -/
  tags_eq : type.variants.map Variant.tag = (declarations.map Prod.fst).eraseDups
  arities : ∀ variant ∈ type.variants, LastDeclared declarations variant.tag variant.arity
  instances : ∀ value, type.isInstance value = true ↔
    ∃ tag variant fields, type.constructor tag = .ok variant ∧
      variant.construct fields = .ok value

/-- Whatever is declared, and however often, the data type offers just that. -/
theorem declareAll_declaredBy (name : String) (declarations : List (String × Nat)) :
    (declareAll name declarations).DeclaredBy name declarations := by
  have htags := tags_declareAll name declarations
  have hlookup (tag : String) (variant : Variant) :
      (declareAll name declarations).constructor tag = .ok variant ↔
        variant.tag = tag ∧ LastDeclared declarations tag variant.arity :=
    constructor_eq_ok_iff.trans (variant?_declareAll name declarations)
  have hconstructor (variant : Variant) : variant ∈ (declareAll name declarations).variants →
      (declareAll name declarations).constructor variant.tag = .ok variant := by
    intro hmem
    exact constructor_eq_ok_iff.mpr (variant?_eq_some_iff.mpr ⟨hmem, rfl⟩)
  refine ⟨?_, hlookup, ?_, htags, ?_, fun _ => isInstance_iff_constructed⟩
  · intro tag
    constructor
    · intro h
      obtain ⟨variant, hvariant⟩ := h
      exact ((hlookup tag variant).mp hvariant).2.mem
    · intro h
      rw [← List.mem_eraseDups, ← htags] at h
      obtain ⟨variant, hvariant, rfl⟩ := List.mem_map.mp h
      exact ⟨variant, hconstructor variant hvariant⟩
  · intro tag habsent
    have hnone : (declareAll name declarations).variant? tag = none := by
      refine Option.eq_none_iff_forall_ne_some.mpr ?_
      intro variant hvariant
      exact habsent ((variant?_declareAll name declarations).mp hvariant).2.mem
    rw [constructor_of_none hnone, name_declareAll]
  · intro variant hvariant
    exact ((hlookup variant.tag variant).mp (hconstructor variant hvariant)).2

/-- Of three declarations the first and the last are for one tag, which keeps its place and gets
another number of fields. -/
example : (declareAll "T" [("A", 1), ("B", 0), ("A", 2)]).variants = [⟨"A", 2⟩, ⟨"B", 0⟩] := by
  decide

end DataType

end GuardedRules
