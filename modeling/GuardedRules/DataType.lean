import GuardedRules.Text.Lowercase
import GuardedRules.Value.List
import GuardedRules.ValueError

/-!
# Data types

A data type lists the variants that its values may have, each tag once, in the
order of first declaration. Declaring a tag again changes its number of fields and
nothing else.
-/

namespace GuardedRules

/-- A kind of tagged data: its tag and its number of fields. -/
structure Variant where
  tag : String
  arity : Nat
deriving DecidableEq, Inhabited

namespace Variant

/-- A value of this variant, if the fields are as many as declared. -/
def construct (variant : Variant) (fields : List Value) : Except ValueError Value :=
  if fields.length = variant.arity then .ok (.data variant.tag fields)
  else .error (.wrongFieldCount variant.tag variant.arity fields.length)

/-- Whether a value carries the tag of this variant, with any number of fields. -/
def isInstance (variant : Variant) (value : Value) : Bool := value.tag? == some variant.tag

end Variant

/-- Where no tag occurs twice, no variant in front of another one has its tag. -/
theorem Variant.exists_front_of_mem {variants : List Variant}
    (h : (variants.map Variant.tag).Nodup) {variant : Variant} (hmem : variant ∈ variants) :
    ∃ before after, variants = before ++ variant :: after ∧
      ∀ other ∈ before, other.tag ≠ variant.tag := by
  obtain ⟨before, after, rfl⟩ := List.append_of_mem hmem
  refine ⟨before, after, rfl, ?_⟩
  intro other hother
  rw [List.map_append, List.map_cons, List.nodup_append] at h
  exact h.2.2 other.tag (List.mem_map_of_mem hother) variant.tag List.mem_cons_self

/-- A data type: its name and its variants in order of declaration. -/
structure DataType where
  name : String
  variants : List Variant
  nodup : (variants.map Variant.tag).Nodup

namespace DataType

def new (name : String) : DataType := ⟨name, [], List.nodup_nil⟩

instance : Inhabited DataType := ⟨new ""⟩

/-- Puts a variant in the place of the one with its tag, or at the end. -/
def placeVariant (variant : Variant) : List Variant → List Variant
  | [] => [variant]
  | known :: rest =>
    if known.tag = variant.tag then variant :: rest else known :: placeVariant variant rest

theorem mem_tags_placeVariant {variant : Variant} {variants : List Variant} {tag : String} :
    tag ∈ (placeVariant variant variants).map Variant.tag ↔
      tag = variant.tag ∨ tag ∈ variants.map Variant.tag := by
  induction variants with
  | nil => simp [placeVariant]
  | cons known rest ih =>
    by_cases h : known.tag = variant.tag
    · simp [placeVariant, h]
    · simp only [placeVariant, h, if_false, List.map_cons, List.mem_cons, ih]
      exact or_left_comm

theorem nodup_placeVariant {variant : Variant} {variants : List Variant}
    (h : (variants.map Variant.tag).Nodup) :
    ((placeVariant variant variants).map Variant.tag).Nodup := by
  induction variants with
  | nil => simp [placeVariant]
  | cons known rest ih =>
    simp only [List.map_cons, List.nodup_cons] at h
    by_cases same : known.tag = variant.tag
    · simpa only [placeVariant, same, if_true, List.map_cons, List.nodup_cons] using h
    · rw [placeVariant, if_neg same, List.map_cons, List.nodup_cons, mem_tags_placeVariant]
      exact ⟨fun hm => hm.elim (fun e => same e) h.1, ih h.2⟩

/-- The data type with one more variant, or with another arity for a known tag. -/
def declare (type : DataType) (tag : String) (arity : Nat) : DataType where
  name := type.name
  variants := placeVariant ⟨tag, arity⟩ type.variants
  nodup := nodup_placeVariant type.nodup

def variant? (type : DataType) (tag : String) : Option Variant :=
  type.variants.find? (·.tag == tag)

def constructor (type : DataType) (tag : String) : Except ValueError Variant :=
  match type.variant? tag with
  | some variant => .ok variant
  | none => .error (.unknownVariant type.name tag)

/-- Whether a value is data with a declared tag and the declared number of fields. -/
def isInstance (type : DataType) : Value → Bool
  | .data tag fields =>
    match type.variant? tag with
    | some variant => variant.arity == fields.length
    | none => false
  | _ => false

theorem variant?_eq_some_iff {type : DataType} {tag : String} {variant : Variant} :
    type.variant? tag = some variant ↔ variant ∈ type.variants ∧ variant.tag = tag := by
  rw [variant?, List.find?_eq_some_iff_append]
  constructor
  · intro h
    obtain ⟨htag, before, after, hsplit, -⟩ := h
    exact ⟨hsplit ▸ List.mem_append_right before List.mem_cons_self, beq_iff_eq.mp htag⟩
  · intro h
    obtain ⟨hmem, rfl⟩ := h
    obtain ⟨before, after, hsplit, hfront⟩ := Variant.exists_front_of_mem type.nodup hmem
    refine ⟨beq_self_eq_true _, before, after, hsplit, ?_⟩
    intro other hother
    simpa using hfront other hother

theorem isInstance_iff {type : DataType} {value : Value} :
    type.isInstance value = true ↔
      ∃ variant ∈ type.variants, ∃ fields,
        value = .data variant.tag fields ∧ fields.length = variant.arity := by
  constructor
  · intro h
    cases value with
    | data tag fields =>
      rw [isInstance] at h
      cases hfound : type.variant? tag with
      | none => simp [hfound] at h
      | some variant =>
        obtain ⟨hmem, rfl⟩ := variant?_eq_some_iff.mp hfound
        have hlength : variant.arity = fields.length := by simpa [hfound] using h
        exact ⟨variant, hmem, fields, rfl, hlength.symm⟩
    | _ => cases h
  · intro h
    obtain ⟨variant, hmem, fields, rfl, hlength⟩ := h
    simp [isInstance, variant?_eq_some_iff.mpr ⟨hmem, rfl⟩, hlength]

theorem length_ne_of_not_isInstance {type : DataType} {variant : Variant} {fields : List Value}
    (hmem : variant ∈ type.variants) (h : type.isInstance (.data variant.tag fields) = false) :
    fields.length ≠ variant.arity := by
  intro hlength
  have hinstance := isInstance_iff.mpr ⟨variant, hmem, fields, rfl, hlength⟩
  rw [h] at hinstance
  cases hinstance

/-- Data types are equal when they have one name and the same variants in whatever order. -/
instance : BEq DataType where
  beq l r := l.name == r.name && l.variants.length == r.variants.length &&
    l.variants.all fun variant => r.variant? variant.tag == some variant

end DataType

def listType : DataType := ((DataType.new "List").declare Value.nilTag 0).declare Value.consTag 2

/-- Whether a value is the empty list or a list cell. The rest of the list is not looked at. -/
def Value.isList (value : Value) : Bool := listType.isInstance value

end GuardedRules
