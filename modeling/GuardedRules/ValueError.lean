/-!
# Errors of building data

A data type refuses tags it does not declare and fields of the wrong number.
-/

namespace GuardedRules

/-- What can be wrong with the data to be built. -/
inductive ValueError where
  /-- A data type has no variant of this tag. -/
  | unknownVariant (dataType tag : String)
  /-- A variant was given another number of fields than it is declared with. -/
  | wrongFieldCount (tag : String) (expected found : Nat)
deriving DecidableEq

namespace ValueError

def message : ValueError → String
  | unknownVariant dataType tag => s!"Unknown variant: {dataType} has no variant named {tag}"
  | wrongFieldCount tag expected found =>
    s!"Wrong field count: {tag} expects {expected} fields, got {found}"

def code : ValueError → String
  | unknownVariant .. => "rulematch_values::unknown_variant"
  | wrongFieldCount .. => "rulematch_values::wrong_field_count"

def help : ValueError → Option String
  | unknownVariant .. => some "Declare the variant with `DataType::variant` before using it"
  | wrongFieldCount .. => some "Check the variant declaration for the correct number of fields"

end ValueError

end GuardedRules
