import GuardedRules.Binary64

/-!
# Values

The dynamic values that patterns take apart: scalars, texts, atoms, tuples and
tagged data. Equality is a partial equivalence only, because a NaN at any depth
makes a value unequal to itself.
-/

namespace GuardedRules

inductive Value where
  | integer (number : Int64)
  | float (number : Binary64)
  | boolean (truth : Bool)
  | string (text : String)
  | atom (name : String)
  | tuple (items : List Value)
  | data (tag : String) (fields : List Value)
  | unit
deriving Inhabited

namespace Value

/-- Induction over values that may assume every item of a tuple and every field of data. -/
@[elab_as_elim]
theorem induction {motive : Value → Prop}
    (integer : ∀ number, motive (.integer number))
    (float : ∀ number, motive (.float number))
    (boolean : ∀ truth, motive (.boolean truth))
    (string : ∀ text, motive (.string text))
    (atom : ∀ name, motive (.atom name))
    (tuple : ∀ items, (∀ item ∈ items, motive item) → motive (.tuple items))
    (data : ∀ tag fields, (∀ field ∈ fields, motive field) → motive (.data tag fields))
    (unit : motive .unit)
    (value : Value) : motive value :=
  @Value.rec motive (fun values => ∀ value ∈ values, motive value)
    integer float boolean string atom tuple data unit (by simp) (by simp_all) value

mutual

/-- Values of different kinds differ; floats compare by IEEE, all else by content. -/
def eq : Value → Value → Bool
  | integer a, integer b => a == b
  | float a, float b => a == b
  | boolean a, boolean b => a == b
  | string a, string b => a == b
  | atom a, atom b => a == b
  | tuple as, tuple bs => eqAll as bs
  | data s as, data t bs => s == t && eqAll as bs
  | unit, unit => true
  | _, _ => false

/-- Equality item by item; lists of different lengths differ. -/
def eqAll : List Value → List Value → Bool
  | [], [] => true
  | a :: as, b :: bs => eq a b && eqAll as bs
  | _, _ => false

end

instance : BEq Value := ⟨eq⟩

def kind : Value → String
  | integer _ => "Integer"
  | float _ => "Float"
  | boolean _ => "Boolean"
  | string _ => "String"
  | atom _ => "Atom"
  | tuple _ => "Tuple"
  | data _ _ => "Data"
  | unit => "Unit"

def tag? : Value → Option String
  | data tag _ => some tag
  | _ => none

def fields? : Value → Option (List Value)
  | data _ fields => some fields
  | _ => none

def integer? : Value → Option Int64
  | integer number => some number
  | _ => none

def string? : Value → Option String
  | string text => some text
  | _ => none

end Value

end GuardedRules
