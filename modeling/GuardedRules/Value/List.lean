import GuardedRules.Value

/-!
# Lists as data

A list is a chain of `Cons` cells with two fields that ends in `Nil` without
fields. Building a list and reading its elements are inverse to each other.
-/

namespace GuardedRules.Value

def nilTag : String := "Nil"

def consTag : String := "Cons"

def nil : Value := data nilTag []

def cons (head tail : Value) : Value := data consTag [head, tail]

def ofList (items : List Value) : Value := items.foldr cons nil

/-- The elements of a proper list. A cell with another number of fields, or a chain that
ends in anything but `Nil`, has none. -/
def elements? : Value → Option (List Value)
  | data tag [] => if tag = nilTag then some [] else none
  | data tag [head, tail] => if tag = consTag then (elements? tail).map (head :: ·) else none
  | _ => none

@[simp]
theorem elements?_nil : elements? nil = some [] := by simp [nil, elements?]

@[simp]
theorem elements?_cons (head tail : Value) :
    elements? (cons head tail) = (elements? tail).map (head :: ·) := by
  simp [cons, elements?]

variable {v : Value} {items : List Value}

theorem elements?_ofList (items : List Value) : (ofList items).elements? = some items := by
  induction items with
  | nil => exact elements?_nil
  | cons item items ih =>
    have hcell : ofList (item :: items) = cons item (ofList items) := rfl
    rw [hcell, elements?_cons, ih, Option.map_some]

theorem eq_ofList_of_elements? (h : v.elements? = some items) : v = ofList items := by
  fun_induction elements? v generalizing items with
  | case1 =>
    cases h
    rfl
  | case2 => cases h
  | case3 head tail ih =>
    obtain ⟨rest, hrest, rfl⟩ := Option.map_eq_some_iff.mp h
    rw [ih hrest]
    rfl
  | case4 => cases h
  | case5 => cases h

theorem elements?_eq_some_iff : v.elements? = some items ↔ v = ofList items := by
  constructor
  · exact eq_ofList_of_elements?
  · intro h
    rw [h, elements?_ofList]

end GuardedRules.Value
