import GuardedRules.Value.Shape

/-!
# Equality of values as a relation

Equality is symmetric and transitive, and a value equals itself as soon as no NaN
occurs in it. For every kind there is one equivalence that says which values equal a
value of that kind; nothing else in this module opens the definition.
-/

namespace GuardedRules

namespace Binary64

theorem beq_iff {x y : Binary64} :
    (x == y) = true ↔ x.isNaN = false ∧ y.isNaN = false ∧ x.SameButZeroSign y := by
  have hbits : x.bits = y.bits ↔ x = y := by
    cases x
    cases y
    simp
  show ieeeEq x y = true ↔ _
  simp only [ieeeEq, SameButZeroSign, Bool.and_eq_true, Bool.or_eq_true, Bool.not_eq_true',
    beq_iff_eq, hbits, and_assoc]

theorem SameButZeroSign.symm {x y : Binary64} (h : x.SameButZeroSign y) : y.SameButZeroSign x :=
  h.imp Eq.symm And.symm

theorem SameButZeroSign.trans {x y z : Binary64} (hxy : x.SameButZeroSign y)
    (hyz : y.SameButZeroSign z) : x.SameButZeroSign z := by
  rcases hxy with rfl | ⟨hx, hy⟩
  · exact hyz
  · rcases hyz with rfl | ⟨-, hz⟩
    · exact Or.inr ⟨hx, hy⟩
    · exact Or.inr ⟨hx, hz⟩

instance : PartialEquivBEq Binary64 where
  symm := by
    intro x y h
    obtain ⟨hx, hy, hsame⟩ := beq_iff.mp h
    exact beq_iff.mpr ⟨hy, hx, hsame.symm⟩
  trans := by
    intro x y z hxy hyz
    obtain ⟨hx, -, hfirst⟩ := beq_iff.mp hxy
    obtain ⟨-, hz, hsecond⟩ := beq_iff.mp hyz
    exact beq_iff.mpr ⟨hx, hz, hfirst.trans hsecond⟩

theorem beq_self {x : Binary64} (h : x.isNaN = false) : (x == x) = true :=
  beq_iff.mpr ⟨h, h, Or.inl rfl⟩

end Binary64

namespace Value

attribute [local simp] eq eqAll

theorem integer_beq_iff {number : Int64} {b : Value} :
    (integer number == b) = true ↔ integer number = b := by
  show eq (integer number) b = true ↔ _
  cases b <;> simp

theorem float_beq_iff {number : Binary64} {b : Value} :
    (float number == b) = true ↔ ∃ other, b = float other ∧ (number == other) = true := by
  show eq (float number) b = true ↔ _
  cases b <;> simp

theorem boolean_beq_iff {truth : Bool} {b : Value} :
    (boolean truth == b) = true ↔ boolean truth = b := by
  show eq (boolean truth) b = true ↔ _
  cases b <;> simp

theorem string_beq_iff {text : String} {b : Value} :
    (string text == b) = true ↔ string text = b := by
  show eq (string text) b = true ↔ _
  cases b <;> simp

theorem atom_beq_iff {name : String} {b : Value} :
    (atom name == b) = true ↔ atom name = b := by
  show eq (atom name) b = true ↔ _
  cases b <;> simp

theorem unit_beq_iff {b : Value} : (unit == b) = true ↔ unit = b := by
  show eq unit b = true ↔ _
  cases b <;> simp

theorem tuple_beq_iff {items : List Value} {b : Value} :
    (tuple items == b) = true ↔ ∃ others, b = tuple others ∧ eqAll items others = true := by
  show eq (tuple items) b = true ↔ _
  cases b <;> simp

theorem data_beq_iff {tag : String} {fields : List Value} {b : Value} :
    (data tag fields == b) = true ↔ ∃ others, b = data tag others ∧ eqAll fields others = true := by
  show eq (data tag fields) b = true ↔ _
  cases b with
  | data found others =>
    simp only [eq, Bool.and_eq_true, beq_iff_eq, data.injEq]
    constructor
    · intro h
      exact ⟨others, ⟨h.1.symm, rfl⟩, h.2⟩
    · intro h
      obtain ⟨_, ⟨rfl, rfl⟩, hfields⟩ := h
      exact ⟨rfl, hfields⟩
  | _ => simp

theorem nil_eqAll_iff {bs : List Value} : eqAll [] bs = true ↔ bs = [] := by
  cases bs <;> simp

theorem cons_eqAll_iff {a : Value} {as bs : List Value} :
    eqAll (a :: as) bs = true ↔
      ∃ b rest, bs = b :: rest ∧ (a == b) = true ∧ eqAll as rest = true := by
  cases bs with
  | nil => simp
  | cons b rest =>
    rw [eqAll, Bool.and_eq_true]
    constructor
    · exact fun h => ⟨b, rest, rfl, h.1, h.2⟩
    · intro h
      obtain ⟨_, _, ⟨⟩, hhead, htail⟩ := h
      exact ⟨hhead, htail⟩

theorem eqAll_symm_of {as bs : List Value}
    (hitems : ∀ a ∈ as, ∀ b : Value, (a == b) = true → (b == a) = true)
    (h : eqAll as bs = true) : eqAll bs as = true := by
  induction as generalizing bs with
  | nil => rw [nil_eqAll_iff.mp h, eqAll]
  | cons a as ih =>
    obtain ⟨b, rest, rfl, hhead, htail⟩ := cons_eqAll_iff.mp h
    have hback : (b == a) = true := hitems a (by simp) b hhead
    have hrest := ih (fun item hitem => hitems item (List.mem_cons_of_mem a hitem)) htail
    exact cons_eqAll_iff.mpr ⟨a, as, rfl, hback, hrest⟩

theorem eqAll_trans_of {as bs cs : List Value}
    (hitems : ∀ a ∈ as, ∀ b c : Value, (a == b) = true → (b == c) = true → (a == c) = true)
    (hab : eqAll as bs = true) (hbc : eqAll bs cs = true) : eqAll as cs = true := by
  induction as generalizing bs cs with
  | nil =>
    rw [nil_eqAll_iff.mp hab] at hbc
    exact hbc
  | cons a as ih =>
    obtain ⟨b, bs, rfl, hhead, htail⟩ := cons_eqAll_iff.mp hab
    obtain ⟨c, cs, rfl, hnext, hrest⟩ := cons_eqAll_iff.mp hbc
    have hstep : (a == c) = true := hitems a (by simp) b c hhead hnext
    have hlater := ih (fun item hitem => hitems item (List.mem_cons_of_mem a hitem)) htail hrest
    exact cons_eqAll_iff.mpr ⟨c, cs, rfl, hstep, hlater⟩

theorem beq_symm (a b : Value) (h : (a == b) = true) : (b == a) = true := by
  induction a using Value.induction generalizing b with
  | integer =>
    cases integer_beq_iff.mp h
    exact h
  | float number =>
    obtain ⟨other, rfl, hnumber⟩ := float_beq_iff.mp h
    exact float_beq_iff.mpr ⟨number, rfl, BEq.symm hnumber⟩
  | boolean =>
    cases boolean_beq_iff.mp h
    exact h
  | string =>
    cases string_beq_iff.mp h
    exact h
  | atom =>
    cases atom_beq_iff.mp h
    exact h
  | tuple items ih =>
    obtain ⟨others, rfl, hitems⟩ := tuple_beq_iff.mp h
    exact tuple_beq_iff.mpr ⟨items, rfl, eqAll_symm_of ih hitems⟩
  | data tag fields ih =>
    obtain ⟨others, rfl, hfields⟩ := data_beq_iff.mp h
    exact data_beq_iff.mpr ⟨fields, rfl, eqAll_symm_of ih hfields⟩
  | unit =>
    cases unit_beq_iff.mp h
    exact h

theorem beq_trans (a b c : Value) (hab : (a == b) = true) (hbc : (b == c) = true) :
    (a == c) = true := by
  induction a using Value.induction generalizing b c with
  | integer =>
    cases integer_beq_iff.mp hab
    exact hbc
  | float number =>
    obtain ⟨other, rfl, hfirst⟩ := float_beq_iff.mp hab
    obtain ⟨last, rfl, hsecond⟩ := float_beq_iff.mp hbc
    exact float_beq_iff.mpr ⟨last, rfl, BEq.trans hfirst hsecond⟩
  | boolean =>
    cases boolean_beq_iff.mp hab
    exact hbc
  | string =>
    cases string_beq_iff.mp hab
    exact hbc
  | atom =>
    cases atom_beq_iff.mp hab
    exact hbc
  | tuple items ih =>
    obtain ⟨others, rfl, hfirst⟩ := tuple_beq_iff.mp hab
    obtain ⟨last, rfl, hsecond⟩ := tuple_beq_iff.mp hbc
    exact tuple_beq_iff.mpr ⟨last, rfl, eqAll_trans_of ih hfirst hsecond⟩
  | data tag fields ih =>
    obtain ⟨others, rfl, hfirst⟩ := data_beq_iff.mp hab
    obtain ⟨last, rfl, hsecond⟩ := data_beq_iff.mp hbc
    exact data_beq_iff.mpr ⟨last, rfl, eqAll_trans_of ih hfirst hsecond⟩
  | unit =>
    cases unit_beq_iff.mp hab
    exact hbc

instance : PartialEquivBEq Value where
  symm := beq_symm _ _
  trans := beq_trans _ _ _

theorem nanFreeAll_iff {values : List Value} :
    NaNFreeAll values ↔ ∀ value ∈ values, value.NaNFree := by
  induction values with
  | nil => simp [NaNFreeAll]
  | cons value rest ih => simp [NaNFreeAll, ih]

theorem eqAll_self_of {values : List Value} (h : ∀ value ∈ values, (value == value) = true) :
    eqAll values values = true := by
  induction values with
  | nil => rfl
  | cons value rest ih =>
    have hrest := ih fun other hother => h other (List.mem_cons_of_mem value hother)
    exact cons_eqAll_iff.mpr ⟨value, rest, rfl, h value (by simp), hrest⟩

/-- Only a NaN keeps a value from equalling itself. -/
theorem beq_self_of_nanFree {a : Value} (h : a.NaNFree) : (a == a) = true := by
  induction a using Value.induction with
  | float number => exact float_beq_iff.mpr ⟨number, rfl, Binary64.beq_self h⟩
  | tuple items ih =>
    have hitems := nanFreeAll_iff.mp h
    exact tuple_beq_iff.mpr
      ⟨items, rfl, eqAll_self_of fun item hitem => ih item hitem (hitems item hitem)⟩
  | data tag fields ih =>
    have hfields := nanFreeAll_iff.mp h
    exact data_beq_iff.mpr
      ⟨fields, rfl, eqAll_self_of fun field hfield => ih field hfield (hfields field hfield)⟩
  | integer => exact integer_beq_iff.mpr rfl
  | boolean => exact boolean_beq_iff.mpr rfl
  | string => exact string_beq_iff.mpr rfl
  | atom => exact atom_beq_iff.mpr rfl
  | unit => exact unit_beq_iff.mpr rfl

end Value

end GuardedRules
