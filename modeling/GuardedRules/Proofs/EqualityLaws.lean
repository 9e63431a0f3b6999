import GuardedRules.Binary64.Number
import GuardedRules.Proofs.ValueEquality

/-!
# What equality of values comes to

Two floats are equal when their bit patterns stand for one number. For finite numbers this rests
on the magnitude: it grows with the exponent bits, and where these agree it tells the fraction
bits, so a number other than zero has one bit pattern. From there equality of values is told by
what occurs in them: no NaN on either side, and at every position the same but for signs of
zeros.
-/

namespace GuardedRules

namespace Binary64

/-- A bit pattern is its sign, its exponent bits and its fraction bits. -/
theorem toNat_bits_eq (x : Binary64) :
    x.bits.toNat = (if x.isNegative then 0x8000000000000000 else 0) +
      fractionSize * x.exponentField + x.fractionField := by
  have hlt : x.bits.toNat < 0x10000000000000000 := x.bits.toNat_lt
  unfold isNegative exponentField fractionField fractionSize
  by_cases hsign : 0x8000000000000000 ≤ x.bits.toNat
  · rw [if_pos (decide_eq_true hsign)]
    omega
  · rw [if_neg (by simpa using hsign)]
    omega

theorem fractionField_lt (x : Binary64) : x.fractionField < fractionSize :=
  Nat.mod_lt _ (by decide)

theorem eq_of_fields {x y : Binary64} (hsign : x.isNegative = y.isNegative)
    (hexponent : x.exponentField = y.exponentField)
    (hfraction : x.fractionField = y.fractionField) : x = y := by
  have hbits : x.bits.toNat = y.bits.toNat := by
    rw [toNat_bits_eq, toNat_bits_eq, hsign, hexponent, hfraction]
  cases x
  cases y
  exact congrArg mk (UInt64.toNat_inj.mp hbits)

theorem magnitude_eq (x : Binary64) :
    x.magnitude = if x.exponentField = 0 then x.fractionField
      else (fractionSize + x.fractionField) * 2 ^ (x.exponentField - 1) := by
  unfold magnitude significand scale
  by_cases hzero : x.exponentField = 0
  · simp only [if_pos hzero]
    exact Nat.mul_one _
  · have hscale : ((x.exponentField : Int) - 1075 + 1074).toNat = x.exponentField - 1 := by omega
    simp only [if_neg hzero, hscale]

/-- The exponent bits bound a magnitude from above. -/
theorem magnitude_lt (x : Binary64) : x.magnitude < fractionSize * 2 ^ x.exponentField := by
  have hfraction := x.fractionField_lt
  rw [magnitude_eq]
  by_cases hzero : x.exponentField = 0
  · rw [if_pos hzero, hzero, Nat.pow_zero, Nat.mul_one]
    exact hfraction
  · obtain ⟨lower, hlower⟩ := Nat.exists_eq_succ_of_ne_zero hzero
    rw [if_neg hzero, hlower, Nat.succ_sub_one, Nat.pow_succ', ← Nat.mul_assoc]
    exact Nat.mul_lt_mul_of_pos_right (by omega) (Nat.two_pow_pos lower)

/-- Unless they are zero, the exponent bits bound a magnitude from below. -/
theorem le_magnitude {x : Binary64} {lower : Nat} (h : x.exponentField = lower + 1) :
    fractionSize * 2 ^ lower ≤ x.magnitude := by
  rw [magnitude_eq, if_neg (by omega), h, Nat.add_sub_cancel]
  exact Nat.mul_le_mul_right _ (Nat.le_add_right _ _)

theorem magnitude_lt_of_exponentField_lt {x y : Binary64}
    (h : x.exponentField < y.exponentField) : x.magnitude < y.magnitude := by
  obtain ⟨lower, hlower⟩ := Nat.exists_eq_add_one_of_ne_zero (Nat.ne_zero_of_lt h)
  calc x.magnitude
    _ < fractionSize * 2 ^ x.exponentField := x.magnitude_lt
    _ ≤ fractionSize * 2 ^ lower :=
      Nat.mul_le_mul_left _ (Nat.pow_le_pow_right (by decide) (by omega))
    _ ≤ y.magnitude := le_magnitude hlower

/-- Magnitudes tell exponent bits and fraction bits. -/
theorem fields_eq_of_magnitude_eq {x y : Binary64} (h : x.magnitude = y.magnitude) :
    x.exponentField = y.exponentField ∧ x.fractionField = y.fractionField := by
  rcases Nat.lt_trichotomy x.exponentField y.exponentField with hlt | hexponent | hlt
  · exact absurd h (Nat.ne_of_lt (magnitude_lt_of_exponentField_lt hlt))
  · refine ⟨hexponent, ?_⟩
    rw [magnitude_eq, magnitude_eq, hexponent] at h
    by_cases hzero : y.exponentField = 0
    · rwa [if_pos hzero, if_pos hzero] at h
    · rw [if_neg hzero, if_neg hzero] at h
      have hsum := Nat.eq_of_mul_eq_mul_right (Nat.two_pow_pos _) h
      omega
  · exact absurd h.symm (Nat.ne_of_lt (magnitude_lt_of_exponentField_lt hlt))

theorem isZero_iff {x : Binary64} : x.isZero = true ↔ x.magnitude = 0 := by
  rw [isZero, Bool.and_eq_true, beq_iff_eq, beq_iff_eq, magnitude_eq]
  by_cases hzero : x.exponentField = 0
  · rw [if_pos hzero]
    exact and_iff_right hzero
  · rw [if_neg hzero]
    have hpos : 0 < fractionSize + x.fractionField := Nat.add_pos_left (by decide) _
    have hne := Nat.ne_of_gt (Nat.mul_pos hpos (Nat.two_pow_pos (x.exponentField - 1)))
    exact ⟨fun h => absurd h.1 hzero, fun h => absurd h hne⟩

theorem isInfinite_iff {x : Binary64} :
    x.isInfinite = true ↔ x.exponentField = 2047 ∧ x.fractionField = 0 := by
  rw [isInfinite, Bool.and_eq_true, beq_iff_eq, beq_iff_eq]

theorem number?_eq_infinite_iff {x : Binary64} {negative : Bool} :
    x.number? = some (.infinite negative) ↔ x.isInfinite = true ∧ x.isNegative = negative := by
  unfold number?
  by_cases hnan : x.isNaN = true
  · have hinfinite : x.isInfinite = false := by
      unfold isNaN at hnan
      unfold isInfinite
      grind
    simp [hnan, hinfinite]
  · by_cases hinfinite : x.isInfinite = true
    · simp [hnan, hinfinite]
    · simp [hnan, hinfinite]

theorem number?_eq_finite_iff {x : Binary64} {units : Int} :
    x.number? = some (.finite units) ↔ x.isNaN = false ∧ x.isInfinite = false ∧
      units = if x.isNegative then -(x.magnitude : Int) else x.magnitude := by
  unfold number?
  by_cases hnan : x.isNaN = true
  · simp [hnan]
  · by_cases hinfinite : x.isInfinite = true
    · simp [hinfinite]
    · rw [if_neg hnan, if_neg hinfinite, Option.some.injEq, Number.finite.injEq,
        and_iff_right (eq_false_of_ne_true hnan),
        and_iff_right (eq_false_of_ne_true hinfinite)]
      exact eq_comm

theorem number?_eq_none_iff {x : Binary64} : x.number? = none ↔ x.isNaN = true := by
  unfold number?
  by_cases hnan : x.isNaN = true
  · simp [hnan]
  · by_cases hinfinite : x.isInfinite = true
    · simp [hnan, hinfinite]
    · simp [hnan, hinfinite]

theorem number?_of_isZero {x : Binary64} (h : x.isZero = true) :
    x.number? = some (.finite 0) := by
  have hmagnitude := isZero_iff.mp h
  obtain ⟨hexponent, -⟩ : x.exponentField = 0 ∧ x.fractionField = 0 := by
    simpa [isZero] using h
  refine number?_eq_finite_iff.mpr ⟨?_, ?_, ?_⟩
  · simp [isNaN, hexponent]
  · simp [isInfinite, hexponent]
  · simp [hmagnitude]

/-- One integer of units has one bit pattern, unless it is zero. -/
theorem sameButZeroSign_of_units_eq {x y : Binary64}
    (h : (if x.isNegative then -(x.magnitude : Int) else x.magnitude) =
      if y.isNegative then -(y.magnitude : Int) else y.magnitude) : x.SameButZeroSign y := by
  by_cases hsign : x.isNegative = y.isNegative
  · have hmagnitude : x.magnitude = y.magnitude := by
      rw [hsign] at h
      split at h <;> omega
    obtain ⟨hexponent, hfraction⟩ := fields_eq_of_magnitude_eq hmagnitude
    exact .inl (eq_of_fields hsign hexponent hfraction)
  · have hother : x.isNegative = !y.isNegative := Bool.eq_not.mpr hsign
    have hzero : x.magnitude = 0 ∧ y.magnitude = 0 := by
      rw [hother] at h
      generalize y.isNegative = sign at h
      cases sign with
      | false =>
        change -(x.magnitude : Int) = y.magnitude at h
        omega
      | true =>
        change (x.magnitude : Int) = -y.magnitude at h
        omega
    exact .inr ⟨isZero_iff.mpr hzero.1, isZero_iff.mpr hzero.2⟩

/-- Floats are equal when they stand for the same number, which a NaN never does. -/
theorem beq_iff_number {x y : Binary64} :
    (x == y) = true ↔ ∃ number, x.number? = some number ∧ y.number? = some number := by
  rw [beq_iff]
  constructor
  · intro h
    obtain ⟨hx, -, rfl | ⟨hzero, hother⟩⟩ := h
    · have hnumber : x.number? ≠ none := fun hnone =>
        Bool.false_ne_true (hx.symm.trans (number?_eq_none_iff.mp hnone))
      obtain ⟨number, hnumber⟩ := Option.ne_none_iff_exists'.mp hnumber
      exact ⟨number, hnumber, hnumber⟩
    · exact ⟨.finite 0, number?_of_isZero hzero, number?_of_isZero hother⟩
  · intro h
    obtain ⟨number, hx, hy⟩ := h
    have hnan : x.isNaN = false ∧ y.isNaN = false := by
      rw [← Bool.not_eq_true, ← Bool.not_eq_true, ← number?_eq_none_iff, ← number?_eq_none_iff,
        hx, hy]
      exact ⟨Option.some_ne_none _, Option.some_ne_none _⟩
    refine ⟨hnan.1, hnan.2, ?_⟩
    cases number with
    | finite units =>
      obtain ⟨-, -, hfirst⟩ := number?_eq_finite_iff.mp hx
      obtain ⟨-, -, hsecond⟩ := number?_eq_finite_iff.mp hy
      exact sameButZeroSign_of_units_eq (hfirst.symm.trans hsecond)
    | infinite negative =>
      obtain ⟨hfirst, hsign⟩ := number?_eq_infinite_iff.mp hx
      obtain ⟨hsecond, hother⟩ := number?_eq_infinite_iff.mp hy
      obtain ⟨hexponent, hfraction⟩ := isInfinite_iff.mp hfirst
      obtain ⟨hexponent', hfraction'⟩ := isInfinite_iff.mp hsecond
      exact .inl (eq_of_fields (hsign.trans hother.symm) (hexponent.trans hexponent'.symm)
        (hfraction.trans hfraction'.symm))

end Binary64

namespace Value

theorem eqAll_iff_of {as bs : List Value}
    (hitems : ∀ a ∈ as, ∀ b : Value,
      (a == b) = true ↔ a.NaNFree ∧ b.NaNFree ∧ a.SameButZeroSigns b) :
    eqAll as bs = true ↔ NaNFreeAll as ∧ NaNFreeAll bs ∧ SameButZeroSignsAll as bs := by
  induction as generalizing bs with
  | nil =>
    rw [nil_eqAll_iff]
    cases bs <;> simp [NaNFreeAll, SameButZeroSignsAll]
  | cons a as ih =>
    have hrest := fun item hitem => hitems item (List.mem_cons_of_mem a hitem)
    cases bs with
    | nil => simp [cons_eqAll_iff, SameButZeroSignsAll]
    | cons b bs =>
      have hhead := hitems a List.mem_cons_self b
      have htail : eqAll as bs = true ↔ _ := ih hrest
      rw [eqAll, Bool.and_eq_true, htail]
      show (a == b) = true ∧ _ ↔ _
      rw [hhead, NaNFreeAll, NaNFreeAll, SameButZeroSignsAll]
      constructor
      · intro h
        obtain ⟨⟨ha, hb, hsame⟩, has, hbs, hsames⟩ := h
        exact ⟨⟨ha, has⟩, ⟨hb, hbs⟩, hsame, hsames⟩
      · intro h
        obtain ⟨⟨ha, has⟩, ⟨hb, hbs⟩, hsame, hsames⟩ := h
        exact ⟨⟨ha, hb, hsame⟩, has, hbs, hsames⟩

/-- Values are equal when no NaN occurs in them and they are identical but for the signs of
zeros. -/
theorem beq_iff (a b : Value) :
    (a == b) = true ↔ a.NaNFree ∧ b.NaNFree ∧ a.SameButZeroSigns b := by
  induction a using Value.induction generalizing b with
  | integer number => cases b <;> simp [integer_beq_iff, NaNFree, SameButZeroSigns]
  | float number => cases b <;> simp [float_beq_iff, Binary64.beq_iff, NaNFree, SameButZeroSigns]
  | boolean truth => cases b <;> simp [boolean_beq_iff, NaNFree, SameButZeroSigns]
  | string text => cases b <;> simp [string_beq_iff, NaNFree, SameButZeroSigns]
  | atom name => cases b <;> simp [atom_beq_iff, NaNFree, SameButZeroSigns]
  | tuple items ih =>
    cases b <;> simp [tuple_beq_iff, eqAll_iff_of ih, NaNFree, SameButZeroSigns]
  | data tag fields ih =>
    cases b with
    | data other fields =>
      rw [data_beq_iff, NaNFree, NaNFree, SameButZeroSigns]
      constructor
      · intro h
        obtain ⟨_, ⟨⟩, hfields⟩ := h
        obtain ⟨hfirst, hsecond, hsame⟩ := (eqAll_iff_of ih).mp hfields
        exact ⟨hfirst, hsecond, rfl, hsame⟩
      · intro h
        obtain ⟨hfirst, hsecond, rfl, hsame⟩ := h
        exact ⟨fields, rfl, (eqAll_iff_of ih).mpr ⟨hfirst, hsecond, hsame⟩⟩
    | _ => simp [data_beq_iff, SameButZeroSigns]
  | unit => cases b <;> simp [unit_beq_iff, NaNFree, SameButZeroSigns]

/-- Equality of values is symmetric and transitive, and a value equals itself just when no NaN
occurs in it. Equal values have one shape and differ at most in the signs of zeros; floats are
equal when they stand for one number. -/
theorem equality_is_partial_equivalence :
    (∀ a b : Value, (a == b) = true → (b == a) = true) ∧
    (∀ a b c : Value, (a == b) = true → (b == c) = true → (a == c) = true) ∧
    (∀ a : Value, (a == a) = true ↔ a.NaNFree) ∧
    (∀ a b : Value, (a == b) = true ↔ a.NaNFree ∧ b.NaNFree ∧ a.SameButZeroSigns b) ∧
    ∀ x y : Binary64, (float x == float y) = true ↔
      ∃ number, x.number? = some number ∧ y.number? = some number := by
  refine ⟨beq_symm, beq_trans, ?_, beq_iff, ?_⟩
  · intro a
    exact ⟨fun h => ((beq_iff a a).mp h).1, beq_self_of_nanFree⟩
  · intro x y
    rw [float_beq_iff, ← Binary64.beq_iff_number]
    constructor
    · intro h
      obtain ⟨_, ⟨⟩, hnumber⟩ := h
      exact hnumber
    · intro h
      exact ⟨y, rfl, h⟩

/-- Zeros of changing signs at two depths. -/
theorem equality_is_partial_equivalence_signed_zeros :
    let zero := Value.float ⟨0⟩
    let minusZero := Value.float ⟨0x8000000000000000⟩
    let a := tuple [zero, data "Point" [minusZero, integer 1]]
    let b := tuple [minusZero, data "Point" [zero, integer 1]]
    let c := tuple [zero, data "Point" [zero, integer 1]]
    (a == b) = true ∧ (b == c) = true ∧ (b == a) = true ∧ (a == c) = true := by
  intro zero minusZero a b c
  have hab : (a == b) = true := rfl
  have hbc : (b == c) = true := rfl
  obtain ⟨hsymm, htrans, -⟩ := equality_is_partial_equivalence
  exact ⟨hab, hbc, hsymm a b hab, htrans a b c hab hbc⟩

/-- A NaN makes a value unequal to itself, though its shape is the same. -/
example :
    let a := tuple [integer 1, float ⟨0x7ff8000000000000⟩]
    (a == a) = false ∧ a.SameButZeroSigns a := ⟨rfl, rfl, .inl rfl, trivial⟩

end Value

end GuardedRules
