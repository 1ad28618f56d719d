import CommandTemplate.Number.Rounding
import CommandTemplate.Proofs.Number.Integer
import CommandTemplate.Proofs.Text.Blank
import Mathlib.Algebra.Order.Field.Rat
import Mathlib.Data.Rat.Cast.Order
import Mathlib.Order.Bounds.Basic
import Mathlib.Tactic.FieldSimp
import Mathlib.Tactic.Ring

/-!
Numbers in decimal notation.

A `Numeral` is what a number without a sign is written as: digits without a superfluous zero in
front, and perhaps a point with further digits behind it.  It has a `text` and, as an exact
rational, a `value`.  Both layouts of decimals are shown to be numerals of the value that they
stand for: `Decimal.positional`, which writes a decimal in full, and `fixedText`, whose digits
behind the point are as few as its value and the least number of them allow.
-/

namespace CommandTemplate.Number

/-! ### Values of digits -/

@[simp] theorem ofDigits_nil : ofDigits [] = 0 := rfl

/-- Digits behind others move these by as many places. -/
theorem ofDigits_append (s t : List Char) :
    ofDigits (s ++ t) = ofDigits s * 10 ^ t.length + ofDigits t := by
  have happend : ofDigits (s ++ t) = Nat.ofDigitChars 10 t (ofDigits s) :=
    Nat.ofDigitChars_append 0
  rw [happend, Nat.ofDigitChars_eq_ofDigitChars_zero, Nat.mul_comm]
  rfl

theorem ofDigits_replicate_zero (n : Nat) : ofDigits (List.replicate n '0') = 0 :=
  Nat.ofDigitChars_replicate_zero

/-- Zeros in front of digits do not count. -/
theorem ofDigits_zeros_append (n : Nat) (digits : List Char) :
    ofDigits (List.replicate n '0' ++ digits) = ofDigits digits := by
  rw [ofDigits_append, ofDigits_replicate_zero, Nat.zero_mul, Nat.zero_add]

/-- Zeros behind digits are powers of ten. -/
theorem ofDigits_append_zeros (digits : List Char) (n : Nat) :
    ofDigits (digits ++ List.replicate n '0') = ofDigits digits * 10 ^ n := by
  rw [ofDigits_append, ofDigits_replicate_zero, List.length_replicate, Nat.add_zero]

/-- The last digit is zero where ten divides the number. -/
theorem eq_zero_of_dvd_ofDigits {digits : List Char} {c : Char} (hc : c.isDigit = true)
    (h : 10 ∣ ofDigits (digits ++ [c])) : c = '0' := by
  have hdigit := Text.isDigit_iff.1 hc
  have hvalue : ofDigits (digits ++ [c]) = 10 * ofDigits digits + (c.toNat - 48) := by
    rw [ofDigits_append]
    show ofDigits digits * 10 + (10 * 0 + (c.toNat - 48)) = _
    omega
  have hzero : '0'.toNat = 48 := rfl
  exact Char.toNat_inj.1 (by omega)

/-- The digits of a number do not start with a zero. -/
theorem exists_toDigits_cons {n : Nat} (hn : n ≠ 0) :
    ∃ c digits, Nat.toDigits 10 n = c :: digits ∧ c ≠ '0' := by
  induction n using Nat.strongRecOn with
  | ind n ih =>
    rw [Nat.toDigits_eq_if (by decide)]
    split
    · next hlt =>
      exact ⟨n.digitChar, [], rfl, fun hzero => hn (Nat.digitChar_eq_zero.1 hzero)⟩
    · next hge =>
      -- the digits of a tenth of the number stand in front of the last one
      obtain ⟨c, digits, hdigits, hc⟩ := ih (n / 10) (by omega) (by omega)
      exact ⟨c, digits ++ [(n % 10).digitChar], by rw [hdigits, List.cons_append], hc⟩

/-! ### Numerals -/

/-- Digits before and behind a point, without a superfluous zero in front. -/
structure Numeral where
  whole : List Char
  fraction : List Char
  isDigit_whole : ∀ c ∈ whole, c.isDigit = true
  isDigit_fraction : ∀ c ∈ fraction, c.isDigit = true
  leading : whole = ['0'] ∨ ∃ c digits, whole = c :: digits ∧ c ≠ '0'

namespace Numeral

/-- A numeral has a point just if there are digits behind it. -/
def text (n : Numeral) : String :=
  String.ofList (n.whole ++ if n.fraction = [] then [] else '.' :: n.fraction)

def value (n : Numeral) : ℚ :=
  ofDigits (n.whole ++ n.fraction) / 10 ^ n.fraction.length

/-- The places behind the point that it takes to write a number, where there have to be `least` of
them. -/
def Places (least : Nat) (value : ℚ) : Set Nat :=
  { k | least ≤ k ∧ ∃ units : ℤ, value * 10 ^ k = units }

/-- A number that is written with some places is a number of units of the last of them, and of any
place behind that. -/
theorem exists_units (n : Numeral) {k : Nat} (h : n.fraction.length ≤ k) :
    ∃ units : Nat, n.value * 10 ^ k = units := by
  obtain ⟨more, rfl⟩ := Nat.exists_eq_add_of_le h
  have hpow : (10 : ℚ) ^ n.fraction.length ≠ 0 := pow_ne_zero _ (by norm_num)
  refine ⟨ofDigits (n.whole ++ n.fraction) * 10 ^ more, ?_⟩
  rw [value, pow_add, ← mul_assoc, div_mul_cancel₀ _ hpow]
  push_cast
  rfl

/-- The digits of a whole number, and others behind the point. -/
def ofWhole (n : Nat) (fraction : List Char) (h : ∀ c ∈ fraction, c.isDigit = true) : Numeral where
  whole := Nat.toDigits 10 n
  fraction := fraction
  isDigit_whole := isDigit_of_mem_toDigits
  isDigit_fraction := h
  leading := by
    by_cases hn : n = 0
    · exact .inl (hn ▸ Nat.toDigits_zero 10)
    · exact .inr (exists_toDigits_cons hn)

/-- The value of a numeral is its whole part and the fraction behind the point. -/
theorem value_ofWhole {n : Nat} {fraction : List Char} (h : ∀ c ∈ fraction, c.isDigit = true) :
    (ofWhole n fraction h).value = n + ofDigits fraction / 10 ^ fraction.length := by
  show ((ofDigits (Nat.toDigits 10 n ++ fraction) : Nat) : ℚ) / _ = _
  rw [ofDigits_append, ofDigits_toDigits, add_div_eq_mul_add_div _ _ (pow_ne_zero _ (by norm_num))]
  push_cast
  rfl

/-- Of places that are more than have to be, the last one is no zero. -/
theorem isLeast_places {n : Numeral} {least : Nat} (hleast : least ≤ n.fraction.length)
    (hlast : least < n.fraction.length → ∀ c ∈ n.fraction.getLast?, c ≠ '0') :
    IsLeast (Places least n.value) n.fraction.length := by
  have hpow (k : Nat) : (10 : ℚ) ^ k ≠ 0 := pow_ne_zero k (by norm_num)
  refine ⟨⟨hleast, ?_⟩, ?_⟩
  · obtain ⟨units, hunits⟩ := n.exists_units (Nat.le_refl _)
    exact ⟨units, hunits⟩
  rintro k ⟨hk, units, hunits⟩
  by_contra hlt
  -- with fewer places there is a last digit, which ten divides
  obtain ⟨j, hj⟩ : ∃ j, n.fraction.length = k + (j + 1) :=
    Nat.exists_eq_add_of_lt (Nat.lt_of_not_le hlt)
  have hne : n.fraction ≠ [] := by
    intro hnil
    rw [hnil] at hj
    cases k <;> cases hj
  have hvalue : (ofDigits (n.whole ++ n.fraction) : ℤ) = 10 * (units * 10 ^ j) := by
    rw [value, hj, div_mul_eq_mul_div, div_eq_iff (hpow _)] at hunits
    have hscaled : ((ofDigits (n.whole ++ n.fraction) : ℤ) : ℚ) * 10 ^ k =
        ((10 * (units * 10 ^ j) : ℤ) : ℚ) * 10 ^ k := by
      push_cast
      rw [hunits]
      ring
    exact_mod_cast mul_right_cancel₀ (hpow k) hscaled
  have hdvd : 10 ∣ ofDigits (n.whole ++ n.fraction) := by
    have : (10 : ℤ) ∣ (ofDigits (n.whole ++ n.fraction) : ℤ) := ⟨_, hvalue⟩
    exact_mod_cast this
  rw [← List.dropLast_append_getLast hne, ← List.append_assoc] at hdvd
  have hdigit := n.isDigit_fraction _ (List.getLast_mem hne)
  exact hlast (by omega) _ (List.getLast?_eq_some_getLast hne)
    (eq_zero_of_dvd_ofDigits hdigit hdvd)

end Numeral

/-! ### Decimals in full -/

theorem toList_toString_nat (n : Nat) : (toString n).toList = Nat.toDigits 10 n :=
  Nat.toList_repr

/-- Zeros in front of digits are digits. -/
theorem isDigit_of_mem_zeros {n : Nat} {digits : List Char} (h : ∀ c ∈ digits, c.isDigit = true) :
    ∀ c ∈ List.replicate n '0' ++ digits, c.isDigit = true := by
  intro c hc
  rcases List.mem_append.1 hc with hc | hc
  · rw [List.eq_of_mem_replicate hc]
    rfl
  · exact h c hc

/-- The digits of a number that is multiplied by a power of ten. -/
theorem toDigits_mul_pow {n : Nat} (hn : n ≠ 0) (e : Nat) :
    Nat.toDigits 10 (n * 10 ^ e) = Nat.toDigits 10 n ++ List.replicate e '0' := by
  induction e with
  | zero => simp
  | succ e ih =>
    have hpos : 0 < n * 10 ^ e := Nat.mul_pos (Nat.pos_of_ne_zero hn) (Nat.pow_pos (by decide))
    have hstep := Nat.toDigits_append_toDigits (b := 10) (d := 0) (by decide) hpos (by decide)
    rw [Nat.toDigits_zero, ih] at hstep
    rw [List.replicate_succ', ← List.append_assoc, hstep]
    congr 1
    ring

namespace Decimal

/-- A decimal is written in full as the numeral that has its parts. -/
theorem positional_eq {d : Decimal} {n : Numeral} (h : d.parts = (n.whole, n.fraction)) :
    d.positional = n.text := by
  unfold positional Numeral.text
  rw [h]
  cases n.fraction <;> simp

/-- A whole number is written with zeros in the place of its power of ten. -/
theorem parts_of_whole {d : Decimal} (h : 0 ≤ d.exponent) :
    d.parts = (Nat.toDigits 10 d.units, []) := by
  have hunits : d.units = d.digits * 10 ^ d.exponent.toNat := rfl
  simp only [parts, if_pos h, toList_toString_nat, hunits]
  by_cases hzero : d.digits = 0
  · simp [hzero]
  · rw [if_neg hzero, toDigits_mul_pow hzero]

/-- The digits before the point of a number with places are a zero or start with none. -/
theorem leading_take {n places : Nat} (hplaces : 0 < places) :
    let digits := List.replicate (places + 1 - (Nat.toDigits 10 n).length) '0' ++ Nat.toDigits 10 n
    let whole := digits.take (digits.length - places)
    whole = ['0'] ∨ ∃ c rest, whole = c :: rest ∧ c ≠ '0' := by
  intro digits whole
  by_cases hshort : (Nat.toDigits 10 n).length ≤ places
  · -- a zero in front of the point is the first of those that fill up the places
    left
    obtain ⟨zeros, hzeros⟩ : ∃ k, places + 1 - (Nat.toDigits 10 n).length = k + 1 :=
      ⟨_, Nat.succ_sub hshort⟩
    have hlength : digits.length - places = 1 := by
      simp only [digits, List.length_append, List.length_replicate]
      omega
    show digits.take (digits.length - places) = ['0']
    rw [hlength]
    simp only [digits, hzeros]
    rfl
  · right
    have hn : n ≠ 0 := by
      rintro rfl
      rw [Nat.toDigits_zero] at hshort
      exact hshort hplaces
    obtain ⟨c, rest, hdigits, hc⟩ := exists_toDigits_cons hn
    rw [hdigits, List.length_cons] at hshort
    have hnone : places + 1 - (rest.length + 1) = 0 := by omega
    obtain ⟨k, hk⟩ : ∃ k, rest.length + 1 - places = k + 1 :=
      ⟨_, Nat.succ_sub (Nat.le_of_lt_succ (Nat.lt_of_not_le hshort))⟩
    refine ⟨c, rest.take k, ?_, hc⟩
    simp only [whole, digits, hdigits, List.length_cons, hnone, List.replicate_zero,
      List.nil_append, hk, List.take_succ_cons]

/-- A decimal that is written in full is a numeral with all of its places. -/
theorem exists_numeral_positional (d : Decimal) :
    ∃ n : Numeral, d.positional = n.text ∧ n.value = d.units / 10 ^ d.places := by
  by_cases hexponent : 0 ≤ d.exponent
  · have hplaces : d.places = 0 := by unfold places; omega
    refine ⟨.ofWhole d.units [] nofun, positional_eq (parts_of_whole hexponent), ?_⟩
    rw [Numeral.value_ofWhole, hplaces]
    simp
  · have hpos : 0 < d.places := by unfold places; omega
    have hunits : d.units = d.digits := by
      have hzero : d.exponent.toNat = 0 := by omega
      rw [units, hzero]
      exact Nat.mul_one _
    -- the digits are filled up with zeros, so that one of them is in front of the point
    let digits :=
      List.replicate (d.places + 1 - (Nat.toDigits 10 d.digits).length) '0' ++
        Nat.toDigits 10 d.digits
    have hdigits : ∀ c ∈ digits, c.isDigit = true := isDigit_of_mem_zeros isDigit_of_mem_toDigits
    let whole := digits.take (digits.length - d.places)
    let fraction := digits.drop (digits.length - d.places)
    have hlength : fraction.length = d.places := by
      simp only [fraction, digits, List.length_drop, List.length_append, List.length_replicate]
      omega
    let n : Numeral :=
      { whole, fraction
        isDigit_whole := fun c hc => hdigits c (List.mem_of_mem_take hc)
        isDigit_fraction := fun c hc => hdigits c (List.mem_of_mem_drop hc)
        leading := leading_take hpos }
    refine ⟨n, positional_eq ?_, ?_⟩
    · simp only [parts, if_neg hexponent, List.splitAt_eq, toList_toString_nat]
      rfl
    · show ((ofDigits (whole ++ fraction) : Nat) : ℚ) / 10 ^ fraction.length = _
      rw [hlength, List.take_append_drop, ofDigits_zeros_append, ofDigits_toDigits, hunits]

end Decimal

/-! ### Fitting the places -/

section

variable {least places units : Nat} {digits : List Char}

/-- Zeros at the end of the places do not count. -/
theorem value_append_zeros (digits : List Char) (n : Nat) :
    (ofDigits (digits ++ List.replicate n '0') : ℚ) /
        10 ^ (digits ++ List.replicate n '0').length =
      ofDigits digits / 10 ^ digits.length := by
  have hpow : (10 : ℚ) ^ n ≠ 0 := pow_ne_zero n (by norm_num)
  rw [ofDigits_append_zeros, List.length_append, List.length_replicate, pow_add]
  push_cast
  exact mul_div_mul_right _ _ hpow

/-- Places that fit are digits. -/
theorem isDigit_of_mem_fitPlaces (h : ∀ c ∈ digits, c.isDigit = true) :
    ∀ c ∈ fitPlaces least digits, c.isDigit = true := by
  obtain ⟨back, hback, -⟩ := Text.exists_dropEndWhile_append (· == '0') digits
  intro c hc
  rcases List.mem_append.1 hc with hc | hc
  · apply h
    rw [hback]
    exact List.mem_append_left back hc
  · rw [List.eq_of_mem_replicate hc]
    rfl

/-- Fitting the places keeps the value. -/
theorem value_fitPlaces (least : Nat) (digits : List Char) :
    (ofDigits (fitPlaces least digits) : ℚ) / 10 ^ (fitPlaces least digits).length =
      ofDigits digits / 10 ^ digits.length := by
  obtain ⟨back, hback, hzeros⟩ := Text.exists_dropEndWhile_append (· == '0') digits
  have hreplicate : back = List.replicate back.length '0' :=
    List.eq_replicate_of_mem fun c hc => beq_iff_eq.1 (hzeros c hc)
  calc (ofDigits (fitPlaces least digits) : ℚ) / 10 ^ (fitPlaces least digits).length
      = ofDigits (Text.dropEndWhile (· == '0') digits) /
          10 ^ (Text.dropEndWhile (· == '0') digits).length := value_append_zeros _ _
    _ = ofDigits digits / 10 ^ digits.length := by
      rw [← value_append_zeros _ back.length, ← hreplicate, ← hback]

/-- There are as many places as there have to be. -/
theorem le_length_fitPlaces (least : Nat) (digits : List Char) :
    least ≤ (fitPlaces least digits).length := by
  simp only [fitPlaces, List.length_append, List.length_replicate]
  omega

/-- Places that are not filled up do not end with a zero. -/
theorem ne_zero_of_mem_getLast?_fitPlaces (h : least < (fitPlaces least digits).length) :
    ∀ c ∈ (fitPlaces least digits).getLast?, c ≠ '0' := by
  intro c hc
  have hnone : least - (Text.dropEndWhile (· == '0') digits).length = 0 := by
    simp only [fitPlaces, List.length_append, List.length_replicate] at h
    omega
  simp only [fitPlaces, hnone, List.replicate_zero, List.append_nil] at hc
  simpa using Text.of_mem_getLast?_dropEndWhile hc

/-- A number that fits is filled up to the width. -/
theorem toList_padded (width n : Nat) : (padded width n).toList =
    List.replicate (width - (Nat.toDigits 10 n).length) '0' ++ Nat.toDigits 10 n := by
  have hlength : (toString n).length = (Nat.toDigits 10 n).length := by
    rw [← String.length_toList, toList_toString_nat]
  simp only [padded, String.toList_append, String.toList_ofList, hlength, toList_toString_nat]

/-- The digits behind the point before they are fitted. -/
def placesOf (places units : Nat) : List Char :=
  if places = 0 then [] else (padded places (units % Nat.pow 10 places)).toList

theorem isDigit_of_mem_placesOf : ∀ c ∈ placesOf places units, c.isDigit = true := by
  intro c hc
  unfold placesOf at hc
  split at hc
  · cases hc
  · rw [toList_padded] at hc
    exact isDigit_of_mem_zeros isDigit_of_mem_toDigits c hc

/-- There is a digit for each place. -/
theorem length_placesOf : (placesOf places units).length = places := by
  unfold placesOf
  split
  · next h => rw [h]; rfl
  · next h =>
    have hpos : 0 < places := Nat.pos_of_ne_zero h
    have hlt : units % Nat.pow 10 places < 10 ^ places := Nat.mod_lt _ (Nat.pow_pos (by decide))
    have hle := (Nat.length_toDigits_le_iff (by decide) hpos).2 hlt
    rw [toList_padded, List.length_append, List.length_replicate]
    omega

/-- The digits behind the point are the units that do not make a whole. -/
theorem ofDigits_placesOf : ofDigits (placesOf places units) = units % 10 ^ places := by
  unfold placesOf
  split
  · next h => rw [h, Nat.pow_zero, Nat.mod_one]; rfl
  · rw [toList_padded, ofDigits_zeros_append, ofDigits_toDigits]
    rfl

/-- A fixed text has a point if there are digits behind it. -/
theorem fixedText_eq (units places least : Nat) : fixedText units places least =
    String.ofList (Nat.toDigits 10 (units / 10 ^ places) ++
      if fitPlaces least (placesOf places units) = [] then []
      else '.' :: fitPlaces least (placesOf places units)) := by
  have hwhole : toString (units / Nat.pow 10 places) =
      String.ofList (Nat.toDigits 10 (units / 10 ^ places)) := rfl
  rw [fixedText, hwhole, ← placesOf]
  cases fitPlaces least (placesOf places units) with
  | nil => simp
  | cons c digits => simp [String.ofList_append, String.append_assoc]

/-- A number of units of the last place is written as a numeral with no more places than it
takes. -/
theorem exists_numeral_fixedText (units places least : Nat) :
    ∃ n : Numeral, fixedText units places least = n.text ∧ n.value = units / 10 ^ places ∧
      IsLeast (Numeral.Places least n.value) n.fraction.length := by
  let fraction := fitPlaces least (placesOf places units)
  have hfraction : ∀ c ∈ fraction, c.isDigit = true :=
    isDigit_of_mem_fitPlaces isDigit_of_mem_placesOf
  let n := Numeral.ofWhole (units / 10 ^ places) fraction hfraction
  refine ⟨n, ?_, ?_, Numeral.isLeast_places (le_length_fitPlaces _ _)
    ne_zero_of_mem_getLast?_fitPlaces⟩
  · exact fixedText_eq units places least
  · have hpow : (10 : ℚ) ^ places ≠ 0 := pow_ne_zero places (by norm_num)
    have hdivision : ((10 ^ places * (units / 10 ^ places) + units % 10 ^ places : Nat) : ℚ) =
        (units : ℚ) := by rw [Nat.div_add_mod]
    push_cast at hdivision
    rw [Numeral.value_ofWhole, value_fitPlaces, ofDigits_placesOf, length_placesOf,
      eq_div_iff hpow, add_mul, div_mul_cancel₀ _ hpow, ← hdivision]
    ring

end

end CommandTemplate.Number
