import CommandTemplate.Number.Integer
import CommandTemplate.Proofs.Text.Character

/-!
Reading whole numbers.

A number that fits in 64 bits is read where it is written in decimal notation, and a text that
starts with something else than a sign or a digit is none.
-/

namespace CommandTemplate.Number

theorem ofDigits_toDigits (n : Nat) : ofDigits (Nat.toDigits 10 n) = n :=
  Nat.ofDigitChars_ten_toDigits

theorem isDigit_of_mem_toDigits {n : Nat} : ∀ c ∈ Nat.toDigits 10 n, c.isDigit = true :=
  fun _ => Nat.isDigit_of_mem_toDigits (by decide) (by decide)

theorem readDigits?_toDigits (n : Nat) : readDigits? (Nat.toDigits 10 n) = some n := by
  rw [readDigits?, if_pos ⟨Nat.toDigits_ne_nil, List.all_eq_true.2 isDigit_of_mem_toDigits⟩,
    ofDigits_toDigits]

/-- Digits have no sign in front. -/
theorem head?_toDigits_ne {n : Nat} {c : Char} (hc : c.isDigit = false) {s : List Char} :
    Nat.toDigits 10 n ≠ c :: s := by
  intro h
  have hdigit := isDigit_of_mem_toDigits c (h ▸ List.mem_cons_self : c ∈ Nat.toDigits 10 n)
  rw [hc] at hdigit
  cases hdigit

/-- Digits without a sign are read as their value. -/
theorem readNat?_digits {digits : List Char} (hne : digits ≠ [])
    (h : ∀ c ∈ digits, c.isDigit = true) : readNat? digits = some (ofDigits digits) := by
  unfold readNat?
  split
  · cases h '+' List.mem_cons_self
  · rw [readDigits?, if_pos ⟨hne, List.all_eq_true.2 h⟩]

theorem readNat?_toDigits (n : Nat) : readNat? (Nat.toDigits 10 n) = some n := by
  rw [readNat?_digits Nat.toDigits_ne_nil isDigit_of_mem_toDigits, ofDigits_toDigits]

/-- Digits are read as a number of 64 bits if their value fits. -/
theorem readUnsigned?_toDigits {n : Nat} (h : n < 0x10000000000000000) :
    readUnsigned? (Nat.toDigits 10 n) = some n := by
  rw [readUnsigned?, readNat?_toDigits]
  simpa using h

/-- A number is no smaller than its first digit. -/
theorem toNat_sub_le_ofDigits (c : Char) (s : List Char) :
    c.toNat - '0'.toNat ≤ ofDigits (c :: s) := by
  have hle (n : Nat) : n ≤ s.foldl (fun n c => 10 * n + (c.toNat - '0'.toNat)) n := by
    induction s generalizing n with
    | nil => exact Nat.le_refl n
    | cons d s ih => exact Nat.le_trans (by dsimp only; omega) (ih _)
  rw [ofDigits, List.foldl_cons, Nat.mul_zero, Nat.zero_add]
  exact hle _

/-- Digits whose value is zero start with a zero. -/
theorem eq_zero_of_readUnsigned? {c : Char} {s : List Char} (hc : c.isDigit = true)
    (h : readUnsigned? (c :: s) = some 0) : c = '0' := by
  obtain ⟨hvalue, -⟩ := Option.filter_eq_some_iff.1 h
  have hplus : c ≠ '+' := by rintro rfl; cases hc
  have hdigits : readNat? (c :: s) = readDigits? (c :: s) := by simp [readNat?, hplus]
  rw [hdigits, readDigits?, Option.ite_none_right_eq_some] at hvalue
  have hle := toNat_sub_le_ofDigits c s
  rw [Option.some.inj hvalue.2] at hle
  have hzero : '0'.toNat = 48 := rfl
  have := Text.isDigit_iff.1 hc
  exact Char.toNat_inj.1 (by omega)

/-- The decimal notation of a number: its digits, behind a minus sign if it is negative. -/
theorem toList_toString (n : Int) :
    (toString n).toList =
      if n < 0 then '-' :: Nat.toDigits 10 n.natAbs else Nat.toDigits 10 n.natAbs := by
  cases n with
  | ofNat n =>
    show (Nat.repr n).toList = if (n : Int) < 0 then _ else _
    rw [if_neg (Int.not_lt.2 (Int.natCast_nonneg n)), Nat.repr, String.toList_ofList]
    rfl
  | negSucc n =>
    show ("-" ++ Nat.repr (n + 1)).toList = _
    rw [if_pos (Int.negSucc_lt_zero n), Nat.repr, String.toList_append, String.toList_ofList,
      String.toList_ofList]
    rfl

/-- A whole number is written with digits and a sign. -/
theorem of_mem_toString {n : Int} {c : Char} (h : c ∈ (toString n).toList) :
    c = '-' ∨ c.isDigit = true := by
  rw [toList_toString] at h
  split at h
  · exact (List.mem_cons.1 h).imp_right (isDigit_of_mem_toDigits c)
  · exact .inr (isDigit_of_mem_toDigits c h)

/-- A whole number is read back from its text. -/
theorem readInt?_toString (n : Int) : readInt? (toString n).toList = some n := by
  rw [toList_toString]
  split
  · next hneg =>
    rw [readInt?, readDigits?_toDigits]
    exact congrArg some (show -(n.natAbs : Int) = n by omega)
  · next hpos =>
    unfold readInt?
    split
    · next digits h => exact absurd h (head?_toDigits_ne (by decide))
    · rw [readNat?_toDigits]
      exact congrArg some (show (n.natAbs : Int) = n by omega)

/-- A number is read where it is written if it fits in 64 bits. -/
theorem readSigned?_toString {n : Int} (h : fitsSigned n = true) :
    readSigned? (toString n).toList = some n := by
  rw [readSigned?, readInt?_toString]
  exact Option.filter_eq_some_iff.2 ⟨rfl, h⟩

/-- What starts with another character is no number. -/
theorem readNat?_eq_none {c : Char} {s : List Char} (hplus : c ≠ '+')
    (hdigit : c.isDigit = false) : readNat? (c :: s) = none := by
  simp [readNat?, readDigits?, hplus, hdigit]

theorem readUnsigned?_eq_none {c : Char} {s : List Char} (hplus : c ≠ '+')
    (hdigit : c.isDigit = false) : readUnsigned? (c :: s) = none := by
  rw [readUnsigned?, readNat?_eq_none hplus hdigit]
  rfl

/-- A number starts with a sign or a digit. -/
theorem readSigned?_eq_none {c : Char} {s : List Char} (hplus : c ≠ '+') (hminus : c ≠ '-')
    (hdigit : c.isDigit = false) : readSigned? (c :: s) = none := by
  have hint : readInt? (c :: s) = none := by
    simp [readInt?, hminus, readNat?_eq_none hplus hdigit]
  rw [readSigned?, hint]
  rfl

end CommandTemplate.Number
