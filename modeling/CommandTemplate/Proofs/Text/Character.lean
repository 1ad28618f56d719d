import CommandTemplate.Text.Scanner

/-!
Classes of ASCII characters.

Each class is a range of code points, and an upper-case letter and its lower-case letter are 32
apart; all else about them is arithmetic.
-/

namespace CommandTemplate.Text

theorem isUpper_iff {c : Char} : c.isUpper = true ↔ 65 ≤ c.toNat ∧ c.toNat ≤ 90 := by
  show decide ((65 : UInt32) ≤ c.val ∧ c.val ≤ (90 : UInt32)) = true ↔ _
  rw [decide_eq_true_iff, UInt32.le_iff_toNat_le, UInt32.le_iff_toNat_le]
  rfl

theorem isLower_iff {c : Char} : c.isLower = true ↔ 97 ≤ c.toNat ∧ c.toNat ≤ 122 := by
  show (decide ((97 : UInt32) ≤ c.val) && decide (c.val ≤ (122 : UInt32))) = true ↔ _
  rw [Bool.and_eq_true, decide_eq_true_iff, decide_eq_true_iff, UInt32.le_iff_toNat_le,
    UInt32.le_iff_toNat_le]
  rfl

theorem isDigit_iff {c : Char} : c.isDigit = true ↔ 48 ≤ c.toNat ∧ c.toNat ≤ 57 :=
  Char.isDigit_iff_toNat

theorem isAlpha_iff {c : Char} : c.isAlpha = true ↔ c.isUpper = true ∨ c.isLower = true := by
  show (c.isUpper || c.isLower) = true ↔ _
  rw [Bool.or_eq_true]

theorem isAlphanum_iff {c : Char} :
    c.isAlphanum = true ↔ c.isAlpha = true ∨ c.isDigit = true := by
  show (c.isAlpha || c.isDigit) = true ↔ _
  rw [Bool.or_eq_true]

theorem toLower_of_not_isUpper {c : Char} (h : ¬ c.isUpper = true) : c.toLower = c :=
  dif_neg (mt decide_eq_true_iff.2 h)

/-- A capital letter and its small letter are 32 apart. -/
theorem toNat_toLower {c : Char} (h : c.isUpper = true) : c.toLower.toNat = c.toNat + 32 := by
  have hc := isUpper_iff.1 h
  have hval : c.val.toNat = c.toNat := rfl
  have hlower : c.toLower = ⟨c.val + 32, _⟩ := dif_pos (decide_eq_true_iff.1 h)
  rw [hlower]
  show (c.val + 32).toNat = c.val.toNat + 32
  rw [UInt32.toNat_add, show (32 : UInt32).toNat = 32 from rfl]
  omega

/-- Every letter becomes a small one. -/
theorem isLower_toLower {c : Char} (h : c.isAlpha = true) : c.toLower.isLower = true := by
  by_cases hc : c.isUpper = true
  · have := isUpper_iff.1 hc
    rw [isLower_iff, toNat_toLower hc]
    omega
  · rw [toLower_of_not_isUpper hc]
    exact (isAlpha_iff.1 h).resolve_left hc

/-- A lower-case letter is its own lower-case letter, and so is all but an upper-case letter. -/
theorem toLower_eq_self {c : Char} (h : ¬ c.toLower.isLower = true) : c.toLower = c :=
  toLower_of_not_isUpper fun hc => h (isLower_toLower (isAlpha_iff.2 (.inl hc)))

theorem not_isUpper_of_isLower {c : Char} (h : c.isLower = true) : ¬ c.isUpper = true := by
  rw [isLower_iff] at h
  rw [isUpper_iff]
  omega

theorem not_isUpper_of_isDigit {c : Char} (h : c.isDigit = true) : ¬ c.isUpper = true := by
  rw [isDigit_iff] at h
  rw [isUpper_iff]
  omega

theorem not_isLower_of_isDigit {c : Char} (h : c.isDigit = true) : ¬ c.isLower = true := by
  rw [isDigit_iff] at h
  rw [isLower_iff]
  omega

/-- A text without upper-case letters is left as it is. -/
theorem map_toLower_eq_self {text : List Char} (h : ∀ c ∈ text, ¬ c.isUpper = true) :
    text.map Char.toLower = text := by
  rw [List.map_congr_left fun c hc => toLower_of_not_isUpper (h c hc), List.map_id']

end CommandTemplate.Text
