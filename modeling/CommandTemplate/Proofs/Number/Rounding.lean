import CommandTemplate.Proofs.Number.Numeral
import Mathlib.Algebra.Order.Round
import Mathlib.Data.Rat.Floor
import Mathlib.Tactic.Linarith
import Mathlib.Tactic.NormNum

/-!
Rounding is exact.

`RoundingMode.Rounds mode x z` says which whole number a rational is rounded to, in terms of its
neighbours `⌊x⌋` and `⌈x⌉` and its distance from them.  The program decides by the digits that it
drops; `RoundingMode.rounds_div` shows that this comes to the same, whatever the sign.
`Rounding.exists_text_eq` is the whole way from a text to a text: what is rounded is the decimal
that the number is displayed as, and the outcome is a numeral of the rounded number with no more
places than it takes.
-/

namespace CommandTemplate

namespace RoundingMode

/-- A number with the minus sign in front, if it has one. -/
def signed {α : Type} [Neg α] (negative : Bool) (a : α) : α :=
  if negative then -a else a

/-- Is a whole number what `x` is rounded to? -/
def Rounds (mode : RoundingMode) (x : ℚ) (z : ℤ) : Prop :=
  match mode with
  | .up => z = if 0 ≤ x then ⌈x⌉ else ⌊x⌋
  | .down => z = if 0 ≤ x then ⌊x⌋ else ⌈x⌉
  | .ceil => z = ⌈x⌉
  | .floor => z = ⌊x⌋
  | .halfUp => |x - z| ≤ 1 / 2 ∧ (|x - z| = 1 / 2 → |x| < |z|)
  | .halfDown => |x - z| ≤ 1 / 2 ∧ (|x - z| = 1 / 2 → |z| < |x|)
  | .halfEven => |x - z| ≤ 1 / 2 ∧ (|x - z| = 1 / 2 → Even z)

variable {mode : RoundingMode} {x : ℚ} {z : ℤ}

/-- What a number is rounded to is one of its neighbours, and a whole number is its own one. -/
theorem Rounds.between (h : mode.Rounds x z) : ⌊x⌋ ≤ z ∧ z ≤ ⌈x⌉ := by
  have hnear : |x - z| ≤ 1 / 2 → ⌊x⌋ ≤ z ∧ z ≤ ⌈x⌉ := by
    intro hle
    obtain ⟨hlow, hhigh⟩ := abs_le.1 hle
    constructor
    · rw [← Int.lt_add_one_iff, Int.floor_lt]
      push_cast
      linarith
    · rw [← Int.sub_one_lt_iff, Int.lt_ceil]
      push_cast
      linarith
  have hfloor := Int.floor_le_ceil x
  cases mode with
  | up => rw [show z = _ from h]; split <;> omega
  | down => rw [show z = _ from h]; split <;> omega
  | ceil => rw [show z = _ from h]; omega
  | floor => rw [show z = _ from h]; omega
  | halfUp | halfDown | halfEven => exact hnear h.1

/-- A whole number is rounded to itself. -/
theorem Rounds.eq_of_intCast {n : ℤ} (h : mode.Rounds n z) : z = n := by
  have hbetween := h.between
  rw [Int.floor_intCast, Int.ceil_intCast] at hbetween
  exact le_antisymm hbetween.2 hbetween.1

/-! ### Both signs -/

/-- The mode that does to a number what another does to the opposite one. -/
def mirror : RoundingMode → RoundingMode
  | .ceil => .floor
  | .floor => .ceil
  | mode => mode

theorem mirror_mirror (mode : RoundingMode) : mode.mirror.mirror = mode := by
  cases mode <;> rfl

/-- Only `ceil` and `floor` look at the sign. -/
theorem awayFromZero_true (mode : RoundingMode) (kept dropped unit : Nat) :
    mode.awayFromZero true kept dropped unit =
      mode.mirror.awayFromZero false kept dropped unit := by
  cases mode <;> simp [awayFromZero, mirror]

/-- Rounding a negative number is rounding its mirror image. -/
theorem Rounds.neg (h : mode.Rounds x z) : mode.mirror.Rounds (-x) (-z) := by
  have hdistance : |(-x) - ((-z : ℤ) : ℚ)| = |x - z| := by
    rw [← abs_neg]
    push_cast
    congr 1
    ring
  -- of a number and its opposite, zero apart, one is negative
  have hchoice (towards away : ℤ) (hzero : x = 0 → towards = away) :
      (if 0 ≤ -x then towards else away) = if 0 ≤ x then away else towards := by
    rcases lt_trichotomy x 0 with hx | hx | hx
    · rw [if_pos (by linarith), if_neg (by linarith)]
    · rw [hzero hx]
      simp
    · rw [if_neg (by linarith), if_pos hx.le]
  cases mode with
  | up =>
    show -z = if 0 ≤ -x then ⌈-x⌉ else ⌊-x⌋
    rw [hchoice _ _ (fun hx => by simp [hx]), Int.ceil_neg, Int.floor_neg,
      show z = if 0 ≤ x then ⌈x⌉ else ⌊x⌋ from h]
    split <;> rfl
  | down =>
    show -z = if 0 ≤ -x then ⌊-x⌋ else ⌈-x⌉
    rw [hchoice _ _ (fun hx => by simp [hx]), Int.ceil_neg, Int.floor_neg,
      show z = if 0 ≤ x then ⌊x⌋ else ⌈x⌉ from h]
    split <;> rfl
  | ceil =>
    show -z = ⌊-x⌋
    rw [Int.floor_neg, show z = ⌈x⌉ from h]
  | floor =>
    show -z = ⌈-x⌉
    rw [Int.ceil_neg, show z = ⌊x⌋ from h]
  | halfUp =>
    refine ⟨hdistance ▸ h.1, fun htie => ?_⟩
    rw [abs_neg, abs_neg]
    exact h.2 (hdistance ▸ htie)
  | halfDown =>
    refine ⟨hdistance ▸ h.1, fun htie => ?_⟩
    rw [abs_neg, abs_neg]
    exact h.2 (hdistance ▸ htie)
  | halfEven => exact ⟨hdistance ▸ h.1, fun htie => (h.2 (hdistance ▸ htie)).neg⟩

/-! ### Dropped digits -/

section

variable {units unit kept dropped : Nat} {part : ℚ}

/-- A part of one, as the dropped digits tell it. -/
structure IsPart (dropped unit : Nat) (part : ℚ) : Prop where
  nonneg : 0 ≤ part
  lt_one : part < 1
  eq_zero : dropped = 0 ↔ part = 0
  half_le : unit ≤ 2 * dropped ↔ 1 / 2 ≤ part
  half_lt : unit < 2 * dropped ↔ 1 / 2 < part

/-- What is dropped is a part of a unit. -/
theorem isPart_div (hlt : dropped < unit) : IsPart dropped unit (dropped / unit) := by
  have hunit : (0 : ℚ) < unit := by exact_mod_cast Nat.zero_lt_of_lt hlt
  refine ⟨by positivity, ?_, ?_, ?_, ?_⟩
  · rw [div_lt_one hunit]
    exact_mod_cast hlt
  · rw [div_eq_zero_iff, Nat.cast_eq_zero, or_iff_left hunit.ne']
  · rw [div_le_div_iff₀ two_pos hunit, one_mul, mul_comm (dropped : ℚ)]
    exact_mod_cast Iff.rfl
  · rw [div_lt_div_iff₀ two_pos hunit, one_mul, mul_comm (dropped : ℚ)]
    exact_mod_cast Iff.rfl

/-- A quotient is the units that are kept and a part of one. -/
theorem div_eq_add_part (hunit : 0 < unit) :
    (units / unit : ℚ) = (units / unit : Nat) + (units % unit : Nat) / unit := by
  have hpos : (unit : ℚ) ≠ 0 := by exact_mod_cast hunit.ne'
  have hdivision : ((unit * (units / unit) + units % unit : Nat) : ℚ) = units := by
    rw [Nat.div_add_mod]
  rw [div_eq_iff hpos, add_mul, div_mul_cancel₀ _ hpos, ← hdivision]
  push_cast
  ring

/-- Less than a unit does not count downwards. -/
theorem IsPart.floor_add (h : IsPart dropped unit part) : ⌊(kept : ℚ) + part⌋ = kept := by
  have hnonneg := h.nonneg
  have hlt := h.lt_one
  rw [Int.floor_eq_iff]
  push_cast
  constructor <;> linarith

/-- Whatever there is of a unit counts upwards. -/
theorem IsPart.ceil_add (h : IsPart dropped unit part) :
    ⌈(kept : ℚ) + part⌉ = ((if dropped = 0 then kept else kept + 1 : Nat) : ℤ) := by
  have hlt := h.lt_one
  split
  · next hzero =>
    rw [h.eq_zero.1 hzero, add_zero]
    exact Int.ceil_natCast kept
  · next hne =>
    have hpos : 0 < part := lt_of_le_of_ne h.nonneg fun heq => hne (h.eq_zero.2 heq.symm)
    rw [Int.ceil_eq_iff]
    push_cast
    constructor <;> linarith

/-- A number with some digits dropped is rounded by these. -/
theorem IsPart.rounds (h : IsPart dropped unit part) (mode : RoundingMode) (kept : Nat) :
    mode.Rounds (kept + part)
      ((if mode.awayFromZero false kept dropped unit then kept + 1 else kept : Nat) : ℤ) := by
  have hkept : (0 : ℚ) ≤ kept := Nat.cast_nonneg kept
  have hnonneg : 0 ≤ (kept : ℚ) + part := add_nonneg hkept h.nonneg
  have hlow : |(kept : ℚ) + part - ((kept : Nat) : ℤ)| = part := by
    rw [Int.cast_natCast, add_sub_cancel_left, abs_of_nonneg h.nonneg]
  -- one unit more is further off by what is missing from it
  have hhigh : |(kept : ℚ) + part - ((kept + 1 : Nat) : ℤ)| = 1 - part := by
    have hlt := h.lt_one
    push_cast
    rw [add_sub_add_left_eq_sub, abs_sub_comm, abs_of_pos (by linarith)]
  cases mode with
  | up =>
    show _ = if 0 ≤ (kept : ℚ) + part then _ else _
    rw [if_pos hnonneg, h.ceil_add]
    by_cases hdropped : dropped = 0 <;> simp [awayFromZero, hdropped]
  | down =>
    show _ = if 0 ≤ (kept : ℚ) + part then _ else _
    rw [if_pos hnonneg, h.floor_add]
    simp [awayFromZero]
  | ceil =>
    show _ = ⌈(kept : ℚ) + part⌉
    rw [h.ceil_add]
    by_cases hdropped : dropped = 0 <;> simp [awayFromZero, hdropped]
  | floor =>
    show _ = ⌊(kept : ℚ) + part⌋
    rw [h.floor_add]
    simp [awayFromZero]
  | halfUp =>
    simp only [Rounds, awayFromZero, decide_eq_true_eq, h.half_le]
    split
    · next hhalf =>
      rw [hhigh]
      refine ⟨by linarith, fun _ => ?_⟩
      -- a tie goes up
      rw [abs_of_nonneg hnonneg]
      push_cast
      rw [abs_of_nonneg (by linarith)]
      linarith [h.lt_one]
    · next hhalf =>
      rw [hlow]
      exact ⟨by linarith, fun htie => absurd htie.ge hhalf⟩
  | halfDown =>
    simp only [Rounds, awayFromZero, decide_eq_true_eq, h.half_lt]
    split
    · next hhalf =>
      rw [hhigh]
      exact ⟨by linarith, fun htie => by linarith⟩
    · next hhalf =>
      rw [hlow]
      refine ⟨by linarith, fun htie => ?_⟩
      -- a tie goes down
      rw [abs_of_nonneg hnonneg]
      push_cast
      rw [abs_of_nonneg hkept]
      linarith
  | halfEven =>
    rcases lt_trichotomy unit (2 * dropped) with hlt | htie | hgt
    · have haway : awayFromZero .halfEven false kept dropped unit = true := by
        simp [awayFromZero, hlt]
      have hhalf := h.half_lt.1 hlt
      rw [if_pos haway]
      simp only [Rounds]
      rw [hhigh]
      exact ⟨by linarith, fun _ => by linarith⟩
    · have hhalf : part = 1 / 2 :=
        le_antisymm (not_lt.1 fun hlt => by have := h.half_lt.2 hlt; omega) (h.half_le.1 htie.le)
      by_cases hodd : kept % 2 = 1
      · have haway : awayFromZero .halfEven false kept dropped unit = true := by
          simp [awayFromZero, htie, hodd]
        rw [if_pos haway]
        simp only [Rounds]
        rw [hhigh]
        refine ⟨by linarith, fun _ => ?_⟩
        exact_mod_cast (Nat.odd_iff.2 hodd).add_one
      · have haway : ¬ awayFromZero .halfEven false kept dropped unit = true := by
          simp [awayFromZero, htie, hodd]
        rw [if_neg haway]
        simp only [Rounds]
        rw [hlow]
        refine ⟨by linarith, fun _ => ?_⟩
        exact_mod_cast Nat.not_odd_iff_even.1 fun h => hodd (Nat.odd_iff.1 h)
    · have haway : ¬ awayFromZero .halfEven false kept dropped unit = true := by
        simp only [awayFromZero, Bool.or_eq_true, decide_eq_true_eq, Bool.and_eq_true, beq_iff_eq]
        omega
      have hhalf : ¬ 1 / 2 ≤ part := fun hle => absurd (h.half_le.2 hle) (by omega)
      rw [if_neg haway]
      simp only [Rounds]
      rw [hlow]
      exact ⟨by linarith, fun htie => absurd htie.ge hhalf⟩

/-- A quotient is rounded by its remainder, whatever the sign. -/
theorem rounds_div (mode : RoundingMode) (negative : Bool) (units : Nat) (hunit : 0 < unit) :
    mode.Rounds (signed negative (units / unit))
      (signed negative ((if mode.awayFromZero negative (units / unit) (units % unit) unit
        then units / unit + 1 else units / unit : Nat) : ℤ)) := by
  have hpart := isPart_div (Nat.mod_lt units hunit)
  rw [div_eq_add_part hunit]
  cases negative with
  | false => exact hpart.rounds mode _
  | true =>
    rw [awayFromZero_true, ← mirror_mirror mode]
    have hmirror := (hpart.rounds mode.mirror (units / unit)).neg
    rw [mirror_mirror] at hmirror ⊢
    exact hmirror

end

end RoundingMode

namespace Number

open RoundingMode (signed)

/-- The sign may be taken off a product. -/
theorem signed_mul (negative : Bool) (a b : ℚ) :
    signed negative a * b = signed negative (a * b) := by
  cases negative
  · rfl
  · exact neg_mul a b

theorem abs_signed (negative : Bool) (n : Nat) : |((signed negative (n : ℤ) : ℤ) : ℚ)| = n := by
  cases negative <;> simp [signed]

/-- Below zero are the numbers with a minus sign, but not zero itself. -/
theorem signed_neg_iff {negative : Bool} {n : Nat} :
    signed negative (n : ℤ) < 0 ↔ negative = true ∧ n ≠ 0 := by
  cases negative with
  | false => simp [signed]
  | true => simp [signed, Nat.pos_iff_ne_zero]

theorem signed_ne_zero_iff {negative : Bool} {n : Nat} : signed negative (n : ℤ) ≠ 0 ↔ n ≠ 0 := by
  cases negative <;> simp [signed]

/-- Nothing is rounded where nothing is dropped. -/
theorem awayFromZero_none (mode : RoundingMode) (negative : Bool) (kept : Nat) :
    mode.awayFromZero negative kept 0 1 = false := by
  cases mode <;> simp [RoundingMode.awayFromZero]

/-- Where all places are kept, nothing is rounded. -/
theorem Decimal.round_of_le {mode : RoundingMode} {negative : Bool} {most : Nat} {d : Decimal}
    (h : d.places ≤ most) : d.round mode negative most = d.units := by
  unfold round
  simp only [Nat.sub_eq_zero_of_le h, show Nat.pow 10 0 = 1 from rfl, Nat.mod_one, Nat.div_one,
    awayFromZero_none]
  rfl

/-- A decimal is rounded as its value is, in units of the last place that is kept. -/
theorem Decimal.rounds_round (mode : RoundingMode) (negative : Bool) (most : Nat) (d : Decimal) :
    mode.Rounds (signed negative ((d.units : ℚ) / 10 ^ d.places) * 10 ^ most)
      (signed negative ((d.round mode negative most * 10 ^ (most - d.places) : Nat) : ℤ)) := by
  have hpow (k : Nat) : (10 : ℚ) ^ k ≠ 0 := pow_ne_zero k (by norm_num)
  rw [signed_mul]
  rcases Nat.le_total d.places most with hle | hge
  · -- all places are kept, and the unit is one
    obtain ⟨more, rfl⟩ := Nat.exists_eq_add_of_le hle
    have hvalue : (d.units : ℚ) / 10 ^ d.places * 10 ^ (d.places + more) =
        ((d.units * 10 ^ more : Nat) : ℚ) / (1 : Nat) := by
      rw [pow_add, ← mul_assoc, div_mul_cancel₀ _ (hpow _)]
      push_cast
      rw [div_one]
    have hrounds := RoundingMode.rounds_div mode negative (d.units * 10 ^ more) Nat.one_pos
    simp only [Nat.mod_one, Nat.div_one, awayFromZero_none] at hrounds
    rw [hvalue, round_of_le hle, Nat.add_sub_cancel_left]
    exact hrounds
  -- some places are dropped, and the unit is a power of ten
  · obtain ⟨fewer, hfewer⟩ := Nat.exists_eq_add_of_le hge
    have hvalue : (d.units : ℚ) / 10 ^ d.places * 10 ^ most =
        (d.units : ℚ) / ((10 ^ fewer : Nat) : ℚ) := by
      rw [hfewer, pow_add, ← div_div, div_right_comm, div_mul_cancel₀ _ (hpow _)]
      push_cast
      rfl
    have hrounds := RoundingMode.rounds_div mode negative d.units
      (Nat.pow_pos (by decide) : 0 < 10 ^ fewer)
    have hround : d.round mode negative most =
        if mode.awayFromZero negative (d.units / 10 ^ fewer) (d.units % 10 ^ fewer) (10 ^ fewer)
        then d.units / 10 ^ fewer + 1 else d.units / 10 ^ fewer := by
      unfold round
      rw [hfewer, Nat.add_sub_cancel_left]
      rfl
    rw [hvalue, hround, Nat.sub_eq_zero_of_le hge, Nat.pow_zero, Nat.mul_one]
    exact hrounds

/-! ### Texts -/

/-- The number of units of a place that a value comes to, which need not be whole. -/
def unitsAt (places : Nat) (negative : Bool) (value : ℚ) : ℚ :=
  signed negative value * 10 ^ places

/-- How a floating-point number is rounded to `most` places and written with at least `least` of
them. -/
structure Rounding (mode : RoundingMode) (most least : Nat) (x : Float) where
  /-- The decimal that the number is displayed as, without its sign. -/
  shortest : Numeral
  display_eq : display x = (if isNegative x then "-" else "") ++ shortest.text
  /-- What the decimal is rounded to, in units of the last place that is kept. -/
  units : ℤ
  between : ⌊unitsAt (min most maxPlaces) (isNegative x) shortest.value⌋ ≤ units ∧
    units ≤ ⌈unitsAt (min most maxPlaces) (isNegative x) shortest.value⌉
  rounds : mode.Rounds (unitsAt (min most maxPlaces) (isNegative x) shortest.value) units
  /-- Nothing is rounded where there are no more places than are kept. -/
  exact_of_le : shortest.fraction.length ≤ min most maxPlaces →
    units = unitsAt (min most maxPlaces) (isNegative x) shortest.value
  /-- The rounded number without its sign. -/
  written : Numeral
  value_eq : written.value = |(units : ℚ)| / 10 ^ min most maxPlaces
  isLeast : IsLeast (Numeral.Places (min least maxPlaces) written.value) written.fraction.length
  negative_iff : units < 0 ↔ isNegative x = true ∧ units ≠ 0

namespace Rounding

variable {mode : RoundingMode} {most least : Nat} {x : Float}

/-- The text of the rounded number, in which zero has no sign. -/
def text (r : Rounding mode most least x) : String :=
  (if r.units < 0 then "-" else "") ++ r.written.text

/-- The text of every finite number is rounded exactly. -/
theorem exists_text_eq {source : String}
    (hread : readFloat? (Text.trimChars source.toList) = some x)
    (hnan : x.isNaN = false) (hinf : x.isInf = false) :
    ∃ r : Rounding mode most least x, roundText? mode most least source = some r.text := by
  let d := decimalOf .up (magnitudeBits x)
  let k := min most maxPlaces
  let units := d.round mode (isNegative x) k
  let z : ℤ := signed (isNegative x) ((units * 10 ^ (k - d.places) : Nat) : ℤ)
  obtain ⟨shortest, hshortest, hvalue⟩ := d.exists_numeral_positional
  obtain ⟨written, hwritten, hunits, hplaces⟩ :=
    exists_numeral_fixedText units (min d.places k) (min least maxPlaces)
  have hpow (k : Nat) : (10 : ℚ) ^ k ≠ 0 := pow_ne_zero k (by norm_num)
  have hrounds : mode.Rounds (unitsAt k (isNegative x) shortest.value) z := by
    rw [unitsAt, hvalue]
    exact d.rounds_round mode (isNegative x) k
  have hdisplay : display x = (if isNegative x then "-" else "") ++ shortest.text := by
    rw [← hshortest, display, write, hnan, hinf]
    rfl
  have hwritten_value : written.value = |(z : ℚ)| / 10 ^ k := by
    rw [hunits, abs_signed, Nat.cast_mul, Nat.cast_pow, Nat.cast_ofNat,
      div_eq_div_iff (hpow _) (hpow _), mul_assoc, ← pow_add]
    congr 2
    omega
  have hsign : z < 0 ↔ isNegative x = true ∧ z ≠ 0 := by
    rw [signed_neg_iff, signed_ne_zero_iff]
  have hexact : shortest.fraction.length ≤ k → z = unitsAt k (isNegative x) shortest.value := by
    intro hle
    obtain ⟨n, hn⟩ := shortest.exists_units hle
    have hwhole : unitsAt k (isNegative x) shortest.value =
        (signed (isNegative x) (n : ℤ) : ℤ) := by
      rw [unitsAt, signed_mul, hn]
      cases isNegative x <;> simp [signed]
    rw [hwhole] at hrounds ⊢
    rw [hrounds.eq_of_intCast]
  let r : Rounding mode most least x :=
    ⟨shortest, hdisplay, z, hrounds.between, hrounds, hexact, written, hwritten_value, hplaces,
      hsign⟩
  refine ⟨r, ?_⟩
  have htext : roundText? mode most least source =
      some (if isNegative x && units != 0 then "-" ++ written.text else written.text) := by
    rw [← hwritten, roundText?, hread]
    show (if (x.isNaN || x.isInf) = true then _ else _) = _
    rw [hnan, hinf]
    rfl
  -- the program looks at the sign of the number that is read, and at the units before they are
  -- filled up
  have hminus : (isNegative x && units != 0) = decide (z < 0) := by
    have hz : z ≠ 0 ↔ units ≠ 0 := by
      rw [signed_ne_zero_iff]
      simp
    rw [Bool.eq_iff_iff, decide_eq_true_iff, hsign, hz]
    simp
  rw [htext, hminus]
  show _ = some ((if z < 0 then "-" else "") ++ written.text)
  by_cases hz : z < 0 <;> simp [hz]

/-- A tie whose last kept digit is odd: the unit carries into a longer whole part. -/
theorem exists_text_eq_carry :
    let x := ofDecimal true ⟨9995, -3⟩
    readFloat? (Text.trimChars " -9.995".toList) = some x ∧ x.isNaN = false ∧ x.isInf = false ∧
      ∃ r : Rounding .halfEven 2 1 x, r.text = "-10.0" := by
  intro x
  have hread : readFloat? (Text.trimChars " -9.995".toList) = some x := by decide +kernel
  have hnan : x.isNaN = false := by decide +kernel
  have hinf : x.isInf = false := by decide +kernel
  obtain ⟨r, hr⟩ : ∃ r : Rounding .halfEven 2 1 x, roundText? .halfEven 2 1 " -9.995" =
      some r.text := exists_text_eq hread hnan hinf
  have htext : roundText? .halfEven 2 1 " -9.995" = some "-10.0" := by decide +kernel
  exact ⟨hread, hnan, hinf, r, Option.some.inj (hr.symm.trans htext)⟩

end Rounding

end Number

end CommandTemplate
