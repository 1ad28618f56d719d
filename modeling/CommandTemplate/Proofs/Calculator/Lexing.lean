import CommandTemplate.Proofs.Calculator.Derivation
import CommandTemplate.Proofs.Outcome
import CommandTemplate.Proofs.Text.Character
import Mathlib.Data.List.TakeDrop

/-!
The tokens of a text.

`Lexes s tokens` says how the characters of a text make up its tokens, apart from the blank ones:
numbers and names are runs that cannot be made longer.  `lexes_of_tokenizeFrom` and
`tokenizeFrom_of_lexes` say that these are the tokens that are found.
-/

namespace CommandTemplate.Calculator

/-! ### Numbers -/

/-- Digits with a point at most. -/
structure IsLiteral (run : List Char) : Prop where
  chars : ∀ c ∈ run, isNumberChar c = true
  digit : ∃ c ∈ run, c.isDigit = true
  point : run.count '.' ≤ 1

/-- The number that a text of digits with a point writes. -/
def literalValue (run : List Char) : Float :=
  (Number.readFloat? run).getD 0

theorem count_point {digits : List Char} (h : ∀ c ∈ digits, c.isDigit = true) :
    digits.count '.' = 0 :=
  List.count_eq_zero.2 fun hmem => absurd (h '.' hmem) (by decide)

/-- What can be in a number is digits up to its end or to a point. -/
theorem exists_digits {run : List Char} (h : ∀ c ∈ run, isNumberChar c = true) :
    ∃ digits rest, run.span Char.isDigit = (digits, rest) ∧ run = digits ++ rest ∧
      (∀ c ∈ digits, c.isDigit = true) ∧ (rest = [] ∨ ∃ back, rest = '.' :: back) := by
  refine ⟨run.takeWhile Char.isDigit, run.dropWhile Char.isDigit,
    List.span_eq_takeWhile_dropWhile _ _, List.takeWhile_append_dropWhile.symm,
    List.all_eq_true.1 List.all_takeWhile, ?_⟩
  cases hrest : run.dropWhile Char.isDigit with
  | nil => exact .inl rfl
  | cons c back =>
    have hmem : c ∈ run := (List.dropWhile_suffix _).subset (hrest ▸ List.mem_cons_self)
    have hdigit := List.head?_dropWhile_not Char.isDigit run
    rw [hrest] at hdigit
    have hchar := h c hmem
    simp only [isNumberChar, Bool.or_eq_true, decide_eq_true_eq] at hchar
    refine .inr ⟨back, ?_⟩
    rcases hchar with hc | rfl
    · simp [hc] at hdigit
    · rfl

/-- Digits without a point are a whole number. -/
theorem readDecimal?_whole {s whole : List Char}
    (h : s.span Char.isDigit = (whole, [])) :
    Number.readDecimal? s = if whole = [] then none else some ⟨Number.ofDigits whole, 0⟩ := by
  simp only [Number.readDecimal?, h]
  simp [Number.readExponent?]

/-- With a point there have to be digits on one side of it. -/
theorem readDecimal?_point {s whole back places rest : List Char}
    (h : s.span Char.isDigit = (whole, '.' :: back))
    (hback : back.span Char.isDigit = (places, rest)) :
    Number.readDecimal? s = if whole = [] ∧ places = [] then none else
      (Number.readExponent? rest).map fun e =>
        ⟨Number.ofDigits (whole ++ places), e - places.length⟩ := by
  simp only [Number.readDecimal?, h, hback]

/-- Digits alone are a number if there are any. -/
theorem isLiteral_digits {digits : List Char} (h : ∀ c ∈ digits, c.isDigit = true) :
    IsLiteral digits ↔ digits ≠ [] := by
  constructor
  · rintro ⟨-, ⟨c, hc, -⟩, -⟩ rfl
    cases hc
  · intro hne
    obtain ⟨c, hc⟩ := List.exists_mem_of_ne_nil _ hne
    refine ⟨fun d hd => ?_, ⟨c, hc, h c hc⟩, ?_⟩
    · simp [isNumberChar, h d hd]
    · rw [count_point h]
      decide

/-- Digits on either side of a point are a number. -/
theorem isLiteral_point {whole places : List Char} (hwhole : ∀ c ∈ whole, c.isDigit = true)
    (hplaces : ∀ c ∈ places, c.isDigit = true) :
    IsLiteral (whole ++ '.' :: places) ↔ ¬ (whole = [] ∧ places = []) := by
  constructor
  · rintro ⟨-, ⟨c, hc, hdigit⟩, -⟩ ⟨rfl, rfl⟩
    obtain rfl : c = '.' := by simpa using hc
    cases hdigit
  · intro hne
    refine ⟨fun c hc => ?_, ?_, ?_⟩
    · rcases List.mem_append.1 hc with hc | hc
      · simp [isNumberChar, hwhole c hc]
      · rcases List.mem_cons.1 hc with rfl | hc
        · decide
        · simp [isNumberChar, hplaces c hc]
    · by_cases hw : whole = []
      · obtain ⟨c, hc⟩ := List.exists_mem_of_ne_nil _ fun hp => hne ⟨hw, hp⟩
        exact ⟨c, by simp [hc], hplaces c hc⟩
      · obtain ⟨c, hc⟩ := List.exists_mem_of_ne_nil _ hw
        exact ⟨c, List.mem_append_left _ hc, hwhole c hc⟩
    · simp [List.count_append, count_point hwhole, count_point hplaces]

/-- What can be in a number is read as one if and only if it is a literal. -/
theorem readDecimal?_isSome_iff {run : List Char} (h : ∀ c ∈ run, isNumberChar c = true) :
    (Number.readDecimal? run).isSome = true ↔ IsLiteral run := by
  obtain ⟨whole, rest, hspan, rfl, hwhole, hrest⟩ := exists_digits h
  rcases hrest with rfl | ⟨back, rfl⟩
  · -- without a point: one digit at least
    rw [readDecimal?_whole hspan, List.append_nil, isLiteral_digits hwhole]
    by_cases hne : whole = [] <;> simp [hne]
  have hback : ∀ c ∈ back, isNumberChar c = true := fun c hc =>
    h c (List.mem_append_right _ (List.mem_cons_of_mem _ hc))
  obtain ⟨places, rest, hspan', rfl, hplaces, hrest⟩ := exists_digits hback
  rw [readDecimal?_point hspan hspan']
  rcases hrest with rfl | ⟨back', rfl⟩
  · -- with one point: a digit before it or behind it
    rw [List.append_nil, isLiteral_point hwhole hplaces]
    by_cases hne : whole = [] ∧ places = [] <;> simp [hne, Number.readExponent?]
  · -- with two points: no number
    refine iff_of_false ?_ fun hliteral => ?_
    · split <;> simp [Number.readExponent?]
    · have := hliteral.point
      simp only [List.count_append, List.count_cons_self] at this
      omega

theorem not_isUpper_of_isNumberChar {c : Char} (h : isNumberChar c = true) :
    ¬ c.isUpper = true := by
  simp only [isNumberChar, Bool.or_eq_true, decide_eq_true_eq] at h
  rcases h with h | rfl
  · exact Text.not_isUpper_of_isDigit h
  · decide

/-- A number is no name of a value that is no number. -/
theorem readSpecial?_eq_none {run : List Char} (h : ∀ c ∈ run, isNumberChar c = true) :
    Number.readSpecial? run = none := by
  have hname : ∀ c s, isNumberChar c = false → String.ofList run ≠ String.ofList (c :: s) := by
    intro c s hc heq
    rw [String.ofList_inj] at heq
    rw [h c (heq ▸ List.mem_cons_self)] at hc
    cases hc
  -- such names are made of letters
  unfold Number.readSpecial?
  rw [Text.map_toLower_eq_self fun c hc => not_isUpper_of_isNumberChar (h c hc)]
  split
  · next heq => exact absurd heq (hname 'i' _ (by decide))
  · next heq => exact absurd heq (hname 'i' _ (by decide))
  · next heq => exact absurd heq (hname 'n' _ (by decide))
  · rfl

/-- Without a sign in front a number is read as a decimal. -/
theorem readFloat?_unsigned {s : List Char} (hminus : ∀ t, s ≠ '-' :: t)
    (hplus : ∀ t, s ≠ '+' :: t) (hspecial : Number.readSpecial? s = none) :
    Number.readFloat? s = (Number.readDecimal? s).map (Number.ofDecimal false) := by
  unfold Number.readFloat?
  split
  next negative t heq =>
  split at heq
  · exact absurd rfl (hminus _)
  · exact absurd rfl (hplus _)
  · cases heq
    rw [hspecial]
    cases Number.readDecimal? _ <;> rfl

/-- A text of digits and points is read as a number just if it has a digit and at most one
point. -/
theorem readFloat?_isSome_iff {run : List Char} (h : ∀ c ∈ run, isNumberChar c = true) :
    (Number.readFloat? run).isSome = true ↔ IsLiteral run := by
  have hfront : ∀ c s, isNumberChar c = false → run ≠ c :: s := by
    rintro c s hc rfl
    rw [h c List.mem_cons_self] at hc
    cases hc
  rw [readFloat?_unsigned (hfront '-' · (by decide)) (hfront '+' · (by decide))
    (readSpecial?_eq_none h), Option.isSome_map]
  exact readDecimal?_isSome_iff h

/-- A literal is read as its value. -/
theorem readFloat?_of_isLiteral {run : List Char} (h : IsLiteral run) :
    Number.readFloat? run = some (literalValue run) := by
  obtain ⟨value, hvalue⟩ := Option.isSome_iff_exists.1 ((readFloat?_isSome_iff h.chars).2 h)
  rw [literalValue, hvalue]
  rfl

/-! ### Tokens -/

/-- The tokens that the characters of a text make up.  A number or a name takes all characters that
can belong to it. -/
inductive Lexes : List Char → List Token → Prop
  | nil : Lexes [] []
  | blank {c : Char} {s : List Char} {tokens : List Token} :
    Text.isBlank c = true → Lexes s tokens → Lexes (c :: s) tokens
  | sign {c : Char} {s : List Char} {token : Token} {tokens : List Token} :
    signToken? c = some token → Lexes s tokens → Lexes (c :: s) (token :: tokens)
  | number {run s : List Char} {tokens : List Token} :
    IsLiteral run → (∀ c ∈ s.head?, isNumberChar c = false) → Lexes s tokens →
    Lexes (run ++ s) (.number (literalValue run) :: tokens)
  | name {run s : List Char} {tokens : List Token} :
    run ≠ [] → (∀ c ∈ run, c.isAlpha = true) → (∀ c ∈ s.head?, c.isAlpha = false) →
    Lexes s tokens → Lexes (run ++ s) (.name (String.ofList (run.map Char.toLower)) :: tokens)

/-- Signs are neither blank nor in numbers or names. -/
theorem of_signToken? {c : Char} {token : Token} (h : signToken? c = some token) :
    Text.isBlank c = false ∧ isNumberChar c = false ∧ c.isAlpha = false := by
  unfold signToken? at h
  split at h
  · decide
  · decide
  · decide
  · decide
  · decide
  · decide
  · decide
  · cases h

theorem toNat_of_isNumberChar {c : Char} (h : isNumberChar c = true) :
    46 ≤ c.toNat ∧ c.toNat ≤ 57 := by
  simp only [isNumberChar, Bool.or_eq_true, decide_eq_true_eq] at h
  rcases h with h | rfl
  · rw [Text.isDigit_iff] at h
    omega
  · decide

theorem toNat_of_isAlpha {c : Char} (h : c.isAlpha = true) : 65 ≤ c.toNat ∧ c.toNat ≤ 122 := by
  rcases Text.isAlpha_iff.1 h with h | h
  · rw [Text.isUpper_iff] at h
    omega
  · rw [Text.isLower_iff] at h
    omega

/-- A visible ASCII character is not blank. -/
theorem not_isBlank {c : Char} (h : 33 ≤ c.toNat ∧ c.toNat ≤ 126) : ¬ Text.isBlank c = true := by
  simp only [Text.isBlank, Bool.or_eq_true, Bool.and_eq_true, decide_eq_true_eq, beq_iff_eq]
  omega

/-- Neither numbers nor names start with a sign. -/
theorem signToken?_eq_none {c : Char} (h : isNumberChar c = true ∨ c.isAlpha = true) :
    signToken? c = none := by
  cases hsign : signToken? c with
  | none => rfl
  | some token =>
    obtain ⟨-, hnumber, halpha⟩ := of_signToken? hsign
    rcases h with h | h
    · exact absurd (h.symm.trans hnumber) (by decide)
    · exact absurd (h.symm.trans halpha) (by decide)

/-- Letters are not in numbers. -/
theorem not_isNumberChar_of_isAlpha {c : Char} (h : c.isAlpha = true) :
    ¬ isNumberChar c = true := by
  intro hnumber
  have := toNat_of_isAlpha h
  have := toNat_of_isNumberChar hnumber
  omega

/-- A run that cannot be made longer is what is taken from the front. -/
theorem takeWhile_run {p : Char → Bool} {run s : List Char} (hrun : ∀ c ∈ run, p c = true)
    (hend : ∀ c ∈ s.head?, p c = false) :
    (run ++ s).takeWhile p = run ∧ (run ++ s).dropWhile p = s := by
  rw [List.takeWhile_append_of_pos hrun, List.dropWhile_append_of_pos hrun]
  cases s with
  | nil => simp
  | cons c s => simp [hend c rfl]

/-- A character and all that can be taken behind it are such a run. -/
theorem run_takeWhile {p : Char → Bool} {c : Char} (hc : p c = true) (s : List Char) :
    (∀ d ∈ c :: s.takeWhile p, p d = true) ∧ c :: s = c :: s.takeWhile p ++ s.dropWhile p := by
  refine ⟨List.forall_mem_cons.2 ⟨hc, List.all_eq_true.1 List.all_takeWhile⟩, ?_⟩
  rw [List.cons_append, List.takeWhile_append_dropWhile]

theorem head?_dropWhile {p : Char → Bool} {s : List Char} :
    ∀ c ∈ (s.dropWhile p).head?, p c = false := by
  intro c hc
  have := List.head?_dropWhile_not p s
  rw [Option.mem_def.1 hc] at this
  exact this

/-- The tokens that characters make up are found. -/
theorem tokenizeFrom_of_lexes {s : List Char} {tokens : List Token} (h : Lexes s tokens) :
    ∀ position, ∃ placed, tokenizeFrom position s = .ok placed ∧ unplaced placed = tokens := by
  -- the positions of tokens follow from the lengths of those in front
  induction h with
  | nil =>
    intro position
    refine ⟨[], ?_, rfl⟩
    unfold tokenizeFrom
    rfl
  | blank hblank _ ih =>
    intro position
    obtain ⟨placed, hplaced, htokens⟩ := ih (position + 1)
    refine ⟨placed, ?_, htokens⟩
    unfold tokenizeFrom
    rw [if_pos hblank, hplaced]
  | @sign c s token tokens hsign _ ih =>
    intro position
    obtain ⟨placed, hplaced, htokens⟩ := ih (position + 1)
    refine ⟨(token, position) :: placed, ?_, congrArg (token :: ·) htokens⟩
    unfold tokenizeFrom
    rw [if_neg (by rw [(of_signToken? hsign).1]; decide), hsign]
    dsimp only
    rw [hplaced]
    rfl
  | @number run s tokens hliteral hend _ ih =>
    intro position
    obtain ⟨placed, hplaced, htokens⟩ := ih (position + run.length)
    refine ⟨(.number (literalValue run), position) :: placed, ?_,
      congrArg (Token.number _ :: ·) htokens⟩
    -- a run that is empty is no token
    cases run with
    | nil =>
      obtain ⟨c, hc, -⟩ := hliteral.digit
      cases hc
    | cons c run =>
      have hc := hliteral.chars c List.mem_cons_self
      have hnat := toNat_of_isNumberChar hc
      obtain ⟨htake, hdrop⟩ := takeWhile_run
        (fun d hd => hliteral.chars d (List.mem_cons_of_mem _ hd)) hend
      rw [List.cons_append]
      unfold tokenizeFrom
      rw [if_neg (not_isBlank (by omega)), signToken?_eq_none (.inl hc)]
      dsimp only
      rw [if_pos hc, htake, hdrop, readFloat?_of_isLiteral hliteral]
      dsimp only
      rw [hplaced]
      rfl
  | @name run s tokens hne halpha hend _ ih =>
    intro position
    obtain ⟨placed, hplaced, htokens⟩ := ih (position + run.length)
    refine ⟨(.name (String.ofList (run.map Char.toLower)), position) :: placed, ?_,
      congrArg (Token.name _ :: ·) htokens⟩
    cases run with
    | nil => exact absurd rfl hne
    | cons c run =>
      have hc := halpha c List.mem_cons_self
      have hnat := toNat_of_isAlpha hc
      obtain ⟨htake, hdrop⟩ := takeWhile_run
        (fun d hd => halpha d (List.mem_cons_of_mem _ hd)) hend
      rw [List.cons_append]
      unfold tokenizeFrom
      rw [if_neg (not_isBlank (by omega)), signToken?_eq_none (.inr hc)]
      dsimp only
      rw [if_neg (not_isNumberChar_of_isAlpha hc), if_pos hc, htake, hdrop, hplaced]
      rfl

/-- The tokens that are found are those that the characters make up. -/
theorem lexes_of_tokenizeFrom {position : Nat} {s : List Char} {placed : List Placed}
    (h : tokenizeFrom position s = .ok placed) : Lexes s (unplaced placed) := by
  -- a number or a name is the longest run that can be taken from the front
  fun_induction tokenizeFrom position s generalizing placed with
  | case1 position =>
    cases h
    exact .nil
  | case2 position c s hblank ih => exact .blank hblank (ih h)
  | case3 position c s hblank token hsign ih =>
    obtain ⟨rest, hrest, h⟩ := bind_eq_ok.1 h
    cases h
    exact .sign hsign (ih hrest)
  | case4 => cases h
  | case5 position c s hblank hsign hnumber literal value hvalue =>
    rename_i ih
    obtain ⟨rest, hrest, h⟩ := bind_eq_ok.1 h
    cases h
    obtain ⟨hchars, hs⟩ := run_takeWhile hnumber s
    have hliteral := (readFloat?_isSome_iff hchars).1 (by rw [hvalue]; rfl)
    have hread := Lexes.number hliteral head?_dropWhile (ih hrest)
    rw [literalValue, hvalue] at hread
    rw [hs]
    exact hread
  | case6 position c s hblank hsign hnumber halpha name =>
    rename_i ih
    obtain ⟨rest, hrest, h⟩ := bind_eq_ok.1 h
    cases h
    obtain ⟨hchars, hs⟩ := run_takeWhile halpha s
    rw [hs]
    exact .name (List.cons_ne_nil _ _) hchars head?_dropWhile (ih hrest)
  | case7 => cases h

end CommandTemplate.Calculator
