import CommandTemplate.Proofs.Calculator.Derivation
import CommandTemplate.Proofs.Outcome

/-!
What is read as a formula has a derivation.

All recursion goes through `readSigned`, and between two of its calls there is a token less.  So
the readers of other parts are shown to be sound for tokens that are no more than `n` if
`readSigned` is sound for fewer than `n` (`SignedBelow`), and `signedBelow` is the induction on
`n`.
-/

namespace CommandTemplate.Calculator

/-! ### Single tokens -/

/-- A sum with one more term. -/
theorem exists_sum {token : Token} {operator : Operator}
    (h : token.sumOperator? = some operator) (left : Sum) (right : Product) :
    ∃ d : Sum, d.tokens = left.tokens ++ token :: right.tokens ∧
      d.formula = .binary operator left.formula right.formula ∧
      d.nesting = max left.nesting right.nesting := by
  cases token <;> cases h
  · exact ⟨.plus left right, rfl, rfl, rfl⟩
  · exact ⟨.minus left right, rfl, rfl, rfl⟩

/-- A product with one more factor. -/
theorem exists_product {token : Token} {operator : Operator}
    (h : token.productOperator? = some operator) (left : Product) (right : Signed) :
    ∃ d : Product, d.tokens = left.tokens ++ token :: right.tokens ∧
      d.formula = .binary operator left.formula right.formula ∧
      d.nesting = max left.nesting right.nesting := by
  cases token <;> cases h
  · exact ⟨.times left right, rfl, rfl, rfl⟩
  · exact ⟨.over left right, rfl, rfl, rfl⟩

theorem Token.eq_opening {token : Token} (h : token.isOpening = true) : token = .opening := by
  cases token <;> cases h
  rfl

theorem Token.eq_closing {token : Token} (h : token.isClosing = true) : token = .closing := by
  cases token <;> cases h
  rfl

/-- Of a token that is known by a test, the expected one is there. -/
theorem of_expect {wanted : Token → Bool} {token : Token}
    (hwanted : ∀ {other}, wanted other = true → other = token) {s : List Placed} {t : Fewer s}
    (h : expect wanted s = .ok t) : unplaced s = token :: unplaced t.1 := by
  unfold expect at h
  split at h
  · cases h
  · next other position s =>
    split at h
    · next hother =>
      cases h
      rw [unplaced_cons, hwanted hother]
    · cases h

/-! ### Parts of a formula -/

/-- Signed parts with fewer than `n` tokens from their beginning on have derivations. -/
def SignedBelow (n : Nat) : Prop :=
  ∀ {depth : Nat} {s : List Placed} {f : Formula} {t : Fewer s}, s.length < n →
    readSigned depth s = .ok (f, t) →
    ∃ d : Signed, unplaced s = d.tokens ++ unplaced t.1 ∧ d.formula = f ∧
      depth + d.nesting < maxDepth

section

variable {n : Nat} (ih : SignedBelow n)

include ih

/-- A product goes on after its first part with one factor after the other. -/
theorem product_of_readProductRest {depth : Nat} {s : List Placed} (left : Product)
    {f : Formula} {t : AtMost s} (hleft : depth + left.nesting < maxDepth) (hn : s.length ≤ n)
    (h : readProductRest depth left.formula s = .ok (f, t)) :
    ∃ d : Product, left.tokens ++ unplaced s = d.tokens ++ unplaced t.1 ∧ d.formula = f ∧
      depth + d.nesting < maxDepth := by
  -- on the tokens that are left: `left` grows as they are read, and `n` stays
  obtain ⟨m, hm⟩ : ∃ m, s.length < m := ⟨_, Nat.lt_succ_self _⟩
  induction m generalizing s left f t with
  | zero => exact absurd hm (Nat.not_lt_zero _)
  | succ m hrec =>
    cases s with
    | nil =>
      unfold readProductRest at h
      cases h
      exact ⟨left, rfl, rfl, hleft⟩
    | cons placed s =>
      obtain ⟨token, position⟩ := placed
      unfold readProductRest at h
      dsimp only at h
      split at h
      · cases h
        exact ⟨left, rfl, rfl, hleft⟩
      next operator hoperator =>
      obtain ⟨⟨g, u⟩, hright, h⟩ := bind_eq_ok.1 h
      obtain ⟨⟨f', v⟩, hrest, h⟩ := bind_eq_ok.1 h
      cases h
      have hu := u.2
      simp only [List.length_cons] at hn hm
      obtain ⟨right, hs, rfl, hnesting⟩ := ih (by omega) hright
      obtain ⟨left', htokens, hformula, hmax⟩ := exists_product hoperator left right
      rw [← hformula] at hrest
      obtain ⟨d, hd, hf, hdepth⟩ :=
        hrec left' (by omega) (by dsimp only; omega) hrest (by dsimp only; omega)
      refine ⟨d, ?_, hf, hdepth⟩
      rw [unplaced_cons, hs, ← hd, htokens, List.append_assoc, List.cons_append]

/-- What is read as a product has a derivation with this formula, nested no deeper than allowed. -/
theorem product_of_readProduct {depth : Nat} {s : List Placed} {f : Formula} {t : Fewer s}
    (hn : s.length < n) (h : readProduct depth s = .ok (f, t)) :
    ∃ d : Product, unplaced s = d.tokens ++ unplaced t.1 ∧ d.formula = f ∧
      depth + d.nesting < maxDepth := by
  unfold readProduct at h
  obtain ⟨⟨g, u⟩, hfirst, h⟩ := bind_eq_ok.1 h
  obtain ⟨⟨f', v⟩, hrest, h⟩ := bind_eq_ok.1 h
  cases h
  obtain ⟨first, hs, rfl, hnesting⟩ := ih hn hfirst
  have hu := u.2
  rw [hs]
  exact product_of_readProductRest ih (.signed first) hnesting (by omega) hrest

/-- A sum goes on after its first part with one term after the other. -/
theorem sum_of_readSumRest {depth : Nat} {s : List Placed} (left : Sum) {f : Formula}
    {t : AtMost s} (hleft : depth + left.nesting < maxDepth) (hn : s.length ≤ n)
    (h : readSumRest depth left.formula s = .ok (f, t)) :
    ∃ d : Sum, left.tokens ++ unplaced s = d.tokens ++ unplaced t.1 ∧ d.formula = f ∧
      depth + d.nesting < maxDepth := by
  -- on the tokens that are left: `left` grows as they are read, and `n` stays
  obtain ⟨m, hm⟩ : ∃ m, s.length < m := ⟨_, Nat.lt_succ_self _⟩
  induction m generalizing s left f t with
  | zero => exact absurd hm (Nat.not_lt_zero _)
  | succ m hrec =>
    cases s with
    | nil =>
      unfold readSumRest at h
      cases h
      exact ⟨left, rfl, rfl, hleft⟩
    | cons placed s =>
      obtain ⟨token, position⟩ := placed
      unfold readSumRest at h
      dsimp only at h
      split at h
      · cases h
        exact ⟨left, rfl, rfl, hleft⟩
      next operator hoperator =>
      obtain ⟨⟨g, u⟩, hright, h⟩ := bind_eq_ok.1 h
      obtain ⟨⟨f', v⟩, hrest, h⟩ := bind_eq_ok.1 h
      cases h
      have hu := u.2
      simp only [List.length_cons] at hn hm
      obtain ⟨right, hs, rfl, hnesting⟩ := product_of_readProduct ih (by omega) hright
      obtain ⟨left', htokens, hformula, hmax⟩ := exists_sum hoperator left right
      rw [← hformula] at hrest
      obtain ⟨d, hd, hf, hdepth⟩ :=
        hrec left' (by omega) (by dsimp only; omega) hrest (by dsimp only; omega)
      refine ⟨d, ?_, hf, hdepth⟩
      rw [unplaced_cons, hs, ← hd, htokens, List.append_assoc, List.cons_append]

/-- What is read as a sum has one. -/
theorem sum_of_readSum {depth : Nat} {s : List Placed} {f : Formula} {t : Fewer s}
    (hn : s.length < n) (h : readSum depth s = .ok (f, t)) :
    ∃ d : Sum, unplaced s = d.tokens ++ unplaced t.1 ∧ d.formula = f ∧
      depth + d.nesting < maxDepth := by
  unfold readSum at h
  obtain ⟨⟨g, u⟩, hfirst, h⟩ := bind_eq_ok.1 h
  obtain ⟨⟨f', v⟩, hrest, h⟩ := bind_eq_ok.1 h
  cases h
  obtain ⟨first, hs, rfl, hnesting⟩ := product_of_readProduct ih hn hfirst
  have hu := u.2
  rw [hs]
  exact sum_of_readSumRest ih (.product first) hnesting (by omega) hrest

/-- What is read as a primary part has one. -/
theorem primary_of_readPrimary {depth : Nat} {s : List Placed} {f : Formula} {t : Fewer s}
    (hdepth : depth ≤ maxDepth) (hn : s.length ≤ n) (h : readPrimary depth s = .ok (f, t)) :
    ∃ d : Primary, unplaced s = d.tokens ++ unplaced t.1 ∧ d.formula = f ∧
      depth + d.nesting ≤ maxDepth := by
  unfold readPrimary at h
  split at h
  · cases h
  · next value position s =>
    cases h
    exact ⟨.number value, rfl, rfl, hdepth⟩
  · next position s =>
    obtain ⟨⟨g, u⟩, hsum, h⟩ := bind_eq_ok.1 h
    obtain ⟨v, hclosing, h⟩ := bind_eq_ok.1 h
    cases h
    obtain ⟨sum, hs, rfl, hnesting⟩ := sum_of_readSum ih hn hsum
    refine ⟨.group sum, ?_, rfl, hnesting⟩
    rw [unplaced_cons, hs, of_expect Token.eq_closing hclosing]
    simp [Primary.tokens]
  · next name position s =>
    obtain ⟨u, hopening, h⟩ := bind_eq_ok.1 h
    obtain ⟨⟨g, v⟩, hargument, h⟩ := bind_eq_ok.1 h
    obtain ⟨w, hclosing, h⟩ := bind_eq_ok.1 h
    -- behind the parenthesis there are fewer tokens, so the argument is read by `ih`
    have hu := u.2
    simp only [List.length_cons] at hn
    obtain ⟨argument, hs, rfl, hnesting⟩ := sum_of_readSum ih (by omega) hargument
    split at h
    · cases h
    · next function hfunction =>
      cases h
      refine ⟨.call function argument, ?_, rfl, hnesting⟩
      rw [unplaced_cons, of_expect Token.eq_opening hopening, hs,
        of_expect Token.eq_closing hclosing, Function.ofName?_eq_some hfunction]
      simp [Primary.tokens]
  · cases h

/-- What is read as a power has one. -/
theorem power_of_readPower {depth : Nat} {s : List Placed} {f : Formula} {t : Fewer s}
    (hdepth : depth ≤ maxDepth) (hn : s.length ≤ n) (h : readPower depth s = .ok (f, t)) :
    ∃ d : Power, unplaced s = d.tokens ++ unplaced t.1 ∧ d.formula = f ∧
      depth + d.nesting ≤ maxDepth := by
  unfold readPower at h
  obtain ⟨⟨g, u⟩, hbase, h⟩ := bind_eq_ok.1 h
  obtain ⟨base, hs, rfl, hnesting⟩ := primary_of_readPrimary ih hdepth hn hbase
  have hu := u.2
  dsimp only at h
  split at h
  · next position v hcaret =>
    obtain ⟨⟨e, w⟩, hexponent, h⟩ := bind_eq_ok.1 h
    cases h
    rw [hcaret, List.length_cons] at hu
    obtain ⟨exponent, hv, rfl, hexp⟩ := ih (by omega) hexponent
    have hrest : unplaced u.1 = .caret :: unplaced v := by rw [hcaret, unplaced_cons]
    refine ⟨.raised base exponent, ?_, rfl, ?_⟩
    · show _ = _ ++ unplaced w.1
      rw [hs, hrest, hv, Power.tokens, List.append_assoc, List.cons_append]
    · rw [Power.nesting]
      omega
  · cases h
    exact ⟨.primary base, hs, rfl, hnesting⟩

/-- What is read as a signed part has one. -/
theorem signed_of_readSigned {depth : Nat} {s : List Placed} {f : Formula} {t : Fewer s}
    (hn : s.length ≤ n) (h : readSigned depth s = .ok (f, t)) :
    ∃ d : Signed, unplaced s = d.tokens ++ unplaced t.1 ∧ d.formula = f ∧
      depth + d.nesting < maxDepth := by
  unfold readSigned at h
  split at h
  · cases h
  -- a signed part is read only below the greatest depth
  next hdepth =>
  have hdepth := Nat.lt_of_not_le hdepth
  split at h
  · next position s =>
    obtain ⟨⟨g, u⟩, hbody, h⟩ := bind_eq_ok.1 h
    cases h
    obtain ⟨body, hs, rfl, hnesting⟩ := ih hn hbody
    refine ⟨.positive body, by rw [unplaced_cons, hs]; rfl, rfl, ?_⟩
    rw [Signed.nesting]
    omega
  · next position s =>
    obtain ⟨⟨g, u⟩, hbody, h⟩ := bind_eq_ok.1 h
    cases h
    obtain ⟨body, hs, rfl, hnesting⟩ := ih hn hbody
    refine ⟨.negative body, by rw [unplaced_cons, hs]; rfl, rfl, ?_⟩
    rw [Signed.nesting]
    omega
  · obtain ⟨power, hs, rfl, hnesting⟩ := power_of_readPower ih hdepth hn h
    refine ⟨.power power, hs, rfl, ?_⟩
    rw [Signed.nesting]
    omega

end

theorem signedBelow (n : Nat) : SignedBelow n := by
  induction n with
  | zero => exact fun hn => absurd hn (Nat.not_lt_zero _)
  | succ n ih => exact fun hn => signed_of_readSigned ih (Nat.le_of_lt_succ hn)

/-- What is read as the formula of some tokens has a derivation with these tokens. -/
theorem derivation_of_parse {s : List Placed} {f : Formula} (h : Formula.parse s = .ok f) :
    ∃ d : Sum, unplaced s = d.tokens ∧ d.formula = f ∧ d.nesting < maxDepth := by
  unfold Formula.parse at h
  split at h
  · cases h
  obtain ⟨⟨g, t⟩, hsum, h⟩ := bind_eq_ok.1 h
  obtain ⟨d, hs, rfl, hnesting⟩ :=
    sum_of_readSum (signedBelow (s.length + 1)) (Nat.lt_succ_self _) hsum
  dsimp only at h
  split at h
  · next hrest =>
    cases h
    refine ⟨d, ?_, rfl, by omega⟩
    rw [hs, hrest]
    exact List.append_nil _
  · cases h

end CommandTemplate.Calculator
