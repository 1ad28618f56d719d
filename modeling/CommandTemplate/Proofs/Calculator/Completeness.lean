import CommandTemplate.Proofs.Calculator.Derivation
import CommandTemplate.Proofs.Outcome

/-!
What has a derivation is read as its formula.

A sum is read by a loop that has the terms so far on its left, so for a derivation of a sum or a
product it is shown that its reader goes on as the loop does behind it (`readSum_of_rest`); the loop
stops where no operator follows.
-/

namespace CommandTemplate.Calculator

section

variable {depth position : Nat} {s t u : List Placed} {f g f' : Formula} {token : Token}
  {operator : Operator}

/-! ### Single steps -/

/-- A product is its first factor, and then what the loop makes of it. -/
theorem readProduct_of_rest (hfirst : Gives (readSigned depth s) g t)
    (hrest : Gives (readProductRest depth g t) f u) : Gives (readProduct depth s) f u := by
  obtain ⟨⟨_, _⟩, hg, rfl⟩ := hfirst
  obtain ⟨⟨_, _⟩, hf, rfl⟩ := hrest
  unfold readProduct
  exact gives_bind hg (gives_bind hf ⟨_, rfl, rfl⟩)

/-- The loop stops where no operator of a product follows. -/
theorem readProductRest_end (hend : ∀ x ∈ s.head?, x.1.productOperator? = none) :
    Gives (readProductRest depth f s) f s := by
  unfold readProductRest
  cases s with
  | nil => exact ⟨_, rfl, rfl⟩
  | cons placed s =>
    obtain ⟨token, position⟩ := placed
    dsimp only
    rw [hend _ rfl]
    exact ⟨_, rfl, rfl⟩

/-- The loop takes one more factor to its left. -/
theorem readProductRest_more (hoperator : token.productOperator? = some operator)
    (hright : Gives (readSigned depth s) g t)
    (hrest : Gives (readProductRest depth (.binary operator f g) t) f' u) :
    Gives (readProductRest depth f ((token, position) :: s)) f' u := by
  obtain ⟨⟨_, _⟩, hg, rfl⟩ := hright
  obtain ⟨⟨_, _⟩, hf, rfl⟩ := hrest
  unfold readProductRest
  dsimp only
  rw [hoperator]
  exact gives_bind hg (gives_bind hf ⟨_, rfl, rfl⟩)

/-- A sum is its first term, and then what the loop makes of it. -/
theorem readSum_of_rest (hfirst : Gives (readProduct depth s) g t)
    (hrest : Gives (readSumRest depth g t) f u) : Gives (readSum depth s) f u := by
  obtain ⟨⟨_, _⟩, hg, rfl⟩ := hfirst
  obtain ⟨⟨_, _⟩, hf, rfl⟩ := hrest
  unfold readSum
  exact gives_bind hg (gives_bind hf ⟨_, rfl, rfl⟩)

/-- The loop stops where no operator of a sum follows. -/
theorem readSumRest_end (hend : ∀ x ∈ s.head?, x.1.sumOperator? = none) :
    Gives (readSumRest depth f s) f s := by
  unfold readSumRest
  cases s with
  | nil => exact ⟨_, rfl, rfl⟩
  | cons placed s =>
    obtain ⟨token, position⟩ := placed
    dsimp only
    rw [hend _ rfl]
    exact ⟨_, rfl, rfl⟩

/-- The loop takes one more term to its left. -/
theorem readSumRest_more (hoperator : token.sumOperator? = some operator)
    (hright : Gives (readProduct depth s) g t)
    (hrest : Gives (readSumRest depth (.binary operator f g) t) f' u) :
    Gives (readSumRest depth f ((token, position) :: s)) f' u := by
  obtain ⟨⟨_, _⟩, hg, rfl⟩ := hright
  obtain ⟨⟨_, _⟩, hf, rfl⟩ := hrest
  unfold readSumRest
  dsimp only
  rw [hoperator]
  exact gives_bind hg (gives_bind hf ⟨_, rfl, rfl⟩)

theorem readSigned_positive (hdepth : depth < maxDepth)
    (hbody : Gives (readSigned (depth + 1) s) f u) :
    Gives (readSigned depth ((.plus, position) :: s)) f u := by
  obtain ⟨⟨_, _⟩, hf, rfl⟩ := hbody
  unfold readSigned
  rw [if_neg (Nat.not_le_of_lt hdepth)]
  exact gives_bind hf ⟨_, rfl, rfl⟩

theorem readSigned_negative (hdepth : depth < maxDepth)
    (hbody : Gives (readSigned (depth + 1) s) f u) :
    Gives (readSigned depth ((.minus, position) :: s)) (.negate f) u := by
  obtain ⟨⟨_, _⟩, hf, rfl⟩ := hbody
  unfold readSigned
  rw [if_neg (Nat.not_le_of_lt hdepth)]
  exact gives_bind hf ⟨_, rfl, rfl⟩

/-- What does not start with a sign is a power. -/
theorem readSigned_power (hdepth : depth < maxDepth)
    (hstart : ∀ x ∈ s.head?, x.1.sumOperator? = none)
    (hpower : Gives (readPower (depth + 1) s) f u) : Gives (readSigned depth s) f u := by
  unfold readSigned
  rw [if_neg (Nat.not_le_of_lt hdepth)]
  split
  · cases hstart _ rfl
  · cases hstart _ rfl
  · exact hpower

/-- An exponent may have a sign and exponents of its own. -/
theorem readPower_raised (hbase : Gives (readPrimary depth s) f ((.caret, position) :: t))
    (hexponent : Gives (readSigned depth t) g u) :
    Gives (readPower depth s) (.binary .pow f g) u := by
  obtain ⟨⟨_, _⟩, hf, rfl⟩ := hbase
  obtain ⟨⟨_, _⟩, hg, rfl⟩ := hexponent
  unfold readPower
  exact gives_bind hf (gives_bind hg ⟨_, rfl, rfl⟩)

/-- Does no exponent follow? -/
def NoExponent (s : List Placed) : Prop :=
  ∀ position t, s ≠ (.caret, position) :: t

/-- A power has no exponent if none follows. -/
theorem readPower_primary (hbase : Gives (readPrimary depth s) f u) (hend : NoExponent u) :
    Gives (readPower depth s) f u := by
  obtain ⟨⟨_, _⟩, hf, rfl⟩ := hbase
  unfold readPower
  refine gives_bind hf ?_
  dsimp only
  split
  · exact absurd rfl (hend _ _)
  · exact ⟨_, rfl, rfl⟩

theorem readPrimary_number (value : Float) :
    Gives (readPrimary depth ((.number value, position) :: s)) (.number value) s := by
  unfold readPrimary
  exact ⟨_, rfl, rfl⟩

/-- Parentheses leave the formula of their sum. -/
theorem readPrimary_group {q : Nat} (hsum : Gives (readSum depth s) f ((.closing, q) :: u)) :
    Gives (readPrimary depth ((.opening, position) :: s)) f u := by
  obtain ⟨⟨_, _⟩, hf, rfl⟩ := hsum
  unfold readPrimary
  exact gives_bind hf ⟨_, rfl, rfl⟩

/-- A name that is known is that of a function. -/
theorem readPrimary_call {q r : Nat} (function : Function)
    (hargument : Gives (readSum depth s) f ((.closing, q) :: u)) :
    Gives (readPrimary depth ((.name function.name, position) :: (.opening, r) :: s))
      (.apply function f) u := by
  obtain ⟨⟨_, _⟩, hf, rfl⟩ := hargument
  unfold readPrimary
  refine gives_bind rfl (gives_bind hf (gives_bind rfl ?_))
  rw [Function.ofName?_name]
  exact ⟨_, rfl, rfl⟩

end

/-! ### Derivations -/

/-- No factor and no exponent follows. -/
structure NoFactor (s : List Placed) : Prop where
  noExponent : NoExponent s
  noProduct : ∀ x ∈ s.head?, x.1.productOperator? = none

theorem noFactor_cons {token : Token} {position : Nat} {s : List Placed}
    (h : token.productOperator? = none) (hcaret : ¬ token matches .caret) :
    NoFactor ((token, position) :: s) := by
  refine ⟨fun q t heq => ?_, fun x hx => ?_⟩
  · cases heq
    exact hcaret rfl
  · cases hx
    exact h

/-- The first of some tokens has a position. -/
theorem exists_cons {s : List Placed} {token : Token} {back : List Token}
    (h : unplaced s = token :: back) :
    ∃ position t, s = (token, position) :: t ∧ unplaced t = back := by
  obtain ⟨⟨c, position⟩, t, rfl, rfl, ht⟩ := List.map_eq_cons_iff.1 h
  exact ⟨position, t, rfl, ht⟩

/-- The tokens in front of one of the tokens and behind it. -/
theorem exists_split {s : List Placed} {front back : List Token} {token : Token}
    (h : unplaced s = front ++ token :: back) :
    ∃ t position u, s = t ++ (token, position) :: u ∧ unplaced t = front ∧ unplaced u = back := by
  obtain ⟨t, v, rfl, hfront, hback⟩ := List.map_eq_append_iff.1 h
  obtain ⟨position, u, rfl, hu⟩ := exists_cons hback
  exact ⟨t, position, u, rfl, hfront, hu⟩

/-- A power does not start with a sign. -/
theorem sumOperator?_of_power {d : Power} {s rest : List Placed} (h : unplaced s = d.tokens) :
    ∀ x ∈ (s ++ rest).head?, x.1.sumOperator? = none := by
  obtain ⟨token, back, hd, htoken⟩ := d.tokens_eq_cons
  obtain ⟨position, t, rfl, -⟩ := exists_cons (h.trans hd)
  rintro x hx
  cases hx
  exact htoken

mutual

/-- What the loop makes of the left term is what it makes of the sum. -/
theorem readSum_tokens : ∀ (d : Sum) {depth : Nat} {s rest u : List Placed} {f : Formula},
    depth + d.nesting < maxDepth → unplaced s = d.tokens → NoFactor rest →
    Gives (readSumRest depth d.formula rest) f u → Gives (readSum depth (s ++ rest)) f u
  | .product product, depth, s, rest, u, f, hdepth, hs, hfollow, hrest => by
    refine readSum_of_rest (readProduct_tokens product hdepth hs hfollow.noExponent ?_) hrest
    exact readProductRest_end hfollow.noProduct
  | .plus left right, depth, s, rest, u, f, hdepth, hs, hfollow, hrest
  | .minus left right, depth, s, rest, u, f, hdepth, hs, hfollow, hrest => by
    obtain ⟨t, position, v, rfl, hleft, hright⟩ := exists_split hs
    rw [Sum.nesting] at hdepth
    rw [List.append_assoc]
    -- the left side is read first, and the loop goes on behind it with the operator
    refine readSum_tokens left (by omega) hleft (noFactor_cons rfl nofun) ?_
    refine readSumRest_more rfl ?_ hrest
    refine readProduct_tokens right (by omega) hright hfollow.noExponent ?_
    exact readProductRest_end hfollow.noProduct

/-- What the loop makes of the left factor is what it makes of the product. -/
theorem readProduct_tokens : ∀ (d : Product) {depth : Nat} {s rest u : List Placed} {f : Formula},
    depth + d.nesting < maxDepth → unplaced s = d.tokens → NoExponent rest →
    Gives (readProductRest depth d.formula rest) f u → Gives (readProduct depth (s ++ rest)) f u
  | .signed signed, depth, s, rest, u, f, hdepth, hs, hfollow, hrest =>
    readProduct_of_rest (readSigned_tokens signed hdepth hs hfollow) hrest
  | .times left right, depth, s, rest, u, f, hdepth, hs, hfollow, hrest
  | .over left right, depth, s, rest, u, f, hdepth, hs, hfollow, hrest => by
    obtain ⟨t, position, v, rfl, hleft, hright⟩ := exists_split hs
    rw [Product.nesting] at hdepth
    rw [List.append_assoc]
    refine readProduct_tokens left (by omega) hleft nofun ?_
    exact readProductRest_more rfl (readSigned_tokens right (by omega) hright hfollow) hrest

/-- A signed part is read one level further in. -/
theorem readSigned_tokens : ∀ (d : Signed) {depth : Nat} {s rest : List Placed},
    depth + d.nesting < maxDepth → unplaced s = d.tokens → NoExponent rest →
    Gives (readSigned depth (s ++ rest)) d.formula rest
  | .positive body, depth, s, rest, hdepth, hs, hfollow => by
    obtain ⟨position, t, rfl, ht⟩ := exists_cons hs
    rw [Signed.nesting] at hdepth
    exact readSigned_positive (by omega) (readSigned_tokens body (by omega) ht hfollow)
  | .negative body, depth, s, rest, hdepth, hs, hfollow => by
    obtain ⟨position, t, rfl, ht⟩ := exists_cons hs
    rw [Signed.nesting] at hdepth
    exact readSigned_negative (by omega) (readSigned_tokens body (by omega) ht hfollow)
  | .power power, depth, s, rest, hdepth, hs, hfollow => by
    rw [Signed.nesting] at hdepth
    exact readSigned_power (by omega) (sumOperator?_of_power hs)
      (readPower_tokens power (by omega) hs hfollow)

/-- A power is read unless an exponent follows that belongs to it. -/
theorem readPower_tokens : ∀ (d : Power) {depth : Nat} {s rest : List Placed},
    depth + d.nesting ≤ maxDepth → unplaced s = d.tokens → NoExponent rest →
    Gives (readPower depth (s ++ rest)) d.formula rest
  | .primary primary, depth, s, rest, hdepth, hs, hfollow =>
    readPower_primary (readPrimary_tokens primary hdepth hs) hfollow
  | .raised base exponent, depth, s, rest, hdepth, hs, hfollow => by
    obtain ⟨t, position, v, rfl, hbase, hexponent⟩ := exists_split hs
    rw [Power.nesting] at hdepth
    rw [List.append_assoc]
    refine readPower_raised (readPrimary_tokens base (by omega) hbase) ?_
    exact readSigned_tokens exponent (by omega) hexponent hfollow

/-- A primary part is read whatever follows. -/
theorem readPrimary_tokens : ∀ (d : Primary) {depth : Nat} {s rest : List Placed},
    depth + d.nesting ≤ maxDepth → unplaced s = d.tokens →
    Gives (readPrimary depth (s ++ rest)) d.formula rest
  | .number value, depth, s, rest, hdepth, hs => by
    obtain ⟨position, t, rfl, ht⟩ := exists_cons hs
    obtain rfl := List.map_eq_nil_iff.1 ht
    exact readPrimary_number value
  | .group sum, depth, s, rest, hdepth, hs => by
    obtain ⟨position, t, rfl, ht⟩ := exists_cons hs
    obtain ⟨v, q, w, rfl, hsum, hw⟩ := exists_split ht
    obtain rfl := List.map_eq_nil_iff.1 hw
    rw [Primary.nesting] at hdepth
    rw [List.cons_append, List.append_assoc]
    refine readPrimary_group (q := q) (readSum_tokens sum (by omega) hsum ?_ ?_)
    · exact noFactor_cons rfl nofun
    · exact readSumRest_end fun x hx => by cases hx; rfl
  | .call function argument, depth, s, rest, hdepth, hs => by
    obtain ⟨position, t, rfl, ht⟩ := exists_cons hs
    obtain ⟨r, v, rfl, hv⟩ := exists_cons ht
    obtain ⟨v, q, w, rfl, hargument, hw⟩ := exists_split hv
    obtain rfl := List.map_eq_nil_iff.1 hw
    rw [Primary.nesting] at hdepth
    rw [List.cons_append, List.cons_append, List.append_assoc]
    refine readPrimary_call (q := q) function (readSum_tokens argument (by omega) hargument ?_ ?_)
    · exact noFactor_cons rfl nofun
    · exact readSumRest_end fun x hx => by cases hx; rfl

end

/-- What has a derivation is read as its formula. -/
theorem parse_of_derivation {s : List Placed} (d : Sum) (hs : unplaced s = d.tokens)
    (hnesting : d.nesting < maxDepth) : Formula.parse s = .ok d.formula := by
  have hsum : Gives (readSum 0 (s ++ [])) d.formula [] := by
    refine readSum_tokens d (by omega) hs ⟨nofun, nofun⟩ (readSumRest_end nofun)
  rw [List.append_nil] at hsum
  obtain ⟨v, hv, hrest⟩ := hsum
  -- a reader leaves fewer tokens than there were
  have hne : ¬ s.isEmpty = true := by
    intro h
    rw [List.isEmpty_iff.1 h] at v
    exact absurd v.2 (Nat.not_lt_zero _)
  obtain ⟨v, hlength⟩ := v
  obtain rfl : v = [] := hrest
  unfold Formula.parse
  rw [if_neg hne, hv]
  rfl

end CommandTemplate.Calculator
