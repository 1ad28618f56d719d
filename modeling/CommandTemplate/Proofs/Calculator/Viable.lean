import CommandTemplate.Proofs.Calculator.Derivation
import Mathlib.Data.List.Induction

/-!
Beginnings of expressions.

`Derives` is the grammar of expressions as it stands, with any names for functions and with parts
that lie in one another as deeply as they like.  Some tokens are `Viable` if an expression begins
with them.  How operators bind does not matter for that: operands and operators come in turn, and
no parenthesis closes that is not open.  A `State` is what there is to keep in mind of this, and
`viable_iff` and `derives_sum_iff` say that it is enough.
-/

namespace CommandTemplate.Calculator

/-! ### The grammar -/

inductive Part where
  | sum
  | product
  | signed
  | power
  | primary
  deriving Repr, DecidableEq

/-- Do the tokens make up a part of an expression?  Sums and products grow to the left here, which
makes no difference for their tokens (`Sum.derives`). -/
inductive Derives : Part → List Token → Prop
  | product {s : List Token} : Derives .product s → Derives .sum s
  | terms {s t : List Token} {token : Token} : token.sumOperator?.isSome = true →
    Derives .product s → Derives .sum t → Derives .sum (s ++ token :: t)
  | signed {s : List Token} : Derives .signed s → Derives .product s
  | factors {s t : List Token} {token : Token} : token.productOperator?.isSome = true →
    Derives .signed s → Derives .product t → Derives .product (s ++ token :: t)
  | power {s : List Token} : Derives .power s → Derives .signed s
  | sign {s : List Token} {token : Token} : token.sumOperator?.isSome = true →
    Derives .signed s → Derives .signed (token :: s)
  | primary {s : List Token} : Derives .primary s → Derives .power s
  | raised {s t : List Token} : Derives .primary s → Derives .signed t →
    Derives .power (s ++ .caret :: t)
  | number (value : Float) : Derives .primary [.number value]
  | group {s : List Token} : Derives .sum s → Derives .primary (.opening :: (s ++ [.closing]))
  | call {s : List Token} (name : String) : Derives .sum s →
    Derives .primary (.name name :: .opening :: (s ++ [.closing]))

/-- Does an expression begin with the tokens? -/
def Viable (tokens : List Token) : Prop :=
  ∃ rest, Derives .sum (tokens ++ rest)

theorem Viable.of_append {s t : List Token} (h : Viable (s ++ t)) : Viable s := by
  obtain ⟨rest, h⟩ := h
  refine ⟨t ++ rest, ?_⟩
  rwa [← List.append_assoc]

/-- The operators that a part goes on with behind an operand. -/
def Part.takes : Part → Token → Bool
  | .sum, .plus | .sum, .minus | .sum, .star | .sum, .slash | .sum, .caret => true
  | .product, .star | .product, .slash | .product, .caret => true
  | .signed, .caret | .power, .caret => true
  | _, _ => false

namespace Part

variable {token : Token}

theorem takes_sum_of_sumOperator? (h : token.sumOperator?.isSome = true) :
    takes .sum token = true := by
  cases token <;> first | rfl | cases h

theorem takes_sum_of_productOperator? (h : token.productOperator?.isSome = true) :
    takes .sum token = true := by
  cases token <;> first | rfl | cases h

/-- A product goes on with its own operators and with what its factors go on with. -/
theorem takes_product_eq_false (hoperator : token.productOperator? = none)
    (h : takes .signed token = false) : takes .product token = false := by
  cases token with
  | star | slash => cases hoperator
  | caret => cases h
  | _ => rfl

/-- A sum goes on with its own operators and with what its terms go on with. -/
theorem takes_sum_eq_false (hoperator : token.sumOperator? = none)
    (h : takes .product token = false) : takes .sum token = false := by
  cases token with
  | plus | minus => cases hoperator
  | star | slash | caret => cases h
  | _ => rfl

end Part

/-! ### Longer expressions -/

namespace Derives

variable {s t : List Token} {token : Token}

/-- A sum goes on with one more term. -/
theorem more_terms (htoken : token.sumOperator?.isSome = true) (hs : Derives .sum s)
    (ht : Derives .product t) : Derives .sum (s ++ token :: t) := by
  generalize hpart : Part.sum = part at hs
  induction hs with
  | product h => exact .terms htoken h (.product ht)
  | terms hfirst h _ _ ih =>
    rw [List.append_assoc]
    exact .terms hfirst h (ih hpart)
  | _ => cases hpart

/-- A product goes on with one more factor. -/
theorem more_factors (htoken : token.productOperator?.isSome = true) (hs : Derives .product s)
    (ht : Derives .signed t) : Derives .product (s ++ token :: t) := by
  generalize hpart : Part.product = part at hs
  induction hs with
  | signed h => exact .factors htoken h (.signed ht)
  | factors hfirst h _ _ ih =>
    rw [List.append_assoc]
    exact .factors hfirst h (ih hpart)
  | _ => cases hpart

theorem sum_of_primary (h : Derives .primary s) : Derives .sum s :=
  .product (.signed (.power (.primary h)))

/-- A sum is a sum with any other product in the place of its first one. -/
theorem exists_product (h : Derives .sum s) : ∃ first back, s = first ++ back ∧
    Derives .product first ∧ ∀ t, Derives .product t → Derives .sum (t ++ back) := by
  cases h with
  | product h =>
    refine ⟨s, [], (List.append_nil s).symm, h, fun t ht => ?_⟩
    rw [List.append_nil]
    exact .product ht
  | @terms first u token htoken hfirst hu =>
    exact ⟨first, token :: u, rfl, hfirst, fun t ht => .terms htoken ht hu⟩

/-- A sum is a sum with any other signed part in the place of its first one. -/
theorem exists_signed (h : Derives .sum s) : ∃ first back, s = first ++ back ∧
    Derives .signed first ∧ ∀ t, Derives .signed t → Derives .sum (t ++ back) := by
  obtain ⟨product, back, rfl, hproduct, hback⟩ := h.exists_product
  cases hproduct with
  | signed h => exact ⟨product, back, rfl, h, fun t ht => hback t (.signed ht)⟩
  | @factors first u token htoken hfirst hu =>
    refine ⟨first, token :: u ++ back, List.append_assoc .., hfirst, fun t ht => ?_⟩
    rw [← List.append_assoc]
    exact hback _ (.factors htoken ht hu)

/-- A sign in front of a sum belongs to its first factor. -/
theorem sum_sign (htoken : token.sumOperator?.isSome = true) (h : Derives .sum s) :
    Derives .sum (token :: s) := by
  obtain ⟨first, back, rfl, hfirst, hback⟩ := h.exists_signed
  exact hback (token :: first) (.sign htoken hfirst)

/-- Whatever an operator binds, an operand and a sum with it between them are a sum. -/
theorem sum_operator (hs : Derives .primary s) (htoken : Part.takes .sum token = true)
    (ht : Derives .sum t) : Derives .sum (s ++ token :: t) := by
  have hsigned : Derives .signed s := .power (.primary hs)
  cases token with
  | plus | minus => exact .terms rfl (.signed hsigned) ht
  | star | slash =>
    -- the operator binds only the first part of what follows
    obtain ⟨first, back, rfl, hfirst, hback⟩ := ht.exists_product
    rw [← List.cons_append, ← List.append_assoc]
    exact hback _ (.factors rfl hsigned hfirst)
  | caret =>
    obtain ⟨first, back, rfl, hfirst, hback⟩ := ht.exists_signed
    rw [← List.cons_append, ← List.append_assoc]
    exact hback _ (.power (.raised hs hfirst))
  | _ => cases htoken

end Derives

mutual

/-- The tokens of a derivation are an expression. -/
theorem Sum.derives : ∀ d : Sum, Derives .sum d.tokens
  | .product product => .product product.derives
  | .plus left right | .minus left right => left.derives.more_terms rfl right.derives

theorem Product.derives : ∀ d : Product, Derives .product d.tokens
  | .signed signed => .signed signed.derives
  | .times left right | .over left right => left.derives.more_factors rfl right.derives

theorem Signed.derives : ∀ d : Signed, Derives .signed d.tokens
  | .positive body | .negative body => .sign rfl body.derives
  | .power power => .power power.derives

theorem Power.derives : ∀ d : Power, Derives .power d.tokens
  | .primary primary => .primary primary.derives
  | .raised base exponent => .raised base.derives exponent.derives

theorem Primary.derives : ∀ d : Primary, Derives .primary d.tokens
  | .number value => .number value
  | .group sum => .group sum.derives
  | .call function argument => .call function.name argument.derives

end

/-! ### States -/

/-- What comes next. -/
inductive Expected where
  /-- An operand, or a sign in front of it. -/
  | operand
  /-- The parenthesis behind a name. -/
  | opening
  /-- An operator, or a parenthesis that closes. -/
  | operator
  deriving Repr, DecidableEq

/-- What is to be known of the tokens so far. -/
structure State where
  expected : Expected
  /-- The number of parentheses that are not closed yet. -/
  opened : Nat
  deriving Repr, DecidableEq

namespace State

/-- Nothing is read. -/
def start : State := ⟨.operand, 0⟩

/-- The state after one more token, unless it does not fit. -/
def next? : State → Token → Option State
  | ⟨.operand, n⟩, .number _ => some ⟨.operator, n⟩
  | ⟨.operand, n⟩, .name _ => some ⟨.opening, n⟩
  | ⟨.operand, n⟩, .opening | ⟨.opening, n⟩, .opening => some ⟨.operand, n + 1⟩
  | ⟨.operand, n⟩, .plus | ⟨.operand, n⟩, .minus => some ⟨.operand, n⟩
  | ⟨.operator, n⟩, .closing =>
    match n with
    | 0 => none
    | n + 1 => some ⟨.operator, n⟩
  | ⟨.operator, n⟩, token => if Part.takes .sum token then some ⟨.operand, n⟩ else none
  | _, _ => none

/-- The state after some tokens, unless one of them does not fit. -/
def follow (state : State) (tokens : List Token) : Option State :=
  tokens.foldlM next? state

variable {state reached : State} {token : Token} {s t : List Token} {n : Nat}

theorem follow_cons : state.follow (token :: s) = state.next? token >>= (·.follow s) := rfl

/-- The tokens behind are read in the state that those in front lead to. -/
theorem follow_append : state.follow (s ++ t) = state.follow s >>= (·.follow t) :=
  List.foldlM_append

theorem follow_concat : state.follow (s ++ [token]) = state.follow s >>= (·.next? token) := by
  rw [follow_append]
  congr 1
  funext reached
  exact bind_pure (reached.next? token)

theorem next?_sign (h : token.sumOperator?.isSome = true) :
    next? ⟨.operand, n⟩ token = some ⟨.operand, n⟩ := by
  cases token <;> first | rfl | cases h

theorem next?_operator (h : Part.takes .sum token = true) :
    next? ⟨.operator, n⟩ token = some ⟨.operand, n⟩ := by
  cases token <;> first | rfl | cases h

/-- An operator between operands makes an operand of them. -/
theorem follow_binary (htoken : Part.takes .sum token = true)
    (hs : follow ⟨.operand, n⟩ s = some ⟨.operator, n⟩)
    (ht : follow ⟨.operand, n⟩ t = some ⟨.operator, n⟩) :
    follow ⟨.operand, n⟩ (s ++ token :: t) = some ⟨.operator, n⟩ := by
  rw [follow_append, hs, Option.bind_eq_bind, Option.bind_some, follow_cons, next?_operator htoken]
  exact ht

/-- A parenthesis that closes makes an operand of what it holds. -/
theorem follow_closed (hs : follow ⟨.operand, n + 1⟩ s = some ⟨.operator, n + 1⟩) :
    follow ⟨.operand, n + 1⟩ (s ++ [.closing]) = some ⟨.operator, n⟩ := by
  rw [follow_concat, hs]
  rfl

end State

open State

/-- Every part is an operand to what is around it, whatever parentheses are open. -/
theorem follow_of_derives {part : Part} {s : List Token} (h : Derives part s) (n : Nat) :
    follow ⟨.operand, n⟩ s = some ⟨.operator, n⟩ := by
  induction h generalizing n with
  | product _ ih | signed _ ih | power _ ih | primary _ ih => exact ih n
  | terms htoken _ _ ihs iht =>
    exact follow_binary (Part.takes_sum_of_sumOperator? htoken) (ihs n) (iht n)
  | factors htoken _ _ ihs iht =>
    exact follow_binary (Part.takes_sum_of_productOperator? htoken) (ihs n) (iht n)
  | raised _ _ ihs iht => exact follow_binary rfl (ihs n) (iht n)
  | sign htoken _ ih =>
    rw [follow_cons, next?_sign htoken]
    exact ih n
  | number => rfl
  | group _ ih => exact follow_closed (ih (n + 1))
  | call _ _ ih => exact follow_closed (ih (n + 1))

/-! ### Going on to an expression -/

/-- What may stand behind an operand where no parenthesis is open. -/
inductive Behind : List Token → Prop
  | nil : Behind []
  | operator {token : Token} {t : List Token} : Part.takes .sum token = true → Derives .sum t →
    Behind (token :: t)

/-- What may follow on an operand makes a sum with it. -/
theorem Derives.sum_append {s t : List Token} (hs : Derives .primary s) (ht : Behind t) :
    Derives .sum (s ++ t) := by
  cases ht with
  | nil =>
    rw [List.append_nil]
    exact hs.sum_of_primary
  | operator htoken ht => exact hs.sum_operator htoken ht

/-- Do the tokens become a sum when `n` parentheses are closed, whatever may stand behind each of
them? -/
def Closes : Nat → List Token → Prop
  | 0, s => Derives .sum s
  | n + 1, s => ∀ t, Behind t → Closes n (s ++ .closing :: t)

/-- Tokens that can be closed are a beginning. -/
theorem Closes.viable {n : Nat} {s : List Token} (h : Closes n s) : Viable s := by
  induction n generalizing s with
  | zero =>
    refine ⟨[], ?_⟩
    rw [List.append_nil]
    exact h
  | succ n ih => exact (ih (h [] .nil)).of_append

/-- Can the tokens be continued as the state says? -/
def State.Admits : State → List Token → Prop
  | ⟨.operand, n⟩, s => ∀ t, Derives .sum t → Closes n (s ++ t)
  | ⟨.opening, n⟩, s => ∀ t, Derives .sum t → Closes (n + 1) (s ++ .opening :: t)
  | ⟨.operator, n⟩, s => ∀ t, Behind t → Closes n (s ++ t)

namespace State

variable {state reached : State} {token : Token} {s : List Token}

/-- Tokens that can be continued are a beginning. -/
theorem Admits.viable (h : state.Admits s) : Viable s := by
  have hnumber : Derives .sum [.number 0] := Derives.sum_of_primary (.number 0)
  obtain ⟨expected, n⟩ := state
  cases expected with
  | operand => exact (h _ hnumber).viable.of_append
  | opening => exact (h _ hnumber).viable.of_append
  | operator => exact (h _ .nil).viable.of_append

/-- A token that fits leaves tokens that can be continued. -/
theorem Admits.next (h : state.Admits s) (hnext : state.next? token = some reached) :
    reached.Admits (s ++ [token]) := by
  have happend (t : List Token) : s ++ [token] ++ t = s ++ token :: t :=
    (List.append_cons s token t).symm
  obtain ⟨expected, n⟩ := state
  cases expected with
  | operand =>
    cases token with
    | number value =>
      cases hnext
      intro t ht
      rw [happend]
      exact h _ (Derives.sum_append (.number value) ht)
    | name name =>
      -- what is put in parentheses becomes an argument with them
      cases hnext
      intro t ht u hu
      have hcall := h _ (Derives.sum_append (.call name ht) hu)
      simpa using hcall
    | opening =>
      cases hnext
      intro t ht u hu
      have hgroup := h _ (Derives.sum_append (.group ht) hu)
      simpa using hgroup
    | plus | minus =>
      cases hnext
      intro t ht
      rw [happend]
      exact h _ (Derives.sum_sign rfl ht)
    | star | slash | caret | closing => cases hnext
  | opening =>
    cases token with
    | opening =>
      cases hnext
      intro t ht
      rw [happend]
      exact h t ht
    | _ => cases hnext
  | operator =>
    cases token with
    | closing =>
      cases n with
      | zero => cases hnext
      | succ n =>
        cases hnext
        intro t ht
        have hclosed := h [] .nil
        rw [List.append_nil] at hclosed
        rw [happend]
        exact hclosed t ht
    | plus | minus | star | slash | caret =>
      cases hnext
      intro t ht
      rw [happend]
      exact h _ (.operator rfl ht)
    | number | name | opening => cases hnext

/-- Tokens that fit can be continued as their state says. -/
theorem admits_of_follow (h : start.follow s = some reached) : reached.Admits s := by
  -- from the end: the last token is read in the state that the others lead to
  induction s using List.reverseRecOn generalizing reached with
  | nil =>
    cases h
    exact fun t ht => ht
  | append_singleton s token ih =>
    rw [follow_concat] at h
    obtain ⟨before, hbefore, hnext⟩ := Option.bind_eq_some_iff.1 h
    exact (ih hbefore).next hnext

end State

/-- An expression begins with some tokens just if each of them fits. -/
theorem viable_iff {s : List Token} : Viable s ↔ ∃ reached, start.follow s = some reached := by
  constructor
  · rintro ⟨rest, h⟩
    have hfollow := follow_of_derives h 0
    rw [follow_append] at hfollow
    obtain ⟨reached, hreached, -⟩ := Option.bind_eq_some_iff.1 hfollow
    exact ⟨reached, hreached⟩
  · rintro ⟨reached, h⟩
    exact (admits_of_follow h).viable

/-- Some tokens are an expression just if they fit, an operand is last and nothing is open. -/
theorem derives_sum_iff {s : List Token} :
    Derives .sum s ↔ start.follow s = some ⟨.operator, 0⟩ := by
  constructor
  · exact fun h => follow_of_derives h 0
  · intro h
    have hclosed := admits_of_follow h [] .nil
    rwa [List.append_nil] at hclosed

end CommandTemplate.Calculator
