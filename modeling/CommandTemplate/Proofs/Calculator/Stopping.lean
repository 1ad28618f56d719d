import CommandTemplate.Proofs.Calculator.Soundness
import CommandTemplate.Proofs.Calculator.Viable

/-!
Where the readers of formulas stop.

A reader passes over tokens that lead from one state to another and leaves over what its part does
not go on with, or it fails at a token that does not fit, or at the end (`Goes`).  As in
`Soundness`, all recursion goes through `readSigned`, so the readers of other parts are shown to go
so for tokens that are no more than `n` if `readSigned` does for fewer than `n`.  Since parentheses
lie in one another, nothing is said of how many are open around a part.
-/

namespace CommandTemplate.Calculator

open State

/-- Does the fault say where tokens that are read in a state stop fitting?  Unknown functions and
too deep parts are no matter of fitting, and other faults are not found by reading tokens. -/
def Error.Stops (state : State) (s : List Placed) : Error → Prop
  | .unexpectedToken token position => ∃ before after reached,
    s = before ++ (token, position) :: after ∧
      state.follow (unplaced before) = some reached ∧ reached.next? token = none
  | .unexpectedEnd => ∃ reached, state.follow (unplaced s) = some reached ∧ reached ≠ ⟨.operator, 0⟩
  | .unknownFunction _ | .tooDeep => True
  | .empty | .unexpectedChar _ _ | .invalidNumber _ => False

/-- Does a reader that leaves `rest` over pass on from one state to another, up to a token that
`part` does not take, or else fail where the tokens stop fitting? -/
def Goes {α : Type} (rest : α → List Placed) (part : Part) (state reached : State)
    (s : List Placed) : Except Error α → Prop
  | .ok a => (∃ before, s = before ++ rest a ∧ state.follow (unplaced before) = some reached) ∧
    ∀ x ∈ (rest a).head?, part.takes x.1 = false
  | .error fault => fault.Stops state s

/-- What a reader of formulas leaves over. -/
def leftOver {α : Type} {good : List Placed → Prop} (a : α × Subtype good) : List Placed :=
  a.2.1

@[simp] theorem unplaced_append (s t : List Placed) :
    unplaced (s ++ t) = unplaced s ++ unplaced t :=
  List.map_append

section

variable {α β : Type} {rest : α → List Placed} {rest' : β → List Placed} {part part' : Part}
  {state middle reached : State} {before s t : List Placed} {token : Token} {position : Nat}
  {fault : Error}

/-- A fault is where it is if there are tokens in front that fit. -/
theorem Error.Stops.append (h : fault.Stops middle s)
    (hbefore : state.follow (unplaced before) = some middle) : fault.Stops state (before ++ s) := by
  have hfollow (t : List Placed) :
      state.follow (unplaced (before ++ t)) = middle.follow (unplaced t) := by
    rw [unplaced_append, follow_append, hbefore]
    rfl
  cases fault with
  | unexpectedToken token position =>
    obtain ⟨front, after, reached, rfl, hfront, hnext⟩ := h
    refine ⟨before ++ front, after, reached, (List.append_assoc ..).symm, ?_, hnext⟩
    rw [hfollow, hfront]
  | unexpectedEnd =>
    obtain ⟨reached, hs, hne⟩ := h
    exact ⟨reached, (hfollow s).trans hs, hne⟩
  | unknownFunction | tooDeep => trivial
  | empty | unexpectedChar | invalidNumber => exact h.elim

namespace Goes

/-- Reading may begin before tokens that fit. -/
theorem after {x : Except Error α} (hbefore : state.follow (unplaced before) = some middle)
    (hx : Goes rest part middle reached s x) : Goes rest part state reached (before ++ s) x := by
  cases x with
  | error fault => exact Error.Stops.append hx hbefore
  | ok a =>
    obtain ⟨⟨between, hbetween, hreached⟩, hend⟩ := hx
    refine ⟨⟨before ++ between, ?_, ?_⟩, hend⟩
    · rw [hbetween, List.append_assoc]
    · rw [unplaced_append, follow_append, hbefore]
      exact hreached

/-- What is read after some tokens goes on in the state that they lead to. -/
theorem bind {x : Except Error α} {f : α → Except Error β} (hx : Goes rest part state middle s x)
    (hf : ∀ a, (∀ x ∈ (rest a).head?, part.takes x.1 = false) →
      Goes rest' part' middle reached (rest a) (f a)) :
    Goes rest' part' state reached s (x >>= f) := by
  cases x with
  | error fault => exact hx
  | ok a =>
    obtain ⟨⟨before, hs, hbefore⟩, hrest⟩ := hx
    rw [hs]
    exact (hf a hrest).after hbefore

/-- Nothing more is read. -/
theorem done {a : α} (ha : rest a = s) (h : ∀ x ∈ s.head?, part.takes x.1 = false) :
    Goes rest part state state s (.ok a) := by
  subst ha
  exact ⟨⟨[], rfl, rfl⟩, h⟩

/-- A token that fits is passed over. -/
theorem pass {x : Except Error α} (hs : s = (token, position) :: t)
    (hnext : state.next? token = some middle) (hx : Goes rest part middle reached t x) :
    Goes rest part state reached s x := by
  have htoken : state.follow (unplaced [(token, position)]) = some middle := by
    show (state.next? token).bind _ = _
    rw [hnext]
    rfl
  rw [hs]
  exact hx.after htoken

/-- Reading fails at a token that does not fit. -/
theorem stop (hs : s = (token, position) :: t) (hnext : state.next? token = none) :
    Goes rest part state reached s (.error (.unexpectedToken token position)) :=
  ⟨[], t, state, hs, rfl, hnext⟩

/-- Reading fails at the end. -/
theorem ends (hne : state ≠ ⟨.operator, 0⟩) :
    Goes rest part state reached [] (.error .unexpectedEnd) :=
  ⟨state, rfl, hne⟩

/-- A parenthesis that is the one thing to come next is passed over. -/
theorem expect {wanted : Token → Bool} (hne : state ≠ ⟨.operator, 0⟩)
    (hwanted : ∀ token, wanted token = true → state.next? token = some reached)
    (hother : ∀ x ∈ s.head?, wanted x.1 = false → state.next? x.1 = none) :
    Goes Subtype.val .primary state reached s (expect wanted s) := by
  cases s with
  | nil => exact ends hne
  | cons placed s =>
    obtain ⟨token, position⟩ := placed
    unfold Calculator.expect
    dsimp only
    split
    · next htoken => exact pass rfl (hwanted token htoken) (done rfl fun _ _ => rfl)
    · next htoken => exact stop rfl (hother _ rfl (Bool.eq_false_iff.2 htoken))

/-- Behind a name a parenthesis has to open. -/
theorem expect_opening {n : Nat} :
    Goes Subtype.val .primary ⟨.opening, n⟩ ⟨.operand, n + 1⟩ s
      (Calculator.expect Token.isOpening s) := by
  refine expect (by rintro ⟨⟩) (fun token htoken => ?_) fun x _ hopening => ?_
  · rw [Token.eq_opening htoken]
    rfl
  · obtain ⟨token, position⟩ := x
    cases token with
    | opening => cases hopening
    | _ => rfl

/-- Behind a sum in parentheses a parenthesis has to close. -/
theorem expect_closing {n : Nat} (hend : ∀ x ∈ s.head?, Part.takes .sum x.1 = false) :
    Goes Subtype.val .primary ⟨.operator, n + 1⟩ ⟨.operator, n⟩ s
      (Calculator.expect Token.isClosing s) := by
  refine expect (by rintro ⟨⟩) (fun token htoken => ?_) fun x hx hclosing => ?_
  · rw [Token.eq_closing htoken]
    rfl
  · have htakes := hend x hx
    obtain ⟨token, position⟩ := x
    cases token with
    | closing => cases hclosing
    | plus | minus | star | slash | caret => cases htakes
    | number | name | opening => rfl

end Goes

end

/-! ### Parts of a formula -/

/-- Signed parts with fewer than `n` tokens from their beginning on are read as operands. -/
def SignedGoes (n : Nat) : Prop :=
  ∀ {depth : Nat} {s : List Placed} (opened : Nat), s.length < n →
    Goes leftOver .signed ⟨.operand, opened⟩ ⟨.operator, opened⟩ s (readSigned depth s)

section

variable {n depth : Nat} {s : List Placed} (ih : SignedGoes n) (opened : Nat)

include ih

/-- The rest of a product goes on with factors up to what a product does not take. -/
theorem goes_readProductRest (left : Formula) (hn : s.length ≤ n)
    (hend : ∀ x ∈ s.head?, Part.takes .signed x.1 = false) :
    Goes leftOver .product ⟨.operator, opened⟩ ⟨.operator, opened⟩ s
      (readProductRest depth left s) := by
  -- on the tokens that are left, while `n` stays
  obtain ⟨m, hm⟩ : ∃ m, s.length < m := ⟨_, Nat.lt_succ_self _⟩
  induction m generalizing s left with
  | zero => exact absurd hm (Nat.not_lt_zero _)
  | succ m hrec =>
    cases s with
    | nil =>
      unfold readProductRest
      exact .done rfl (by simp)
    | cons placed s =>
      obtain ⟨token, position⟩ := placed
      rw [List.length_cons] at hn hm
      unfold readProductRest
      dsimp only
      split
      · next hoperator =>
        refine .done rfl fun x hx => ?_
        cases hx
        exact Part.takes_product_eq_false hoperator (hend _ rfl)
      · next operator hoperator =>
        have htakes := Part.takes_sum_of_productOperator? (Option.isSome_of_eq_some hoperator)
        refine .pass rfl (next?_operator htakes) ((ih opened (by omega)).bind ?_)
        rintro ⟨right, t⟩ ht
        have htn : t.1.length ≤ n := by omega
        have htm : t.1.length < m := by omega
        refine (hrec _ htn ht htm).bind ?_
        rintro ⟨product, u⟩ hu
        exact .done rfl hu

/-- A product goes from where an operand is expected to where an operator is. -/
theorem goes_readProduct (hn : s.length < n) :
    Goes leftOver .product ⟨.operand, opened⟩ ⟨.operator, opened⟩ s (readProduct depth s) := by
  unfold readProduct
  refine (ih opened hn).bind ?_
  rintro ⟨first, t⟩ ht
  have htn : t.1.length ≤ n := by omega
  refine (goes_readProductRest ih opened first htn ht).bind ?_
  rintro ⟨product, u⟩ hu
  exact .done rfl hu

/-- The rest of a sum goes on with terms up to what a sum does not take. -/
theorem goes_readSumRest (left : Formula) (hn : s.length ≤ n)
    (hend : ∀ x ∈ s.head?, Part.takes .product x.1 = false) :
    Goes leftOver .sum ⟨.operator, opened⟩ ⟨.operator, opened⟩ s (readSumRest depth left s) := by
  -- on the tokens that are left, while `n` stays
  obtain ⟨m, hm⟩ : ∃ m, s.length < m := ⟨_, Nat.lt_succ_self _⟩
  induction m generalizing s left with
  | zero => exact absurd hm (Nat.not_lt_zero _)
  | succ m hrec =>
    cases s with
    | nil =>
      unfold readSumRest
      exact .done rfl (by simp)
    | cons placed s =>
      obtain ⟨token, position⟩ := placed
      rw [List.length_cons] at hn hm
      unfold readSumRest
      dsimp only
      split
      · next hoperator =>
        refine .done rfl fun x hx => ?_
        cases hx
        exact Part.takes_sum_eq_false hoperator (hend _ rfl)
      · next operator hoperator =>
        have htakes := Part.takes_sum_of_sumOperator? (Option.isSome_of_eq_some hoperator)
        refine .pass rfl (next?_operator htakes)
          ((goes_readProduct ih opened (by omega)).bind ?_)
        rintro ⟨right, t⟩ ht
        have htn : t.1.length ≤ n := by omega
        have htm : t.1.length < m := by omega
        refine (hrec _ htn ht htm).bind ?_
        rintro ⟨sum, u⟩ hu
        exact .done rfl hu

/-- A sum goes from where an operand is expected to where an operator is. -/
theorem goes_readSum (hn : s.length < n) :
    Goes leftOver .sum ⟨.operand, opened⟩ ⟨.operator, opened⟩ s (readSum depth s) := by
  unfold readSum
  refine (goes_readProduct ih opened hn).bind ?_
  rintro ⟨first, t⟩ ht
  have htn : t.1.length ≤ n := by omega
  refine (goes_readSumRest ih opened first htn ht).bind ?_
  rintro ⟨sum, u⟩ hu
  exact .done rfl hu

/-- Signs are not passed over here. -/
theorem goes_readPrimary (hn : s.length ≤ n) (hstart : ∀ x ∈ s.head?, x.1.sumOperator? = none) :
    Goes leftOver .primary ⟨.operand, opened⟩ ⟨.operator, opened⟩ s (readPrimary depth s) := by
  unfold readPrimary
  split
  · exact .ends (by rintro ⟨⟩)
  · exact .pass rfl rfl (.done rfl fun _ _ => rfl)
  · next position s =>
    refine .pass rfl rfl ((goes_readSum ih (opened + 1) hn).bind ?_)
    rintro ⟨sum, t⟩ ht
    refine (Goes.expect_closing ht).bind fun u _ => ?_
    exact .done rfl fun _ _ => rfl
  · next name position s =>
    rw [List.length_cons] at hn
    refine .pass rfl rfl (Goes.expect_opening.bind fun t _ => ?_)
    have htn : t.1.length < n := by omega
    refine (goes_readSum ih (opened + 1) htn).bind ?_
    rintro ⟨argument, u⟩ hu
    refine (Goes.expect_closing hu).bind fun v _ => ?_
    split
    · trivial
    · exact .done rfl fun _ _ => rfl
  · next token position s hnumber hopening hname =>
    -- what is left are the tokens that no operand starts with
    have htoken := hstart _ rfl
    refine .stop rfl ?_
    cases token with
    | number value => exact absurd rfl (hnumber value)
    | name name => exact absurd rfl (hname name)
    | opening => exact absurd rfl hopening
    | plus | minus => cases htoken
    | star | slash | caret | closing => rfl

/-- A power goes on with what a signed part goes on with. -/
theorem goes_readPower (hn : s.length ≤ n) (hstart : ∀ x ∈ s.head?, x.1.sumOperator? = none) :
    Goes leftOver .signed ⟨.operand, opened⟩ ⟨.operator, opened⟩ s (readPower depth s) := by
  unfold readPower
  refine (goes_readPrimary ih opened hn hstart).bind ?_
  rintro ⟨base, t⟩ _
  dsimp only
  split
  · next position u hcaret =>
    have htn : u.length < n := by
      have ht := t.2
      rw [hcaret, List.length_cons] at ht
      omega
    -- what is read behind the caret carries proofs about `t`, so `t` is not rewritten
    refine .pass hcaret (next?_operator rfl) ((ih opened htn).bind ?_)
    rintro ⟨exponent, v⟩ hv
    exact .done rfl hv
  · next hcaret =>
    refine .done rfl fun x hx => ?_
    obtain ⟨token, position⟩ := x
    obtain ⟨back, hback⟩ := List.head?_eq_some_iff.1 hx
    cases token with
    | caret => exact absurd hback (hcaret position back)
    | _ => rfl

/-- A signed part goes from operand to operator, however deep it lies. -/
theorem goes_readSigned (hn : s.length ≤ n) :
    Goes leftOver .signed ⟨.operand, opened⟩ ⟨.operator, opened⟩ s (readSigned depth s) := by
  unfold readSigned
  split
  · trivial
  split
  · next position s =>
    refine .pass rfl rfl ((ih opened hn).bind ?_)
    rintro ⟨body, t⟩ ht
    exact .done rfl ht
  · next position s =>
    refine .pass rfl rfl ((ih opened hn).bind ?_)
    rintro ⟨body, t⟩ ht
    exact .done rfl ht
  · next hplus hminus =>
    refine goes_readPower ih opened hn fun x hx => ?_
    obtain ⟨token, position⟩ := x
    obtain ⟨back, hback⟩ := List.head?_eq_some_iff.1 hx
    cases token with
    | plus => exact absurd hback (hplus position back)
    | minus => exact absurd hback (hminus position back)
    | _ => rfl

end

theorem signedGoes (n : Nat) : SignedGoes n := by
  induction n with
  | zero => exact fun _ hn => absurd hn (Nat.not_lt_zero _)
  | succ n ih => exact fun opened hn => goes_readSigned ih opened (Nat.le_of_lt_succ hn)

/-- A formula is read up to a token that does not fit, if there is one. -/
theorem stops_of_parse {s : List Placed} {fault : Error} (hne : s ≠ [])
    (h : Formula.parse s = .error fault) : fault.Stops start s := by
  have hsum : Goes leftOver .sum start ⟨.operator, 0⟩ s (readSum 0 s) :=
    goes_readSum (signedGoes (s.length + 1)) 0 (Nat.lt_succ_self _)
  have hparse : Goes (fun _ => []) .primary start ⟨.operator, 0⟩ s (Formula.parse s) := by
    unfold Formula.parse
    rw [if_neg (by simpa using hne)]
    refine hsum.bind ?_
    rintro ⟨f, t⟩ ht
    dsimp only
    split
    · next hrest => exact .done hrest.symm fun _ _ => rfl
    · next token position back hrest =>
      -- with nothing open there is nothing to close
      have hhead : (token, position) ∈ (leftOver (f, t)).head? := by rw [leftOver, hrest]; rfl
      have htoken : Part.takes .sum token = false := ht _ hhead
      refine .stop hrest ?_
      cases token with
      | plus | minus | star | slash | caret => cases htoken
      | number | name | opening | closing => rfl
  rw [h] at hparse
  exact hparse

end CommandTemplate.Calculator
