import CommandTemplate.Proofs.Outcome
import CommandTemplate.Proofs.Template.Grammar

/-!
What is a template by the rules is read as one.

For each rule there is a lemma about one step of its reader, which takes what the readers of the
parts give (`Gives`); `readItems_of_reads` and its companions put them together along a derivation.
-/

namespace CommandTemplate.Template

open Text (Scanner)
open Text.Scanner (After Past)

/-! ### Parts without templates -/

theorem expect_cons (c : Char) (rest : List Char) (p : Nat) :
    ∃ t, expect c ⟨c :: rest, p⟩ = .ok t ∧ t.1 = ⟨rest, p + 1⟩ := by
  obtain ⟨h, ha⟩ := Scanner.accept_cons c rest p
  exact ⟨_, by rw [expect, ha], rfl⟩

/-- A sign is read as the rules have it. -/
theorem readSign_of_reads {s t : Scanner} {required : Bool} (h : ReadsSign s required t) :
    ∃ u, readSign s = (required, u) ∧ u.1 = t := by
  cases h with
  | @required rest p =>
    obtain ⟨_, ha⟩ := Scanner.accept_cons '$' rest p
    exact ⟨_, by rw [readSign, ha], rfl⟩
  | optional h => exact ⟨_, by rw [readSign, Scanner.accept_eq_none h], rfl⟩

theorem readWhile_of_run {p : Char → Bool} {s t : Scanner} {text : List Char}
    (h : s.run p = (text, t)) : ∃ u, s.readWhile p = (text, u) ∧ u.1 = t := by
  obtain ⟨rfl, rfl⟩ := Prod.mk.inj h
  exact ⟨_, rfl, rfl⟩

theorem readText_of_textRun {e : Ending} {s t : Scanner} {text : List Char}
    (h : textRun e s = (text, t)) : ∃ u, readText e s.rest s.position = (text, u) ∧ u.1 = t := by
  obtain ⟨rfl, rfl⟩ := Prod.mk.inj h
  exact ⟨_, rfl, rfl⟩

/-- An identifier by the rules is read, with its parentheses or without. -/
theorem readIdentifier_of_reads {name : List Char} {start : Nat} {s u : Scanner} {item : Item}
    (h : ReadsIdentifier start name s item u) : Gives (readIdentifier name start s) item u := by
  unfold readIdentifier
  cases h with
  | @parenthesised rest rest' p q text _ hrun hitem =>
    obtain ⟨_, ha⟩ := Scanner.accept_cons '(' rest p
    obtain ⟨⟨_, _⟩, hr, rfl⟩ := readWhile_of_run hrun
    obtain ⟨⟨_, _⟩, he, rfl⟩ := expect_cons ')' rest' q
    -- there is no name in front, so the parenthesis opens the identifier
    rw [if_pos rfl, ha]
    dsimp only
    rw [hr]
    exact gives_bind hitem (gives_bind he ⟨_, rfl, rfl⟩)
  | bare hp hrun hitem =>
    obtain ⟨⟨_, _⟩, hr, rfl⟩ := readWhile_of_run hrun
    rw [Scanner.accept_eq_none hp, ite_self]
    dsimp only
    rw [hr]
    exact gives_bind hitem ⟨_, rfl, rfl⟩

/-- Where an identifier stands there is no call: an opening parenthesis belongs to it only if there
is no name in front. -/
theorem not_call_of_reads {name : List Char} {start : Nat} {s u : Scanner} {item : Item}
    (h : ReadsIdentifier start name s item u) : ¬ (name ≠ [] ∧ s.peek? = some '(') := by
  rintro ⟨hname, hp⟩
  cases h with
  | parenthesised => exact hname rfl
  | bare h => exact h hp

/-! ### One step of a reader -/

section

variable {d p q : Nat} {e : Ending} {s t u v : Scanner} {required : Bool}
  {text name rest rest' : List Char} {item : Item} {items argument : Template}
  {arguments : List Template} {builtin : Builtin}

/-- Text up to the end is a template. -/
theorem readItems_text (hrun : textRun e s = (text, t)) (hend : t.peek? ≠ some '$') :
    Gives (readItems d e s) (textItems text) t := by
  obtain ⟨⟨_, _⟩, hr, rfl⟩ := readText_of_textRun hrun
  unfold readItems
  rw [hr]
  dsimp only
  split
  · exact absurd rfl hend
  · exact ⟨_, rfl, rfl⟩

/-- A special between a text and more items is a template with these. -/
theorem readItems_special (hrun : textRun e s = (text, ⟨'$' :: rest, p⟩))
    (hspecial : Gives (readSpecial d ⟨rest, p + 1⟩) item u)
    (hitems : Gives (readItems d e u) items v) :
    Gives (readItems d e s) (textItems text ++ item :: items) v := by
  obtain ⟨⟨_, _⟩, hr, rfl⟩ := readText_of_textRun hrun
  obtain ⟨⟨_, _⟩, hi, rfl⟩ := hspecial
  obtain ⟨⟨_, _⟩, ht, rfl⟩ := hitems
  unfold readItems
  rw [hr]
  exact gives_bind hi (gives_bind ht ⟨_, rfl, rfl⟩)

/-- What is wrong with a special is wrong with the items that it is the first special of. -/
theorem readItems_error {f : ParseError} (hrun : textRun e s = (text, ⟨'$' :: rest, p⟩))
    (hspecial : readSpecial d ⟨rest, p + 1⟩ = .error f) : readItems d e s = .error f := by
  obtain ⟨⟨_, _⟩, hr, rfl⟩ := readText_of_textRun hrun
  unfold readItems
  rw [hr]
  show (readSpecial d ⟨rest, p + 1⟩ >>= _) = _
  rw [hspecial]
  rfl

/-- A name in front of a parenthesis makes a special a call, if it does not lie too deep. -/
theorem readSpecial_call (hd : d < maxNesting) (hsign : ReadsSign s required t)
    (hrun : t.run Char.isAlpha = (name, u)) (hname : name ≠ []) (hp : u.peek? = some '(')
    (hcall : Gives (readCall (d + 1) name t.position required u) item v) :
    Gives (readSpecial d s) item v := by
  obtain ⟨⟨_, _⟩, hs, rfl⟩ := readSign_of_reads hsign
  obtain ⟨⟨_, _⟩, hr, rfl⟩ := readWhile_of_run hrun
  obtain ⟨⟨_, _⟩, hc, rfl⟩ := hcall
  unfold readSpecial
  rw [if_neg (Nat.not_le_of_lt hd), hs]
  dsimp only
  rw [hr]
  dsimp only
  rw [if_pos ⟨hname, hp⟩]
  exact gives_bind hc ⟨_, rfl, rfl⟩

/-- Any other special puts an identifier in. -/
theorem readSpecial_replacement (hd : d < maxNesting) (hsign : ReadsSign s required t)
    (hrun : t.run Char.isAlpha = (name, u))
    (hidentifier : ReadsIdentifier t.position name u item v) :
    Gives (readSpecial d s) (.replacement item required) v := by
  -- the reader looks for a call first
  have hcall := not_call_of_reads hidentifier
  obtain ⟨⟨_, _⟩, hs, rfl⟩ := readSign_of_reads hsign
  obtain ⟨⟨_, _⟩, hr, rfl⟩ := readWhile_of_run hrun
  obtain ⟨⟨_, _⟩, hi, rfl⟩ := readIdentifier_of_reads hidentifier
  unfold readSpecial
  rw [if_neg (Nat.not_le_of_lt hd), hs]
  dsimp only
  rw [hr]
  dsimp only
  rw [if_neg hcall]
  exact gives_bind hi ⟨_, rfl, rfl⟩

theorem readDefault_nothing : Gives (readDefault d ⟨')' :: rest, p⟩) [] ⟨rest, p + 1⟩ := by
  obtain ⟨⟨_, _⟩, he, rfl⟩ := expect_cons ')' rest p
  unfold readDefault
  rw [Scanner.accept_eq_none (by simp)]
  exact gives_bind he ⟨_, rfl, rfl⟩

theorem readDefault_given
    (hitems : Gives (readItems d .parenthesis ⟨rest, p + 1⟩) items ⟨')' :: rest', q⟩) :
    Gives (readDefault d ⟨',' :: rest, p⟩) [items] ⟨rest', q + 1⟩ := by
  obtain ⟨_, ha⟩ := Scanner.accept_cons ',' rest p
  obtain ⟨⟨_, _⟩, hi, rfl⟩ := hitems
  obtain ⟨⟨_, _⟩, he, rfl⟩ := expect_cons ')' rest' q
  unfold readDefault
  rw [ha]
  exact gives_bind hi (gives_bind he ⟨_, rfl, rfl⟩)

/-- The one name that has a path behind its parenthesis is that of a look-up. -/
theorem readCall_lookup {start : Nat} {path : Json.Path} {t : After s}
    (hj : String.ofList (name.map Char.toLower) = "j") (hs : s = ⟨rest, p + 1⟩)
    (hpath : Json.Path.read [',', ')'] s = .ok (path, t))
    (hdefault : Gives (readDefault d t.1) arguments u) :
    Gives (readCall d name start required ⟨'(' :: rest, p⟩)
      (.call (.lookup path) arguments required) u := by
  subst hs
  obtain ⟨⟨_, _⟩, ho, rfl⟩ := expect_cons '(' rest p
  obtain ⟨⟨_, _⟩, hd, rfl⟩ := hdefault
  unfold readCall
  dsimp only
  rw [if_pos hj]
  exact gives_bind ho (gives_bind hpath (gives_bind hd ⟨_, rfl, rfl⟩))

/-- All other names are those of functions, and the arguments have the shape of the function. -/
theorem readCall_plain {start : Nat} (hj : String.ofList (name.map Char.toLower) ≠ "j")
    (hbuiltin : Builtin.ofName? (String.ofList (name.map Char.toLower)) = some builtin)
    (harguments : Gives (readArguments d builtin.shape ⟨rest, p + 1⟩) arguments u) :
    Gives (readCall d name start required ⟨'(' :: rest, p⟩)
      (.call builtin arguments required) u := by
  obtain ⟨⟨_, _⟩, ho, rfl⟩ := expect_cons '(' rest p
  obtain ⟨⟨_, _⟩, ha, rfl⟩ := harguments
  unfold readCall
  dsimp only
  rw [if_neg hj, hbuiltin]
  exact gives_bind ho (gives_bind ha ⟨_, rfl, rfl⟩)

theorem readFirst_items (hp : s.peek? = some '$')
    (hitems : Gives (readItems d .commaOrParenthesis s) items u) :
    Gives (readFirst d s) items u := by
  obtain ⟨⟨_, _⟩, hi, rfl⟩ := hitems
  unfold readFirst
  rw [if_pos hp]
  exact ⟨_, hi, rfl⟩

/-- A first argument without a dollar sign in front is an identifier. -/
theorem readFirst_identifier (hp : s.peek? ≠ some '$') (hrun : s.run isIdentifierChar = (text, u))
    (hitem : identifierItem text s.position = .ok item) :
    Gives (readFirst d s) [.replacement item false] u := by
  obtain ⟨⟨_, _⟩, hr, rfl⟩ := readWhile_of_run hrun
  unfold readFirst
  rw [if_neg hp, hr]
  exact gives_bind hitem ⟨_, rfl, rfl⟩

/-- The last of the listed arguments is in front of a parenthesis, and there are enough of them. -/
theorem readListed_last {endings : List Ending} {least : Nat} (hleast : least ≤ 1)
    (hargument : Gives (readItems d e s) argument ⟨')' :: rest, p⟩) :
    Gives (readListed d (e :: endings) least s) [argument] ⟨rest, p + 1⟩ := by
  obtain ⟨⟨_, _⟩, ha, rfl⟩ := hargument
  obtain ⟨⟨_, _⟩, he, rfl⟩ := expect_cons ')' rest p
  unfold readListed
  refine gives_bind ha ?_
  dsimp only
  rw [Scanner.accept_eq_none (by simp), ite_self]
  dsimp only
  rw [if_neg (Nat.not_lt_of_le hleast)]
  exact gives_bind he ⟨_, rfl, rfl⟩

/-- Listed arguments in front of a comma go on unless their endings are used up. -/
theorem readListed_more {endings : List Ending} {least : Nat} (hendings : endings ≠ [])
    (hargument : Gives (readItems d e s) argument ⟨',' :: rest, p⟩)
    (harguments : Gives (readListed d endings (least - 1) ⟨rest, p + 1⟩) arguments u) :
    Gives (readListed d (e :: endings) least s) (argument :: arguments) u := by
  obtain ⟨⟨_, _⟩, ha, rfl⟩ := hargument
  obtain ⟨_, hc⟩ := Scanner.accept_cons ',' rest p
  obtain ⟨⟨_, _⟩, hr, rfl⟩ := harguments
  unfold readListed
  refine gives_bind ha ?_
  dsimp only
  rw [if_neg hendings, hc]
  exact gives_bind hr ⟨_, rfl, rfl⟩

theorem readMany_last
    (hargument : Gives (readItems d .commaOrParenthesis s) argument ⟨')' :: rest, p⟩) :
    Gives (readMany d s) [argument] ⟨rest, p + 1⟩ := by
  obtain ⟨⟨_, _⟩, ha, rfl⟩ := hargument
  obtain ⟨⟨_, _⟩, he, rfl⟩ := expect_cons ')' rest p
  unfold readMany
  refine gives_bind ha ?_
  dsimp only
  rw [Scanner.accept_eq_none (by simp)]
  exact gives_bind he ⟨_, rfl, rfl⟩

theorem readMany_more
    (hargument : Gives (readItems d .commaOrParenthesis s) argument ⟨',' :: rest, p⟩)
    (harguments : Gives (readMany d ⟨rest, p + 1⟩) arguments u) :
    Gives (readMany d s) (argument :: arguments) u := by
  obtain ⟨⟨_, _⟩, ha, rfl⟩ := hargument
  obtain ⟨_, hc⟩ := Scanner.accept_cons ',' rest p
  obtain ⟨⟨_, _⟩, hr, rfl⟩ := harguments
  unfold readMany
  refine gives_bind ha ?_
  dsimp only
  rw [hc]
  exact gives_bind hr ⟨_, rfl, rfl⟩

/-- Where one of two characters comes next, it is accepted. -/
theorem exists_accept_or {c d b : Char} (h : b = c ∨ b = d) (rest : List Char) (p : Nat) :
    ∃ t, (Scanner.accept c ⟨b :: rest, p⟩ <|> Scanner.accept d ⟨b :: rest, p⟩) = some t ∧
      t.1 = ⟨rest, p + 1⟩ := by
  obtain ⟨hb, ha⟩ := Scanner.accept_cons b rest p
  refine ⟨⟨_, hb⟩, ?_, rfl⟩
  rw [Option.orElse_eq_orElse, Option.orElse_eq_or]
  by_cases hc : b = c
  · rw [← hc, ha, Option.some_or]
  · obtain rfl := h.resolve_left hc
    rw [Scanner.accept_eq_none (by simpa using hc), Option.none_or, ha]

/-- A default stands behind at least one case. -/
theorem readCases_default {seen : List Template} (hseen : seen ≠ [])
    (hitems : Gives (readItems d .caseKey s) items ⟨')' :: rest, p⟩) :
    Gives (readCases d seen s) [items] ⟨rest, p + 1⟩ := by
  obtain ⟨⟨_, _⟩, hi, rfl⟩ := hitems
  obtain ⟨⟨_, _⟩, he, rfl⟩ := expect_cons ')' rest p
  unfold readCases
  refine gives_bind hi ?_
  dsimp only
  rw [Scanner.accept_eq_none (by simp), Scanner.accept_eq_none (by simp)]
  show Gives (if seen = [] then _ else _) _ _
  rw [if_neg hseen]
  exact gives_bind he ⟨_, rfl, rfl⟩

/-- The last case is one whose key was not there before. -/
theorem readCases_last {seen : List Template} {c : Char} {key output : Template}
    (hkey : Gives (readItems d .caseKey s) key ⟨c :: rest, p⟩) (hc : c = ':' ∨ c = ',')
    (houtput : Gives (readItems d .commaOrParenthesis ⟨rest, p + 1⟩) output ⟨')' :: rest', q⟩)
    (hseen : key ∉ seen) : Gives (readCases d seen s) [key, output] ⟨rest', q + 1⟩ := by
  obtain ⟨⟨_, _⟩, hk, rfl⟩ := hkey
  obtain ⟨⟨_, _⟩, ha, rfl⟩ := exists_accept_or hc rest p
  obtain ⟨⟨_, _⟩, ho, rfl⟩ := houtput
  obtain ⟨⟨_, _⟩, he, rfl⟩ := expect_cons ')' rest' q
  unfold readCases
  refine gives_bind hk ?_
  dsimp only
  rw [ha]
  refine gives_bind ho ?_
  dsimp only
  rw [if_neg hseen, Scanner.accept_eq_none (by simp)]
  exact gives_bind he ⟨_, rfl, rfl⟩

/-- A case in front of a comma is followed by more, whose keys must be others. -/
theorem readCases_more {seen cases : List Template} {c : Char} {key output : Template}
    (hkey : Gives (readItems d .caseKey s) key ⟨c :: rest, p⟩) (hc : c = ':' ∨ c = ',')
    (houtput : Gives (readItems d .commaOrParenthesis ⟨rest, p + 1⟩) output ⟨',' :: rest', q⟩)
    (hseen : key ∉ seen) (hcases : Gives (readCases d (key :: seen) ⟨rest', q + 1⟩) cases u) :
    Gives (readCases d seen s) (key :: output :: cases) u := by
  obtain ⟨⟨_, _⟩, hk, rfl⟩ := hkey
  obtain ⟨⟨_, _⟩, ha, rfl⟩ := exists_accept_or hc rest p
  obtain ⟨⟨_, _⟩, ho, rfl⟩ := houtput
  obtain ⟨_, hm⟩ := Scanner.accept_cons ',' rest' q
  obtain ⟨⟨_, _⟩, hr, rfl⟩ := hcases
  unfold readCases
  refine gives_bind hk ?_
  dsimp only
  rw [ha]
  refine gives_bind ho ?_
  dsimp only
  rw [if_neg hseen, hm]
  exact gives_bind hr ⟨_, rfl, rfl⟩

/-- Where no argument is asked for, the parentheses may be empty. -/
theorem readArguments_nothing {endings : List Ending} :
    Gives (readArguments d (.listed endings 0) ⟨')' :: rest, p⟩) [] ⟨rest, p + 1⟩ := by
  obtain ⟨_, ha⟩ := Scanner.accept_cons ')' rest p
  unfold readArguments
  rw [if_pos rfl, ha]
  exact ⟨_, rfl, rfl⟩

/-- Arguments are listed unless there is none and none is asked for. -/
theorem readArguments_listed {endings : List Ending} {least : Nat}
    (hleast : least = 0 → s.peek? ≠ some ')')
    (harguments : Gives (readListed d endings least s) arguments u) :
    Gives (readArguments d (.listed endings least) s) arguments u := by
  obtain ⟨⟨_, _⟩, ha, rfl⟩ := harguments
  unfold readArguments
  by_cases hl : least = 0
  · rw [if_pos hl, Scanner.accept_eq_none (hleast hl)]
    exact ⟨_, ha, rfl⟩
  · rw [if_neg hl]
    exact ⟨_, ha, rfl⟩

theorem readArguments_identifierFirst {others : List Ending} {least : Nat}
    (hfirst : Gives (readFirst d s) items ⟨',' :: rest, p⟩)
    (harguments : Gives (readListed d others least ⟨rest, p + 1⟩) arguments u) :
    Gives (readArguments d (.identifierFirst others least) s) (items :: arguments) u := by
  obtain ⟨⟨_, _⟩, hf, rfl⟩ := hfirst
  obtain ⟨⟨_, _⟩, he, rfl⟩ := expect_cons ',' rest p
  obtain ⟨⟨_, _⟩, ha, rfl⟩ := harguments
  unfold readArguments
  exact gives_bind hf (gives_bind he (gives_bind ha ⟨_, rfl, rfl⟩))

theorem readArguments_cases (hvalue : Gives (readFirst d s) items ⟨',' :: rest, p⟩)
    (hcases : Gives (readCases d [] ⟨rest, p + 1⟩) arguments u) :
    Gives (readArguments d .cases s) (items :: arguments) u := by
  obtain ⟨⟨_, _⟩, hv, rfl⟩ := hvalue
  obtain ⟨⟨_, _⟩, he, rfl⟩ := expect_cons ',' rest p
  obtain ⟨⟨_, _⟩, hc, rfl⟩ := hcases
  unfold readArguments
  dsimp only
  unfold readSwitch
  exact gives_bind hv (gives_bind he (gives_bind hc ⟨_, rfl, rfl⟩))

theorem readArguments_variadic (harguments : Gives (readMany d s) arguments u) :
    Gives (readArguments d .variadic s) arguments u := by
  unfold readArguments
  exact harguments

end

/-! ### All steps -/

/-- A call goes on with a parenthesis behind its name. -/
theorem peek?_of_readsCall {d : Nat} {name : List Char} {s u : Scanner} {builtin : Builtin}
    {arguments : List Template} (h : ReadsCall d name s builtin arguments u) :
    s.peek? = some '(' := by
  cases h <;> rfl

mutual

/-- What is a template by the rules is read as one. -/
theorem readItems_of_reads {d : Nat} {e : Ending} {s u : Scanner} {items : Template} :
    ReadsItems d e s items u → Gives (readItems d e s) items u
  | .text hrun hend => readItems_text hrun hend
  | .special hrun hspecial hitems =>
    readItems_special hrun (readSpecial_of_reads hspecial) (readItems_of_reads hitems)

/-- A special by the rules is read as one. -/
theorem readSpecial_of_reads {d : Nat} {s u : Scanner} {item : Item} :
    ReadsSpecial d s item u → Gives (readSpecial d s) item u
  | .call hd hsign hrun hname hcall =>
    readSpecial_call hd hsign hrun hname (peek?_of_readsCall hcall) (readCall_of_reads hcall)
  | .replacement hd hsign hrun hidentifier => readSpecial_replacement hd hsign hrun hidentifier

/-- A call by the rules is read as one; where it starts does not matter. -/
theorem readCall_of_reads {d start : Nat} {name : List Char} {required : Bool} {s u : Scanner}
    {builtin : Builtin} {arguments : List Template} :
    ReadsCall d name s builtin arguments u →
    Gives (readCall d name start required s) (.call builtin arguments required) u
  | .lookup hj hs hpath hdefault => readCall_lookup hj hs hpath (readDefault_of_reads hdefault)
  | .plain hj hbuiltin harguments =>
    readCall_plain hj hbuiltin (readArguments_of_reads harguments)

theorem readDefault_of_reads {d : Nat} {s u : Scanner} {arguments : List Template} :
    ReadsDefault d s arguments u → Gives (readDefault d s) arguments u
  | .nothing => readDefault_nothing
  | .given hdefault => readDefault_given (readItems_of_reads hdefault)

/-- Arguments by the rules of a shape are read as these. -/
theorem readArguments_of_reads {d : Nat} {shape : Shape} {s u : Scanner}
    {arguments : List Template} :
    ReadsShape d shape s arguments u → Gives (readArguments d shape s) arguments u
  | .nothing => readArguments_nothing
  | .listed hleast harguments => readArguments_listed hleast (readListed_of_reads harguments)
  | .identifierFirst hfirst harguments =>
    readArguments_identifierFirst (readFirst_of_reads hfirst) (readListed_of_reads harguments)
  | .variadic harguments => readArguments_variadic (readMany_of_reads harguments)
  | .cases hvalue hcases =>
    readArguments_cases (readFirst_of_reads hvalue) (readCases_of_reads hcases)

theorem readFirst_of_reads {d : Nat} {s u : Scanner} {items : Template} :
    ReadsFirst d s items u → Gives (readFirst d s) items u
  | .template hp hitems => readFirst_items hp (readItems_of_reads hitems)
  | .identifier hp hrun hitem => readFirst_identifier hp hrun hitem

/-- Listed arguments by the rules are read as these. -/
theorem readListed_of_reads {d least : Nat} {endings : List Ending} {s u : Scanner}
    {arguments : List Template} :
    ReadsListed d endings least s arguments u → Gives (readListed d endings least s) arguments u
  | .last hargument hleast => readListed_last hleast (readItems_of_reads hargument)
  | .more hargument hendings harguments =>
    readListed_more hendings (readItems_of_reads hargument) (readListed_of_reads harguments)

theorem readMany_of_reads {d : Nat} {s u : Scanner} {arguments : List Template} :
    ReadsMany d s arguments u → Gives (readMany d s) arguments u
  | .last hargument => readMany_last (readItems_of_reads hargument)
  | .more hargument harguments =>
    readMany_more (readItems_of_reads hargument) (readMany_of_reads harguments)

/-- Cases by the rules are read as these, whatever keys were seen before. -/
theorem readCases_of_reads {d : Nat} {seen cases : List Template} {s u : Scanner} :
    ReadsCases d seen s cases u → Gives (readCases d seen s) cases u
  | .default hdefault hseen => readCases_default hseen (readItems_of_reads hdefault)
  | .last hkey hc houtput hseen =>
    readCases_last (readItems_of_reads hkey) hc (readItems_of_reads houtput) hseen
  | .more hkey hc houtput hseen hcases =>
    readCases_more (readItems_of_reads hkey) hc (readItems_of_reads houtput) hseen
      (readCases_of_reads hcases)

end

/-- What is a template by the rules is parsed as one, with its specials escaped. -/
theorem parse_of_reads {text : String} {items : Template} {u : Scanner}
    (h : ReadsItems 0 .none (.ofString text) items u) :
    parse text = .ok (items.map Item.atTop) := by
  obtain ⟨v, hv, -⟩ := readItems_of_reads h
  rw [parse, hv]
  rfl

/-- What is wrong with the first special of a text is wrong with the text. -/
theorem parse_of_readSpecial {text : String} {front rest : List Char} {p : Nat} {e : ParseError}
    (hrun : textRun .none (.ofString text) = (front, ⟨'$' :: rest, p⟩))
    (h : readSpecial 0 ⟨rest, p + 1⟩ = .error e) : parse text = .error e := by
  rw [parse, readItems_error hrun h]
  rfl

end CommandTemplate.Template
