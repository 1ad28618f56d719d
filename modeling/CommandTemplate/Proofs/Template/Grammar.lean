import CommandTemplate.Proofs.Text.Scanning
import CommandTemplate.Template.Parser

/-!
The grammar of templates as relations.

`ReadsItems d e s t u` says that the template `t` stands between the scanners `s` and `u`, where
`d` specials lie around it and `e` is its ending.  There is one rule for each way in which a part
of a template can be written.  The rules do not mention the readers of templates; only the parts
without templates in them (texts, identifiers and paths) are taken over as they are read.
-/

namespace CommandTemplate

namespace Template

open Text (Scanner)
open Text.Scanner (After Past)

/-! ### Rules -/

/-- A text up to a special or the ending, and the scanner after it. -/
def textRun (e : Ending) (s : Scanner) : List Char × Scanner :=
  ((readText e s.rest s.position).1, (readText e s.rest s.position).2.1)

/-- The second dollar sign of a required special. -/
inductive ReadsSign : Scanner → Bool → Scanner → Prop
  | required {rest : List Char} {p : Nat} : ReadsSign ⟨'$' :: rest, p⟩ true ⟨rest, p + 1⟩
  | optional {s : Scanner} (h : s.peek? ≠ some '$') : ReadsSign s false s

/-- An identifier after its sign, whose letters are already known. -/
inductive ReadsIdentifier (start : Nat) : List Char → Scanner → Item → Scanner → Prop
  | parenthesised {rest rest' : List Char} {p q : Nat} {text : List Char} {item : Item} :
    Scanner.run isIdentifierChar ⟨rest, p + 1⟩ = (text, ⟨')' :: rest', q⟩) →
    identifierItem text (p + 1) = .ok item →
    ReadsIdentifier start [] ⟨'(' :: rest, p⟩ item ⟨rest', q + 1⟩
  | bare {s u : Scanner} {name text : List Char} {item : Item} :
    s.peek? ≠ some '(' → s.run isIdentifierChar = (text, u) →
    identifierItem (name ++ text) start = .ok item → ReadsIdentifier start name s item u

mutual

/-- A template up to its ending. -/
inductive ReadsItems : Nat → Ending → Scanner → Template → Scanner → Prop
  | text {d : Nat} {e : Ending} {s t : Scanner} {text : List Char} :
    textRun e s = (text, t) → t.peek? ≠ some '$' → ReadsItems d e s (textItems text) t
  | special {d : Nat} {e : Ending} {s u v : Scanner} {text rest : List Char} {p : Nat}
    {item : Item} {items : Template} :
    textRun e s = (text, ⟨'$' :: rest, p⟩) → ReadsSpecial d ⟨rest, p + 1⟩ item u →
    ReadsItems d e u items v → ReadsItems d e s (textItems text ++ item :: items) v

/-- What follows a dollar sign. -/
inductive ReadsSpecial : Nat → Scanner → Item → Scanner → Prop
  | call {d : Nat} {s t u v : Scanner} {required : Bool} {name : List Char} {builtin : Builtin}
    {arguments : List Template} :
    d < maxNesting → ReadsSign s required t → t.run Char.isAlpha = (name, u) → name ≠ [] →
    ReadsCall (d + 1) name u builtin arguments v →
    ReadsSpecial d s (.call builtin arguments required) v
  | replacement {d : Nat} {s t u v : Scanner} {required : Bool} {name : List Char} {item : Item} :
    d < maxNesting → ReadsSign s required t → t.run Char.isAlpha = (name, u) →
    ReadsIdentifier t.position name u item v →
    ReadsSpecial d s (.replacement item required) v

/-- The arguments of a call with a name, in their parentheses. -/
inductive ReadsCall : Nat → List Char → Scanner → Builtin → List Template → Scanner → Prop
  | lookup {d p : Nat} {name rest : List Char} {s u : Scanner} {path : Json.Path} {t : After s}
    {arguments : List Template} :
    String.ofList (name.map Char.toLower) = "j" → s = ⟨rest, p + 1⟩ →
    Json.Path.read [',', ')'] s = .ok (path, t) → ReadsDefault d t.1 arguments u →
    ReadsCall d name ⟨'(' :: rest, p⟩ (.lookup path) arguments u
  | plain {d p : Nat} {name rest : List Char} {u : Scanner} {builtin : Builtin}
    {arguments : List Template} :
    String.ofList (name.map Char.toLower) ≠ "j" →
    Builtin.ofName? (String.ofList (name.map Char.toLower)) = some builtin →
    ReadsShape d builtin.shape ⟨rest, p + 1⟩ arguments u →
    ReadsCall d name ⟨'(' :: rest, p⟩ builtin arguments u

/-- The default of a look-up, if there is one, and the closing parenthesis. -/
inductive ReadsDefault : Nat → Scanner → List Template → Scanner → Prop
  | nothing {d p : Nat} {rest : List Char} : ReadsDefault d ⟨')' :: rest, p⟩ [] ⟨rest, p + 1⟩
  | given {d p q : Nat} {rest rest' : List Char} {default : Template} :
    ReadsItems d .parenthesis ⟨rest, p + 1⟩ default ⟨')' :: rest', q⟩ →
    ReadsDefault d ⟨',' :: rest, p⟩ [default] ⟨rest', q + 1⟩

/-- Arguments of a shape and the closing parenthesis. -/
inductive ReadsShape : Nat → Shape → Scanner → List Template → Scanner → Prop
  | nothing {d p : Nat} {endings : List Ending} {rest : List Char} :
    ReadsShape d (.listed endings 0) ⟨')' :: rest, p⟩ [] ⟨rest, p + 1⟩
  | listed {d least : Nat} {endings : List Ending} {s u : Scanner} {arguments : List Template} :
    (least = 0 → s.peek? ≠ some ')') → ReadsListed d endings least s arguments u →
    ReadsShape d (.listed endings least) s arguments u
  | identifierFirst {d least p : Nat} {others : List Ending} {s u : Scanner} {rest : List Char}
    {first : Template} {arguments : List Template} :
    ReadsFirst d s first ⟨',' :: rest, p⟩ → ReadsListed d others least ⟨rest, p + 1⟩ arguments u →
    ReadsShape d (.identifierFirst others least) s (first :: arguments) u
  | variadic {d : Nat} {s u : Scanner} {arguments : List Template} :
    ReadsMany d s arguments u → ReadsShape d .variadic s arguments u
  | cases {d p : Nat} {s u : Scanner} {rest : List Char} {value : Template}
    {cases : List Template} :
    ReadsFirst d s value ⟨',' :: rest, p⟩ → ReadsCases d [] ⟨rest, p + 1⟩ cases u →
    ReadsShape d .cases s (value :: cases) u

/-- An argument that may be a bare identifier. -/
inductive ReadsFirst : Nat → Scanner → Template → Scanner → Prop
  | template {d : Nat} {s u : Scanner} {items : Template} :
    s.peek? = some '$' → ReadsItems d .commaOrParenthesis s items u → ReadsFirst d s items u
  | identifier {d : Nat} {s u : Scanner} {text : List Char} {item : Item} :
    s.peek? ≠ some '$' → s.run isIdentifierChar = (text, u) →
    identifierItem text s.position = .ok item → ReadsFirst d s [.replacement item false] u

/-- One argument for each of some endings, or fewer. -/
inductive ReadsListed : Nat → List Ending → Nat → Scanner → List Template → Scanner → Prop
  | last {d least p : Nat} {e : Ending} {endings : List Ending} {s : Scanner} {rest : List Char}
    {argument : Template} :
    ReadsItems d e s argument ⟨')' :: rest, p⟩ → least ≤ 1 →
    ReadsListed d (e :: endings) least s [argument] ⟨rest, p + 1⟩
  | more {d least p : Nat} {e : Ending} {endings : List Ending} {s u : Scanner}
    {rest : List Char} {argument : Template} {arguments : List Template} :
    ReadsItems d e s argument ⟨',' :: rest, p⟩ → endings ≠ [] →
    ReadsListed d endings (least - 1) ⟨rest, p + 1⟩ arguments u →
    ReadsListed d (e :: endings) least s (argument :: arguments) u

/-- Any number of arguments. -/
inductive ReadsMany : Nat → Scanner → List Template → Scanner → Prop
  | last {d p : Nat} {s : Scanner} {rest : List Char} {argument : Template} :
    ReadsItems d .commaOrParenthesis s argument ⟨')' :: rest, p⟩ →
    ReadsMany d s [argument] ⟨rest, p + 1⟩
  | more {d p : Nat} {s u : Scanner} {rest : List Char} {argument : Template}
    {arguments : List Template} :
    ReadsItems d .commaOrParenthesis s argument ⟨',' :: rest, p⟩ →
    ReadsMany d ⟨rest, p + 1⟩ arguments u → ReadsMany d s (argument :: arguments) u

/-- The cases of a switch and its default, after the cases with the keys `seen`. -/
inductive ReadsCases : Nat → List Template → Scanner → List Template → Scanner → Prop
  | default {d p : Nat} {seen : List Template} {s : Scanner} {rest : List Char}
    {default : Template} :
    ReadsItems d .caseKey s default ⟨')' :: rest, p⟩ → seen ≠ [] →
    ReadsCases d seen s [default] ⟨rest, p + 1⟩
  | last {d p q : Nat} {seen : List Template} {s : Scanner} {c : Char} {rest rest' : List Char}
    {key output : Template} :
    ReadsItems d .caseKey s key ⟨c :: rest, p⟩ → c = ':' ∨ c = ',' →
    ReadsItems d .commaOrParenthesis ⟨rest, p + 1⟩ output ⟨')' :: rest', q⟩ → key ∉ seen →
    ReadsCases d seen s [key, output] ⟨rest', q + 1⟩
  | more {d p q : Nat} {seen : List Template} {s u : Scanner} {c : Char}
    {rest rest' : List Char} {key output : Template} {cases : List Template} :
    ReadsItems d .caseKey s key ⟨c :: rest, p⟩ → c = ':' ∨ c = ',' →
    ReadsItems d .commaOrParenthesis ⟨rest, p + 1⟩ output ⟨',' :: rest', q⟩ → key ∉ seen →
    ReadsCases d (key :: seen) ⟨rest', q + 1⟩ cases u →
    ReadsCases d seen s (key :: output :: cases) u

end

end Template

end CommandTemplate
