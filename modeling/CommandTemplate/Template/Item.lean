import CommandTemplate.Json.Path

/-!
Templates.

A `Template` is a list of items whose texts are put together.  An item is a piece of text, the
value of a parameter or of an argument, or the call of a built-in function, whose arguments
are templates again.  A call that is `required` yields no text at all when its value is empty,
and then neither does the whole template.

The arguments of every function are one list in the order in which they are written.  Those
of `switch` are the value, then the keys and outputs of the cases in turn, and at last the
default, if there is one.
-/

namespace CommandTemplate

/-- The built-in functions.  A look-up has its path with it. -/
inductive Builtin where
  | ifGiven
  | ifEqual
  | switch
  | join
  | lower
  | upper
  | trim
  | urlEncode
  | calc
  | isMatch
  | choose
  | randomNumber
  | dateTime
  | sort
  | replace
  | quote
  | round
  | setting
  | json
  | lookup (path : Json.Path)
  | request
  | input
  deriving DecidableEq

namespace Builtin

/-- The name by which a function is called. -/
def name : Builtin → String
  | .ifGiven => "if"
  | .ifEqual => "ifeq"
  | .switch => "switch"
  | .join => "join"
  | .lower => "lower"
  | .upper => "upper"
  | .trim => "trim"
  | .urlEncode => "urlencode"
  | .calc => "calc"
  | .isMatch => "is"
  | .choose => "rand"
  | .randomNumber => "randnum"
  | .dateTime => "datetime"
  | .sort => "sort"
  | .replace => "replace"
  | .quote => "quote"
  | .round => "round"
  | .setting => "get"
  | .json => "json"
  | .lookup _ => "j"
  | .request => "request"
  | .input => "input"

/-- The functions whose arguments are all templates. -/
def plain : List Builtin :=
  [.ifGiven, .ifEqual, .switch, .join, .lower, .upper, .trim, .urlEncode, .calc, .isMatch,
    .choose, .randomNumber, .dateTime, .sort, .replace, .quote, .round, .setting, .json,
    .request, .input]

/-- The function with a name, if all its arguments are templates. -/
def ofName? (name : String) : Option Builtin :=
  plain.find? (·.name = name)

/-- Does the required flag of a call with `count` arguments concern the one at `place`?  A
condition without text leads to the other branch, so it only matters where there is none. -/
def checks (builtin : Builtin) (count place : Nat) : Bool :=
  match builtin with
  | .ifGiven => if count = 3 then place = 1 || place = 2 else place = 0 || place = 1
  | .ifEqual => 2 ≤ place
  | .choose | .setting | .lookup _ => true
  | .dateTime | .input => false
  | .switch | .join | .lower | .upper | .trim | .urlEncode | .calc | .isMatch | .randomNumber
  | .sort | .replace | .quote | .round | .json | .request => place = 0

end Builtin

/-- A part of a template. -/
inductive Item where
  | literal (text : String)
  /-- The value of a parameter; names are in lower case. -/
  | identifier (name : String)
  /-- An argument of the command, counted from 1, or all arguments from there on. -/
  | argument (index : Nat) (toEnd : Bool)
  /-- The value of an identifier, or no text where it has none. -/
  | replacement (item : Item) (required : Bool)
  /-- An item whose text is escaped for the command around the template. -/
  | escaped (item : Item)
  | group (items : List Item)
  | call (builtin : Builtin) (arguments : List (List Item)) (required : Bool)
  deriving Inhabited

/-- Items whose texts are put together. -/
abbrev Template := List Item

/-! ### Equality -/

mutual

/-- Are two items equal? -/
def Item.same : Item → Item → Bool
  | .literal a, .literal b => a == b
  | .identifier a, .identifier b => a == b
  | .argument i t, .argument j u => i == j && t == u
  | .replacement a r, .replacement b s => a.same b && r == s
  | .escaped a, .escaped b => a.same b
  | .group a, .group b => Item.sameItems a b
  | .call f a r, .call g b s => decide (f = g) && Item.sameArguments a b && r == s
  | _, _ => false

/-- Are two templates equal? -/
def Item.sameItems : List Item → List Item → Bool
  | [], [] => true
  | a :: s, b :: t => a.same b && Item.sameItems s t
  | _, _ => false

/-- Are the arguments of two calls equal? -/
def Item.sameArguments : List (List Item) → List (List Item) → Bool
  | [], [] => true
  | a :: s, b :: t => Item.sameItems a b && Item.sameArguments s t
  | _, _ => false

end

mutual

theorem Item.same_refl : ∀ a : Item, a.same a = true
  | .literal _ | .identifier _ | .argument _ _ => by simp [Item.same]
  | .replacement a _ | .escaped a => by simp [Item.same, Item.same_refl a]
  | .group s => by simp [Item.same, Item.sameItems_refl s]
  | .call _ s _ => by simp [Item.same, Item.sameArguments_refl s]

theorem Item.sameItems_refl : ∀ s : List Item, Item.sameItems s s = true
  | [] => rfl
  | a :: s => by simp [Item.sameItems, Item.same_refl a, Item.sameItems_refl s]

theorem Item.sameArguments_refl : ∀ s : List (List Item), Item.sameArguments s s = true
  | [] => rfl
  | a :: s => by simp [Item.sameArguments, Item.sameItems_refl a, Item.sameArguments_refl s]

end

mutual

theorem Item.eq_of_same : ∀ {a b : Item}, a.same b = true → a = b
  | .literal _, b, h | .identifier _, b, h | .argument _ _, b, h => by
    cases b <;> simp_all [Item.same]
  | .replacement a _, b, h => by
    cases b <;> simp only [Item.same, Bool.and_eq_true, beq_iff_eq, Bool.false_eq_true] at h
    rw [Item.eq_of_same h.1, h.2]
  | .escaped a, b, h => by
    cases b <;> simp only [Item.same, Bool.false_eq_true] at h
    rw [Item.eq_of_same h]
  | .group s, b, h => by
    cases b <;> simp only [Item.same, Bool.false_eq_true] at h
    rw [Item.eq_of_sameItems h]
  | .call _ s _, b, h => by
    cases b <;> simp only [Item.same, Bool.and_eq_true, decide_eq_true_eq, beq_iff_eq,
      Bool.false_eq_true] at h
    obtain ⟨⟨rfl, hs⟩, rfl⟩ := h
    rw [Item.eq_of_sameArguments hs]

theorem Item.eq_of_sameItems : ∀ {s t : List Item}, Item.sameItems s t = true → s = t
  | [], t, h => by cases t <;> simp_all [Item.sameItems]
  | a :: s, t, h => by
    cases t <;> simp only [Item.sameItems, Bool.and_eq_true, Bool.false_eq_true] at h
    rw [Item.eq_of_same h.1, Item.eq_of_sameItems h.2]

theorem Item.eq_of_sameArguments :
    ∀ {s t : List (List Item)}, Item.sameArguments s t = true → s = t
  | [], t, h => by cases t <;> simp_all [Item.sameArguments]
  | a :: s, t, h => by
    cases t <;> simp only [Item.sameArguments, Bool.and_eq_true, Bool.false_eq_true] at h
    rw [Item.eq_of_sameItems h.1, Item.eq_of_sameArguments h.2]

end

instance : DecidableEq Item := fun a b =>
  decidable_of_iff (a.same b = true) ⟨Item.eq_of_same, fun h => h ▸ Item.same_refl a⟩

end CommandTemplate
