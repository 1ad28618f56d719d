import CommandTemplate.Json.Value
import CommandTemplate.Regex.Search

/-!
Paths into JSON values.

A `Json.Path` is a list of steps.  A step goes from a value to one of its parts or to a value
computed from it, and `Path.resolve` takes all of them in turn; the result is `none` as soon
as one leads nowhere.  Equality of paths can be decided: patterns are equal when they are
written alike.
-/

namespace CommandTemplate

/-- A pattern that is known to compile. -/
structure Pattern where
  source : String
  regex : Regex
  compiles : Regex.compile source = .ok regex

namespace Pattern

/-- The pattern that a text writes. -/
def ofSource (source : String) : Except Regex.Error Pattern :=
  match h : Regex.compile source with
  | .ok regex => .ok ⟨source, regex, h⟩
  | .error fault => .error fault

/-- The source of a pattern determines it. -/
theorem eq_of_source {p q : Pattern} (h : p.source = q.source) : p = q := by
  obtain ⟨s, r, hr⟩ := p
  obtain ⟨t, r', hr'⟩ := q
  cases h
  cases Except.ok.inj (hr.symm.trans hr')
  rfl

instance : DecidableEq Pattern := fun p q =>
  decidable_of_iff (p.source = q.source) ⟨eq_of_source, congrArg source⟩

end Pattern

namespace Json

/-- What a selection takes from each item of an array. -/
inductive Selection where
  /-- The items themselves. -/
  | filter
  /-- The value that a path finds in an item. -/
  | collect
  /-- The items of an array that a path finds in an item, or the single value. -/
  | combine
  deriving Repr, DecidableEq

/-- One step of a path. -/
inductive Step where
  | key (name : String)
  /-- An item by its place, counted from the end if negative. -/
  | index (place : Int)
  | last
  | size
  | unique
  | join (delimiter : String)
  | select (mode : Selection) (path : List Step) (pattern : Option Pattern)

/-- Steps that are taken one after the other. -/
abbrev Path := List Step

/-! ### Equality -/

mutual

/-- Are two steps equal? -/
def Step.same : Step → Step → Bool
  | .key a, .key b => a == b
  | .index a, .index b => a == b
  | .last, .last => true
  | .size, .size => true
  | .unique, .unique => true
  | .join a, .join b => a == b
  | .select m p r, .select n q s => decide (m = n) && Step.sameAll p q && decide (r = s)
  | _, _ => false

/-- Are two paths equal? -/
def Step.sameAll : List Step → List Step → Bool
  | [], [] => true
  | a :: p, b :: q => a.same b && Step.sameAll p q
  | _, _ => false

end

mutual

theorem Step.same_refl : ∀ a : Step, a.same a = true
  | .key _ | .index _ | .join _ => by simp [Step.same]
  | .last | .size | .unique => rfl
  | .select _ p _ => by simp [Step.same, Step.sameAll_refl p]

theorem Step.sameAll_refl : ∀ p : List Step, Step.sameAll p p = true
  | [] => rfl
  | a :: p => by simp [Step.sameAll, Step.same_refl a, Step.sameAll_refl p]

end

mutual

theorem Step.eq_of_same : ∀ {a b : Step}, a.same b = true → a = b
  | .key _, b, h | .index _, b, h | .join _, b, h => by cases b <;> simp_all [Step.same]
  | .last, b, h | .size, b, h | .unique, b, h => by cases b <;> simp_all [Step.same]
  | .select _ p _, b, h => by
    cases b <;> simp only [Step.same, Bool.and_eq_true, decide_eq_true_eq,
      Bool.false_eq_true] at h
    obtain ⟨⟨rfl, hp⟩, rfl⟩ := h
    rw [Step.eq_of_sameAll hp]

theorem Step.eq_of_sameAll : ∀ {p q : List Step}, Step.sameAll p q = true → p = q
  | [], q, h => by cases q <;> simp_all [Step.sameAll]
  | a :: p, q, h => by
    cases q <;> simp only [Step.sameAll, Bool.and_eq_true, Bool.false_eq_true] at h
    rw [Step.eq_of_same h.1, Step.eq_of_sameAll h.2]

end

instance : DecidableEq Step := fun a b =>
  decidable_of_iff (a.same b = true) ⟨Step.eq_of_same, fun h => h ▸ Step.same_refl a⟩

/-! ### Resolving -/

/-- The fields of an object. -/
def fields? : Json → Option (List (String × Json))
  | .object fields => some fields
  | _ => none

/-- The items of an array. -/
def items? : Json → Option (List Json)
  | .array items => some items
  | _ => none

/-- The place of an item in an array of a length, where negative places count from the end. -/
def placeIn (length : Nat) (place : Int) : Option Nat :=
  let place := if place < 0 then length + place else place
  if 0 ≤ place then some place.toNat else none

/-- The first of all items that are the same. -/
def distinct (items : List Json) : List Json :=
  (items.foldl (fun found item => if found.any item.same then found else item :: found) []).reverse

/-- The number of items, fields or characters. -/
def size? : Json → Option Nat
  | .array items => some items.length
  | .object fields => some fields.length
  | .string text => some text.length
  | _ => none

/-- Does a value have a text that the pattern matches, or that is not empty? -/
def matchesPattern (pattern : Option Pattern) (value : Json) : Bool :=
  match value.text? with
  | none => false
  | some text =>
    match pattern with
    | some p => p.regex.isMatch text
    | none => !text.isEmpty

/-- What a selection takes from an item, in which `found` was found. -/
def Selection.take (mode : Selection) (pattern : Option Pattern) (item found : Json) :
    List Json :=
  match mode with
  | .filter => if matchesPattern pattern found then [item] else []
  | .collect => if matchesPattern pattern found then [found] else []
  | .combine =>
    match found with
    | .array inner => inner.filter (matchesPattern pattern)
    | found => if matchesPattern pattern found then [found] else []

mutual

/-- The value that a step leads to. -/
def Step.apply : Step → Json → Option Json
  | .key name, value => value.fields? >>= List.lookup name
  | .index place, value => do
    let items ← value.items?
    items[← placeIn items.length place]?
  | .last, value => value.items? >>= List.getLast?
  | .size, value => value.size?.map ofCount
  | .unique, value => value.items?.map fun items => .array (distinct items)
  | .join delimiter, value =>
    value.items?.map fun items => .string (String.intercalate delimiter (items.filterMap text?))
  | .select mode path pattern, value =>
    value.items?.map fun items => .array <| items.flatMap fun item =>
      match Path.resolve path item with
      | some found => mode.take pattern item found
      | none => []

/-- The value that a path leads to. -/
def Path.resolve : List Step → Json → Option Json
  | [], value => some value
  | step :: path, value => step.apply value >>= Path.resolve path

end

end Json

end CommandTemplate
