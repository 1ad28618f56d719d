import CommandTemplate.Json.Path
import Mathlib.Data.List.Basic
import Mathlib.Data.List.Induction

/-!
Laws of the steps that take something from an array.

A selection looks at each item by itself, so that what it takes from an array can be said with
`List.filter` and `List.filterMap` (`takeAll_filter`, `takeAll_collect`).  The step `unique` keeps
the items that no earlier one is the same as (`distinct_eq`), for being the same is an equivalence
(`same_refl`, `same_comm`, `same_trans`).  `Path.selection_laws` puts together what follows for
paths of one or two such steps.
-/

namespace CommandTemplate.Json

/-! ### Several steps -/

theorem Path.resolve_singleton (step : Step) (value : Json) :
    resolve [step] value = step.apply value := by
  rw [resolve]
  exact bind_pure (step.apply value)

/-- Paths are taken one after the other. -/
theorem Path.resolve_append (path path' : Path) (value : Json) :
    resolve (path ++ path') value = resolve path value >>= resolve path' := by
  induction path generalizing value with
  | nil =>
    rw [List.nil_append, resolve]
    rfl
  | cons step path ih =>
    rw [List.cons_append, resolve, resolve]
    cases step.apply value with
    | none => rfl
    | some next => exact ih next

/-- The second step takes from what the first one finds. -/
theorem Path.resolve_pair (first second : Step) (value : Json) :
    resolve [first, second] value = first.apply value >>= second.apply := by
  have happend := resolve_append [first] [second] value
  rw [resolve_singleton] at happend
  exact happend.trans (congrArg _ (funext (resolve_singleton second)))

/-! ### Selections -/

section

variable (path : Path) (pattern : Option Pattern) (items : List Json)

/-- What a selection takes from the items of an array. -/
def Selection.takeAll (mode : Selection) : List Json :=
  items.flatMap fun item => (Path.resolve path item).elim [] (mode.take pattern item)

/-- Does the path find a value in an item that matches? -/
def matchesAt (item : Json) : Bool :=
  (Path.resolve path item).any (matchesPattern pattern)

/-- A selection takes from each item of an array and puts all of it into another one. -/
theorem apply_select (mode : Selection) :
    (Step.select mode path pattern).apply (.array items) =
      some (.array (mode.takeAll path pattern items)) := by
  rw [Step.apply]
  refine congrArg (some ∘ array) (List.flatMap_congr fun item _ => ?_)
  cases Path.resolve path item <;> rfl

/-- A filter keeps the items that match. -/
theorem takeAll_filter :
    Selection.filter.takeAll path pattern items = items.filter (matchesAt path pattern) := by
  induction items with
  | nil => rfl
  | cons item items ih =>
    rw [Selection.takeAll, List.flatMap_cons, ← Selection.takeAll, ih, List.filter_cons]
    cases hfound : Path.resolve path item with
    | none => simp [matchesAt, hfound]
    | some found => cases hmatch : matchesPattern pattern found <;>
        simp [matchesAt, Selection.take, hfound, hmatch]

/-- What is collected are the values that are found and match. -/
theorem takeAll_collect :
    Selection.collect.takeAll path pattern items =
      (items.filterMap (Path.resolve path)).filter (matchesPattern pattern) := by
  induction items with
  | nil => rfl
  | cons item items ih =>
    rw [Selection.takeAll, List.flatMap_cons, ← Selection.takeAll, ih, List.filterMap_cons]
    cases hfound : Path.resolve path item with
    | none => simp
    | some found => cases hmatch : matchesPattern pattern found <;>
        simp [Selection.take, hmatch]

/-- What is collected is found in the items that a filter keeps. -/
theorem takeAll_collect_filter :
    Selection.collect.takeAll path pattern (Selection.filter.takeAll path pattern items) =
      Selection.collect.takeAll path pattern items := by
  rw [takeAll_collect, takeAll_collect, takeAll_filter, List.filterMap_filter,
    List.filter_filterMap, List.filter_filterMap]
  congr 1
  funext item
  cases hfound : Path.resolve path item with
  | none => simp [matchesAt, hfound]
  | some found => cases hmatch : matchesPattern pattern found <;>
      simp [matchesAt, hfound, hmatch, Option.filter]

/-- Only arrays are taken apart. -/
theorem takeAll_combine
    (h : ∀ item ∈ items, ∀ found ∈ Path.resolve path item, found.items? = none) :
    Selection.combine.takeAll path pattern items =
      Selection.collect.takeAll path pattern items := by
  refine List.flatMap_congr fun item hitem => ?_
  cases hfound : Path.resolve path item with
  | none => rfl
  | some found =>
    have hitems := h item hitem found hfound
    cases found with
    | array inner => cases hitems
    | _ => rfl

end

/-! ### Equality of values -/

mutual

/-- A value is the same as itself. -/
@[simp] theorem same_refl : ∀ value : Json, value.same value = true
  | .null => rfl
  | .bool _ | .integer _ | .float _ | .string _ => by simp [same]
  | .array items => by simp [same, sameItems_refl items]
  | .object fields => by simp [same, sameFields_refl fields]

theorem sameItems_refl : ∀ items : List Json, sameItems items items = true
  | [] => rfl
  | item :: items => by simp [sameItems, same_refl item, sameItems_refl items]

theorem sameFields_refl : ∀ fields : List (String × Json), sameFields fields fields = true
  | [] => rfl
  | (_, value) :: fields => by simp [sameFields, same_refl value, sameFields_refl fields]

end

mutual

/-- It does not matter which of two values is compared with the other. -/
theorem same_comm : ∀ a b : Json, a.same b = b.same a
  | .null, b => by cases b <;> rfl
  | .bool _, b | .integer _, b | .string _, b => by cases b <;> simp [same, Bool.beq_comm]
  | .float _, b => by cases b <;> simp [same, Bool.beq_comm, Bool.and_comm]
  | .array items, b => by
    cases b with
    | array others => simp [same, sameItems_comm items others]
    | _ => rfl
  | .object fields, b => by
    cases b with
    | object others => simp [same, sameFields_comm fields others]
    | _ => rfl

theorem sameItems_comm : ∀ as bs : List Json, sameItems as bs = sameItems bs as
  | [], bs => by cases bs <;> rfl
  | a :: as, [] => rfl
  | a :: as, b :: bs => by simp [sameItems, same_comm a b, sameItems_comm as bs]

theorem sameFields_comm : ∀ as bs : List (String × Json), sameFields as bs = sameFields bs as
  | [], bs => by cases bs <;> rfl
  | a :: as, [] => rfl
  | (m, a) :: as, (n, b) :: bs => by
    simp [sameFields, same_comm a b, sameFields_comm as bs, Bool.beq_comm]

end

mutual

/-- Values that are the same as a third one are the same. -/
theorem same_trans : ∀ {a b c : Json}, a.same b = true → b.same c = true → a.same c = true
  | .null, b, c, hab, hbc => by cases b <;> cases c <;> simp_all [same]
  | .bool _, b, c, hab, hbc | .integer _, b, c, hab, hbc | .string _, b, c, hab, hbc => by
    cases b <;> cases c <;> simp_all [same]
  | .float _, b, c, hab, hbc => by
    -- a zero is the same as the other zero, whose bits are others
    cases b <;> cases c <;> simp [same] at hab hbc ⊢
    grind
  | .array as, b, c, hab, hbc => by
    cases b <;> cases c <;> simp only [same, Bool.false_eq_true] at hab hbc ⊢
    exact sameItems_trans hab hbc
  | .object as, b, c, hab, hbc => by
    cases b <;> cases c <;> simp only [same, Bool.false_eq_true] at hab hbc ⊢
    exact sameFields_trans hab hbc

theorem sameItems_trans : ∀ {as bs cs : List Json},
    sameItems as bs = true → sameItems bs cs = true → sameItems as cs = true
  | [], bs, cs, hab, hbc => by cases bs <;> cases cs <;> simp_all [sameItems]
  | a :: as, bs, cs, hab, hbc => by
    cases bs <;> cases cs <;>
      simp only [sameItems, Bool.false_eq_true, Bool.and_eq_true] at hab hbc ⊢
    exact ⟨same_trans hab.1 hbc.1, sameItems_trans hab.2 hbc.2⟩

theorem sameFields_trans : ∀ {as bs cs : List (String × Json)},
    sameFields as bs = true → sameFields bs cs = true → sameFields as cs = true
  | [], bs, cs, hab, hbc => by cases bs <;> cases cs <;> simp_all [sameFields]
  | (_, a) :: as, bs, cs, hab, hbc => by
    cases bs <;> cases cs <;>
      simp only [sameFields, Bool.false_eq_true, Bool.and_eq_true, beq_iff_eq] at hab hbc ⊢
    exact ⟨⟨hab.1.1.trans hbc.1.1, same_trans hab.1.2 hbc.1.2⟩, sameFields_trans hab.2 hbc.2⟩

end

/-! ### The first of all that are the same -/

section

variable (items : List Json)

/-- An item at the end is kept unless one that is kept is the same. -/
theorem distinct_concat (item : Json) :
    distinct (items ++ [item]) =
      if (distinct items).any item.same then distinct items else distinct items ++ [item] := by
  simp only [distinct, List.foldl_append, List.foldl_cons, List.foldl_nil, List.any_reverse]
  split
  · rfl
  · exact List.reverse_cons

/-- For every item one is kept that is the same. -/
theorem any_same_distinct (value : Json) :
    (distinct items).any value.same = items.any value.same := by
  induction items using List.reverseRecOn with
  | nil => rfl
  | append_singleton items item ih =>
    rw [distinct_concat, List.any_append, ← ih]
    -- the item is dropped if one that is the same is kept
    split
    · next hkept =>
      cases hsame : value.same item with
      | false => simp [hsame]
      | true =>
        -- the one that is kept for the item is the same as the value, too
        obtain ⟨other, hother, hitem⟩ := List.any_eq_true.1 hkept
        have hvalue : (distinct items).any value.same = true :=
          List.any_eq_true.2 ⟨other, hother, same_trans hsame hitem⟩
        simp [hvalue]
    · rw [List.any_append]

/-- The items are kept that no earlier one is the same as. -/
theorem distinct_eq :
    distinct items = (items.zipIdx.filter fun (item, place) =>
      !(items.take place).any item.same).map Prod.fst := by
  induction items using List.reverseRecOn with
  | nil => rfl
  | append_singleton items item ih =>
    have hfront : items.zipIdx.filter (fun (other, place) =>
        !((items ++ [item]).take place).any other.same) =
        items.zipIdx.filter fun (other, place) => !(items.take place).any other.same := by
      refine List.filter_congr fun entry hentry => ?_
      have hplace := (List.mem_zipIdx' hentry).1
      simp only [List.take_append_of_le_length (Nat.le_of_lt hplace)]
    rw [distinct_concat, any_same_distinct, List.zipIdx_append, List.filter_append, List.map_append,
      hfront, ← ih]
    cases hany : items.any item.same <;> simp [hany]

/-- The items that are kept stay in their order. -/
theorem distinct_sublist : (distinct items).Sublist items := by
  have hsublist := (List.filter_sublist (l := items.zipIdx) (p := fun (item, place) =>
    !(items.take place).any item.same)).map Prod.fst
  rw [distinct_eq]
  rwa [List.zipIdx_map_fst] at hsublist

/-- No two items that are kept are the same. -/
theorem pairwise_distinct : (distinct items).Pairwise fun a b => a.same b = false := by
  induction items using List.reverseRecOn with
  | nil => exact .nil
  | append_singleton items item ih =>
    rw [distinct_concat]
    split
    · exact ih
    · next hnew =>
      refine List.pairwise_append.2 ⟨ih, List.pairwise_singleton _ _, ?_⟩
      intro other hother last hlast
      obtain rfl := List.mem_singleton.1 hlast
      rw [same_comm]
      exact Bool.eq_false_iff.2 fun hsame => hnew (List.any_eq_true.2 ⟨other, hother, hsame⟩)

/-- Nothing is dropped where no two items are the same. -/
theorem distinct_eq_self {items : List Json} (h : items.Pairwise fun a b => a.same b = false) :
    distinct items = items := by
  induction items using List.reverseRecOn with
  | nil => rfl
  | append_singleton items item ih =>
    obtain ⟨hitems, -, hitem⟩ := List.pairwise_append.1 h
    rw [distinct_concat, ih hitems, if_neg]
    rw [List.any_eq_true]
    rintro ⟨other, hother, hsame⟩
    rw [same_comm, hitem other hother item List.mem_cons_self] at hsame
    cases hsame

theorem distinct_distinct : distinct (distinct items) = distinct items :=
  distinct_eq_self (pairwise_distinct items)

theorem apply_unique : Step.unique.apply (.array items) = some (.array (distinct items)) := by
  rw [Step.apply]
  rfl

end

/-! ### Paths of one or two steps -/

/-- A filter in front of the same collection is of no account, nor is a second filter; combining is
collecting where no arrays are found; and the first of all items that are the same are kept once for
all. -/
theorem Path.selection_laws (items : List Json) (path : Path) (pattern : Option Pattern) :
    let filter := Step.select .filter path pattern
    let collect := Step.select .collect path pattern
    let combine := Step.select .combine path pattern
    resolve [filter, collect] (.array items) = resolve [collect] (.array items) ∧
      resolve [filter, filter] (.array items) = resolve [filter] (.array items) ∧
      (∃ kept, resolve [filter] (.array items) = some (.array kept) ∧ kept.Sublist items) ∧
      ((∀ item ∈ items, ∀ found ∈ resolve path item, found.items? = none) →
        resolve [combine] (.array items) = resolve [collect] (.array items)) ∧
      ∃ kept, resolve [.unique] (.array items) = some (.array kept) ∧ kept.Sublist items ∧
        kept.Pairwise (fun a b => a.same b = false) ∧
        (∀ item ∈ items, ∃ other ∈ kept, item.same other = true) ∧
        kept = (items.zipIdx.filter fun (item, place) =>
          !(items.take place).any item.same).map Prod.fst ∧
        resolve [.unique, .unique] (.array items) = some (.array kept) := by
  -- all five are facts about `takeAll` and `distinct`, which the two kinds of steps come down to
  intro filter collect combine
  have hselect (mode : Selection) (others : List Json) :
      (Step.select mode path pattern).apply (.array others) =
        some (.array (mode.takeAll path pattern others)) := apply_select path pattern others mode
  refine ⟨?_, ?_, ⟨Selection.filter.takeAll path pattern items, ?_, ?_⟩, fun harrays => ?_,
    distinct items, ?_, distinct_sublist items, pairwise_distinct items, fun item hitem => ?_,
    distinct_eq items, ?_⟩
  · rw [resolve_pair, resolve_singleton, hselect, hselect, Option.bind_eq_bind, Option.bind_some,
      hselect, takeAll_collect_filter]
  · rw [resolve_pair, resolve_singleton, hselect, Option.bind_eq_bind, Option.bind_some, hselect,
      takeAll_filter, takeAll_filter, List.filter_filter]
    simp only [Bool.and_self]
  · rw [resolve_singleton, hselect]
  · rw [takeAll_filter]
    exact List.filter_sublist
  · rw [resolve_singleton, resolve_singleton, hselect, hselect,
      takeAll_combine path pattern items harrays]
  · rw [resolve_singleton, apply_unique]
  · exact List.any_eq_true.1 ((any_same_distinct items item).trans
      (List.any_eq_true.2 ⟨item, hitem, same_refl item⟩))
  · rw [resolve_pair, apply_unique, Option.bind_eq_bind, Option.bind_some, apply_unique,
      distinct_distinct]

/-- The last tag of each item, as far as there is one with a text. -/
theorem Path.selection_laws_tags :
    let tagged (tags : List Json) : Json := .object [("tags", .array tags)]
    let items :=
      [tagged [.array [], .string "a"], tagged [], tagged [.null], .null, tagged [.bool true]]
    let path := [Step.key "tags", .last]
    (∀ item ∈ items, ∀ found ∈ resolve path item, found.items? = none) ∧
      resolve [.select .combine path none] (.array items) =
        some (.array [.string "a", .bool true]) := by
  intro tagged items path
  have hsingle : ∀ item ∈ items, ∀ found ∈ resolve path item, found.items? = none := by
    simp [items, tagged, path, resolve, Step.apply, fields?, items?]
  exact ⟨hsingle, ((selection_laws items path none).2.2.2.1 hsingle).trans rfl⟩

end CommandTemplate.Json
