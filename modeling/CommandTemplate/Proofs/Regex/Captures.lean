import CommandTemplate.Proofs.Outcome
import CommandTemplate.Proofs.Text.CodeSet
import CommandTemplate.Regex.Search

/-!
The groups of a pattern.

All groups that a pattern captures are numbered up to `maxGroups`, and their names start with a
letter or an underscore (`captured_of_compile`).  So the reader makes them (`yields_readRest`), and
neither the way from a pattern to an expression nor the simple forms of expressions add a group
(`yields_lowered`, `captures_choice`).
-/

namespace CommandTemplate.Regex

/-- The number of a group and its name. -/
abbrev Capture := Nat × Option String

/-- Does a name start as names do? -/
def StartsName (name : String) : Prop :=
  ∃ first rest, name.toList = first :: rest ∧ isNameStart first = true

/-- A group as a pattern may have it. -/
structure Captured (c : Capture) : Prop where
  number : c.1 ≤ maxGroups
  name : ∀ name, c.2 = some name → StartsName name

set_option maxRecDepth 20000 in
/-- No name starts with a digit. -/
theorem isNameStart_of_isDigit {c : Char} (h : c.isDigit = true) : isNameStart c = false := by
  have hletters : nameLetters.AvoidsDigits := Text.avoidsDigits_alphabetic.union
    (Text.CodeSet.avoidsDigits_ofText _ (by decide +kernel))
  have hunderscore : c ≠ '_' := by rintro rfl; cases h
  simp [isNameStart, hunderscore, hletters.not_has h]

/-! ### Results -/

section

variable {σ α β : Type} {P : α → Prop} {Q : β → Prop}

/-- Whatever a computation yields satisfies `P`. -/
def Yields (x : StateT σ (Except Error) α) (P : α → Prop) : Prop :=
  ∀ s a t, x.run s = .ok (a, t) → P a

/-- What holds after one step may be used for the next. -/
theorem Yields.bind {x : StateT σ (Except Error) α} {f : α → StateT σ (Except Error) β}
    (hx : Yields x P) (hf : ∀ a, P a → Yields (f a) Q) : Yields (x >>= f) Q := by
  intro s b u h
  rw [StateT.run_bind] at h
  obtain ⟨⟨a, t⟩, ha, hb⟩ := bind_eq_ok.1 h
  exact hf a (hx s a t ha) t b u hb

theorem yields_true (x : StateT σ (Except Error) α) : Yields x fun _ => True :=
  fun _ _ _ _ => trivial

/-- A step whose result does not matter. -/
theorem Yields.after {f : α → StateT σ (Except Error) β} (x : StateT σ (Except Error) α)
    (hf : ∀ a, Yields (f a) Q) : Yields (x >>= f) Q :=
  (yields_true x).bind fun a _ => hf a

theorem yields_pure {a : α} (h : P a) : Yields (pure a : StateT σ (Except Error) α) P := by
  intro s b t hb
  cases hb
  exact h

theorem yields_throw (fault : Error) : Yields (throw fault : StateT σ (Except Error) α) P := by
  intro s a t h
  cases h

/-- A fault that is thrown under a condition. -/
theorem yields_unless {c : Prop} [Decidable c] {fault : Error}
    {f : PUnit → StateT σ (Except Error) β} (h : ¬ c → Yields (f ⟨⟩) Q) :
    Yields (if c then throw fault >>= f else f ⟨⟩) Q := by
  split
  · exact (yields_throw (P := fun _ => False) fault).bind fun _ hfalse => hfalse.elim
  · next hc => exact h hc

/-- One of two steps whose results do not matter. -/
theorem yields_either {c : Prop} [Decidable c] {x y : StateT σ (Except Error) α}
    {f : α → StateT σ (Except Error) β} (hf : ∀ a, Yields (f a) Q) :
    Yields (if c then x >>= f else y >>= f) Q := by
  split <;> exact .after _ hf

end

/-! ### Groups as they are written -/

def GroupKind.captures : GroupKind → List Capture
  | .capture index name => [(index, name)]
  | .plain _ => []

mutual

/-- The groups of a pattern that capture what they match. -/
def Ast.captures : Ast → List Capture
  | .repetition _ _ _ body => body.captures
  | .group kind body => kind.captures ++ body.captures
  | .alternation branches => Ast.capturesOfAll branches
  | .concatenation items => Ast.capturesOfAll items
  | _ => []

def Ast.capturesOfAll : List Ast → List Capture
  | [] => []
  | item :: items => item.captures ++ Ast.capturesOfAll items

end

/-- The groups of several patterns are those of each one. -/
theorem Ast.mem_capturesOfAll {c : Capture} {items : List Ast} :
    c ∈ capturesOfAll items ↔ ∃ item ∈ items, c ∈ item.captures := by
  induction items with
  | nil => simp [capturesOfAll]
  | cons item items ih => simp [capturesOfAll, ih]

/-- The groups in an open group. -/
def Level.captures (level : Level) : List Capture :=
  Ast.capturesOfAll level.branches ++ Ast.capturesOfAll level.parts

/-- An open group has the groups of its branches and of the parts of the last one. -/
theorem Level.mem_captures {c : Capture} {level : Level} :
    c ∈ level.captures ↔
      (∃ item ∈ level.branches, c ∈ item.captures) ∨ ∃ item ∈ level.parts, c ∈ item.captures := by
  rw [captures, List.mem_append, Ast.mem_capturesOfAll, Ast.mem_capturesOfAll]

theorem Level.mem_captures_push {c : Capture} {part : Ast} {level : Level} :
    c ∈ (level.push part).captures ↔ c ∈ part.captures ∨ c ∈ level.captures := by
  simp only [mem_captures, push, List.mem_cons, or_and_right, exists_or, exists_eq_left]
  exact or_left_comm

/-- The parts become a branch with the same groups. -/
theorem Level.mem_captures_branch {c : Capture} {level : Level} :
    c ∈ level.branch.captures ↔ ∃ item ∈ level.parts, c ∈ item.captures := by
  obtain ⟨branches, parts⟩ := level
  -- no part, one, or several, which are put in their order
  rcases parts with - | ⟨part, - | ⟨next, parts⟩⟩
  · simp [branch, Ast.captures]
  · simp [branch]
  · rw [branch, Ast.captures, Ast.mem_capturesOfAll]
    simp only [List.mem_reverse]

/-- A bar begins another branch. -/
theorem Level.mem_captures_bar {c : Capture} {level : Level} :
    c ∈ Level.captures ⟨level.branch :: level.branches, []⟩ ↔ c ∈ level.captures := by
  have hbranch : c ∈ level.branch.captures ↔ ∃ item ∈ level.parts, c ∈ item.captures :=
    mem_captures_branch
  rw [mem_captures, mem_captures, ← hbranch]
  simp only [List.mem_cons, or_and_right, exists_or, exists_eq_left, List.not_mem_nil, false_and,
    exists_false, or_false]
  exact or_comm

/-- When it is closed, a group has all groups of its branches. -/
theorem Level.mem_captures_whole {c : Capture} {level : Level} :
    c ∈ level.whole.captures ↔ c ∈ level.captures := by
  rw [mem_captures, ← mem_captures_branch]
  obtain ⟨branches, parts⟩ := level
  cases branches with
  | nil => simp [whole]
  | cons first branches =>
    rw [whole, Ast.captures, Ast.mem_capturesOfAll]
    simp only [List.mem_reverse, List.mem_cons, or_and_right, exists_or, exists_eq_left]
    exact or_comm

/-! ### Reading -/

/-- A name that is read starts as names do. -/
theorem yields_readName : Yields readName StartsName := by
  unfold readName
  refine .after _ fun s => ?_
  split
  next name rest _ =>
  -- of the four faults, two tell what a name is not
  refine yields_unless fun hvalid => yields_unless fun _ => yields_unless fun hempty =>
    yields_unless fun _ => .after _ fun _ => yields_pure ?_
  cases name with
  | nil => exact absurd rfl hempty
  | cons first others =>
    rw [Bool.not_eq_true, Bool.not_eq_false', Bool.and_eq_true] at hvalid
    exact ⟨first, others, String.toList_ofList, hvalid.1⟩

/-- The numbers of groups go up to their limit. -/
theorem yields_nextGroup : Yields nextGroup (· ≤ maxGroups) := by
  unfold nextGroup
  exact .after _ fun s => yields_unless fun hlimit => .after _ fun _ => yields_pure (by omega)

/-- The groups that an opening begins. -/
def Opening.captures : Opening → List Capture
  | .flags _ => []
  | .group kind => kind.captures

/-- A group that is opened has a number and a name as it may have. -/
theorem yields_readOpening :
    Yields readOpening fun opening => ∀ c ∈ opening.captures, Captured c := by
  have hcapture {index : Nat} (hindex : index ≤ maxGroups) {name : Option String}
      (hname : ∀ n, name = some n → StartsName n) :
      ∀ c ∈ (Opening.group (.capture index name)).captures, Captured c := by
    intro c hc
    cases List.mem_singleton.1 hc
    exact ⟨hindex, hname⟩
  have hplain (change : FlagChange) : ∀ c ∈ (Opening.group (.plain change)).captures, Captured c :=
    nofun
  have hflags (change : FlagChange) : ∀ c ∈ (Opening.flags change).captures, Captured c := nofun
  unfold readOpening
  refine .after _ fun _ => .after _ fun _ => yields_unless fun _ => .after _ fun _ =>
    yields_either fun named => ?_
  dsimp only
  split
  · refine yields_nextGroup.bind fun index hindex => yields_readName.bind fun name hname => ?_
    -- a named group
    refine yields_pure (hcapture hindex fun n hn => ?_)
    cases hn
    exact hname
  refine .after _ fun _ => ?_
  split
  · refine .after _ fun _ => .after _ fun _ => .after _ fun change => .after _ fun last =>
      .after _ fun _ => ?_
    split
    · exact yields_unless fun _ => yields_pure (hflags change)
    · exact yields_pure (hplain change)
  · exact yields_nextGroup.bind fun index hindex => yields_pure (hcapture hindex nofun)

/-- A class has no groups. -/
theorem yields_readClassRest (fuel : Nat) (level : ClassLevel) (outer : List ClassLevel) :
    Yields (readClassRest fuel level outer) fun ast => ast.captures = [] := by
  -- however classes lie in one another, they are made of sets of characters
  induction fuel generalizing level outer with
  | zero => exact yields_throw _
  | succ fuel ih =>
    unfold readClassRest
    refine .after _ fun _ => .after _ fun c => ?_
    split
    · refine .after _ fun item => ?_
      split
      · exact ih _ _
      · exact .after _ fun _ => ih _ _
    split
    · refine .after _ fun _ => ?_
      split
      · exact yields_pure rfl
      · exact ih _ _
    split
    · refine .after _ fun _ => ?_
      split
      · exact .after _ fun _ => .after _ fun _ => ih _ _
      · exact .after _ fun _ => ih _ _
    · exact .after _ fun _ => ih _ _

theorem yields_readClass : Yields readClass fun ast => ast.captures = [] :=
  .after _ fun _ => .after _ fun _ => yields_readClassRest _ _ _

/-- What is repeated is the last part. -/
theorem yields_lastPart (parts : List Ast) :
    Yields (lastPart parts) fun (part, before) => parts = part :: before := by
  unfold lastPart
  split
  · exact yields_throw _
  · exact yields_throw _
  · exact yields_throw _
  · exact yields_pure rfl

/-- A repetition has the groups of what is repeated. -/
theorem yields_readRepeated (low : Nat) (high : Option Nat) (parts : List Ast) :
    Yields (readRepeated low high parts) fun parts' =>
      Ast.capturesOfAll parts' = Ast.capturesOfAll parts := by
  refine (yields_lastPart parts).bind fun (part, before) hparts => ?_
  subst hparts
  exact .after _ fun _ => .after _ fun _ => yields_pure rfl

/-- A repetition with numbers is one of the last part. -/
theorem yields_readCounted (parts : List Ast) :
    Yields (readCounted parts) fun parts' =>
      Ast.capturesOfAll parts' = Ast.capturesOfAll parts := by
  refine (yields_lastPart parts).bind fun (part, before) hparts => ?_
  subst hparts
  exact .after _ fun _ => .after _ fun _ => yields_unless fun _ => .after _ fun _ =>
    .after _ fun _ => yields_unless fun _ => yields_pure rfl

theorem captures_atom (atom : Atom) : atom.ast.captures = [] := by
  cases atom <;> rfl

/-- The group that is open and those in front of it. -/
def Outer.captures (outer : Outer) : List Capture :=
  outer.kind.captures ++ outer.level.captures

/-- All groups that the reader has made so far are in the groups that are open. -/
theorem yields_readRest (fuel : Nat) {level : Level} {outer : List Outer}
    (hlevel : ∀ c ∈ level.captures, Captured c)
    (houter : ∀ group ∈ outer, ∀ c ∈ group.captures, Captured c) :
    Yields (readRest fuel level outer) fun ast => ∀ c ∈ ast.captures, Captured c := by
  induction fuel generalizing level outer with
  | zero => exact yields_throw _
  | succ fuel ih =>
    have hpush {part : Ast} (hpart : ∀ c ∈ part.captures, Captured c) :
        ∀ c ∈ (level.push part).captures, Captured c := by
      intro c hc
      exact (Level.mem_captures_push.1 hc).elim (hpart c) (hlevel c)
    have hparts {parts : List Ast}
        (h : Ast.capturesOfAll parts = Ast.capturesOfAll level.parts) :
        ∀ c ∈ Level.captures { level with parts }, Captured c := by
      intro c hc
      rw [Level.captures, h] at hc
      exact hlevel c hc
    unfold readRest
    refine .after _ fun _ => .after _ fun c => ?_
    -- only an opening parenthesis makes a group; the other cases pass on those that there are
    split
    · split
      · exact yields_pure fun c hc => hlevel c (Level.mem_captures_whole.1 hc)
      · exact yields_throw _
    · refine yields_readOpening.bind fun opening hopening => ?_
      split
      · exact .after _ fun _ => ih (hpush nofun) houter
      · next kind =>
        refine .after _ fun s => ?_
        have hempty : ∀ c ∈ Level.empty.captures, Captured c := nofun
        have hgroups : ∀ group ∈ (⟨level, kind, s.verbose⟩ : Outer) :: outer,
            ∀ c ∈ group.captures, Captured c := by
          rw [List.forall_mem_cons]
          exact ⟨fun c hc => (List.mem_append.1 hc).elim (hopening c) (hlevel c), houter⟩
        dsimp only
        split
        · exact .after _ fun _ => ih hempty hgroups
        · exact ih hempty hgroups
    · split
      · exact yields_throw _
      · -- the group becomes a part of the one around it
        next parent outer =>
        rw [List.forall_mem_cons] at houter
        refine .after _ fun _ => .after _ fun _ => ih (fun c hc => ?_) houter.2
        rw [Level.mem_captures_push, Ast.captures, List.mem_append,
          Level.mem_captures_whole] at hc
        rcases hc with (hkind | hinner) | hparent
        · exact houter.1 c (List.mem_append_left _ hkind)
        · exact hlevel c hinner
        · exact houter.1 c (List.mem_append_right _ hparent)
    · exact .after _ fun _ => ih (fun c hc => hlevel c (Level.mem_captures_bar.1 hc)) houter
    · exact yields_readClass.bind fun ast hast => ih (hpush (by simp [hast])) houter
    · exact (yields_readRepeated _ _ _).bind fun parts h => ih (hparts h) houter
    · exact (yields_readRepeated _ _ _).bind fun parts h => ih (hparts h) houter
    · exact (yields_readRepeated _ _ _).bind fun parts h => ih (hparts h) houter
    · exact (yields_readCounted _).bind fun parts h => ih (hparts h) houter
    · exact .after _ fun atom => ih (hpush (by simp [captures_atom])) houter

/-- All groups of a pattern that is read are such as it may have. -/
theorem captured_of_parse {pattern : String} {ast : Ast} (h : Ast.parse pattern = .ok ast) :
    ∀ c ∈ ast.captures, Captured c := by
  obtain ⟨⟨ast', s⟩, hread, h⟩ := bind_eq_ok.1 h
  have hempty : ∀ c ∈ Level.empty.captures, Captured c := nofun
  have hast := yields_readRest _ hempty (List.forall_mem_nil _) _ _ _ hread
  dsimp only at h
  split at h
  · cases h
  · cases h
    exact hast

/-! ### Groups of expressions -/

namespace Expr

/-- The groups of an expression that capture what they match. -/
def captures : Expr → List Capture
  | .empty | .one _ | .look _ => []
  | .cat a b | .alt a b => a.captures ++ b.captures
  | .loop _ _ _ body => body.captures
  | .capture index name body => (index, name) :: body.captures

/-- An expression is cut into its items with all groups. -/
theorem captures_items (e : Expr) : e.items.flatMap captures = e.captures := by
  induction e with
  | empty => rfl
  | cat a b iha ihb => rw [items, List.flatMap_append, iha, ihb, captures]
  | _ => exact List.append_nil _

/-- Items are put together with all groups. -/
theorem captures_ofItems (es : List Expr) : (ofItems es).captures = es.flatMap captures := by
  fun_induction ofItems es with
  | case1 => rfl
  | case2 item => exact (List.append_nil _).symm
  | case3 item items _ ih => rw [captures, ih, List.flatMap_cons]

theorem captures_sequence (es : List Expr) : (sequence es).captures = es.flatMap captures := by
  rw [sequence, captures_ofItems, List.flatMap_assoc]
  simp only [captures_items]

theorem captures_branches (e : Expr) : e.branches.flatMap captures = e.captures := by
  induction e with
  | alt a b iha ihb => rw [branches, List.flatMap_append, iha, ihb, captures]
  | _ => exact List.append_nil _

/-- Branches are put together with all groups. -/
theorem captures_ofBranches (bs : List Expr) :
    (ofBranches bs).captures = bs.flatMap captures := by
  fun_induction ofBranches bs with
  | case1 => rfl
  | case2 branch => exact (List.append_nil _).symm
  | case3 branch branches _ ih => rw [captures, ih, List.flatMap_cons]

theorem flatten_runs (es : List Expr) : (runs es).flatten = es := by
  fun_induction runs es with
  | case1 => rfl
  | _ => simp_all

/-- What two lists of runs have in common is at the front of the first one. -/
theorem commonPart_front (s t : List (List Expr)) : commonPart s t <+: s := by
  fun_induction commonPart s t with
  | case1 => simp_all
  | _ => exact List.nil_prefix

theorem foldl_commonPart_front (first : List (List Expr)) (others : List (List (List Expr))) :
    others.foldl commonPart first <+: first := by
  induction others generalizing first with
  | nil => exact List.prefix_rfl
  | cons other others ih => exact (ih _).trans (commonPart_front first other)

theorem captures_flatten_subset {s t : List (List Expr)} (h : s ⊆ t) :
    s.flatten.flatMap captures ⊆ t.flatten.flatMap captures := by
  intro c
  simp only [List.mem_flatMap, List.mem_flatten]
  exact fun ⟨e, ⟨run, hrun, he⟩, hc⟩ => ⟨e, ⟨run, h hrun, he⟩, hc⟩

/-- The groups of what is taken out of branches, and those of the rests, are groups of the
branches. -/
theorem captures_lift {bs shared rests : List Expr} (h : lift? bs = some (shared, rests)) :
    shared.flatMap captures ⊆ bs.flatMap captures ∧
      rests.flatMap captures ⊆ bs.flatMap captures := by
  unfold lift? at h
  split at h
  · cases h
  next first others hbranches =>
  -- a branch is still all of its runs
  have hbranch : ∀ branch ∈ first :: others,
      branch.flatten.flatMap captures ⊆ bs.flatMap captures := by
    rw [← hbranches]
    intro branch hmem c hc
    obtain ⟨b, hb, rfl⟩ := List.mem_map.1 hmem
    rw [flatten_runs, captures_items] at hc
    exact List.mem_flatMap.2 ⟨b, hb, hc⟩
  dsimp only at h
  split at h
  · cases h
  cases h
  constructor
  · have hshared := (foldl_commonPart_front first others).subset
    exact List.Subset.trans (captures_flatten_subset hshared) (hbranch first List.mem_cons_self)
  · intro c hc
    obtain ⟨rest, hrest, hc⟩ := List.mem_flatMap.1 hc
    obtain ⟨branch, hmem, rfl⟩ := List.mem_map.1 hrest
    rw [captures_sequence] at hc
    exact hbranch branch hmem (captures_flatten_subset (List.drop_subset _ _) hc)

/-- Taking out what branches have in common adds no group, however often it is done. -/
theorem captures_choiceIn (rounds : Nat) (bs : List Expr) :
    (choiceIn rounds bs).captures ⊆ bs.flatMap captures := by
  induction rounds generalizing bs with
  | zero =>
    rw [choiceIn, captures_ofBranches]
    exact List.Subset.refl _
  | succ rounds ih =>
    unfold choiceIn
    split
    · rw [List.flatMap_singleton]
      exact List.Subset.refl _
    split
    · exact List.nil_subset _
    split
    · next shared rests hlift =>
      -- the rests are branches once more, with one round less to go
      obtain ⟨hshared, hrests⟩ := captures_lift hlift
      rw [captures_sequence, List.flatMap_append, List.flatMap_singleton, List.append_subset]
      refine ⟨hshared, List.Subset.trans (ih _) ?_⟩
      rw [List.flatMap_assoc]
      simpa only [captures_branches] using hrests
    · rw [captures_ofBranches]
      exact List.Subset.refl _

/-- The simple form of an alternation adds no group. -/
theorem captures_choice (es : List Expr) : (choice es).captures ⊆ es.flatMap captures := by
  refine List.Subset.trans (captures_choiceIn _ _) ?_
  rw [List.flatMap_assoc]
  simp only [captures_branches]
  exact List.Subset.refl _

/-- The simple form of a repetition adds no group, but may drop some. -/
theorem captures_repetition (low : Nat) (high : Option Nat) (greedy : Bool) (body : Expr) :
    (repetition low high greedy body).captures ⊆ body.captures := by
  unfold repetition
  -- the bounds may be changed, but the body is not
  generalize (if body.onlyEmpty then _ else _ : Nat × Option Nat) = bounds
  dsimp only
  split
  · exact List.nil_subset _
  split <;> exact List.Subset.refl _

/-- The last group of an expression is one of its groups. -/
theorem lastGroup_le {e : Expr} {n : Nat} (h : ∀ c ∈ e.captures, c.1 ≤ n) : e.lastGroup ≤ n := by
  induction e with
  | empty | one | look => exact Nat.zero_le n
  | cat a b iha ihb | alt a b iha ihb =>
    rw [captures, List.forall_mem_append] at h
    exact Nat.max_le.2 ⟨iha h.1, ihb h.2⟩
  | loop low high greedy body ih => exact ih h
  | capture index name body ih =>
    rw [captures, List.forall_mem_cons] at h
    exact Nat.max_le.2 ⟨h.1, ih h.2⟩

/-- The named groups are among the groups. -/
theorem mem_captures_of_groupNames {e : Expr} {name : String} {index : Nat}
    (h : (name, index) ∈ e.groupNames) : (index, some name) ∈ e.captures := by
  induction e with
  | empty | one | look => cases h
  | cat a b iha ihb | alt a b iha ihb =>
    rw [groupNames, List.mem_append] at h
    exact List.mem_append.2 (h.imp iha ihb)
  | loop low high greedy body ih => exact ih h
  | capture group given body ih =>
    rw [groupNames, List.mem_append] at h
    rcases h with hname | hbody
    · cases given with
      | none => cases hname
      | some given =>
        cases List.mem_singleton.1 hname
        exact List.mem_cons_self
    · exact List.mem_cons_of_mem _ (ih hbody)

end Expr

/-! ### From patterns to expressions -/

mutual

/-- An expression has no other groups than the pattern that it is made of. -/
theorem yields_lowered : ∀ ast : Ast, Yields ast.lowered fun e => e.captures ⊆ ast.captures
  | .empty => yields_pure (List.nil_subset _)
  | .flags _ => .after _ fun _ => yields_pure (List.nil_subset _)
  | .literal _ | .dot | .shorthand _ _ | .property _ _ | .bracketed _ _ => by
    unfold Ast.lowered Lowering.one
    exact .after _ fun _ => .after _ fun _ => yields_pure (List.nil_subset _)
  | .anchor _ => .after _ fun _ => yields_pure (List.nil_subset _)
  | .repetition low high greedy body => (yields_lowered body).bind fun _ he =>
    .after _ fun _ => yields_pure (List.Subset.trans (Expr.captures_repetition _ _ _ _) he)
  | .group (.plain _) body => .after _ fun _ => .after _ fun _ =>
    (yields_lowered body).bind fun _ he => .after _ fun _ => yields_pure he
  | .group (.capture _ _) body => .after _ fun _ =>
    (yields_lowered body).bind fun _ he => .after _ fun _ =>
      yields_pure (List.cons_subset_cons _ he)
  | .alternation branches => (yields_loweredAll branches).bind fun es hes =>
    yields_pure (List.Subset.trans (Expr.captures_choice es) hes)
  | .concatenation items => (yields_loweredAll items).bind fun _ hes =>
    yields_pure (by rwa [Expr.captures_sequence])

theorem yields_loweredAll : ∀ asts : List Ast, Yields (Ast.loweredAll asts) fun es =>
    es.flatMap Expr.captures ⊆ Ast.capturesOfAll asts
  | [] => yields_pure (List.nil_subset _)
  | ast :: asts => (yields_lowered ast).bind fun _ he =>
    (yields_loweredAll asts).bind fun _ hes => yields_pure <| List.append_subset.2
      ⟨List.subset_append_of_subset_left _ he, List.subset_append_of_subset_right _ hes⟩

end

/-- A pattern becomes an expression with no other groups. -/
theorem captures_toExpr {ast : Ast} {e : Expr} (h : ast.toExpr = .ok e) :
    e.captures ⊆ ast.captures := by
  obtain ⟨⟨e', o⟩, hlowered, hrun⟩ := bind_eq_ok.1 h
  cases hrun
  exact yields_lowered ast _ _ _ hlowered

/-- A pattern compiles to as many groups as it may have, with names as they start. -/
theorem captured_of_compile {source : String} {regex : Regex}
    (h : compile source = .ok regex) :
    regex.groups ≤ maxGroups ∧ ∀ name index, (name, index) ∈ regex.names → StartsName name := by
  obtain ⟨ast, hparse, h⟩ := bind_eq_ok.1 h
  obtain ⟨e, hexpr, h⟩ := bind_eq_ok.1 h
  have he : ∀ c ∈ e.captures, Captured c := fun c hc =>
    captured_of_parse hparse c (captures_toExpr hexpr hc)
  dsimp only at h
  split at h
  · cases h
  · cases h
    exact ⟨Expr.lastGroup_le fun c hc => (he c hc).number, fun name index hname =>
      (he _ (Expr.mem_captures_of_groupNames hname)).name name rfl⟩

end CommandTemplate.Regex
