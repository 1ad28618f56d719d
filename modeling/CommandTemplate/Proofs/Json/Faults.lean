import CommandTemplate.Proofs.Json.Printing
import CommandTemplate.Proofs.Text.Places

/-!
What can be wrong with a path, and where.

A path has two faults: a pattern that does not compile, which begins behind a `=`, and a bracket
that is not closed before the end (`Path.FaultIn`, `Path.faultIn_of_read`).  The second one is never
found inside of brackets: what stands there is balanced (`nests_of_closing?`), and so is what stands
in front of a condition (`nests_condition`).  The faults inside are found in copies of parts of the
text; the copy begins at the place where the part does (`Scanner.StandsIn`), so that places need no
correction on the way out.
-/

namespace CommandTemplate.Json

open Text (Balanced Nests PrecededBy Scanner)
open Text.Scanner (After LeadsTo StandsIn)

/-! ### Balanced parts -/

section

variable {d : Nat} {s inner rest : List Char}

/-- What stands before the bracket that closes leaves no bracket open. -/
theorem nests_of_closing? (h : closing? d s = some (inner, rest)) : Nests d inner 0 := by
  fun_induction closing? d s generalizing inner rest with
  | case1 => cases h
  | case2 depth c s ih =>
    obtain ⟨⟨i, r⟩, hi, hr⟩ := Option.map_eq_some_iff.1 h
    cases hr
    exact .escape c (ih hi)
  | case3 depth s ih =>
    obtain ⟨⟨i, r⟩, hi, hr⟩ := Option.map_eq_some_iff.1 h
    cases hr
    exact .opening (ih hi)
  | case4 => cases h; exact .nil 0
  | case5 depth s ih =>
    obtain ⟨⟨i, r⟩, hi, hr⟩ := Option.map_eq_some_iff.1 h
    cases hr
    exact .closing (ih hi)
  | case6 depth c s hescape hopening hzero hsucc ih =>
    obtain ⟨⟨i, r⟩, hi, hr⟩ := Option.map_eq_some_iff.1 h
    cases hr
    refine .other ?_ hopening ?_ (ih hi)
    · -- a backslash at the end would leave nothing to close the bracket
      rintro rfl
      cases s with
      | nil => cases hi
      | cons c s => exact hescape c s rfl rfl
    · rintro rfl
      cases depth with
      | zero => exact hzero rfl rfl
      | succ depth => exact hsucc depth rfl rfl

/-- The bracket that closes is there if a text closes one bracket more than it opens, and what
follows it is balanced. -/
theorem exists_closing? : ∀ {d : Nat} {s : List Char}, Nests (d + 1) s 0 →
    ∃ inner rest, closing? d s = some (inner, rest) ∧ Balanced rest
  | _, _, .escape c h => by
    obtain ⟨inner, rest, h, hrest⟩ := exists_closing? h
    exact ⟨'\\' :: c :: inner, rest, by rw [closing?, h]; rfl, hrest⟩
  | _, _, .opening h => by
    obtain ⟨inner, rest, h, hrest⟩ := exists_closing? h
    exact ⟨'[' :: inner, rest, by rw [closing?, h]; rfl, hrest⟩
  | 0, _, .closing h => ⟨[], _, rfl, h⟩
  | _ + 1, _, .closing h => by
    obtain ⟨inner, rest, h, hrest⟩ := exists_closing? h
    exact ⟨']' :: inner, rest, by rw [closing?, h]; rfl, hrest⟩
  | d, _, .other (c := c) (s := s) h₁ h₂ h₃ h => by
    obtain ⟨inner, rest, h, hrest⟩ := exists_closing? h
    refine ⟨c :: inner, rest, ?_, hrest⟩
    rw [closing?, h]
    · rfl
    all_goals simp_all

/-- In a balanced text a bracket at the front is closed. -/
theorem exists_closing?_of_balanced {s : List Char} (h : Balanced ('[' :: s)) :
    ∃ inner rest, closing? 0 s = some (inner, rest) ∧ Balanced rest := by
  cases h with
  | opening h => exact exists_closing? h
  | other _ h => exact absurd rfl h

/-- What stands in front of a condition closes what the whole closes. -/
theorem nests_condition : ∀ {d : Nat} {s : List Char}, Nests d s 0 → Nests d (condition d s).1 0
  | _, _, .nil _ => .nil 0
  | _, _, .escape c h => by
    rw [condition]
    exact .escape c (nests_condition h)
  | d, _, .opening (s := s) h => by
    have hcondition : (condition d ('[' :: s)).1 = '[' :: (condition (d + 1) s).1 := by
      rw [condition] <;> simp
    rw [hcondition]
    exact .opening (nests_condition h)
  | d + 1, _, .closing (s := s) h => by
    have hcondition : (condition (d + 1) (']' :: s)).1 = ']' :: (condition d s).1 := by
      rw [condition] <;> simp
    rw [hcondition]
    exact .closing (nests_condition h)
  | d, _, .other (c := c) (s := s) h₁ h₂ h₃ h => by
    by_cases hc : d = 0 ∧ c = '='
    · obtain ⟨rfl, rfl⟩ := hc
      exact .nil 0
    · have hcondition : (condition d (c :: s)).1 = c :: (condition d s).1 := by
        rw [condition] <;> simp_all
      rw [hcondition]
      exact .other h₁ h₂ h₃ (nests_condition h)

/-- A text is what stands in front of its condition, with the condition if there is one. -/
theorem eq_of_condition (d : Nat) (s : List Char) :
    s = (condition d s).1 ++ ((condition d s).2.elim [] ('=' :: ·)) := by
  fun_induction condition d s with
  | case1 => rfl
  | case2 depth c s path pattern hcondition ih =>
    rw [hcondition] at ih
    exact congrArg ('\\' :: c :: ·) ih
  | case3 s => rfl
  | case4 depth c s _ _ _ path pattern hcondition ih =>
    rw [hcondition] at ih
    exact congrArg (c :: ·) ih

/-- A key passes over no bracket that closes one in front of it. -/
theorem balanced_keyRest (stops : List Char) {p : Nat} (h : Balanced s) :
    Balanced (keyRest stops s p).2.1.rest := by
  fun_induction keyRest stops s p with
  | case1 | case2 => exact h
  | case3 => cases h with
    | other h => exact absurd rfl h
  | case4 p hstop c rest key t hkey ih =>
    rw [hkey] at ih
    cases h with
    | escape _ h => exact ih h
    | other h => exact absurd rfl h
  | case5 => exact h
  | case6 c rest p hescape hend key t hkey ih =>
    rw [hkey] at ih
    exact ih (h.tail hescape fun hc => hend (.inr (.inl hc)))

/-- What follows a key is balanced if the key does not start at a bracket. -/
theorem balanced_readKey (stops : List Char) {c : Char} {p : Nat} (h : Balanced (c :: rest))
    (hc : c ≠ '[') : Balanced (readKey stops c rest p).2.1.rest := by
  unfold readKey
  split
  · next hescape =>
    subst hescape
    cases h with
    | escape d h => exact balanced_keyRest stops h
    | other h => exact absurd rfl h
  · next hescape => exact balanced_keyRest stops (h.tail hescape hc)

end

/-! ### Steps and paths -/

/-- A fault of a path in a text that is found in what a scanner has left: a pattern that does not
compile, or a bracket that is open at the end. -/
inductive Path.FaultIn (text : List Char) (s : Scanner) : ParseError → Prop
  | pattern {fault : Regex.Error} {p : Nat} :
    PrecededBy text '=' p → FaultIn text s ⟨.invalidPattern fault, p⟩
  | bracket : ¬ Balanced s.rest → FaultIn text s ⟨.expected ']', s.position + s.rest.length⟩

section

variable {text after : List Char} {s t : Scanner} {e : ParseError}

/-- A fault behind a part of a path is one of the path. -/
theorem Path.FaultIn.of_leadsTo (h : FaultIn text t e) (hst : LeadsTo s t)
    (hbalanced : Balanced s.rest → Balanced t.rest) : FaultIn text s e := by
  cases h with
  | pattern h => exact .pattern h
  | bracket h =>
    rw [hst.position_add]
    exact .bracket fun hs => h (hbalanced hs)

/-- The only fault of a condition is a pattern that does not compile. -/
theorem faultIn_of_readPattern {source : Option (List Char)} {p : Nat}
    (h : readPattern source p = .error e) :
    source.isSome ∧ ∃ fault, e = ⟨.invalidPattern fault, p⟩ := by
  unfold readPattern at h
  split at h
  · cases h
  · split at h
    · cases h
    · next fault _ =>
      cases h
      exact ⟨rfl, fault, rfl⟩

/-- The text of a selection is what follows its name. -/
theorem eq_of_selection? {inner rest : List Char} {mode : Selection} {width : Nat}
    (h : selection? inner = some (mode, width, rest)) :
    inner = mode.front.toList ++ rest ∧ width = mode.front.length := by
  obtain ⟨⟨front, mode'⟩, hentry, h⟩ := List.exists_of_findSome?_eq_some h
  obtain ⟨rest', hrest, hx⟩ := Option.map_eq_some_iff.1 h
  cases hx
  have hfront : front = mode.front := by
    simp only [List.mem_cons, Prod.mk.injEq, List.not_mem_nil, or_false] at hentry
    rcases hentry with ⟨rfl, rfl⟩ | ⟨rfl, rfl⟩ | ⟨rfl, rfl⟩ <;> rfl
  exact hfront ▸ ⟨Text.eq_of_dropFront? hrest, rfl⟩

/-- No front of a selection has brackets in it. -/
theorem Selection.plain_front (mode : Selection) :
    ∀ c ∈ mode.front.toList, c ≠ '\\' ∧ c ≠ '[' ∧ c ≠ ']' := by
  cases mode <;> simp [Selection.front]

end

/-- Paths of fewer than `n` characters in a text have no other faults. -/
def FaultsBelow (text : List Char) (n : Nat) : Prop :=
  ∀ {after stops : List Char} {s : Scanner} {e : ParseError}, s.rest.length < n →
    StandsIn text after s → Path.read stops s = .error e → Path.FaultIn text s e

/-- Only patterns are at fault in brackets. -/
theorem Step.fault_of_ofBracket {text after inner : List Char} {n p : Nat} {e : ParseError}
    (ih : FaultsBelow text n) (hn : inner.length < n) (hin : StandsIn text after ⟨inner, p⟩)
    (hinner : Balanced inner) (h : Step.ofBracket inner p = .error e) :
    ∃ fault place, e = ⟨.invalidPattern fault, place⟩ ∧ PrecededBy text '=' place := by
  unfold Step.ofBracket at h
  split at h
  · cases h
  · next mode width rest hselection =>
    obtain ⟨rfl, rfl⟩ := eq_of_selection? hselection
    have hrest := hin.behind
    have hbalanced := nests_condition (hinner.of_append mode.plain_front)
    have hlength := length_condition_le 0 rest
    rw [eq_of_condition 0 rest] at hrest
    rw [List.length_append] at hn
    -- the path in the brackets is balanced, so no bracket of it is open
    rcases bind_eq_error.1 h with h | ⟨⟨path, t⟩, -, h⟩
    · have hfault := ih (by dsimp only; omega) hrest.front h
      cases hfault with
      | pattern hplace => exact ⟨_, _, rfl, hplace⟩
      | bracket hopen => exact absurd hbalanced hopen
    · obtain ⟨hsome, fault, rfl⟩ := faultIn_of_readPattern (error_of_bind h fun _ => ⟨_, rfl⟩)
      obtain ⟨source, hsource⟩ := Option.isSome_iff_exists.1 hsome
      rw [hsource] at hrest
      exact ⟨fault, _, rfl, hrest.behind.precededBy⟩

/-- Steps and paths of any length have their faults where they are said to be. -/
theorem faultsBelow (text : List Char) (n : Nat) : FaultsBelow text n := by
  induction n with
  | zero => exact fun hn => absurd hn (Nat.not_lt_zero _)
  | succ n ih =>
    intro after stops s e hn hin h
    unfold Path.read at h
    split at h
    · cases h
    · -- an arrow
      next rest p =>
      split at h
      · cases h
      simp only [List.length_cons] at hn
      have h := error_of_bind h fun _ => ⟨_, rfl⟩
      refine (ih (by dsimp only; omega) hin.tail.tail h).of_leadsTo (.step (.step (.refl _))) ?_
      exact fun h => (h.tail (by decide) (by decide)).tail (by decide) (by decide)
    · -- a bracket, which is closed or not
      next rest p =>
      split at h
      · cases h
      split at h
      · next hnone =>
        cases h
        rw [Nat.add_assoc, Nat.add_comm 1]
        refine .bracket fun hs => ?_
        obtain ⟨inner, after, hsome, -⟩ := exists_closing?_of_balanced hs
        cases hnone.symm.trans hsome
      · next inner rest' hsome =>
        obtain rfl := eq_of_closing? hsome
        simp only [List.length_cons, List.length_append] at hn
        rcases bind_eq_error.1 h with h | ⟨step, -, h⟩
        · obtain ⟨fault, place, rfl, hplace⟩ := Step.fault_of_ofBracket ih (by omega)
            hin.tail.front (nests_of_closing? hsome) h
          exact .pattern hplace
        have h := error_of_bind h fun _ => ⟨_, rfl⟩
        refine (ih (by dsimp only; omega) hin.tail.behind.tail h).of_leadsTo
          (.step (.append _ _)) fun hs => ?_
        obtain ⟨_, _, hsome', hafter⟩ := exists_closing?_of_balanced hs
        cases hsome.symm.trans hsome'
        exact hafter
    · -- a key
      next c rest p _ hbracket =>
      split at h
      · cases h
      have hmoved := (readKey stops c rest (p + 1)).2.2
      have hlength := hmoved.length_le
      simp only [List.length_cons] at hn hlength
      have h := error_of_bind h fun _ => ⟨_, rfl⟩
      refine (ih (by omega) (hin.tail.of_leadsTo hmoved) h).of_leadsTo (.step hmoved) ?_
      exact fun hs => balanced_readKey stops hs hbracket

/-- A fault of a path lies in the text from which it is read. -/
theorem Path.faultIn_of_read {text after stops : List Char} {s : Scanner} {e : ParseError}
    (hin : StandsIn text after s) (h : Path.read stops s = .error e) : FaultIn text s e :=
  faultsBelow text (s.rest.length + 1) (Nat.lt_succ_self _) hin h

end CommandTemplate.Json
