import CommandTemplate.Json.PathParser
import CommandTemplate.Proofs.Number.Integer
import CommandTemplate.Proofs.Outcome
import CommandTemplate.Proofs.Text.Blank
import CommandTemplate.Proofs.Text.Brackets
import CommandTemplate.Proofs.Text.Pieces

/-!
Writing paths into JSON values.

`Path.print` writes a path so that it can be read again: the characters of a key are escaped, all
other steps stand in brackets, and an arrow stands between two steps.  `Path.read_print` says that
the path is read back.

What stands in the brackets of a selection is looked at three times: for the bracket that closes
it, for the condition at its end, and for its path.  `closing?_append` and `condition_append` say
that the first two pass over all that is balanced in the same way, so that both leave the written
path to the third.
-/

namespace CommandTemplate

/-- A pattern is made again of its source, since it has compiled before. -/
theorem Pattern.ofSource_source (pattern : Pattern) :
    Pattern.ofSource pattern.source = .ok pattern := by
  unfold Pattern.ofSource
  split
  · next regex h => exact congrArg Except.ok (eq_of_source rfl)
  · next fault h => cases pattern.compiles.symm.trans h

namespace Json

open Text (Scanner Balanced Nests bracketed)
open Text.Scanner (After)

/-! ### What is written -/

/-- What stands in front of the path of a selection. -/
def Selection.front : Selection → String
  | .filter => "filter:"
  | .collect => "collect:"
  | .combine => "combine:"

/-- What stands behind the path of a selection. -/
def conditionText : Option Pattern → List Char
  | none => []
  | some pattern => '=' :: pattern.source.toList

mutual

def Step.print : Step → List Char
  | .key name => if name = "" then bracketed [] else escapedText name.toList
  | .index place => bracketed (toString place).toList
  | .last => bracketed "last".toList
  | .size => bracketed "size".toList
  | .unique => bracketed "unique".toList
  | .join delimiter => bracketed ("join:".toList ++ delimiter.toList)
  | .select mode path pattern =>
    bracketed (mode.front.toList ++ (Step.printAll path ++ conditionText pattern))

/-- Steps with arrows between them. -/
def Step.printAll : List Step → List Char
  | [] => []
  | [step] => step.print
  | step :: next :: path => step.print ++ '-' :: '>' :: Step.printAll (next :: path)

end

/-- A path as it is written. -/
def Path.print (path : Path) : String :=
  String.ofList (Step.printAll path)

/-- A step that can be written: places have 64 bits, and what is written without escapes is
balanced. -/
inductive Step.Printable : Step → Prop
  | key (name : String) : Printable (.key name)
  | index {place : Int} : Number.fitsSigned place = true → Printable (.index place)
  | last : Printable .last
  | size : Printable .size
  | unique : Printable .unique
  | join {delimiter : String} : Balanced delimiter.toList → Printable (.join delimiter)
  | select {mode : Selection} {path : Path} {pattern : Option Pattern} :
    (∀ step ∈ path, Printable step) → (∀ p ∈ pattern, Balanced p.source.toList) →
    Printable (.select mode path pattern)

/-- A path that can be written. -/
def Path.Printable (path : Path) : Prop :=
  ∀ step ∈ path, step.Printable

/-! ### Brackets and conditions -/

variable {d e : Nat} {s : List Char}

/-- The bracket that closes is looked for behind a text that leaves as many open. -/
theorem closing?_append (h : Nests d s e) (t : List Char) :
    closing? d (s ++ t) = (closing? e t).map fun (inner, rest) => (s ++ inner, rest) := by
  -- the cases are those of `closing?`
  induction h with
  | nil => simp
  | escape c _ ih | opening _ ih | closing _ ih =>
    simp only [List.cons_append, closing?, ih, Option.map_map, Function.comp_def]
  | other h₁ h₂ h₃ _ ih =>
    rw [List.cons_append, closing?, ih, Option.map_map]
    · rfl
    all_goals simp_all

theorem closing?_bracketed (h : Balanced s) (t : List Char) :
    closing? 0 (s ++ ']' :: t) = some (s, t) := by
  rw [closing?_append h]
  simp [closing?]

/-- Inside of brackets there is no condition. -/
theorem condition_append (h : Nests d s e) (t : List Char) :
    condition (d + 1) (s ++ t) =
      (s ++ (condition (e + 1) t).1, (condition (e + 1) t).2) := by
  induction h with
  | nil => rfl
  | escape c _ ih => simp only [List.cons_append, condition, ih]
  | opening _ ih => simp [condition, ih]
  | closing _ ih => simp [condition, ih]
  | other h₁ h₂ h₃ _ ih => simp [condition, h₁, h₂, h₃, ih]

/-- The condition is looked for behind a text, for it holds none itself. -/
def Passes (s : List Char) : Prop :=
  ∀ t, condition 0 (s ++ t) = (s ++ (condition 0 t).1, (condition 0 t).2)

theorem Passes.append {t : List Char} (hs : Passes s) (ht : Passes t) : Passes (s ++ t) := by
  intro u
  rw [List.append_assoc, hs, ht, List.append_assoc]

/-- Brackets hide what looks like a condition. -/
theorem passes_bracketed (h : Balanced s) : Passes (bracketed s) := by
  intro t
  have hinner := condition_append h (']' :: t)
  simp [bracketed, condition, hinner]

/-- A backslash hides it as well. -/
theorem passes_escapedText (text : List Char) : Passes (escapedText text) := by
  intro t
  induction text with
  | nil => rfl
  | cons c text ih =>
    show condition 0 ('\\' :: c :: (escapedText text ++ t)) = _
    rw [condition, ih]
    rfl

theorem passes_arrow : Passes ['-', '>'] := by
  intro t
  simp [condition]

/-! ### Steps in brackets -/

/-- All selections start with one of two letters. -/
theorem selection?_eq_none {c : Char} (hf : c ≠ 'f') (hc : c ≠ 'c') :
    selection? (c :: s) = none := by
  simp [selection?, Text.dropFront?, hf.symm, hc.symm]

theorem selection?_join (s : List Char) : selection? ("join:".toList ++ s) = none := by
  simp [selection?, Text.dropFront?]

/-- A selection is known by what stands in front of its path. -/
theorem selection?_front (mode : Selection) (s : List Char) :
    selection? (mode.front.toList ++ s) = some (mode, mode.front.length, s) := by
  cases mode <;> simp [selection?, Selection.front, Text.dropFront?]

/-- What is no selection is a step of one word. -/
theorem ofBracket_of_none {p : Nat} (h : selection? s = none) :
    Step.ofBracket s p = .ok (simpleStep s) := by
  rw [Step.ofBracket]
  split
  · rfl
  · next hsome => cases h.symm.trans hsome

/-- A number in brackets is a place. -/
theorem simpleStep_index {place : Int} (h : Number.fitsSigned place = true) :
    simpleStep (toString place).toList = .index place := by
  have hblank : ∀ c ∈ (toString place).toList, Text.isBlank c = false := by
    intro c hc
    rcases Number.of_mem_toString hc with rfl | hc
    · decide
    · exact Text.isBlank_of_isDigit hc
  rw [simpleStep, Text.trimChars_eq_self hblank, Number.readSigned?_toString h]

/-- The delimiter is all that stands behind the colon. -/
theorem simpleStep_join (delimiter : String) :
    simpleStep ("join:".toList ++ delimiter.toList) = .join delimiter := by
  have hnumber :
      Number.readSigned? (Text.trimChars ("join:".toList ++ delimiter.toList)) = none := by
    obtain ⟨t, ht⟩ :=
      Text.exists_trimChars_cons (c := 'j') (s := "oin:".toList ++ delimiter.toList) rfl
    exact (congrArg Number.readSigned? ht).trans
      (Number.readSigned?_eq_none (by decide) (by decide) (by decide))
  have hfront : Text.stripFront? "join:" (String.ofList ("join:".toList ++ delimiter.toList)) =
      some delimiter := by
    rw [Text.stripFront?, String.toList_ofList, String.toList_ofList, Text.dropFront?_append]
    exact congrArg some String.ofList_toList
  have hne (name : String) (h : name.toList.head? ≠ some 'j') :
      String.ofList ("join:".toList ++ delimiter.toList) ≠ name := by
    rintro rfl
    rw [String.toList_ofList] at h
    exact h rfl
  rw [simpleStep, hnumber]
  dsimp only
  split
  · next h => exact absurd h (hne _ (by decide))
  · next h => exact absurd h (hne _ (by decide))
  · next h => exact absurd h (hne _ (by decide))
  · rw [hfront]

/-- The pattern of a condition is read back, or there is none. -/
theorem readPattern_source (pattern : Option Pattern) (p : Nat) :
    readPattern (pattern.map fun pattern => pattern.source.toList) p = .ok pattern := by
  cases pattern with
  | none => rfl
  | some pattern =>
    simp only [readPattern, Option.map_some, String.ofList_toList, pattern.ofSource_source]

/-- A selection is read if its path is. -/
theorem ofBracket_select {mode : Selection} {path : Path} {pattern : Option Pattern}
    {text : List Char} (htext : Passes text)
    (hpath : ∀ p, ∃ u, Gives (Path.read [] ⟨text, p⟩) path u) (p : Nat) :
    Step.ofBracket (mode.front.toList ++ (text ++ conditionText pattern)) p =
      .ok (.select mode path pattern) := by
  have hcondition : condition 0 (text ++ conditionText pattern) =
      (text, pattern.map fun pattern => pattern.source.toList) := by
    rw [htext]
    cases pattern <;> simp [conditionText, condition]
  have hread : ∃ t, Path.read [] ⟨(condition 0 (text ++ conditionText pattern)).1,
      p + mode.front.length⟩ = .ok (path, t) := by
    rw [hcondition]
    obtain ⟨u, t, ht, -⟩ := hpath (p + mode.front.length)
    exact ⟨t, ht⟩
  obtain ⟨t, ht⟩ := hread
  rw [Step.ofBracket]
  split
  · next hnone => cases (selection?_front mode _).symm.trans hnone
  · next mode' width text' hsome =>
    cases (selection?_front mode _).symm.trans hsome
    refine bind_eq_ok.2 ⟨_, ht, bind_eq_ok.2 ⟨pattern, ?_, rfl⟩⟩
    rw [hcondition, readPattern_source]

/-! ### Keys -/

/-- Is a text at its end or at an arrow? -/
def AtArrow (rest : List Char) : Prop :=
  rest = [] ∨ ∃ s, rest = '-' :: '>' :: s

variable {stops rest : List Char}

/-- A key is read back where nothing but the end or an arrow follows. -/
theorem keyRest_escapedText (h : '\\' ∉ stops) (hrest : AtArrow rest) (text : List Char) (p : Nat) :
    ∃ t, keyRest stops (escapedText text ++ rest) p = (text, t) ∧
      t.1 = ⟨rest, p + 2 * text.length⟩ := by
  induction text generalizing p with
  | nil =>
    rcases hrest with rfl | ⟨s, rfl⟩
    · exact ⟨_, rfl, rfl⟩
    · refine ⟨.none _, ?_, rfl⟩
      show keyRest stops ('-' :: '>' :: s) p = _
      rw [keyRest, if_pos (.inr (.inr ⟨rfl, rfl⟩))]
      · rfl
      · nofun
  | cons c text ih =>
    obtain ⟨t, ht, htail⟩ := ih (p + 2)
    refine ⟨t.behind.behind, ?_, htail.trans ?_⟩
    -- the backslash and the character behind it are read at once
    · show keyRest stops ('\\' :: c :: (escapedText text ++ rest)) p = _
      rw [keyRest, if_neg h]
      simp only [ht]
      rfl
    · rw [List.length_cons]
      congr 1
      omega

/-! ### Paths -/

/-- A path is read from a whole text, wherever it begins. -/
def PathReads (stops text : List Char) (path : Path) : Prop :=
  ∀ p, ∃ q, Gives (Path.read stops ⟨text, p⟩) path ⟨[], q⟩

theorem pathReads_nil (stops : List Char) : PathReads stops [] [] := by
  intro p
  rw [Path.read]
  exact ⟨p, _, rfl, rfl⟩

section

variable {path : Path}

/-- An arrow in front of a path is passed over. -/
theorem pathReads_arrow (h : '-' ∉ stops) (hpath : PathReads stops rest path) :
    PathReads stops ('-' :: '>' :: rest) path := by
  intro p
  obtain ⟨q, ⟨_, _⟩, hread, rfl⟩ := hpath (p + 2)
  rw [Path.read, if_neg h]
  exact ⟨q, gives_bind hread ⟨_, rfl, rfl⟩⟩

/-- A step in brackets is read in front of the rest of its path. -/
theorem pathReads_bracketed {step : Step} {inner : List Char} (h : '[' ∉ stops)
    (hinner : Balanced inner) (hstep : ∀ p, Step.ofBracket inner p = .ok step)
    (hpath : PathReads stops rest path) :
    PathReads stops (bracketed inner ++ rest) (step :: path) := by
  intro p
  obtain ⟨q, ⟨_, _⟩, hread, rfl⟩ := hpath (p + 1 + inner.length + 1)
  have hclosing := closing?_bracketed hinner rest
  show ∃ q, Gives (Path.read stops ⟨'[' :: (inner ++ [']'] ++ rest), p⟩) _ ⟨[], q⟩
  rw [List.append_assoc, Path.read, if_neg h]
  dsimp only
  split
  · next hnone => cases hclosing.symm.trans hnone
  · next hsome =>
    cases hclosing.symm.trans hsome
    exact ⟨q, gives_bind (hstep (p + 1)) (gives_bind hread ⟨_, rfl, rfl⟩)⟩

/-- A key is read in front of the rest of its path if an arrow or nothing stands behind it. -/
theorem pathReads_key {name : String} (h : '\\' ∉ stops) (hrest : AtArrow rest) (hname : name ≠ "")
    (hpath : PathReads stops rest path) :
    PathReads stops (escapedText name.toList ++ rest) (.key name :: path) := by
  intro p
  cases htext : name.toList with
  | nil => exact absurd (by simpa using htext) hname
  | cons c text =>
    obtain ⟨⟨_, _⟩, ht, rfl⟩ := keyRest_escapedText h hrest text (p + 2)
    obtain ⟨q, ⟨_, _⟩, hread, rfl⟩ := hpath (p + 2 + 2 * text.length)
    have hkey : readKey stops '\\' (c :: (escapedText text ++ rest)) (p + 1) =
        (name, After.behind ⟨⟨rest, p + 2 + 2 * text.length⟩, by assumption⟩) := by
      rw [readKey, if_pos rfl]
      simp only [ht, ← htext, String.ofList_toList]
    show ∃ q, Gives (Path.read stops ⟨'\\' :: c :: (escapedText text ++ rest), p⟩) _ ⟨[], q⟩
    rw [Path.read, if_neg h, hkey]
    · exact ⟨q, gives_bind hread ⟨_, rfl, rfl⟩⟩
    all_goals simp

end

/-! ### Steps -/

/-- A step is written as the characters of a key or in brackets, out of which it can be read. -/
inductive Step.Written : Step → Prop
  | key {name : String} : name ≠ "" → Written (.key name)
  | bracketed {step : Step} {inner : List Char} : step.print = bracketed inner →
    Balanced inner → (∀ p, Step.ofBracket inner p = .ok step) → Written step

/-- What is written behind the first step of a path. -/
def Path.printTail : Path → List Char
  | [] => []
  | step :: path => '-' :: '>' :: Step.printAll (step :: path)

/-- All steps but the first one stand behind an arrow. -/
theorem printAll_cons (step : Step) (path : Path) :
    Step.printAll (step :: path) = step.print ++ Path.printTail path := by
  cases path <;> simp [Step.printAll, Path.printTail]

theorem atArrow_printTail (path : Path) : AtArrow path.printTail := by
  cases path with
  | nil => exact .inl rfl
  | cons step path => exact .inr ⟨_, rfl⟩

theorem print_key {name : String} (h : name ≠ "") :
    (Step.key name).print = escapedText name.toList := by
  rw [Step.print, if_neg h]

/-- What holds of all steps and of the arrow, and of texts put together if it holds of both. -/
theorem printAll_of_forall {Good : List Char → Prop} {path : Path} (hnil : Good [])
    (happend : ∀ {s t}, Good s → Good t → Good (s ++ t)) (harrow : Good ['-', '>'])
    (h : ∀ step ∈ path, Good step.print) : Good (Step.printAll path) := by
  induction path with
  | nil => exact hnil
  | cons step path ih =>
    obtain ⟨hstep, hpath⟩ := List.forall_mem_cons.1 h
    rw [printAll_cons]
    refine happend hstep ?_
    cases path with
    | nil => exact hnil
    | cons next path => exact happend harrow (ih hpath)

theorem Step.Written.balanced {step : Step} (h : step.Written) : Balanced step.print := by
  cases h with
  | key hname => exact print_key hname ▸ Text.balanced_escapedText _
  | bracketed hprint hinner => exact hprint ▸ hinner.bracketed

/-- The condition is looked for behind a written step. -/
theorem Step.Written.passes {step : Step} (h : step.Written) : Passes step.print := by
  cases h with
  | key hname => exact print_key hname ▸ passes_escapedText _
  | bracketed hprint hinner => exact hprint ▸ passes_bracketed hinner

section

variable {path : Path} (h : ∀ step ∈ path, step.Written)
include h

/-- A written path may stand in brackets. -/
theorem balanced_printAll : Balanced (Step.printAll path) :=
  printAll_of_forall (.nil 0) Balanced.append (.of_forall (by simp)) fun step hstep =>
    (h step hstep).balanced

theorem passes_printAll : Passes (Step.printAll path) :=
  printAll_of_forall (fun _ => rfl) Passes.append passes_arrow fun step hstep =>
    (h step hstep).passes

/-- A written path is read back step by step. -/
theorem pathReads_printAll (hstops : ∀ c ∈ stops, c ≠ '\\' ∧ c ≠ '[' ∧ c ≠ '-') :
    PathReads stops (Step.printAll path) path := by
  have hescape : '\\' ∉ stops := fun hc => (hstops _ hc).1 rfl
  have hbracket : '[' ∉ stops := fun hc => (hstops _ hc).2.1 rfl
  have harrow : '-' ∉ stops := fun hc => (hstops _ hc).2.2 rfl
  induction path with
  | nil => exact pathReads_nil stops
  | cons step path ih =>
    obtain ⟨hstep, hpath⟩ := List.forall_mem_cons.1 h
    -- what follows the step is nothing, or an arrow and the rest of the path
    have htail : PathReads stops (Path.printTail path) path := by
      cases path with
      | nil => exact pathReads_nil stops
      | cons next path => exact pathReads_arrow harrow (ih hpath)
    rw [printAll_cons]
    cases hstep with
    | key hname =>
      rw [print_key hname]
      exact pathReads_key hescape (atArrow_printTail path) hname htail
    | bracketed hprint hinner hread =>
      rw [hprint]
      exact pathReads_bracketed hbracket hinner hread htail

end

/-! ### Print, then read -/

/-- A number has neither brackets nor backslashes. -/
theorem balanced_toString (place : Int) : Balanced (toString place).toList := by
  refine .of_forall fun c hc => ?_
  rcases Number.of_mem_toString hc with rfl | hc
  · decide
  · refine ⟨?_, ?_, ?_⟩ <;> rintro rfl <;> cases hc

theorem selection?_toString (place : Int) : selection? (toString place).toList = none := by
  cases hplace : (toString place).toList with
  | nil => rfl
  | cons c s =>
    have hc := Number.of_mem_toString (hplace ▸ List.mem_cons_self : c ∈ (toString place).toList)
    refine selection?_eq_none ?_ ?_ <;> rintro rfl <;> simp at hc

/-- A condition is balanced if its pattern is. -/
theorem balanced_conditionText {pattern : Option Pattern}
    (h : ∀ p ∈ pattern, Balanced p.source.toList) : Balanced (conditionText pattern) := by
  cases pattern with
  | none => exact .nil 0
  | some pattern => exact .other (by decide) (by decide) (by decide) (h pattern rfl)

/-- The induction is on how selections lie in one another. -/
theorem Step.Printable.written {step : Step} (h : step.Printable) : step.Written := by
  induction h with
  | key name =>
    -- a key without characters is written as empty brackets
    by_cases hname : name = ""
    · subst hname
      exact .bracketed rfl (.nil 0) fun p => ofBracket_of_none rfl
    · exact .key hname
  | index hplace =>
    refine .bracketed rfl (balanced_toString _) fun p => ?_
    rw [ofBracket_of_none (selection?_toString _), simpleStep_index hplace]
  | last => exact .bracketed rfl (.of_forall (by simp)) fun p => ofBracket_of_none rfl
  | size => exact .bracketed rfl (.of_forall (by simp)) fun p => ofBracket_of_none rfl
  | unique => exact .bracketed rfl (.of_forall (by simp)) fun p => ofBracket_of_none rfl
  | join hdelimiter =>
    refine .bracketed rfl (.append (.of_forall (by simp)) hdelimiter) fun p => ?_
    rw [ofBracket_of_none (selection?_join _), simpleStep_join]
  | @select mode path pattern _ hpattern ih =>
    refine .bracketed rfl ?_ (ofBracket_select (passes_printAll ih) fun p => ?_)
    · have hfront : Balanced mode.front.toList := by
        cases mode <;> exact .of_forall (by simp [Selection.front])
      exact hfront.append ((balanced_printAll ih).append (balanced_conditionText hpattern))
    · have hstops : ∀ c ∈ ([] : List Char), c ≠ '\\' ∧ c ≠ '[' ∧ c ≠ '-' := nofun
      obtain ⟨q, hq⟩ := pathReads_printAll ih hstops p
      exact ⟨_, hq⟩

/-- A path is read back where it is written, up to the end of the text, also where it is an argument
of a template. -/
theorem Path.read_print {path : Path} (h : path.Printable) {stops : List Char}
    (hstops : stops = [] ∨ stops = [',', ')']) :
    Gives (Path.read stops (.ofString path.print)) path ⟨[], path.print.length⟩ := by
  have hstops' : ∀ c ∈ stops, c ≠ '\\' ∧ c ≠ '[' ∧ c ≠ '-' := by
    rcases hstops with rfl | rfl <;> simp
  have hwritten : ∀ step ∈ path, step.Written := fun step hstep => (h step hstep).written
  obtain ⟨q, v, hread, hv⟩ := pathReads_printAll hwritten hstops' 0
  have hposition : q = path.print.length := by
    have := v.2.position_add
    rw [hv] at this
    simpa [print] using this
  rw [Scanner.ofString, print, String.toList_ofList]
  exact ⟨v, hread, hv.trans (congrArg _ hposition)⟩

/-- Written as `\a\>->[filter:\=->[collect:[-1]->[]]=^[=]$]->[join:[,]]`, with brackets and equal
signs at each depth. -/
theorem Path.read_print_selections :
    ∃ (path : Path) (pattern : Pattern), pattern.source = "^[=]$" ∧
      path = [.key "a>", .select .filter [.key "=", .select .collect [.index (-1), .key ""] none]
        (some pattern), .join "[,]"] ∧
      Gives (Path.read [',', ')'] (.ofString path.print)) path ⟨[], path.print.length⟩ := by
  have hcompiles : (Regex.compile "^[=]$").isOk = true := by decide +kernel
  cases hregex : Regex.compile "^[=]$" with
  | error fault => rw [hregex] at hcompiles; cases hcompiles
  | ok regex =>
    have hsource : Balanced (['^'] ++ (bracketed ['='] ++ ['$'])) :=
      .append (.of_forall (by simp))
        (.append (.bracketed (.of_forall (by simp))) (.of_forall (by simp)))
    have hinner : Step.Printable (.select .collect [.index (-1), .key ""] none) :=
      .select (by simpa using ⟨.index (by decide), .key _⟩) nofun
    have houter : Step.Printable (.select .filter
        [.key "=", .select .collect [.index (-1), .key ""] none] (some ⟨"^[=]$", regex, hregex⟩)) :=
      .select (by simpa using ⟨.key _, hinner⟩) (by simpa [bracketed] using hsource)
    have hjoin : Step.Printable (.join "[,]") :=
      .join (Balanced.bracketed (s := [',']) (.of_forall (by simp)))
    exact ⟨_, ⟨"^[=]$", regex, hregex⟩, rfl, rfl,
      read_print (by simpa [Path.Printable] using ⟨.key _, houter, hjoin⟩) (.inr rfl)⟩

end Json

end CommandTemplate
