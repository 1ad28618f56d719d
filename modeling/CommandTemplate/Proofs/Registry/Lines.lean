import CommandTemplate.Registry
import Mathlib.Data.List.TakeDrop
import Mathlib.Data.List.TakeWhile

/-!
Commands and the lines that define them.

`Defines` says which command a line defines, without saying how it is read (`commandOf?_eq_some`).
A command of a registry comes from one of its lines (`mem_ofLines`), so its template is one that
was parsed (`parse_of_mem_ofLines`).
-/

namespace CommandTemplate.Registry

/-- Does a line define a command with a name, a text and its template? -/
structure Defines (line name raw : String) (t : Template) : Prop where
  written : ∃ front, Text.trim line = front ++ " " ++ raw ∧ ' ' ∉ front.toList ∧
    normalName front = name
  named : name ≠ ""
  parsed : Template.parse raw = .ok t

/-- The text of a command follows the first space of its line. -/
theorem splitLine?_eq_some {line front raw : String} :
    splitLine? line = some (front, raw) ↔
      Text.trim line = front ++ " " ++ raw ∧ ' ' ∉ front.toList := by
  rw [splitLine?, Text.splitOnce?, List.span_eq_takeWhile_dropWhile, ← String.toList_inj]
  generalize (Text.trim line).toList = s
  constructor
  · intro h
    -- the front is the longest one without a space
    have hparts := List.takeWhile_append_dropWhile (p := (· != ' ')) (l := s)
    have hstop := List.head?_dropWhile_not (· != ' ') s
    cases hd : s.dropWhile (· != ' ') with
    | nil => rw [hd] at h; cases h
    | cons c after =>
      rw [hd] at h hparts hstop
      cases h
      obtain rfl : c = ' ' := by simpa using hstop
      exact ⟨by simpa using hparts.symm, fun hmem =>
        absurd (List.mem_takeWhile_imp (String.toList_ofList ▸ hmem)) (by simp)⟩
  · rintro ⟨rfl, hfront⟩
    have hpass : ∀ c ∈ front.toList, (c != ' ') = true := fun c hc => by
      rw [bne_iff_ne]; rintro rfl; exact hfront hc
    rw [String.toList_append, String.toList_append, List.append_assoc,
      List.takeWhile_append_of_pos hpass, List.dropWhile_append_of_pos hpass]
    simp

/-- The command that is read from a line is the one that it defines. -/
theorem commandOf?_eq_some {line name : String} {command : Command} :
    commandOf? line = some (name, command) ↔
      ∃ raw t, Defines line name raw t ∧ command = ⟨some name, raw, .ok t⟩ := by
  constructor
  · intro h
    simp only [commandOf?, Option.bind_eq_bind, Option.bind_eq_some_iff] at h
    obtain ⟨⟨front, raw⟩, hsplit, h⟩ := h
    obtain ⟨hline, hfront⟩ := splitLine?_eq_some.1 hsplit
    split at h
    · cases h
    next hne =>
    cases hparse : Template.parse raw with
    | error e => simp [Command.parse, hparse, Command.error?] at h
    | ok t =>
      obtain ⟨rfl, rfl⟩ : normalName front = name ∧
          ⟨some (normalName front), raw, .ok t⟩ = command := by
        simpa [Command.parse, hparse, Command.error?] using h
      exact ⟨raw, t, ⟨⟨front, hline, hfront, rfl⟩, hne, hparse⟩, rfl⟩
  · rintro ⟨raw, t, ⟨⟨front, hline, hfront, rfl⟩, hne, hparse⟩, rfl⟩
    simp [commandOf?, splitLine?_eq_some.2 ⟨hline, hfront⟩, hne, Command.parse, hparse,
      Command.error?]

/-- What is found is in the registry under its normal name. -/
theorem mem_of_find? {r : Registry} {name : String} {command : Command}
    (h : r.find? name = some command) : (normalName name, command) ∈ r := by
  obtain ⟨before, after, rfl, -⟩ := List.lookup_eq_some_iff.1 h
  simp

section

variable {line name raw : String} {t : Template} (hsplit : splitLine? line = some (name, raw))
  (hname : normalName name = name) (hne : name ≠ "") (hparse : Template.parse raw = .ok t)
include hsplit hname hne hparse

theorem commandOf?_eq : commandOf? line = some (name, ⟨some name, raw, .ok t⟩) := by
  simp [commandOf?, hsplit, hname, hne, Command.parse, hparse, Command.error?]

theorem ofLines_singleton : ofLines [line] = [(name, ⟨some name, raw, .ok t⟩)] := by
  rw [ofLines, List.filterMap_cons_some (commandOf?_eq hsplit hname hne hparse)]
  rfl

end

/-- What is in a registry was there before or has been added. -/
theorem mem_of_mem_insert {r : Registry} {entry other : String × Command}
    (h : other ∈ r.insert entry) : other = entry ∨ other ∈ r := by
  rcases List.mem_cons.1 h with rfl | h
  · exact .inl rfl
  · exact .inr (List.mem_filter.1 h).1

/-- A command comes from one of the lines. -/
theorem mem_ofLines {lines : List String} {entry : String × Command} (h : entry ∈ ofLines lines) :
    ∃ line ∈ lines, commandOf? line = some entry := by
  have hfold {entries : List (String × Command)} {r : Registry}
      (h : entry ∈ entries.foldl insert r) : entry ∈ entries ∨ entry ∈ r := by
    induction entries generalizing r with
    | nil => exact .inr h
    | cons first others ih =>
      rcases ih h with h | h
      · exact .inl (List.mem_cons_of_mem first h)
      · rcases mem_of_mem_insert h with rfl | h
        · exact .inl List.mem_cons_self
        · exact .inr h
  rcases hfold h with h | h
  · exact List.mem_filterMap.1 h
  · cases h

/-- The command of a line is read from a part of it. -/
theorem exists_parse_of_commandOf? {line : String} {entry : String × Command}
    (h : commandOf? line = some entry) :
    ∃ name raw, entry = (name, Command.parse (some name) raw) := by
  simp only [commandOf?, Option.bind_eq_bind, Option.bind_eq_some_iff] at h
  obtain ⟨⟨name, raw⟩, -, h⟩ := h
  split at h
  · cases h
  · split at h
    · cases h
    · exact ⟨_, raw, (Option.some.inj h).symm⟩

/-- The template of a command was parsed from its text. -/
theorem parse_of_mem_ofLines {lines : List String} {entry : String × Command} {t : Template}
    (h : entry ∈ ofLines lines) (ht : entry.2.template? = some t) :
    ∃ raw, Template.parse raw = .ok t := by
  obtain ⟨line, -, hline⟩ := mem_ofLines h
  obtain ⟨name, raw, rfl⟩ := exists_parse_of_commandOf? hline
  refine ⟨raw, ?_⟩
  rw [Command.template?, Command.parse] at ht
  cases hparse : Template.parse raw with
  | error fault => rw [hparse] at ht; cases ht
  | ok t' => rw [hparse] at ht; exact congrArg _ (Option.some.inj ht)

end CommandTemplate.Registry
