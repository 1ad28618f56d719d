import CommandTemplate.Proofs.Registry.Loading
import CommandTemplate.Proofs.Template.Completeness
import CommandTemplate.Proofs.Text.Casing

/-!
Which commands are found under their own names.

The names of a registry are normal, but making a normal name normal once more may change it: the
blanks around a name go first and the slashes after them, so blanks between a slash and the name
stay, and they go the second time.  This is all that can change (`normalName_normalName`), since
lower case leaves its own images alone.
-/

namespace CommandTemplate.Registry

open Text

theorem toList_normalName (name : String) :
    (normalName name).toList = lowerChars ((trimChars name.toList).dropWhile (· == '/')) := by
  simp [normalName, lower, trimStartOf, trim]

theorem isSettled_of_mem_normalName {name : String} :
    ∀ c ∈ (normalName name).toList, IsSettled c := by
  rw [toList_normalName]
  exact isSettled_of_mem_lowerAfter

/-- A normal name does not end with a blank. -/
theorem not_isBlank_of_mem_getLast?_normalName {name : String} {c : Char}
    (h : c ∈ (normalName name).toList.getLast?) : isBlank c = false := by
  rw [toList_normalName] at h
  rcases of_mem_getLast?_lowerAfter h with h | h
  · exact h.not_isBlank
  · apply not_isBlank_of_mem_getLast? (s := name.toList)
    rw [← List.takeWhile_append_dropWhile (p := (· == '/')) (l := trimChars name.toList),
      List.getLast?_append, h]
    rfl

/-- A normal name does not start with a slash. -/
theorem ne_slash_of_mem_head?_normalName {name : String} {c : Char}
    (h : c ∈ (normalName name).toList.head?) : c ≠ '/' := by
  rw [toList_normalName] at h
  rcases of_mem_head?_lowerAfter h with h | h
  · exact h.ne_slash
  · have hstop := List.head?_dropWhile_not (· == '/') (trimChars name.toList)
    rw [h] at hstop
    simpa using hstop

/-- In a normal name only its blanks and slashes can change. -/
theorem toList_normalName_normalName (name : String) :
    (normalName (normalName name)).toList =
      (trimChars (normalName name).toList).dropWhile (· == '/') := by
  rw [toList_normalName (normalName name)]
  exact lowerAfter_eq_self (fun c hc => isSettled_of_mem_normalName c
    ((trimChars_sublist _).mem ((List.dropWhile_sublist _).mem hc))) _

/-- A normal name stays as it is unless it starts with a blank. -/
theorem normalName_normalName {name : String} :
    normalName (normalName name) = normalName name ↔
      ∀ c ∈ (normalName name).toList.head?, isBlank c = false := by
  rw [← String.toList_inj, toList_normalName_normalName]
  constructor
  · intro h c hc
    rw [← Bool.not_eq_true]
    intro hblank
    obtain ⟨rest, hrest⟩ := List.head?_eq_some_iff.1 hc
    rw [hrest, trimChars_cons_of_isBlank hblank] at h
    -- The blank is gone, so what is left is shorter.
    have hlength := ((List.dropWhile_sublist (· == '/')).trans (trimChars_sublist rest)).length_le
    rw [h, List.length_cons] at hlength
    omega
  · intro h
    rw [trimChars_eq_self_of_ends h fun c => not_isBlank_of_mem_getLast?_normalName]
    cases hchars : (normalName name).toList with
    | nil => rfl
    | cons c rest =>
      have hslash : c ≠ '/' :=
        ne_slash_of_mem_head?_normalName (hchars ▸ rfl : c ∈ (normalName name).toList.head?)
      rw [List.dropWhile_cons_of_neg (by simpa using hslash)]

/-- A command is found under its own name unless the name starts with a blank. -/
theorem find?_self_iff {lines : List String} {name : String} (h : name ∈ (ofLines lines).names) :
    (∃ command, (ofLines lines).find? name = some command ∧ command.name = some name) ↔
      ∀ c ∈ name.toList.head?, isBlank c = false := by
  obtain ⟨line, hline, hnamed⟩ := ((holds_ofLines lines).mem_names name).1 h
  obtain ⟨front, -, -, rfl⟩ : ∃ front, _ := hnamed.choose_spec.choose_spec.written
  rw [← normalName_normalName]
  constructor
  · -- What is found has the name that it is looked up by, which is the name made normal again.
    rintro ⟨command, hfind, hname⟩
    obtain ⟨_, _, _, _, _, _, _, _, rfl⟩ := find?_ofLines_eq_some.1 hfind
    exact Option.some.inj hname
  · intro hself
    cases hfind : (ofLines lines).find? (normalName front) with
    | none => exact absurd (hself.symm ▸ hnamed) (find?_ofLines_eq_none.1 hfind line hline)
    | some command =>
      obtain ⟨_, _, _, _, _, _, _, _, rfl⟩ := find?_ofLines_eq_some.1 hfind
      exact ⟨_, rfl, congrArg some hself⟩

theorem find?_self_hello :
    "hello" ∈ (ofLines ["/Hello Hi"]).names ∧
      ∃ command, (ofLines ["/Hello Hi"]).find? "hello" = some command ∧
        command.name = some "hello" := by
  have hparse : Template.parse "Hi" = .ok [.literal "Hi"] :=
    Template.parse_of_reads (.text rfl (by decide))
  have hdefines : Defines "/Hello Hi" "hello" "Hi" [.literal "Hi"] :=
    ⟨⟨"/Hello", by decide +kernel, by decide +kernel, by decide +kernel⟩, by decide, hparse⟩
  have hmem : "hello" ∈ (ofLines ["/Hello Hi"]).names :=
    ((holds_ofLines _).mem_names _).2 ⟨_, List.mem_singleton_self _, _, _, hdefines⟩
  refine ⟨hmem, (find?_self_iff hmem).2 fun c hc => ?_⟩
  obtain rfl : 'h' = c := by simpa using hc
  rfl

/-- A tab behind the slash is part of the name, under which there is nothing to be found. -/
theorem find?_self_eq_none :
    "\tfoo" ∈ (ofLines ["/\tfoo hi"]).names ∧ (ofLines ["/\tfoo hi"]).find? "\tfoo" = none := by
  have hparse : Template.parse "hi" = .ok [.literal "hi"] :=
    Template.parse_of_reads (.text rfl (by decide))
  have hdefines : Defines "/\tfoo hi" "\tfoo" "hi" [.literal "hi"] :=
    ⟨⟨"/\tfoo", by decide +kernel, by decide +kernel, by decide +kernel⟩, by decide, hparse⟩
  refine ⟨((holds_ofLines _).mem_names _).2 ⟨_, List.mem_singleton_self _, _, _, hdefines⟩,
    find?_ofLines_eq_none.2 fun line hline hnamed => ?_⟩
  obtain rfl := List.mem_singleton.1 hline
  -- The line defines one command only, whose name is not the normal one.
  obtain ⟨command, hcommand⟩ := isNamed_iff.1 hnamed
  rw [commandOf?_eq_some.2 ⟨_, _, hdefines, rfl⟩] at hcommand
  have hname : normalName "\tfoo" ≠ "\tfoo" := by decide +kernel
  exact hname (Prod.mk.inj (Option.some.inj hcommand)).1.symm

end CommandTemplate.Registry
