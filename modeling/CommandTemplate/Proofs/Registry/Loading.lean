import CommandTemplate.Proofs.Registry.Lines
import CommandTemplate.Proofs.Text.Names
import Mathlib.Data.Set.Card

/-!
What a registry holds after it was filled any number of times.

A registry is filled from lines or from settings, and each time its commands take the place of
those that it held.  `Holds` says what a registry holds in terms of lines alone: for each name
the command of the last line that defines one of this name.  A further line changes what is found
under the name of its command, if it defines one, and nothing else (`lookup_ofLines_append`), from
which `holds_ofLines` follows.  Filling is then a step on registries, and of any sequence of such
steps only the last one counts.
-/

namespace CommandTemplate.Registry

variable {line name : String}

/-! ### The command of a line -/

/-- Does a line define a command with a name? -/
def IsNamed (line name : String) : Prop :=
  ∃ raw t, Defines line name raw t

/-- The command of a line, if it has this name. -/
def commandNamed? (name line : String) : Option Command :=
  ((commandOf? line).filter (·.1 = name)).map (·.2)

/-- The command of a line is the one that it defines. -/
theorem commandNamed?_eq_some {command : Command} :
    commandNamed? name line = some command ↔
      ∃ raw t, Defines line name raw t ∧ command = ⟨some name, raw, .ok t⟩ := by
  rw [← commandOf?_eq_some]
  simp [commandNamed?, Option.filter_eq_some_iff]

/-- A line has no command of a name unless it defines one. -/
theorem commandNamed?_eq_none : commandNamed? name line = none ↔ ¬ IsNamed line name := by
  rw [Option.eq_none_iff_forall_ne_some]
  constructor
  · rintro h ⟨raw, t, hdefines⟩
    exact h _ (commandNamed?_eq_some.2 ⟨raw, t, hdefines, rfl⟩)
  · intro h command hcommand
    obtain ⟨raw, t, hdefines, -⟩ := commandNamed?_eq_some.1 hcommand
    exact h ⟨raw, t, hdefines⟩

/-- A line defines a command if and only if one is read from it. -/
theorem isNamed_iff : IsNamed line name ↔ ∃ command, commandOf? line = some (name, command) := by
  constructor
  · rintro ⟨raw, t, hdefines⟩
    exact ⟨_, commandOf?_eq_some.2 ⟨raw, t, hdefines, rfl⟩⟩
  · rintro ⟨command, hcommand⟩
    obtain ⟨raw, t, hdefines, -⟩ := commandOf?_eq_some.1 hcommand
    exact ⟨raw, t, hdefines⟩

theorem commandOf?_eq_none (h : ∀ name, ¬ IsNamed line name) : commandOf? line = none := by
  rw [Option.eq_none_iff_forall_ne_some]
  exact fun entry hentry => h entry.1 (isNamed_iff.2 ⟨entry.2, hentry⟩)

/-! ### Adding a command -/

/-- Taking out all commands but those of some names leaves what is found under these. -/
theorem lookup_filter (p : String → Bool) (name : String) (r : Registry) :
    (r.filter fun entry => p entry.1).lookup name = if p name then r.lookup name else none := by
  induction r with
  | nil => simp
  | cons entry r ih =>
    obtain ⟨other, command⟩ := entry
    rw [List.filter_cons]
    by_cases hname : name = other
    · subst hname
      cases hp : p name <;> simp [hp, ih]
    · have hbeq : (name == other) = false := beq_eq_false_iff_ne.2 hname
      cases p other <;> simp [hbeq, List.lookup_cons, ih]

/-- A command takes the place of the one with its name, and of no other. -/
theorem lookup_insert (r : Registry) (entry : String × Command) (name : String) :
    (r.insert entry).lookup name = if name = entry.1 then some entry.2 else r.lookup name := by
  rw [insert, List.lookup_cons, lookup_filter (fun other => other ≠ entry.1)]
  by_cases h : name = entry.1
  · simp [h]
  · have hbeq : (name == entry.1) = false := beq_eq_false_iff_ne.2 h
    simp [h, hbeq]

/-- No two commands have one name. -/
theorem nodup_insert {r : Registry} (h : (r.map (·.1)).Nodup) (entry : String × Command) :
    ((r.insert entry).map (·.1)).Nodup := by
  rw [insert, List.map_cons, List.nodup_cons]
  refine ⟨?_, h.sublist (List.filter_sublist.map _)⟩
  simp

/-! ### One more line -/

/-- A line adds the command that it defines. -/
theorem ofLines_append (lines : List String) (line : String) :
    ofLines (lines ++ [line]) =
      match commandOf? line with
      | none => ofLines lines
      | some entry => (ofLines lines).insert entry := by
  rw [ofLines, List.filterMap_append, List.foldl_append]
  cases h : commandOf? line <;> simp [h, ofLines]

/-- One more line changes what is found under the name of its command only. -/
theorem lookup_ofLines_append (lines : List String) (line name : String) :
    (ofLines (lines ++ [line])).lookup name =
      (commandNamed? name line).or ((ofLines lines).lookup name) := by
  rw [ofLines_append, commandNamed?]
  cases commandOf? line with
  | none => rfl
  | some entry =>
    dsimp only
    rw [lookup_insert, Option.filter_some]
    by_cases h : entry.1 = name
    · simp [h]
    · simp [h, Ne.symm h]

/-- What is found under a name comes from the last line with a command of this name. -/
theorem lookup_ofLines (lines : List String) (name : String) :
    (ofLines lines).lookup name = lines.reverse.findSome? (commandNamed? name) := by
  -- Lines are added at the end, where the last one takes the place of those before it.
  induction lines using List.reverseRecOn with
  | nil => rfl
  | append_singleton lines line ih =>
    rw [lookup_ofLines_append, List.reverse_append, List.reverse_singleton, List.singleton_append,
      List.findSome?_cons, ih]
    cases commandNamed? name line <;> rfl

theorem nodup_ofLines (lines : List String) : ((ofLines lines).map (·.1)).Nodup := by
  induction lines using List.reverseRecOn with
  | nil => exact .nil
  | append_singleton lines line ih =>
    rw [ofLines_append]
    split
    · exact ih
    · exact nodup_insert ih _

/-! ### What lines define -/

/-- How many different names the commands of some lines have. -/
noncomputable def nameCount (lines : List String) : Nat :=
  {name | ∃ line ∈ lines, IsNamed line name}.ncard

/-- Does a registry hold the commands that lines define, and nothing else? -/
structure Holds (r : Registry) (lines : List String) : Prop where
  /-- Under a name there is the command of the last line with one of this name. -/
  find?_eq_some : ∀ query command, r.find? query = some command ↔
    ∃ before line after raw t, lines = before ++ line :: after ∧
      Defines line (normalName query) raw t ∧
      (∀ other ∈ after, ¬ IsNamed other (normalName query)) ∧
      command = ⟨some (normalName query), raw, .ok t⟩
  find?_eq_none : ∀ query, r.find? query = none ↔ ∀ line ∈ lines, ¬ IsNamed line (normalName query)
  /-- A line that defines no command may as well be missing. -/
  eq_of_undefined : ∀ before line after, lines = before ++ line :: after →
    (∀ name, ¬ IsNamed line name) → r = ofLines (before ++ after)
  length_eq : r.length = nameCount lines
  mem_names : ∀ name, name ∈ r.names ↔ ∃ line ∈ lines, IsNamed line name
  ascending : r.names.Pairwise (· < ·)

/-- A command that is found comes from the last line that defines one of its name. -/
theorem find?_ofLines_eq_some {lines : List String} {query : String} {command : Command} :
    (ofLines lines).find? query = some command ↔
      ∃ before line after raw t, lines = before ++ line :: after ∧
        Defines line (normalName query) raw t ∧
        (∀ other ∈ after, ¬ IsNamed other (normalName query)) ∧
        command = ⟨some (normalName query), raw, .ok t⟩ := by
  rw [find?, lookup_ofLines, List.findSome?_eq_some_iff]
  constructor
  · rintro ⟨after, line, before, hlines, hline, hafter⟩
    obtain ⟨raw, t, hdefines, rfl⟩ := commandNamed?_eq_some.1 hline
    refine ⟨before.reverse, line, after.reverse, raw, t, ?_, hdefines, ?_, rfl⟩
    · rw [← List.reverse_reverse lines, hlines]; simp
    · exact fun other hmem => commandNamed?_eq_none.1 (hafter other (List.mem_reverse.1 hmem))
  · rintro ⟨before, line, after, raw, t, rfl, hdefines, hafter, rfl⟩
    refine ⟨after.reverse, line, before.reverse, by simp,
      commandNamed?_eq_some.2 ⟨raw, t, hdefines, rfl⟩, ?_⟩
    exact fun other hmem => commandNamed?_eq_none.2 (hafter other (List.mem_reverse.1 hmem))

theorem find?_ofLines_eq_none {lines : List String} {query : String} :
    (ofLines lines).find? query = none ↔ ∀ line ∈ lines, ¬ IsNamed line (normalName query) := by
  simp [find?, lookup_ofLines, commandNamed?_eq_none]

/-- The names of a registry are those of its lines. -/
theorem mem_map_ofLines {lines : List String} :
    name ∈ (ofLines lines).map (·.1) ↔ ∃ line ∈ lines, IsNamed line name := by
  constructor
  · intro h
    obtain ⟨⟨_, command⟩, hmem, rfl⟩ := List.mem_map.1 h
    obtain ⟨line, hline, hcommand⟩ := mem_ofLines hmem
    exact ⟨line, hline, isNamed_iff.2 ⟨command, hcommand⟩⟩
  · rintro ⟨line, hline, hnamed⟩
    cases h : (ofLines lines).lookup name with
    | none =>
      rw [lookup_ofLines, List.findSome?_eq_none_iff] at h
      exact absurd hnamed (commandNamed?_eq_none.1 (h line (List.mem_reverse.2 hline)))
    | some command =>
      obtain ⟨before, after, h, -⟩ := List.lookup_eq_some_iff.1 h
      rw [h]
      simp

/-- There is one command for each name. -/
theorem length_ofLines (lines : List String) : (ofLines lines).length = nameCount lines := by
  -- the names of commands are those of lines, and none occurs twice
  have hnames : {name | ∃ line ∈ lines, IsNamed line name} =
      ((ofLines lines).map (·.1)).toFinset := by
    ext name
    rw [List.coe_toFinset]
    exact mem_map_ofLines.symm
  rw [nameCount, hnames, Set.ncard_coe_finset, List.toFinset_card_of_nodup (nodup_ofLines lines),
    List.length_map]

/-- Lines make a registry that holds what they define. -/
theorem holds_ofLines (lines : List String) : Holds (ofLines lines) lines where
  find?_eq_some _ _ := find?_ofLines_eq_some
  find?_eq_none _ := find?_ofLines_eq_none
  eq_of_undefined := by
    rintro before line after rfl h
    simp [ofLines, commandOf?_eq_none h]
  length_eq := length_ofLines lines
  mem_names _ := Text.mem_ascending.trans mem_map_ofLines
  ascending := Text.pairwise_ascending _

/-! ### Filling registries -/

/-- The lines of a source; settings need not list any. -/
def Source.lines : Source → List String
  | .given lines => lines
  | .listed settings =>
    match settings settingName with
    | some (.list lines) => lines
    | _ => []

/-- Filling a registry makes it one of the lines of the source, whatever it held. -/
theorem load_run (source : Source) (r : Registry) :
    (load source).run r = (nameCount source.lines, ofLines source.lines) := by
  rw [← length_ofLines]
  cases source with
  | given lines => rfl
  | listed settings =>
    have hsettings : ofSettings settings = ofLines (Source.listed settings).lines := by
      rw [ofSettings, Source.lines]
      rcases settings settingName with _ | _ | _ | _ | _ <;> rfl
    rw [← hsettings]
    rfl

/-- Only the last filling of a registry counts, and each one tells how many different names the
commands of its lines have. -/
theorem holds_load (r : Registry) (earlier : List Source) (last : Source) :
    ∃ held, ((earlier ++ [last]).mapM load).run r =
      ((earlier ++ [last]).map (nameCount ·.lines), held) ∧ Holds held last.lines := by
  refine ⟨ofLines last.lines, ?_, holds_ofLines _⟩
  induction earlier generalizing r with
  | nil =>
    rw [List.nil_append, List.mapM_cons, StateT.run_bind, load_run]
    rfl
  | cons first others ih =>
    rw [List.cons_append, List.mapM_cons, StateT.run_bind, load_run]
    exact congrArg (fun p : List Nat × Registry => (nameCount first.lines :: p.1, p.2)) (ih _)

end CommandTemplate.Registry
