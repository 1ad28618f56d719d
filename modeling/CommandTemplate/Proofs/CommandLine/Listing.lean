import CommandTemplate.CommandLine.Action
import CommandTemplate.Proofs.Registry.Lines
import CommandTemplate.Proofs.Template.Completeness

/-!
What `list` tells about the lines of a configuration.

A line defines a command, or it is blank, or it has one of three flaws (`HasFlaw`): there is no
template behind the name, there is no name, or there is something wrong with the template.  Loading
skips the lines with a flaw.  Then `list` reads all lines once more to tell of them, but it looks at
the templates only: `list_ofSettings` says that it tells of no line that was loaded, and that it is
silent about the first two flaws.
-/

namespace CommandTemplate

namespace Registry

/-! ### Flaws -/

/-- What can be wrong with a line. -/
inductive Flaw where
  | noTemplate
  | noName
  | badTemplate (name : String) (e : ParseError)

/-- Does a line have a flaw?  A bad template counts where there is no name, too. -/
inductive HasFlaw (line : String) : Flaw → Prop
  | noTemplate : Text.trim line ≠ "" → ' ' ∉ (Text.trim line).toList → HasFlaw line .noTemplate
  | noName {front raw : String} {t : Template} : Text.trim line = front ++ " " ++ raw →
    ' ' ∉ front.toList → normalName front = "" → Template.parse raw = .ok t → HasFlaw line .noName
  | badTemplate {front raw : String} {e : ParseError} : Text.trim line = front ++ " " ++ raw →
    ' ' ∉ front.toList → Template.parse raw = .error e → HasFlaw line (.badTemplate front e)

variable {line front raw : String} {flaw : Flaw}

/-- A line is not split if it has no space but at its ends. -/
theorem splitLine?_eq_none : splitLine? line = none ↔ ' ' ∉ (Text.trim line).toList := by
  constructor
  · intro h hmem
    obtain ⟨front, raw, hline, hfront⟩ := List.eq_append_cons_of_mem hmem
    have hsplit : splitLine? line = some (.ofList front, .ofList raw) :=
      splitLine?_eq_some.2 ⟨by rw [← String.toList_inj, hline]; simp, by simpa using hfront⟩
    cases h.symm.trans hsplit
  · intro h
    cases hsplit : splitLine? line with
    | none => rfl
    | some parts =>
      rw [(splitLine?_eq_some.1 hsplit).1] at h
      simp at h

/-- The flaw of such a line is that it has no template. -/
theorem HasFlaw.of_splitLine?_eq_none (h : HasFlaw line flaw) (hsplit : splitLine? line = none) :
    flaw = .noTemplate := by
  cases h with
  | noTemplate => rfl
  | noName hline hfront => cases hsplit.symm.trans (splitLine?_eq_some.2 ⟨hline, hfront⟩)
  | badTemplate hline hfront => cases hsplit.symm.trans (splitLine?_eq_some.2 ⟨hline, hfront⟩)

/-- A line that is split has a flaw in its name or in its template. -/
theorem HasFlaw.of_splitLine?_eq_some (h : HasFlaw line flaw)
    (hsplit : splitLine? line = some (front, raw)) :
    (normalName front = "" ∧ flaw = .noName ∧ ∃ t, Template.parse raw = .ok t) ∨
      ∃ e, flaw = .badTemplate front e ∧ Template.parse raw = .error e := by
  cases h with
  | noTemplate _ hspace => cases hsplit.symm.trans (splitLine?_eq_none.2 hspace)
  | noName hline hfront hname hparse =>
    cases hsplit.symm.trans (splitLine?_eq_some.2 ⟨hline, hfront⟩)
    exact .inl ⟨hname, rfl, _, hparse⟩
  | badTemplate hline hfront hparse =>
    cases hsplit.symm.trans (splitLine?_eq_some.2 ⟨hline, hfront⟩)
    exact .inr ⟨_, rfl, hparse⟩

/-- A line with a flaw defines no command. -/
theorem HasFlaw.commandOf?_eq_none (h : HasFlaw line flaw) : commandOf? line = none := by
  rw [Option.eq_none_iff_forall_ne_some]
  rintro ⟨name, command⟩ hcommand
  obtain ⟨raw, t, ⟨⟨front, hline, hfront, hname⟩, hne, hparse⟩, -⟩ := commandOf?_eq_some.1 hcommand
  obtain ⟨hnone, -⟩ | ⟨e, -, he⟩ := h.of_splitLine?_eq_some (splitLine?_eq_some.2 ⟨hline, hfront⟩)
  · exact hne (hname.symm.trans hnone)
  · cases hparse.symm.trans he

/-- A line that is not blank and defines no command has a flaw, and no other one. -/
theorem existsUnique_flaw (h : commandOf? line = none) (hline : Text.trim line ≠ "") :
    ∃ flaw, HasFlaw line flaw ∧ ∀ other, HasFlaw line other → other = flaw := by
  cases hsplit : splitLine? line with
  | none =>
    exact ⟨_, .noTemplate hline (splitLine?_eq_none.1 hsplit), fun _ hother =>
      hother.of_splitLine?_eq_none hsplit⟩
  | some parts =>
    obtain ⟨front, raw⟩ := parts
    obtain ⟨hwritten, hfront⟩ := splitLine?_eq_some.1 hsplit
    cases hparse : Template.parse raw with
    | error e =>
      refine ⟨_, .badTemplate hwritten hfront hparse, fun _ hother => ?_⟩
      obtain ⟨-, -, t, ht⟩ | ⟨e', rfl, he⟩ := hother.of_splitLine?_eq_some hsplit
      · cases hparse.symm.trans ht
      · cases hparse.symm.trans he
        rfl
    | ok t =>
      -- With a name the line would define a command.
      have hname : normalName front = "" := by
        by_contra hne
        exact absurd (h.symm.trans (commandOf?_eq_some.2
          ⟨raw, t, ⟨⟨front, hwritten, hfront, rfl⟩, hne, hparse⟩, rfl⟩)) nofun
      refine ⟨_, .noName hwritten hfront hname hparse, fun _ hother => ?_⟩
      obtain ⟨-, rfl, -⟩ | ⟨e, -, he⟩ := hother.of_splitLine?_eq_some hsplit
      · rfl
      · cases hparse.symm.trans he

/-! ### Loading -/

/-- Does loading take a command from a line? -/
def isLoaded (line : String) : Bool :=
  (commandOf? line).isSome

theorem isLoaded_eq_false_iff : isLoaded line = false ↔ commandOf? line = none := by
  rw [isLoaded]
  cases commandOf? line <;> simp

/-- The settings list the commands of the configuration. -/
theorem ofSettings_lookup (config : Config) :
    ofSettings config.lookup = ofLines config.commands := by
  rw [ofSettings, Config.lookup, Config.settingsOf, if_pos rfl]

/-- Lines that define no command may as well be missing. -/
theorem ofLines_filter (lines : List String) : ofLines (lines.filter isLoaded) = ofLines lines := by
  have hcommands : (lines.filter isLoaded).filterMap commandOf? = lines.filterMap commandOf? := by
    rw [List.filterMap_filter]
    refine congrArg (List.filterMap · lines) (funext fun line => ?_)
    rw [isLoaded]
    cases commandOf? line <;> rfl
  rw [ofLines, hcommands, ofLines]

end Registry

namespace CommandLine

open Registry

variable {line : String} {flaw : Flaw}

/-- What `list` tells of a flaw. -/
def flawLine : Flaw → Option String
  | .badTemplate name e => some (name ++ " (invalid): " ++ e.description)
  | _ => none

/-- What is reported of a line is what its flaw leaves to be reported. -/
theorem invalidLine_eq (h : HasFlaw line flaw) : invalidLine line = flawLine flaw := by
  cases h with
  | noTemplate _ hspace => simp [invalidLine, splitLine?_eq_none.2 hspace, flawLine]
  | noName hline hfront _ hparse =>
    simp [invalidLine, splitLine?_eq_some.2 ⟨hline, hfront⟩, Command.parse, Command.error?, hparse,
      flawLine]
  | badTemplate hline hfront hparse =>
    simp [invalidLine, splitLine?_eq_some.2 ⟨hline, hfront⟩, Command.parse, Command.error?, hparse,
      flawLine]

/-- Nothing is reported of a line that is loaded. -/
theorem invalidLine_of_isLoaded (h : isLoaded line = true) : invalidLine line = none := by
  obtain ⟨⟨name, command⟩, hcommand⟩ := Option.isSome_iff_exists.1 h
  obtain ⟨raw, t, ⟨⟨front, hline, hfront, -⟩, -, hparse⟩, -⟩ := commandOf?_eq_some.1 hcommand
  simp [invalidLine, splitLine?_eq_some.2 ⟨hline, hfront⟩, Command.parse, Command.error?, hparse]

/-- What `list` shows of a registry. -/
def shownLines (verbose : Bool) (registry : Registry) : List String :=
  (if registry.isEmpty then ["No custom commands configured."] else []) ++
    registry.names.filterMap (commandLine verbose registry)

/-- The commands come first, and then the lines that are reported. -/
theorem list_eq (config : Config) (registry : Registry) (verbose : Bool) :
    list config registry verbose =
      .ofLines (shownLines verbose registry ++ config.commands.filterMap invalidLine) :=
  rfl

/-- Without the lines that loading skips, `list` shows the commands and nothing else.  The lines
that it skips follow with what they add: a bad template is told of, and no other flaw is. -/
theorem list_ofSettings (config : Config) (verbose : Bool) :
    let loaded : Config := { config with commands := config.commands.filter isLoaded }
    let shown := shownLines verbose (ofSettings config.lookup)
    list loaded (ofSettings loaded.lookup) verbose = .ofLines shown ∧
      list config (ofSettings config.lookup) verbose =
        .ofLines (shown ++ (config.commands.filter (!isLoaded ·)).filterMap invalidLine) ∧
      ∀ line ∈ config.commands, isLoaded line = false → Text.trim line ≠ "" →
        ∃ flaw, HasFlaw line flaw ∧ (∀ other, HasFlaw line other → other = flaw) ∧
          invalidLine line = flawLine flaw := by
  intro loaded shown
  refine ⟨?_, ?_, fun line _ hline hne => ?_⟩
  · have hnone : (config.commands.filter isLoaded).filterMap invalidLine = [] := by
      rw [List.filterMap_eq_nil_iff]
      exact fun line hline => invalidLine_of_isLoaded (List.mem_filter.1 hline).2
    rw [list_eq, hnone, ofSettings_lookup, ofLines_filter, List.append_nil, ← ofSettings_lookup]
  · have hskipped : (config.commands.filter (!isLoaded ·)).filterMap invalidLine =
        config.commands.filterMap invalidLine := by
      rw [List.filterMap_filter]
      refine congrArg (List.filterMap · config.commands) (funext fun line => ?_)
      cases hline : isLoaded line with
      | false => rfl
      | true => exact (invalidLine_of_isLoaded hline).symm
    rw [list_eq, hskipped]
  · obtain ⟨flaw, hflaw, hunique⟩ := existsUnique_flaw (isLoaded_eq_false_iff.1 hline) hne
    exact ⟨flaw, hflaw, hunique, invalidLine_eq hflaw⟩

/-- A template that is not closed is reported with the place of the fault. -/
theorem list_ofSettings_bad :
    isLoaded "bad $(" = false ∧
      invalidLine "bad $(" = some "bad (invalid): Expected identifier at position 2" := by
  have hspecial : Template.readSpecial 0 ⟨['('], 1⟩ = .error ⟨.expectedIdentifier, 2⟩ := by
    rw [Template.readSpecial]
    rfl
  have hparse : Template.parse "$(" = .error ⟨.expectedIdentifier, 2⟩ :=
    Template.parse_of_readSpecial rfl hspecial
  have hflaw : HasFlaw "bad $(" (.badTemplate "bad" ⟨.expectedIdentifier, 2⟩) :=
    .badTemplate (by decide) (by decide) hparse
  have hskipped : isLoaded "bad $(" = false := isLoaded_eq_false_iff.2 hflaw.commandOf?_eq_none
  obtain ⟨flaw, -, hunique, hline⟩ := (list_ofSettings { commands := ["bad $("] } false).2.2
    "bad $(" List.mem_cons_self hskipped (by decide)
  rw [← hunique _ hflaw] at hline
  exact ⟨hskipped, hline.trans (by decide +kernel)⟩

/-- A line with a flaw of which nothing is told might as well be missing. -/
theorem list_singleton (h : HasFlaw line flaw) (hnone : flawLine flaw = none) (verbose : Bool) :
    let config : Config := { commands := [line] }
    list config (ofSettings config.lookup) verbose =
      .ofLines ["No custom commands configured."] := by
  intro config
  have hempty : ofSettings config.lookup = [] := by
    rw [ofSettings_lookup, ofLines, List.filterMap_cons_none h.commandOf?_eq_none]
    rfl
  have hreports : config.commands.filterMap invalidLine = [] :=
    List.filterMap_cons_none ((invalidLine_eq h).trans hnone)
  rw [list_eq, hempty, hreports, List.append_nil]
  rfl

/-- So it is with a line without a template and with one without a name. -/
theorem list_silent :
    let noTemplate : Config := { commands := ["noTemplate"] }
    let noName : Config := { commands := ["/ hello"] }
    (isLoaded "noTemplate" = false ∧ Text.trim "noTemplate" ≠ "" ∧
      list noTemplate (ofSettings noTemplate.lookup) false =
        .ofLines ["No custom commands configured."]) ∧
    (isLoaded "/ hello" = false ∧ Text.trim "/ hello" ≠ "" ∧
      list noName (ofSettings noName.lookup) false =
        .ofLines ["No custom commands configured."]) := by
  have hparse : Template.parse "hello" = .ok [.literal "hello"] :=
    Template.parse_of_reads (.text rfl (by decide))
  have hwritten : Text.trim "/ hello" = "/" ++ " " ++ "hello" := by decide
  have htemplate : HasFlaw "noTemplate" .noTemplate := .noTemplate (by decide) (by decide)
  have hname : HasFlaw "/ hello" .noName :=
    .noName hwritten (by decide) (by decide +kernel) hparse
  simp only [isLoaded_eq_false_iff]
  exact ⟨⟨htemplate.commandOf?_eq_none, by decide, list_singleton htemplate rfl false⟩,
    hname.commandOf?_eq_none, by decide, list_singleton hname rfl false⟩

end CommandLine

end CommandTemplate
