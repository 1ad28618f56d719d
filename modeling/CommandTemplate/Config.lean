import CommandTemplate.Context
import CommandTemplate.Toml.Parser

/-!
The configuration of the application.

A `Config` is read from TOML text.  All its fields may be missing; fields that it does not know
may be there, but not with whole numbers that need more than 128 bits.  `Config.lookup` gives
its settings to templates.
-/

namespace CommandTemplate

/-- The configuration. -/
structure Config where
  /-- Lines that define commands. -/
  commands : List String := []
  /-- Whether templates may fetch web addresses. -/
  allowRequest : Bool := false
  settings : Toml.Table := []
  /-- The state of every stream. -/
  stream : Option StreamState := none

namespace Toml

mutual

/-- Do all whole numbers in a value lie between two bounds? -/
def Value.within (low high : Int) : Value → Bool
  | .integer n => low ≤ n && n ≤ high
  | .array items => Value.itemsWithin low high items
  | .table fields => Value.fieldsWithin low high fields
  | _ => true

def Value.itemsWithin (low high : Int) : List Value → Bool
  | [] => true
  | item :: items => item.within low high && Value.itemsWithin low high items

def Value.fieldsWithin (low high : Int) : List (String × Value) → Bool
  | [] => true
  | (_, value) :: fields => value.within low high && Value.fieldsWithin low high fields

end

def Value.string? : Value → Option String
  | .string text => some text
  | _ => none

def Value.boolean? : Value → Option Bool
  | .boolean b => some b
  | _ => none

/-- A whole number of 64 bits without a sign. -/
def Value.count? : Value → Option Nat
  | .integer n => if 0 ≤ n && n < 0x10000000000000000 then some n.toNat else none
  | _ => none

def Value.strings? : Value → Option (List String)
  | .array items => items.mapM string?
  | _ => none

/-- The field that a point in time has where a table belongs. -/
def dateTimeField : String := "$__toml_private_datetime"

/-- The fields of a table.  A point in time counts as a table with its text. -/
def Value.fields? : Value → Option Table
  | .table fields => some fields
  | .dateTime d => some [(dateTimeField, .string d.text)]
  | _ => none

/-- Can a value be passed over? -/
def Value.isSkippable (value : Value) : Bool :=
  value.within (-0x80000000000000000000000000000000) 0xffffffffffffffffffffffffffffffff

/-- Can all fields be passed over but those with certain names? -/
def skipsAllBut (names : List String) (fields : Table) : Bool :=
  fields.all fun (name, value) => names.contains name || value.isSkippable

/-- The value of a field, or `absent` if there is none; `none` if it cannot be read. -/
def field? {α : Type} (read? : Value → Option α) (absent : α) (value : Option Value) :
    Option α :=
  match value with
  | none => some absent
  | some value => read? value

/-- A table of values with whole numbers of 64 bits. -/
def Value.settings? (value : Value) : Option Table :=
  value.fields?.filter (Value.fieldsWithin (-0x8000000000000000) 0x7fffffffffffffff)

/-- The names of the fields that describe a stream, in the order in which their values may be
listed without names. -/
def streamFields : List String := ["live", "title", "game", "viewers", "uptime"]

/-- The state of a stream from its fields. -/
def streamOf? (value? : String → Option Value) : Option StreamState := do
  return {
    live := ← field? Value.boolean? false (value? "live")
    title := ← field? Value.string? "" (value? "title")
    game := ← field? Value.string? "" (value? "game")
    viewers := ← field? Value.count? 0 (value? "viewers")
    uptime := ← field? Value.string? "" (value? "uptime") }

/-- The state of a stream, which is a table or a list of values. -/
def Value.stream? : Value → Option StreamState
  | .array items => streamOf? fun name => (List.zip streamFields items).lookup name
  | value => do
    let fields ← value.fields?
    if skipsAllBut streamFields fields then streamOf? (fun name => fields.lookup name) else none

end Toml

namespace Config

/-- The names of the fields of a configuration. -/
def fieldNames : List String := ["commands", "allow_request", "settings", "stream"]

/-- The configuration that a table holds. -/
def ofTable? (table : Toml.Table) : Option Config := do
  if !Toml.skipsAllBut fieldNames table then none
  return {
    commands := ← Toml.field? Toml.Value.strings? [] (table.lookup "commands")
    allowRequest := ← Toml.field? Toml.Value.boolean? false (table.lookup "allow_request")
    settings := ← Toml.field? Toml.Value.settings? [] (table.lookup "settings")
    stream := ← Toml.field? (fun value => value.stream?.map some) none (table.lookup "stream") }

/-- The configuration that a text writes. -/
def parse? (text : String) : Option Config :=
  Toml.parse? text >>= ofTable?

/-- What a template sees of a value. -/
def settingOf : Toml.Value → Setting
  | .string text => .text text
  | .boolean b => .boolean b
  | .integer n => .number n
  | .array items => .list (items.map (·.plainText))
  | .table fields => .map (fields.map fun (name, value) => (name, value.plainText))
  | value => .text value.plainText

/-- The settings of a table, together with the lines that define commands. -/
def settingsOf (table : Toml.Table) (commands : List String) : Settings := fun name =>
  if name = Registry.settingName then some (.list commands)
  else (table.lookup name).map settingOf

/-- The settings of a configuration. -/
def lookup (c : Config) : Settings :=
  settingsOf c.settings c.commands

end Config

end CommandTemplate
