import LiveRecord.Connection
import LiveRecord.Settings.Source
import LiveRecord.Toml.Document

/-!
# Settings of the connection layer

The section `database` of the settings names the default connection. A file in TOML is read
first, then the environment; a file that cannot be read is left out with a warning.
-/

namespace LiveRecord

/-- The settings of the connection layer. -/
structure DatabaseSettings where
  /-- The connection of records that name none. -/
  defaultConnection : String
  deriving Repr, DecidableEq

/-- Why there are no settings. -/
inductive SettingsError where
  /-- A source is not well formed. -/
  | unreadable
  /-- The section for databases has the wrong form. -/
  | unusable
  deriving Repr, DecidableEq

namespace Setting

/-- The text of a setting where text is wanted. -/
def asText? : Setting → Option String
  | .text s => some s
  | .bool b => some (if b then "true" else "false")
  | .int n => some (String.ofList (Json.integerText n.toInt))
  | .float x => some (Decimal.Layout.plain.format x)
  | .absent | .list _ | .table _ => none

/-- Lay JSON documents over each other. -/
def ofDocuments (documents : List String) : Except SettingsError Setting :=
  documents.foldlM (fun tree document =>
    match readJson? document with
    | some members => .ok (tree.putAll members)
    | none => .error .unreadable) (.table [])

end Setting

namespace DatabaseSettings

/-- The settings of those who set nothing. -/
def standard : DatabaseSettings := ⟨"default"⟩

/-- The settings with a default connection, if one is given. -/
def ofConnection : Option Setting → Except SettingsError DatabaseSettings
  | none => .ok standard
  | some s =>
    match s.asText? with
    | some name => .ok ⟨name⟩
    | none => .error .unusable

/-- The settings in a tree. A section in list form gives its fields in their order. -/
def ofSettings (tree : Setting) : Except SettingsError DatabaseSettings :=
  match tree.get? "database" with
  | none => .ok standard
  | some (.table members) => ofConnection (Entries.lookup "default_connection" members)
  | some (.list items) => ofConnection items.head?
  | some _ => .error .unusable

/-- What comes of loading the settings. -/
structure Loaded where
  settings : Except SettingsError DatabaseSettings
  /-- Was a file left out? -/
  warned : Bool

/-- Load the settings from the text of a file, if there is one, and from the variables of the
environment that belong to a scope. -/
def load (scope : String) (file : Option String) (environment : List (String × String)) :
    Loaded :=
  let own := Setting.ofEnvironment scope environment
  match (file.map Toml.read?).getD (some []) with
  | some members => ⟨ofSettings ((Setting.putAll (.table []) members).putAll own), false⟩
  | none => ⟨ofSettings (Setting.putAll (.table []) own), true⟩

end DatabaseSettings

/-- A manager with the default connection of the settings. -/
def Manager.ofSettings (settings : DatabaseSettings) : Manager :=
  .ofDefault settings.defaultConnection

end LiveRecord
