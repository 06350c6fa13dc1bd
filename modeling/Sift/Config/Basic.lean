import Sift.Config.Reader
import Sift.Config.Variables
import Sift.Object.Shape
import Sift.Settings

/-!
# Configuration

The settings of statements are chosen by a dialect and by settings of their own, which come from a
file and from variables. A variable wins over the file.

* `Config.ofDocument`, `Config.read`: a configuration in TOML and in JSON.
* `Config.override`: the settings that variables choose.
* `load`: the configuration of a file and the variables.
* `Config.settings`: the settings that a configuration chooses.
-/

namespace Sift

/-- What a configuration chooses. -/
structure Config where
  dialect : Option String := none
  nameFormat : Option String := none
  forceAlias : Option Bool := none
  useAliasKeyword : Option Bool := none
  deriving DecidableEq, Repr

namespace Config

/-- The settings that a configuration chooses: those of the dialect, with its own in their
place. A template must have a place for the identifier. -/
def settings (c : Config) : Except Error Settings := do
  let preset ← match c.dialect with
    | some name => Settings.ofDialect name
    | none => .ok .plain
  let nameFormat ← match c.nameFormat with
    | some format =>
      if (Text.indexOf? ['$', '1'] format.toList).isSome then .ok format
      else .error (.config (.noPlaceholder format))
    | none => .ok preset.nameFormat
  return {
    nameFormat
    forceAlias := c.forceAlias.getD preset.forceAlias
    useAliasKeyword := c.useAliasKeyword.getD preset.useAliasKeyword }

/-- The keys of a configuration, in order. -/
def names : List String := ["dialect", "name_format", "force_alias", "use_alias_keyword"]

/-- A truth value or nothing. -/
def decodeBool? : Json → Except Error (Option Bool)
  | .null => .ok none
  | v => some <$> decodeBool v

/-- One key stored. -/
def store (c : Config) (name : String) (v : Json) : Except Error Config :=
  match name with
  | "dialect" => do return { c with dialect := ← decodeStr? v }
  | "name_format" => do return { c with nameFormat := ← decodeStr? v }
  | "force_alias" => do return { c with forceAlias := ← decodeBool? v }
  | _ => do return { c with useAliasKeyword := ← decodeBool? v }

/-- A configuration in JSON text. -/
def read : String → Except Error Config :=
  decodeText (.record names fun _ => .value) (decodeRecord names store {})

/-- A text setting of a document. -/
def textSetting (fields : Fields) (key : String) : Except Error (Option String) :=
  match fields.lookup key with
  | none => .ok none
  | some (.text s) => .ok (some s)
  | some _ => .error (.config .badFile)

/-- A truth value setting of a document. -/
def flagSetting (fields : Fields) (key : String) : Except Error (Option Bool) :=
  match fields.lookup key with
  | none => .ok none
  | some (.flag b) => .ok (some b)
  | some _ => .error (.config .badFile)

/-- A configuration in TOML text. Keys without a meaning are ignored. -/
def ofDocument (source : String) : Except Error Config :=
  match parseDocument? source with
  | none => .error (.config .badFile)
  | some fields => do
    return {
      dialect := ← textSetting fields "dialect"
      nameFormat := ← textSetting fields "name_format"
      forceAlias := ← flagSetting fields "force_alias"
      useAliasKeyword := ← flagSetting fields "use_alias_keyword" }

/-- A variable that is set to more than the empty text. -/
def nonEmpty? (vars : Variables) (name : String) : Option String :=
  (vars.lookup name).filter (· != "")

/-- A truth value in words. -/
def flagOfText? (s : String) : Option Bool :=
  match Text.asciiLower s with
  | "1" | "true" | "yes" | "on" => some true
  | "0" | "false" | "no" | "off" => some false
  | _ => none

/-- A variable that is a truth value, if it is set. -/
def flagVariable (vars : Variables) (name : String) : Except Error (Option Bool) :=
  match nonEmpty? vars name with
  | none => .ok none
  | some s =>
    match flagOfText? s with
    | some b => .ok (some b)
    | none => .error (.config (.notBoolean name s))

/-- A configuration with the choices of variables in place of its own. -/
def override (c : Config) (vars : Variables) : Except Error Config := do
  let forceAlias ← flagVariable vars "QUERY_EXPR_FORCE_ALIAS"
  let useAliasKeyword ← flagVariable vars "QUERY_EXPR_USE_ALIAS_KEYWORD"
  return {
    dialect := (nonEmpty? vars "QUERY_EXPR_DIALECT").or c.dialect
    nameFormat := (nonEmpty? vars "QUERY_EXPR_NAME_FORMAT").or c.nameFormat
    forceAlias := forceAlias.or c.forceAlias
    useAliasKeyword := useAliasKeyword.or c.useAliasKeyword }

/-- What is found under a path. -/
inductive Found where
  | missing
  | unreadable
  | text (s : String)

/-- The configuration of a file and the variables. A file of variables beside it is loaded
first; a missing file chooses nothing. -/
def load (vars : Variables) (variableFile file : Found) : Except Error Config := do
  let loaded := match variableFile with
    | .missing => some vars
    | .unreadable => none
    | .text s => loadVariables? vars s
  match loaded with
  | none => .error (.config .badEnvironment)
  | some vars =>
    let c ← match file with
      | .missing => .ok ({} : Config)
      | .unreadable => .error (.config .badFile)
      | .text s => ofDocument s
    c.override vars

end Config

end Sift
