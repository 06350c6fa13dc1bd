import Sift.Error
import Sift.Text.Case

/-!
# Settings of statements

How identifiers are quoted and how labels are written, and the presets for SQL dialects.

* `Settings.ofDialect`: the preset of a dialect.
-/

namespace Sift

/-- How statements are written: the identifier template, in which each `$1` stands for the
identifier; whether plain selected members get a label of their own; and whether `AS` stands before
a label. -/
structure Settings where
  nameFormat : String
  forceAlias : Bool
  useAliasKeyword : Bool
  deriving DecidableEq, Repr

namespace Settings

/-- Identifiers as they are. -/
def plain : Settings := ⟨"$1", false, true⟩

/-- Identifiers between grave accents. -/
def mysql : Settings := { plain with nameFormat := "\x60$1\x60" }

/-- Identifiers between double quotes. -/
def postgres : Settings := { plain with nameFormat := "\"$1\"" }

/-- Identifiers in brackets. -/
def mssql : Settings := { plain with nameFormat := "[$1]" }

/-- The preset of a dialect, named in any letter case. -/
def ofDialect (name : String) : Except Error Settings :=
  match Text.asciiLower name with
  | "plain" => .ok plain
  | "default" => .ok plain
  | "mysql" => .ok mysql
  | "mariadb" => .ok mysql
  | "postgres" => .ok postgres
  | "postgresql" => .ok postgres
  | "mssql" => .ok mssql
  | "sqlserver" => .ok mssql
  | other => .error (.config (.unknownDialect other))

end Settings

end Sift
