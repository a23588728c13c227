import BoundSql.Expr.Json
import BoundSql.Text.Blank
import BoundSql.Yaml.Decoder
import BoundSql.Yaml.Reader

/-!
Settings: what all statements of a program have in common. The main definition is
`Settings.check`, which says what settings a program may run with.
-/

namespace BoundSql

structure Settings where
  /-- What a placeholder starts with. -/
  sigil : String := "@"
  /-- Asks for the key that the last insert on a connection made. -/
  identityQuery : String := "SELECT LAST_INSERT_ID() id"
  logStatements : Bool := false
  deriving DecidableEq

namespace Settings

/-! ## Reading and writing -/

def fieldNames : List String := ["parameter_prefix", "identity_query", "log_statements"]

def default : Settings := {}

def ofJson? : (budget : Nat) → Json → Option Settings :=
  Json.nested? fun _ json => do
    match ← Json.fields? fieldNames false json with
    | [sigil, identityQuery, logStatements] =>
        let sigil ← Json.defaulted? default.sigil Json.string? sigil
        let identityQuery ← Json.defaulted? default.identityQuery Json.string? identityQuery
        let logStatements ← Json.defaulted? default.logStatements Json.bool? logStatements
        return { sigil, identityQuery, logStatements }
    | _ => none

def ofYaml? (document : Yaml) : Option Settings := do
  match ← Yaml.fields? fieldNames document with
  | [sigil, identityQuery, logStatements] =>
      let sigil ← Yaml.defaulted? default.sigil Yaml.string? sigil
      let identityQuery ← Yaml.defaulted? default.identityQuery Yaml.string? identityQuery
      let logStatements ← Yaml.defaulted? default.logStatements Yaml.bool? logStatements
      return { sigil, identityQuery, logStatements }
  | _ => none

def toJson (settings : Settings) : Json :=
  Expr.record
    [("parameter_prefix", .ofString settings.sigil),
     ("identity_query", .ofString settings.identityQuery),
     ("log_statements", .bool settings.logStatements)]

/-! ## Checking -/

inductive Flaw where
  | identityQuery
  | sigil
  deriving DecidableEq

namespace Flaw

def field : Flaw → String
  | .identityQuery => "identity_query"
  | .sigil => "parameter_prefix"

def rule : Flaw → String
  | .identityQuery => "identity_query"
  | .sigil => "length"

def message : Flaw → String
  | .identityQuery => "Identity query must be a SELECT statement"
  | .sigil => "Parameter prefix must be 1-4 characters"

end Flaw

def hasSoundSigil (settings : Settings) : Bool :=
  1 ≤ settings.sigil.length && settings.sigil.length ≤ 4

/-- The query starts with the word SELECT, whatever its case and whatever comes next. -/
def hasSoundQuery (settings : Settings) : Bool :=
  let start := (Text.trimStart settings.identityQuery.toList).take 6
  start.map Char.toLower == "select".toList

def flaws (settings : Settings) : List Flaw :=
  (if settings.hasSoundQuery then [] else [.identityQuery]) ++
    (if settings.hasSoundSigil then [] else [.sigil])

inductive Error where
  | unreadableFile (reason : String)
  | malformedFile
  | notTruthValue (name text : String)
  | flawed (flaws : List Flaw)
  deriving DecidableEq

def Error.message : Error → String
  | .unreadableFile reason => "Parse error for yaml_file: file read failed - " ++ reason
  | .malformedFile => "Parse error for yaml_content"
  | .notTruthValue name text =>
      "Parse error for " ++ name ++ ": " ++ text ++
        " - provided string was not \x60true\x60 or \x60false\x60"
  | .flawed flaws =>
      "Validation error: " ++
        "\n".intercalate (flaws.map fun flaw => flaw.field ++ ": " ++ flaw.message)

def check (settings : Settings) : Except Error Settings :=
  match settings.flaws with
  | [] => .ok settings
  | flaws => .error (.flawed flaws)

/-! ## Sources -/

def ofFile (text : String) : Except Error Settings :=
  match (Yaml.read? text.toList).bind ofYaml? with
  | some settings => settings.check
  | none => .error .malformedFile

def truthOf (name text : String) : Except Error Bool :=
  if text = "true" then .ok true
  else if text = "false" then .ok false
  else .error (.notTruthValue name text)

def sigilVariable : String := "SQLCRAFT_PARAMETER_PREFIX"
def identityQueryVariable : String := "SQLCRAFT_IDENTITY_QUERY"
def logStatementsVariable : String := "SQLCRAFT_LOG_STATEMENTS"

def ofEnvironment (lookup : String → Option String) : Except Error Settings := do
  let sigil := (lookup sigilVariable).getD default.sigil
  let identityQuery := (lookup identityQueryVariable).getD default.identityQuery
  let logStatements ←
    match lookup logStatementsVariable with
    | some text => truthOf logStatementsVariable text
    | none => .ok default.logStatements
  check { sigil, identityQuery, logStatements }

structure Overrides where
  sigil : Option String := none
  logStatements : Bool := false

/-- Settings with overrides. A command line turns logging on and never off. -/
def override (settings : Settings) (overrides : Overrides) : Except Error Settings :=
  check
    { settings with
      sigil := overrides.sigil.getD settings.sigil
      logStatements := settings.logStatements || overrides.logStatements }

end Settings

end BoundSql
