import BoundSql.CommandLine.VariableFile
import BoundSql.Entity.Definition.Yaml
import BoundSql.Settings
import BoundSql.Sql.Request

/-!
The command line: it renders one request, which is described in JSON, against one entity
of a catalog file. Everything but the reading of files happens here; the files come in
as texts, or as the reason why there is none.
-/

namespace BoundSql.CommandLine

open Entity Sql

/-! ## Arguments -/

structure Arguments where
  catalog : String
  entity : String
  /-- The file of the request, a dash standing for the standard input. -/
  request : String := "-"
  settings : Option String := none
  overrides : Settings.Overrides := {}
  pretty : Bool := false

structure Given where
  catalog : Option String := none
  entity : Option String := none
  request : Option String := none
  settings : Option String := none
  sigil : Option String := none
  logStatements : Bool := false
  pretty : Bool := false

namespace Given

def takesValue (option : String) : Bool :=
  ["--catalog", "--entity", "--request", "--config", "--parameter-prefix"].contains option

/-- An option with a value. No option comes twice, and a file has a name. -/
def setValue? (given : Given) (option value : String) : Option Given :=
  match option with
  | "--catalog" =>
      if given.catalog.isSome || value.isEmpty then none
      else some { given with catalog := some value }
  | "--entity" =>
      if given.entity.isSome then none else some { given with entity := some value }
  | "--request" =>
      if given.request.isSome then none else some { given with request := some value }
  | "--config" =>
      if given.settings.isSome || value.isEmpty then none
      else some { given with settings := some value }
  | "--parameter-prefix" =>
      if given.sigil.isSome then none else some { given with sigil := some value }
  | _ => none

def setFlag? (given : Given) (option : String) : Option Given :=
  match option with
  | "--log-statements" =>
      if given.logStatements then none else some { given with logStatements := true }
  | "--pretty" => if given.pretty then none else some { given with pretty := true }
  | _ => none

def splitOption (word : String) : String × Option String :=
  let option := word.toList.takeWhile (· != '=')
  match word.toList.drop option.length with
  | [] => (word, none)
  | _ :: value => (String.ofList option, some (String.ofList value))

def isOption (word : String) : Bool := word.toList.head? == some '-' && word != "-"

def read? (given : Given) : List String → Option Given
  | [] => some given
  | [word] =>
      match splitOption word with
      | (option, some value) => given.setValue? option value
      | (option, none) => if option = "--" then some given else given.setFlag? option
  | word :: next :: rest =>
      match splitOption word with
      | (option, some value) =>
          match given.setValue? option value with
          | some given => read? given (next :: rest)
          | none => none
      | (option, none) =>
          if takesValue option then
            if isOption next then none
            else
              match given.setValue? option next with
              | some given => read? given rest
              | none => none
          else
            match given.setFlag? option with
            | some given => read? given (next :: rest)
            | none => none

end Given

namespace Arguments

def ofWords? (words : List String) : Option Arguments := do
  let given ← Given.read? {} words
  return {
    catalog := ← given.catalog
    entity := ← given.entity
    request := given.request.getD "-"
    settings := given.settings
    overrides := { sigil := given.sigil, logStatements := given.logStatements }
    pretty := given.pretty }

end Arguments

/-! ## Running -/

structure Sources where
  environment : Variables
  settings : Option (Except String String)
  catalog : Except String String
  request : Except String String

inductive Failure where
  | settings (cause : Settings.Error)
  | schema (cause : SchemaError)
  | unreadableRequest (file : String)
  | malformedRequest
  | compile (cause : CompileError)

def Failure.message : Failure → String
  | .settings _ => "Configuration error"
  | .schema cause => cause.message
  | .unreadableRequest file =>
      "reading request " ++ if file = "-" then "from stdin" else file
  | .malformedRequest => "parsing statement request"
  | .compile cause => cause.message

def settingsOf (sources : Sources) : Except Settings.Error Settings :=
  match sources.settings with
  | some (.ok text) => Settings.ofFile text
  | some (.error reason) => .error (.unreadableFile reason)
  | none => Settings.ofEnvironment fun name => sources.environment.lookup name

def catalogOf (arguments : Arguments) (sources : Sources) : Except SchemaError Catalog :=
  match sources.catalog with
  | .ok text => Catalog.ofFile text
  | .error reason => .error (.unreadableFile arguments.catalog reason)

def requestOf (arguments : Arguments) (sources : Sources) : Except Failure Request :=
  match sources.request with
  | .error _ => .error (.unreadableRequest arguments.request)
  | .ok text =>
      match Request.ofText? text with
      | some request => .ok request
      | none => .error .malformedRequest

/-- The output of a run. Of several failures the first counts: settings, catalog, entity,
request, statement. -/
def run (arguments : Arguments) (sources : Sources) : Except Failure String := do
  let settings ← (settingsOf sources).mapError .settings
  let settings ← (settings.override arguments.overrides).mapError .settings
  let catalog ← (catalogOf arguments sources).mapError .schema
  let schema ← (catalog.find arguments.entity).mapError .schema
  let request ← requestOf arguments sources
  let rendered ← (request.render schema settings).1.mapError .compile
  return if arguments.pretty then rendered.toJson.pretty else rendered.toJson.compact

/-! ## Answering

A run that comes to its end exits with 0, one that fails with 1, and with 2 if its
arguments cannot be read. -/

structure Answer where
  exit : UInt32
  output : String := ""
  complaint : String := ""

def Answer.ofRun : Except Failure String → Answer
  | .ok text => { exit := 0, output := text ++ "\n" }
  | .error failure => { exit := 1, complaint := "Error: " ++ failure.message }

def answer [Monad m] (words : List String) (sourcesOf : Arguments → m Sources) : m Answer := do
  match Arguments.ofWords? words with
  | none => return { exit := 2, complaint := "error: the arguments cannot be read" }
  | some arguments => return .ofRun (run arguments (← sourcesOf arguments))

end BoundSql.CommandLine
