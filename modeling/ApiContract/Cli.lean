/-
# The command line

The command reads a description and, if it is given, a configuration, and says whether an
interface can be built from them.  Everything it says is a line of its log.
-/
import ApiContract.Api
import ApiContract.Description.Document

namespace ApiContract.Cli

/-! ## The log -/

/-- How serious a line is. -/
inductive Level where
  /-- All is well. -/
  | info
  /-- Something is left out. -/
  | warn
  /-- Something does not work. -/
  | error
deriving DecidableEq, Repr

/-- The name of a level. -/
def Level.name : Level → String
  | info => "INFO"
  | warn => "WARN"
  | error => "ERROR"

/-- A line of the log. -/
structure LogLine where
  /-- How serious it is. -/
  level : Level
  /-- Which part of the program it comes from. -/
  part : String
  /-- What it says. -/
  message : String
  /-- The particulars, by name. -/
  fields : List (String × String)

/-- The text of a line. -/
def LogLine.text (line : LogLine) : String :=
  let fields := line.fields.map fun (name, value) => s!" {name}={value}"
  s!"{line.level.name} {line.part}: {line.message}" ++ String.join fields

/-- The program as a whole. -/
def program : String := "oas3_validator"

/-- The part of the program that builds interfaces. -/
def builder : String := "oas3_validator::spec::builder"

/-- The line of a warning. -/
def warningLine : Warning → LogLine
  | .noPaths => ⟨.warn, builder, "document declares no paths", []⟩
  | .skippedPath path reference =>
    ⟨.warn, builder, "skipping path item: path item references are not supported",
      [("path", path), ("reference", reference.text)]⟩
  | .brokenOperation path method failure =>
    ⟨.warn, builder, "failed to build operation",
      [("path", path), ("method", Text.inQuotes method.name), ("error", failure.message)]⟩

/-- The line of a failure. -/
def failureLine (message : String) (failure : Failure) : LogLine :=
  ⟨.error, program, message, [("error", failure.message)]⟩

/-! ## The command -/

/-- What the command ends with. -/
structure Result where
  /-- Whether it ends well. -/
  succeeds : Bool
  /-- The log. -/
  log : List LogLine

/-- The configuration of a file; without a file everything is off. -/
def readConfig (read : String → Option String) (path : Option String) :
    Except LoadFault Config :=
  match path with
  | none => .ok {}
  | some path =>
    match read path with
    | none => .error (.unreadableFile path)
    | some text => Config.ofText text

/-- The title of a document. -/
def title (document : Value) : String :=
  ((document.get? "info").bind fun info =>
    (info.get? "title").bind Value.string?).getD "untitled"

/-- The line of an interface that has been built. -/
def readyLine (document : Value) (api : Api) : LogLine :=
  ⟨.info, program, "API validator ready",
    [("title", title document),
      ("operations", toString api.operationCount),
      ("fill_by_default", toString api.config.fillByDefault),
      ("validate_response", toString api.config.validateResponse)]⟩

/-- Builds an interface and says how that went. -/
def describe (document : Value) (config : Config) : Result :=
  let (result, warnings) := Api.ofDocument document config
  let log := warnings.map warningLine
  match result with
  | .ok api => ⟨true, log ++ [readyLine document api]⟩
  | .error failure => ⟨false, log ++ [failureLine "failed to build validator" failure]⟩

/-- The command: its arguments are the paths of the document and of the configuration, and
`read` gives the contents of files. -/
def run (read : String → Option String) (args : List String) : Result :=
  let path := args.headD "openapi.yaml"
  match readConfig read args[1]? with
  | .error fault => ⟨false, [failureLine "failed to load configuration" (.load fault)]⟩
  | .ok config =>
    match Document.ofFile path (read path) with
    | .error fault => ⟨false, [failureLine "failed to load OpenAPI document" (.load fault)]⟩
    | .ok document => describe document config

end ApiContract.Cli
