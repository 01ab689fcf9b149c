-- SUMMARY: The command line: its arguments, and the outcome of a run.
import Flowchart.Decimal.Read
import Flowchart.Json.Diagram
import Flowchart.Json.Shapes
import Flowchart.Report
import Flowchart.Text.Controls

/-!
# Command line

The arguments name a diagram file, a file of detected shapes, and how to assemble and write the
diagram. An option takes one value, in the next argument or in its own, and may be given once. The
outcome of a run is a pure function of the arguments and of what the files hold.
-/

namespace Flowchart.CommandLine

/-! ## Parameters -/

inductive Format where
  | json
  | text
  deriving DecidableEq, Repr

/-- What can be given on the command line. Only the file stands without a name. -/
inductive Parameter where
  | file
  | shapes
  | width
  | height
  | threshold
  | format
  | logLevel
  deriving DecidableEq, Repr

namespace Parameter

/-- The parameter with a long name, the dashes left off. -/
def ofLong? : String → Option Parameter
  | "shapes" => some shapes
  | "width" => some width
  | "height" => some height
  | "threshold" => some threshold
  | "format" => some format
  | "log-level" => some logLevel
  | _ => none

/-- The parameter with a short name. -/
def ofShort? : Char → Option Parameter
  | 's' => some shapes
  | 'f' => some format
  | _ => none

/-- How messages refer to the parameter. -/
def usage : Parameter → String
  | file => "[FILE]"
  | shapes => "--shapes <SHAPES>"
  | width => "--width <WIDTH>"
  | height => "--height <HEIGHT>"
  | threshold => "--threshold <THRESHOLD>"
  | format => "--format <FORMAT>"
  | logLevel => "--log-level <LOG_LEVEL>"

end Parameter

/-! ## Usage errors -/

/-- What can be wrong with the arguments. -/
inductive UsageError where
  | unexpected (argument : String)
  | missingValue (parameter : Parameter)
  | repeated (parameter : Parameter)
  | invalidValue (value : String) (parameter : Parameter) (why : Option String)
  deriving DecidableEq, Repr

/-- What is repeated of the arguments is shown without control characters. -/
def UsageError.message : UsageError → String
  | unexpected argument => "unexpected argument '" ++ Text.withoutControls argument ++ "' found"
  | missingValue parameter =>
    "a value is required for '" ++ parameter.usage ++ "' but none was supplied"
  | repeated parameter =>
    "the argument '" ++ parameter.usage ++ "' cannot be used multiple times"
  | invalidValue value parameter why =>
    "invalid value '" ++ Text.withoutControls value ++ "' for '" ++ parameter.usage ++ "'" ++
      match why with
      | some why => ": " ++ why
      | none => ""

/-! ## Settings -/

/-- What a run is to do. -/
structure Settings where
  /-- The diagram file; standard input if there is none. -/
  file : Option String := none
  shapes : Option String := none
  width : Float := 1200
  height : Float := 800
  threshold : Float := Layout.standardThreshold
  format : Format := .json
  logLevel : String := "warn"

/-- The size that a text gives, or why it gives none. -/
def positive (text : String) : Except String Float :=
  match readFloat text.toList with
  | .error error => .error error.message
  | .ok value =>
    if value.isFinite && value > 0 then .ok value
    else .error ("must be a positive number, got " ++ text)

/-- Settings with the value of one more parameter. -/
def Settings.set (settings : Settings) (parameter : Parameter) (value : String) :
    Except UsageError Settings :=
  let number (outcome : Except String Float) (use : Float → Settings) :
      Except UsageError Settings :=
    match outcome with
    | .ok number => .ok (use number)
    | .error why => .error (.invalidValue value parameter (some why))
  match parameter with
  | .file =>
    if value = "" then .error (.missingValue .file) else .ok { settings with file := value }
  | .shapes =>
    if value = "" then .error (.missingValue .shapes) else .ok { settings with shapes := value }
  | .width => number (positive value) fun width => { settings with width := width }
  | .height => number (positive value) fun height => { settings with height := height }
  | .threshold =>
    number ((readFloat value.toList).mapError FloatTextError.message) fun threshold =>
      { settings with threshold := threshold }
  | .format =>
    if value = "json" then .ok { settings with format := .json }
    else if value = "text" then .ok { settings with format := .text }
    else if value = "" then .error (.missingValue .format)
    else .error (.invalidValue value .format none)
  | .logLevel => .ok { settings with logLevel := value }

/-! ## Arguments -/

/-- How far the arguments have been read. -/
structure Progress where
  settings : Settings := {}
  /-- The parameters that have their value. -/
  given : List Parameter := []
  /-- The last parameter met, whose value is looked at only when the next one comes or the arguments
      end. An option that has no value yet takes the next argument. -/
  pending : Option (Parameter × Option String) := none
  /-- The file has been met. -/
  fileMet : Bool := false
  /-- Options have ended. -/
  optionsEnded : Bool := false

namespace Progress

/-- Give a parameter its value: there must be one, for the first time, and it must be valid. -/
def assign (progress : Progress) (parameter : Parameter) (value : Option String) :
    Except UsageError Progress :=
  match value with
  | none => .error (.missingValue parameter)
  | some value =>
    if progress.given.contains parameter then .error (.repeated parameter)
    else do
      let settings ← progress.settings.set parameter value
      return { progress with settings := settings, given := parameter :: progress.given }

/-- Give the pending parameter its value. -/
def settle (progress : Progress) : Except UsageError Progress :=
  match progress.pending with
  | none => .ok progress
  | some (parameter, value) => { progress with pending := none }.assign parameter value

/-- An option with the value in its own argument, or one that takes the next argument. -/
def option (progress : Progress) (parameter : Parameter) (attached : Option String) :
    Except UsageError Progress := do
  let settled ← progress.settle
  match attached with
  | some value => settled.assign parameter value
  | none => return { settled with pending := some (parameter, none) }

/-- An argument that is not an option: the file, unless that has been met. -/
def positional (progress : Progress) (argument : String) : Except UsageError Progress :=
  if progress.fileMet then .error (.unexpected argument)
  else do
    let settled ← progress.settle
    return { settled with pending := some (.file, some argument), fileMet := true }

/-- An option by its long name, after which `=` may attach a value. -/
def longOption (progress : Progress) (text : List Char) : Except UsageError Progress :=
  let name := String.ofList (text.takeWhile (· != '='))
  let attached :=
    match text.dropWhile (· != '=') with
    | [] => none
    | _ :: value => some (String.ofList value)
  match Parameter.ofLong? name with
  | some parameter => progress.option parameter attached
  | none => .error (.unexpected ("--" ++ name))

/-- An option by its short name, to which a value may be attached, with `=` or without. -/
def shortOption (progress : Progress) (letter : Char) (text : List Char) :
    Except UsageError Progress :=
  let attached :=
    match text with
    | [] => none
    | '=' :: value => some (String.ofList value)
    | value => some (String.ofList value)
  match Parameter.ofShort? letter with
  | some parameter => progress.option parameter attached
  | none => .error (.unexpected (String.ofList ['-', letter]))

/-- An argument that is not an option: the value that an option waits for, or a file. -/
def plain (progress : Progress) (argument : String) : Except UsageError Progress :=
  match progress.pending with
  | some (parameter, none) => .ok { progress with pending := some (parameter, some argument) }
  | _ => progress.positional argument

/-- Read one more argument. A single dash is not an option, and after `--` nothing is. -/
def read (progress : Progress) (argument : String) : Except UsageError Progress :=
  if progress.optionsEnded then progress.positional argument
  else
    match argument.toList with
    | ['-', '-'] => .ok { progress with optionsEnded := true }
    | '-' :: '-' :: text => progress.longOption text
    | '-' :: letter :: text => progress.shortOption letter text
    | _ => progress.plain argument

end Progress

/-- The settings that the arguments ask for. -/
def Settings.ofArguments (arguments : List String) : Except UsageError Settings := do
  let progress ← arguments.foldlM Progress.read {}
  return (← progress.settle).settings

/-! ## Log levels -/

def logLevelNames : List String :=
  ["off", "error", "warn", "info", "debug", "trace"]

/-- The number of a log level, in any case: the higher, the more is logged. -/
def logLevel? (name : String) : Option Nat :=
  logLevelNames.idxOf? (String.ofList (name.toList.map Char.toLower))

/-- The number of the level that is used if another one is not known. -/
def standardLogLevel : Nat := 2

/-- The number of the level of a notice. -/
def levelNumber : Level → Nat
  | .warn => 2
  | .info => 3
  | .debug => 4

/-! ## Runs -/

/-- Why a file cannot be read as a text. -/
inductive FileError where
  | unreadable (reason : String)
  | notText
  deriving DecidableEq, Repr

def FileError.message : FileError → String
  | unreadable reason => reason
  | notText => "stream did not contain valid UTF-8"

/-- There is no file of this name. -/
def FileError.missing : FileError :=
  .unreadable "No such file or directory (os error 2)"

/-- The name is that of a directory. -/
def FileError.directory : FileError :=
  .unreadable "Is a directory (os error 21)"

/-- What a file holds, as a text. -/
def fileText (contents : Except FileError ByteArray) : Except FileError String := do
  match String.fromUTF8? (← contents) with
  | some text => .ok text
  | none => .error .notText

/-- Why a run fails. -/
inductive RunError where
  | unreadable (path : String) (error : FileError)
  | invalidShapes (path : String) (description : String)
  | diagram (error : DiagramError)

def RunError.message : RunError → String
  | unreadable path error => "failed to read " ++ path ++ ": " ++ error.message
  | invalidShapes path description => "invalid shapes file " ++ path ++ ": " ++ description
  | diagram error => "could not parse diagram: " ++ error.message

/-- The files that a run may read. -/
structure Files where
  standardInput : Except FileError ByteArray
  contents : String → Except FileError ByteArray

/-- The text of the diagram. -/
def readSource (settings : Settings) (files : Files) : Except RunError String :=
  match settings.file with
  | some path => (fileText (files.contents path)).mapError (.unreadable path)
  | none => (fileText files.standardInput).mapError (.unreadable "stdin")

/-- The detected shapes; none if there is no file of them. -/
def readShapes (settings : Settings) (files : Files) : Except RunError (List DetectedShape) :=
  match settings.shapes with
  | none => .ok []
  | some path => do
    let text ← (fileText (files.contents path)).mapError (.unreadable path)
    (Json.readShapes text).mapError fun fault => .invalidShapes path (fault.describe text.toList)

/-- Write a diagram in a format. -/
def Format.write (format : Format) (diagram : Diagram) : String :=
  match format with
  | json => diagram.toJson.pretty ++ "\n"
  | text => diagram.report

/-- The output of a run, with its notices. The diagram is read before the shapes, and assembled when
    both are there. -/
def produce (settings : Settings) (files : Files) : Except RunError String × List Notice :=
  let inputs := do return (← readSource settings files, ← readShapes settings files)
  match inputs with
  | .error error => (.error error, [])
  | .ok (source, shapes) =>
    let (outcome, notices) :=
      Diagram.assembleNoticed ⟨settings.threshold⟩ source shapes ⟨settings.width, settings.height⟩
    match outcome with
    | .error error => (.error (.diagram error), notices)
    | .ok diagram => (.ok (settings.format.write diagram), notices)

/-- What a run leaves behind. -/
structure Outcome where
  exitCode : UInt8
  output : String := ""
  /-- Messages for the user, each of one line or more. -/
  messages : List String := []
  /-- The notices to be logged. -/
  notices : List Notice := []

/-- The outcome of a run with these settings. -/
def Outcome.ofSettings (settings : Settings) (files : Files) : Outcome :=
  let level := (logLevel? settings.logLevel).getD standardLogLevel
  let warnings :=
    if (logLevel? settings.logLevel).isSome then []
    else ["Invalid log level: " ++ settings.logLevel ++ ". Using 'warn' instead."]
  let (result, notices) := produce settings files
  let logged := notices.filter fun notice => levelNumber notice.level ≤ level
  match result with
  | .ok output => ⟨0, output, warnings, logged⟩
  | .error error => ⟨1, "", warnings ++ ["ERROR: " ++ error.message], logged⟩

/-- The outcome of a run with these arguments. -/
def run (arguments : List String) (files : Files) : Outcome :=
  match Settings.ofArguments arguments with
  | .ok settings => Outcome.ofSettings settings files
  | .error error => { exitCode := 2, messages := ["error: " ++ error.message] }

end Flowchart.CommandLine
