import ClassLint.Command.Arguments
import ClassLint.Command.FileTree
import ClassLint.Command.Report
import ClassLint.Config.Reader
import ClassLint.Linter

/-! Running the command. Nothing is reported unless every file can be checked. -/

namespace ClassLint

inductive CommandError where
  | configUnreadable (path : RawText) (fault : ReadFault)
  | configMalformed (path : RawText) (fault : JsonFault)
  | configRefused (error : ConfigError)
  | fileUnreadable (path : RawText) (fault : ReadFault)
  | fileRefused (path : RawText) (error : LintError)
  | pathUnwritable (path : RawText)
  deriving DecidableEq, Repr

/-- Whether the error of a rule comes from one of the reader of JSON or the compiler of patterns. -/
def ConfigError.isCaused : ConfigError → Bool
  | .invalidOptions _ | .pattern ⟨_, .invalid _⟩ => true
  | .unknownRule _ | .pattern _ => false

/-- The message of an error and of what caused it. What the reader and the writer of JSON and the
compiler of patterns say is given. -/
def CommandError.message (explain : CommandError → Text) : CommandError → Text
  | .configUnreadable path fault =>
    "failed to read config " ++ path.display ++ ": " ++ fault.message
  | .configMalformed path fault =>
    "invalid config " ++ path.display ++ ": " ++ explain (.configMalformed path fault)
  | .configRefused error =>
    "invalid configuration: " ++ error.message ++
      if error.isCaused then ": " ++ explain (.configRefused error) else []
  | .fileUnreadable path fault => "failed to read " ++ path.display ++ ": " ++ fault.message
  | .fileRefused path error => "failed to lint " ++ path.display ++ ": " ++ error.message
  | .pathUnwritable path => explain (.pathUnwritable path)

/-- What a run comes to: a status and a text to print, or an error. -/
abbrev Ending := Except CommandError (Nat × Text)

/-- What a run finds around it: files, whether its streams are terminals and how these show a tone,
and the words that are not its own. What is logged depends on the level that is asked for, and on how
far the run comes. -/
structure Surroundings where
  read : FileReader
  outputIsTerminal : Bool := false
  errorsAreTerminal : Bool := false
  paint : Painter := .plain
  help : Text := []
  log : Invocation → Ending → List Entry → Text := fun _ _ _ => []
  explain : CommandError → Text := fun _ => []

instance : Coe FileReader Surroundings := ⟨fun read => { read }⟩

namespace Surroundings

def outputPainter (around : Surroundings) (invocation : Invocation) : Painter :=
  if !invocation.noColor && around.outputIsTerminal then around.paint else .plain

def errorPainter (around : Surroundings) (invocation : Invocation) : Painter :=
  if !invocation.noColor && around.errorsAreTerminal then around.paint else .plain

/-- The log is empty until there is an entry. -/
def logged (around : Surroundings) (invocation : Invocation) (ending : Ending)
    (journal : Journal) : Text :=
  if journal.entries.isEmpty then [] else around.log invocation ending journal.entries.toList

end Surroundings

structure Outcome where
  status : Nat
  output : Text
  errors : Text
  deriving DecidableEq, Repr

def loadConfig (read : FileReader) : Option RawText → Except CommandError Config
  | none => .ok .recommended
  | some path =>
    match read path with
    | .error fault => .error (.configUnreadable path fault)
    | .ok source =>
      match Config.parse source with
      | .error fault => .error (.configMalformed path fault)
      | .ok config => .ok config

/-- Checks one file, in the dialect asked for or else that of its extension. -/
def checkFile (read : FileReader) (linter : Linter) (dialect? : Option Dialect) (path : RawText) :
    ExceptT CommandError Journaled FileReport := do
  match read path with
  | .error fault => throw (.fileUnreadable path fault)
  | .ok source =>
    match ← (linter.lintSource (dialect?.getD (.ofPath path)) source).run with
    | .error error => throw (.fileRefused path error)
    | .ok diagnostics => return ⟨path, diagnostics⟩

def checkFiles (read : FileReader) (linter : Linter) (dialect? : Option Dialect) :
    List RawText → ExceptT CommandError Journaled (List FileReport)
  | [] => return []
  | path :: rest => do
    let report ← checkFile read linter dialect? path
    let reports ← checkFiles read linter dialect? rest
    return report :: reports

def FileReport.print (paint : Painter) (reports : List FileReport) :
    ReportFormat → Except CommandError Text
  | .text => .ok (textOf paint reports)
  | .json => (jsonOf reports).mapError .pathUnwritable

namespace Invocation

def format (invocation : Invocation) : ReportFormat := invocation.format?.getD .text

/-- Activates the rules and checks the files. Notices given before are forgotten in between. -/
def check (invocation : Invocation) (read : FileReader) (config : Config) :
    ExceptT CommandError Journaled (List FileReport) := do
  match ← (Linter.ofConfig config).run with
  | .error error => throw (.configRefused error)
  | .ok linter =>
    Journal.forgetNotices
    checkFiles read linter invocation.dialect? invocation.files

def report (invocation : Invocation) (paint : Painter) (reports : List FileReport) : Ending :=
  (FileReport.print paint reports invocation.format).map fun text =>
    (if FileReport.total reports = 0 then 0 else 1, text)

def run (invocation : Invocation) (around : Surroundings) : Journaled Ending := do
  match loadConfig around.read invocation.config? with
  | .error error => return .error error
  | .ok config =>
    if invocation.printConfig then return .ok (0, config.toJson.pretty 0 ++ ['\n'])
    match ← (invocation.check around.read config).run with
    | .error error => return .error error
    | .ok reports => return invocation.report (around.outputPainter invocation) reports

def errorLine (invocation : Invocation) (around : Surroundings) (message : Text) : Text :=
  around.errorPainter invocation .redBold "error:" ++ ' ' :: message ++ ['\n']

/-- An error is the last line of its stream, and nothing is printed with it. -/
def outcome (invocation : Invocation) (around : Surroundings) (logged : Text) : Ending → Outcome
  | .ok (status, output) => ⟨status, output, logged⟩
  | .error error =>
    ⟨2, [], logged ++ invocation.errorLine around (error.message around.explain)⟩

end Invocation

def Request.paths : Request → List RawText
  | .check invocation =>
    invocation.config?.toList ++ if invocation.printConfig then [] else invocation.files
  | .version | .help => []

def versionText : Text := "rscss 0.1.0\n"

def Request.answer (around : Surroundings) : Request → Outcome
  | .version => ⟨0, versionText, []⟩
  | .help => ⟨0, around.help, []⟩
  | .check invocation =>
    let (ending, journal) := invocation.run around Journal.empty
    invocation.outcome around (around.logged invocation ending journal) ending

/-- The outcome of the command for its arguments, unless they cannot be understood. -/
def runCommand (around : Surroundings) (arguments : List RawText) : Except UsageFault Outcome :=
  (Request.ofArguments arguments).map (Request.answer around)

end ClassLint
