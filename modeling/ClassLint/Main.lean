import ClassLint.Command.Run

/-! The command line program: it reads the files that are named, and prints the outcome. -/

namespace ClassLint

/-- Some calls give the code of an error as a negative number. -/
def ReadFault.ofCode (code : UInt32) (details : String) : ReadFault :=
  match if code.toNat < 1 <<< 31 then code.toNat else 1 <<< 32 - code.toNat with
  | 2 => .missing
  | 13 => .system "Permission denied" 13
  | 20 => .notDirectory
  | 21 => .isDirectory
  | code => .system details code

def ReadFault.ofError : IO.Error → ReadFault
  | .noFileOrDirectory _ code details | .inappropriateType _ code details
  | .permissionDenied _ code details | .invalidArgument _ code details
  | .noSuchThing _ code details | .otherError code details => .ofCode code details
  | error => .system (toString error) 0

/-- A path that is no text cannot be handed on to the system from here. -/
def readPath (path : RawText) : IO (Except ReadFault Text) := do
  match path.text? with
  | none => return .error .missing
  | some path =>
    try
      match String.fromUTF8? (← IO.FS.readBinFile (String.ofList path)) with
      | some content => return .ok content.toList
      | none => return .error .notText
    catch error => return .error (.ofError error)

def readerOf (contents : List (RawText × Except ReadFault Text)) : FileReader := fun path =>
  match contents.find? fun entry => entry.1 = path with
  | some entry => entry.2
  | none => .error .missing

def Tone.code : Tone → Text
  | .underlined => "4"
  | .dimmed => "2"
  | .red => "31"
  | .redBold => "31;1"

def paintOnTerminal : Painter := fun tone t => "\x1b[" ++ tone.code ++ 'm' :: t ++ "\x1b[0m"

def logLines : List Entry → Text := List.flatMap fun
  | .notice component message => " WARN " ++ message ++ " component=" ++ Json.quoted component ++
      ['\n']
  | _ => []

def explanation : CommandError → Text
  | .configMalformed _ fault => fault.category
  | .pathUnwritable _ => "path contains invalid UTF-8 characters"
  | _ => "it cannot be compiled"

end ClassLint

open ClassLint in
def main (arguments : List String) : IO UInt32 := do
  match Request.ofArguments (arguments.map fun argument => argument.toList) with
  | .error _ =>
    IO.eprintln "error: the arguments cannot be understood"
    return 2
  | .ok request =>
    let contents ← request.paths.mapM fun path => return (path, ← readPath path)
    let outcome := request.answer {
      read := readerOf contents
      outputIsTerminal := ← (← IO.getStdout).isTty
      errorsAreTerminal := ← (← IO.getStderr).isTty
      paint := paintOnTerminal
      help := "Usage: rscss [OPTIONS] [FILE]...\n"
      log := fun _ _ => logLines
      explain := explanation }
    IO.print (String.ofList outcome.output)
    IO.eprint (String.ofList outcome.errors)
    return outcome.status.toUInt32
