import ClassLint.Dialect

/-! Reading the arguments of the command from left to right. -/

namespace ClassLint

inductive ReportFormat where
  | text
  | json
  deriving DecidableEq, Repr

def ReportFormat.ofName? (t : Text) : Option ReportFormat :=
  if t = "text" then some .text else if t = "json" then some .json else none

inductive ValueOption where
  | config
  | dialect
  | format
  deriving DecidableEq, Repr

inductive Switch where
  | noColor
  | printConfig
  | verbose
  | version
  | help
  deriving DecidableEq, Repr

inductive CommandOption where
  | valued (option : ValueOption)
  | switch (switch : Switch)
  deriving DecidableEq, Repr

def CommandOption.ofName? (name : RawText) : Option CommandOption :=
  ([("config", .valued .config), ("syntax", .valued .dialect), ("format", .valued .format),
    ("no-color", .switch .noColor), ("print-config", .switch .printConfig),
    ("verbose", .switch .verbose), ("version", .switch .version), ("help", .switch .help)] :
    List (String × CommandOption)).find? (fun entry => RawText.ofText entry.1 = name) |>.map Prod.snd

def CommandOption.ofLetter? (letter : UInt8) : Option CommandOption :=
  ([('c', .valued .config), ('v', .switch .verbose), ('V', .switch .version),
    ('h', .switch .help)] : List (Char × CommandOption)).find? (fun entry =>
      entry.1.toUInt8 = letter) |>.map Prod.snd

inductive UsageFault where
  | unknownOption (argument : RawText)
  | missingValue (argument : RawText)
  | unexpectedValue (argument : RawText)
  | invalidValue (value : RawText)
  | repeated (argument : RawText)
  | emptyPath
  | missingFile
  deriving DecidableEq, Repr

structure Invocation where
  files : List RawText := []
  config? : Option RawText := none
  dialect? : Option Dialect := none
  format? : Option ReportFormat := none
  noColor : Bool := false
  printConfig : Bool := false
  verbosity : Nat := 0
  deriving DecidableEq, Repr

/-- Some arguments are answered at once, whatever follows them. -/
inductive Request where
  | version
  | help
  | check (invocation : Invocation)
  deriving DecidableEq, Repr

/-- What one argument leads to; an option may leave its value to the next argument. -/
inductive Reading where
  | settled (invocation : Invocation)
  | awaiting (invocation : Invocation) (option : ValueOption)
  | answered (request : Request)
  deriving DecidableEq, Repr

namespace Invocation

def addFile (invocation : Invocation) (path : RawText) : Except UsageFault Invocation :=
  if path.bytes.isEmpty then .error .emptyPath
  else .ok { invocation with files := invocation.files ++ [path] }

def assign (invocation : Invocation) (argument value : RawText) :
    ValueOption → Except UsageFault Invocation
  | .config =>
    if invocation.config?.isSome then .error (.repeated argument)
    else if value.bytes.isEmpty then .error .emptyPath
    else .ok { invocation with config? := some value }
  | .dialect =>
    if invocation.dialect?.isSome then .error (.repeated argument)
    else
      match value.text?.bind Dialect.ofName? with
      | some dialect => .ok { invocation with dialect? := some dialect }
      | none => .error (.invalidValue value)
  | .format =>
    if invocation.format?.isSome then .error (.repeated argument)
    else
      match value.text?.bind ReportFormat.ofName? with
      | some format => .ok { invocation with format? := some format }
      | none => .error (.invalidValue value)

/-- Only the switch for more messages may come again. -/
def flip (invocation : Invocation) (argument : RawText) : Switch → Except UsageFault Reading
  | .noColor =>
    if invocation.noColor then .error (.repeated argument)
    else .ok (.settled { invocation with noColor := true })
  | .printConfig =>
    if invocation.printConfig then .error (.repeated argument)
    else .ok (.settled { invocation with printConfig := true })
  | .verbose => .ok (.settled { invocation with verbosity := invocation.verbosity + 1 })
  | .version => .ok (.answered .version)
  | .help => .ok (.answered .help)

def readLong (invocation : Invocation) (argument name : RawText) (value? : Option RawText) :
    Except UsageFault Reading :=
  match CommandOption.ofName? name, value? with
  | none, _ => .error (.unknownOption argument)
  | some (.switch switch), none => invocation.flip argument switch
  | some (.switch _), some _ => .error (.unexpectedValue argument)
  | some (.valued option), none => .ok (.awaiting invocation option)
  | some (.valued option), some value => (invocation.assign argument value option).map .settled

@[match_pattern] def hyphen : UInt8 := 0x2D

@[match_pattern] def equalsSign : UInt8 := 0x3D

def attachedValue : List UInt8 → RawText
  | equalsSign :: value => ⟨value⟩
  | value => ⟨value⟩

def readShort (invocation : Invocation) (argument : RawText) :
    List UInt8 → Except UsageFault Reading
  | [] => .ok (.settled invocation)
  | letter :: rest =>
    match CommandOption.ofLetter? letter with
    | none => .error (.unknownOption argument)
    | some (.valued option) =>
      if rest.isEmpty then .ok (.awaiting invocation option)
      else (invocation.assign argument (attachedValue rest) option).map .settled
    | some (.switch switch) =>
      match invocation.flip argument switch with
      | .ok (.settled invocation) => readShort invocation argument rest
      | outcome => outcome

def splitValue (bytes : List UInt8) : RawText × Option RawText :=
  match bytes.dropWhile (· ≠ equalsSign) with
  | [] => (⟨bytes⟩, none)
  | _ :: value => (⟨bytes.takeWhile (· ≠ equalsSign)⟩, some ⟨value⟩)

/-- A single hyphen is a path and no option. -/
def isOption (argument : RawText) : Bool :=
  match argument.bytes with
  | hyphen :: _ :: _ => true
  | _ => false

def readArgument (invocation : Invocation) (argument : RawText) : Except UsageFault Reading :=
  match argument.bytes with
  | hyphen :: hyphen :: long =>
    invocation.readLong argument (splitValue long).1 (splitValue long).2
  | hyphen :: letter :: letters => invocation.readShort argument (letter :: letters)
  | _ => (invocation.addFile argument).map .settled

def request (invocation : Invocation) : Except UsageFault Request :=
  if invocation.files.isEmpty && !invocation.printConfig then .error .missingFile
  else .ok (.check invocation)

/-- After two hyphens every argument is a file. -/
def readArguments (invocation : Invocation) : List RawText → Except UsageFault Request
  | [] => invocation.request
  | argument :: rest =>
    if argument = "--" then (rest.foldlM addFile invocation).bind request
    else
      match invocation.readArgument argument with
      | .error fault => .error fault
      | .ok (.answered request) => .ok request
      | .ok (.settled invocation) => readArguments invocation rest
      | .ok (.awaiting invocation option) =>
        match rest with
        | [] => .error (.missingValue argument)
        | value :: rest =>
          if isOption value then .error (.missingValue argument)
          else
            match invocation.assign argument value option with
            | .error fault => .error fault
            | .ok invocation => readArguments invocation rest

end Invocation

def Request.ofArguments (arguments : List RawText) : Except UsageFault Request :=
  ({} : Invocation).readArguments arguments

end ClassLint
