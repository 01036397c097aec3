/-
Reading the command line.

Arguments are read from the left. A parameter is a word after two dashes, with its value behind an equals sign or in the
next argument, or a letter after one dash, with its value behind it or in the next argument. A value that comes in an
argument of its own is looked at when the next parameter begins, or at the end, so an argument that nothing takes is
reported before it. Help and version count where they stand: a fault in front of them wins, what follows is not read.
-/
import LineTerminal.Cli.Parameter
import LineTerminal.Cli.Value
import LineTerminal.Config.Load

namespace LineTerminal.Cli

inductive Fault where
  /-- nothing takes this argument -/
  | unexpectedArgument (given : String)
  /-- a parameter has no value, or an empty one where that is none -/
  | missingValue (p : Parameter)
  /-- a parameter is given twice -/
  | repeated (p : Parameter)
  /-- a parameter without a value has one -/
  | unexpectedValue (given : String) (p : Parameter)
  /-- a value is none of the alternatives -/
  | unknownAlternative (given : String) (p : Parameter)
  | invalidNumber (given : String) (p : Parameter) (reason : NumberFault)
  deriving DecidableEq, Repr

def Fault.message : Fault → String
  | unexpectedArgument given => "unexpected argument '" ++ given ++ "' found"
  | missingValue p => "a value is required for '" ++ p.shown ++ "' but none was supplied"
  | repeated p => "the argument '" ++ p.shown ++ "' cannot be used multiple times"
  | unexpectedValue given p =>
    "unexpected value '" ++ given ++ "' for '" ++ p.shown ++ "' found; no more were expected"
  | unknownAlternative given p => "invalid value '" ++ given ++ "' for '" ++ p.shown ++ "'"
  | invalidNumber given p reason =>
    "invalid value '" ++ given ++ "' for '" ++ p.shown ++ "': " ++ reason.message

inductive Invocation where
  | run (f : Flags)
  | help (detailed : Bool)
  | version
  deriving DecidableEq, Repr

/-- what has been read so far -/
structure Reading where
  flags : Flags
  /-- the parameters that have been given -/
  given : List Parameter
  /-- the parameter whose value is in an argument of its own, and that argument once it is there -/
  pending : Option (Parameter × Option String)

namespace Reading

def start : Reading := ⟨.none, [], none⟩

/-- one of the alternatives of a parameter; the empty text is as good as no value -/
def alternative {α : Type} (p : Parameter) (all : List (String × α)) (value : String) : Except Fault α :=
  match choose all false value with
  | .ok a => .ok a
  | .error _ => .error (if value.isEmpty then .missingValue p else .unknownAlternative value p)

def number (p : Parameter) (value : String) : Except Fault UInt32 :=
  match readWord value with
  | .ok n => .ok n
  | .error reason => .error (.invalidNumber value p reason)

/-- flags with the value of a parameter -/
def setValue (f : Flags) (p : Parameter) (value : String) : Except Fault Flags :=
  match p with
  | .config => if value.isEmpty then .error (.missingValue p) else .ok { f with configFile := some value }
  | .deviceId => (number p value).map (fun n => { f with deviceId := some n })
  | .fallbackPonPorts => (number p value).map (fun n => { f with fallbackPonPorts := some n })
  | .errorPolicy => (alternative p Config.policies value).map (fun e => { f with errorPolicy := some e })
  | .logLevel => .ok { f with logLevel := some value }
  | .logFormat => (alternative p Config.formats value).map (fun l => { f with logFormat := some l })
  | .noEnable | .help | .version => .error (.unexpectedValue value p)

/-- a parameter is given, for the first time -/
def mark (r : Reading) (p : Parameter) : Except Fault Reading :=
  if r.given.contains p then .error (.repeated p) else .ok { r with given := p :: r.given }

def supply (r : Reading) (p : Parameter) (value : String) : Except Fault Reading := do
  let r ← r.mark p
  let f ← setValue r.flags p value
  return { r with flags := f }

/-- look at the value that is still to be looked at -/
def settle (r : Reading) : Except Fault Reading :=
  match r.pending with
  | none => .ok r
  | some (p, none) => .error (.missingValue p)
  | some (p, some value) => ({ r with pending := none } : Reading).supply p value

def finish (r : Reading) : Except Fault Invocation := do
  let r ← r.settle
  return .run r.flags

/-- what to go on with after a parameter -/
inductive Next where
  | more (r : Reading)
  | done (i : Invocation)

/-- a parameter, and the value that stands behind it in the same argument -/
def parameter (r : Reading) (p : Parameter) (detailed : Bool) (attached : Option String) : Except Fault Next :=
  match p, attached with
  | .noEnable, some v | .help, some v | .version, some v => .error (.unexpectedValue v p)
  | .noEnable, none => do
    let r ← (← r.settle).mark .noEnable
    return .more { r with flags := { r.flags with noEnable := true } }
  | .help, none => do
    let _ ← r.settle
    return .done (.help detailed)
  | .version, none => do
    let _ ← r.settle
    return .done .version
  | p, some v => do
    let r ← (← r.settle).supply p v
    return .more r
  | p, none => do
    let r ← r.settle
    return .more { r with pending := some (p, none) }

/-- an argument with two dashes, without them -/
def word (r : Reading) (cs : List Char) : Except Fault Next :=
  let name := String.ofList (cs.takeWhile (· != '='))
  let attached := match cs.dropWhile (· != '=') with
    | [] => none
    | _ :: value => some (String.ofList value)
  match Parameter.ofWord? name with
  | some p => r.parameter p true attached
  | none => .error (.unexpectedArgument ("--" ++ name))

/-- an argument with one dash, without it; letters without a value end it, so the first one decides -/
def letters (r : Reading) : List Char → Except Fault Next
  | [] => .ok (.more r)
  | c :: rest =>
    match Parameter.ofLetter? c with
    | none => .error (.unexpectedArgument ("-" ++ c.toString))
    | some p =>
      if !p.takesValue then r.parameter p false none
      else match rest with
        | [] => r.parameter p false none
        | '=' :: value => r.parameter p false (some (String.ofList value))
        | value => r.parameter p false (some (String.ofList value))

def arguments (r : Reading) : List String → Except Fault Invocation
  | [] => r.finish
  | a :: rest => do
    match a.toList with
    | ['-', '-'] =>
      match rest with
      | [] => r.finish
      | x :: _ => .error (.unexpectedArgument x)
    | '-' :: '-' :: cs =>
      match ← r.word cs with
      | .more r => arguments r rest
      | .done i => return i
    | '-' :: c :: cs =>
      match ← r.letters (c :: cs) with
      | .more r => arguments r rest
      | .done i => return i
    | _ =>
      match r.pending with
      | some (p, none) => arguments { r with pending := some (p, some a) } rest
      | _ => .error (.unexpectedArgument a)

end Reading

/-- what a command line asks for -/
def parse (arguments : List String) : Except Fault Invocation := Reading.start.arguments arguments

end LineTerminal.Cli
