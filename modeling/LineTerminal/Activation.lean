/-
The settings of an enable and its result.

`Activation` holds one report per PON port that was attempted, where the number of ports came from, and the error if the
enable failed. `verdict` is the rule for the ports: one that came up is enough, and having no port at all is no failure.
-/
import LineTerminal.DriverError
import LineTerminal.Olt

namespace LineTerminal

/-! ## Settings -/

/-- what to do when the configuration cannot be read for another reason than "not connected" -/
inductive ErrorPolicy where
  /-- warn and go on with the fallback ports -/
  | fallback
  /-- fail before any port is touched -/
  | fatal
  deriving DecidableEq, Repr

def ErrorPolicy.all : List ErrorPolicy := [.fallback, .fatal]

def ErrorPolicy.name : ErrorPolicy → String
  | .fallback => "fallback"
  | .fatal => "fatal"

structure EnableSettings where
  /-- PON ports assumed when the terminal does not report them -/
  fallbackPonPorts : UInt32
  policy : ErrorPolicy
  deriving DecidableEq, Repr

/-- one port is assumed, and a failed read is no reason to stop -/
def EnableSettings.standard : EnableSettings := ⟨1, .fallback⟩

/-! ## Results -/

/-- did a PON port come up -/
inductive PortStatus where
  | success | failed
  deriving DecidableEq, Repr

/-- what became of one PON port -/
structure PortReport where
  pon : PonId
  status : PortStatus
  /-- the text of the driver's error, if the port did not come up -/
  error : Option String
  deriving DecidableEq, Repr

namespace PortReport

def succeeded (pon : PonId) : PortReport := ⟨pon, .success, none⟩

def failed (pon : PonId) (error : String) : PortReport := ⟨pon, .failed, some error⟩

def isSuccess (p : PortReport) : Bool := p.status == .success

end PortReport

/-- where the number of PON ports came from -/
inductive Discovery where
  /-- the terminal reported it -/
  | configured
  /-- the terminal was not connected yet, the fallback was taken -/
  | notConnectedFallback
  /-- the read failed otherwise, the fallback was taken -/
  | errorFallback
  deriving DecidableEq, Repr

def Discovery.name : Discovery → String
  | .configured => "configured"
  | .notConnectedFallback => "not_connected_fallback"
  | .errorFallback => "error_fallback"

inductive EnableError where
  /-- another device than the managed one was meant -/
  | unknownDevice (requested managed : UInt32)
  /-- the host side did not come up -/
  | hostInit (cause : DriverError)
  /-- the configuration could not be read and that is fatal -/
  | configRead (cause : DriverError)
  /-- no port came up -/
  | allPortsFailed (attempted : UInt32)
  deriving DecidableEq, Repr

namespace EnableError

def message : EnableError → String
  | unknownDevice requested managed =>
    "Unknown device " ++ toString requested.toNat ++ " (managing device " ++ toString managed.toNat ++ ")"
  | hostInit cause => "Failed to init OLT host interface: " ++ cause.message
  | configRead cause => "Failed to read OLT configuration: " ++ cause.message
  | allPortsFailed attempted => "Failed to activate all PON ports (" ++ toString attempted.toNat ++ " attempted)"

def cause? : EnableError → Option DriverError
  | hostInit cause | configRead cause => some cause
  | _ => none

end EnableError

structure Activation where
  error : Option EnableError
  /-- one report per attempted port, in order -/
  ports : List PortReport
  /-- missing when no port was looked for -/
  discovery : Option Discovery
  deriving DecidableEq, Repr

/-- one port that came up is enough, and no port at all is no failure -/
def verdict (ports : List PortReport) : Option EnableError :=
  if ports.isEmpty || ports.any (·.isSuccess) then none
  else some (.allPortsFailed ports.length.toUInt32)

namespace Activation

/-- the message of a successful result -/
def okMessage : String := ""

/-- a result that failed before any port was attempted -/
def rejected (error : EnableError) : Activation := ⟨some error, [], none⟩

/-- the result of attempted ports -/
def ofPorts (ports : List PortReport) (discovery : Discovery) : Activation :=
  ⟨verdict ports, ports, some discovery⟩

def isOk (a : Activation) : Bool := a.error.isNone

/-- was the enable given up before any port was attempted -/
def isRejected (a : Activation) : Bool :=
  match a.error with
  | some (.unknownDevice _ _) | some (.hostInit _) | some (.configRead _) => true
  | _ => false

theorem isRejected_ofPorts (ports : List PortReport) (discovery : Discovery) :
    (ofPorts ports discovery).isRejected = false := by
  unfold ofPorts verdict
  split <;> rfl

/-- empty on success, otherwise the text of the error -/
def message (a : Activation) : String :=
  match a.error with
  | none => okMessage
  | some e => e.message

def succeeded (a : Activation) : Nat := a.ports.countP (·.isSuccess)

def failed (a : Activation) : Nat := a.ports.length - a.succeeded

/-- the ports of a successful result, or the error -/
def result (a : Activation) : Except EnableError (List PortReport) :=
  match a.error with
  | none => .ok a.ports
  | some e => .error e

end Activation

end LineTerminal
