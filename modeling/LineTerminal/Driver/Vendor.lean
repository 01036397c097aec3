/-
The driver over the vendor's host library, with the library linked and without.

The library is a state machine that takes and answers plain numbers. Both builds check the ids of a call first, so a
terminal above 15 or an interface above 127 never reaches the library. Linked, the status number decides and a reported
port count above 128 is an internal error; a topology that comes with a failing status is dropped. Not linked, a call
that passes the checks is not supported.
-/
import LineTerminal.Driver
import LineTerminal.Text.Quoted

namespace LineTerminal.Vendor

open Log (Line Level)

/-- the library accepts terminals below this number -/
def maxOlts : UInt32 := 16

/-- a terminal has at most so many PON interfaces -/
def maxPonInterfaces : UInt32 := 128

/-- a topology as the library writes it -/
structure RawTopology where
  ponPorts : UInt32
  macDevices : UInt32
  mode : UInt32
  deriving DecidableEq, Repr

/-- the library: each entry point answers a status number, a read also writes a topology -/
structure Library (σ : Type) where
  hostInit : σ → Int32 × σ
  readConfig : UInt32 → σ → Int32 × RawTopology × σ
  activatePon : UInt32 → UInt32 → σ → Int32 × σ

def resultOfRaw (n : Int32) : Except DriverError Unit := (Errno.ofRaw n).result

/-- a terminal the library does not know is refused -/
def checkOlt (olt : OltId) : Except DriverError Unit :=
  if olt.raw ≥ maxOlts then
    .error (.invalidParameter ("OLT id " ++ olt.text ++ " out of range (max " ++ toString (maxOlts.toNat - 1) ++ ")"))
  else .ok ()

/-- an interface the library does not know is refused -/
def checkPon (pon : PonId) : Except DriverError Unit :=
  if pon.raw ≥ maxPonInterfaces then
    .error (.invalidParameter
      ("PON interface " ++ pon.text ++ " out of range (max " ++ toString (maxPonInterfaces.toNat - 1) ++ ")"))
  else .ok ()

/-- the checks before a submission: the terminal first, then the interface -/
def checkSubmit (olt : OltId) (operation : Operation) : Except DriverError Unit :=
  match checkOlt olt with
  | .error e => .error e
  | .ok () => checkPon operation.target

/-- what a successful read reports -/
def infoOf (olt : OltId) (t : RawTopology) : Except DriverError OltInfo :=
  if t.ponPorts > maxPonInterfaces then
    .error (.internal
      ("OLT " ++ olt.text ++ " reported " ++ toString t.ponPorts.toNat ++ " PON ports (max "
        ++ toString maxPonInterfaces.toNat ++ ")"))
  else .ok ⟨⟨t.ponPorts, t.macDevices, .ofRaw t.mode⟩, ""⟩

/-- a line of the host library -/
def line (level : Level) (message : String) : Line := ⟨level, .hostLibrary, message, []⟩

/-- logged before the host side is brought up -/
def hostInitLine (ctx : Option RequestContext) : Line :=
  line .debug ("bal host_init (request " ++ Text.optional Text.quoted (requestIdOf ctx) ++ ")")

/-- logged before an operation is handed on -/
def submitLine (olt : OltId) (operation : Operation) : Line :=
  line .debug ("bal oper_submit olt " ++ olt.text ++ " activate pon_ni " ++ operation.target.text)

/-- logged when the host side cannot be brought up because there is no library -/
def unavailableLine : Line := line .warn "BAL host library not linked; host_init unavailable"

/-- what a call answers that would need the library -/
def notLinked : DriverError := .notSupported "BAL host library not linked"

/-- the driver of a build with the library -/
def linked {σ : Type} (lib : Library σ) : Driver σ where
  hostInit ctx s :=
    let r := lib.hostInit s
    ⟨resultOfRaw r.1, r.2, [hostInitLine ctx]⟩
  readConfig olt s :=
    match checkOlt olt with
    | .error e => ⟨.error e, s, []⟩
    | .ok () =>
      let r := lib.readConfig olt.raw s
      ⟨(resultOfRaw r.1).bind (fun _ => infoOf olt r.2.1), r.2.2, []⟩
  submit olt operation s :=
    match checkSubmit olt operation with
    | .error e => ⟨.error e, s, []⟩
    | .ok () =>
      let r := lib.activatePon olt.raw operation.target.raw s
      ⟨resultOfRaw r.1, r.2, [submitLine olt operation]⟩

/-- the driver of a build without the library -/
def unlinked {σ : Type} : Driver σ where
  hostInit ctx s := ⟨.error notLinked, s, [hostInitLine ctx, unavailableLine]⟩
  readConfig olt s :=
    match checkOlt olt with
    | .error e => ⟨.error e, s, []⟩
    | .ok () => ⟨.error notLinked, s, []⟩
  submit olt operation s :=
    match checkSubmit olt operation with
    | .error e => ⟨.error e, s, []⟩
    | .ok () => ⟨.error notLinked, s, [submitLine olt operation]⟩

end LineTerminal.Vendor
