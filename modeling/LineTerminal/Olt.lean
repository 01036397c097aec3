/-
Line terminals and their passive-optical-network interfaces: the numbers that name them, what a terminal reports about
itself, and what it can be asked to do.

Terminals and interfaces are numbered separately. `ObjectId kind` carries the kind of object in its type, so the number of
an interface cannot stand where a terminal is meant. Two ids of one kind are compared by their numbers.

`OltInfo` is the answer of a configuration read: the topology of the terminal and its firmware. `Operation` is the set of
operations that can be submitted; bringing one PON interface up is the only one.
-/
namespace LineTerminal

/-! ## Numbers -/

/-- the kinds of object a driver numbers -/
inductive ObjectKind where
  | olt
  | ponInterface
  deriving DecidableEq, Repr

def ObjectKind.name : ObjectKind → String
  | .olt => "Olt"
  | .ponInterface => "PonInterface"

/-- the number of an object of one kind -/
structure ObjectId (kind : ObjectKind) where
  raw : UInt32
  deriving DecidableEq, Repr

/-- the number of a line terminal -/
abbrev OltId := ObjectId .olt

/-- the number of a PON interface of a line terminal -/
abbrev PonId := ObjectId .ponInterface

namespace ObjectId

variable {kind : ObjectKind}

/-- the number alone, in decimal -/
def text (id : ObjectId kind) : String := toString id.raw.toNat

/-- the kind and the number -/
def describe (id : ObjectId kind) : String := kind.name ++ "(" ++ id.text ++ ")"

/-- ids are ordered by their numbers -/
def order (a b : ObjectId kind) : Ordering := compare a.raw.toNat b.raw.toNat

end ObjectId

/-! ## Terminals -/

/-- the technology of the optical network -/
inductive PonMode where
  | gpon | xgsPon | xgPon | epon
  deriving DecidableEq, Repr

/-- the mode behind a driver's number; an unknown number means GPON -/
def PonMode.ofRaw (n : UInt32) : PonMode :=
  if n = 1 then .xgsPon else if n = 2 then .xgPon else if n = 3 then .epon else .gpon

/-- the ports of a line terminal -/
structure Topology where
  /-- PON ports that face the switch -/
  ponPorts : UInt32
  /-- MAC devices behind the ports -/
  macDevices : UInt32
  mode : PonMode
  deriving DecidableEq, Repr

/-- the answer of a configuration read -/
structure OltInfo where
  topology : Topology
  /-- empty when the terminal does not report it -/
  firmware : String
  deriving DecidableEq, Repr

namespace OltInfo

/-- a terminal that reports so many PON ports and nothing else -/
def withPonPorts (n : UInt32) : OltInfo := ⟨⟨n, 0, .gpon⟩, ""⟩

/-- a terminal that reports nothing -/
def blank : OltInfo := withPonPorts 0

/-- the number of PON ports to bring up -/
def ponPorts (info : OltInfo) : UInt32 := info.topology.ponPorts

end OltInfo

inductive Operation where
  /-- bring one PON interface up -/
  | activatePon (pon : PonId)
  deriving DecidableEq, Repr

/-- the interface an operation is about -/
def Operation.target : Operation → PonId
  | .activatePon pon => pon

end LineTerminal
