/-
A vendor library that answers from a script.

It stands in for the real library: raw status numbers for each entry point, one topology, and a queue of numbers for the
next activations. The topology is written whatever the status number is.
-/
import LineTerminal.Driver.Vendor

namespace LineTerminal.Vendor

inductive LibraryCall where
  | hostInit
  | readConfig (olt : UInt32)
  | activatePon (olt pon : UInt32)
  deriving DecidableEq, Repr

/-- a scripted library's state -/
structure ScriptedLibrary where
  hostInit : Int32
  readConfig : Int32
  topology : RawTopology
  /-- the numbers of the next activations -/
  once : List Int32
  /-- the number of an activation when no such number is left -/
  activate : Int32
  /-- the entries so far, oldest first -/
  calls : List LibraryCall
  deriving DecidableEq, Repr

namespace ScriptedLibrary

/-- everything succeeds and nothing is reported -/
def fresh : ScriptedLibrary := ⟨0, 0, ⟨0, 0, 0⟩, [], 0, []⟩

def note (s : ScriptedLibrary) (call : LibraryCall) : ScriptedLibrary := { s with calls := s.calls ++ [call] }

/-- the library that follows a script -/
def library : Library ScriptedLibrary where
  hostInit s := (s.hostInit, s.note .hostInit)
  readConfig olt s := (s.readConfig, s.topology, s.note (.readConfig olt))
  activatePon olt pon s :=
    match s.once with
    | [] => (s.activate, s.note (.activatePon olt pon))
    | n :: rest => (n, { s.note (.activatePon olt pon) with once := rest })

/-- a change of the script or of the list of entries -/
inductive Change where
  | hostInit (n : Int32)
  | readConfig (n : Int32)
  | topology (t : RawTopology)
  | activate (n : Int32)
  /-- queue one more number -/
  | activateOnce (n : Int32)
  | clearCalls
  deriving DecidableEq, Repr

def change (s : ScriptedLibrary) : Change → ScriptedLibrary
  | .hostInit n => { s with hostInit := n }
  | .readConfig n => { s with readConfig := n }
  | .topology t => { s with topology := t }
  | .activate n => { s with activate := n }
  | .activateOnce n => { s with once := s.once ++ [n] }
  | .clearCalls => { s with calls := [] }

end ScriptedLibrary

end LineTerminal.Vendor
