/-
A driver that answers from a script and remembers what it was asked.

The script holds one status code for each kind of call, the configuration a read reports, and a queue of codes for the
next submissions: a submission takes the oldest code of the queue, and the standing code once the queue is empty. Every
call is noted in the journal, whether it succeeds or fails, and clearing the journal changes no answer.
-/
import LineTerminal.Driver

namespace LineTerminal

structure Script where
  hostInit : Errno
  readConfig : Errno
  /-- reported when the read succeeds -/
  info : OltInfo
  /-- the codes of the next submissions -/
  once : List Errno
  /-- the code of a submission when no such code is left -/
  submit : Errno
  deriving DecidableEq, Repr

/-- everything succeeds and nothing is reported -/
def Script.silent : Script := ⟨.ok, .ok, .blank, [], .ok⟩

/-- the answer to the next submission, and the script after it -/
def Script.nextSubmit (s : Script) : Errno × Script :=
  match s.once with
  | [] => (s.submit, s)
  | e :: rest => (e, { s with once := rest })

/-- a scripted driver's state -/
structure Scripted where
  script : Script
  /-- the calls since the journal was last cleared, oldest first -/
  journal : List Call
  deriving DecidableEq, Repr

namespace Scripted

/-- a driver that has not been called yet -/
def fresh (script : Script) : Scripted := ⟨script, []⟩

def note (s : Scripted) (call : Call) : Scripted := { s with journal := s.journal ++ [call] }

/-- the driver that follows a script -/
def driver : Driver Scripted where
  hostInit ctx s := ⟨s.script.hostInit.result, s.note (.hostInit (requestIdOf ctx)), []⟩
  readConfig olt s :=
    ⟨s.script.readConfig.result.map (fun _ => s.script.info), s.note (.readConfig olt), []⟩
  submit olt operation s :=
    let next := s.script.nextSubmit
    ⟨next.1.result, { s.note (.submit olt operation) with script := next.2 }, []⟩

/-- a change of the script or of the journal -/
inductive Change where
  | hostInit (errno : Errno)
  | readConfig (errno : Errno)
  | info (info : OltInfo)
  | submit (errno : Errno)
  /-- queue one more code -/
  | submitOnce (errno : Errno)
  | clearJournal
  deriving DecidableEq, Repr

def change (s : Scripted) : Change → Scripted
  | .hostInit e => { s with script := { s.script with hostInit := e } }
  | .readConfig e => { s with script := { s.script with readConfig := e } }
  | .info i => { s with script := { s.script with info := i } }
  | .submit e => { s with script := { s.script with submit := e } }
  | .submitOnce e => { s with script := { s.script with once := s.script.once ++ [e] } }
  | .clearJournal => { s with journal := [] }

def hostInits (s : Scripted) : Nat := s.journal.countP (·.isHostInit)

def configReads (s : Scripted) : Nat := s.journal.countP (·.isReadConfig)

/-- how often an operation was submitted -/
def submissions (s : Scripted) : Nat := s.journal.countP (·.isSubmit)

/-- the interfaces that operations were submitted for, in order -/
def submitted (s : Scripted) : List PonId := s.journal.filterMap (·.target?)

end Scripted

end LineTerminal
