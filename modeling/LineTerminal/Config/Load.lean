/-
The configuration of a run: what is written in a file, and what the command line asks for.

A blank text is the standard configuration; any other is a YAML document. What was read is checked before it is used, and
the first of the three steps that fails gives the reason. The configuration that is used is that of the named file, or the
standard one, with the value of each given flag in its field. It is checked once more after that, so a flag cannot make a
good file bad unnoticed, nor a bad file good.
-/
import LineTerminal.Config.Agent
import LineTerminal.File
import LineTerminal.Yaml.Source

namespace LineTerminal.Config

/-- why a configuration cannot be used -/
inductive LoadError where
  | unreadable (path : String) (fault : File.Fault)
  | unfit (fault : Yaml.Fault)
  | invalid (i : Agent.Invalid)

def LoadError.message : LoadError → String
  | unreadable path fault => "Failed to read config file '" ++ path ++ "': " ++ fault.message
  | unfit fault => "Failed to parse config: " ++ fault.message
  | invalid i => i.message

namespace Agent

/-- a configuration when it is valid -/
def checked (c : Agent) : Except LoadError Agent :=
  match c.validate with
  | .ok _ => .ok c
  | .error i => .error (.invalid i)

def ofDocument (d : Yaml.Document) : Except LoadError Agent :=
  match d.decode (decode Yaml.source) with
  | .ok c => c.checked
  | .error fault => .error (.unfit fault)

def ofText (text : String) : Except LoadError Agent :=
  if Text.isBlankText text then standard.checked else ofDocument (.ofText text)

/-- the configuration in a file, given what the file held -/
def ofFile (path : String) (text : Except File.Fault String) : Except LoadError Agent :=
  match text with
  | .ok text => ofText text
  | .error fault => .error (.unreadable path fault)

end Agent

end LineTerminal.Config

namespace LineTerminal.Cli

/-- what the command line asks for -/
structure Flags where
  configFile : Option String
  deviceId : Option UInt32
  fallbackPonPorts : Option UInt32
  errorPolicy : Option ErrorPolicy
  logLevel : Option String
  logFormat : Option Log.Format
  noEnable : Bool
  deriving DecidableEq, Repr

namespace Flags

def none : Flags := ⟨.none, .none, .none, .none, .none, .none, false⟩

def apply (f : Flags) (c : Config.Agent) : Config.Agent where
  deviceId := f.deviceId.getD c.deviceId
  queueDepth := c.queueDepth
  enableOnStartup := c.enableOnStartup && !f.noEnable
  enable := ⟨f.fallbackPonPorts.getD c.enable.fallbackPonPorts, f.errorPolicy.getD c.enable.policy⟩
  logging := ⟨f.logLevel.getD c.logging.level, f.logFormat.getD c.logging.format⟩

/-- the configuration, given how files are read -/
def configure (f : Flags) (read : String → Except File.Fault String) : Except Config.LoadError Config.Agent := do
  let c ← match f.configFile with
    | .none => pure .standard
    | some path => Config.Agent.ofFile path (read path)
  (f.apply c).checked

end Flags

end LineTerminal.Cli
