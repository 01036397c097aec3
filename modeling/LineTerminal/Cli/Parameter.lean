/-
The parameters of the command line.
-/
import LineTerminal.Activation
import LineTerminal.Log.Line

namespace LineTerminal.Cli

inductive Parameter where
  | config | deviceId | fallbackPonPorts | errorPolicy | logLevel | logFormat | noEnable | help | version
  deriving DecidableEq, Repr

namespace Parameter

/-- every parameter, as the help lists them -/
def all : List Parameter :=
  [config, deviceId, fallbackPonPorts, errorPolicy, logLevel, logFormat, noEnable, help, version]

/-- the letter after one dash -/
def letter? : Parameter → Option Char
  | config => some 'c'
  | deviceId => some 'd'
  | logLevel => some 'l'
  | help => some 'h'
  | version => some 'V'
  | _ => none

/-- the word after two dashes -/
def word : Parameter → String
  | config => "config"
  | deviceId => "device-id"
  | fallbackPonPorts => "fallback-pon-ports"
  | errorPolicy => "config-error-policy"
  | logLevel => "log-level"
  | logFormat => "log-format"
  | noEnable => "no-enable"
  | help => "help"
  | version => "version"

/-- what stands for the value; none for a parameter without a value -/
def valueName? : Parameter → Option String
  | config => some "CONFIG"
  | deviceId => some "DEVICE_ID"
  | fallbackPonPorts => some "FALLBACK_PON_PORTS"
  | errorPolicy => some "CONFIG_ERROR_POLICY"
  | logLevel => some "LOG_LEVEL"
  | logFormat => some "LOG_FORMAT"
  | noEnable | help | version => none

def takesValue (p : Parameter) : Bool := p.valueName?.isSome

/-- a parameter with its value, as messages and the help show it -/
def shown (p : Parameter) : String :=
  "--" ++ p.word ++ ((p.valueName?.map (fun v => " <" ++ v ++ ">")).getD "")

/-- what a parameter is for; the detailed help points to the brief one and the brief one to the detailed one -/
def about (detailed : Bool) : Parameter → String
  | config => "YAML configuration file"
  | deviceId => "BAL id of the OLT to manage"
  | fallbackPonPorts => "PON ports assumed while the OLT has not published its configuration"
  | errorPolicy => "Behavior when reading the OLT configuration fails"
  | logLevel => "Log level (trace, debug, info, warn, error)"
  | logFormat => "Log output format"
  | noEnable => "Skip the enable call at startup"
  | help => if detailed then "Print help (see a summary with '-h')" else "Print help (see more with '--help')"
  | version => "Print version"

/-- the values to choose from, with what they do where that is told -/
def alternatives : Parameter → List (String × Option String)
  | errorPolicy => ErrorPolicy.all.map (fun p => (p.name, some (match p with
    | .fallback => "Warn and continue with the fallback port set"
    | .fatal => "Fail the enable call before touching any PON port")))
  | logFormat => Log.Format.all.map (fun f => (f.name, none))
  | _ => []

def ofLetter? (c : Char) : Option Parameter := all.find? (·.letter? == some c)

def ofWord? (w : String) : Option Parameter := all.find? (·.word == w)

end Parameter

end LineTerminal.Cli
