/-
The help and the version that the command line prints.

The brief help has one line for what a parameter is for and names its alternatives there. The detailed help leaves a line
free between parameters and says of each alternative what it does.
-/
import LineTerminal.Cli.Parameter

namespace LineTerminal.Cli

def programName : String := "openolt-agent"

def programVersion : String := "0.1.0"

def programAbout : String := "OpenOLT agent - OLT device activation over the BAL host API"

namespace Help

/-- blanks in front of what a parameter is for -/
def margin : String := "          "

def heading (p : Parameter) : String :=
  match p.letter? with
  | some c => "  -" ++ c.toString ++ ", " ++ p.shown
  | none => "      " ++ p.shown

def bracketed (names : List String) : String := "[possible values: " ++ ", ".intercalate names ++ "]"

def brief (p : Parameter) : List String :=
  let names := p.alternatives.map (·.1)
  [heading p, margin ++ p.about false ++ (if names.isEmpty then "" else " " ++ bracketed names)]

/-- the line of an alternative whose name has so much room -/
def alternative (room : Nat) (name about : String) : String :=
  margin ++ "- " ++ name ++ ":" ++ String.ofList (List.replicate (room + 1 - name.length) ' ') ++ about

def detailed (p : Parameter) : List String :=
  let names := p.alternatives.map (·.1)
  let room := (names.map String.length).foldl max 0
  let described := p.alternatives.filterMap (fun (name, about) => about.map (alternative room name))
  [heading p, margin ++ p.about true] ++
    (if names.isEmpty then []
     else if described.isEmpty then [margin, margin ++ bracketed names]
     else ["", margin ++ "Possible values:"] ++ described)

def opening : List String := [programAbout, "", "Usage: " ++ programName ++ " [OPTIONS]", "", "Options:"]

def text (lines : List String) : String := String.join (lines.map (· ++ "\n"))

def briefText : String := text (opening ++ Parameter.all.flatMap brief)

def detailedText : String := text (opening ++ [""].intercalate (Parameter.all.map detailed))

end Help

def versionText : String := programName ++ " " ++ programVersion ++ "\n"

end LineTerminal.Cli
