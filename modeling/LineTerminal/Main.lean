/-
The command line program.

It reads its arguments, its environment and the file they name, runs the service until it is interrupted and prints
the log. No vendor library is linked in.
-/
import LineTerminal.Cli.Arguments
import LineTerminal.Cli.Help
import LineTerminal.Driver.Vendor
import LineTerminal.File
import LineTerminal.Log.Entry
import LineTerminal.Log.Filter
import LineTerminal.Service
import LineTerminal.Text
import LineTerminal.Time.Timestamp
import Std.Async.Signal
import Std.Time.DateTime.Timestamp

namespace LineTerminal.Program

def now : IO Time.Timestamp := do
  let t ← Std.Time.Timestamp.now
  return (Time.Timestamp.ofNanoseconds t.toNanosecondsSinceUnixEpoch.val.toNat).getD .epoch

/-- why the operating system did not give a file; some of its calls tell the number with a minus sign -/
def faultOf (code : UInt32) (details : String) : File.Fault :=
  match (min code (-code)).toNat with
  | 2 => .notFound
  | 20 => .notADirectory
  | 21 => .isADirectory
  | 36 => .nameTooLong
  | n => .system details n

/-- why a file could not be read -/
def fileFault : IO.Error → File.Fault
  | .noFileOrDirectory _ code details => faultOf code details
  | .inappropriateType _ code details => faultOf code details
  | .invalidArgument _ code details => faultOf code details
  | .permissionDenied _ code details => faultOf code details
  | .resourceExhausted _ code details => faultOf code details
  | .noSuchThing _ code details => faultOf code details
  | .otherError code details => faultOf code details
  | e => .system e.toString 0

def readText (path : String) : IO (Except File.Fault String) := do
  try
    return File.textOfBytes (← IO.FS.readBinFile path)
  catch e => return .error (fileFault e)

/-- print the part of the log that passes -/
def printLog (filter : Log.Filter) (format : Log.Format) (time : Time.Timestamp) (log : List Log.Entry) : IO Unit := do
  for e in log.filter (fun e => filter.passes e.event) do
    IO.println (format.write time.render e)
  (← IO.getStdout).flush

/-- wait for an interrupt; if that is not possible, say why -/
def waitForInterrupt (waiter : Except String Std.Async.Signal.Waiter) : IO (Except String Unit) := do
  match waiter with
  | .error reason => return .error reason
  | .ok waiter =>
    try
      let _ ← (← waiter.wait).block
      return .ok ()
    catch e => return .error e.toString

/-- be ready to be interrupted -/
def expectInterrupt : IO (Except String Std.Async.Signal.Waiter) := do
  try
    return .ok (← Std.Async.Signal.Waiter.mk .sigint true)
  catch e => return .error e.toString

def serve (flags : Cli.Flags) : IO Ending := do
  let text ← match flags.configFile with
    | some path => readText path
    | none => pure (.error .notFound)
  let config := flags.configure (fun _ => text)
  let logging := Service.loggingOf flags config
  let filter := Log.Filter.choose (← IO.getEnv "RUST_LOG") logging.level
  let begun ← now
  let driver := Vendor.unlinked
  match config with
  | .error e =>
    printLog filter logging.format begun [Service.refusedEntry e]
    return .refused
  | .ok c =>
    match Service.launch driver (fun _ => begun) flags.configFile c () with
    | .error (ending, log) =>
      printLog filter logging.format begun log
      return ending
    | .ok running =>
      let waiter ← expectInterrupt
      printLog filter logging.format begun running.log
      let interrupt ← waitForInterrupt waiter
      let ended ← now
      let stopped := Service.stop driver (fun _ => ended) ⟨interrupt, "the daemon has not come to its end"⟩ running
      printLog filter logging.format ended (stopped.log.drop running.log.length)
      return stopped.ending

end LineTerminal.Program

open LineTerminal in
def main (args : List String) : IO UInt32 := do
  match Cli.parse args with
  | .error e =>
    IO.eprintln (Text.plain ("error: " ++ e.message) ++ "\n\nFor more information, try '--help'.")
    return Ending.misused.code.toUInt32
  | .ok (.help detailed) =>
    IO.print (if detailed then Cli.Help.detailedText else Cli.Help.briefText)
    return 0
  | .ok .version =>
    IO.print Cli.versionText
    return 0
  | .ok (.run flags) => return (← Program.serve flags).code.toUInt32
