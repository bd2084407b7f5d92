/-
# The program

Runs a command line with the settings of the environment, writes what the run
writes, and ends as it ends. No database is within reach of this layer and it
opens no sockets: a run that listens goes on until its standard input ends, which
stands for the signal that interrupts it.
-/
import UserAccounts.Program.Run

open UserAccounts

def environmentLookup : IO Lookup := do
  let keys := Program.Filter.key :: Database.optionKeys ++ settingKeys
  let values ← keys.mapM fun key => do return (key, ← IO.getEnv key)
  return fun key => (values.lookup key).join

/-- Reads lines until there are none left. -/
partial def awaitEnd (input : IO.FS.Stream) : IO Unit := do
  let line ← input.getLine
  unless line.isEmpty do
    awaitEnd input

/-- Writes what one run wrote beyond what another had written. -/
def writeBeyond (output : IO.FS.Stream) (before after : String) : IO Unit := do
  output.putStr (String.ofList (after.toList.drop before.length))
  output.flush

def main (words : List String) : IO UInt32 := do
  let output ← IO.getStdout
  let surroundings : Program.Surroundings := { lookup := ← environmentLookup }
  let outcome := Program.run words surroundings
  writeBeyond output "" outcome.output
  (← IO.getStderr).putStr outcome.errors
  match outcome.exit with
  | some code => return UInt32.ofNat code
  | none =>
    awaitEnd (← IO.getStdin)
    let ended := outcome.interrupt surroundings.filter
    writeBeyond output outcome.output ended.output
    return UInt32.ofNat (ended.exit.getD 0)
