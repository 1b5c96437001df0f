import CosmosClient.CommandLine.Help
import CosmosClient.CommandLine.Run

/-!
# The program

Reads the arguments and the environment, and writes what a command has to say. No transport is
attached, so that no endpoint is reached.
-/

namespace CosmosClient.CommandLine

/-- The variables of the environment that stand in for options. -/
def environment : IO (List (String × String)) := do
  let names := (Invocation.globalOptions ++ Command.txOptions).filterMap (·.variableName)
  let values ← names.mapM fun name => do
    return (← IO.getEnv name).map fun value => (name, value)
  return values.filterMap id

end CosmosClient.CommandLine

open CosmosClient CommandLine

/-- Runs the command that the arguments give, and ends with its status. -/
def main (arguments : List String) : IO UInt32 := do
  let environment ← environment
  match Invocation.read environment arguments with
  | .error (.help command) =>
    IO.print (help environment command)
    return 0
  | .error _ =>
    IO.eprintln "error: invalid arguments"
    return 2
  | .ok invocation =>
    let entropy ← IO.getRandomBytes 32
    let unreachable (c : ClientConfig) : Hosts := Hosts.ofConfig c (fun _ => false) []
    let (outcome, _) := invocation.run entropy.toList unreachable
    IO.print outcome.output
    match outcome.result with
    | .ok _ => return 0
    | .error f =>
      IO.eprintln s!"Error: {f.headline}"
      return 1
