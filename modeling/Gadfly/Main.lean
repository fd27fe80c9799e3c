/-
  Gadfly.Main

  The command line.

  Everything is decided by `Program.launch`; here the world is looked at (`readEnvironment`,
  `readFile`, `readInput`), and what was printed is written out. The program has no connections of
  its own, so nobody answers it (`Http.deadNetwork`).

  Main definitions: `Main.main`.
-/

import Gadfly.Program.Launch

namespace Gadfly.Main

/-- The variables that the program looks at. -/
def variableNames : List String :=
  ["HOME", "SNOID_CONFIG", "CHEAP_MODEL", "THINKING_MODEL", "SNOID_BOT_NAME",
    "SNOID_HISTORY_COUNT", "SNOID_LOG_LEVEL", "OPENAI_API_KEY", "OPENAI_BASE_URL",
    "DISCORD_BOT_TOKEN"]

/-- The values of variables. -/
def readEnvironment : IO Environment := do
  let values ← variableNames.mapM fun name => return (name, ← IO.getEnv name)
  return fun name => (values.lookup name).join

/-- What is found at a path. -/
def readFile (path : String) : IO SettingsFile := do
  try
    return .content (← IO.FS.readBinFile path).toList
  catch
    | .noFileOrDirectory .. => return .missing
    | fault => return .blocked (toString fault)

/-- What is typed, to the end. -/
def readInput : IO (List UInt8) := do
  return (← (← IO.getStdin).readBinToEnd).toList

end Gadfly.Main

open Gadfly Program

/-- Runs the program. -/
def main (words : List String) : IO UInt32 := do
  let env ← Main.readEnvironment
  let order := Order.parse? env words
  let path := match order with
    | some (.perform path _) => path.getD (standardPath env)
    | _ => standardPath env
  let file ← Main.readFile path
  let input ← match order with
    | some (.perform _ (.chat _)) => Main.readInput
    | _ => pure []
  let run := launch ⟨env, fun _ => file, input, fun _ => default, Http.deadNetwork,
    Http.deadNetwork, []⟩ words () ()
  IO.print run.output
  match run.ending with
  | .success => pure ()
  | .misused => IO.eprintln "error: the command line cannot be understood"
  | .failed failure => IO.eprintln ("Error: " ++ failure.report)
  return UInt32.ofNat run.ending.code
