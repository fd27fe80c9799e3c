/-
  Gadfly.Program.Launch

  The program as a whole.

  `launch` takes the words of the command line and all that the program can see of the world
  (`World`), and gives what it prints and how it ends (`Run`, `Ending`). The settings are loaded
  first; a diagnosis tells about settings that cannot be used, any other task fails with them
  (`withSettings`).

  Main definitions: `World`, `Ending`, `Ending.code`, `Run`, `perform`, `launch`.
-/

import Gadfly.Program.Diagnosis
import Gadfly.Program.Quote
import Gadfly.Program.Task

namespace Gadfly.Program

open Gadfly.Time

/-- What the program can see. The completion service and the chat platform have states of their
own. -/
structure World (τ σ : Type) where
  env : Environment
  /-- What is found at a path. -/
  files : String → SettingsFile
  /-- What is typed. -/
  input : List UInt8
  /-- The moments at which things are said in the terminal. -/
  clock : Nat → Timestamp
  /-- The network through which the completion service is reached. -/
  web : Http.Network σ
  /-- The network through which the chat platform is reached. -/
  platform : Http.Network τ
  /-- What comes in from the chat platform. -/
  inbound : List Event

/-- How a run ends. -/
inductive Ending where
  | success
  /-- The command line could not be understood. -/
  | misused
  | failed (failure : Failure)
  deriving Repr, DecidableEq

namespace Ending

/-- The exit code. -/
def code : Ending → Nat
  | .success => 0
  | .failed _ => 1
  | .misused => 2

/-- How a task ends. -/
def ofResult : Except Failure Unit → Ending
  | .ok () => .success
  | .error failure => .failed failure

end Ending

/-- What a run leaves behind. -/
structure Run (τ σ : Type) where
  /-- What was printed. -/
  output : String
  ending : Ending
  platform : τ
  web : σ

/-- The name and the number of the program. -/
def versionLine : String := "snoid 0.1.0\n"

/-- The path of the settings when none is given. -/
def standardPath (env : Environment) : String :=
  joinPath (Settings.directory env) "config.toml"

variable {τ σ : Type}

/-- Goes on with settings that can be used. Without them the run fails. -/
def withSettings (path : String) (loaded : Except SettingsFault Settings) (t : τ) (s : σ)
    (next : Settings → Run τ σ) : Run τ σ :=
  match loaded with
  | .ok settings => next settings
  | .error fault => ⟨"", .failed (.settings path fault), t, s⟩

/-- Performs a `Task` with the settings at a path. -/
def perform (world : World τ σ) (path : String) (task : Task) (t : τ) (s : σ) : Run τ σ :=
  let file := world.files path
  let loaded := Settings.load file world.env
  match task with
  | .run channels =>
    withSettings path loaded t s fun settings =>
      let (result, t, s) := join world.web world.platform settings channels world.inbound t s
      ⟨"", .ofResult result, t, s⟩
  | .chat user =>
    withSettings path loaded t s fun settings =>
      let terminal := Terminal.blank settings.botName user world.clock
      let (output, result, s) := chat world.web settings terminal world.input s
      ⟨output, .ofResult result, t, s⟩
  | .price model inputTokens outputTokens =>
    withSettings path loaded t s fun settings =>
      ⟨quotePrice settings.prices model inputTokens outputTokens, .success, t, s⟩
  | .doctor =>
    let (diagnosis, t, s) := diagnose world.web world.platform path file loaded t s
    ⟨diagnosis.write, .success, t, s⟩

/-- Runs the program: reads the command line (`Order.parse?`), and performs what it asks for. -/
def launch (world : World τ σ) (words : List String) (t : τ) (s : σ) : Run τ σ :=
  match Order.parse? world.env words with
  | none => ⟨"", .misused, t, s⟩
  | some .version => ⟨versionLine, .success, t, s⟩
  | some (.perform path task) =>
    perform world (path.getD (standardPath world.env)) task t s

end Gadfly.Program
