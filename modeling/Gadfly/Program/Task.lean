/-
  Gadfly.Program.Task

  What the program can be asked to do.

  A command line names one `Task` (`Task.parse?`). Before the name and after it stand switches;
  those that say where the settings are may stand in either place, and the later place wins
  (`Given.path?`). A variable says where the settings are when no switch does.

  Main definitions: `Task`, `Order`, `Task.parse?`, `Order.parse?`.
-/

import Gadfly.Completion
import Gadfly.Program.Arguments
import Gadfly.Settings.Environment

namespace Gadfly.Program

/-- What the program can do. -/
inductive Task where
  /-- Take part in the chat platform, in some channels or in all. -/
  | run (channels : List String)
  /-- Talk in the terminal with a person of a name. -/
  | chat (user : String)
  /-- Quote the price of a model and of some tokens. -/
  | price (model : String) (inputTokens outputTokens : Nat)
  /-- Look whether everything is in order. -/
  | doctor
  deriving Repr, DecidableEq

/-- What a command line asks for. -/
inductive Order where
  /-- The version of the program. -/
  | version
  /-- A task, and the path of the settings if one was given. -/
  | perform (settings : Option String) (task : Task)
  deriving Repr, DecidableEq

/-! ## Switches -/

/-- The switch for more reports. -/
def Switch.verbose : Switch := ⟨"verbose", some 'v', false, false⟩

/-- The switch for the path of the settings. -/
def Switch.config : Switch := ⟨"config", some 'c', true, false⟩

/-- The switch for the version. -/
def Switch.version : Switch := ⟨"version", some 'V', false, false⟩

/-- The switches before the name of a task. -/
def Switch.leading : List Switch := [.verbose, .config, .version]

/-- The switches after the name of a task that every task has. -/
def Switch.common : List Switch := [.verbose, .config]

/-- The switch for a channel to listen to. -/
def Switch.channel : Switch := ⟨"channel", none, true, true⟩

/-- The switch for the person's name. -/
def Switch.user : Switch := ⟨"user", some 'u', true, false⟩

/-- The switches for numbers of tokens. -/
def Switch.tokens : List Switch :=
  [⟨"input-tokens", none, true, false⟩, ⟨"output-tokens", none, true, false⟩]

/-! ## Values -/

/-- A number of tokens. A minus sign is good for zero only. -/
def tokens? (text : String) : Option Nat :=
  let (negative, digits) := Decimal.readSign text.toList
  if digits.isEmpty || !digits.all Char.isDigit then none
  else
    let n := Decimal.digitsValue digits
    if n < tokenBound && (!negative || n == 0) then some n else none

/-- The number of tokens of a switch, a thousand when it is not given. -/
def Given.tokens? (given : Given) (name : String) : Option Nat :=
  match given.value? name with
  | some text => Program.tokens? text
  | none => some 1000

/-- The path of the settings as said in one place: by a switch there, or else by the variable. A
path is not empty. -/
def Given.path? (env : Environment) (given : Given) : Option (Option String) :=
  match given.value? Switch.config.name, env "SNOID_CONFIG" with
  | some "", _ | none, some "" => none
  | some path, _ => some (some path)
  | none, path => some path

/-! ## Tasks -/

/-- The task of a name, with the words after it. -/
def Task.parse? (name : String) (words : List String) : Option (Task × Given) :=
  match name with
  | "run" => do
    let given ← read [.channel]
    guard given.words.isEmpty
    return (.run (given.values "channel"), given)
  | "chat" => do
    let given ← read [.user]
    guard given.words.isEmpty
    return (.chat ((given.value? "user").getD "you"), given)
  | "price" => do
    let given ← read Switch.tokens
    match given.words with
    | [model] =>
      return (.price model (← given.tokens? "input-tokens") (← given.tokens? "output-tokens"),
        given)
    | _ => none
  | "doctor" => do
    let given ← read []
    guard given.words.isEmpty
    return (.doctor, given)
  | _ => none
where
  read (own : List Switch) : Option Given :=
    let switches := own ++ Switch.common
    Given.ofItems? switches (scan switches words)

/-- A command line with its leading switches: the version, if it is asked for, or the name of a
task with what was given before it and the words after it. -/
inductive Opening where
  | version
  | named (before : Given) (name : String) (rest : List String)

/-- How a command line opens, after the switches in `seen`. Each switch is given once at most, and
a value is not empty. What follows the version or the name of the task does not matter here. -/
def Opening.ofItems? (seen : List (String × String)) : List Item → Option Opening
  | .flag name :: rest =>
    if name = Switch.version.name then some .version
    else if seen.any (·.1 = name) then none
    else Opening.ofItems? (seen ++ [(name, "")]) rest
  | .value name text :: rest =>
    if seen.any (·.1 = name) || text = "" then none
    else Opening.ofItems? (seen ++ [(name, text)]) rest
  | .word name words :: _ => some (.named ⟨seen, []⟩ name words)
  | _ => none

/-- What a command line asks for, if it can be understood. -/
def Order.parse? (env : Environment) (words : List String) : Option Order := do
  match ← Opening.ofItems? [] (scan Switch.leading words) with
  | .version => return .version
  | .named before name rest =>
    let (task, after) ← Task.parse? name rest
    let first ← before.path? env
    let last ← after.path? env
    return .perform (if (after.value? Switch.config.name).isSome then last else first) task

end Gadfly.Program
