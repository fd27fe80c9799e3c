/-
  Gadfly.Program.Failure

  Why the program stopped.

  A `Failure` has a text for people (`message`), and a form in which the program reports it when
  it ends (`report`).

  Main definitions: `Failure`, `Failure.message`, `Failure.report`.
-/

import Gadfly.Fault
import Gadfly.Settings.Check
import Gadfly.Text.Quoted

namespace Gadfly.Program

/-- Why the program stopped. -/
inductive Failure where
  /-- The settings of a path cannot be used. -/
  | settings (path : String) (fault : SettingsFault)
  | credential (missing : MissingCredential)
  /-- A transport of a name could not be started. -/
  | start (name : String) (fault : TransportFault)
  /-- The chat platform could not be joined. -/
  | login (fault : TransportFault)
  deriving Repr, DecidableEq

namespace Failure

/-- The text of a failure. -/
def message : Failure → String
  | .settings path fault => "Failed to load config: " ++ fault.message path
  | .credential missing => missing.message
  | .start name fault => "Failed to start " ++ name ++ " transport: " ++ fault.message
  | .login fault => "Failed to connect to Discord: " ++ fault.message

/-- How a failure is reported at the end: a missing credential by its name, anything else by its
text in quotes. -/
def report : Failure → String
  | .credential missing => "MissingCredential(" ++ Text.quoted missing.variableName ++ ")"
  | failure => Text.quoted failure.message

end Failure

end Gadfly.Program
