/-
  Gadfly.Fault

  What can go wrong with the bot's two collaborators.

  A completion service writes texts and fails with a `ServiceFault`; a transport carries messages
  and fails with a `TransportFault`. Each is a cause with the data that belongs to it; how it is
  told to people is said once, in its `message`. `Fault` is a failure of either side, as it
  reaches the handling of a message.

  Main definitions: `ServiceFault`, `TransportFault`, `Fault`, and a `message` for each.
-/

namespace Gadfly

/-- Why a completion service gave no completion. -/
inductive ServiceFault where
  /-- The service answered with a status that is no success. -/
  | refused (status : Nat) (reason : String)
  | rateLimited (seconds : Nat)
  | unauthorized (reason : String)
  | unconfigured (reason : String)
  | timedOut (reason : String)
  | unreachable (reason : String)
  deriving Repr, DecidableEq

/-- The text of a service failure. -/
def ServiceFault.message : ServiceFault → String
  | .refused status reason =>
    "API request failed: " ++ reason ++ " (status: " ++ toString status ++ ")"
  | .rateLimited seconds => "Rate limited by provider, retry after " ++ toString seconds ++ "s"
  | .unauthorized reason => "Authentication failed: " ++ reason
  | .unconfigured reason => "Provider not configured: " ++ reason
  | .timedOut reason => "Request timed out: " ++ reason
  | .unreachable reason => "Network error: " ++ reason

/-- Why a transport could not do what was asked of it. -/
inductive TransportFault where
  | unconfigured (reason : String)
  | undelivered (channel reason : String)
  | noHistory (channel reason : String)
  | rateLimited (channel : String) (seconds : Nat)
  | unauthorized (reason : String)
  | connectionLost (reason : String)
  | invalidPayload (reason : String)
  deriving Repr, DecidableEq

/-- The text of a transport failure. -/
def TransportFault.message : TransportFault → String
  | .unconfigured reason => "Channel not configured: " ++ reason
  | .undelivered channel reason => "Message delivery failed to " ++ channel ++ ": " ++ reason
  | .noHistory channel reason => "History unavailable for " ++ channel ++ ": " ++ reason
  | .rateLimited channel seconds =>
    "Rate limited on " ++ channel ++ ", retry after " ++ toString seconds ++ "s"
  | .unauthorized reason => "Authentication failed: " ++ reason
  | .connectionLost reason => "Channel connection lost: " ++ reason
  | .invalidPayload reason => "Invalid payload: " ++ reason

/-- A failure while a message is handled, from either side. -/
inductive Fault where
  | service (fault : ServiceFault)
  | transport (fault : TransportFault)
  deriving Repr, DecidableEq

/-- The text of a failure, with the side that it came from. -/
def Fault.message : Fault → String
  | .service fault => "Provider error: " ++ fault.message
  | .transport fault => "Channel error: " ++ fault.message

end Gadfly
