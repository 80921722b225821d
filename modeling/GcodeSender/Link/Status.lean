/-
# `GcodeSender.Link.Status` — the states of a connection

    NOT_CONNECTED → CONNECTING → CONNECTED → DISCONNECTING → NOT_CONNECTED

is the regular round.  A port that is missing, in use or failing leads to one
of the failed states; from there a connection passes through CLEANUP on its
way back to NOT_CONNECTED.
-/

namespace GcodeSender.Link

/-- The states of a connection. -/
inductive Status where
  | unknown
  | notConnected
  | missingResource
  | connecting
  | connected
  | disconnecting
  | fail
  | cleanup
  | blocked
  deriving DecidableEq, Repr, Inhabited

namespace Status

def name : Status → String
  | .unknown => "UNKNOWN"
  | .notConnected => "NOT_CONNECTED"
  | .missingResource => "MISSING_RESOURCE"
  | .connecting => "CONNECTING"
  | .connected => "CONNECTED"
  | .disconnecting => "DISCONNECTING"
  | .fail => "FAIL"
  | .cleanup => "CLEANUP"
  | .blocked => "BLOCKED"

/-- All states, in the order of their numbers. -/
def all : List Status :=
  [.unknown, .notConnected, .missingResource, .connecting, .connected, .disconnecting, .fail,
   .cleanup, .blocked]

/-- The states that a connection gives up from. -/
def isFailed : Status → Bool
  | .fail | .missingResource | .blocked => true
  | _ => false

end Status

end GcodeSender.Link
