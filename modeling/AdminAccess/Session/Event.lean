import AdminAccess.Session.Basic

/-!
# Session events

What subscribers learn about a session.  The channel keeps the last `capacity` events; a
receiver that falls further behind is told how many it has lost.
-/

namespace AdminAccess

inductive EndReason where
  | userRequested
  | refreshFailed
  deriving DecidableEq, Repr, Inhabited

namespace EndReason

def text : EndReason → String
  | .userRequested => "UserRequested"
  | .refreshFailed => "RefreshFailed"

end EndReason

inductive SessionEvent where
  | authenticated
  | authenticationFailed (detail : String)
  | refreshed
  | loggedOut (reason : EndReason)
  deriving DecidableEq, Repr, Inhabited

inductive Received where
  | event (event : SessionEvent)
  | lagged (count : Nat)
  | closed
  deriving DecidableEq, Repr, Inhabited

namespace Channel

def capacity : Nat := 16

/-- What a receiver takes that has seen the first `position` of all events. -/
def receive (events : List SessionEvent) (closed : Bool) (position : Nat) : List Received :=
  let oldest := events.length - capacity
  let lost := if position < oldest then [Received.lagged (oldest - position)] else []
  let kept := (events.drop (max position oldest)).map Received.event
  lost ++ kept ++ (if closed then [.closed] else [])

end Channel

end AdminAccess
