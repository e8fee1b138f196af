import AdminAccess.Session.System

/-!
# Refresh loops

A loop refreshes the token at every tick at which it expires too soon.  A tick without a
session ends the loop; a refresh that fails ends the session it was for, and the loop.
-/

namespace AdminAccess

namespace Loop

/-- How late a tick may come without ticks being left out. -/
def lateness : Nat := 5

/-- A loop that begins to run waits for its first tick.  If the clock cannot show when that is due,
the loop breaks down, and its handle does not show it. -/
def firstPhase (interval now : Nat) : LoopPhase :=
  match timeAfter now interval with
  | .ok due => .waiting due
  | .error _ => .ended

/-- When the next tick is due after one that was due at `due` and comes now.  After a late one
the ticks keep their rhythm and those missed are left out.  A whole interval has gone by when this
is asked, so the sum is not held against the end of the clock. -/
def nextDue (interval due now : Nat) : Nat :=
  if due + lateness < now then now + interval - (now - due) % interval else due + interval

/-- The loop ends by itself; its handle shows it. -/
def stop (loop : Nat) (turn : Turn) : Turn :=
  (turn.update (·.setLoop loop .ended)).cancel loop

/-- The loop breaks down; its handle does not show it. -/
def breakDown (loop : Nat) (turn : Turn) : Turn :=
  turn.update (·.setLoop loop .ended)

/-- The session of a failed refresh has been ended at the identity provider. -/
def concludeEnding (loop : Nat) (result : Except Failure Unit) (turn : Turn) : Turn :=
  match result with
  | .ok () => stop loop turn
  | .error failure =>
    stop loop (turn.log .warn "identity provider logout failed" [Turn.failureField failure])

/-- A refresh has failed: end the session it was for. -/
def giveUp (setup : Setup) (loop generation : Nat) (failure : Failure) (turn : Turn) : Turn :=
  let turn := turn.log .warn "token refresh failed, logging out"
    [Turn.failureField failure, Turn.generationField generation]
  match turn.takeSession .refreshFailed (some generation) with
  | (turn, none) => stop loop turn
  | (turn, some ending) =>
    match turn.askEnding setup ending with
    | (turn, none) => turn.update (·.setLoop loop (.leaving ending))
    | (turn, some result) => concludeEnding loop result turn

def concludeRefresh (setup : Setup) (loop due : Nat) (renewal : Renewal) (renewed : Renewed)
    (turn : Turn) : Turn :=
  match renewed with
  | .stored => turn.update (·.setLoop loop (.waiting due))
  | .discarded => turn.update (·.setLoop loop (.waiting due))
  | .failed failure => giveUp setup loop renewal.generation failure turn
  | .broken _ => breakDown loop turn

/-- A tick; `due` is the time of the next one. -/
def tick (setup : Setup) (loop due minValidity : Nat) (turn : Turn) : Turn :=
  if turn.system.closed then stop loop turn
  else
    match turn.system.candidate minValidity with
    | .noSession => stop loop (turn.log .debug "no session, stopping refresh loop" [])
    | .fresh => turn.update (·.setLoop loop (.waiting due))
    | .unusable generation => giveUp setup loop generation refreshUnavailable turn
    | .renewal renewal =>
      match turn.askRefresh setup renewal with
      | (turn, none) => turn.update (·.setLoop loop (.refreshing due renewal))
      | (turn, some renewed) => concludeRefresh setup loop due renewal renewed turn

/-- Go on with a reply; none for a loop that waits for no reply. -/
def settle? (setup : Setup) (loop : Nat) (phase : LoopPhase) (reply : Reply) (turn : Turn) :
    Option Turn :=
  match phase with
  | .refreshing due renewal =>
    let settlement := (setup.identity.refresh renewal.refreshToken).conclude reply
    let result := turn.concludeRefresh renewal settlement
    some (concludeRefresh setup loop due renewal result.2 result.1)
  | .leaving ending =>
    let settlement := (setup.identity.logout ending.refreshToken).conclude reply
    let result := turn.concludeEnding ending settlement
    some (concludeEnding loop result.2 result.1)
  | .starting => none
  | .waiting _ => none
  | .ended => none

end Loop

end AdminAccess
