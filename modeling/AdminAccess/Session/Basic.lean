import AdminAccess.Identity.Credentials

/-!
# Sessions

A session holds the tokens of one login until they expire.  A refresh replaces the tokens and
keeps the generation, which tells one login from another.  Times are whole milliseconds on a clock
that has run since the machine was started and counts fewer than 2⁶³ seconds; shorter spans are
left out.
-/

namespace AdminAccess

/-- The first time that the clock cannot show. -/
def clockEnd : Nat := Nat.pow 2 63 * 1000

inductive ClockFault where
  | overflow
  deriving DecidableEq, Repr, Inhabited

namespace ClockFault

def message : ClockFault → String
  | .overflow => "overflow when adding duration to instant"

end ClockFault

def timeAfter (now span : Nat) : Except ClockFault Nat :=
  if now + span < clockEnd then .ok (now + span) else .error .overflow

structure Session where
  accessToken : String
  refreshToken : Option String
  expiresAt : Nat
  refreshExpiresAt : Option Nat
  generation : Nat
  deriving DecidableEq, Repr, Inhabited

namespace Session

def refreshExpiry (now : Nat) : Option UInt64 → Except ClockFault (Option Nat)
  | none => .ok none
  | some seconds => (timeAfter now (seconds.toNat * 1000)).map some

def ofResponse (response : TokenResponse) (now generation : Nat) : Except ClockFault Session :=
  match timeAfter now (response.expiresIn.toNat * 1000) with
  | .error fault => .error fault
  | .ok expiresAt =>
    match refreshExpiry now response.refreshExpiresIn with
    | .error fault => .error fault
    | .ok refreshExpiresAt =>
      .ok ⟨response.accessToken, response.refreshToken, expiresAt, refreshExpiresAt, generation⟩

/-- The session after a refresh whose tokens arrive now.  A refresh token is kept when no new
one comes. -/
def refreshed (session : Session) (response : TokenResponse) (now : Nat) :
    Except ClockFault Session :=
  (ofResponse response now session.generation).map fun renewed =>
    { renewed with refreshToken := response.refreshToken.or session.refreshToken }

def remaining (session : Session) (now : Nat) : Nat :=
  session.expiresAt - now

def isExpired (session : Session) (now : Nat) : Bool :=
  session.expiresAt ≤ now

def canRefresh (session : Session) (now : Nat) : Bool :=
  session.refreshToken.isSome && session.refreshExpiresAt.all (now < ·)

end Session

end AdminAccess
