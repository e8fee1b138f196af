import AdminAccess.Identity.Credentials
import AdminAccess.Pipeline.Log

/-!
# Dealings with an identity provider

An exchange is one use of an identity provider: it either settles at once or sends one request
and is settled by the reply.  An identity provider is its three exchanges.
-/

namespace AdminAccess

/-- What a reply leads to: records for the log and a result. -/
structure Settlement (α : Type) where
  logs : List LogRecord
  result : Except Failure α

/-- One use of an identity provider.  The records of `opening` are written before anything is
sent. -/
inductive Exchange (α : Type) where
  | settled (settlement : Settlement α)
  | awaiting (opening : List LogRecord) (request : Request) (conclude : Reply → Settlement α)

namespace Exchange

def opening {α : Type} : Exchange α → List LogRecord
  | .settled settlement => settlement.logs
  | .awaiting opening _ _ => opening

/-- What is settled by a reply; a reply changes nothing about what is settled at once. -/
def conclude {α : Type} : Exchange α → Reply → Settlement α
  | .settled settlement, _ => ⟨[], settlement.result⟩
  | .awaiting _ _ conclude, reply => conclude reply

def run {α : Type} (send : Request → Reply) : Exchange α → Trace × Except Failure α
  | .settled settlement => (settlement.logs.map .log, settlement.result)
  | .awaiting opening request conclude =>
    let settlement := conclude (send request)
    (opening.map .log ++ .sent request :: settlement.logs.map .log, settlement.result)

end Exchange

structure IdentityProvider where
  login : Credentials → Exchange TokenResponse
  refresh : String → Exchange TokenResponse
  logout : Option String → Exchange Unit

end AdminAccess
