import AdminAccess.Proofs.Session.Lifetimes
import AdminAccess.Session.Step

/-! # The ledger of a system

The ledger is what a system knows about its session.  `Ledger.Act` lists everything that can
happen to it under a guard, each act with what it leaves in the record of a move; `Ledger.Acts`
chains acts.  Moves and runs are both such chains, so a fact about all runs is one
induction over a chain.
-/

namespace AdminAccess

namespace Session

theorem ofResponse_generation {response : TokenResponse} {now generation : Nat}
    {session : Session} (h : ofResponse response now generation = .ok session) :
    session.generation = generation := by
  rw [ofResponse_of_fits (fits_of_ofResponse h), Except.ok.injEq] at h
  rw [← h]

theorem refreshed_generation {session renewed : Session} {response : TokenResponse} {now : Nat}
    (h : session.refreshed response now = .ok renewed) :
    renewed.generation = session.generation := by
  rw [refreshed_of_fits (fits_of_refreshed h), Except.ok.injEq] at h
  rw [← h]

end Session

/-- What a system knows about its session. -/
structure Ledger where
  now : Nat
  session : Option Session
  nextGeneration : Nat
  events : List SessionEvent
  deriving DecidableEq, Repr

def System.ledger (system : System) : Ledger :=
  ⟨system.now, system.session, system.nextGeneration, system.events⟩

namespace Happening

/-- Whether a happening is about the session or leaves for a server. -/
def isFact : Happening → Bool
  | .called _ | .asked _ | .emitted _ | .opened _ | .renewed _ | .taken _ => true
  | _ => false

end Happening

namespace Ledger

/-- There is a session of a generation. -/
def Holds (ledger : Ledger) (generation : Nat) : Prop :=
  ∃ session, ledger.session = some session ∧ session.generation = generation

/-- A refresh is for the session of the moment and uses its refresh token. -/
def Reads (ledger : Ledger) (renewal : Renewal) : Prop :=
  ∃ session, ledger.session = some session ∧ session.generation = renewal.generation ∧
    session.refreshToken = some renewal.refreshToken

/-- The session is of a generation that the counter has passed. -/
def Settled (ledger : Ledger) : Prop :=
  ∀ session, ledger.session = some session → session.generation < ledger.nextGeneration

def tell (ledger : Ledger) (event : SessionEvent) : Ledger :=
  { ledger with events := ledger.events ++ [event] }

@[simp] theorem tell_session (ledger : Ledger) (event : SessionEvent) :
    (ledger.tell event).session = ledger.session := rfl

@[simp] theorem tell_nextGeneration (ledger : Ledger) (event : SessionEvent) :
    (ledger.tell event).nextGeneration = ledger.nextGeneration := rfl

@[simp] theorem tell_events (ledger : Ledger) (event : SessionEvent) :
    (ledger.tell event).events = ledger.events ++ [event] := rfl

/-- When the identity provider may be asked for something: for a login only without a valid
session, for a refresh only with the token at hand, for a logout only when the session is out. -/
def MayAsk (ledger : Ledger) : Purpose → Prop
  | .login _ => ∀ session, ledger.session = some session → session.isExpired ledger.now = true
  | .refresh renewal => ledger.Reads renewal
  | .logout _ => ledger.session = none

/-- What a stretch of the program may do to a ledger. -/
structure Guard where
  /-- The refreshes that may be completed. -/
  inHand : Renewal → Prop
  /-- The requests that may be handed to the transport. -/
  mayCall : Request → Prop
  /-- Whether a login may be completed. -/
  mayLogin : Prop
  /-- Why and of which generation a session may be taken out. -/
  mayTake : EndReason → Nat → Prop

def Guard.anything : Guard where
  inHand _ := True
  mayCall _ := True
  mayLogin := True
  mayTake _ _ := True

section Acts

variable {guard : Guard}

/-- What can happen to a ledger under a guard. -/
inductive Act (guard : Guard) : Ledger → List Happening → Ledger → Prop
  | wait (ledger : Ledger) (span : Nat) :
      Act guard ledger [] { ledger with now := ledger.now + span }
  | call (ledger : Ledger) {request : Request} (hmay : guard.mayCall request) :
      Act guard ledger [.called request] ledger
  | ask (ledger : Ledger) {purpose : Purpose} (hmay : ledger.MayAsk purpose) :
      Act guard ledger [.asked purpose] ledger
  /-- A login stores a session. -/
  | arrive (ledger : Ledger) {response : TokenResponse} {session : Session}
      (hmay : guard.mayLogin)
      (hnew : Session.ofResponse response ledger.now ledger.nextGeneration = .ok session) :
      Act guard ledger [.opened session, .emitted .authenticated]
        (tell { ledger with
          session := some session
          nextGeneration := ledger.nextGeneration + 1 } .authenticated)
  /-- A login breaks the clock and uses up its generation. -/
  | waste (ledger : Ledger) {response : TokenResponse} {fault : ClockFault}
      (hmay : guard.mayLogin)
      (hbroken : Session.ofResponse response ledger.now ledger.nextGeneration = .error fault) :
      Act guard ledger [] { ledger with nextGeneration := ledger.nextGeneration + 1 }
  /-- A login fails. -/
  | refuse (ledger : Ledger) (detail : String) (hmay : guard.mayLogin) :
      Act guard ledger [.emitted (.authenticationFailed detail)]
        (tell { ledger with session := none } (.authenticationFailed detail))
  /-- A refresh stores new tokens. -/
  | renew (ledger : Ledger) {renewal : Renewal} {response : TokenResponse} {old new : Session}
      (hhand : guard.inHand renewal) (hold : ledger.session = some old)
      (hgeneration : old.generation = renewal.generation)
      (hnew : old.refreshed response ledger.now = .ok new) :
      Act guard ledger [.renewed new, .emitted .refreshed]
        (tell { ledger with session := some new } .refreshed)
  /-- A refresh breaks the clock and loses the session. -/
  | lose (ledger : Ledger) {renewal : Renewal} {response : TokenResponse} {old : Session}
      {fault : ClockFault} (hhand : guard.inHand renewal) (hold : ledger.session = some old)
      (hgeneration : old.generation = renewal.generation)
      (hbroken : old.refreshed response ledger.now = .error fault) :
      Act guard ledger [] { ledger with session := none }
  /-- A logout takes the session out. -/
  | take (ledger : Ledger) {reason : EndReason} {old : Session}
      (hold : ledger.session = some old) (hmay : guard.mayTake reason old.generation) :
      Act guard ledger [.taken ⟨reason, old.generation, old.refreshToken⟩]
        { ledger with session := none }
  /-- The identity provider has been told about the end of a session. -/
  | leave (ledger : Ledger) (reason : EndReason) :
      Act guard ledger [.emitted (.loggedOut reason)] (ledger.tell (.loggedOut reason))

inductive Acts (guard : Guard) : Ledger → List Happening → Ledger → Prop
  | done (ledger : Ledger) : Acts guard ledger [] ledger
  | next {first second last : Ledger} {facts more : List Happening}
      (hact : Act guard first facts second)
      (hrest : Acts guard second more last) :
      Acts guard first (facts ++ more) last

theorem Acts.single {first last : Ledger} {facts : List Happening}
    (hact : Act guard first facts last) : Acts guard first facts last := by
  simpa using Acts.next hact (Acts.done last)

theorem Acts.trans {first second last : Ledger} {facts more : List Happening}
    (hfirst : Acts guard first facts second)
    (hsecond : Acts guard second more last) :
    Acts guard first (facts ++ more) last := by
  induction hfirst with
  | done => exact hsecond
  | next hact _ ih => simpa using Acts.next hact (ih hsecond)

theorem Acts.calls (ledger : Ledger) {requests : List Request}
    (hmay : ∀ request ∈ requests, guard.mayCall request) :
    Acts guard ledger (requests.map .called) ledger := by
  induction requests with
  | nil => exact .done ledger
  | cons request rest ih =>
      refine .next (.call ledger (hmay request List.mem_cons_self)) (ih fun other hmem => ?_)
      exact hmay other (List.mem_cons_of_mem request hmem)

/-- The guard may be forgotten. -/
theorem Acts.unguarded {first last : Ledger} {facts : List Happening}
    (hacts : Acts guard first facts last) : Acts .anything first facts last := by
  induction hacts with
  | done ledger => exact .done ledger
  | next hact _ ih =>
      refine .next ?_ ih
      cases hact with
      | wait span => exact .wait _ span
      | call => exact .call _ trivial
      | ask hmay => exact .ask _ hmay
      | arrive _ hnew => exact .arrive _ trivial hnew
      | waste _ hbroken => exact .waste _ trivial hbroken
      | refuse detail => exact .refuse _ detail trivial
      | renew _ hold hgeneration hnew => exact .renew _ trivial hold hgeneration hnew
      | lose _ hold hgeneration hbroken => exact .lose _ trivial hold hgeneration hbroken
      | take hold => exact .take _ hold trivial
      | leave reason => exact .leave _ reason

end Acts

end Ledger

end AdminAccess
