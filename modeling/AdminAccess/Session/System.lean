import AdminAccess.Client
import AdminAccess.Identity.Exchange
import AdminAccess.Session.Event

/-!
# The shared state of a session and its users

One provider holds at most one session.  Tasks log in, refresh, log out and call the admin
service; loops refresh in the background.  Every task and loop is in a phase: it can go on, or
it waits for the login gate, for the next tick, or for the reply to a request.
-/

namespace AdminAccess

inductive Job where
  | authenticate (credentials : Credentials)
  | refreshIfNeeded (minValidity : Nat)
  | logout
  | call (operation : Operation) (params : Params)
  deriving Repr, Inhabited

inductive Outcome where
  | authenticated
  | alreadyAuthenticated
  | refreshed (stored : Bool)
  | loggedOut
  | answered (response : Response)
  deriving DecidableEq, Repr, Inhabited

inductive TaskResult where
  | done (outcome : Outcome)
  | failed (failure : Failure)
  | broken (fault : ClockFault)
  deriving DecidableEq, Repr, Inhabited

structure Renewal where
  generation : Nat
  refreshToken : String
  deriving DecidableEq, Repr, Inhabited

structure Ending where
  reason : EndReason
  generation : Nat
  refreshToken : Option String
  deriving DecidableEq, Repr, Inhabited

inductive TaskPhase where
  | ready (job : Job)
  | atGate (credentials : Credentials)
  | loggingIn (credentials : Credentials)
  | refreshing (renewal : Renewal)
  | leaving (ending : Ending)
  | calling (entered : Pipeline.Entered (Option String)) (since : Nat)
  | finished (result : TaskResult)

namespace TaskPhase

def result? : TaskPhase → Option TaskResult
  | .finished result => some result
  | _ => none

def isFinished (phase : TaskPhase) : Bool :=
  phase.result?.isSome

end TaskPhase

/-- How far a refresh loop has come; `due` is the time of its next tick. -/
inductive LoopPhase where
  | starting
  | waiting (due : Nat)
  | refreshing (due : Nat) (renewal : Renewal)
  | leaving (ending : Ending)
  | ended
  deriving DecidableEq, Repr, Inhabited

namespace LoopPhase

def isTicking : LoopPhase → Bool
  | .refreshing _ _ => true
  | .leaving _ => true
  | _ => false

end LoopPhase

/-- A refresh loop and what its handle shows. -/
structure Loop where
  interval : Nat
  minValidity : Nat
  cancelled : Bool
  phase : LoopPhase
  deriving DecidableEq, Repr, Inhabited

inductive Actor where
  | task (task : Nat)
  | loop (loop : Nat)
  deriving DecidableEq, Repr, Inhabited

/-- The login gate: one task holds it, others wait in order. -/
structure Gate where
  holder : Option Nat
  waiting : List Nat
  deriving DecidableEq, Repr, Inhabited

/-- Everything shared.  Tasks and loops are numbered in the order in which they started. -/
structure System where
  now : Nat
  session : Option Session
  nextGeneration : Nat
  gate : Gate
  tasks : List TaskPhase
  loops : List Loop
  /-- The loop that the provider knows about. -/
  registered : Option Nat
  /-- Whether anyone outside still holds the provider. -/
  held : Bool
  /-- Whether the provider is gone. -/
  closed : Bool
  /-- All events, the earliest first. -/
  events : List SessionEvent

namespace System

def initial : System where
  now := 0
  session := none
  nextGeneration := 0
  gate := ⟨none, []⟩
  tasks := []
  loops := []
  registered := none
  held := true
  closed := false
  events := []

/-- Whether there is a session whose access token has not expired. -/
def isAuthenticated (system : System) : Bool :=
  system.session.any fun session => !session.isExpired system.now

def currentToken (system : System) : Option String :=
  system.session.map (·.accessToken)

def isInUse (system : System) : Bool :=
  system.held || system.tasks.any (!·.isFinished) || system.loops.any (·.phase.isTicking)

inductive Candidate where
  | noSession
  | fresh
  | unusable (generation : Nat)
  | renewal (renewal : Renewal)
  deriving DecidableEq, Repr, Inhabited

/-- What a refresh has to do when the token has to be valid for some time yet. -/
def candidate (system : System) (minValidity : Nat) : Candidate :=
  match system.session with
  | none => .noSession
  | some session =>
    if minValidity ≤ session.remaining system.now then .fresh
    else
      match session.refreshToken with
      | some token =>
        if session.canRefresh system.now then .renewal ⟨session.generation, token⟩
        else .unusable session.generation
      | none => .unusable session.generation

def setTask (system : System) (task : Nat) (phase : TaskPhase) : System :=
  { system with tasks := system.tasks.set task phase }

def updateLoop (system : System) (loop : Nat) (change : Loop → Loop) : System :=
  { system with loops := system.loops.modify loop change }

def setLoop (system : System) (loop : Nat) (phase : LoopPhase) : System :=
  system.updateLoop loop fun l => { l with phase := phase }

end System

def refreshUnavailable : Failure :=
  .denied "refresh_unavailable" (some "session has no usable refresh token")

structure Setup where
  identity : IdentityProvider
  client : Client (Option String)

inductive Purpose where
  | login (credentials : Credentials)
  | refresh (renewal : Renewal)
  | logout (ending : Ending)
  deriving DecidableEq, Repr, Inhabited

inductive Happening where
  | log (record : LogRecord)
  | note (text : String)
  /-- A request of an admin call. -/
  | called (request : Request)
  /-- The identity provider is asked for something. -/
  | asked (purpose : Purpose)
  /-- A request to the identity provider. -/
  | sent (request : Request)
  | emitted (event : SessionEvent)
  /-- A login has stored a session. -/
  | opened (session : Session)
  /-- A refresh has stored new tokens. -/
  | renewed (session : Session)
  /-- A session has been taken out. -/
  | taken (ending : Ending)
  /-- A task has got the login gate. -/
  | admitted (task : Nat)
  /-- A loop is told to stop. -/
  | cancelled (loop : Nat)
  deriving DecidableEq, Repr, Inhabited

structure Turn where
  system : System
  happened : List Happening

namespace Turn

def start (system : System) : Turn :=
  ⟨system, []⟩

def update (turn : Turn) (change : System → System) : Turn :=
  { turn with system := change turn.system }

def record (turn : Turn) (happening : Happening) : Turn :=
  { turn with happened := turn.happened ++ [happening] }

def log (turn : Turn) (level : LogLevel) (message : String)
    (fields : List (String × String)) : Turn :=
  turn.record (.log (.plain level message fields))

def logAll (turn : Turn) (records : List LogRecord) : Turn :=
  { turn with happened := turn.happened ++ records.map .log }

def follow (turn : Turn) (trace : Trace) : Turn :=
  let happenings := trace.map fun
    | .log record => Happening.log record
    | .note text => .note text
    | .sent request => .called request
  { turn with happened := turn.happened ++ happenings }

def emit (turn : Turn) (event : SessionEvent) : Turn :=
  (turn.update fun s => { s with events := s.events ++ [event] }).record (.emitted event)

def cancel (turn : Turn) (loop : Nat) : Turn :=
  match turn.system.loops[loop]? with
  | some l =>
    if l.cancelled then turn
    else
      (turn.update fun s => s.updateLoop loop fun l => { l with cancelled := true }).record
        (.cancelled loop)
  | none => turn

/-- Register a loop, or none, in the place of the one before, which is told to stop. -/
def register (turn : Turn) (loop : Option Nat) : Turn :=
  let before := turn.system.registered
  let turn := turn.update fun s => { s with registered := loop }
  before.elim turn turn.cancel

/-- Pass the login gate on to the task that has waited longest. -/
def openGate (turn : Turn) : Turn :=
  match turn.system.gate.waiting with
  | [] => turn.update fun s => { s with gate := ⟨none, []⟩ }
  | next :: rest =>
    (turn.update fun s => { s with gate := ⟨some next, rest⟩ }).record (.admitted next)

/-- Begin an exchange: it is settled at once, or its request has been sent. -/
def exchange {α : Type} (turn : Turn) (purpose : Purpose) (exchange : Exchange α) :
    Turn × Option (Settlement α) :=
  let turn := turn.record (.asked purpose)
  match exchange with
  | .settled settlement => (turn, some settlement)
  | .awaiting opening request _ => ((turn.logAll opening).record (.sent request), none)

def generationField (generation : Nat) : String × String :=
  ("generation", toString generation)

def failureField (failure : Failure) : String × String :=
  ("error", failure.message)

end Turn

inductive Renewed where
  | stored
  | discarded
  | failed (failure : Failure)
  | broken (fault : ClockFault)
  deriving DecidableEq, Repr, Inhabited

namespace Turn

/-- Store the tokens of a refresh, if the session it was for is still there. -/
def storeRefresh (turn : Turn) (renewal : Renewal) (response : TokenResponse) :
    Turn × Renewed :=
  let field := generationField renewal.generation
  match turn.system.session.filter (·.generation = renewal.generation) with
  | some session =>
    match session.refreshed response turn.system.now with
    | .ok renewed =>
      let turn := (turn.update fun s => { s with session := some renewed }).record
        (.renewed renewed)
      ((turn.log .info "session token refreshed" [field]).emit .refreshed, .stored)
    | .error fault => (turn.update fun s => { s with session := none }, .broken fault)
  | none =>
    (turn.log .debug "session ended during refresh, discarding tokens" [field], .discarded)

def concludeRefresh (turn : Turn) (renewal : Renewal) (settlement : Settlement TokenResponse) :
    Turn × Renewed :=
  let turn := turn.logAll settlement.logs
  match settlement.result with
  | .ok response => turn.storeRefresh renewal response
  | .error failure => (turn, .failed failure)

def askRefresh (setup : Setup) (turn : Turn) (renewal : Renewal) : Turn × Option Renewed :=
  let turn := turn.log .debug "refreshing session token" [generationField renewal.generation]
  match turn.exchange (.refresh renewal) (setup.identity.refresh renewal.refreshToken) with
  | (turn, none) => (turn, none)
  | (turn, some settlement) =>
    let result := turn.concludeRefresh renewal settlement
    (result.1, some result.2)

/-- Take the session out and stop the loop.  When a generation is expected, a session of
another one stays, and so does the loop. -/
def takeSession (turn : Turn) (reason : EndReason) (expected : Option Nat) :
    Turn × Option Ending :=
  let isOther := fun (session : Session) => expected.any (· ≠ session.generation)
  if turn.system.session.any isOther then (turn, none)
  else
    let session := turn.system.session
    let turn := (turn.update fun s => { s with session := none }).register none
    match session with
    | none => (turn.log .debug "no session to end" [], none)
    | some session =>
      let ending : Ending := ⟨reason, session.generation, session.refreshToken⟩
      let turn := turn.record (.taken ending)
      (turn.log .info "session ended"
        [("reason", reason.text), generationField session.generation], some ending)

/-- Take over what the identity provider says to the end of a session. -/
def concludeEnding (turn : Turn) (ending : Ending) (settlement : Settlement Unit) :
    Turn × Except Failure Unit :=
  let turn := (turn.logAll settlement.logs).emit (.loggedOut ending.reason)
  match settlement.result with
  | .ok () => (turn, .ok ())
  | .error failure =>
    (turn.log .warn "identity provider logout failed" [failureField failure], .error failure)

def askEnding (setup : Setup) (turn : Turn) (ending : Ending) :
    Turn × Option (Except Failure Unit) :=
  match turn.exchange (.logout ending) (setup.identity.logout ending.refreshToken) with
  | (turn, none) => (turn, none)
  | (turn, some settlement) =>
    let result := turn.concludeEnding ending settlement
    (result.1, some result.2)

end Turn

end AdminAccess
