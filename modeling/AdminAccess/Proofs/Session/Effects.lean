import AdminAccess.Proofs.Session.Changes
import AdminAccess.Proofs.Session.Moves

/-! # What moves do

`System.Does` says for each move in which ways it can go: which state it leads to and which facts
it leaves in the record.  It is put together from one relation for each stretch of a task or
loop, with one constructor for each way through the stretch.  Later invariants are case analyses
over these relations.
-/

namespace AdminAccess

/-- What an exchange is settled with at once, if it is. -/
def Exchange.settlement? {α : Type} : Exchange α → Option (Settlement α)
  | .settled settlement => some settlement
  | .awaiting _ _ _ => none

def Session.ending (session : Session) (reason : EndReason) : Ending :=
  ⟨reason, session.generation, session.refreshToken⟩

/-- How far the end of a session gets within one move. -/
inductive Farewell where
  /-- No session has been taken out. -/
  | kept
  /-- The identity provider has been asked and has not answered yet. -/
  | pending (ending : Ending)
  | settled (result : Except Failure Unit)

def Farewell.ending? : Farewell → Option Ending
  | .pending ending => some ending
  | _ => none

def Task.farewellPhase : Farewell → TaskPhase
  | .kept => .finished (.done .loggedOut)
  | .pending ending => .leaving ending
  | .settled result => .finished (Task.logoutResult result)

/-- What a refresh comes to that has no token to use. -/
def Task.unrefreshed? : System.Candidate → Option TaskResult
  | .noSession => some (.failed .unauthenticated)
  | .fresh => some (.done (.refreshed false))
  | .unusable _ => some (.failed refreshUnavailable)
  | .renewal _ => none

namespace System

def afterFarewell (system : System) (loop : Nat) : Farewell → System
  | .pending ending => system.setLoop loop (.leaving ending)
  | _ => system.stopLoop loop

/-! ## Logins -/

inductive LoginEnds (system : System) (result : Except Failure TokenResponse) :
    List Happening → System → TaskResult → Prop
  | refused {failure : Failure} (hresult : result = .error failure) :
      LoginEnds system result [.emitted (.authenticationFailed failure.message)]
        ({ system with session := none }.tell (.authenticationFailed failure.message))
        (.failed failure)
  | broken {response : TokenResponse} {fault : ClockFault} (hresult : result = .ok response)
      (hnew : Session.ofResponse response system.now system.nextGeneration = .error fault) :
      LoginEnds system result []
        { system with nextGeneration := system.nextGeneration + 1 } (.broken fault)
  | opened {response : TokenResponse} {session : Session} (hresult : result = .ok response)
      (hnew : Session.ofResponse response system.now system.nextGeneration = .ok session) :
      LoginEnds system result [.opened session, .emitted .authenticated]
        ({ system with
          session := some session
          nextGeneration := system.nextGeneration + 1 }.tell .authenticated)
        (.done .authenticated)

inductive EntersGate (setup : Setup) (system : System) (task : Nat) (credentials : Credentials) :
    List Happening → System → Prop
  | already (hvalid : system.isAuthenticated = true) :
      EntersGate setup system task credentials []
        (system.openGate.setTask task (.finished (.done .alreadyAuthenticated)))
  | asked (hvalid : system.isAuthenticated = false)
      (hpending : (setup.identity.login credentials).settlement? = none) :
      EntersGate setup system task credentials [.asked (.login credentials)]
        (system.setTask task (.loggingIn credentials))
  | settled {settlement : Settlement TokenResponse} {facts : List Happening} {after : System}
      {result : TaskResult} (hvalid : system.isAuthenticated = false)
      (hsettled : (setup.identity.login credentials).settlement? = some settlement)
      (hends : system.LoginEnds settlement.result facts after result) :
      EntersGate setup system task credentials (.asked (.login credentials) :: facts)
        (after.openGate.setTask task (.finished result))

/-! ## Refreshes -/

inductive RefreshEnds (system : System) (renewal : Renewal)
    (result : Except Failure TokenResponse) : List Happening → System → Renewed → Prop
  | failed {failure : Failure} (hresult : result = .error failure) :
      RefreshEnds system renewal result [] system (.failed failure)
  | discarded {response : TokenResponse} (hresult : result = .ok response)
      (hout : ¬ system.ledger.Holds renewal.generation) :
      RefreshEnds system renewal result [] system .discarded
  | stored {response : TokenResponse} {old new : Session} (hresult : result = .ok response)
      (hold : system.session = some old) (hgeneration : old.generation = renewal.generation)
      (hnew : old.refreshed response system.now = .ok new) :
      RefreshEnds system renewal result [.renewed new, .emitted .refreshed]
        ({ system with session := some new }.tell .refreshed) .stored
  | broken {response : TokenResponse} {old : Session} {fault : ClockFault}
      (hresult : result = .ok response) (hold : system.session = some old)
      (hgeneration : old.generation = renewal.generation)
      (hnew : old.refreshed response system.now = .error fault) :
      RefreshEnds system renewal result [] { system with session := none } (.broken fault)

inductive AsksRefresh (setup : Setup) (system : System) (renewal : Renewal) :
    List Happening → System → Option Renewed → Prop
  | pending (hpending : (setup.identity.refresh renewal.refreshToken).settlement? = none) :
      AsksRefresh setup system renewal [.asked (.refresh renewal)] system none
  | settled {settlement : Settlement TokenResponse} {facts : List Happening} {after : System}
      {renewed : Renewed}
      (hsettled : (setup.identity.refresh renewal.refreshToken).settlement? = some settlement)
      (hends : system.RefreshEnds renewal settlement.result facts after renewed) :
      AsksRefresh setup system renewal (.asked (.refresh renewal) :: facts) after (some renewed)

/-! ## Endings -/

/-- The session is to be ended, one of an expected generation only if there is one. -/
inductive EndsSession (setup : Setup) (system : System) (reason : EndReason)
    (expected : Option Nat) : List Happening → System → Farewell → Prop
  | stale {session : Session} {generation : Nat} (hsession : system.session = some session)
      (hexpected : expected = some generation) (hother : session.generation ≠ generation) :
      EndsSession setup system reason expected [] system .kept
  | idle (hsession : system.session = none) :
      EndsSession setup system reason expected [] (system.register none) .kept
  | asked {session : Session} (hsession : system.session = some session)
      (hexpected : ∀ generation ∈ expected, generation = session.generation)
      (hpending : (setup.identity.logout session.refreshToken).settlement? = none) :
      EndsSession setup system reason expected
        [.taken (session.ending reason), .asked (.logout (session.ending reason))]
        system.withoutSession (.pending (session.ending reason))
  | settled {session : Session} {settlement : Settlement Unit}
      (hsession : system.session = some session)
      (hexpected : ∀ generation ∈ expected, generation = session.generation)
      (hsettled : (setup.identity.logout session.refreshToken).settlement? = some settlement) :
      EndsSession setup system reason expected
        [.taken (session.ending reason), .asked (.logout (session.ending reason)),
          .emitted (.loggedOut reason)]
        (system.withoutSession.tell (.loggedOut reason)) (.settled settlement.result)

/-! ## Tasks -/

inductive Starts (setup : Setup) (system : System) (task : Nat) :
    Job → List Happening → System → Prop
  | alreadyIn {credentials : Credentials} (hvalid : system.isAuthenticated = true) :
      Starts setup system task (.authenticate credentials) []
        (system.setTask task (.finished (.done .alreadyAuthenticated)))
  | queues {credentials : Credentials} {holder : Nat} (hvalid : system.isAuthenticated = false)
      (hheld : system.gate.holder = some holder) :
      Starts setup system task (.authenticate credentials) []
        ({ system with gate := ⟨some holder, system.gate.waiting ++ [task]⟩ }.setTask task
          (.atGate credentials))
  | enters {credentials : Credentials} {facts : List Happening} {after : System}
      (hvalid : system.isAuthenticated = false) (hfree : system.gate.holder = none)
      (henters : EntersGate setup { system with gate := ⟨some task, system.gate.waiting⟩ } task
        credentials facts after) :
      Starts setup system task (.authenticate credentials) facts after
  | unrefreshed {minValidity : Nat} {result : TaskResult}
      (hresult : Task.unrefreshed? (system.candidate minValidity) = some result) :
      Starts setup system task (.refreshIfNeeded minValidity) []
        (system.setTask task (.finished result))
  | refreshing {minValidity : Nat} {renewal : Renewal} {facts : List Happening} {after : System}
      (hcandidate : system.candidate minValidity = .renewal renewal)
      (hasks : AsksRefresh setup system renewal facts after none) :
      Starts setup system task (.refreshIfNeeded minValidity) facts
        (after.setTask task (.refreshing renewal))
  | refreshed {minValidity : Nat} {renewal : Renewal} {facts : List Happening} {after : System}
      {renewed : Renewed} (hcandidate : system.candidate minValidity = .renewal renewal)
      (hasks : AsksRefresh setup system renewal facts after (some renewed)) :
      Starts setup system task (.refreshIfNeeded minValidity) facts
        (after.setTask task (.finished (Task.refreshResult renewed)))
  | logout {facts : List Happening} {after : System} {farewell : Farewell}
      (hends : EndsSession setup system .userRequested none facts after farewell) :
      Starts setup system task .logout facts
        (after.setTask task (Task.farewellPhase farewell))
  | uncalled {operation : Operation} {params : Params} {failure : Failure} :
      Starts setup system task (.call operation params) []
        (system.setTask task (.finished (.failed failure)))
  | answered {operation : Operation} {params : Params} {requests : List Request} {reply : Reply} :
      Starts setup system task (.call operation params) (requests.map .called)
        (system.setTask task (.finished (Task.callResult reply)))
  | calling {operation : Operation} {params : Params} {requests : List Request}
      {entered : Pipeline.Entered (Option String)} :
      Starts setup system task (.call operation params) (requests.map .called)
        (system.setTask task (.calling entered system.now))

inductive Settles (setup : Setup) (system : System) (task : Nat) (reply : Reply) :
    TaskPhase → List Happening → System → Prop
  | login {credentials : Credentials} {facts : List Happening} {after : System}
      {result : TaskResult}
      (hends : system.LoginEnds ((setup.identity.login credentials).conclude reply).result facts
        after result) :
      Settles setup system task reply (.loggingIn credentials) facts
        (after.openGate.setTask task (.finished result))
  | refresh {renewal : Renewal} {facts : List Happening} {after : System} {renewed : Renewed}
      (hends : system.RefreshEnds renewal (setup.refreshResult renewal reply) facts after
        renewed) :
      Settles setup system task reply (.refreshing renewal) facts
        (after.setTask task (.finished (Task.refreshResult renewed)))
  | logout {ending : Ending} {result : Except Failure Unit} :
      Settles setup system task reply (.leaving ending) [.emitted (.loggedOut ending.reason)]
        ((system.tell (.loggedOut ending.reason)).setTask task
          (.finished (Task.logoutResult result)))
  | call {entered : Pipeline.Entered (Option String)} {since : Nat} {requests : List Request}
      {answer : Reply} :
      Settles setup system task reply (.calling entered since) (requests.map .called)
        (system.setTask task (.finished (Task.callResult answer)))

/-! ## Loops -/

/-- A loop goes on after its refresh; `due` is the time of its next tick. -/
inductive GoesOn (setup : Setup) (system : System) (loop due : Nat) (renewal : Renewal) :
    Renewed → List Happening → System → Prop
  | stored : GoesOn setup system loop due renewal .stored [] (system.setLoop loop (.waiting due))
  | discarded :
      GoesOn setup system loop due renewal .discarded [] (system.setLoop loop (.waiting due))
  | failed {failure : Failure} {facts : List Happening} {after : System} {farewell : Farewell}
      (hends : EndsSession setup system .refreshFailed (some renewal.generation) facts after
        farewell) :
      GoesOn setup system loop due renewal (.failed failure) facts
        (after.afterFarewell loop farewell)
  | broken {fault : ClockFault} :
      GoesOn setup system loop due renewal (.broken fault) [] (system.setLoop loop .ended)

inductive Ticks (setup : Setup) (system : System) (loop due minValidity : Nat) :
    List Happening → System → Prop
  | closed (hclosed : system.closed = true) :
      Ticks setup system loop due minValidity [] (system.stopLoop loop)
  | noSession (hcandidate : system.candidate minValidity = .noSession) :
      Ticks setup system loop due minValidity [] (system.stopLoop loop)
  | fresh (hcandidate : system.candidate minValidity = .fresh) :
      Ticks setup system loop due minValidity [] (system.setLoop loop (.waiting due))
  | unusable {generation : Nat} {facts : List Happening} {after : System} {farewell : Farewell}
      (hcandidate : system.candidate minValidity = .unusable generation)
      (hends : EndsSession setup system .refreshFailed (some generation) facts after farewell) :
      Ticks setup system loop due minValidity facts (after.afterFarewell loop farewell)
  | refreshing {renewal : Renewal} {facts : List Happening} {after : System}
      (hcandidate : system.candidate minValidity = .renewal renewal)
      (hasks : AsksRefresh setup system renewal facts after none) :
      Ticks setup system loop due minValidity facts
        (after.setLoop loop (.refreshing due renewal))
  | refreshed {renewal : Renewal} {facts more : List Happening} {middle after : System}
      {renewed : Renewed} (hcandidate : system.candidate minValidity = .renewal renewal)
      (hasks : AsksRefresh setup system renewal facts middle (some renewed))
      (hgoes : GoesOn setup middle loop due renewal renewed more after) :
      Ticks setup system loop due minValidity (facts ++ more) after

inductive LoopSettles (setup : Setup) (system : System) (loop : Nat) (reply : Reply) :
    LoopPhase → List Happening → System → Prop
  | refresh {due : Nat} {renewal : Renewal} {facts more : List Happening}
      {middle after : System} {renewed : Renewed}
      (hends : system.RefreshEnds renewal (setup.refreshResult renewal reply) facts middle
        renewed)
      (hgoes : GoesOn setup middle loop due renewal renewed more after) :
      LoopSettles setup system loop reply (.refreshing due renewal) (facts ++ more) after
  | logout {ending : Ending} :
      LoopSettles setup system loop reply (.leaving ending)
        [.emitted (.loggedOut ending.reason)]
        ((system.tell (.loggedOut ending.reason)).stopLoop loop)

/-! ## Moves -/

inductive Does (setup : Setup) (system : System) : Move → List Happening → System → Prop
  | spawn {job : Job} (hheld : system.held = true) :
      Does setup system (.spawn job) [] (system.spawn job)
  | start {task : Nat} {job : Job} {facts : List Happening} {after : System}
      (hphase : system.taskPhase? task = some (.ready job))
      (hstarts : Starts setup system task job facts after) :
      Does setup system (.start task) facts after
  | passGate {task : Nat} {credentials : Credentials} {facts : List Happening} {after : System}
      (hphase : system.taskPhase? task = some (.atGate credentials))
      (hadmitted : system.gate.holder = some task)
      (henters : EntersGate setup system task credentials facts after) :
      Does setup system (.passGate task) facts after
  | settle {task : Nat} {reply : Reply} {phase : TaskPhase} {facts : List Happening}
      {after : System} (hphase : system.taskPhase? task = some phase)
      (hsettles : Settles setup system task reply phase facts after) :
      Does setup system (.settle task reply) facts after
  | schedule {interval minValidity : Nat} (hheld : system.held = true) :
      Does setup system (.schedule interval minValidity) []
        { system.register (some system.loops.length) with
          loops := (system.register (some system.loops.length)).loops ++
            [⟨max interval 1, minValidity, false, .starting⟩] }
  | startLoop {loop interval minValidity : Nat} {cancelled : Bool}
      (hloop : system.loops[loop]? = some ⟨interval, minValidity, cancelled, .starting⟩) :
      Does setup system (.startLoop loop) []
        (system.setLoop loop (Loop.firstPhase interval system.now))
  | tick {loop interval minValidity due : Nat} {cancelled : Bool} {facts : List Happening}
      {after : System}
      (hloop : system.loops[loop]? = some ⟨interval, minValidity, cancelled, .waiting due⟩)
      (hdue : due ≤ system.now)
      (hticks : Ticks setup system loop (Loop.nextDue interval due system.now) minValidity facts
        after) :
      Does setup system (.tick loop) facts after
  | stopLoop {loop interval minValidity due : Nat}
      (hloop : system.loops[loop]? = some ⟨interval, minValidity, true, .waiting due⟩) :
      Does setup system (.stopLoop loop) [] (system.stopLoop loop)
  | settleLoop {loop : Nat} {reply : Reply} {phase : LoopPhase} {facts : List Happening}
      {after : System} (hphase : system.loopPhase? loop = some phase)
      (hsettles : LoopSettles setup system loop reply phase facts after) :
      Does setup system (.settleLoop loop reply) facts after
  | cancel {loop : Nat} (hloop : loop < system.loops.length) :
      Does setup system (.cancel loop) [] (system.markCancelled loop)
  | release (hheld : system.held = true) :
      Does setup system .release [] { system with held := false }
  | advance {span : Nat} :
      Does setup system (.advance span) [] { system with now := system.now + span }

/-! ## What moves bring -/

inductive BringsLogin (setup : Setup) (system : System) :
    Move → Except Failure TokenResponse → Prop
  | start {task : Nat} {credentials : Credentials} {settlement : Settlement TokenResponse}
      (hready : system.taskPhase? task = some (.ready (.authenticate credentials)))
      (hvalid : system.isAuthenticated = false) (hfree : system.gate.holder = none)
      (hsettled : (setup.identity.login credentials).settlement? = some settlement) :
      BringsLogin setup system (.start task) settlement.result
  | passGate {task : Nat} {credentials : Credentials} {settlement : Settlement TokenResponse}
      (hphase : system.taskPhase? task = some (.atGate credentials))
      (hvalid : system.isAuthenticated = false) (hadmitted : system.gate.holder = some task)
      (hsettled : (setup.identity.login credentials).settlement? = some settlement) :
      BringsLogin setup system (.passGate task) settlement.result
  | settle {task : Nat} {reply : Reply} {credentials : Credentials}
      (hphase : system.taskPhase? task = some (.loggingIn credentials)) :
      BringsLogin setup system (.settle task reply)
        ((setup.identity.login credentials).conclude reply).result

inductive BringsRefresh (setup : Setup) (system : System) :
    Move → Renewal → Except Failure TokenResponse → Prop
  | settle {task : Nat} {reply : Reply} {renewal : Renewal}
      (hphase : system.taskPhase? task = some (.refreshing renewal)) :
      BringsRefresh setup system (.settle task reply) renewal
        (setup.refreshResult renewal reply)
  | settleLoop {loop due : Nat} {reply : Reply} {renewal : Renewal}
      (hphase : system.loopPhase? loop = some (.refreshing due renewal)) :
      BringsRefresh setup system (.settleLoop loop reply) renewal
        (setup.refreshResult renewal reply)
  | start {task minValidity : Nat} {renewal : Renewal} {settlement : Settlement TokenResponse}
      (hready : system.taskPhase? task = some (.ready (.refreshIfNeeded minValidity)))
      (hcandidate : system.candidate minValidity = .renewal renewal)
      (hsettled : (setup.identity.refresh renewal.refreshToken).settlement? = some settlement) :
      BringsRefresh setup system (.start task) renewal settlement.result
  | tick {loop interval minValidity due : Nat} {cancelled : Bool} {renewal : Renewal}
      {settlement : Settlement TokenResponse}
      (hloop : system.loops[loop]? = some ⟨interval, minValidity, cancelled, .waiting due⟩)
      (hcandidate : system.candidate minValidity = .renewal renewal)
      (hsettled : (setup.identity.refresh renewal.refreshToken).settlement? = some settlement) :
      BringsRefresh setup system (.tick loop) renewal settlement.result

/-! ## What stays -/

section Stays

variable {setup : Setup} {system after : System} {facts : List Happening}

theorem LoginEnds.sameWork {result : Except Failure TokenResponse} {ends : TaskResult}
    (h : LoginEnds system result facts after ends) : system.SameWork after := by
  cases h <;> exact ⟨rfl, rfl⟩

theorem RefreshEnds.sameWork {renewal : Renewal} {result : Except Failure TokenResponse}
    {renewed : Renewed} (h : RefreshEnds system renewal result facts after renewed) :
    system.SameWork after := by
  cases h <;> exact ⟨rfl, rfl⟩

theorem AsksRefresh.sameWork {renewal : Renewal} {renewed : Option Renewed}
    (h : AsksRefresh setup system renewal facts after renewed) : system.SameWork after := by
  cases h with
  | pending => exact ⟨rfl, rfl⟩
  | settled hsettled hends => exact hends.sameWork

theorem withoutSession_sameWork (system : System) : system.SameWork system.withoutSession :=
  register_sameWork { system with session := none } none

theorem EndsSession.sameWork {reason : EndReason} {expected : Option Nat} {farewell : Farewell}
    (h : EndsSession setup system reason expected facts after farewell) :
    system.SameWork after := by
  cases h with
  | stale => exact ⟨rfl, rfl⟩
  | idle => exact system.register_sameWork none
  | asked | settled => exact system.withoutSession_sameWork

/-- Behind the login gate a task ends or asks for a login. -/
theorem EntersGate.sameWork {task : Nat} {credentials : Credentials}
    (h : EntersGate setup system task credentials facts after) :
    ∃ middle phase, system.SameWork middle ∧ after = middle.setTask task phase ∧
      (phase = .loggingIn credentials ∨ ∃ result, phase = .finished result) := by
  cases h with
  | already => exact ⟨_, _, system.openGate_sameWork, rfl, .inr ⟨_, rfl⟩⟩
  | asked => exact ⟨system, _, ⟨rfl, rfl⟩, rfl, .inl rfl⟩
  | settled hvalid hsettled hends =>
      exact ⟨_, _, hends.sameWork.trans (openGate_sameWork _), rfl, .inr ⟨_, rfl⟩⟩

end Stays

end System

end AdminAccess
