import AdminAccess.Config
import AdminAccess.Identity.Exchange
import AdminAccess.Proofs.Pipeline
import AdminAccess.Session.Step

/-! # Masking

Masking puts one text in the place of every secret: of passwords, authorization codes, client
secrets and tokens.  What can be seen without them stays: user names, which parts are there, when
they expire.  In requests the authorization fields and the payloads of forms are masked.  The
operations on turns do not look at secrets: each of them does to a masked turn what it does to
the turn itself.
-/

namespace AdminAccess

/-! ## Secrets -/

/-- What stands in the place of a secret. -/
def maskText (_ : String) : String :=
  Diagnostic.hidden

def Credentials.masked : Credentials → Credentials
  | .password username secret => .password username (maskText secret)
  | .authorizationCode code => .authorizationCode (maskText code)

def IdentityConfig.masked (config : IdentityConfig) : IdentityConfig :=
  { config with clientSecret := config.clientSecret.map maskText }

def TokenResponse.masked (tokens : TokenResponse) : TokenResponse :=
  { tokens with
    accessToken := maskText tokens.accessToken
    refreshToken := tokens.refreshToken.map maskText }

def Session.masked (session : Session) : Session :=
  { session with
    accessToken := maskText session.accessToken
    refreshToken := session.refreshToken.map maskText }

def Renewal.masked (renewal : Renewal) : Renewal :=
  { renewal with refreshToken := maskText renewal.refreshToken }

def Ending.masked (ending : Ending) : Ending :=
  { ending with refreshToken := ending.refreshToken.map maskText }

def Job.masked : Job → Job
  | .authenticate credentials => .authenticate credentials.masked
  | job => job

/-! ## Requests -/

namespace Headers

/-- The fields with other values under the same names. -/
def mapValues (change : String → String → String) (headers : Headers) : Headers where
  entries := headers.entries.map fun entry => (entry.1, change entry.1 entry.2)
  distinct := by
    rw [List.map_map]
    exact headers.distinct

theorem eq_of_entries {headers other : Headers} (h : headers.entries = other.entries) :
    headers = other := by
  cases headers
  cases other
  cases h
  rfl

def maskAuthorization : Headers → Headers :=
  mapValues fun name value =>
    if sameName name Layer.authorizationName then
      Layer.bearerValue (maskText value)
    else value

theorem maskAuthorization_replace (headers : Headers) (token : String) :
    (headers.replace Layer.authorizationName (Layer.bearerValue token)).maskAuthorization =
      headers.replace Layer.authorizationName (Layer.bearerValue (maskText token)) := by
  apply eq_of_entries
  simp only [maskAuthorization, mapValues, replace, insert, filter, List.filter_filter,
    List.map_append, List.map_cons, List.map_nil, sameName_refl, if_true]
  congr 1
  refine (List.map_congr_left fun entry hentry => ?_).trans (List.map_id _)
  have hother : sameName entry.1 Layer.authorizationName = false := by
    have hkept := (List.mem_filter.1 hentry).2
    simp only [Bool.and_eq_true, Bool.not_eq_true'] at hkept
    exact hkept.2
  simp [hother]

theorem maskAuthorization_eq_self {headers : Headers}
    (hnone : headers.spellings Layer.authorizationName = []) :
    headers.maskAuthorization = headers := by
  apply eq_of_entries
  refine (List.map_congr_left fun entry hentry => ?_).trans (List.map_id _)
  have hother := List.filter_eq_nil_iff.1 hnone entry hentry
  simp [hother]

end Headers

namespace Request

def maskAuthorization (request : Request) : Request :=
  { request with headers := request.headers.maskAuthorization }

def maskPayload (request : Request) : Request :=
  { request with body := request.body.map fun _ => [] }

end Request

/-! ## Calls on their way -/

def CallEvent.masked : CallEvent → CallEvent
  | .sent request => .sent request.maskAuthorization
  | event => event

def Trace.masked (trace : Trace) : Trace :=
  trace.map CallEvent.masked

def Course.masked : Course → Course
  | .proceed context =>
    .proceed { context with request := context.request.maskAuthorization }
  | .answer reply => .answer reply

/-- The layer with masked requests in what it leaves behind on the way out. -/
def Layer.masked {σ : Type} (layer : Layer σ) : Layer σ where
  name := layer.name
  inward := layer.inward
  outward elapsed context reply :=
    ((layer.outward elapsed context reply).1.masked, (layer.outward elapsed context reply).2)

def Client.masked {σ : Type} (client : Client σ) : Client σ :=
  { client with layers := client.layers.map Layer.masked }

namespace Pipeline

variable {σ : Type}

def Entered.masked (entered : Entered σ) : Entered σ :=
  entered.map fun stop => (stop.1.masked, stop.2)

def Passage.masked (passage : Passage σ) : Passage σ :=
  ⟨passage.trace.masked, passage.entered.masked, passage.course.masked⟩

theorem outward_masked (elapsed : Nat) (entered : Entered σ) (reply : Reply) :
    outward elapsed entered.masked reply =
      ((outward elapsed entered reply).1.masked, (outward elapsed entered reply).2) := by
  induction entered generalizing reply with
  | nil => rfl
  | cons stop outer ih =>
      have hcons : Entered.masked (stop :: outer) =
          (stop.1.masked, stop.2) :: Entered.masked outer := rfl
      have hstop : stop.1.masked.outward elapsed stop.2 reply =
          ((stop.1.outward elapsed stop.2 reply).1.masked,
            (stop.1.outward elapsed stop.2 reply).2) := rfl
      simp only [hcons, outward, hstop, ih, Trace.masked, List.map_append]

end Pipeline

/-! ## Dealings with the identity provider -/

def Settlement.map {α β : Type} (change : α → β) (settlement : Settlement α) : Settlement β :=
  ⟨settlement.logs, settlement.result.map change⟩

theorem Settlement.map_id {α : Type} (settlement : Settlement α) :
    settlement.map id = settlement := by
  rcases settlement with ⟨logs, _ | _⟩ <;> rfl

namespace Exchange

/-- The exchange with a masked payload; `mask` is for what it results in. -/
def masked {α : Type} (mask : α → α) : Exchange α → Exchange α
  | .settled settlement => .settled (settlement.map mask)
  | .awaiting opening request conclude =>
    .awaiting opening request.maskPayload fun reply => (conclude reply).map mask

theorem conclude_masked {α : Type} (mask : α → α) (exchange : Exchange α) (reply : Reply) :
    (exchange.masked mask).conclude reply = (exchange.conclude reply).map mask := by
  cases exchange <;> rfl

end Exchange

def IdentityProvider.masked (identity : IdentityProvider) : IdentityProvider where
  login credentials := (identity.login credentials).masked TokenResponse.masked
  refresh token := (identity.refresh token).masked TokenResponse.masked
  logout token := (identity.logout token).masked id

def Setup.masked (setup : Setup) : Setup :=
  ⟨setup.identity.masked, setup.client.masked⟩

/-! ## States and moves -/

def Purpose.masked : Purpose → Purpose
  | .login credentials => .login credentials.masked
  | .refresh renewal => .refresh renewal.masked
  | .logout ending => .logout ending.masked

def Happening.masked : Happening → Happening
  | .called request => .called request.maskAuthorization
  | .asked purpose => .asked purpose.masked
  | .sent request => .sent request.maskPayload
  | .opened session => .opened session.masked
  | .renewed session => .renewed session.masked
  | .taken ending => .taken ending.masked
  | happening => happening

def TaskPhase.masked : TaskPhase → TaskPhase
  | .ready job => .ready job.masked
  | .atGate credentials => .atGate credentials.masked
  | .loggingIn credentials => .loggingIn credentials.masked
  | .refreshing renewal => .refreshing renewal.masked
  | .leaving ending => .leaving ending.masked
  | .calling entered since => .calling entered.masked since
  | .finished result => .finished result

def LoopPhase.masked : LoopPhase → LoopPhase
  | .refreshing due renewal => .refreshing due renewal.masked
  | .leaving ending => .leaving ending.masked
  | phase => phase

theorem Loop.firstPhase_masked (interval now : Nat) :
    (firstPhase interval now).masked = firstPhase interval now := by
  unfold firstPhase
  split <;> rfl

def Loop.masked (loop : Loop) : Loop :=
  { loop with phase := loop.phase.masked }

def System.masked (system : System) : System :=
  { system with
    session := system.session.map Session.masked
    tasks := system.tasks.map TaskPhase.masked
    loops := system.loops.map Loop.masked }

def System.Candidate.masked : System.Candidate → System.Candidate
  | .renewal found => .renewal found.masked
  | candidate => candidate

def Turn.masked (turn : Turn) : Turn :=
  ⟨turn.system.masked, turn.happened.map Happening.masked⟩

def Move.masked : Move → Move
  | .spawn job => .spawn job.masked
  | move => move

/-! ## What masking leaves

Some proofs are `(rfl)`: where a program tests a field, the instance of the test has to be
rewritten with it, which does not happen with equations that hold by definition. -/

theorem Session.masked_generation (session : Session) :
    session.masked.generation = session.generation := (rfl)

theorem Session.masked_refreshToken (session : Session) :
    session.masked.refreshToken = session.refreshToken.map maskText := rfl

theorem Session.masked_remaining (session : Session) (now : Nat) :
    session.masked.remaining now = session.remaining now := rfl

theorem Renewal.masked_generation (renewal : Renewal) :
    renewal.masked.generation = renewal.generation := (rfl)

theorem Ending.masked_reason (ending : Ending) : ending.masked.reason = ending.reason := rfl

theorem Loop.masked_cancelled (loop : Loop) : loop.masked.cancelled = loop.cancelled := (rfl)

theorem TaskPhase.masked_result? (phase : TaskPhase) : phase.masked.result? = phase.result? := by
  cases phase <;> rfl

theorem LoopPhase.masked_isTicking (phase : LoopPhase) :
    phase.masked.isTicking = phase.isTicking := by
  cases phase <;> rfl

namespace Session

theorem ofResponse_masked (response : TokenResponse) (now generation : Nat) :
    ofResponse response.masked now generation =
      (ofResponse response now generation).map masked := by
  simp only [ofResponse, TokenResponse.masked]
  cases timeAfter now (response.expiresIn.toNat * 1000) with
  | error fault => rfl
  | ok expiresAt => cases refreshExpiry now response.refreshExpiresIn <;> rfl

theorem refreshed_masked (session : Session) (response : TokenResponse) (now : Nat) :
    session.masked.refreshed response.masked now =
      (session.refreshed response now).map masked := by
  have hkept : (response.refreshToken.map maskText).or (session.refreshToken.map maskText) =
      (response.refreshToken.or session.refreshToken).map maskText := by
    cases response.refreshToken <;> rfl
  have hmasked : response.masked.refreshToken = response.refreshToken.map maskText := rfl
  simp only [refreshed, masked_generation, ofResponse_masked, hmasked, masked_refreshToken, hkept]
  cases ofResponse response now session.generation <;> rfl

end Session

namespace System

variable (system : System)

theorem masked_now : system.masked.now = system.now := (rfl)

theorem masked_session : system.masked.session = system.session.map Session.masked := rfl

theorem masked_nextGeneration : system.masked.nextGeneration = system.nextGeneration := rfl

theorem masked_gate : system.masked.gate = system.gate := (rfl)

theorem masked_registered : system.masked.registered = system.registered := rfl

theorem masked_held : system.masked.held = system.held := (rfl)

theorem masked_closed : system.masked.closed = system.closed := (rfl)

theorem masked_isAuthenticated : system.masked.isAuthenticated = system.isAuthenticated := by
  simp only [isAuthenticated, masked_session]
  cases system.session <;> rfl

theorem masked_currentToken :
    system.masked.currentToken = system.currentToken.map maskText := by
  simp only [currentToken, masked_session]
  cases system.session <;> rfl

theorem masked_candidate (minValidity : Nat) :
    system.masked.candidate minValidity = (system.candidate minValidity).masked := by
  cases hsession : system.session with
  | none => simp only [candidate, masked_session, hsession, Option.map_none, Candidate.masked]
  | some session =>
      have hrefresh : session.masked.canRefresh system.now = session.canRefresh system.now := by
        simp [Session.canRefresh, Session.masked]
      simp only [candidate, masked_session, masked_now, hsession, Option.map_some,
        Session.masked_remaining, Session.masked_refreshToken, hrefresh]
      by_cases hfresh : minValidity ≤ session.remaining system.now
      · simp only [hfresh, if_true, Candidate.masked]
      · simp only [hfresh, if_false]
        cases session.refreshToken with
        | none => rfl
        | some token => cases session.canRefresh system.now <;> rfl

theorem masked_isInUse : system.masked.isInUse = system.isInUse := by
  simp only [isInUse, masked, List.any_map, Function.comp_def, TaskPhase.isFinished,
    TaskPhase.masked_result?, Loop.masked, LoopPhase.masked_isTicking]

theorem masked_loop? (loop : Nat) :
    system.masked.loops[loop]? = system.loops[loop]?.map Loop.masked :=
  List.getElem?_map

theorem masked_task? (task : Nat) :
    system.masked.tasks[task]? = system.tasks[task]?.map TaskPhase.masked :=
  List.getElem?_map

theorem masked_setTask (task : Nat) (phase : TaskPhase) :
    system.masked.setTask task phase.masked = (system.setTask task phase).masked := by
  simp only [setTask, masked, List.map_set]

theorem masked_updateLoop (loop : Nat) {change : Loop → Loop} {other : Loop → Loop}
    (h : ∀ l, other l.masked = (change l).masked) :
    system.masked.updateLoop loop other = (system.updateLoop loop change).masked := by
  simp only [updateLoop, masked]
  congr 1
  apply List.ext_getElem?
  intro place
  simp only [List.getElem?_map, List.getElem?_modify]
  cases system.loops[place]? with
  | none => rfl
  | some l => by_cases hplace : loop = place <;> simp [hplace, h]

theorem masked_setLoop (loop : Nat) (phase : LoopPhase) :
    system.masked.setLoop loop phase.masked = (system.setLoop loop phase).masked :=
  system.masked_updateLoop loop fun _ => rfl

end System

/-! ## Turns -/

namespace Turn

variable (turn : Turn)

@[simp] theorem masked_system : turn.masked.system = turn.system.masked := rfl

@[simp] theorem masked_start (system : System) : start system.masked = (start system).masked := rfl

theorem masked_update {change other : System → System}
    (h : other turn.system.masked = (change turn.system).masked) :
    turn.masked.update other = (turn.update change).masked := by
  simp only [update, masked, h]

theorem masked_setTask (task : Nat) (phase : TaskPhase) :
    turn.masked.update (·.setTask task phase.masked) =
      (turn.update (·.setTask task phase)).masked :=
  turn.masked_update (turn.system.masked_setTask task phase)

theorem masked_setLoop (loop : Nat) (phase : LoopPhase) :
    turn.masked.update (·.setLoop loop phase.masked) =
      (turn.update (·.setLoop loop phase)).masked :=
  turn.masked_update (turn.system.masked_setLoop loop phase)

theorem masked_record {happening other : Happening} (h : other = happening.masked) :
    turn.masked.record other = (turn.record happening).masked := by
  simp only [h, record, masked, List.map_append, List.map_cons, List.map_nil]

@[simp] theorem masked_log (level : LogLevel) (message : String)
    (fields : List (String × String)) :
    turn.masked.log level message fields = (turn.log level message fields).masked :=
  turn.masked_record rfl

@[simp] theorem masked_logAll (records : List LogRecord) :
    turn.masked.logAll records = (turn.logAll records).masked := by
  simp only [logAll, masked, List.map_append, List.map_map]
  rfl

@[simp] theorem masked_follow (trace : Trace) :
    turn.masked.follow trace.masked = (turn.follow trace).masked := by
  simp only [follow, masked, Trace.masked, List.map_append, List.map_map]
  congr 2
  refine List.map_congr_left fun event _ => ?_
  cases event <;> rfl

@[simp] theorem masked_emit (event : SessionEvent) :
    turn.masked.emit event = (turn.emit event).masked :=
  masked_record (turn.update fun s => { s with events := s.events ++ [event] }) rfl

@[simp] theorem masked_cancel (loop : Nat) :
    turn.masked.cancel loop = (turn.cancel loop).masked := by
  simp only [cancel, masked_system, System.masked_loop?]
  cases turn.system.loops[loop]? with
  | none => rfl
  | some l =>
      simp only [Option.map_some, Loop.masked_cancelled]
      cases l.cancelled with
      | true => rfl
      | false =>
          have hmarked : turn.masked.update
                (fun s => s.updateLoop loop fun l => { l with cancelled := true }) =
              (turn.update fun s => s.updateLoop loop fun l =>
                { l with cancelled := true }).masked :=
            turn.masked_update (turn.system.masked_updateLoop loop fun _ => rfl)
          simp only [Bool.false_eq_true, if_false, hmarked]
          exact masked_record _ rfl

@[simp] theorem masked_register (loop : Option Nat) :
    turn.masked.register loop = (turn.register loop).masked := by
  simp only [register, masked_system, System.masked_registered]
  cases turn.system.registered with
  | none => rfl
  | some before => exact masked_cancel (turn.update fun s => { s with registered := loop }) before

@[simp] theorem masked_openGate : turn.masked.openGate = turn.openGate.masked := by
  simp only [openGate, masked_system, System.masked_gate]
  cases turn.system.gate.waiting with
  | nil => rfl
  | cons next rest =>
      exact masked_record (turn.update fun s => { s with gate := ⟨some next, rest⟩ }) rfl

@[simp] theorem masked_closeUnused : turn.masked.closeUnused = turn.closeUnused.masked := by
  simp only [closeUnused, masked_register, masked_system, System.masked_isInUse,
    System.masked_closed]
  cases turn.system.closed || turn.system.isInUse <;> rfl

/-! ## Sessions and their ends -/

theorem masked_exchange {α : Type} (mask : α → α) (purpose : Purpose) (exchange : Exchange α) :
    turn.masked.exchange purpose.masked (exchange.masked mask) =
      ((turn.exchange purpose exchange).1.masked,
        (turn.exchange purpose exchange).2.map (.map mask)) := by
  have hasked : turn.masked.record (.asked purpose.masked) =
      (turn.record (.asked purpose)).masked := turn.masked_record rfl
  cases exchange with
  | settled settlement => simp only [Turn.exchange, Exchange.masked, hasked, Option.map_some]
  | awaiting opening request conclude =>
      simp only [Turn.exchange, Exchange.masked, hasked, masked_logAll, Option.map_none]
      exact congrArg (·, none) (masked_record _ rfl)

theorem masked_storeRefresh (renewal : Renewal) (response : TokenResponse) :
    turn.masked.storeRefresh renewal.masked response.masked =
      ((turn.storeRefresh renewal response).1.masked, (turn.storeRefresh renewal response).2) := by
  have hfound : turn.system.masked.session.filter (·.generation = renewal.generation) =
      (turn.system.session.filter (·.generation = renewal.generation)).map Session.masked :=
    Option.filter_map ..
  simp only [storeRefresh, Renewal.masked_generation, hfound, masked_system, System.masked_now]
  cases turn.system.session.filter (·.generation = renewal.generation) with
  | none => simp only [Option.map_none, masked_log]
  | some session =>
      simp only [Option.map_some, Session.refreshed_masked]
      cases session.refreshed response turn.system.now with
      | error fault => rfl
      | ok renewed =>
          -- what is stored and what is recorded are masked alike
          have hstored : (turn.masked.update fun s =>
                { s with session := some renewed.masked }).record (.renewed renewed.masked) =
              ((turn.update fun s => { s with session := some renewed }).record
                (.renewed renewed)).masked :=
            masked_record (turn.update fun s => { s with session := some renewed }) rfl
          simp only [Except.map, hstored, masked_log, masked_emit]

theorem masked_concludeRefresh (renewal : Renewal) (settlement : Settlement TokenResponse) :
    turn.masked.concludeRefresh renewal.masked (settlement.map .masked) =
      ((turn.concludeRefresh renewal settlement).1.masked,
        (turn.concludeRefresh renewal settlement).2) := by
  obtain ⟨logs, result⟩ := settlement
  cases result with
  | ok response => 
    simp [concludeRefresh, Settlement.map, Except.map]
    exact masked_storeRefresh _ renewal response
  | error failure => simp only [concludeRefresh, Settlement.map, Except.map, masked_logAll]

theorem masked_takeSession (reason : EndReason) (expected : Option Nat) :
    turn.masked.takeSession reason expected =
      ((turn.takeSession reason expected).1.masked,
        (turn.takeSession reason expected).2.map Ending.masked) := by
  have hother : turn.masked.system.session.any
        (fun session => expected.any (· ≠ session.generation)) =
      turn.system.session.any fun session => expected.any (· ≠ session.generation) :=
    Option.any_map ..
  have htaken : (turn.masked.update fun s => { s with session := none }).register none =
      ((turn.update fun s => { s with session := none }).register none).masked :=
    masked_register (turn.update fun s => { s with session := none }) none
  simp only [takeSession, hother, htaken]
  cases turn.system.session.any fun session => expected.any (· ≠ session.generation) with
  | true => rfl
  | false =>
      simp only [Bool.false_eq_true, if_false, masked_system, System.masked_session]
      cases turn.system.session with
      | none => simp only [Option.map_none, masked_log]
      | some session =>
          simp only [Option.map_some, Session.masked_generation]
          have hrecorded : ∀ t : Turn, t.masked.record
              (.taken ⟨reason, session.generation, session.masked.refreshToken⟩) =
              (t.record (.taken ⟨reason, session.generation, session.refreshToken⟩)).masked :=
            fun t => t.masked_record rfl
          simp only [hrecorded, masked_log]
          rfl

theorem masked_concludeEnding (ending : Ending) (settlement : Settlement Unit) :
    turn.masked.concludeEnding ending.masked settlement =
      ((turn.concludeEnding ending settlement).1.masked,
        (turn.concludeEnding ending settlement).2) := by
  obtain ⟨logs, result⟩ := settlement
  cases result <;>
    simp only [concludeEnding, masked_logAll, masked_emit, masked_log, Ending.masked_reason]

end Turn

end AdminAccess
