import AdminAccess.Session.System

/-!
# Tasks

A task runs until it waits for the login gate or for a reply, or ends.  Each function here is
one stretch between two waits.
-/

namespace AdminAccess

namespace Task

def finish (task : Nat) (result : TaskResult) (turn : Turn) : Turn :=
  turn.update (·.setTask task (.finished result))

def leaveGate (task : Nat) (result : TaskResult) (turn : Turn) : Turn :=
  finish task result turn.openGate

def concludeLogin (task : Nat) (settlement : Settlement TokenResponse) (turn : Turn) : Turn :=
  let turn := turn.logAll settlement.logs
  match settlement.result with
  | .error failure =>
    let turn := turn.log .warn "authentication failed" [Turn.failureField failure]
    let turn := turn.update fun s => { s with session := none }
    leaveGate task (.failed failure) (turn.emit (.authenticationFailed failure.message))
  | .ok response =>
    let generation := turn.system.nextGeneration
    let turn := turn.update fun s => { s with nextGeneration := generation + 1 }
    match Session.ofResponse response turn.system.now generation with
    | .error fault => leaveGate task (.broken fault) turn
    | .ok session =>
      let turn := (turn.update fun s => { s with session := some session }).record
        (.opened session)
      let turn := turn.log .info "authenticated" [Turn.generationField generation]
      leaveGate task (.done .authenticated) (turn.emit .authenticated)

def enterGate (setup : Setup) (task : Nat) (credentials : Credentials) (turn : Turn) : Turn :=
  if turn.system.isAuthenticated then
    leaveGate task (.done .alreadyAuthenticated)
      (turn.log .debug "session opened by a concurrent login" [])
  else
    match turn.exchange (.login credentials) (setup.identity.login credentials) with
    | (turn, none) => turn.update (·.setTask task (.loggingIn credentials))
    | (turn, some settlement) => concludeLogin task settlement turn

def authenticate (setup : Setup) (task : Nat) (credentials : Credentials) (turn : Turn) : Turn :=
  if turn.system.isAuthenticated then
    finish task (.done .alreadyAuthenticated)
      (turn.log .debug "session still valid, skipping login" [])
  else
    match turn.system.gate.holder with
    | none =>
      enterGate setup task credentials
        (turn.update fun s => { s with gate := ⟨some task, s.gate.waiting⟩ })
    | some _ =>
      turn.update fun s =>
        { s with gate := ⟨s.gate.holder, s.gate.waiting ++ [task]⟩ }.setTask task
          (.atGate credentials)

def refreshResult : Renewed → TaskResult
  | .stored => .done (.refreshed true)
  | .discarded => .done (.refreshed false)
  | .failed failure => .failed failure
  | .broken fault => .broken fault

def refreshIfNeeded (setup : Setup) (task : Nat) (minValidity : Nat) (turn : Turn) : Turn :=
  match turn.system.candidate minValidity with
  | .noSession => finish task (.failed .unauthenticated) turn
  | .fresh => finish task (.done (.refreshed false)) turn
  | .unusable _ => finish task (.failed refreshUnavailable) turn
  | .renewal renewal =>
    match turn.askRefresh setup renewal with
    | (turn, none) => turn.update (·.setTask task (.refreshing renewal))
    | (turn, some renewed) => finish task (refreshResult renewed) turn

def logoutResult : Except Failure Unit → TaskResult
  | .ok () => .done .loggedOut
  | .error failure => .failed failure

def logout (setup : Setup) (task : Nat) (turn : Turn) : Turn :=
  match turn.takeSession .userRequested none with
  | (turn, none) => finish task (.done .loggedOut) turn
  | (turn, some ending) =>
    match turn.askEnding setup ending with
    | (turn, none) => turn.update (·.setTask task (.leaving ending))
    | (turn, some result) => finish task (logoutResult result) turn

def callResult (reply : Reply) : TaskResult :=
  match Client.checked reply with
  | .ok response => .done (.answered response)
  | .error failure => .failed failure

def concludeCall (task elapsed : Nat) (entered : Pipeline.Entered (Option String))
    (reply : Reply) (turn : Turn) : Turn :=
  let out := Pipeline.outward elapsed entered reply
  finish task (callResult out.2) (turn.follow out.1)

def call (setup : Setup) (task : Nat) (operation : Operation) (params : Params) (turn : Turn) :
    Turn :=
  match setup.client.context operation params with
  | .error failure => finish task (.failed failure) turn
  | .ok context =>
    let passage := Pipeline.inward turn.system.currentToken setup.client.layers context
    let turn := turn.follow passage.trace
    match passage.course with
    | .answer reply => concludeCall task 0 passage.entered reply turn
    | .proceed changed =>
      (turn.record (.called changed.request)).update
        (·.setTask task (.calling passage.entered turn.system.now))

def start (setup : Setup) (task : Nat) (job : Job) (turn : Turn) : Turn :=
  match job with
  | .authenticate credentials => authenticate setup task credentials turn
  | .refreshIfNeeded minValidity => refreshIfNeeded setup task minValidity turn
  | .logout => logout setup task turn
  | .call operation params => call setup task operation params turn

/-- Go on with a reply; none for a task that waits for no reply. -/
def settle? (setup : Setup) (task : Nat) (phase : TaskPhase) (reply : Reply) (turn : Turn) :
    Option Turn :=
  match phase with
  | .loggingIn credentials =>
    some (concludeLogin task ((setup.identity.login credentials).conclude reply) turn)
  | .refreshing renewal =>
    let settlement := (setup.identity.refresh renewal.refreshToken).conclude reply
    let result := turn.concludeRefresh renewal settlement
    some (finish task (refreshResult result.2) result.1)
  | .leaving ending =>
    let settlement := (setup.identity.logout ending.refreshToken).conclude reply
    let result := turn.concludeEnding ending settlement
    some (finish task (logoutResult result.2) result.1)
  | .calling entered since =>
    some (concludeCall task (turn.system.now - since) entered reply turn)
  | .ready _ => none
  | .atGate _ => none
  | .finished _ => none

end Task

end AdminAccess
