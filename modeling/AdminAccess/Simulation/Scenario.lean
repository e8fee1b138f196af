import AdminAccess.Simulation.World

/-!
# Scenarios

A scenario is a list of steps taken from outside: tasks are started and awaited or left
running, loops are scheduled and cancelled, time passes.  After each step everybody runs who
can, and a report shows what has happened since the report before.
-/

namespace AdminAccess

inductive ScenarioStep where
  /-- Start a task; wait for it unless it is to run on its own. -/
  | run (job : Job) (spawned : Bool)
  /-- Try a call whose payload cannot be made. -/
  | refuse (failure : Failure) (spawned : Bool)
  | schedule (interval minValidity : Nat)
  | cancel (handle : Nat)
  | subscribe
  | events (receiver : Nat)
  | advance (span : Nat)
  | drop
  | inspect
  deriving Inhabited

inductive StepResult where
  | ended (result : TaskResult)
  | spawned
  | handle (index : Nat)
  | receiver (index : Nat)
  | received (items : List Received)
  | nothing
  | gone
  | inspected (hasSession : Bool)
  deriving Inhabited

structure StepReport where
  result : StepResult
  now : Nat
  token : Option String
  authenticated : Option Bool
  cancelled : List Bool
  requests : List (Nat × Request)
  /-- The tasks that ran on their own and have ended since, with the steps that started them. -/
  done : List (Nat × TaskResult)
  logs : List LogRecord
  deriving Inhabited

structure Pending where
  step : Nat
  task : Nat

structure Scenario where
  world : World
  /-- How many events each receiver has seen. -/
  receivers : List Nat
  pending : List Pending
  step : Nat

namespace Scenario

def initial (setup : Setup) (script : Script) : Scenario :=
  ⟨.initial setup script, [], [], 0⟩

def spawn (scenario : Scenario) (job : Job) : Scenario × Nat :=
  let task := scenario.world.system.tasks.length
  let world := (scenario.world.perform (.spawn job)).1
  ({ scenario with world := (world.enqueue (.task task)).drain }, task)

def resultOf (world : World) (task : Nat) : StepResult :=
  match world.system.tasks[task]? with
  | some phase => phase.result?.elim .nothing .ended
  | none => .nothing

def runJob (scenario : Scenario) (job : Job) (spawned : Bool) : Scenario × StepResult :=
  let (scenario, task) := scenario.spawn job
  if spawned then
    ({ scenario with pending := scenario.pending ++ [⟨scenario.step, task⟩] }, .spawned)
  else
    let world := scenario.world.await task
    ({ scenario with world := world }, resultOf world task)

def schedule (scenario : Scenario) (interval minValidity : Nat) : Scenario × StepResult :=
  let loop := scenario.world.system.loops.length
  let world := (scenario.world.perform (.schedule interval minValidity)).1
  ({ scenario with world := (world.enqueue (.loop loop)).drain }, .handle loop)

def receive (scenario : Scenario) (receiver : Nat) : Scenario × StepResult :=
  let system := scenario.world.system
  let position := scenario.receivers[receiver]?.getD 0
  let items := Channel.receive system.events system.closed position
  ({ scenario with receivers := scenario.receivers.set receiver system.events.length },
    .received items)

def outside (scenario : Scenario) (move : Move) : Scenario × StepResult :=
  ({ scenario with world := (scenario.world.perform move).1.drain }, .nothing)

def needsProvider : ScenarioStep → Bool
  | .cancel _ => false
  | .events _ => false
  | .advance _ => false
  | .drop => false
  | _ => true

/-- Take a step while the provider is there, or one that does not need it. -/
def takeHeld (scenario : Scenario) : ScenarioStep → Scenario × StepResult
  | .run job spawned => scenario.runJob job spawned
  | .refuse failure spawned =>
    (scenario, if spawned then .spawned else .ended (.failed failure))
  | .schedule interval minValidity => scenario.schedule interval minValidity
  | .cancel handle => scenario.outside (.cancel handle)
  | .subscribe =>
    ({ scenario with receivers := scenario.receivers ++ [scenario.world.system.events.length] },
      .receiver scenario.receivers.length)
  | .events receiver => scenario.receive receiver
  | .advance span => ({ scenario with world := scenario.world.advance span }, .nothing)
  | .drop => scenario.outside .release
  | .inspect => (scenario, .inspected scenario.world.system.session.isSome)

def finished (scenario : Scenario) : List (Nat × TaskResult) :=
  scenario.pending.filterMap fun pending =>
    (scenario.world.system.tasks[pending.task]?.bind (·.result?)).map fun result =>
      (pending.step, result)

def refusals (scenario : Scenario) : ScenarioStep → List (Nat × TaskResult)
  | .refuse failure true => [(scenario.step, .failed failure)]
  | _ => []

def report (scenario : Scenario) (result : StepResult) (more : List (Nat × TaskResult)) :
    StepReport :=
  let system := scenario.world.system
  { result := result
    now := system.now
    token := if system.held then system.currentToken else none
    authenticated := if system.held then some system.isAuthenticated else none
    cancelled := system.loops.map (·.cancelled)
    requests := scenario.world.requests
    done := scenario.finished ++ more
    logs := scenario.world.logs }

def forget (scenario : Scenario) : Scenario :=
  { world := { scenario.world with logs := [], requests := [] }
    receivers := scenario.receivers
    pending := scenario.pending.filter fun pending => !scenario.world.hasFinished pending.task
    step := scenario.step + 1 }

def take (scenario : Scenario) (step : ScenarioStep) : Scenario × StepReport :=
  if needsProvider step && !scenario.world.system.held then
    (scenario.forget, scenario.report .gone [])
  else
    let more := scenario.refusals step
    let (scenario, result) := scenario.takeHeld step
    (scenario.forget, scenario.report result more)

def takeAll (scenario : Scenario) : List ScenarioStep → List StepReport
  | [] => []
  | step :: rest =>
    let (scenario, report) := scenario.take step
    report :: takeAll scenario rest

end Scenario

end AdminAccess
