import AdminAccess.Session.Step
import AdminAccess.Simulation.Script

/-!
# Running a system against a script

Of the moves a system allows, the simulation picks one order: who became able to run first
runs first, and the clock stands still until everybody waits; then it jumps to the next timer.
Timers due at one moment go off in the order in which they were set.
-/

namespace AdminAccess

structure Wake where
  actor : Actor
  reply : Option Reply

structure Timer where
  due : Nat
  wake : Wake

structure World where
  setup : Setup
  script : Script
  tally : Tally
  system : System
  /-- Who can run, in order. -/
  ready : List Wake
  /-- Who waits for a time, in the order in which the waits began. -/
  timers : List Timer
  /-- The log since it was last read. -/
  logs : List LogRecord
  /-- The requests since they were last read, with their times. -/
  requests : List (Nat × Request)

namespace World

def initial (setup : Setup) (script : Script) : World where
  setup := setup
  script := script
  tally := .zero
  system := .initial
  ready := []
  timers := []
  logs := []
  requests := []

def enqueue (world : World) (actor : Actor) : World :=
  { world with ready := world.ready ++ [⟨actor, none⟩] }

def isTickOf (loop : Nat) (timer : Timer) : Bool :=
  timer.wake.actor = .loop loop && timer.wake.reply.isNone

def notice (world : World) (happening : Happening) : World :=
  match happening with
  | .log record => { world with logs := world.logs ++ [record] }
  | .called request =>
    { world with requests := world.requests ++ [(world.system.now, request)] }
  | .sent request =>
    { world with requests := world.requests ++ [(world.system.now, request)] }
  | .admitted task => world.enqueue (.task task)
  | .cancelled loop =>
    if world.timers.any (isTickOf loop) then
      { world with timers := world.timers.filter (!isTickOf loop ·) }.enqueue (.loop loop)
    else world
  | _ => world

def requestOf (happened : List Happening) : Option Request :=
  happened.findSome? fun
    | .called request => some request
    | .sent request => some request
    | _ => none

def perform (world : World) (move : Move) : World × Option Request :=
  match world.system.step? world.setup move with
  | none => (world, none)
  | some turn =>
    (turn.happened.foldl notice { world with system := turn.system },
      requestOf turn.happened)

def setTimer (world : World) (due : Nat) (wake : Wake) : World :=
  { world with timers := world.timers ++ [⟨due, wake⟩] }

/-- The move that a waiting loop makes, or the time of its next tick.  Where a loop that has been
told to stop could make a tick as well, it makes the tick. -/
def loopMove (system : System) (loop : Nat) : Option (Move ⊕ Nat) :=
  match system.loops[loop]? with
  | some l =>
    match l.phase with
    | .starting => some (.inl (.startLoop loop))
    | .waiting due =>
      if due ≤ system.now then some (.inl (.tick loop))
      else if l.cancelled then some (.inl (.stopLoop loop))
      else some (.inr due)
    | _ => none
  | none => none

/-- Let an actor go on from a move until it has to wait.  A request that is answered without
delay does not make it wait, and a loop goes on to the next tick that is due.  A loop cannot
be more than `Loop.lateness` ticks behind, so thirty-two moves are enough. -/
def runFrom : Nat → World → Actor → Move → World
  | 0, world, _, _ => world
  | fuel + 1, world, actor, move =>
    match world.perform move with
    | (world, some request) =>
      let (delay, reply, tally) := world.script.answer world.tally request
      let world := { world with tally := tally }
      if delay = 0 then runFrom fuel world actor (actor.settleMove reply)
      else world.setTimer (world.system.now + delay) ⟨actor, some reply⟩
    | (world, none) =>
      match actor with
      | .task _ => world
      | .loop loop =>
        match loopMove world.system loop with
        | some (.inl move) => runFrom fuel world actor move
        | some (.inr due) => world.setTimer due ⟨actor, none⟩
        | none => world

def wakeMove (system : System) (wake : Wake) : Option (Move ⊕ Nat) :=
  match wake.reply, wake.actor with
  | some reply, actor => some (.inl (actor.settleMove reply))
  | none, .loop loop => loopMove system loop
  | none, .task task =>
    match system.tasks[task]? with
    | some (.ready _) => some (.inl (.start task))
    | some (.atGate _) => some (.inl (.passGate task))
    | _ => none

def run (world : World) (wake : Wake) : World :=
  match wakeMove world.system wake with
  | some (.inl move) => world.runFrom 32 wake.actor move
  | some (.inr due) => world.setTimer due wake
  | none => world

/-- Let everybody run who can.  Beyond those who can run already, each task comes through the
gate at most once and each loop is told to stop at most once. -/
def drainLoop : Nat → World → World
  | 0, world => world
  | fuel + 1, world =>
    match world.ready with
    | [] => world
    | wake :: rest => drainLoop fuel ({ world with ready := rest }.run wake)

def drain (world : World) : World :=
  let size := world.system.tasks.length + world.system.loops.length
  drainLoop (world.ready.length + 2 * size + 1) world

def nextDue? (world : World) : Option Nat :=
  (world.timers.map Timer.due).min?

def jump (world : World) (time : Nat) : World :=
  let span := time - world.system.now
  let world := (world.perform (.advance span)).1
  let expired := world.timers.filter fun timer => timer.due ≤ time
  { world with
    timers := world.timers.filter fun timer => time < timer.due
    ready := world.ready ++ expired.map Timer.wake }.drain

/-- Run up to a time.  The clock moves at least one millisecond in each turn. -/
def runUntil : Nat → World → Nat → World
  | 0, world, _ => world
  | fuel + 1, world, time =>
    match world.nextDue? with
    | some due => if due ≤ time then runUntil fuel (world.jump due) time else world.jump time
    | none => world.jump time

def advance (world : World) (span : Nat) : World :=
  world.runUntil (span + 2) (world.system.now + span)

def hasFinished (world : World) (task : Nat) : Bool :=
  world.system.tasks[task]?.any (·.isFinished)

/-- Run until a task has ended.  The clock moves in each turn, and every task waits for one
reply at a time. -/
def awaitLoop : Nat → World → Nat → World
  | 0, world, _ => world
  | fuel + 1, world, task =>
    if world.hasFinished task then world
    else
      match world.nextDue? with
      | some due => awaitLoop fuel (world.jump due) task
      | none => world

def await (world : World) (task : Nat) : World :=
  awaitLoop ((world.system.tasks.length + 1) * (world.script.longestDelay + 1)) world task

end World

end AdminAccess
