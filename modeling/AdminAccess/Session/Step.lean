import AdminAccess.Session.Loop
import AdminAccess.Session.Task

/-!
# Moves

A move is one stretch of one task or loop, or something done from outside.  `System.step?`
says which moves a state allows and what they lead to; every order of moves that it allows is
an interleaving of tasks and loops.
-/

namespace AdminAccess

inductive Move where
  /-- A task is started from outside. -/
  | spawn (job : Job)
  /-- A task begins to run. -/
  | start (task : Nat)
  /-- A task goes on behind the login gate. -/
  | passGate (task : Nat)
  /-- A task gets the reply to its request. -/
  | settle (task : Nat) (reply : Reply)
  /-- A refresh loop is started from outside. -/
  | schedule (interval minValidity : Nat)
  /-- A loop begins to run. -/
  | startLoop (loop : Nat)
  /-- A loop finds its tick due. -/
  | tick (loop : Nat)
  /-- A loop finds itself cancelled. -/
  | stopLoop (loop : Nat)
  /-- A loop gets the reply to its request. -/
  | settleLoop (loop : Nat) (reply : Reply)
  /-- A loop is cancelled through its handle. -/
  | cancel (loop : Nat)
  /-- The provider and the client are let go from outside. -/
  | release
  /-- Time passes. -/
  | advance (span : Nat)
  deriving Repr, Inhabited

namespace Actor

def settleMove (actor : Actor) (reply : Reply) : Move :=
  match actor with
  | .task index => .settle index reply
  | .loop index => .settleLoop index reply

end Actor

namespace Turn

/-- When nobody uses the provider any more, it is gone: its loop is told to stop and the
subscribers hear no more. -/
def closeUnused (turn : Turn) : Turn :=
  if turn.system.closed || turn.system.isInUse then turn
  else (turn.register none).update fun s => { s with closed := true }

end Turn

namespace System

def spawn (system : System) (job : Job) : System :=
  { system with tasks := system.tasks ++ [.ready job] }

/-- Start a loop from outside; a loop started before is told to stop. -/
def schedule (system : System) (interval minValidity : Nat) : Turn :=
  let interval := max interval 1
  let turn := (Turn.start system).register (some system.loops.length)
  let turn := turn.update fun s =>
    { s with loops := s.loops ++ [⟨interval, minValidity, false, .starting⟩] }
  turn.log .debug "refresh loop scheduled" [("interval_ms", toString interval)]

def move? (setup : Setup) (system : System) : Move → Option Turn
  | .spawn job => if system.held then some (.start (system.spawn job)) else none
  | .start task =>
    match system.tasks[task]? with
    | some (.ready job) => some (Task.start setup task job (.start system))
    | _ => none
  | .passGate task =>
    match system.tasks[task]? with
    | some (.atGate credentials) =>
      if system.gate.holder = some task then
        some (Task.enterGate setup task credentials (.start system))
      else none
    | _ => none
  | .settle task reply =>
    match system.tasks[task]? with
    | some phase => Task.settle? setup task phase reply (.start system)
    | none => none
  | .schedule interval minValidity =>
    if system.held then some (system.schedule interval minValidity) else none
  | .startLoop loop =>
    match system.loops[loop]? with
    | some ⟨interval, _, _, .starting⟩ =>
      some (.start (system.setLoop loop (Loop.firstPhase interval system.now)))
    | _ => none
  | .tick loop =>
    match system.loops[loop]? with
    | some ⟨interval, minValidity, _, .waiting due⟩ =>
      if due ≤ system.now then
        let next := Loop.nextDue interval due system.now
        some (Loop.tick setup loop next minValidity (.start system))
      else none
    | _ => none
  | .stopLoop loop =>
    match system.loops[loop]? with
    | some ⟨_, _, true, .waiting _⟩ =>
      some (Loop.stop loop ((Turn.start system).log .debug "refresh loop cancelled" []))
    | _ => none
  | .settleLoop loop reply =>
    match system.loops[loop]? with
    | some l => Loop.settle? setup loop l.phase reply (.start system)
    | none => none
  | .cancel loop =>
    if loop < system.loops.length then some ((Turn.start system).cancel loop) else none
  | .release => if system.held then some (.start { system with held := false }) else none
  | .advance span => some (.start { system with now := system.now + span })

/-- What a move leads to; none if the state does not allow it. -/
def step? (setup : Setup) (system : System) (move : Move) : Option Turn :=
  (system.move? setup move).map Turn.closeUnused

end System

end AdminAccess
