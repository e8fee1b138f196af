import AdminAccess.Proofs.Session.Turn

/-! # Changes of the state

What the operations on turns do to the whole state, without the record of the move: events, the
gate, and the flags of the loops.  A turn and its state change alike.
-/

namespace AdminAccess

namespace System

def tell (system : System) (event : SessionEvent) : System :=
  { system with events := system.events ++ [event] }

def openGate (system : System) : System :=
  match system.gate.waiting with
  | [] => { system with gate := ⟨none, []⟩ }
  | next :: rest => { system with gate := ⟨some next, rest⟩ }

def markCancelled (system : System) (loop : Nat) : System :=
  system.updateLoop loop fun l => { l with cancelled := true }

/-- Another loop, or none, is in the place of the registered one, which is told to stop. -/
def register (system : System) (loop : Option Nat) : System :=
  match system.registered with
  | none => { system with registered := loop }
  | some before => { system with registered := loop }.markCancelled before

/-- The session is out and its loop is told to stop. -/
def withoutSession (system : System) : System :=
  { system with session := none }.register none

def stopLoop (system : System) (loop : Nat) : System :=
  (system.setLoop loop .ended).markCancelled loop

def closeUnused (system : System) : System :=
  if system.closed || system.isInUse then system
  else { system.register none with closed := true }

theorem openGate_keeps (system : System) :
    system.openGate.ledger = system.ledger ∧ system.openGate.tasks = system.tasks ∧
      system.openGate.loops = system.loops ∧ system.openGate.held = system.held ∧
      system.openGate.closed = system.closed := by
  unfold openGate
  split <;> exact ⟨rfl, rfl, rfl, rfl, rfl⟩

theorem register_keeps (system : System) (loop : Option Nat) :
    (system.register loop).ledger = system.ledger ∧
      (system.register loop).tasks = system.tasks ∧
      (system.register loop).gate = system.gate ∧
      (system.register loop).held = system.held ∧
      (system.register loop).closed = system.closed := by
  unfold register
  split <;> exact ⟨rfl, rfl, rfl, rfl, rfl⟩

@[simp] theorem openGate_session (system : System) : system.openGate.session = system.session :=
  congrArg Ledger.session system.openGate_keeps.1

@[simp] theorem register_session (system : System) (loop : Option Nat) :
    (system.register loop).session = system.session :=
  congrArg Ledger.session (system.register_keeps loop).1

theorem markCancelled_loopPhase? (system : System) (loop other : Nat) :
    (system.markCancelled loop).loopPhase? other = system.loopPhase? other :=
  system.updateLoop_loopPhase? loop other _ fun _ => rfl

theorem register_loopPhase? (system : System) (loop : Option Nat) (other : Nat) :
    (system.register loop).loopPhase? other = system.loopPhase? other := by
  unfold register
  cases system.registered with
  | none => rfl
  | some before => exact markCancelled_loopPhase? _ before other

theorem closeUnused_keeps (system : System) :
    system.closeUnused.ledger = system.ledger ∧ system.closeUnused.tasks = system.tasks ∧
      system.closeUnused.gate = system.gate ∧ system.closeUnused.held = system.held ∧
      ∀ loop, system.closeUnused.loopPhase? loop = system.loopPhase? loop := by
  obtain ⟨hledger, htasks, hgate, hheld, -⟩ := system.register_keeps none
  unfold closeUnused
  split
  · exact ⟨rfl, rfl, rfl, rfl, fun _ => rfl⟩
  · exact ⟨hledger, htasks, hgate, hheld, system.register_loopPhase? none⟩

@[simp] theorem closeUnused_session (system : System) :
    system.closeUnused.session = system.session :=
  congrArg Ledger.session system.closeUnused_keeps.1

@[simp] theorem closeUnused_taskPhase? (system : System) (task : Nat) :
    system.closeUnused.taskPhase? task = system.taskPhase? task :=
  congrArg (·[task]?) system.closeUnused_keeps.2.1

@[simp] theorem closeUnused_loopPhase? (system : System) (loop : Nat) :
    system.closeUnused.loopPhase? loop = system.loopPhase? loop :=
  system.closeUnused_keeps.2.2.2.2 loop

theorem updateLoop_eq_self {system : System} {loop : Nat} {change : Loop → Loop}
    (h : ∀ l, system.loops[loop]? = some l → change l = l) :
    system.updateLoop loop change = system := by
  have hsame : system.loops.modify loop change = system.loops := by
    apply List.ext_getElem?
    intro other
    rw [List.getElem?_modify]
    cases hother : system.loops[other]? with
    | none => rfl
    | some l =>
        by_cases hloop : loop = other
        · subst hloop
          simp [h l hother]
        · simp [hloop]
  rw [updateLoop, hsame]

/-! ## Work -/

def loopPhases (system : System) : List LoopPhase :=
  system.loops.map (·.phase)

def SameWork (system after : System) : Prop :=
  after.tasks = system.tasks ∧ after.loopPhases = system.loopPhases

theorem loopPhase?_eq (system : System) (loop : Nat) :
    system.loopPhases[loop]? = system.loopPhase? loop :=
  List.getElem?_map

theorem loopPhase?_of_loop {system : System} {loop : Nat} {l : Loop}
    (h : system.loops[loop]? = some l) : system.loopPhase? loop = some l.phase := by
  rw [loopPhase?, h]
  rfl

theorem updateLoop_loopPhases {system : System} {loop : Nat} {change : Loop → Loop}
    (hkeeps : ∀ l, (change l).phase = l.phase) :
    (system.updateLoop loop change).loopPhases = system.loopPhases := by
  apply List.ext_getElem?
  intro other
  rw [loopPhase?_eq, loopPhase?_eq, updateLoop_loopPhase? _ _ _ _ hkeeps]

theorem setLoop_loopPhases (system : System) (loop : Nat) (phase : LoopPhase) :
    (system.setLoop loop phase).loopPhases = system.loopPhases.set loop phase := by
  apply List.ext_getElem?
  intro other
  simp only [loopPhases, setLoop, updateLoop, List.getElem?_map, List.getElem?_modify,
    List.getElem?_set, List.length_map]
  by_cases hsame : loop = other
  · subst hsame
    cases hloop : system.loops[loop]? with
    | none => simpa using hloop
    | some l =>
        obtain ⟨hbound, -⟩ := List.getElem?_eq_some_iff.1 hloop
        simp [hbound]
  · simp [hsame]

theorem register_sameWork (system : System) (loop : Option Nat) :
    system.SameWork (system.register loop) := by
  refine ⟨(system.register_keeps loop).2.1, ?_⟩
  unfold register
  cases system.registered with
  | none => rfl
  | some before => exact updateLoop_loopPhases fun _ => rfl

theorem register_loops_length (system : System) (loop : Option Nat) :
    (system.register loop).loops.length = system.loops.length := by
  have hphases := congrArg List.length (system.register_sameWork loop).2
  rwa [loopPhases, loopPhases, List.length_map, List.length_map] at hphases

theorem markCancelled_sameWork (system : System) (loop : Nat) :
    system.SameWork (system.markCancelled loop) :=
  ⟨rfl, updateLoop_loopPhases fun _ => rfl⟩

theorem openGate_sameWork (system : System) : system.SameWork system.openGate :=
  ⟨system.openGate_keeps.2.1, by rw [loopPhases, system.openGate_keeps.2.2.1]; rfl⟩

theorem closeUnused_sameWork (system : System) : system.SameWork system.closeUnused := by
  unfold closeUnused
  split
  · exact ⟨rfl, rfl⟩
  · exact system.register_sameWork none

theorem SameWork.trans {system middle after : System} (hfirst : system.SameWork middle)
    (hsecond : middle.SameWork after) : system.SameWork after :=
  ⟨hsecond.1.trans hfirst.1, hsecond.2.trans hfirst.2⟩

theorem SameWork.taskPhase? {system after : System} (h : system.SameWork after) (task : Nat) :
    after.taskPhase? task = system.taskPhase? task :=
  congrArg (·[task]?) h.1

def MovesTask (system : System) (task : Nat) (phase : TaskPhase) (after : System) : Prop :=
  after.tasks = system.tasks.set task phase ∧ after.loopPhases = system.loopPhases

def MovesLoop (system : System) (loop : Nat) (phase : LoopPhase) (after : System) : Prop :=
  after.tasks = system.tasks ∧ after.loopPhases = system.loopPhases.set loop phase

theorem SameWork.setTask {system middle : System} (h : system.SameWork middle) (task : Nat)
    (phase : TaskPhase) : system.MovesTask task phase (middle.setTask task phase) :=
  ⟨congrArg (·.set task phase) h.1, h.2⟩

theorem SameWork.setLoop {system middle : System} (h : system.SameWork middle) (loop : Nat)
    (phase : LoopPhase) : system.MovesLoop loop phase (middle.setLoop loop phase) :=
  ⟨h.1, by rw [setLoop_loopPhases, h.2]⟩

theorem SameWork.stopLoop {system middle : System} (h : system.SameWork middle) (loop : Nat) :
    system.MovesLoop loop .ended (middle.stopLoop loop) := by
  obtain ⟨htasks, hloops⟩ := h.setLoop loop .ended
  obtain ⟨hsame, hphases⟩ := markCancelled_sameWork (middle.setLoop loop .ended) loop
  exact ⟨hsame.trans htasks, hphases.trans hloops⟩

end System

namespace Turn

@[simp] theorem emit_system (turn : Turn) (event : SessionEvent) :
    (turn.emit event).system = turn.system.tell event := rfl

@[simp] theorem openGate_system (turn : Turn) :
    turn.openGate.system = turn.system.openGate := by
  unfold openGate System.openGate
  cases turn.system.gate.waiting <;> rfl

@[simp] theorem cancel_system (turn : Turn) (loop : Nat) :
    (turn.cancel loop).system = turn.system.markCancelled loop := by
  unfold cancel
  cases hloop : turn.system.loops[loop]? with
  | none =>
      refine (System.updateLoop_eq_self fun l hl => ?_).symm
      rw [hloop] at hl
      cases hl
  | some found =>
      cases hcancelled : found.cancelled with
      | false => simp [hcancelled, System.markCancelled]
      | true =>
          simp only [hcancelled, if_true]
          refine (System.updateLoop_eq_self fun l hl => ?_).symm
          rw [hloop] at hl
          cases hl
          simp [← hcancelled]

@[simp] theorem register_system (turn : Turn) (loop : Option Nat) :
    (turn.register loop).system = turn.system.register loop := by
  unfold register System.register
  cases turn.system.registered with
  | none => rfl
  | some before => exact cancel_system _ before

@[simp] theorem register_facts (turn : Turn) (loop : Option Nat) :
    (turn.register loop).facts = turn.facts :=
  (turn.register_keeps loop).2.1

@[simp] theorem cancel_facts (turn : Turn) (loop : Nat) :
    (turn.cancel loop).facts = turn.facts :=
  (turn.cancel_keeps loop).2.1

@[simp] theorem openGate_facts (turn : Turn) : turn.openGate.facts = turn.facts :=
  turn.openGate_keeps.2.1

@[simp] theorem withoutSession_system (turn : Turn) :
    turn.withoutSession.system = turn.system.withoutSession :=
  register_system _ none

@[simp] theorem withoutSession_facts (turn : Turn) :
    turn.withoutSession.facts = turn.facts :=
  turn.withoutSession_keeps.2.1

theorem closeUnused_system (turn : Turn) :
    turn.closeUnused.system = turn.system.closeUnused := by
  unfold closeUnused System.closeUnused
  split
  · rfl
  · simp

end Turn

end AdminAccess
