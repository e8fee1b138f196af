import AdminAccess.Proofs.Session.Ledger

/-! # What the parts of a move change

A move is put together from the operations on turns: records for the log, events, the gate, the
loops, the phases of tasks and loops.  The lemmas here say what each of them does to the ledger,
to the facts of the move and to the phases; nothing later unfolds these operations.
-/

namespace AdminAccess

/-! ## Phases -/

namespace System

@[simp] theorem setTask_ledger (system : System) (task : Nat) (phase : TaskPhase) :
    (system.setTask task phase).ledger = system.ledger := rfl

@[simp] theorem updateLoop_ledger (system : System) (loop : Nat) (change : Loop → Loop) :
    (system.updateLoop loop change).ledger = system.ledger := rfl

@[simp] theorem setLoop_ledger (system : System) (loop : Nat) (phase : LoopPhase) :
    (system.setLoop loop phase).ledger = system.ledger := rfl

@[simp] theorem spawn_ledger (system : System) (job : Job) :
    (system.spawn job).ledger = system.ledger := rfl

@[simp] theorem updateLoop_tasks (system : System) (loop : Nat) (change : Loop → Loop) :
    (system.updateLoop loop change).tasks = system.tasks := rfl

@[simp] theorem setLoop_tasks (system : System) (loop : Nat) (phase : LoopPhase) :
    (system.setLoop loop phase).tasks = system.tasks := rfl

@[simp] theorem setTask_loops (system : System) (task : Nat) (phase : TaskPhase) :
    (system.setTask task phase).loops = system.loops := rfl

def taskPhase? (system : System) (task : Nat) : Option TaskPhase :=
  system.tasks[task]?

def loopPhase? (system : System) (loop : Nat) : Option LoopPhase :=
  system.loops[loop]?.map (·.phase)

theorem setTask_taskPhase? {system : System} {task other : Nat} {phase new : TaskPhase}
    (h : (system.setTask task phase).taskPhase? other = some new) :
    new = phase ∨ system.taskPhase? other = some new := by
  simp only [taskPhase?, setTask, List.getElem?_set] at h
  split at h
  · split at h <;> cases h
    exact .inl rfl
  · exact .inr h

theorem setTask_self {system : System} {task : Nat} {phase old : TaskPhase}
    (h : system.taskPhase? task = some old) :
    (system.setTask task phase).taskPhase? task = some phase := by
  obtain ⟨hlength, -⟩ := List.getElem?_eq_some_iff.1 h
  simp [taskPhase?, setTask, hlength]

theorem spawn_taskPhase? {system : System} {job : Job} {other : Nat} {phase : TaskPhase}
    (h : (system.spawn job).taskPhase? other = some phase) :
    phase = .ready job ∨ system.taskPhase? other = some phase := by
  simp only [taskPhase?, spawn, List.getElem?_append] at h
  split at h
  · exact .inr h
  · exact .inl (List.mem_singleton.1 (List.mem_of_getElem? h))

theorem updateLoop_loopPhase? (system : System) (loop other : Nat) (change : Loop → Loop)
    (hkeeps : ∀ l, (change l).phase = l.phase) :
    (system.updateLoop loop change).loopPhase? other = system.loopPhase? other := by
  simp only [loopPhase?, updateLoop, List.getElem?_modify]
  cases system.loops[other]? with
  | none => rfl
  | some l => by_cases hsame : loop = other <;> simp [hsame, hkeeps]

theorem setLoop_loopPhase? {system : System} {loop other : Nat} {phase new : LoopPhase}
    (h : (system.setLoop loop phase).loopPhase? other = some new) :
    new = phase ∨ system.loopPhase? other = some new := by
  simp only [loopPhase?, setLoop, updateLoop, List.getElem?_modify] at h
  cases hloop : system.loops[other]? with
  | none => simp [hloop] at h
  | some l =>
      by_cases hsame : loop = other
      · simp only [hloop, hsame, if_true, Option.map_eq_map, Option.map_some,
          Option.some.injEq] at h
        exact .inl h.symm
      · right
        simpa [loopPhase?, hloop, hsame] using h

theorem setLoop_self {system : System} {loop : Nat} {phase old : LoopPhase}
    (h : system.loopPhase? loop = some old) :
    (system.setLoop loop phase).loopPhase? loop = some phase := by
  obtain ⟨l, hl, -⟩ := Option.map_eq_some_iff.1 h
  simp [loopPhase?, setLoop, updateLoop, hl]

end System

namespace Turn

/-- What happened during a move, without the log, the gate and the loops. -/
def facts (turn : Turn) : List Happening :=
  turn.happened.filter Happening.isFact

theorem mem_facts {turn : Turn} {happening : Happening} (hfact : happening.isFact = true) :
    happening ∈ turn.facts ↔ happening ∈ turn.happened := by
  simp [facts, hfact]

theorem not_mem_of_facts {turn : Turn} (hfacts : turn.facts = []) {happening : Happening}
    (hfact : happening.isFact = true) : happening ∉ turn.happened := by
  rw [← mem_facts hfact, hfacts]
  exact List.not_mem_nil

/-- What is picked from the facts alone is picked from all that happened. -/
theorem filterMap_facts {α : Type} {pick : Happening → Option α}
    (h : ∀ happening : Happening, (if happening.isFact then pick happening else none) =
      pick happening)
    (turn : Turn) : turn.facts.filterMap pick = turn.happened.filterMap pick := by
  rw [facts, List.filterMap_filter]
  exact congrArg (List.filterMap · turn.happened) (funext h)

/-! ## Records -/

@[simp] theorem start_facts (system : System) : (start system).facts = [] := rfl

@[simp] theorem start_system (system : System) : (start system).system = system := rfl

@[simp] theorem update_system (turn : Turn) (change : System → System) :
    (turn.update change).system = change turn.system := rfl

@[simp] theorem update_facts (turn : Turn) (change : System → System) :
    (turn.update change).facts = turn.facts := rfl

@[simp] theorem record_system (turn : Turn) (happening : Happening) :
    (turn.record happening).system = turn.system := rfl

@[simp] theorem record_facts (turn : Turn) (happening : Happening) :
    (turn.record happening).facts =
      turn.facts ++ if happening.isFact then [happening] else [] := by
  simp only [facts, record, List.filter_append]
  cases h : happening.isFact <;> simp [h]

@[simp] theorem log_system (turn : Turn) (level : LogLevel) (message : String)
    (fields : List (String × String)) : (turn.log level message fields).system = turn.system :=
  rfl

@[simp] theorem log_facts (turn : Turn) (level : LogLevel) (message : String)
    (fields : List (String × String)) : (turn.log level message fields).facts = turn.facts := by
  simp [log, Happening.isFact]

@[simp] theorem logAll_system (turn : Turn) (records : List LogRecord) :
    (turn.logAll records).system = turn.system := rfl

@[simp] theorem logAll_facts (turn : Turn) (records : List LogRecord) :
    (turn.logAll records).facts = turn.facts := by
  simp [facts, logAll, Happening.isFact]

@[simp] theorem follow_system (turn : Turn) (trace : Trace) :
    (turn.follow trace).system = turn.system := rfl

theorem follow_facts (turn : Turn) (trace : Trace) :
    (turn.follow trace).facts = turn.facts ++ trace.requests.map .called := by
  simp only [facts, follow, List.filter_append]
  congr 1
  induction trace with
  | nil => rfl
  | cons event rest ih =>
      cases event <;> simpa [Trace.requests, Happening.isFact, List.filter_cons] using ih

@[simp] theorem emit_facts (turn : Turn) (event : SessionEvent) :
    (turn.emit event).facts = turn.facts ++ [.emitted event] := by
  simp [emit, Happening.isFact]

@[simp] theorem emit_ledger (turn : Turn) (event : SessionEvent) :
    (turn.emit event).system.ledger = turn.system.ledger.tell event := rfl

@[simp] theorem emit_tasks (turn : Turn) (event : SessionEvent) :
    (turn.emit event).system.tasks = turn.system.tasks := rfl

@[simp] theorem emit_loops (turn : Turn) (event : SessionEvent) :
    (turn.emit event).system.loops = turn.system.loops := rfl

/-! ## Loops and the gate -/

theorem cancel_keeps (turn : Turn) (loop : Nat) :
    (turn.cancel loop).system.ledger = turn.system.ledger ∧
      (turn.cancel loop).facts = turn.facts ∧
      (turn.cancel loop).system.tasks = turn.system.tasks ∧
      ∀ other, (turn.cancel loop).system.loopPhase? other = turn.system.loopPhase? other := by
  unfold cancel
  split
  · split
    · exact ⟨rfl, rfl, rfl, fun _ => rfl⟩
    · refine ⟨rfl, by simp [Happening.isFact], rfl, fun other => ?_⟩
      exact turn.system.updateLoop_loopPhase? loop other _ fun _ => rfl
  · exact ⟨rfl, rfl, rfl, fun _ => rfl⟩

theorem register_keeps (turn : Turn) (loop : Option Nat) :
    (turn.register loop).system.ledger = turn.system.ledger ∧
      (turn.register loop).facts = turn.facts ∧
      (turn.register loop).system.tasks = turn.system.tasks ∧
      ∀ other, (turn.register loop).system.loopPhase? other = turn.system.loopPhase? other := by
  unfold register
  cases turn.system.registered with
  | none => exact ⟨rfl, rfl, rfl, fun _ => rfl⟩
  | some before => exact cancel_keeps (turn.update fun s => { s with registered := loop }) before

theorem openGate_keeps (turn : Turn) :
    turn.openGate.system.ledger = turn.system.ledger ∧ turn.openGate.facts = turn.facts ∧
      turn.openGate.system.tasks = turn.system.tasks ∧
      turn.openGate.system.loops = turn.system.loops := by
  unfold openGate
  split
  · exact ⟨rfl, rfl, rfl, rfl⟩
  · exact ⟨rfl, by simp [Happening.isFact], rfl, rfl⟩

theorem closeUnused_keeps (turn : Turn) :
    turn.closeUnused.system.ledger = turn.system.ledger ∧
      turn.closeUnused.facts = turn.facts ∧
      turn.closeUnused.system.tasks = turn.system.tasks ∧
      ∀ loop, turn.closeUnused.system.loopPhase? loop = turn.system.loopPhase? loop := by
  unfold closeUnused
  split
  · exact ⟨rfl, rfl, rfl, fun _ => rfl⟩
  · exact turn.register_keeps none

/-! ## Exchanges -/

@[simp] theorem exchange_system {α : Type} (turn : Turn) (purpose : Purpose)
    (exchange : Exchange α) : (turn.exchange purpose exchange).1.system = turn.system := by
  cases exchange <;> rfl

@[simp] theorem exchange_facts {α : Type} (turn : Turn) (purpose : Purpose)
    (exchange : Exchange α) :
    (turn.exchange purpose exchange).1.facts = turn.facts ++ [.asked purpose] := by
  cases exchange <;> simp [Turn.exchange, Happening.isFact]

/-! ## Refreshes -/

theorem filter_generation {session : Option Session} {found : Session} {generation : Nat}
    (hsession : session = some found) (hgeneration : found.generation = generation) :
    session.filter (·.generation = generation) = some found := by
  simp [hsession, Option.filter, hgeneration]

theorem storeRefresh_stored {turn : Turn} {renewal : Renewal} {response : TokenResponse}
    {session renewed : Session} (hsession : turn.system.session = some session)
    (hgeneration : session.generation = renewal.generation)
    (hnew : session.refreshed response turn.system.now = .ok renewed) :
    turn.storeRefresh renewal response =
      (((((turn.update fun s => { s with session := some renewed }).record
        (.renewed renewed)).log .info "session token refreshed"
          [generationField renewal.generation]).emit .refreshed), .stored) := by
  simp [storeRefresh, filter_generation hsession hgeneration, hnew]

theorem storeRefresh_broken {turn : Turn} {renewal : Renewal} {response : TokenResponse}
    {session : Session} {fault : ClockFault} (hsession : turn.system.session = some session)
    (hgeneration : session.generation = renewal.generation)
    (hbroken : session.refreshed response turn.system.now = .error fault) :
    turn.storeRefresh renewal response =
      (turn.update fun s => { s with session := none }, .broken fault) := by
  simp [storeRefresh, filter_generation hsession hgeneration, hbroken]

theorem storeRefresh_discarded {turn : Turn} {renewal : Renewal} (response : TokenResponse)
    (hout : ¬ turn.system.ledger.Holds renewal.generation) :
    turn.storeRefresh renewal response =
      (turn.log .debug "session ended during refresh, discarding tokens"
        [generationField renewal.generation], .discarded) := by
  have hnone : turn.system.session.filter (·.generation = renewal.generation) = none := by
    rw [Option.filter_eq_none_iff]
    intro session hsession hgeneration
    exact hout ⟨session, hsession, by simpa using hgeneration⟩
  simp [storeRefresh, hnone]

/-! ## Endings -/

def withoutSession (turn : Turn) : Turn :=
  (turn.update fun s => { s with session := none }).register none

theorem withoutSession_keeps (turn : Turn) :
    turn.withoutSession.system.ledger = { turn.system.ledger with session := none } ∧
      turn.withoutSession.facts = turn.facts ∧
      turn.withoutSession.system.tasks = turn.system.tasks ∧
      ∀ loop, turn.withoutSession.system.loopPhase? loop = turn.system.loopPhase? loop :=
  register_keeps (turn.update fun s => { s with session := none }) none

theorem takeSession_stale {turn : Turn} (reason : EndReason) {session : Session}
    {generation : Nat} (hsession : turn.system.session = some session)
    (hother : session.generation ≠ generation) :
    turn.takeSession reason (some generation) = (turn, none) := by
  simp [takeSession, hsession, Ne.symm hother]

theorem takeSession_none {turn : Turn} (reason : EndReason) (expected : Option Nat)
    (hsession : turn.system.session = none) :
    turn.takeSession reason expected =
      (turn.withoutSession.log .debug "no session to end" [], none) := by
  simp [takeSession, withoutSession, hsession]

theorem takeSession_some {turn : Turn} (reason : EndReason) {expected : Option Nat}
    {session : Session} (hsession : turn.system.session = some session)
    (hexpected : ∀ generation ∈ expected, generation = session.generation) :
    turn.takeSession reason expected =
      ((turn.withoutSession.record
          (.taken ⟨reason, session.generation, session.refreshToken⟩)).log .info "session ended"
            [("reason", reason.text), generationField session.generation],
        some ⟨reason, session.generation, session.refreshToken⟩) := by
  cases expected with
  | none => simp [takeSession, withoutSession, hsession]
  | some generation =>
      have hgeneration := hexpected generation rfl
      simp [takeSession, withoutSession, hsession, hgeneration]

theorem takeSession_cases (turn : Turn) (reason : EndReason) (expected : Option Nat) :
    turn.takeSession reason expected = (turn, none) ∨
      (turn.system.session = none ∧ turn.takeSession reason expected =
        (turn.withoutSession.log .debug "no session to end" [], none)) ∨
      ∃ session, turn.system.session = some session ∧
        (∀ generation ∈ expected, generation = session.generation) ∧
        turn.takeSession reason expected =
          ((turn.withoutSession.record
              (.taken ⟨reason, session.generation, session.refreshToken⟩)).log .info
                "session ended" [("reason", reason.text), generationField session.generation],
            some ⟨reason, session.generation, session.refreshToken⟩) := by
  cases hsession : turn.system.session with
  | none => exact .inr (.inl ⟨rfl, takeSession_none reason expected hsession⟩)
  | some session =>
      cases expected with
      | none =>
          have hexpected : ∀ generation ∈ (none : Option Nat),
              generation = session.generation := fun _ h => by cases h
          exact .inr (.inr ⟨session, rfl, hexpected, takeSession_some reason hsession hexpected⟩)
      | some generation =>
          by_cases hsame : generation = session.generation
          · have hexpected : ∀ g ∈ some generation, g = session.generation := by
              simpa using hsame
            exact .inr (.inr ⟨session, rfl, hexpected, takeSession_some reason hsession hexpected⟩)
          · exact .inl (takeSession_stale reason hsession (Ne.symm hsame))

end Turn

end AdminAccess
