import AdminAccess.Proofs.Session.Course

/-! # The login gate

One task holds the gate and others wait in order.  `System.Orderly` ties the gate to the phases
of the tasks; every move keeps it.  It gives that at most one login is under way, and that a
task which has not finished is never stuck for good.
-/

namespace AdminAccess

/-- The tasks at the gate, the one that holds it first. -/
def Gate.queue (gate : Gate) : List Nat :=
  gate.holder.toList ++ gate.waiting

namespace TaskPhase

def usesGate : TaskPhase → Bool
  | .atGate _ | .loggingIn _ => true
  | _ => false

end TaskPhase

namespace System

/-- The gate is used by those at it, in order, and only who holds it logs in. -/
structure Orderly (system : System) : Prop where
  distinct : system.gate.queue.Nodup
  queue : ∀ task, task ∈ system.gate.queue ↔
    (system.taskPhase? task).any TaskPhase.usesGate = true
  holds : ∀ task credentials, system.taskPhase? task = some (.loggingIn credentials) →
    system.gate.holder = some task
  free : system.gate.holder = none → system.gate.waiting = []

/-- A task holds the gate; everybody else is in order. -/
structure HeldBy (system : System) (task : Nat) : Prop where
  holder : system.gate.holder = some task
  distinct : system.gate.queue.Nodup
  waiting : ∀ other, other ≠ task → (other ∈ system.gate.waiting ↔
    (system.taskPhase? other).any TaskPhase.usesGate = true)
  others : ∀ other credentials, system.taskPhase? other = some (.loggingIn credentials) →
    other = task

theorem initial_orderly : initial.Orderly where
  distinct := List.nodup_nil
  queue task := by simp [initial, Gate.queue, taskPhase?]
  holds task credentials h := by simp [initial, taskPhase?] at h
  free _ := rfl

/-- Only the session, the loops, the events and the time may differ. -/
structure SameDesk (system after : System) : Prop where
  gate : after.gate = system.gate
  tasks : after.tasks = system.tasks
  held : after.held = system.held
  closed : after.closed = system.closed

section Orderly

variable {setup : Setup} {system after : System} {facts : List Happening} {task : Nat}

theorem SameDesk.taskPhase? (h : system.SameDesk after) (other : Nat) :
    after.taskPhase? other = system.taskPhase? other := by
  rw [System.taskPhase?, System.taskPhase?, h.tasks]

theorem SameDesk.trans {last : System} (hfirst : system.SameDesk after)
    (hsecond : after.SameDesk last) : system.SameDesk last where
  gate := hsecond.gate.trans hfirst.gate
  tasks := hsecond.tasks.trans hfirst.tasks
  held := hsecond.held.trans hfirst.held
  closed := hsecond.closed.trans hfirst.closed

theorem Orderly.of_same (h : system.Orderly) (hgate : after.gate = system.gate)
    (htasks : after.tasks = system.tasks) : after.Orderly := by
  have hphase : ∀ other, after.taskPhase? other = system.taskPhase? other := by
    intro other
    rw [taskPhase?, taskPhase?, htasks]
  constructor
  · rw [hgate]
    exact h.distinct
  · intro other
    rw [hgate, hphase]
    exact h.queue other
  · intro other credentials
    rw [hgate, hphase]
    exact h.holds other credentials
  · rw [hgate]
    exact h.free

theorem SameDesk.orderly (hdesk : system.SameDesk after) (h : system.Orderly) :
    after.Orderly :=
  h.of_same hdesk.gate hdesk.tasks

theorem setTask_other {other : Nat} (hother : other ≠ task) (phase : TaskPhase) :
    (system.setTask task phase).taskPhase? other = system.taskPhase? other := by
  simp [taskPhase?, setTask, Ne.symm hother]

/-- A task away from the gate stays away. -/
theorem Orderly.setTask {old new : TaskPhase} (h : system.Orderly)
    (hold : system.taskPhase? task = some old) (haway : old.usesGate = false)
    (hnew : new.usesGate = false) : (system.setTask task new).Orderly := by
  have huses : ∀ other,
      ((system.setTask task new).taskPhase? other).any TaskPhase.usesGate =
        (system.taskPhase? other).any TaskPhase.usesGate := by
    intro other
    by_cases hother : other = task
    · subst hother
      rw [setTask_self hold, hold, Option.any_some, Option.any_some, haway, hnew]
    · rw [setTask_other hother]
  refine ⟨h.distinct, fun other => ?_, fun other credentials hphase => ?_, h.free⟩
  · rw [huses]
    exact h.queue other
  · obtain rfl | hbefore := setTask_taskPhase? hphase
    · cases hnew
    · exact h.holds other credentials hbefore

theorem openGate_queue (system : System) : system.openGate.gate.queue = system.gate.waiting := by
  unfold openGate
  cases system.gate.waiting <;> rfl

theorem openGate_free (system : System) (h : system.openGate.gate.holder = none) :
    system.openGate.gate.waiting = [] := by
  unfold openGate at h ⊢
  cases hwaiting : system.gate.waiting with
  | nil => rfl
  | cons next rest => simp [hwaiting] at h

theorem openGate_taskPhase? (system : System) (other : Nat) :
    system.openGate.taskPhase? other = system.taskPhase? other := by
  rw [taskPhase?, taskPhase?, system.openGate_keeps.2.1]

theorem HeldBy.queue (h : system.HeldBy task) :
    system.gate.queue = task :: system.gate.waiting := by
  rw [Gate.queue, h.holder]
  rfl

theorem SameDesk.heldBy (hdesk : system.SameDesk after) (h : system.HeldBy task) :
    after.HeldBy task := by
  constructor
  · rw [hdesk.gate]
    exact h.holder
  · rw [hdesk.gate]
    exact h.distinct
  · intro other
    rw [hdesk.gate, hdesk.taskPhase?]
    exact h.waiting other
  · intro other credentials
    rw [hdesk.taskPhase?]
    exact h.others other credentials

/-- Who holds the gate may log in. -/
theorem HeldBy.asks {old : TaskPhase} (h : system.HeldBy task)
    (hold : system.taskPhase? task = some old) (credentials : Credentials) :
    (system.setTask task (.loggingIn credentials)).Orderly := by
  have hself : (system.setTask task (.loggingIn credentials)).taskPhase? task =
      some (.loggingIn credentials) := setTask_self hold
  constructor
  · exact h.distinct
  · intro other
    have hqueue : (system.setTask task (.loggingIn credentials)).gate.queue =
        task :: system.gate.waiting := h.queue
    rw [hqueue, List.mem_cons]
    by_cases hother : other = task
    · subst hother
      simp [hself, TaskPhase.usesGate]
    · rw [setTask_other hother]
      simpa [hother] using h.waiting other hother
  · intro other others hphase
    by_cases hother : other = task
    · subst hother
      exact h.holder
    · rw [setTask_other hother] at hphase
      exact absurd (h.others other others hphase) hother
  · intro hfree
    have hholder : system.gate.holder = none := hfree
    rw [h.holder] at hholder
    cases hholder

/-- Who holds the gate may end and pass it on. -/
theorem HeldBy.leaves {old : TaskPhase} (h : system.HeldBy task)
    (hold : system.taskPhase? task = some old) (result : TaskResult) :
    (system.openGate.setTask task (.finished result)).Orderly := by
  rw [← openGate_taskPhase?] at hold
  have hself : (system.openGate.setTask task (.finished result)).taskPhase? task =
      some (.finished result) := setTask_self hold
  have hdistinct := h.distinct
  rw [h.queue, List.nodup_cons] at hdistinct
  have hqueue : (system.openGate.setTask task (.finished result)).gate.queue =
      system.gate.waiting := system.openGate_queue
  constructor
  · rw [hqueue]
    exact hdistinct.2
  · intro other
    rw [hqueue]
    by_cases hother : other = task
    · subst hother
      simp [hself, hdistinct.1, TaskPhase.usesGate]
    · rw [setTask_other hother, openGate_taskPhase?]
      exact h.waiting other hother
  · intro other credentials hphase
    by_cases hother : other = task
    · subst hother
      rw [hself] at hphase
      cases hphase
    · rw [setTask_other hother, openGate_taskPhase?] at hphase
      exact absurd (h.others other credentials hphase) hother
  · exact system.openGate_free

theorem Orderly.heldBy (h : system.Orderly) (hholder : system.gate.holder = some task) :
    system.HeldBy task where
  holder := hholder
  distinct := h.distinct
  waiting other hother := by
    rw [← h.queue other, Gate.queue, hholder]
    simp [hother]
  others other credentials hphase := by
    have hother := h.holds other credentials hphase
    rw [hholder] at hother
    cases hother
    rfl

/-- A task takes the free gate. -/
theorem Orderly.takes (h : system.Orderly) (hfree : system.gate.holder = none) (task : Nat) :
    HeldBy { system with gate := ⟨some task, system.gate.waiting⟩ } task := by
  have hempty := h.free hfree
  refine ⟨rfl, ?_, fun other hother => ?_, fun other credentials hphase => ?_⟩
  · simp [Gate.queue, hempty]
  · have hqueue := h.queue other
    rw [Gate.queue, hfree] at hqueue
    exact hqueue
  · have hholder := h.holds other credentials hphase
    rw [hfree] at hholder
    cases hholder

/-- A task joins the end of the queue. -/
theorem Orderly.joins {old : TaskPhase} {holder : Nat} (h : system.Orderly)
    (hold : system.taskPhase? task = some old) (haway : old.usesGate = false)
    (hholder : system.gate.holder = some holder) (credentials : Credentials) :
    ({ system with gate := ⟨some holder, system.gate.waiting ++ [task]⟩ }.setTask task
      (.atGate credentials)).Orderly := by
  let joined : System := { system with gate := ⟨some holder, system.gate.waiting ++ [task]⟩ }
  have hself : (joined.setTask task (.atGate credentials)).taskPhase? task =
      some (.atGate credentials) := setTask_self hold
  have hqueue : (joined.setTask task (.atGate credentials)).gate.queue =
      system.gate.queue ++ [task] := by
    rw [Gate.queue, Gate.queue, hholder]
    rfl
  have hout : task ∉ system.gate.queue := by
    rw [h.queue, hold, Option.any_some, haway]
    exact Bool.false_ne_true
  change (joined.setTask task (.atGate credentials)).Orderly
  constructor
  · rw [hqueue]
    exact List.perm_append_comm.nodup_iff.1 (List.nodup_cons.2 ⟨hout, h.distinct⟩)
  · intro other
    rw [hqueue, List.mem_append, List.mem_singleton]
    by_cases hother : other = task
    · subst hother
      simp [hself, TaskPhase.usesGate]
    · rw [setTask_other hother, show joined.taskPhase? other = system.taskPhase? other from rfl]
      simpa [hother] using h.queue other
  · intro other others hphase
    obtain hjoined | hbefore := setTask_taskPhase? hphase
    · cases hjoined
    · exact hholder.symm.trans (h.holds other others hbefore)
  · intro hfree
    cases hfree

/-! ## Moves -/

theorem LoginEnds.sameDesk {result : Except Failure TokenResponse} {ends : TaskResult}
    (h : LoginEnds system result facts after ends) : system.SameDesk after := by
  cases h <;> exact ⟨rfl, rfl, rfl, rfl⟩

theorem RefreshEnds.sameDesk {renewal : Renewal} {result : Except Failure TokenResponse}
    {renewed : Renewed} (h : RefreshEnds system renewal result facts after renewed) :
    system.SameDesk after := by
  cases h <;> exact ⟨rfl, rfl, rfl, rfl⟩

theorem AsksRefresh.sameDesk {renewal : Renewal} {renewed : Option Renewed}
    (h : AsksRefresh setup system renewal facts after renewed) : system.SameDesk after := by
  cases h with
  | pending => exact ⟨rfl, rfl, rfl, rfl⟩
  | settled hsettled hends => exact hends.sameDesk

theorem register_sameDesk (system : System) (loop : Option Nat) :
    system.SameDesk (system.register loop) :=
  have h := system.register_keeps loop
  ⟨h.2.2.1, h.2.1, h.2.2.2.1, h.2.2.2.2⟩

theorem EndsSession.sameDesk {reason : EndReason} {expected : Option Nat} {farewell : Farewell}
    (h : EndsSession setup system reason expected facts after farewell) :
    system.SameDesk after := by
  cases h with
  | stale => exact ⟨rfl, rfl, rfl, rfl⟩
  | idle => exact system.register_sameDesk none
  | asked | settled =>
      have hdesk := register_sameDesk { system with session := none } none
      exact ⟨hdesk.gate, hdesk.tasks, hdesk.held, hdesk.closed⟩

theorem afterFarewell_sameDesk (system : System) (loop : Nat) (farewell : Farewell) :
    system.SameDesk (system.afterFarewell loop farewell) := by
  cases farewell <;> exact ⟨rfl, rfl, rfl, rfl⟩

theorem GoesOn.sameDesk {loop due : Nat} {renewal : Renewal} {renewed : Renewed}
    (h : GoesOn setup system loop due renewal renewed facts after) : system.SameDesk after := by
  cases h with
  | stored | discarded | broken => exact ⟨rfl, rfl, rfl, rfl⟩
  | failed hends => exact hends.sameDesk.trans (afterFarewell_sameDesk _ loop _)

theorem Ticks.sameDesk {loop due minValidity : Nat}
    (h : Ticks setup system loop due minValidity facts after) : system.SameDesk after := by
  cases h with
  | closed | noSession | fresh => exact ⟨rfl, rfl, rfl, rfl⟩
  | unusable hcandidate hends => exact hends.sameDesk.trans (afterFarewell_sameDesk _ loop _)
  | refreshing hcandidate hasks => exact hasks.sameDesk.trans ⟨rfl, rfl, rfl, rfl⟩
  | refreshed hcandidate hasks hgoes => exact hasks.sameDesk.trans hgoes.sameDesk

theorem LoopSettles.sameDesk {loop : Nat} {reply : Reply} {phase : LoopPhase}
    (h : LoopSettles setup system loop reply phase facts after) : system.SameDesk after := by
  cases h with
  | refresh hends hgoes => exact hends.sameDesk.trans hgoes.sameDesk
  | logout => exact ⟨rfl, rfl, rfl, rfl⟩

/-- Who holds the gate leaves it in order. -/
theorem EntersGate.orderly {credentials : Credentials} {old : TaskPhase}
    (h : EntersGate setup system task credentials facts after) (hheld : system.HeldBy task)
    (hold : system.taskPhase? task = some old) : after.Orderly := by
  cases h with
  | already => exact hheld.leaves hold _
  | asked => exact hheld.asks hold credentials
  | settled hvalid hsettled hends =>
      have hdesk := hends.sameDesk
      exact (hdesk.heldBy hheld).leaves ((hdesk.taskPhase? task).trans hold) _

theorem Starts.orderly {job : Job} (h : Starts setup system task job facts after)
    (horderly : system.Orderly) (hphase : system.taskPhase? task = some (.ready job)) :
    after.Orderly := by
  cases h with
  | alreadyIn | unrefreshed | uncalled | answered | calling =>
      exact horderly.setTask hphase rfl rfl
  | queues hvalid hheld => exact horderly.joins hphase rfl hheld _
  | enters hvalid hfree henters => exact henters.orderly (horderly.takes hfree task) hphase
  | refreshing hcandidate hasks | refreshed hcandidate hasks =>
      have hdesk := hasks.sameDesk
      exact (hdesk.orderly horderly).setTask ((hdesk.taskPhase? task).trans hphase) rfl rfl
  | @logout facts middle farewell hends =>
      have hdesk := hends.sameDesk
      refine (hdesk.orderly horderly).setTask ((hdesk.taskPhase? task).trans hphase) rfl ?_
      cases farewell <;> rfl

theorem Settles.orderly {reply : Reply} {phase : TaskPhase}
    (h : Settles setup system task reply phase facts after) (horderly : system.Orderly)
    (hphase : system.taskPhase? task = some phase) : after.Orderly := by
  cases h with
  | login hends =>
      have hdesk := hends.sameDesk
      have hheld := horderly.heldBy (horderly.holds task _ hphase)
      exact (hdesk.heldBy hheld).leaves ((hdesk.taskPhase? task).trans hphase) _
  | refresh hends =>
      have hdesk := hends.sameDesk
      exact (hdesk.orderly horderly).setTask ((hdesk.taskPhase? task).trans hphase) rfl rfl
  | @logout ending result =>
      have hdesk : system.SameDesk (system.tell (.loggedOut ending.reason)) :=
        ⟨rfl, rfl, rfl, rfl⟩
      exact (hdesk.orderly horderly).setTask hphase rfl rfl
  | call => exact horderly.setTask hphase rfl rfl

theorem Orderly.spawn (h : system.Orderly) (job : Job) : (system.spawn job).Orderly := by
  have hphase : ∀ other, ((system.spawn job).taskPhase? other).any TaskPhase.usesGate =
      (system.taskPhase? other).any TaskPhase.usesGate := by
    intro other
    simp only [taskPhase?, System.spawn, List.getElem?_append]
    split
    · rfl
    · next hlength =>
        have hnone : system.tasks[other]? = none := List.getElem?_eq_none (by omega)
        rw [hnone]
        cases hnew : [TaskPhase.ready job][other - system.tasks.length]? with
        | none => rfl
        | some phase =>
            rw [List.mem_singleton.1 (List.mem_of_getElem? hnew)]
            rfl
  refine ⟨h.distinct, fun other => ?_, fun other credentials hlogging => ?_, h.free⟩
  · rw [hphase]
    exact h.queue other
  · obtain hready | hbefore := spawn_taskPhase? hlogging
    · cases hready
    · exact h.holds other credentials hbefore

/-- Every move leaves the gate in order. -/
theorem Does.orderly {move : Move} (h : Does setup system move facts after)
    (horderly : system.Orderly) : after.Orderly := by
  cases h with
  | spawn => exact horderly.spawn _
  | start hphase hstarts => exact hstarts.orderly horderly hphase
  | passGate hphase hadmitted henters =>
      exact henters.orderly (horderly.heldBy hadmitted) hphase
  | settle hphase hsettles => exact hsettles.orderly horderly hphase
  | schedule =>
      have hdesk := system.register_sameDesk (some system.loops.length)
      exact horderly.of_same hdesk.gate hdesk.tasks
  | tick hloop hdue hticks => exact hticks.sameDesk.orderly horderly
  | settleLoop hphase hsettles => exact hsettles.sameDesk.orderly horderly
  | startLoop | stopLoop | cancel | release | advance => exact horderly.of_same rfl rfl

/-! ## Who is let go -/

theorem openGate_hold (system : System) :
    system.openGate.held = system.held ∧ system.openGate.closed = system.closed :=
  system.openGate_keeps.2.2.2

theorem EntersGate.hold {credentials : Credentials}
    (h : EntersGate setup system task credentials facts after) :
    after.held = system.held ∧ after.closed = system.closed := by
  cases h with
  | already => exact system.openGate_hold
  | asked => exact ⟨rfl, rfl⟩
  | settled hvalid hsettled hends =>
      have hdesk := hends.sameDesk
      obtain ⟨hheld, hclosed⟩ := openGate_hold _
      exact ⟨hheld.trans hdesk.held, hclosed.trans hdesk.closed⟩

theorem Starts.hold {job : Job} (h : Starts setup system task job facts after) :
    after.held = system.held ∧ after.closed = system.closed := by
  cases h with
  | alreadyIn | queues | unrefreshed | uncalled | answered | calling => exact ⟨rfl, rfl⟩
  | enters hvalid hfree henters => exact henters.hold
  | refreshing hcandidate hasks | refreshed hcandidate hasks =>
      exact ⟨hasks.sameDesk.held, hasks.sameDesk.closed⟩
  | logout hends => exact ⟨hends.sameDesk.held, hends.sameDesk.closed⟩

theorem Settles.hold {reply : Reply} {phase : TaskPhase}
    (h : Settles setup system task reply phase facts after) :
    after.held = system.held ∧ after.closed = system.closed := by
  cases h with
  | login hends =>
      have hdesk := hends.sameDesk
      obtain ⟨hheld, hclosed⟩ := openGate_hold _
      exact ⟨hheld.trans hdesk.held, hclosed.trans hdesk.closed⟩
  | refresh hends => exact ⟨hends.sameDesk.held, hends.sameDesk.closed⟩
  | logout | call => exact ⟨rfl, rfl⟩

def Open (system : System) : Prop :=
  system.held = true → system.closed = false

theorem Does.keepsOpen {move : Move} (h : Does setup system move facts after)
    (hopen : system.Open) : after.Open := by
  have hsame : ∀ {other : System}, other.held = system.held ∧ other.closed = system.closed →
      other.Open := fun hhold hheld => hhold.2.trans (hopen (hhold.1.symm.trans hheld))
  cases h with
  | spawn | startLoop | stopLoop | cancel | advance => exact hopen
  | start hphase hstarts => exact hsame hstarts.hold
  | passGate hphase hadmitted henters => exact hsame henters.hold
  | settle hphase hsettles => exact hsame hsettles.hold
  | schedule =>
      have hdesk := system.register_sameDesk (some system.loops.length)
      exact hsame ⟨hdesk.held, hdesk.closed⟩
  | tick hloop hdue hticks => exact hsame ⟨hticks.sameDesk.held, hticks.sameDesk.closed⟩
  | settleLoop hphase hsettles =>
      exact hsame ⟨hsettles.sameDesk.held, hsettles.sameDesk.closed⟩
  | release => intro hheld; cases hheld

end Orderly

/-! ## Runs -/

variable {setup : Setup}

theorem step?_orderly {system : System} {move : Move} {turn : Turn}
    (h : system.step? setup move = some turn) (horderly : system.Orderly) :
    turn.system.Orderly := by
  obtain ⟨after, hdoes, hclosed⟩ := step?_does h
  obtain ⟨-, htasks, hgate, -⟩ := after.closeUnused_keeps
  rw [hclosed]
  exact (hdoes.orderly horderly).of_same hgate htasks

/-- Every run leaves the gate in order. -/
theorem run?_orderly {system : System} {moves : List Move} {turn : Turn}
    (h : system.run? setup moves = some turn) (horderly : system.Orderly) :
    turn.system.Orderly := by
  refine run?_induction (motive := fun _ system => system.Orderly) horderly ?_ h
  intro _ _ _ _ _ hbefore hstep
  exact step?_orderly hstep hbefore

theorem closeUnused_of_held {system : System} (h : system.held = true) :
    system.closeUnused = system := by
  simp [closeUnused, isInUse, h]

theorem closeUnused_open {system : System} (h : system.Open) : system.closeUnused.Open := by
  intro hheld
  have hbefore : system.held = true := system.closeUnused_keeps.2.2.2.1.symm.trans hheld
  rw [closeUnused_of_held hbefore]
  exact h hbefore

theorem run?_open {system : System} {moves : List Move} {turn : Turn}
    (h : system.run? setup moves = some turn) (hopen : system.Open) : turn.system.Open := by
  refine run?_induction (motive := fun _ system => system.Open) hopen ?_ h
  intro _ turn _ last _ hbefore hstep
  obtain ⟨after, hdoes, hclosed⟩ := step?_does hstep
  rw [hclosed]
  exact closeUnused_open (hdoes.keepsOpen hbefore)

end System

end AdminAccess
