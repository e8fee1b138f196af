import Mathlib.Algebra.GroupWithZero.Nat
import Mathlib.Data.List.Perm.Basic
import AdminAccess.Proofs.Session.Gate

/-! # No task is stuck

A task runs at most three stretches.  While one has not finished, it or the holder of the gate
can go on, and every stretch that a task runs leaves fewer to run.
-/

namespace AdminAccess

/-- How many stretches a task has yet to run at most. -/
def TaskPhase.stretchesLeft : TaskPhase → Nat
  | .ready _ => 3
  | .atGate _ => 2
  | .loggingIn _ | .refreshing _ | .leaving _ | .calling _ _ => 1
  | .finished _ => 0

namespace System

section Moves

variable {setup : Setup} {system after : System} {facts : List Happening} {task : Nat}

def stretchesLeft (system : System) : Nat :=
  (system.tasks.map TaskPhase.stretchesLeft).sum

theorem MovesTask.stretchesLeft_lt {old phase : TaskPhase}
    (hmoves : system.MovesTask task phase after) (hold : system.taskPhase? task = some old)
    (hless : phase.stretchesLeft < old.stretchesLeft) :
    after.stretchesLeft < system.stretchesLeft := by
  obtain ⟨hbound, rfl⟩ := List.getElem?_eq_some_iff.1 hold
  have hafter := ((List.set_perm_cons_eraseIdx hbound phase).map
    TaskPhase.stretchesLeft).sum_nat
  have hbefore := ((List.getElem_cons_eraseIdx_perm hbound).map
    TaskPhase.stretchesLeft).sum_nat
  rw [List.map_cons, List.sum_cons] at hafter hbefore
  rw [stretchesLeft, stretchesLeft, hmoves.1]
  omega

theorem EntersGate.movesTask {credentials : Credentials}
    (h : EntersGate setup system task credentials facts after) :
    ∃ phase, system.MovesTask task phase after ∧ phase.stretchesLeft < 2 := by
  obtain ⟨middle, phase, hwork, rfl, rfl | ⟨result, rfl⟩⟩ := h.sameWork
  · exact ⟨_, hwork.setTask task _, by simp [TaskPhase.stretchesLeft]⟩
  · exact ⟨_, hwork.setTask task _, by simp [TaskPhase.stretchesLeft]⟩

theorem Starts.movesTask {job : Job} (h : Starts setup system task job facts after) :
    ∃ phase, system.MovesTask task phase after ∧ phase.stretchesLeft < 3 := by
  have hsame : system.SameWork system := ⟨rfl, rfl⟩
  cases h with
  | alreadyIn | queues | unrefreshed | uncalled | answered | calling =>
      exact ⟨_, hsame.setTask task _, by simp [TaskPhase.stretchesLeft]⟩
  | enters hvalid hfree henters =>
      obtain ⟨phase, hmoves, hless⟩ := henters.movesTask
      exact ⟨phase, hmoves, by omega⟩
  | refreshing hcandidate hasks | refreshed hcandidate hasks =>
      exact ⟨_, hasks.sameWork.setTask task _, by simp [TaskPhase.stretchesLeft]⟩
  | @logout facts middle farewell hends =>
      refine ⟨_, hends.sameWork.setTask task _, ?_⟩
      cases farewell <;> simp [Task.farewellPhase, TaskPhase.stretchesLeft]

theorem Settles.stretchesLeft_lt {reply : Reply} {old : TaskPhase}
    (h : Settles setup system task reply old facts after)
    (hphase : system.taskPhase? task = some old) :
    after.stretchesLeft < system.stretchesLeft := by
  have hsame : system.SameWork system := ⟨rfl, rfl⟩
  have hone : ∀ {result : TaskResult}, (TaskPhase.finished result).stretchesLeft < 1 :=
    Nat.zero_lt_one
  cases h with
  | login hends =>
      exact ((hends.sameWork.trans (openGate_sameWork _)).setTask task _).stretchesLeft_lt
        hphase hone
  | refresh hends => exact (hends.sameWork.setTask task _).stretchesLeft_lt hphase hone
  | @logout ending result =>
      have htold : system.SameWork (system.tell (.loggedOut ending.reason)) := ⟨rfl, rfl⟩
      exact (htold.setTask task _).stretchesLeft_lt hphase hone
  | call => exact (hsame.setTask task _).stretchesLeft_lt hphase hone

/-- A move runs a stretch of a task, with a given reply if one is needed. -/
inductive Serves (reply : Reply) : Move → Prop
  | start (task : Nat) : Serves reply (.start task)
  | passGate (task : Nat) : Serves reply (.passGate task)
  | settle (task : Nat) : Serves reply (.settle task reply)

theorem Does.stretchesLeft_lt {move : Move} {reply : Reply}
    (h : Does setup system move facts after) (hserves : Serves reply move) :
    after.stretchesLeft < system.stretchesLeft := by
  cases h with
  | start hphase hstarts =>
      obtain ⟨phase, hmoves, hless⟩ := hstarts.movesTask
      exact hmoves.stretchesLeft_lt hphase hless
  | passGate hphase hadmitted henters =>
      obtain ⟨phase, hmoves, hless⟩ := henters.movesTask
      exact hmoves.stretchesLeft_lt hphase hless
  | settle hphase hsettles => exact hsettles.stretchesLeft_lt hphase
  | _ => cases hserves

theorem step?_start {job : Job} (setup : Setup)
    (hphase : system.taskPhase? task = some (.ready job)) :
    ∃ last, system.step? setup (.start task) = some last := by
  have htask : system.tasks[task]? = some (.ready job) := hphase
  simp [step?, move?, htask]

theorem step?_passGate {credentials : Credentials} (setup : Setup)
    (hphase : system.taskPhase? task = some (.atGate credentials))
    (hholder : system.gate.holder = some task) :
    ∃ last, system.step? setup (.passGate task) = some last := by
  have htask : system.tasks[task]? = some (.atGate credentials) := hphase
  simp [step?, move?, htask, hholder]

theorem step?_settle {phase : TaskPhase} (setup : Setup) (reply : Reply)
    (hphase : system.taskPhase? task = some phase) (hwaits : phase.stretchesLeft = 1) :
    ∃ last, system.step? setup (.settle task reply) = some last := by
  have htask : system.tasks[task]? = some phase := hphase
  cases phase with
  | ready | atGate | finished => cases hwaits
  | loggingIn | refreshing | leaving | calling => simp [step?, move?, htask, Task.settle?]

/-- As long as a task has not finished, some task can run a stretch, whatever the reply is. -/
theorem Orderly.serves (horderly : system.Orderly) {phase : TaskPhase}
    (hphase : system.taskPhase? task = some phase) (hopen : phase.isFinished = false)
    (setup : Setup) (reply : Reply) :
    ∃ move last, Serves reply move ∧ system.step? setup move = some last := by
  have hsettles : ∀ {other : Nat} {waits : TaskPhase},
      system.taskPhase? other = some waits → waits.stretchesLeft = 1 →
      ∃ move last, Serves reply move ∧ system.step? setup move = some last := by
    intro other waits hwaits hone
    obtain ⟨last, hstep⟩ := step?_settle setup reply hwaits hone
    exact ⟨_, last, .settle other, hstep⟩
  cases phase with
  | finished => cases hopen
  | ready job =>
      obtain ⟨last, hstep⟩ := step?_start setup hphase
      exact ⟨_, last, .start task, hstep⟩
  | loggingIn | refreshing | leaving | calling => exact hsettles hphase rfl
  | atGate credentials =>
      -- whoever holds the gate can go on
      have hqueued : task ∈ system.gate.queue := by
        rw [horderly.queue, hphase]
        rfl
      cases hholder : system.gate.holder with
      | none =>
          rw [Gate.queue, hholder, horderly.free hholder] at hqueued
          cases hqueued
      | some holder =>
          have huses : holder ∈ system.gate.queue := by
            rw [Gate.queue, hholder]
            exact List.mem_cons_self
          rw [horderly.queue] at huses
          cases hheld : system.taskPhase? holder with
          | none => rw [hheld] at huses; cases huses
          | some phase =>
              cases phase with
              | atGate others =>
                  obtain ⟨last, hstep⟩ := step?_passGate setup hheld hholder
                  exact ⟨_, last, .passGate holder, hstep⟩
              | loggingIn => exact hsettles hheld rfl
              | _ => rw [hheld] at huses; cases huses

theorem step?_stretchesLeft_lt {move : Move} {reply : Reply} {last : Turn}
    (h : system.step? setup move = some last) (hserves : Serves reply move) :
    last.system.stretchesLeft < system.stretchesLeft := by
  obtain ⟨after, hdoes, hclosed⟩ := step?_does h
  rw [hclosed, stretchesLeft, after.closeUnused_keeps.2.1]
  exact hdoes.stretchesLeft_lt hserves

end Moves

end System

end AdminAccess
