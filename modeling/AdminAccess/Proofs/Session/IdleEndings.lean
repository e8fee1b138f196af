import AdminAccess.Proofs.Session.Endings
import AdminAccess.Proofs.Session.ForcedLogout
import AdminAccess.Proofs.Session.Progress

/-! # Endings without a session to end

A logout may find no session, and the failure of a refresh may find none or one of another login.
Then nothing is ended: the ledger stays, and neither subscribers nor the identity provider hear
of it.  The loops are not as safe: without a session the registered one is told to stop, though
it may have been started for a session to come.
-/

namespace AdminAccess

namespace System

/-! ## Handles -/

def cancelled? (system : System) (loop : Nat) : Option Bool :=
  system.loops[loop]?.map (·.cancelled)

theorem updateLoop_cancelled? (system : System) {loop other : Nat} {change : Loop → Loop}
    (hkeeps : loop = other → ∀ l, (change l).cancelled = l.cancelled) :
    (system.updateLoop loop change).cancelled? other = system.cancelled? other := by
  simp only [cancelled?, updateLoop, List.getElem?_modify]
  cases system.loops[other]? with
  | none => rfl
  | some l =>
      by_cases hsame : loop = other
      · simp [hsame, hkeeps hsame]
      · simp [hsame]

@[simp] theorem setLoop_cancelled? (system : System) (loop other : Nat) (phase : LoopPhase) :
    (system.setLoop loop phase).cancelled? other = system.cancelled? other :=
  system.updateLoop_cancelled? fun _ _ => rfl

theorem markCancelled_cancelled? (system : System) (loop other : Nat) :
    (system.markCancelled loop).cancelled? other =
      if loop = other then (system.cancelled? other).map fun _ => true
      else system.cancelled? other := by
  by_cases hsame : loop = other
  · subst hsame
    simp only [if_true, cancelled?, markCancelled, updateLoop, List.getElem?_modify]
    cases system.loops[loop]? <;> rfl
  · rw [if_neg hsame]
    exact system.updateLoop_cancelled? fun heq => absurd heq hsame

/-- Registering a loop tells the one before to stop, and no other. -/
theorem register_cancelled? (system : System) (loop : Option Nat) (other : Nat) :
    (system.register loop).cancelled? other =
      if system.registered = some other then (system.cancelled? other).map fun _ => true
      else system.cancelled? other := by
  unfold register
  cases system.registered with
  | none => rfl
  | some before =>
      simp only [Option.some.injEq]
      exact markCancelled_cancelled? { system with registered := loop } before other

@[simp] theorem register_registered (system : System) (loop : Option Nat) :
    (system.register loop).registered = loop := by
  unfold register
  cases system.registered <;> rfl

theorem stopLoop_cancelled? (system : System) {loop other : Nat} (h : loop ≠ other) :
    (system.stopLoop loop).cancelled? other = system.cancelled? other := by
  rw [stopLoop, markCancelled_cancelled?, if_neg h, setLoop_cancelled?]

/-- The registered loop stays, and so does what the handles of all loops show but one's own. -/
structure SparesLoops (own : Option Nat) (system after : System) : Prop where
  registered : after.registered = system.registered
  handles : ∀ loop, own ≠ some loop → after.cancelled? loop = system.cancelled? loop

/-! ## Without a session to end -/

/-- A move is to end a session, and there is none to end: a logout without a session, or the
failure of a loop's own refresh whose session is out.  A tick that fails without waiting for a
reply still finds the session that it is for. -/
inductive EndsNothing (setup : Setup) (system : System) : Move → Option Nat → Prop
  | logout {task : Nat} (hphase : system.taskPhase? task = some (.ready .logout))
      (hnone : system.session = none) : EndsNothing setup system (.start task) none
  | failure {loop due : Nat} {renewal : Renewal} {reply : Reply} {failure : Failure}
      (hphase : system.loopPhase? loop = some (.refreshing due renewal))
      (hfailed : setup.refreshResult renewal reply = .error failure)
      (hout : ¬ system.ledger.Holds renewal.generation) :
      EndsNothing setup system (.settleLoop loop reply) (some loop)

/-- What becomes of the loops when there is nothing to end. -/
structure LeavesLoops (own : Option Nat) (system after : System) : Prop where
  held : after.held = system.held
  registered : after.registered = if system.session.isSome then system.registered else none
  handles : ∀ loop, own ≠ some loop → after.cancelled? loop =
    if system.session.isSome ∨ system.registered ≠ some loop then system.cancelled? loop
    else (system.cancelled? loop).map fun _ => true

section Idle

variable {setup : Setup} {system after : System} {facts : List Happening}

theorem LeavesLoops.spares_iff {own : Option Nat} (h : LeavesLoops own system after) :
    SparesLoops own system after ↔ system.session.isSome ∨ system.registered = none := by
  constructor
  · intro hspares
    have hregistered := h.registered
    rw [hspares.registered] at hregistered
    by_cases hheld : system.session.isSome
    · exact .inl hheld
    · rw [if_neg hheld] at hregistered
      exact .inr hregistered
  · intro hsafe
    constructor
    · rw [h.registered]
      obtain hheld | hnone := hsafe
      · rw [if_pos hheld]
      · rw [hnone, ite_self]
    · intro loop hother
      have hkept : system.session.isSome ∨ system.registered ≠ some loop := by
        refine hsafe.imp_right fun hnone => ?_
        rw [hnone]
        exact nofun
      rw [h.handles loop hother, if_pos hkept]

/-- The stretch that finds no session to end tells the registered loop to stop if there is no
session at all. -/
theorem EndsSession.leavesLoops {reason : EndReason} {expected : Option Nat}
    {farewell : Farewell} (h : EndsSession setup system reason expected facts after farewell)
    (hout : ∀ session, system.session = some session →
      ∃ generation ∈ expected, generation ≠ session.generation) :
    farewell = .kept ∧ facts = [] ∧ after.ledger = system.ledger ∧
      LeavesLoops none system after := by
  cases h with
  | stale hsession hexpected hother =>
      have hheld : system.session.isSome := by rw [hsession]; rfl
      refine ⟨rfl, rfl, rfl, rfl, ?_, fun loop _ => ?_⟩
      · rw [if_pos hheld]
      · rw [if_pos (.inl hheld)]
  | idle hsession =>
      have hnone : ¬ system.session.isSome := by rw [hsession]; exact nofun
      obtain ⟨hledger, -, -, hheld, -⟩ := system.register_keeps none
      refine ⟨rfl, rfl, hledger, hheld, ?_, fun loop _ => ?_⟩
      · rw [if_neg hnone, register_registered]
      · rw [register_cancelled?]
        by_cases hregistered : system.registered = some loop
        · rw [if_pos hregistered, if_neg (by simp [hnone, hregistered])]
        · rw [if_neg hregistered, if_pos (.inr hregistered)]
  | asked hsession hexpected | settled hsession hexpected =>
      -- a session is taken out only if it is of the expected generation
      obtain ⟨generation, hmem, hother⟩ := hout _ hsession
      exact absurd (hexpected generation hmem) hother

theorem LeavesLoops.setTask {own : Option Nat} (h : LeavesLoops own system after) (task : Nat)
    (phase : TaskPhase) : LeavesLoops own system (after.setTask task phase) :=
  ⟨h.held, h.registered, h.handles⟩

theorem LeavesLoops.stopLoop (h : LeavesLoops none system after) (loop : Nat) :
    LeavesLoops (some loop) system (after.stopLoop loop) where
  held := h.held
  registered := h.registered
  handles other hother := by
    have hne : loop ≠ other := fun heq => hother (congrArg some heq)
    rw [stopLoop_cancelled? _ hne, h.handles other nofun]

/-- A loop whose refresh has failed is to end the session that the refresh was for. -/
theorem Does.endsSession {loop due : Nat} {renewal : Renewal} {reply : Reply} {failure : Failure}
    (h : Does setup system (.settleLoop loop reply) facts after)
    (hphase : system.loopPhase? loop = some (.refreshing due renewal))
    (hfailed : setup.refreshResult renewal reply = .error failure) :
    ∃ middle farewell, EndsSession setup system .refreshFailed (some renewal.generation) facts
      middle farewell ∧ after = middle.afterFarewell loop farewell := by
  cases h with
  | settleLoop hfound hsettles =>
      cases (show some _ = some _ from hphase.symm.trans hfound)
      cases hsettles with
      | refresh hends hgoes =>
          rw [hfailed] at hends
          cases hends with
          | discarded hresult | stored hresult | broken hresult => cases hresult
          | failed =>
              cases hgoes with
              | failed hended => exact ⟨_, _, hended, rfl⟩

/-- A move without a session to end leaves the ledger and the record alone, and the loops as far
as there is a session. -/
theorem Does.leavesLoops {move : Move} {own : Option Nat} (h : Does setup system move facts after)
    (hidle : EndsNothing setup system move own) :
    facts = [] ∧ after.ledger = system.ledger ∧ LeavesLoops own system after := by
  cases hidle with
  | logout hphase hnone =>
      cases h with
      | start hfound hstarts =>
          cases (show some _ = some _ from hphase.symm.trans hfound)
          cases hstarts with
          | logout hends =>
              obtain ⟨-, hfacts, hledger, hloops⟩ := hends.leavesLoops fun session hsession => by
                rw [hnone] at hsession
                cases hsession
              exact ⟨hfacts, hledger, hloops.setTask _ _⟩
  | failure hphase hfailed hout =>
      obtain ⟨middle, farewell, hends, rfl⟩ := h.endsSession hphase hfailed
      obtain ⟨rfl, hfacts, hledger, hloops⟩ := hends.leavesLoops fun session hsession =>
        ⟨_, rfl, fun heq => hout ⟨session, hsession, heq.symm⟩⟩
      exact ⟨hfacts, hledger, hloops.stopLoop _⟩

theorem EndsNothing.step? {move : Move} {own : Option Nat}
    (h : EndsNothing setup system move own) :
    ∃ last, system.step? setup move = some last := by
  cases h with
  | logout hphase hnone => exact step?_start setup hphase
  | failure hphase hfailed hout => exact ⟨_, congrArg _ (move?_settleLoop _ hphase)⟩

/-- A logout without a session, and the failure of a refresh whose session is out, go through and
change neither the session nor the counter of generations nor what subscribers or the identity
provider have heard.  The other loops are spared exactly if there is a session of another login
or no loop is registered; else the registered one, and no other, is told to stop.  (A provider
that nobody uses any more is let go after the move, as after any.) -/
theorem step?_ends_nothing {move : Move} {own : Option Nat}
    (hidle : EndsNothing setup system move own) :
    ∃ last left, system.step? setup move = some last ∧ last.system = left.closeUnused ∧
      (system.held = true → last.system = left) ∧ left.ledger = system.ledger ∧
      (∀ event, .emitted event ∉ last.happened) ∧
      (∀ purpose, .asked purpose ∉ last.happened) ∧
      (∀ ending, .taken ending ∉ last.happened) ∧
      LeavesLoops own system left ∧
      (SparesLoops own system left ↔ system.session.isSome ∨ system.registered = none) := by
  obtain ⟨last, hstep⟩ := hidle.step?
  obtain ⟨left, hdoes, hclosed⟩ := step?_does hstep
  obtain ⟨hfacts, hledger, hloops⟩ := hdoes.leavesLoops hidle
  have hsame : system.held = true → last.system = left := by
    intro hheld
    rw [hclosed, closeUnused_of_held (hloops.held.trans hheld)]
  exact ⟨last, left, hstep, hclosed, hsame, hledger, fun _ => Turn.not_mem_of_facts hfacts rfl,
    fun _ => Turn.not_mem_of_facts hfacts rfl, fun _ => Turn.not_mem_of_facts hfacts rfl,
    hloops, hloops.spares_iff⟩

end Idle

/-- The refresh of a tick is still in flight when another loop is registered and another login
opens a session. -/
def loginOvertakesTick : List Move :=
  tickDue ++ [.tick 0, .schedule 5 60001, .advance 60000,
    .spawn (.authenticate (.authorizationCode "code")), .start 1, .settle 1 (.ok default)]

/-- The failure of the tick then spares the other loop. -/
theorem loginOvertakesTick_spares :
    ∃ turn last,
      initial.run? (.standard .rotating "http://admin") loginOvertakesTick = some turn ∧
      turn.system.registered = some 1 ∧ turn.system.cancelled? 1 = some false ∧
      turn.system.step? (.standard .rotating "http://admin") (.settleLoop 0 (.error .timeout)) =
        some last ∧
      last.system.registered = some 1 ∧ last.system.cancelled? 1 = some false := by
  obtain ⟨turn, hrun, hphase, hsession, hregistered, hhandle, hheld⟩ : ∃ turn,
      initial.run? (.standard .rotating "http://admin") loginOvertakesTick = some turn ∧
      turn.system.loopPhase? 0 = some (.refreshing 10 ⟨0, "refresh-0"⟩) ∧
      turn.system.session = some ⟨"access-0", some "refresh-0", 120005, none, 1⟩ ∧
      turn.system.registered = some 1 ∧ turn.system.cancelled? 1 = some false ∧
      turn.system.held = true :=
    ⟨_, rfl, rfl, rfl, rfl, rfl, rfl⟩
  have hout : ¬ turn.system.ledger.Holds 0 := fun hholds =>
    absurd (hholds.generation_eq hsession) (by decide)
  have hfailed : (Setup.standard .rotating "http://admin").refreshResult ⟨0, "refresh-0"⟩
      (.error .timeout) = .error .timeout := rfl
  obtain ⟨last, left, hstep, -, hsame, -, -, -, -, -, hspares⟩ :=
    step?_ends_nothing (.failure hphase hfailed hout)
  obtain ⟨hkept, hhandles⟩ := hspares.2 (.inl (by rw [hsession]; rfl))
  rw [← hsame hheld] at hkept hhandles
  exact ⟨turn, last, hrun, hregistered, hhandle, hstep, hkept.trans hregistered,
    (hhandles 1 nofun).trans hhandle⟩

/-- A logout without a session can stop a loop that waits for the next login. -/
theorem idle_logout_may_stop_loop :
    ¬ ∀ (setup : Setup) (moves : List Move) (turn last : Turn) (task loop : Nat),
      initial.run? setup moves = some turn → turn.system.held = true →
      turn.system.taskPhase? task = some (.ready .logout) → turn.system.session = none →
      turn.system.step? setup (.start task) = some last →
      last.system.cancelled? loop = turn.system.cancelled? loop := by
  intro hspares
  have hkept := hspares (.standard .rotating "http://admin") [.schedule 5 60001, .spawn .logout]
    _ _ 0 0 rfl rfl rfl rfl rfl
  cases hkept

end System

end AdminAccess
