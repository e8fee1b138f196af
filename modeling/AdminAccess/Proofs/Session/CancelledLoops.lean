import AdminAccess.Proofs.Session.ForcedLogout
import AdminAccess.Proofs.Session.LoopMoves

/-! # Loops that have been told to stop

A loop looks whether it has been told to stop only while it waits for its next tick, and when that
tick is due as well either may win.  So a loop that has been told to stop may make another tick.
The tick asks for a refresh if it finds a session that needs one, be it a session that a login has
opened since.
-/

namespace AdminAccess

/-- Nothing in a record asks for a refresh or takes out a session of a late generation. -/
structure Restful (bound : Nat) (record : List Happening) : Prop where
  asks : ∀ renewal, .asked (.refresh renewal) ∉ record
  takes : ∀ ending, .taken ending ∈ record → ending.generation < bound

theorem Restful.nil (bound : Nat) : Restful bound [] :=
  ⟨nofun, nofun⟩

theorem Turn.restful_facts {turn : Turn} {bound : Nat} :
    Restful bound turn.facts ↔ Restful bound turn.happened := by
  constructor
  · intro h
    exact ⟨fun renewal hmem => h.asks renewal ((mem_facts rfl).2 hmem),
      fun ending hmem => h.takes ending ((mem_facts rfl).2 hmem)⟩
  · intro h
    exact ⟨fun renewal hmem => h.asks renewal ((mem_facts rfl).1 hmem),
      fun ending hmem => h.takes ending ((mem_facts rfl).1 hmem)⟩

theorem Restful.refreshes {bound : Nat} {record : List Happening} (h : Restful bound record) :
    Ledger.refreshes record = [] :=
  List.eq_nil_iff_forall_not_mem.2 fun renewal hmem =>
    h.asks renewal (Ledger.mem_refreshes.1 hmem)

namespace System

/-- No session needs a refresh, unless it is an early one that cannot have it. -/
structure NothingDue (minValidity bound : Nat) (system : System) : Prop where
  fresh : ∀ renewal, system.candidate minValidity ≠ .renewal renewal
  early : ∀ generation, system.candidate minValidity = .unusable generation → generation < bound

/-- A move of a loop asks for no refresh and takes out no session of a late generation. -/
def Rests (setup : Setup) (loop bound : Nat) (system : System) (move : Move) : Prop :=
  move.loop? = some loop → ∀ last, system.step? setup move = some last →
    Restful bound last.happened

/-- A tick of a loop finds the provider gone or nothing due. -/
def FindsNothing (loop bound : Nat) (system : System) (move : Move) : Prop :=
  move = .tick loop → ∀ l, system.loops[loop]? = some l → system.closed = false →
    system.NothingDue l.minValidity bound

/-- If a refresh of a loop is in flight, it is for an early session. -/
def EarlyFlight (loop bound : Nat) (system : System) : Prop :=
  ∀ due renewal, system.loopPhase? loop = some (.refreshing due renewal) →
    renewal.generation < bound

section Moves

variable {setup : Setup} {system after : System} {facts : List Happening} {loop bound : Nat}
  {move : Move} {last : Turn}

/-! ## Ticks -/

/-- The session that is to be ended is the one of the expected generation, if it is there. -/
theorem EndsSession.restful_iff {reason : EndReason} {generation : Nat} {farewell : Farewell}
    (h : EndsSession setup system reason (some generation) facts after farewell)
    (hholds : system.ledger.Holds generation) : Restful bound facts ↔ generation < bound := by
  cases h with
  | stale hsession hexpected hother =>
      cases hexpected
      exact absurd (hholds.generation_eq hsession) hother
  | idle hnone =>
      obtain ⟨session, hsession, -⟩ := hholds
      cases hnone.symm.trans hsession
  | asked hsession hexpected | settled hsession hexpected =>
      rw [hexpected generation rfl]
      refine ⟨fun hrestful => hrestful.takes _ List.mem_cons_self, fun hearly => ⟨?_, ?_⟩⟩
      · simp
      · simp [Session.ending, hearly]

/-- A loop rests in a tick of a provider in use if and only if nothing is due. -/
theorem Ticks.restful_iff {due minValidity : Nat}
    (h : Ticks setup system loop due minValidity facts after) (hopen : system.closed = false) :
    Restful bound facts ↔ system.NothingDue minValidity bound := by
  have hbusy : ∀ {renewal : Renewal}, system.candidate minValidity = .renewal renewal →
      renewal ∈ Ledger.refreshes facts →
      (Restful bound facts ↔ system.NothingDue minValidity bound) := by
    intro renewal hcandidate hmem
    exact ⟨fun hrestful => absurd (Ledger.mem_refreshes.1 hmem) (hrestful.asks renewal),
      fun hnothing => absurd hcandidate (hnothing.fresh renewal)⟩
  cases h with
  | closed hclosed => rw [hopen] at hclosed; cases hclosed
  | noSession hcandidate | fresh hcandidate =>
      exact ⟨fun _ => ⟨by simp [hcandidate], by simp [hcandidate]⟩, fun _ => .nil bound⟩
  | unusable hcandidate hends =>
      rw [hends.restful_iff (holds_of_candidate hcandidate)]
      refine ⟨fun hearly => ⟨by simp [hcandidate], ?_⟩, fun hnothing => hnothing.early _ hcandidate⟩
      simpa [hcandidate] using hearly
  | refreshing hcandidate hasks => exact hbusy hcandidate (by simp [hasks.refreshes])
  | refreshed hcandidate hasks =>
      exact hbusy hcandidate (by simp [Ledger.refreshes_append, hasks.refreshes])

/-- Without the provider a tick does nothing. -/
theorem step?_tick_closed (hstep : system.step? setup (.tick loop) = some last)
    (hclosed : system.closed = true) : last.facts = [] := by
  obtain ⟨turn, hmove, rfl⟩ := Option.map_eq_some_iff.1 hstep
  rw [turn.closeUnused_keeps.2.1]
  simp only [move?] at hmove
  split at hmove
  · simp only [Option.ite_none_right_eq_some, Option.some.injEq] at hmove
    rw [← hmove.2, Loop.tick, Turn.start_system, if_pos hclosed, Loop.stop_facts, Turn.start_facts]
  · cases hmove

theorem step?_tick_restful_iff (hstep : system.step? setup (.tick loop) = some last) :
    Restful bound last.happened ↔ FindsNothing loop bound system (.tick loop) := by
  rw [← Turn.restful_facts]
  cases hclosed : system.closed with
  | true =>
      rw [step?_tick_closed hstep hclosed]
      exact ⟨fun _ _ _ _ hopen => absurd (hclosed.symm.trans hopen) nofun, fun _ => .nil bound⟩
  | false =>
      obtain ⟨after, hdoes, -⟩ := step?_does hstep
      generalize last.facts = facts at hdoes
      cases hdoes with
      | tick hloop hdue hticks =>
          rw [hticks.restful_iff hclosed]
          refine ⟨fun hnothing _ l hfound _ => ?_, fun hnothing => hnothing rfl _ hloop hclosed⟩
          cases hloop.symm.trans hfound
          exact hnothing

/-! ## Other moves of the loop -/

/-- Apart from a tick a loop asks for nothing, and the session that it takes out is the one that its
refresh in flight was for. -/
theorem step?_restful (hstep : system.step? setup move = some last) (hown : move.loop? = some loop)
    (htick : move ≠ .tick loop) (hearly : system.EarlyFlight loop bound) :
    Restful bound last.happened := by
  have hacts := step?_acts hstep
  refine ⟨fun renewal hasked => ?_, fun ending htaken => ?_⟩
  · obtain ⟨l, new, -, -, hmove⟩ := step?_ownMove hstep hown
    exact htick (hmove.of_asking (Ledger.mem_refreshes.2 hasked)).1
  · have hends : Ends setup system move ending.reason ending.generation :=
      hacts.mayTake_of_taken ((Turn.mem_facts rfl).2 htaken)
    generalize ending.reason = reason at hends
    generalize ending.generation = generation at hends ⊢
    cases hends with
    | logout => cases hown
    | tick => cases hown; exact absurd rfl htick
    | settle hphase => cases hown; exact hearly _ _ hphase

/-- The refresh that a resting loop has in flight was in flight before. -/
theorem step?_earlyFlight (hstep : system.step? setup move = some last)
    (hrests : Rests setup loop bound system move) (hearly : system.EarlyFlight loop bound) :
    last.system.EarlyFlight loop bound := by
  intro due renewal hflight
  by_cases hown : move.loop? = some loop
  · obtain ⟨l, new, -, hnew, hmove⟩ := step?_ownMove hstep hown
    have hasked := hmove.mem_asking (Option.some.inj (hnew.symm.trans hflight))
    rw [(hrests hown last hstep).refreshes] at hasked
    cases hasked
  · obtain ⟨after, hdoes, hclosed⟩ := step?_does hstep
    rw [hclosed, closeUnused_loopPhase?] at hflight
    obtain hbefore | hstarting := hdoes.loopPhase?_other hown hflight
    · exact hearly due renewal hbefore
    · cases hstarting

/-- A loop rests in a move if and only if it finds nothing in it, should it be a tick. -/
theorem step?_rests_iff (hstep : system.step? setup move = some last)
    (hearly : system.EarlyFlight loop bound) :
    Rests setup loop bound system move ↔ FindsNothing loop bound system move := by
  by_cases htick : move = .tick loop
  · subst htick
    rw [← step?_tick_restful_iff hstep]
    refine ⟨fun hrests => hrests rfl last hstep, fun hrestful _ found hfound => ?_⟩
    cases hstep.symm.trans hfound
    exact hrestful
  · exact ⟨fun _ hmove => absurd hmove htick,
      fun _ hown found hfound => step?_restful hfound hown htick hearly⟩

end Moves

/-! ## Runs -/

section Runs

variable {setup : Setup} {system : System} {moves : List Move} {turn : Turn} {loop bound : Nat}

/-- While a loop rests, no refresh of a late session comes to be in flight. -/
theorem run?_earlyFlight (hrun : system.run? setup moves = some turn)
    (hearly : system.EarlyFlight loop bound)
    (hrests : Along setup system moves (Rests setup loop bound)) :
    turn.system.EarlyFlight loop bound := by
  refine run?_induction (motive := fun moves after =>
    Along setup system moves (Rests setup loop bound) → after.EarlyFlight loop bound)
    (fun _ => hearly) ?_ hrun hrests
  intro moves turn move last hbefore ih hstep hrests
  exact step?_earlyFlight hstep (hrests.last hbefore) (ih hrests.init)

/-- A loop rests along a run if and only if it finds nothing at each of its ticks. -/
theorem run?_rests_iff (hrun : system.run? setup moves = some turn)
    (hearly : system.EarlyFlight loop bound) :
    Along setup system moves (Rests setup loop bound) ↔
      Along setup system moves (FindsNothing loop bound) := by
  refine run?_induction (motive := fun moves _ =>
    (Along setup system moves (Rests setup loop bound) ↔
      Along setup system moves (FindsNothing loop bound))) ⟨fun _ => .nil, fun _ => .nil⟩ ?_ hrun
  intro moves turn move last hbefore ih hstep
  have hlast : Along setup system moves (Rests setup loop bound) →
      (Rests setup loop bound turn.system move ↔ FindsNothing loop bound turn.system move) :=
    fun hrests => step?_rests_iff hstep (run?_earlyFlight hbefore hearly hrests)
  constructor
  · intro hrests
    exact (ih.1 hrests.init).snoc hbefore ((hlast hrests.init).1 (hrests.last hbefore))
  · intro hnothing
    have hrests := ih.2 hnothing.init
    exact hrests.snoc hbefore ((hlast hrests).2 (hnothing.last hbefore))

/-- A loop that waits for a tick that is due can make it, and can stop instead if it has been told
to. -/
theorem step?_ready {due : Nat} (hphase : system.loopPhase? loop = some (.waiting due))
    (hcancelled : system.cancelled? loop = some true) (hdue : due ≤ system.now) :
    (∃ ticked, system.step? setup (.tick loop) = some ticked) ∧
      ∃ stopped, system.step? setup (.stopLoop loop) = some stopped ∧
        stopped.system.loopPhase? loop = some .ended := by
  obtain ⟨⟨interval, minValidity, cancelled, phase⟩, hloop, rfl⟩ := Option.map_eq_some_iff.1 hphase
  cases (congrArg (Option.map Loop.cancelled) hloop).symm.trans hcancelled
  refine ⟨⟨_, by simp only [step?, move?, hloop, if_pos hdue, Option.map_some]; rfl⟩, ?_⟩
  obtain ⟨stopped, hstep⟩ : ∃ stopped, system.step? setup (.stopLoop loop) = some stopped :=
    ⟨_, by simp only [step?, move?, hloop, Option.map_some]; rfl⟩
  obtain ⟨l, new, -, hnew, hmove⟩ := step?_ownMove hstep rfl
  exact ⟨stopped, hstep, hmove.of_stopLoop ▸ hnew⟩

end Runs

/-- A loop that has been told to stop stays so told.  From then on it asks for no refresh, and ends
no session opened later, if and only if each of its ticks finds the provider gone or nothing due;
so if there is no such tick, which leaves only the refresh that is in flight already.  But whenever
its tick is due as well, it may make it instead of stopping. -/
theorem run?_cancelled_loop_rests_unless_tick {setup : Setup} {moves more : List Move}
    {turn later : Turn} {loop : Nat} (hrun : initial.run? setup moves = some turn)
    (hcancelled : turn.system.cancelled? loop = some true)
    (hmore : turn.system.run? setup more = some later) :
    later.system.cancelled? loop = some true ∧
    (Along setup turn.system more (Rests setup loop turn.system.nextGeneration) ↔
      Along setup turn.system more (FindsNothing loop turn.system.nextGeneration)) ∧
    (.tick loop ∉ more →
      Along setup turn.system more (Rests setup loop turn.system.nextGeneration)) ∧
    (∀ due, later.system.loopPhase? loop = some (.waiting due) → due ≤ later.system.now →
      (∃ ticked, later.system.step? setup (.tick loop) = some ticked) ∧
        ∃ stopped, later.system.step? setup (.stopLoop loop) = some stopped ∧
          stopped.system.loopPhase? loop = some .ended) := by
  have hearly : turn.system.EarlyFlight loop turn.system.nextGeneration := by
    intro due renewal hphase
    have hflight : turn.system.InFlight (.loop loop) renewal := ⟨due, hphase⟩
    exact (wasRead_of_inFlight hrun hflight).lt_nextGeneration hrun
  have hiff := run?_rests_iff hmore hearly
  have hstays := (run?_keepsTerms hmore).cancelled? hcancelled
  refine ⟨hstays, hiff, fun hticks => hiff.2 ?_, fun due hphase hdue =>
    step?_ready hphase hstays hdue⟩
  rintro before move after middle rfl - rfl
  exact absurd (List.mem_append_right before List.mem_cons_self) hticks

/-- A loop is cancelled through its handle while its refresh is in flight. -/
def cancelledDuringTick : List Move :=
  tickDue ++ [.tick 0, .cancel 0]

/-- The reply comes when the next tick is due. -/
def repliedLate : List Move :=
  [.advance 10, .settleLoop 0 (.ok default)]

/-- If the loop then stops, that was all. -/
theorem cancelledDuringTick_rests :
    ∃ turn later,
      initial.run? (.standard .rotating "http://admin") cancelledDuringTick = some turn ∧
      turn.system.loopPhase? 0 = some (.refreshing 10 ⟨0, "refresh-0"⟩) ∧
      turn.system.run? (.standard .rotating "http://admin") (repliedLate ++ [.stopLoop 0]) =
        some later ∧
      later.system.loopPhase? 0 = some .ended ∧
      Along (.standard .rotating "http://admin") turn.system (repliedLate ++ [.stopLoop 0])
        (Rests (.standard .rotating "http://admin") 0 turn.system.nextGeneration) := by
  obtain ⟨turn, later, hrun, hphase, hcancelled, hmore, hended⟩ : ∃ turn later,
      initial.run? (.standard .rotating "http://admin") cancelledDuringTick = some turn ∧
      turn.system.loopPhase? 0 = some (.refreshing 10 ⟨0, "refresh-0"⟩) ∧
      turn.system.cancelled? 0 = some true ∧
      turn.system.run? (.standard .rotating "http://admin") (repliedLate ++ [.stopLoop 0]) =
        some later ∧
      later.system.loopPhase? 0 = some .ended := ⟨_, _, rfl, rfl, rfl, rfl, rfl⟩
  obtain ⟨-, -, hrests, -⟩ := run?_cancelled_loop_rests_unless_tick hrun hcancelled hmore
  exact ⟨turn, later, hrun, hphase, hmore, hended, hrests (by simp [repliedLate])⟩

/-- If it makes its tick, it asks for another refresh. -/
theorem cancelled_loop_may_refresh :
    ¬ ∀ (setup : Setup) (moves more : List Move) (turn later : Turn) (loop : Nat),
      initial.run? setup moves = some turn → turn.system.cancelled? loop = some true →
      turn.system.run? setup more = some later →
      Along setup turn.system more (Rests setup loop turn.system.nextGeneration) := by
  intro hrests
  obtain ⟨turn, middle, last, hrun, hcancelled, hmiddle, hlast, hasked⟩ : ∃ turn middle last,
      initial.run? (.standard .rotating "http://admin") cancelledDuringTick = some turn ∧
      turn.system.cancelled? 0 = some true ∧
      turn.system.run? (.standard .rotating "http://admin") repliedLate = some middle ∧
      middle.system.step? (.standard .rotating "http://admin") (.tick 0) = some last ∧
      Ledger.refreshes last.happened = [⟨0, "refresh-1"⟩] := ⟨_, _, _, rfl, rfl, rfl, rfl, rfl⟩
  have hmore := run?_snoc.2 ⟨middle, last, hmiddle, hlast, rfl⟩
  have hrestful := (hrests _ _ _ turn _ 0 hrun hcancelled hmore).last hmiddle rfl last hlast
  rw [hrestful.refreshes] at hasked
  cases hasked

end System

end AdminAccess
