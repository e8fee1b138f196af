import AdminAccess.Proofs.Session.LoopMoves
import AdminAccess.Proofs.Session.Unexpired

/-! # How often a loop refreshes

A late tick does not bring the next one closer than the interval, and the tick after a refresh
waits for its reply.  So the refreshes of a loop come one by one, the first an interval after the
loop has been scheduled and each later one at least an interval after the one before, however long
they take and whatever they bring.
-/

namespace AdminAccess

/-- Ticks are at least the interval apart. -/
theorem Loop.add_le_nextDue {interval due now : Nat} (h : due ≤ now) :
    due + interval ≤ nextDue interval due now := by
  have hrest := Nat.mod_le (now - due) interval
  unfold nextDue
  split <;> omega

/-- The next tick of a loop leaves room for the refreshes so far and an interval for each of them
and for itself. -/
def LoopPhase.Spaced (start interval asked : Nat) : LoopPhase → Prop
  | .starting => asked = 0
  | .waiting due | .refreshing due _ => start + (asked + 1) * interval ≤ due
  | .leaving _ | .ended => True

theorem LoopPhase.Over.spaced {start interval asked due : Nat} {phase : LoopPhase}
    (h : phase.Over due) (hdue : start + (asked + 1) * interval ≤ due) :
    phase.Spaced start interval asked := by
  cases phase with
  | starting | refreshing => exact h.elim
  | waiting next => exact Nat.le_trans hdue (Nat.le_of_eq h.symm)
  | leaving | ended => trivial

namespace System

/-- A refresh is for a session with less left than a threshold, and uses its token. -/
def Wanting (minValidity : Nat) (system : System) (renewal : Renewal) : Prop :=
  ∃ session, system.session = some session ∧ session.remaining system.now < minValidity ∧
    session.generation = renewal.generation ∧ session.refreshToken = some renewal.refreshToken

theorem wanting_of_candidate {system : System} {minValidity : Nat} {renewal : Renewal}
    (h : system.candidate minValidity = .renewal renewal) : system.Wanting minValidity renewal := by
  obtain ⟨session, hread, hgeneration, htoken⟩ := reads_of_candidate h
  have hsession : system.session = some session := hread
  refine ⟨session, hsession, ?_, hgeneration, htoken⟩
  by_contra hfresh
  simp only [candidate, hsession, if_pos (Nat.le_of_not_lt hfresh)] at h
  cases h

/-- A loop that has asked for a number of refreshes since a time has taken its time. -/
structure Paced (start interval minValidity loop asked : Nat) (system : System) : Prop where
  elapsed : start + asked * interval ≤ system.now
  watched : ∃ l, system.loops[loop]? = some l ∧ l.interval = interval ∧
    l.minValidity = minValidity ∧ l.phase.Spaced start interval asked

section Moves

variable {setup : Setup} {start interval minValidity loop asked : Nat} {system : System}
  {move : Move} {last : Turn}

theorem step?_now_le (hstep : system.step? setup move = some last) :
    system.now ≤ last.system.now :=
  (step?_acts hstep).now_le

/-- A loop that begins with its interval to wait. -/
theorem step?_schedule_paced {scheduled : Turn} (hinterval : 1 ≤ interval)
    (hstep : system.step? setup (.schedule interval minValidity) = some scheduled) :
    Paced system.now interval minValidity system.loops.length 0 scheduled.system := by
  have hnow := step?_now_le hstep
  obtain ⟨after, hdoes, hclosed⟩ := step?_does hstep
  generalize scheduled.facts = facts at hdoes
  cases hdoes with
  | schedule hheld =>
      let registered := system.register (some system.loops.length)
      let started : Loop := ⟨max interval 1, minValidity, false, .starting⟩
      let added : System := { registered with loops := registered.loops ++ [started] }
      have hstarted : added.loops[system.loops.length]? = some started := by
        have hlength : registered.loops.length = system.loops.length :=
          system.register_loops_length _
        rw [List.getElem?_append_right (by omega), hlength, Nat.sub_self]
        rfl
      obtain ⟨now, hloop, hterms⟩ := added.closeUnused_keepsTerms _ started hstarted
      have hphase : added.closeUnused.loopPhase? system.loops.length = some .starting :=
        (added.closeUnused_loopPhase? _).trans (loopPhase?_of_loop hstarted)
      rw [loopPhase?_of_loop hloop, Option.some.injEq] at hphase
      refine ⟨by omega, now, hclosed ▸ hloop, ?_, hterms.minValidity, hphase ▸ rfl⟩
      rw [hterms.interval]
      exact Nat.max_eq_left hinterval

/-- What a move of the loop does: it asks for a refresh only when it is time, and then there is
time again until the next one. -/
theorem OwnMove.spaced {phase new : LoopPhase} {asking : List Renewal}
    (h : OwnMove setup system loop interval minValidity move phase asking new)
    (helapsed : start + asked * interval ≤ system.now)
    (hspaced : phase.Spaced start interval asked) :
    new.Spaced start interval (asked + asking.length) ∧
      start + (asked + asking.length) * interval ≤ system.now ∧
      ∀ renewal ∈ asking, system.Wanting minValidity renewal := by
  -- a tick at its time leaves an interval to the next one, so there is room for one refresh more
  have hnext : ∀ {due : Nat}, due ≤ system.now → start + (asked + 1) * interval ≤ due →
      start + (asked + 1 + 1) * interval ≤ Loop.nextDue interval due system.now := by
    intro due hdue hroom
    calc start + (asked + 1 + 1) * interval
        = start + (asked + 1) * interval + interval := by
          rw [Nat.succ_mul, Nat.add_assoc]
      _ ≤ due + interval := Nat.add_le_add_right hroom interval
      _ ≤ Loop.nextDue interval due system.now := Loop.add_le_nextDue hdue
  cases h with
  | starts =>
      cases hspaced
      refine ⟨?_, helapsed, nofun⟩
      obtain hfirst | hfirst := Loop.firstPhase_cases interval system.now
      · rw [hfirst]
        show start + (0 + 1) * interval ≤ system.now + interval
        omega
      · rw [hfirst]
        trivial
  | stops => exact ⟨trivial, helapsed, nofun⟩
  | passes hdue hover =>
      refine ⟨hover.spaced ?_, helapsed, nofun⟩
      exact Nat.le_trans hspaced
        (Nat.le_trans (Nat.le_add_right _ _) (Loop.add_le_nextDue hdue))
  | asks hdue hcandidate =>
      refine ⟨hnext hdue hspaced, Nat.le_trans hspaced hdue, fun renewal hmem => ?_⟩
      cases List.mem_singleton.1 hmem
      exact wanting_of_candidate hcandidate
  | refreshes hdue hcandidate hsettled hover =>
      refine ⟨hover.spaced (hnext hdue hspaced), Nat.le_trans hspaced hdue,
        fun renewal hmem => ?_⟩
      cases List.mem_singleton.1 hmem
      exact wanting_of_candidate hcandidate
  | resumes hover => exact ⟨hover.spaced hspaced, helapsed, nofun⟩
  | parts => exact ⟨trivial, helapsed, nofun⟩

theorem Paced.step? (h : Paced start interval minValidity loop asked system)
    (hstep : system.step? setup move = some last) :
    Paced start interval minValidity loop
        (asked + (ownRefreshes loop system move last).length) last.system ∧
      start + (asked + (ownRefreshes loop system move last).length) * interval ≤ system.now ∧
      ∀ moment ∈ ownRefreshes loop system move last,
        moment.1 = system ∧ system.Wanting minValidity moment.2 := by
  obtain ⟨l, hloop, rfl, rfl, hspaced⟩ := h.watched
  obtain ⟨now, hnow, hterms⟩ := step?_keepsTerms hstep loop l hloop
  have hlater := step?_now_le hstep
  unfold ownRefreshes
  split
  · next hown =>
      obtain ⟨found, new, hfound, hnew, hmove⟩ := step?_ownMove hstep hown
      cases hloop.symm.trans hfound
      obtain ⟨hafter, helapsed, hasking⟩ := hmove.spaced h.elapsed hspaced
      rw [loopPhase?_of_loop hnow, Option.some.injEq] at hnew
      rw [List.length_map]
      refine ⟨⟨Nat.le_trans helapsed hlater, now, hnow, hterms.interval, hterms.minValidity,
        hnew ▸ hafter⟩, helapsed, fun moment hmem => ?_⟩
      obtain ⟨renewal, hrenewal, rfl⟩ := List.mem_map.1 hmem
      exact ⟨rfl, hasking renewal hrenewal⟩
  · next hother =>
      have hphase := step?_loopPhase?_kept hstep hother (loopPhase?_of_loop hloop)
      rw [loopPhase?_of_loop hnow, Option.some.injEq] at hphase
      refine ⟨⟨Nat.le_trans h.elapsed hlater, now, hnow, hterms.interval, hterms.minValidity,
        ?_⟩, h.elapsed, nofun⟩
      rw [hphase]
      exact hspaced

/-- A loop whose refresh is in flight asks for no other one before its reply has come. -/
theorem run?_waits {moves : List Move} {turn : Turn} {due : Nat} {renewal : Renewal}
    (hrun : system.run? setup moves = some turn)
    (hphase : system.loopPhase? loop = some (.refreshing due renewal))
    (hwaits : ∀ reply, .settleLoop loop reply ∉ moves) :
    refreshesOf setup loop system moves = [] := by
  induction moves generalizing system turn with
  | nil => rfl
  | cons move rest ih =>
      obtain ⟨first, later, hfirst, hrest, rfl⟩ := run?_cons.1 hrun
      have hother : move.loop? ≠ some loop := by
        intro hown
        obtain ⟨l, new, hloop, -, hmove⟩ := step?_ownMove hfirst hown
        have hflight := Option.some.inj ((loopPhase?_of_loop hloop).symm.trans hphase)
        obtain ⟨reply, rfl⟩ := hmove.of_refreshing hflight
        exact hwaits reply List.mem_cons_self
      have hkept := step?_loopPhase?_kept hfirst hother hphase
      rw [refreshesOf_cons loop hfirst, ownRefreshes, if_neg hother, List.nil_append]
      exact ih hrest hkept fun reply hmem => hwaits reply (List.mem_cons_of_mem _ hmem)

end Moves

/-! ## Runs -/

section Runs

variable {setup : Setup} {start interval minValidity loop : Nat} {system : System}
  {moves : List Move} {turn : Turn}

theorem run?_paced (hrun : system.run? setup moves = some turn)
    (hpaced : Paced start interval minValidity loop 0 system) :
    Paced start interval minValidity loop (refreshesOf setup loop system moves).length
      turn.system := by
  refine run?_induction (motive := fun moves after => Paced start interval minValidity loop
    (refreshesOf setup loop system moves).length after) hpaced ?_ hrun
  intro moves turn move last hbefore h hstep
  rw [refreshesOf_snoc loop hbefore hstep, List.length_append]
  exact (h.step? hstep).1

/-- Up to any time there have been at most as many refreshes as intervals. -/
theorem run?_refreshes_le (hrun : system.run? setup moves = some turn) (hinterval : 1 ≤ interval)
    (hpaced : Paced start interval minValidity loop 0 system) (time : Nat) :
    ((refreshesOf setup loop system moves).filter (·.1.now ≤ time)).length ≤
      (time - start) / interval := by
  refine run?_induction (motive := fun moves _ =>
    ((refreshesOf setup loop system moves).filter (·.1.now ≤ time)).length ≤
      (time - start) / interval) (Nat.zero_le _) ?_ hrun
  intro moves turn move last hbefore ih hstep
  obtain ⟨-, helapsed, hown⟩ := (run?_paced hbefore hpaced).step? hstep
  rw [refreshesOf_snoc loop hbefore hstep]
  by_cases htime : turn.system.now ≤ time
  · -- all refreshes so far count, and there has been an interval for each of them
    refine Nat.le_trans (List.length_filter_le _ _) ((Nat.le_div_iff_mul_le hinterval).2 ?_)
    rw [List.length_append]
    omega
  · -- the refreshes of this move come too late to count
    have hnone : (ownRefreshes loop turn.system move last).filter (·.1.now ≤ time) = [] := by
      rw [List.filter_eq_nil_iff]
      intro moment hmem
      rw [(hown moment hmem).1]
      simpa using htime
    rw [List.filter_append, hnone, List.append_nil]
    exact ih

theorem run?_refreshes_wanted (hrun : system.run? setup moves = some turn)
    (hpaced : Paced start interval minValidity loop 0 system) :
    ∀ moment ∈ refreshesOf setup loop system moves,
      start + interval ≤ moment.1.now ∧ moment.1.Wanting minValidity moment.2 := by
  refine run?_induction (motive := fun moves _ => ∀ moment ∈ refreshesOf setup loop system moves,
    start + interval ≤ moment.1.now ∧ moment.1.Wanting minValidity moment.2) nofun ?_ hrun
  intro moves turn move last hbefore ih hstep moment hmem
  obtain ⟨-, helapsed, hown⟩ := (run?_paced hbefore hpaced).step? hstep
  rw [refreshesOf_snoc loop hbefore hstep] at hmem
  obtain hmem | hmem := List.mem_append.1 hmem
  · exact ih moment hmem
  · obtain ⟨hstate, hwanting⟩ := hown moment hmem
    have hpositive := List.length_pos_of_mem hmem
    have hone := Nat.le_mul_of_pos_left interval (Nat.add_pos_right
      (refreshesOf setup loop system moves).length hpositive)
    rw [hstate]
    exact ⟨by omega, hwanting⟩

end Runs

/-- A loop does not flood the identity provider.  Up to any time it has asked for at most as many
refreshes as intervals have gone by since it was scheduled, whatever the refreshes take and come
to.  It asks for none before the first interval is over, each of them when the session has less
left than the threshold, and none while another one of its own has not been answered. -/
theorem run?_refreshes_spaced {setup : Setup} {system : System} {scheduled turn : Turn}
    {interval minValidity : Nat} {moves : List Move} (hinterval : 1 ≤ interval)
    (hschedule : system.step? setup (.schedule interval minValidity) = some scheduled)
    (hrun : scheduled.system.run? setup moves = some turn) :
    let loop := system.loops.length
    let asked := refreshesOf setup loop scheduled.system moves
    (∀ time, (asked.filter (·.1.now ≤ time)).length ≤ (time - system.now) / interval) ∧
    (∀ moment ∈ asked, system.now + interval ≤ moment.1.now ∧
      ∃ session, moment.1.session = some session ∧
        session.remaining moment.1.now < minValidity ∧
        session.generation = moment.2.generation ∧
        session.refreshToken = some moment.2.refreshToken) ∧
    (∀ early move late first last renewal, moves = early ++ move :: late →
      scheduled.system.run? setup early = some first →
      first.system.step? setup move = some last → move.loop? = some loop →
      .asked (.refresh renewal) ∈ last.happened →
      (setup.identity.refresh renewal.refreshToken).settlement? = none →
      (∀ reply, .settleLoop loop reply ∉ late) →
      refreshesOf setup loop last.system late = []) := by
  have hpaced := step?_schedule_paced hinterval hschedule
  refine ⟨run?_refreshes_le hrun hinterval hpaced, run?_refreshes_wanted hrun hpaced,
    fun early move late first last renewal hmoves hearly hstep hown hasked hpending hwaits => ?_⟩
  obtain ⟨l, new, -, hnew, hmove⟩ := step?_ownMove hstep hown
  obtain ⟨found, later, hfound, hlater⟩ := run?_step (hmoves ▸ hrun) hearly
  cases hstep.symm.trans hfound
  obtain ⟨-, hflight⟩ := hmove.of_asking (Ledger.mem_refreshes.2 hasked)
  obtain ⟨due, rfl⟩ := hflight hpending
  exact run?_waits hlater hnew hwaits

/-- A loop whose first refresh takes longer than two intervals, and whose session needs another
one then. -/
def slowRefresh : List Move :=
  [.startLoop 0, .advance 5, .tick 0, .advance 12, .settleLoop 0 (.ok default), .tick 0]

/-- The ticks that the refresh has taken the place of are not made up for. -/
theorem slowRefresh_spaced :
    ∃ before scheduled turn,
      initial.run? (.standard .rotating "http://admin") loggedIn = some before ∧
      before.system.step? (.standard .rotating "http://admin") (.schedule 5 60001) =
        some scheduled ∧
      scheduled.system.run? (.standard .rotating "http://admin") slowRefresh = some turn ∧
      (refreshesOf (.standard .rotating "http://admin") 0 scheduled.system slowRefresh).map
        (·.1.now) = [5, 17] ∧
      ((refreshesOf (.standard .rotating "http://admin") 0 scheduled.system slowRefresh).filter
        (·.1.now ≤ 17)).length ≤ (17 - 0) / 5 := by
  obtain ⟨before, scheduled, turn, hbefore, hschedule, hrun, htimes, hloop, hnow⟩ :
      ∃ before scheduled turn,
        initial.run? (.standard .rotating "http://admin") loggedIn = some before ∧
        before.system.step? (.standard .rotating "http://admin") (.schedule 5 60001) =
          some scheduled ∧
        scheduled.system.run? (.standard .rotating "http://admin") slowRefresh = some turn ∧
        (refreshesOf (.standard .rotating "http://admin") 0 scheduled.system slowRefresh).map
          (·.1.now) = [5, 17] ∧
        before.system.loops.length = 0 ∧ before.system.now = 0 :=
    ⟨_, _, _, rfl, rfl, rfl, rfl, rfl, rfl⟩
  obtain ⟨hbound, -⟩ := run?_refreshes_spaced (by decide) hschedule hrun
  rw [hloop, hnow] at hbound
  exact ⟨before, scheduled, turn, hbefore, hschedule, hrun, htimes, hbound 17⟩

end System

end AdminAccess
