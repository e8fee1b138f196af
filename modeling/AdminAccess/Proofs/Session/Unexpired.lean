import AdminAccess.Proofs.Session.Upkeep

/-! # A session that never expires

Over all runs: from the moment a loop is scheduled, its session stays valid and the loop goes on,
as long as refreshes succeed in time with lifetimes within reach of the clock.  A lifetime out
of its reach loses the session.
-/

namespace AdminAccess

namespace System

/-- Time passes along a run only as far as a loop lets it pass; the refresh under way in the loop
has begun at a time. -/
def Punctual (setup : Setup) (loop latency : Nat) : Nat → System → List Move → Prop
  | _, _, [] => True
  | began, system, move :: rest =>
    (∀ span, move = .advance span → MayPass loop latency began system (system.now + span)) ∧
      ∀ turn, system.step? setup move = some turn →
        Punctual setup loop latency (beganAfter loop began system move) turn.system rest

theorem Punctual.done (setup : Setup) (loop latency began : Nat) (system : System) :
    Punctual setup loop latency began system [] :=
  trivial

theorem Punctual.step {setup : Setup} {loop latency began : Nat} {system : System} {move : Move}
    {rest : List Move} {turn : Turn} (hpass : ∀ span, move = .advance span →
      MayPass loop latency began system (system.now + span))
    (hstep : system.step? setup move = some turn)
    (hrest : Punctual setup loop latency (beganAfter loop began system move) turn.system rest) :
    Punctual setup loop latency began system (move :: rest) := by
  refine ⟨hpass, fun other hother => ?_⟩
  rw [hstep] at hother
  cases hother
  exact hrest

section Runs

variable {setup : Setup} {loop interval minValidity latency : Nat}

theorem run?_kept {system : System} {moves : List Move} {turn : Turn} {began : Nat}
    (hrun : system.run? setup moves = some turn)
    (h : Kept loop interval minValidity latency began system)
    (hspares : Along setup system moves (Spares loop))
    (hpunctual : Punctual setup loop latency began system moves)
    (hlong : interval + latency < minValidity)
    (hgood : Along setup system moves fun middle move => ∀ renewal result,
      BringsRefresh setup middle move renewal result →
        middle.Outlasting (interval + latency) result) :
    ∃ later, Kept loop interval minValidity latency later turn.system := by
  induction moves generalizing system turn began with
  | nil =>
      cases hrun
      exact ⟨began, h⟩
  | cons move rest ih =>
      obtain ⟨first, last, hstep, hrest, rfl⟩ := run?_cons.1 hrun
      obtain ⟨hpass, hlater⟩ := hpunctual
      obtain ⟨after, hdoes, hclosed⟩ := step?_does hstep
      have hkept := hdoes.kept h hspares.head hpass hlong hgood.head
      have hfirst : first.system = after := hclosed.trans (closeUnused_of_held hkept.held)
      rw [Turn.andThen_system]
      exact ih hrest (hfirst ▸ hkept) (hspares.tail hstep) (hlater first hstep)
        (hgood.tail hstep)

theorem initial_open : initial.Open :=
  fun _ => rfl

/-- A loop that is scheduled in good time is kept from the start. -/
theorem step?_schedule_kept {system : System} {scheduled : Turn} {session : Session}
    (hstep : system.step? setup (.schedule interval minValidity) = some scheduled)
    (hopen : system.Open) (hinterval : 1 ≤ interval) (hnone : system.NoLogin)
    (hsession : system.session = some session) (hsound : session.Sound)
    (htimely : system.ledger.Timely)
    (hremaining : interval + latency < session.remaining system.now) (began : Nat) :
    Kept system.loops.length interval minValidity latency began scheduled.system := by
  obtain ⟨after, hdoes, hclosed⟩ := step?_does hstep
  generalize scheduled.facts = facts at hdoes
  cases hdoes with
  | schedule hheld =>
      let registered := system.register (some system.loops.length)
      have hdesk : system.SameDesk registered := system.register_sameDesk _
      have hlength : registered.loops.length = system.loops.length :=
        system.register_loops_length _
      have hnow : registered.now = system.now :=
        congrArg Ledger.now (system.register_keeps (some system.loops.length)).1
      have hstarting : (registered.loops ++
          [⟨max interval 1, minValidity, false, .starting⟩])[system.loops.length]? =
            some ⟨interval, minValidity, false, .starting⟩ := by
        rw [List.getElem?_append_right (by omega), hlength, Nat.sub_self,
          Nat.max_eq_left hinterval]
        rfl
      let added : System := { registered with
        loops := registered.loops ++ [⟨max interval 1, minValidity, false, .starting⟩] }
      have hadded : added.held = true := hdesk.held.trans hheld
      rw [show scheduled.system = added from hclosed.trans (closeUnused_of_held hadded)]
      refine ⟨hdesk.held.trans hheld, hdesk.closed.trans (hopen hheld), hdesk.noLogin hnone,
        session, .starting, (register_session system _).trans hsession, hsound, hstarting, ?_⟩
      have hexpiry := htimely session hsession
      rw [Session.remaining] at hremaining
      exact ⟨by show registered.now + interval < clockEnd; omega,
        by show registered.now + interval + latency < session.expiresAt; omega⟩

/-- From the moment a loop is scheduled, in good time and with no login under way, the session
is valid and the loop goes on at every instant: whatever tasks log in, refresh and call, and
whatever other loops do, as long as the loop is spared, its ticks and replies come in time, and
refreshes bring lasting tokens with lifetimes within reach of the clock. -/
theorem run?_never_expires {moves more : List Move} {before scheduled turn : Turn}
    {session : Session} (hrun : initial.run? setup moves = some before)
    (hschedule : before.system.step? setup (.schedule interval minValidity) = some scheduled)
    (hmore : scheduled.system.run? setup more = some turn)
    (hinterval : 1 ≤ interval) (hlong : interval + latency < minValidity)
    (hnone : before.system.NoLogin) (hsession : before.system.session = some session)
    (hsound : session.Sound)
    (hremaining : interval + latency < session.remaining before.system.now)
    (hspares : Along setup scheduled.system more (Spares before.system.loops.length))
    (hpunctual : Punctual setup before.system.loops.length latency 0 scheduled.system more)
    (hgood : Along setup scheduled.system more fun middle move => ∀ renewal result,
      BringsRefresh setup middle move renewal result →
        middle.Outlasting (interval + latency) result) :
    turn.system.isAuthenticated = true ∧
      ∃ phase, turn.system.loops[before.system.loops.length]? =
          some ⟨interval, minValidity, false, phase⟩ ∧
        phase ≠ .ended ∧ ∀ ending, phase ≠ .leaving ending := by
  have hopen := run?_open hrun initial_open
  have hstart :=
    step?_schedule_kept hschedule hopen hinterval hnone hsession hsound (run?_timely hrun)
    hremaining 0
  obtain ⟨later, hkept⟩ := run?_kept hmore hstart hspares hpunctual hlong hgood
  obtain ⟨held, phase, -, -, hloop, hcovers⟩ := hkept.watched
  refine ⟨hkept.authenticated, phase, hloop, ?_, ?_⟩
  · rintro rfl
    exact hcovers.elim
  · rintro ending rfl
    exact hcovers.elim

end Runs

/-! ## One round of a loop -/

def loggedIn : List Move :=
  [.spawn (.authenticate (.authorizationCode "code")), .start 0, .settle 0 (.ok default)]

/-- A loop begins, and refreshes at its first tick. -/
def firstRound : List Move :=
  [.startLoop 0, .advance 5, .tick 0, .advance 2, .settleLoop 0 (.ok default)]

end System

/-- An identity provider whose refreshes bring access tokens with a lifetime. -/
def IdentityProvider.lasting (seconds : UInt64) : IdentityProvider :=
  { IdentityProvider.rotating with
    refresh := fun _ => .awaiting [] default fun reply =>
      ⟨[], reply.map fun _ => ⟨"access-1", seconds, some "refresh-1", none, none, none⟩⟩ }

namespace System

theorem firstRound_spares (setup : Setup) (system : System) :
    Along setup system firstRound (Spares 0) := by
  intro before move after middle hmoves hrun
  have hmem : move ∈ firstRound := by
    rw [hmoves]
    exact List.mem_append_right _ List.mem_cons_self
  simp only [firstRound, List.mem_cons, List.not_mem_nil, or_false] at hmem
  rcases hmem with rfl | rfl | rfl | rfl | rfl <;> trivial

theorem firstRound_brings {seconds : UInt64} {root : String} (system : System) :
    Along (.standard (.lasting seconds) root) system firstRound fun middle move =>
      ∀ renewal result, BringsRefresh (.standard (.lasting seconds) root) middle move renewal
        result → result = .ok ⟨"access-1", seconds, some "refresh-1", none, none, none⟩ := by
  intro before move after middle hmoves hrun renewal result hbrings
  have hmem : move ∈ firstRound := by
    rw [hmoves]
    exact List.mem_append_right _ List.mem_cons_self
  simp only [firstRound, List.mem_cons, List.not_mem_nil, or_false] at hmem
  cases hbrings with
  | settle hphase => simp at hmem
  | start hready => simp at hmem
  | tick hloop hcandidate hsettled => cases hsettled
  | settleLoop hphase =>
      simp only [reduceCtorEq, Move.settleLoop.injEq, false_or] at hmem
      rw [hmem.2]
      rfl

/-- The round runs on time, whether its refresh brings a minute or more than the clock can
count. -/
theorem firstRound_begins {seconds : UInt64} (hseconds : seconds ∈ [60, 9223372036854775808]) :
    ∃ before scheduled,
      initial.run? (.standard (.lasting seconds) "http://admin") loggedIn = some before ∧
      before.system.now = 0 ∧ before.system.loops = [] ∧
      before.system.tasks = [.finished (.done .authenticated)] ∧
      before.system.session = some ⟨"access-0", some "refresh-0", 60000, none, 0⟩ ∧
      before.system.step? (.standard (.lasting seconds) "http://admin") (.schedule 5 60001) =
        some scheduled ∧
      Punctual (.standard (.lasting seconds) "http://admin") 0 3 0 scheduled.system
        firstRound ∧
      ∃ turn, scheduled.system.run? (.standard (.lasting seconds) "http://admin") firstRound =
          some turn ∧
        turn.system.now = 7 := by
  simp only [List.mem_cons, List.not_mem_nil, or_false] at hseconds
  rcases hseconds with rfl | rfl
  all_goals
    refine ⟨_, _, rfl, rfl, rfl, rfl, rfl, rfl, ?_, _, rfl, rfl⟩
    refine .step nofun rfl (.step ?_ rfl (.step nofun rfl (.step ?_ rfl
      (.step nofun rfl (.done _ _ _ _ _)))))
    · rintro span ⟨⟩
      exact Nat.le_refl 5
    · rintro span ⟨⟩
      exact Nat.le_add_right 7 1

theorem noLogin_of_finished {system : System} {result : TaskResult}
    (h : system.tasks = [.finished result]) : system.NoLogin := by
  intro task credentials hlogging
  rw [taskPhase?, h] at hlogging
  cases task with
  | zero => cases hlogging
  | succ task => cases hlogging

theorem sound_first : Session.Sound ⟨"access-0", some "refresh-0", 60000, none, 0⟩ :=
  ⟨rfl, nofun⟩

/-- With a minute at each refresh the session is still valid after the round. -/
theorem firstRound_keeps_session :
    ∃ before scheduled turn,
      initial.run? (.standard (.lasting 60) "http://admin") loggedIn = some before ∧
      before.system.step? (.standard (.lasting 60) "http://admin") (.schedule 5 60001) =
        some scheduled ∧
      scheduled.system.run? (.standard (.lasting 60) "http://admin") firstRound = some turn ∧
      turn.system.isAuthenticated = true := by
  obtain ⟨before, scheduled, hrun, hnow, hloops, htasks, hsession, hschedule, hpunctual, turn,
    hmore, hend⟩ := firstRound_begins (List.mem_cons_self : (60 : UInt64) ∈ _)
  refine ⟨before, scheduled, turn, hrun, hschedule, hmore, ?_⟩
  refine (run?_never_expires hrun hschedule hmore (by decide)
    (show 5 + 3 < 60001 by decide) (noLogin_of_finished htasks) hsession sound_first ?_ ?_ ?_
    ?_).1
  · rw [hnow]
    decide
  · rw [hloops]
    exact firstRound_spares _ _
  · rw [hloops]
    exact hpunctual
  · intro first move rest middle hmoves hmiddle renewal result hbrings
    rw [firstRound_brings _ first move rest middle hmoves hmiddle renewal result hbrings]
    have hearly : middle.system.now ≤ 7 := hend ▸ run?_now_le (hmoves ▸ hmore) hmiddle
    have hreach : 7 + 60 * 1000 < clockEnd := by decide
    exact ⟨_, rfl, ⟨Nat.lt_of_le_of_lt (Nat.add_le_add_right hearly _) hreach, nofun⟩,
      ⟨by decide, nofun⟩⟩

theorem firstRound_loses :
    ∃ before scheduled turn,
      initial.run? (.standard (.lasting 9223372036854775808) "http://admin") loggedIn =
        some before ∧
      before.system.step? (.standard (.lasting 9223372036854775808) "http://admin")
        (.schedule 5 60001) = some scheduled ∧
      scheduled.system.run? (.standard (.lasting 9223372036854775808) "http://admin")
        firstRound = some turn ∧
      turn.system.session = none :=
  ⟨_, _, _, rfl, rfl, rfl, rfl⟩

/-- A refresh in time whose tokens live longer than the clock can count loses the session. -/
theorem endless_lifetime_loses_session :
    ¬ ∀ (setup : Setup) (moves more : List Move) (before scheduled turn : Turn)
      (interval minValidity latency : Nat) (session : Session),
      initial.run? setup moves = some before →
      before.system.step? setup (.schedule interval minValidity) = some scheduled →
      scheduled.system.run? setup more = some turn →
      1 ≤ interval → interval + latency < minValidity →
      before.system.NoLogin → before.system.session = some session → session.Sound →
      interval + latency < session.remaining before.system.now →
      Along setup scheduled.system more (Spares before.system.loops.length) →
      Punctual setup before.system.loops.length latency 0 scheduled.system more →
      (Along setup scheduled.system more fun middle move => ∀ renewal result,
        BringsRefresh setup middle move renewal result →
          ∃ response, result = .ok response ∧ response.Outlasts (interval + latency)) →
      turn.system.isAuthenticated = true := by
  intro hkeeps
  obtain ⟨before, scheduled, hrun, hnow, hloops, htasks, hsession, hschedule, hpunctual, -⟩ :=
    firstRound_begins (List.mem_cons_of_mem 60 (List.mem_singleton_self 9223372036854775808))
  obtain ⟨found, other, turn, hfound, hother, hmore, hlost⟩ := firstRound_loses
  rw [hrun] at hfound
  cases hfound
  rw [hschedule] at hother
  cases hother
  have hvalid := hkeeps _ loggedIn firstRound before scheduled turn 5 60001 3 _ hrun hschedule
    hmore (by decide) (by decide) (noLogin_of_finished htasks) hsession sound_first
    (by rw [hnow]; decide) (by rw [hloops]; exact firstRound_spares _ _)
    (by rw [hloops]; exact hpunctual) ?_
  · rw [not_authenticated hlost] at hvalid
    cases hvalid
  · intro first move rest middle hmoves hmiddle renewal result hbrings
    rw [firstRound_brings _ first move rest middle hmoves hmiddle renewal result hbrings]
    exact ⟨_, rfl, by decide, nofun⟩

end System

end AdminAccess
