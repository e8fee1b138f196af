import AdminAccess.Proofs.Session.Tasks

/-! # Moves are chains of acts

The stretches of a loop one by one, and from them and those of the tasks `System.step?_leads`:
every move is a chain of acts under a guard, which tells from the phase of the mover which
refresh it can complete, what it hands to the transport and whether it can log in or log out.
-/

namespace AdminAccess

variable {layers : List (Layer (Option String))} {guard : Ledger.Guard}

open Turn (Leads)

def Setup.refreshResult (setup : Setup) (renewal : Renewal) (reply : Reply) :
    Except Failure TokenResponse :=
  ((setup.identity.refresh renewal.refreshToken).conclude reply).result

/-! ## Loops -/

namespace Loop

theorem stop_leads (loop : Nat) (turn : Turn) :
    Leads layers guard turn (stop loop turn) := by
  have hended : LoopPhase.IsFresh guard.inHand .ended := trivial
  exact (Turn.setLoop_leads turn loop hended).trans (Turn.cancel_leads _ loop)

theorem concludeEnding_leads (loop : Nat) (result : Except Failure Unit) (turn : Turn) :
    Leads layers guard turn (concludeEnding loop result turn) := by
  cases result with
  | ok => exact stop_leads loop turn
  | error failure => exact (Turn.log_leads _ _ _ _).trans (stop_leads loop _)

theorem giveUp_leads (setup : Setup) (loop : Nat) {generation : Nat} (failure : Failure)
    (turn : Turn) (hend : guard.mayTake .refreshFailed generation) :
    Leads layers guard turn (giveUp setup loop generation failure turn) := by
  let logged := turn.log .warn "token refresh failed, logging out"
    [Turn.failureField failure, Turn.generationField generation]
  have hlogged : Leads layers guard turn logged := Turn.log_leads _ _ _ _
  have htaken : Leads layers guard logged
      (logged.takeSession .refreshFailed (some generation)).1 :=
    Turn.takeSession_leads _ fun g hg => by rwa [← hg generation rfl]
  unfold giveUp
  rcases htake : logged.takeSession .refreshFailed (some generation) with ⟨left, _ | ending⟩
  all_goals
    rw [htake] at htaken
    simp only [logged] at htake
    simp only [htake]
  · exact hlogged.trans (htaken.trans (stop_leads _ _))
  · have hsession : left.system.session = none := by
      have := Turn.takeSession_session (congrArg Prod.snd htake)
      rwa [htake] at this
    have hasked : Leads layers guard left (left.askEnding setup ending).1 :=
      Turn.askEnding_leads setup left ending hsession
    rcases hask : left.askEnding setup ending with ⟨asked, _ | result⟩
    all_goals rw [hask] at hasked
    · exact hlogged.trans (htaken.trans (hasked.trans (Turn.setLoop_leads _ _ trivial)))
    · exact hlogged.trans (htaken.trans (hasked.trans (concludeEnding_leads _ _ _)))

theorem concludeRefresh_leads (setup : Setup) (loop due : Nat) {renewal : Renewal}
    {renewed : Renewed} (turn : Turn)
    (hend : ∀ failure, renewed = .failed failure →
      guard.mayTake .refreshFailed renewal.generation) :
    Leads layers guard turn (concludeRefresh setup loop due renewal renewed turn) := by
  cases renewed with
  | stored => exact Turn.setLoop_leads _ _ trivial
  | discarded => exact Turn.setLoop_leads _ _ trivial
  | failed failure => exact giveUp_leads _ _ _ _ (hend failure rfl)
  | broken fault => exact Turn.setLoop_leads _ _ trivial

theorem tick_leads (setup : Setup) (loop due minValidity : Nat) (turn : Turn)
    (hhand : ∀ renewal, turn.system.candidate minValidity = .renewal renewal →
      guard.inHand renewal)
    (hend : ∀ generation, turn.system.ledger.Holds generation →
      guard.mayTake .refreshFailed generation) :
    Leads layers guard turn (tick setup loop due minValidity turn) := by
  unfold tick
  cases turn.system.closed with
  | true => exact stop_leads _ _
  | false =>
      cases hcandidate : turn.system.candidate minValidity with
      | noSession => exact (Turn.log_leads _ _ _ _).trans (stop_leads _ _)
      | fresh => exact Turn.setLoop_leads _ _ trivial
      | unusable generation =>
          exact giveUp_leads _ _ _ _ (hend generation (holds_of_candidate hcandidate))
      | renewal renewal =>
          have hrenewal := hhand renewal hcandidate
          have hreads := reads_of_candidate hcandidate
          have hasked : Leads layers guard turn (turn.askRefresh setup renewal).1 :=
            Turn.askRefresh_leads setup turn hrenewal hreads
          rcases hrefresh : turn.askRefresh setup renewal with ⟨asked, _ | renewed⟩
          all_goals
            rw [hrefresh] at hasked
            simp only [hrefresh]
          · exact hasked.trans (Turn.setLoop_leads _ _ hrenewal)
          · exact hasked.trans (concludeRefresh_leads _ _ _ _ fun _ _ => hend _ hreads.holds)

theorem settle?_leads (setup : Setup) (loop : Nat) {phase : LoopPhase} (reply : Reply)
    {turn after : Turn} (h : settle? setup loop phase reply turn = some after)
    (hhand : ∀ due renewal, phase = .refreshing due renewal → guard.inHand renewal)
    (hend : ∀ due renewal failure, phase = .refreshing due renewal →
      setup.refreshResult renewal reply = .error failure →
      guard.mayTake .refreshFailed renewal.generation) :
    Leads layers guard turn after := by
  cases phase with
  | starting | waiting | ended => cases h
  | refreshing due renewal =>
      cases h
      exact (Turn.concludeRefresh_leads _ _ (hhand due renewal rfl)).trans
        (concludeRefresh_leads _ _ _ _ fun failure hfailed =>
          hend due renewal failure rfl (Turn.concludeRefresh_failed hfailed))
  | leaving ending =>
      cases h
      exact (Turn.concludeEnding_leads _ _ _).trans (concludeEnding_leads _ _ _)

end Loop

/-! ## Moves -/

namespace System

def InFlight (system : System) (actor : Actor) (renewal : Renewal) : Prop :=
  match actor with
  | .task task => system.taskPhase? task = some (.refreshing renewal)
  | .loop loop => ∃ due, system.loopPhase? loop = some (.refreshing due renewal)

/-- A move can complete a refresh: it brings the reply that an actor waits for, or it begins a
refresh, which may be settled at once. -/
inductive Carries (system : System) : Move → Renewal → Prop
  | settle {task : Nat} {reply : Reply} {renewal : Renewal}
      (hflight : system.InFlight (.task task) renewal) :
      Carries system (.settle task reply) renewal
  | settleLoop {loop : Nat} {reply : Reply} {renewal : Renewal}
      (hflight : system.InFlight (.loop loop) renewal) :
      Carries system (.settleLoop loop reply) renewal
  | start {task minValidity : Nat} {renewal : Renewal}
      (hready : system.taskPhase? task = some (.ready (.refreshIfNeeded minValidity)))
      (hcandidate : system.candidate minValidity = .renewal renewal) :
      Carries system (.start task) renewal
  | tick {loop interval minValidity due : Nat} {cancelled : Bool} {renewal : Renewal}
      (hloop : system.loops[loop]? = some ⟨interval, minValidity, cancelled, .waiting due⟩)
      (hcandidate : system.candidate minValidity = .renewal renewal) :
      Carries system (.tick loop) renewal

/-- A refresh that a move can complete is in flight or uses the token at hand. -/
theorem Carries.inFlight_or_reads {system : System} {move : Move} {renewal : Renewal}
    (h : system.Carries move renewal) :
    (∃ actor, system.InFlight actor renewal) ∨ system.ledger.Reads renewal := by
  cases h with
  | settle hflight => exact .inl ⟨_, hflight⟩
  | settleLoop hflight => exact .inl ⟨_, hflight⟩
  | start hready hcandidate => exact .inr (reads_of_candidate hcandidate)
  | tick hloop hcandidate => exact .inr (reads_of_candidate hcandidate)

/-- A move hands a request to the transport: a task starts a call, or the reply to one goes out
through the layers. -/
inductive HandsOver (setup : Setup) (system : System) : Move → Request → Prop
  | start {task : Nat} {operation : Operation} {params : Params} {context : CallContext}
      {request : Request}
      (hready : system.taskPhase? task = some (.ready (.call operation params)))
      (hcontext : setup.client.context operation params = .ok context)
      (hmem : request ∈ (Pipeline.inward system.currentToken setup.client.layers
        context).requests) :
      HandsOver setup system (.start task) request
  | settle {task since : Nat} {entered : Pipeline.Entered (Option String)} {reply : Reply}
      {request : Request} (hcalling : system.taskPhase? task = some (.calling entered since))
      (hmem : request ∈ (Pipeline.outward (system.now - since) entered reply).1.requests) :
      HandsOver setup system (.settle task reply) request

/-- A move can complete a login: a task starts one, passes the gate or gets the reply. -/
inductive LogsIn (system : System) : Move → Prop
  | start {task : Nat} {credentials : Credentials}
      (hready : system.taskPhase? task = some (.ready (.authenticate credentials))) :
      LogsIn system (.start task)
  | passGate {task : Nat} : LogsIn system (.passGate task)
  | settle {task : Nat} {credentials : Credentials} {reply : Reply}
      (hphase : system.taskPhase? task = some (.loggingIn credentials)) :
      LogsIn system (.settle task reply)

/-- A move can take out a session of a generation: a logout starts, or the refresh of a tick
fails, at once or with its reply. -/
inductive Ends (setup : Setup) (system : System) : Move → EndReason → Nat → Prop
  | logout {task generation : Nat} (hready : system.taskPhase? task = some (.ready .logout)) :
      Ends setup system (.start task) .userRequested generation
  | tick {loop interval minValidity due generation : Nat} {cancelled : Bool}
      (hloop : system.loops[loop]? = some ⟨interval, minValidity, cancelled, .waiting due⟩)
      (hholds : system.ledger.Holds generation) :
      Ends setup system (.tick loop) .refreshFailed generation
  | settle {loop due : Nat} {renewal : Renewal} {reply : Reply} {failure : Failure}
      (hphase : system.loopPhase? loop = some (.refreshing due renewal))
      (hfailed : setup.refreshResult renewal reply = .error failure) :
      Ends setup system (.settleLoop loop reply) .refreshFailed renewal.generation

theorem HandsOver.alone {setup : Setup} {system : System} {move : Move} {request : Request}
    (h : system.HandsOver setup move request) :
    (∀ renewal, ¬ system.Carries move renewal) ∧ ¬ system.LogsIn move ∧
      ∀ reason generation, ¬ system.Ends setup move reason generation := by
  cases h with
  | start hready hcontext hmem =>
      refine ⟨fun renewal hcarries => ?_, fun hlogs => ?_, fun reason generation hends => ?_⟩
      · cases hcarries with
        | start hother => rw [hready] at hother; cases hother
      · cases hlogs with
        | start hother => rw [hready] at hother; cases hother
      · cases hends with
        | logout hother => rw [hready] at hother; cases hother
  | settle hcalling hmem =>
      refine ⟨fun renewal hcarries => ?_, fun hlogs => ?_, fun reason generation hends => ?_⟩
      · cases hcarries with
        | settle hother =>
            have hphase : system.taskPhase? _ = some (.refreshing renewal) := hother
            rw [hcalling] at hphase
            cases hphase
      · cases hlogs with
        | settle hother => rw [hcalling] at hother; cases hother
      · cases hends

theorem Ends.not_logsIn {setup : Setup} {system : System} {move : Move} {reason : EndReason}
    {generation : Nat} (h : system.Ends setup move reason generation) : ¬ system.LogsIn move := by
  intro hlogs
  cases h with
  | logout hready =>
      cases hlogs with
      | start hother => rw [hready] at hother; cases hother
  | tick hloop hholds => cases hlogs
  | settle hphase hfailed => cases hlogs

def moveGuard (setup : Setup) (system : System) (move : Move) : Ledger.Guard where
  inHand := system.Carries move
  mayCall := system.HandsOver setup move
  mayLogin := system.LogsIn move
  mayTake := system.Ends setup move

theorem schedule_leads (system : System) (interval minValidity : Nat) :
    Leads layers guard (.start system) (system.schedule interval minValidity) := by
  let registered := (Turn.start system).register (some system.loops.length)
  have hregistered : Leads layers guard (.start system) registered :=
    Turn.register_leads _ _
  have hadded : Leads layers guard registered (registered.update fun s =>
      { s with loops := s.loops ++ [⟨max interval 1, minValidity, false, .starting⟩] }) := by
    refine .of_same rfl rfl (fun _ _ h => .inr h) fun loop phase h => ?_
    simp only [loopPhase?, Turn.update_system, List.getElem?_append] at h
    split at h
    · exact .inr h
    · obtain ⟨l, hl, rfl⟩ := Option.map_eq_some_iff.1 h
      rw [List.mem_singleton.1 (List.mem_of_getElem? hl)]
      exact .inl trivial
  exact hregistered.trans (hadded.trans (Turn.log_leads _ _ _ _))

theorem spawn_leads (system : System) (job : Job) :
    Leads layers guard (.start system) (.start (system.spawn job)) := by
  refine .of_same rfl rfl (fun task phase h => ?_) fun _ _ h => .inr h
  obtain rfl | hbefore := spawn_taskPhase? h
  · exact .inl trivial
  · exact .inr hbefore

theorem closeUnused_leads (turn : Turn) :
    Leads layers guard turn turn.closeUnused :=
  have h := turn.closeUnused_keeps
  .of_quiet h.1 h.2.1 h.2.2.1 h.2.2.2

section Move

variable {setup : Setup} {system : System} {turn : Turn}

theorem move?_start_leads {task : Nat} (h : system.move? setup (.start task) = some turn) :
    Leads setup.client.layers (system.moveGuard setup (.start task)) (.start system) turn := by
  simp only [move?] at h
  cases hphase : system.tasks[task]? with
  | none => simp [hphase] at h
  | some phase =>
      cases phase with
      | ready job =>
          simp only [hphase, Option.some.injEq] at h
          rw [← h]
          refine Task.start_leads setup task job _ ?_ ?_ ?_ ?_
          · rintro credentials rfl
            exact .start hphase
          · rintro rfl generation
            exact .logout hphase
          · rintro minValidity renewal rfl hcandidate
            exact .start hphase hcandidate
          · rintro operation params context rfl hcontext request hmem
            exact .start hphase hcontext hmem
      | _ => simp [hphase] at h

theorem move?_settle_leads {task : Nat} {reply : Reply}
    (h : system.move? setup (.settle task reply) = some turn) :
    Leads setup.client.layers (system.moveGuard setup (.settle task reply)) (.start system)
      turn := by
  simp only [move?] at h
  cases hphase : system.tasks[task]? with
  | none => simp [hphase] at h
  | some phase =>
      simp only [hphase] at h
      refine Task.settle?_leads setup task reply h ?_ ?_ ?_
      · rintro credentials rfl
        exact .settle hphase
      · rintro renewal rfl
        exact .settle hphase
      · rintro entered since rfl request hmem
        exact .settle hphase hmem

theorem move?_tick_leads {loop : Nat} (h : system.move? setup (.tick loop) = some turn) :
    Leads setup.client.layers (system.moveGuard setup (.tick loop)) (.start system) turn := by
  simp only [move?] at h
  split at h
  · next hloop =>
      simp only [Option.ite_none_right_eq_some, Option.some.injEq] at h
      rw [← h.2]
      refine Loop.tick_leads _ _ _ _ _ (fun renewal hcandidate => ?_) fun g hholds => ?_
      · exact .tick hloop hcandidate
      · exact .tick hloop hholds
  · cases h

theorem move?_settleLoop_leads {loop : Nat} {reply : Reply}
    (h : system.move? setup (.settleLoop loop reply) = some turn) :
    Leads setup.client.layers (system.moveGuard setup (.settleLoop loop reply)) (.start system)
      turn := by
  simp only [move?] at h
  cases hloop : system.loops[loop]? with
  | none => simp [hloop] at h
  | some l =>
      simp only [hloop] at h
      have hloopPhase : system.loopPhase? loop = some l.phase := by simp [loopPhase?, hloop]
      refine Loop.settle?_leads setup loop reply h (fun due renewal hphase => ?_)
        fun due renewal failure hphase hfailed => ?_
      · exact .settleLoop ⟨due, hphase ▸ hloopPhase⟩
      · exact .settle (hphase ▸ hloopPhase) hfailed

/-- Up to the closing of an unused provider every move is a chain of acts. -/
theorem move?_leads {move : Move} (h : system.move? setup move = some turn) :
    Leads setup.client.layers (system.moveGuard setup move) (.start system) turn := by
  cases move with
  | spawn job =>
      simp only [move?, Option.ite_none_right_eq_some, Option.some.injEq] at h
      rw [← h.2]
      exact spawn_leads system job
  | start task => exact move?_start_leads h
  | passGate task =>
      simp only [move?] at h
      split at h
      · simp only [Option.ite_none_right_eq_some, Option.some.injEq] at h
        rw [← h.2]
        exact Task.enterGate_leads _ _ _ _ .passGate
      · cases h
  | settle task reply => exact move?_settle_leads h
  | schedule interval minValidity =>
      simp only [move?, Option.ite_none_right_eq_some, Option.some.injEq] at h
      rw [← h.2]
      exact schedule_leads system interval minValidity
  | startLoop loop =>
      simp only [move?] at h
      split at h
      · cases h
        exact Turn.setLoop_leads (.start system) loop (Loop.firstPhase_isFresh _ _ _)
      · cases h
  | tick loop => exact move?_tick_leads h
  | stopLoop loop =>
      simp only [move?] at h
      split at h
      · cases h
        exact (Turn.log_leads _ _ _ _).trans (Loop.stop_leads _ _)
      · cases h
  | settleLoop loop reply => exact move?_settleLoop_leads h
  | cancel loop =>
      simp only [move?, Option.ite_none_right_eq_some, Option.some.injEq] at h
      rw [← h.2]
      exact Turn.cancel_leads _ _
  | release =>
      simp only [move?, Option.ite_none_right_eq_some, Option.some.injEq] at h
      rw [← h.2]
      exact .of_quiet rfl rfl rfl fun _ => rfl
  | advance span =>
      cases h
      exact .of_act (.wait system.ledger span) rfl rfl fun _ => rfl

end Move

/-- Every move is a chain of acts. -/
theorem step?_leads {setup : Setup} {system : System} {move : Move} {turn : Turn}
    (h : system.step? setup move = some turn) :
    Leads setup.client.layers (system.moveGuard setup move) (.start system) turn := by
  obtain ⟨before, hmove, rfl⟩ := Option.map_eq_some_iff.1 h
  exact (move?_leads hmove).trans (closeUnused_leads before)

end System

end AdminAccess
