import AdminAccess.Proofs.Session.Masking
import AdminAccess.Proofs.Session.Runs

/-! # Masked moves

A setup is discreet if what it makes of a secret shows in requests only: then whatever tasks and
loops do from a state, they do from the masked state with the masked setup, and what happens is
what happened before, masked.
-/

namespace AdminAccess

/-- What two payloads are read as: tokens that differ in their texts only, or the same fault at
the same place. -/
inductive TokenResponse.Alike : Except Failure TokenResponse → Except Failure TokenResponse → Prop
  | read {tokens others : TokenResponse} (hmasked : tokens.masked = others.masked) :
      Alike (.ok tokens) (.ok others)
  | refused (failure : Failure) : Alike (.error failure) (.error failure)

theorem TokenResponse.Alike.map_masked {result other : Except Failure TokenResponse}
    (h : Alike result other) : result.map masked = other.map masked := by
  cases h with
  | read hmasked => exact congrArg Except.ok hmasked
  | refused failure => rfl

/-- Two successful token replies that differ in the texts of their tokens only. -/
structure Response.TokensAlike (response other : Response) : Prop where
  success : response.isSuccess = true
  other_success : other.isSuccess = true
  content : TokenResponse.Alike (response.json TokenResponse.shape)
    (other.json TokenResponse.shape)

/-- Secrets make a difference in authorization fields and in the payloads of forms only. -/
structure Setup.Discreet (setup : Setup) : Prop where
  login (credentials : Credentials) :
    setup.masked.identity.login credentials.masked = setup.masked.identity.login credentials
  refresh (token : String) :
    setup.masked.identity.refresh (maskText token) = setup.masked.identity.refresh token
  logout (token : Option String) :
    setup.masked.identity.logout (token.map maskText) = setup.masked.identity.logout token
  inward (token : Option String) {operation : Operation} {params : Params}
      {context : CallContext} (hcontext : setup.client.context operation params = .ok context) :
    Pipeline.inward (token.map maskText) setup.masked.client.layers context =
      (Pipeline.inward token setup.client.layers context).masked
  loginReply (credentials : Credentials) {response other : Response}
      (halike : response.TokensAlike other) :
    ((setup.identity.login credentials).conclude (.ok response)).map TokenResponse.masked =
      ((setup.identity.login credentials).conclude (.ok other)).map TokenResponse.masked
  refreshReply (token : String) {response other : Response}
      (halike : response.TokensAlike other) :
    ((setup.identity.refresh token).conclude (.ok response)).map TokenResponse.masked =
      ((setup.identity.refresh token).conclude (.ok other)).map TokenResponse.masked

variable {setup : Setup}

namespace Setup.Discreet

variable (hdiscreet : setup.Discreet)
include hdiscreet

theorem concludeLogin (credentials : Credentials) (reply : Reply) :
    (setup.masked.identity.login credentials.masked).conclude reply =
      ((setup.identity.login credentials).conclude reply).map .masked := by
  rw [hdiscreet.login]
  exact Exchange.conclude_masked ..

theorem concludeRefresh (renewal : Renewal) (reply : Reply) :
    (setup.masked.identity.refresh renewal.masked.refreshToken).conclude reply =
      ((setup.identity.refresh renewal.refreshToken).conclude reply).map .masked :=
  (congrArg (·.conclude reply) (hdiscreet.refresh _)).trans (Exchange.conclude_masked ..)

theorem concludeLogout (ending : Ending) (reply : Reply) :
    (setup.masked.identity.logout ending.masked.refreshToken).conclude reply =
      (setup.identity.logout ending.refreshToken).conclude reply := by
  have hmasked := (congrArg (·.conclude reply) (hdiscreet.logout ending.refreshToken)).trans
    (Exchange.conclude_masked id _ reply)
  exact hmasked.trans (Settlement.map_id _)

end Setup.Discreet

namespace Turn

variable (turn : Turn)

theorem masked_askRefresh (hdiscreet : setup.Discreet) (renewal : Renewal) :
    turn.masked.askRefresh setup.masked renewal.masked =
      ((turn.askRefresh setup renewal).1.masked, (turn.askRefresh setup renewal).2) := by
  have hrefresh : setup.masked.identity.refresh renewal.masked.refreshToken =
      (setup.identity.refresh renewal.refreshToken).masked .masked :=
    hdiscreet.refresh renewal.refreshToken
  have hasked := fun turn : Turn => turn.masked_exchange TokenResponse.masked (.refresh renewal)
    (setup.identity.refresh renewal.refreshToken)
  simp only [Purpose.masked] at hasked
  simp only [askRefresh, Renewal.masked_generation, masked_log, hrefresh, hasked]
  generalize turn.log .debug "refreshing session token" _ = logged
  rcases logged.exchange (.refresh renewal) (setup.identity.refresh renewal.refreshToken) with
    ⟨asked, _ | settlement⟩
  · rfl
  · simp only [Option.map_some, masked_concludeRefresh]

theorem masked_askEnding (hdiscreet : setup.Discreet) (ending : Ending) :
    turn.masked.askEnding setup.masked ending.masked =
      ((turn.askEnding setup ending).1.masked, (turn.askEnding setup ending).2) := by
  have hlogout : setup.masked.identity.logout ending.masked.refreshToken =
      (setup.identity.logout ending.refreshToken).masked id :=
    hdiscreet.logout ending.refreshToken
  have hasked := turn.masked_exchange id (.logout ending)
    (setup.identity.logout ending.refreshToken)
  simp only [Purpose.masked] at hasked
  simp only [askEnding, hlogout, hasked]
  rcases turn.exchange (.logout ending) (setup.identity.logout ending.refreshToken) with
    ⟨asked, _ | settlement⟩
  · rfl
  · simp only [Option.map_some, Settlement.map_id, masked_concludeEnding]

end Turn

/-! ## Tasks -/

namespace Task

theorem masked_finish (task : Nat) (result : TaskResult) (turn : Turn) :
    finish task result turn.masked = (finish task result turn).masked :=
  turn.masked_setTask task (.finished result)

theorem masked_leaveGate (task : Nat) (result : TaskResult) (turn : Turn) :
    leaveGate task result turn.masked = (leaveGate task result turn).masked := by
  simp only [leaveGate, Turn.masked_openGate, masked_finish]

theorem masked_concludeLogin (task : Nat) (settlement : Settlement TokenResponse) (turn : Turn) :
    concludeLogin task (settlement.map .masked) turn.masked =
      (concludeLogin task settlement turn).masked := by
  obtain ⟨logs, result⟩ := settlement
  simp only [concludeLogin, Settlement.map, Turn.masked_logAll]
  generalize turn.logAll logs = logged
  cases result with
  | error failure =>
      have hdropped : ∀ t : Turn, (t.masked.update fun s => { s with session := none }) =
          (t.update fun s => { s with session := none }).masked := fun _ => rfl
      simp only [Except.map, Turn.masked_log, hdropped, Turn.masked_emit, masked_leaveGate]
  | ok response =>
      have hcounted : ∀ g, (logged.masked.update fun s => { s with nextGeneration := g }) =
          (logged.update fun s => { s with nextGeneration := g }).masked := fun _ => rfl
      simp only [Except.map, Turn.masked_system, System.masked_nextGeneration, hcounted]
      generalize (logged.update fun s =>
        { s with nextGeneration := logged.system.nextGeneration + 1 }) = counted
      simp only [System.masked_now, Session.ofResponse_masked]
      cases Session.ofResponse response counted.system.now logged.system.nextGeneration with
      | error fault => simp only [Except.map, masked_leaveGate]
      | ok session =>
          have hopened : (counted.masked.update fun s =>
                { s with session := some session.masked }).record (.opened session.masked) =
              ((counted.update fun s => { s with session := some session }).record
                (.opened session)).masked :=
            (counted.update fun s => { s with session := some session }).masked_record rfl
          simp only [Except.map, hopened, Turn.masked_log, Turn.masked_emit, masked_leaveGate]

theorem masked_enterGate (hdiscreet : setup.Discreet) (task : Nat) (credentials : Credentials)
    (turn : Turn) :
    enterGate setup.masked task credentials.masked turn.masked =
      (enterGate setup task credentials turn).masked := by
  simp only [enterGate, Turn.masked_system, System.masked_isAuthenticated]
  cases turn.system.isAuthenticated with
  | true => simp only [if_true, Turn.masked_log, masked_leaveGate]
  | false =>
      have hlogin : setup.masked.identity.login credentials.masked =
          (setup.identity.login credentials).masked .masked := hdiscreet.login credentials
      have hasked := turn.masked_exchange TokenResponse.masked (.login credentials)
        (setup.identity.login credentials)
      simp only [Purpose.masked] at hasked
      simp only [Bool.false_eq_true, if_false, hlogin, hasked]
      rcases turn.exchange (.login credentials) (setup.identity.login credentials) with
        ⟨asked, _ | settlement⟩
      · exact asked.masked_setTask task (.loggingIn credentials)
      · simp only [Option.map_some, masked_concludeLogin]

theorem masked_authenticate (hdiscreet : setup.Discreet) (task : Nat) (credentials : Credentials)
    (turn : Turn) :
    authenticate setup.masked task credentials.masked turn.masked =
      (authenticate setup task credentials turn).masked := by
  simp only [authenticate, Turn.masked_system, System.masked_isAuthenticated, System.masked_gate]
  cases turn.system.isAuthenticated with
  | true => simp only [if_true, Turn.masked_log, masked_finish]
  | false =>
      simp only [Bool.false_eq_true, if_false]
      cases turn.system.gate.holder with
      | none =>
          exact masked_enterGate hdiscreet task credentials
            (turn.update fun s => { s with gate := ⟨some task, s.gate.waiting⟩ })
      | some holder =>
          exact Turn.masked_setTask
            (turn.update fun s => { s with gate := ⟨s.gate.holder, s.gate.waiting ++ [task]⟩ })
            task (.atGate credentials)

theorem masked_refreshIfNeeded (hdiscreet : setup.Discreet) (task minValidity : Nat)
    (turn : Turn) :
    refreshIfNeeded setup.masked task minValidity turn.masked =
      (refreshIfNeeded setup task minValidity turn).masked := by
  simp only [refreshIfNeeded, Turn.masked_system, System.masked_candidate]
  cases turn.system.candidate minValidity with
  | noSession | fresh | unusable => exact masked_finish ..
  | renewal renewal =>
      simp only [System.Candidate.masked, Turn.masked_askRefresh _ hdiscreet]
      rcases turn.askRefresh setup renewal with ⟨asked, _ | renewed⟩
      · exact asked.masked_setTask task (.refreshing renewal)
      · exact masked_finish ..

theorem masked_logout (hdiscreet : setup.Discreet) (task : Nat) (turn : Turn) :
    logout setup.masked task turn.masked = (logout setup task turn).masked := by
  simp only [logout, Turn.masked_takeSession]
  rcases turn.takeSession .userRequested none with ⟨left, _ | ending⟩
  · exact masked_finish ..
  · simp only [Option.map_some, Turn.masked_askEnding _ hdiscreet]
    rcases left.askEnding setup ending with ⟨asked, _ | result⟩
    · exact asked.masked_setTask task (.leaving ending)
    · exact masked_finish ..

theorem masked_concludeCall (task elapsed : Nat) (entered : Pipeline.Entered (Option String))
    (reply : Reply) (turn : Turn) :
    concludeCall task elapsed entered.masked reply turn.masked =
      (concludeCall task elapsed entered reply turn).masked := by
  simp only [concludeCall, Pipeline.outward_masked, Turn.masked_follow, masked_finish]

theorem masked_call (hdiscreet : setup.Discreet) (task : Nat) (operation : Operation)
    (params : Params) (turn : Turn) :
    call setup.masked task operation params turn.masked =
      (call setup task operation params turn).masked := by
  have hsame : setup.masked.client.context operation params =
      setup.client.context operation params := rfl
  simp only [call, hsame]
  cases hcontext : setup.client.context operation params with
  | error failure => exact masked_finish ..
  | ok context =>
      simp only [Turn.masked_system, System.masked_currentToken,
        hdiscreet.inward turn.system.currentToken hcontext]
      rcases Pipeline.inward turn.system.currentToken setup.client.layers context with
        ⟨trace, entered, changed | reply⟩
      · simp only [Pipeline.Passage.masked, Course.masked, Turn.masked_follow]
        generalize turn.follow trace = followed
        have hcalled : followed.masked.record (.called changed.request.maskAuthorization) =
            (followed.record (.called changed.request)).masked := followed.masked_record rfl
        rw [hcalled]
        exact Turn.masked_setTask _ task (.calling entered _)
      · simp only [Pipeline.Passage.masked, Course.masked, Turn.masked_follow,
          masked_concludeCall]

theorem masked_start (hdiscreet : setup.Discreet) (task : Nat) (job : Job) (turn : Turn) :
    start setup.masked task job.masked turn.masked = (start setup task job turn).masked := by
  cases job with
  | authenticate credentials => exact masked_authenticate hdiscreet task credentials turn
  | refreshIfNeeded minValidity => exact masked_refreshIfNeeded hdiscreet task minValidity turn
  | logout => exact masked_logout hdiscreet task turn
  | call operation params => exact masked_call hdiscreet task operation params turn

theorem masked_settle? (hdiscreet : setup.Discreet) (task : Nat) (phase : TaskPhase)
    (reply : Reply) (turn : Turn) :
    settle? setup.masked task phase.masked reply turn.masked =
      (settle? setup task phase reply turn).map Turn.masked := by
  cases phase with
  | ready | atGate | finished => rfl
  | loggingIn credentials =>
      simp only [settle?, TaskPhase.masked, hdiscreet.concludeLogin, masked_concludeLogin,
        Option.map_some]
  | refreshing renewal =>
      simp only [settle?, TaskPhase.masked, hdiscreet.concludeRefresh,
        Turn.masked_concludeRefresh, masked_finish, Option.map_some]
  | leaving ending =>
      simp only [settle?, TaskPhase.masked, hdiscreet.concludeLogout, Turn.masked_concludeEnding,
        masked_finish, Option.map_some]
  | calling entered since =>
      simp only [settle?, TaskPhase.masked, masked_concludeCall, Option.map_some]
      rfl

end Task

/-! ## Loops -/

namespace Loop

theorem masked_stop (loop : Nat) (turn : Turn) :
    stop loop turn.masked = (stop loop turn).masked := by
  simp only [stop, ← Turn.masked_cancel, ← turn.masked_setLoop, LoopPhase.masked]

theorem masked_concludeEnding (loop : Nat) (result : Except Failure Unit) (turn : Turn) :
    concludeEnding loop result turn.masked = (concludeEnding loop result turn).masked := by
  cases result <;> simp only [concludeEnding, Turn.masked_log, masked_stop]

theorem masked_giveUp (hdiscreet : setup.Discreet) (loop generation : Nat) (failure : Failure)
    (turn : Turn) :
    giveUp setup.masked loop generation failure turn.masked =
      (giveUp setup loop generation failure turn).masked := by
  simp only [giveUp, Turn.masked_log, Turn.masked_takeSession]
  generalize turn.log .warn "token refresh failed, logging out" _ = logged
  rcases logged.takeSession .refreshFailed (some generation) with ⟨left, _ | ending⟩
  · exact masked_stop ..
  · simp only [Option.map_some, Turn.masked_askEnding _ hdiscreet]
    rcases left.askEnding setup ending with ⟨asked, _ | result⟩
    · exact asked.masked_setLoop loop (.leaving ending)
    · exact masked_concludeEnding ..

theorem masked_concludeRefresh (hdiscreet : setup.Discreet) (loop due : Nat) (renewal : Renewal)
    (renewed : Renewed) (turn : Turn) :
    concludeRefresh setup.masked loop due renewal.masked renewed turn.masked =
      (concludeRefresh setup loop due renewal renewed turn).masked := by
  cases renewed with
  | stored | discarded => exact turn.masked_setLoop loop (.waiting due)
  | failed failure => exact masked_giveUp hdiscreet loop renewal.generation failure turn
  | broken fault => exact turn.masked_setLoop loop .ended

theorem masked_tick (hdiscreet : setup.Discreet) (loop due minValidity : Nat) (turn : Turn) :
    tick setup.masked loop due minValidity turn.masked =
      (tick setup loop due minValidity turn).masked := by
  simp only [tick, Turn.masked_system, System.masked_closed, System.masked_candidate]
  cases turn.system.closed with
  | true => exact masked_stop ..
  | false =>
      simp only [Bool.false_eq_true, if_false]
      cases turn.system.candidate minValidity with
      | noSession => simp only [System.Candidate.masked, Turn.masked_log, masked_stop]
      | fresh => exact turn.masked_setLoop loop (.waiting due)
      | unusable generation => exact masked_giveUp hdiscreet ..
      | renewal renewal =>
          simp only [System.Candidate.masked, Turn.masked_askRefresh _ hdiscreet]
          rcases turn.askRefresh setup renewal with ⟨asked, _ | renewed⟩
          · exact asked.masked_setLoop loop (.refreshing due renewal)
          · exact masked_concludeRefresh hdiscreet ..

theorem masked_settle? (hdiscreet : setup.Discreet) (loop : Nat) (phase : LoopPhase)
    (reply : Reply) (turn : Turn) :
    settle? setup.masked loop phase.masked reply turn.masked =
      (settle? setup loop phase reply turn).map Turn.masked := by
  cases phase with
  | starting | waiting | ended => rfl
  | refreshing due renewal =>
      simp only [settle?, LoopPhase.masked, hdiscreet.concludeRefresh,
        Turn.masked_concludeRefresh, masked_concludeRefresh hdiscreet, Option.map_some]
  | leaving ending =>
      simp only [settle?, LoopPhase.masked, hdiscreet.concludeLogout, Turn.masked_concludeEnding,
        masked_concludeEnding, Option.map_some]

end Loop

/-! ## Moves and runs -/

namespace System

theorem masked_spawn (system : System) (job : Job) :
    system.masked.spawn job.masked = (system.spawn job).masked := by
  simp only [spawn, masked, List.map_append, List.map_cons, List.map_nil, TaskPhase.masked]

theorem masked_schedule (system : System) (interval minValidity : Nat) :
    system.masked.schedule interval minValidity =
      (system.schedule interval minValidity).masked := by
  have hlength : system.masked.loops.length = system.loops.length := List.length_map ..
  have hadded : ∀ (turn : Turn) (l : Loop),
      turn.masked.update (fun s => { s with loops := s.loops ++ [l.masked] }) =
        (turn.update fun s => { s with loops := s.loops ++ [l] }).masked := by
    intro turn l
    apply turn.masked_update
    simp only [masked, List.map_append, List.map_cons, List.map_nil]
  simp only [schedule, hlength, Turn.masked_start, Turn.masked_register]
  have hstarted := hadded ((Turn.start system).register (some system.loops.length))
    ⟨max interval 1, minValidity, false, .starting⟩
  simp only [Loop.masked, LoopPhase.masked] at hstarted
  rw [hstarted, Turn.masked_log]

section Move

variable (system : System)

theorem masked_start_move? (hdiscreet : setup.Discreet) (task : Nat) :
    system.masked.move? setup.masked (.start task) =
      (system.move? setup (.start task)).map Turn.masked := by
  simp only [move?, masked_task?]
  cases system.tasks[task]? with
  | none => rfl
  | some phase =>
      cases phase with
      | ready job => exact congrArg some (Task.masked_start hdiscreet task job (.start system))
      | _ => rfl

theorem masked_passGate_move? (hdiscreet : setup.Discreet) (task : Nat) :
    system.masked.move? setup.masked (.passGate task) =
      (system.move? setup (.passGate task)).map Turn.masked := by
  simp only [move?, masked_task?]
  cases system.tasks[task]? with
  | none => rfl
  | some phase =>
      cases phase with
      | atGate credentials =>
          simp only [Option.map_some, TaskPhase.masked, masked_gate, Turn.masked_start,
            Task.masked_enterGate hdiscreet]
          by_cases hholder : system.gate.holder = some task <;>
            simp only [hholder, if_true, if_false, Option.map_some, Option.map_none]
      | _ => rfl

theorem masked_startLoop_move? (loop : Nat) :
    system.masked.move? setup.masked (.startLoop loop) =
      (system.move? setup (.startLoop loop)).map Turn.masked := by
  simp only [move?, masked_loop?]
  cases system.loops[loop]? with
  | none => rfl
  | some l =>
      obtain ⟨interval, minValidity, cancelled, phase⟩ := l
      cases phase with
      | starting =>
          have hstarted := system.masked_setLoop loop (Loop.firstPhase interval system.now)
          rw [Loop.firstPhase_masked] at hstarted
          exact congrArg (some <| Turn.start ·) hstarted
      | _ => rfl

theorem masked_tick_move? (hdiscreet : setup.Discreet) (loop : Nat) :
    system.masked.move? setup.masked (.tick loop) =
      (system.move? setup (.tick loop)).map Turn.masked := by
  simp only [move?, masked_loop?]
  cases system.loops[loop]? with
  | none => rfl
  | some l =>
      obtain ⟨interval, minValidity, cancelled, phase⟩ := l
      cases phase with
      | waiting due =>
          simp only [Option.map_some, Loop.masked, LoopPhase.masked, masked_now,
            Turn.masked_start, Loop.masked_tick hdiscreet]
          by_cases hdue : due ≤ system.now <;>
            simp only [hdue, if_true, if_false, Option.map_some, Option.map_none]
      | _ => rfl

theorem masked_stopLoop_move? (loop : Nat) :
    system.masked.move? setup.masked (.stopLoop loop) =
      (system.move? setup (.stopLoop loop)).map Turn.masked := by
  simp only [move?, masked_loop?]
  cases system.loops[loop]? with
  | none => rfl
  | some l =>
      obtain ⟨interval, minValidity, cancelled, phase⟩ := l
      cases phase with
      | waiting due =>
          cases cancelled with
          | true =>
              simp only [Option.map_some, Loop.masked, LoopPhase.masked, Turn.masked_start,
                Turn.masked_log, Loop.masked_stop]
          | false => rfl
      | _ => cases cancelled <;> rfl

/-- What a move does to a masked state is what it does to the state, masked. -/
theorem masked_move? (hdiscreet : setup.Discreet) (move : Move) :
    system.masked.move? setup.masked move.masked = (system.move? setup move).map Turn.masked := by
  cases move with
  | spawn job =>
      simp only [move?, Move.masked, masked_held, masked_spawn, Turn.masked_start]
      cases system.held <;> rfl
  | start task => exact system.masked_start_move? hdiscreet task
  | passGate task => exact system.masked_passGate_move? hdiscreet task
  | settle task reply =>
      simp only [move?, Move.masked, masked_task?]
      cases system.tasks[task]? with
      | none => rfl
      | some phase => exact Task.masked_settle? hdiscreet task phase reply (.start system)
  | schedule interval minValidity =>
      simp only [move?, Move.masked, masked_held, masked_schedule]
      cases system.held <;> rfl
  | startLoop loop => exact system.masked_startLoop_move? loop
  | tick loop => exact system.masked_tick_move? hdiscreet loop
  | stopLoop loop => exact system.masked_stopLoop_move? loop
  | settleLoop loop reply =>
      simp only [move?, Move.masked, masked_loop?]
      cases system.loops[loop]? with
      | none => rfl
      | some l => exact Loop.masked_settle? hdiscreet loop l.phase reply (.start system)
  | cancel loop =>
      have hlength : system.masked.loops.length = system.loops.length := List.length_map ..
      simp only [move?, Move.masked, hlength, Turn.masked_start, Turn.masked_cancel]
      by_cases hloop : loop < system.loops.length <;> simp only [hloop, if_true, if_false] <;> rfl
  | release =>
      simp only [move?, Move.masked, masked_held]
      cases system.held <;> rfl
  | advance span => rfl

theorem masked_step? (hdiscreet : setup.Discreet) (move : Move) :
    system.masked.step? setup.masked move.masked = (system.step? setup move).map Turn.masked := by
  simp only [step?, system.masked_move? hdiscreet, Option.map_map, Function.comp_def,
    Turn.masked_closeUnused]

end Move

end System

end AdminAccess
