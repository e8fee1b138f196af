import AdminAccess.Proofs.Session.Changes
import AdminAccess.Proofs.Session.Effects
import AdminAccess.Proofs.Session.Stale

/-! # Every move does what is listed

The relations of effects leave nothing out: each stretch of a task or loop goes one of the ways
listed for it, hence each move, `System.step?_does`.  Nothing later unfolds a stretch.
-/

namespace AdminAccess

section Stretches

variable (setup : Setup) (turn : Turn)

open AdminAccess.System (LoginEnds EntersGate RefreshEnds AsksRefresh EndsSession Starts Settles
  GoesOn Ticks LoopSettles Does)

namespace Turn

variable {turn}

theorem exchange_pending {α : Type} {exchange : Exchange α} (purpose : Purpose)
    (h : exchange.settlement? = none) :
    ∃ asked, turn.exchange purpose exchange = (asked, none) ∧ asked.system = turn.system ∧
      asked.facts = turn.facts ++ [.asked purpose] := by
  cases exchange with
  | settled settlement => cases h
  | awaiting opening request conclude =>
      exact ⟨_, rfl, rfl, exchange_facts turn purpose (.awaiting opening request conclude)⟩

theorem exchange_settled {α : Type} {exchange : Exchange α} {settlement : Settlement α}
    (purpose : Purpose) (h : exchange.settlement? = some settlement) :
    turn.exchange purpose exchange = (turn.record (.asked purpose), some settlement) := by
  cases exchange with
  | settled found => cases h; rfl
  | awaiting opening request conclude => cases h

end Turn

namespace Task

theorem leaveGate_system (task : Nat) (result : TaskResult) :
    (leaveGate task result turn).system =
      turn.system.openGate.setTask task (.finished result) := by
  simp [leaveGate, finish]

theorem leaveGate_facts (task : Nat) (result : TaskResult) :
    (leaveGate task result turn).facts = turn.facts := by
  simp [leaveGate, finish]

theorem concludeLogin_ends (task : Nat) (settlement : Settlement TokenResponse) :
    ∃ facts after result, LoginEnds turn.system settlement.result facts after result ∧
      (concludeLogin task settlement turn).facts = turn.facts ++ facts ∧
      (concludeLogin task settlement turn).system =
        after.openGate.setTask task (.finished result) := by
  cases hresult : settlement.result with
  | error failure =>
      rw [concludeLogin_refused task turn hresult, leaveGate_system, leaveGate_facts]
      exact ⟨_, _, _, .refused rfl, by simp, rfl⟩
  | ok response =>
      cases hnew : Session.ofResponse response turn.system.now turn.system.nextGeneration with
      | error fault =>
          rw [concludeLogin_broken task turn hresult hnew, leaveGate_system, leaveGate_facts]
          exact ⟨_, _, _, .broken rfl hnew, by simp, rfl⟩
      | ok session =>
          rw [concludeLogin_opened task turn hresult hnew, leaveGate_system, leaveGate_facts]
          exact ⟨_, _, _, .opened rfl hnew, by simp [Happening.isFact], rfl⟩

theorem enterGate_enters (task : Nat) (credentials : Credentials) :
    ∃ facts, EntersGate setup turn.system task credentials facts
        (enterGate setup task credentials turn).system ∧
      (enterGate setup task credentials turn).facts = turn.facts ++ facts := by
  unfold enterGate
  cases hvalid : turn.system.isAuthenticated with
  | true =>
      refine ⟨[], ?_, by simp [leaveGate_facts]⟩
      simp only [if_true, leaveGate_system, Turn.log_system]
      exact .already hvalid
  | false =>
      simp only [Bool.false_eq_true, if_false]
      cases hsettled : (setup.identity.login credentials).settlement? with
      | none =>
          obtain ⟨asked, hexchange, hsystem, hfacts⟩ :=
            turn.exchange_pending (.login credentials) hsettled
          rw [hexchange]
          refine ⟨_, ?_, hfacts⟩
          simp only [Turn.update_system, hsystem]
          exact .asked hvalid hsettled
      | some settlement =>
          rw [Turn.exchange_settled _ hsettled]
          obtain ⟨facts, after, result, hends, hfacts, hsystem⟩ :=
            concludeLogin_ends (turn.record (.asked (.login credentials))) task settlement
          refine ⟨.asked (.login credentials) :: facts, ?_, ?_⟩
          · simp only [hsystem]
            exact .settled hvalid hsettled hends
          · simpa [Happening.isFact] using hfacts

end Task

namespace Turn

theorem storeRefresh_ends (renewal : Renewal) (response : TokenResponse) :
    ∃ facts, RefreshEnds turn.system renewal (.ok response) facts
        (turn.storeRefresh renewal response).1.system (turn.storeRefresh renewal response).2 ∧
      (turn.storeRefresh renewal response).1.facts = turn.facts ++ facts := by
  by_cases hholds : turn.system.ledger.Holds renewal.generation
  · obtain ⟨session, hsession, hgeneration⟩ := hholds
    cases hnew : session.refreshed response turn.system.now with
    | error fault =>
        rw [storeRefresh_broken hsession hgeneration hnew]
        exact ⟨[], .broken rfl hsession hgeneration hnew, by simp⟩
    | ok renewed =>
        rw [storeRefresh_stored hsession hgeneration hnew]
        exact ⟨_, .stored rfl hsession hgeneration hnew, by simp [Happening.isFact]⟩
  · rw [storeRefresh_discarded response hholds]
    exact ⟨[], .discarded rfl hholds, by simp⟩

theorem concludeRefresh_ends (renewal : Renewal) (settlement : Settlement TokenResponse) :
    ∃ facts, RefreshEnds turn.system renewal settlement.result facts
        (turn.concludeRefresh renewal settlement).1.system
        (turn.concludeRefresh renewal settlement).2 ∧
      (turn.concludeRefresh renewal settlement).1.facts = turn.facts ++ facts := by
  unfold concludeRefresh
  cases hresult : settlement.result with
  | error failure => exact ⟨[], .failed rfl, by simp⟩
  | ok response =>
      obtain ⟨facts, hends, hfacts⟩ :=
        storeRefresh_ends (turn.logAll settlement.logs) renewal response
      rw [logAll_facts] at hfacts
      exact ⟨facts, hends, hfacts⟩

theorem askRefresh_asks (renewal : Renewal) :
    ∃ facts, AsksRefresh setup turn.system renewal facts (turn.askRefresh setup renewal).1.system
        (turn.askRefresh setup renewal).2 ∧
      (turn.askRefresh setup renewal).1.facts = turn.facts ++ facts := by
  let logged := turn.log .debug "refreshing session token" [generationField renewal.generation]
  have hlogged : logged.facts = turn.facts := log_facts _ _ _ _
  cases hsettled : (setup.identity.refresh renewal.refreshToken).settlement? with
  | none =>
      obtain ⟨asked, hexchange, hsystem, hfacts⟩ :=
        logged.exchange_pending (.refresh renewal) hsettled
      have hask : turn.askRefresh setup renewal = (asked, none) := by
        rw [askRefresh, hexchange]
      rw [hask, hsystem, hfacts, hlogged]
      exact ⟨_, .pending hsettled, rfl⟩
  | some settlement =>
      let asked := logged.record (.asked (.refresh renewal))
      have hask : turn.askRefresh setup renewal =
          ((asked.concludeRefresh renewal settlement).1,
            some (asked.concludeRefresh renewal settlement).2) := by
        rw [askRefresh, exchange_settled (.refresh renewal) hsettled]
      obtain ⟨facts, hends, hfacts⟩ := asked.concludeRefresh_ends renewal settlement
      rw [hask, hfacts, record_facts, hlogged]
      exact ⟨_, .settled hsettled hends, List.append_assoc _ _ _⟩

theorem concludeEnding_ends (ending : Ending) (settlement : Settlement Unit) :
    (turn.concludeEnding ending settlement).1.system =
        turn.system.tell (.loggedOut ending.reason) ∧
      (turn.concludeEnding ending settlement).1.facts =
        turn.facts ++ [.emitted (.loggedOut ending.reason)] ∧
      (turn.concludeEnding ending settlement).2 = settlement.result := by
  unfold concludeEnding
  cases hresult : settlement.result with
  | ok => exact ⟨rfl, by simp, rfl⟩
  | error failure => exact ⟨rfl, by simp, rfl⟩

/-- The end of a session is begun, as far as it gets at once. -/
def beginEnding (ending : Ending) : Turn × Farewell :=
  match turn.askEnding setup ending with
  | (turn, none) => (turn, .pending ending)
  | (turn, some result) => (turn, .settled result)

theorem beginEnding_pending {ending : Ending}
    (hpending : (setup.identity.logout ending.refreshToken).settlement? = none) :
    (turn.beginEnding setup ending).2 = .pending ending ∧
      (turn.beginEnding setup ending).1.system = turn.system ∧
      (turn.beginEnding setup ending).1.facts = turn.facts ++ [.asked (.logout ending)] := by
  obtain ⟨asked, hexchange, hsystem, hfacts⟩ :=
    turn.exchange_pending (.logout ending) hpending
  have hbegin : turn.beginEnding setup ending = (asked, .pending ending) := by
    rw [beginEnding, askEnding, hexchange]
  rw [hbegin]
  exact ⟨rfl, hsystem, hfacts⟩

theorem beginEnding_settled {ending : Ending} {settlement : Settlement Unit}
    (hsettled : (setup.identity.logout ending.refreshToken).settlement? = some settlement) :
    (turn.beginEnding setup ending).2 = .settled settlement.result ∧
      (turn.beginEnding setup ending).1.system = turn.system.tell (.loggedOut ending.reason) ∧
      (turn.beginEnding setup ending).1.facts =
        turn.facts ++ [.asked (.logout ending), .emitted (.loggedOut ending.reason)] := by
  obtain ⟨hsystem, hfacts, hresult⟩ :=
    (turn.record (.asked (.logout ending))).concludeEnding_ends ending settlement
  simp only [beginEnding, askEnding, exchange_settled (.logout ending) hsettled]
  exact ⟨by rw [hresult], hsystem, by simpa [Happening.isFact] using hfacts⟩

def endSession (reason : EndReason) (expected : Option Nat) : Turn × Farewell :=
  match turn.takeSession reason expected with
  | (turn, none) => (turn, .kept)
  | (turn, some ending) => turn.beginEnding setup ending

theorem endSession_taken {reason : EndReason} {expected : Option Nat} {session : Session}
    (hsession : turn.system.session = some session)
    (hexpected : ∀ generation ∈ expected, generation = session.generation) :
    ∃ facts, EndsSession setup turn.system reason expected facts
        (turn.endSession setup reason expected).1.system
        (turn.endSession setup reason expected).2 ∧
      (turn.endSession setup reason expected).1.facts = turn.facts ++ facts := by
  let taken := (turn.withoutSession.record (.taken (session.ending reason))).log .info
    "session ended" [("reason", reason.text), generationField session.generation]
  have htaken : taken.facts = turn.facts ++ [.taken (session.ending reason)] := by
    simp [taken, Happening.isFact]
  have hout : taken.system = turn.system.withoutSession := withoutSession_system turn
  have hend : turn.endSession setup reason expected =
      taken.beginEnding setup (session.ending reason) := by
    rw [endSession, takeSession_some reason hsession hexpected]
    rfl
  rw [hend]
  cases hsettled : (setup.identity.logout session.refreshToken).settlement? with
  | none =>
      obtain ⟨hfarewell, hsystem, hfacts⟩ :=
        beginEnding_pending setup taken (show (setup.identity.logout
          (session.ending reason).refreshToken).settlement? = none from hsettled)
      rw [hfarewell, hsystem, hfacts, htaken, hout]
      exact ⟨_, .asked hsession hexpected hsettled, List.append_assoc _ _ _⟩
  | some settlement =>
      obtain ⟨hfarewell, hsystem, hfacts⟩ :=
        beginEnding_settled setup taken (show (setup.identity.logout
          (session.ending reason).refreshToken).settlement? = some settlement from hsettled)
      rw [hfarewell, hsystem, hfacts, htaken, hout]
      exact ⟨_, .settled hsession hexpected hsettled, List.append_assoc _ _ _⟩

theorem endSession_ends (reason : EndReason) (expected : Option Nat) :
    ∃ facts, EndsSession setup turn.system reason expected facts
        (turn.endSession setup reason expected).1.system
        (turn.endSession setup reason expected).2 ∧
      (turn.endSession setup reason expected).1.facts = turn.facts ++ facts := by
  cases hsession : turn.system.session with
  | none =>
      have hidle : turn.system.withoutSession = turn.system.register none := by
        rw [System.withoutSession, ← hsession]
      rw [endSession, takeSession_none reason expected hsession]
      simp only [log_system, withoutSession_system, hidle, log_facts, withoutSession_facts]
      exact ⟨[], .idle hsession, (List.append_nil _).symm⟩
  | some session =>
      cases expected with
      | none => exact endSession_taken setup turn hsession fun _ h => by cases h
      | some generation =>
          by_cases hsame : generation = session.generation
          · exact endSession_taken setup turn hsession fun _ h => by cases h; exact hsame
          · rw [endSession, takeSession_stale reason hsession (Ne.symm hsame)]
            exact ⟨[], .stale hsession rfl (Ne.symm hsame), (List.append_nil _).symm⟩

end Turn

namespace Task

theorem refreshIfNeeded_starts (task minValidity : Nat) :
    ∃ facts, Starts setup turn.system task (.refreshIfNeeded minValidity) facts
        (refreshIfNeeded setup task minValidity turn).system ∧
      (refreshIfNeeded setup task minValidity turn).facts = turn.facts ++ facts := by
  unfold refreshIfNeeded
  cases hcandidate : turn.system.candidate minValidity with
  | noSession =>
      exact ⟨[], .unrefreshed (by rw [hcandidate]; rfl), (List.append_nil _).symm⟩
  | fresh => exact ⟨[], .unrefreshed (by rw [hcandidate]; rfl), (List.append_nil _).symm⟩
  | unusable generation =>
      exact ⟨[], .unrefreshed (by rw [hcandidate]; rfl), (List.append_nil _).symm⟩
  | renewal renewal =>
      obtain ⟨facts, hasks, hfacts⟩ := turn.askRefresh_asks setup renewal
      rcases hask : turn.askRefresh setup renewal with ⟨asked, _ | renewed⟩
      all_goals
        rw [hask] at hasks hfacts
        simp only [hask]
      · exact ⟨facts, .refreshing hcandidate hasks, hfacts⟩
      · exact ⟨facts, .refreshed hcandidate hasks, hfacts⟩

theorem logout_eq (task : Nat) :
    logout setup task turn = (turn.endSession setup .userRequested none).1.update
      (·.setTask task (farewellPhase (turn.endSession setup .userRequested none).2)) := by
  unfold logout Turn.endSession Turn.beginEnding
  rcases turn.takeSession .userRequested none with ⟨left, _ | ending⟩
  · rfl
  · simp only
    rcases left.askEnding setup ending with ⟨asked, _ | result⟩ <;> rfl

theorem call_starts (task : Nat) (operation : Operation) (params : Params) :
    ∃ facts, Starts setup turn.system task (.call operation params) facts
        (call setup task operation params turn).system ∧
      (call setup task operation params turn).facts = turn.facts ++ facts := by
  cases hcontext : setup.client.context operation params with
  | error failure =>
      simp only [call, hcontext]
      exact ⟨[], .uncalled, (List.append_nil _).symm⟩
  | ok context =>
      refine ⟨_, ?_, call_facts setup task turn hcontext⟩
      simp only [call, hcontext]
      cases (Pipeline.inward turn.system.currentToken setup.client.layers context).course with
      | answer reply => exact .answered
      | proceed changed => exact .calling

theorem authenticate_starts (task : Nat) (credentials : Credentials) :
    ∃ facts, Starts setup turn.system task (.authenticate credentials) facts
        (authenticate setup task credentials turn).system ∧
      (authenticate setup task credentials turn).facts = turn.facts ++ facts := by
  unfold authenticate
  cases hvalid : turn.system.isAuthenticated with
  | true => exact ⟨[], .alreadyIn hvalid, by simp [finish]⟩
  | false =>
      cases hholder : turn.system.gate.holder with
      | none =>
          let gated := turn.update fun s => { s with gate := ⟨some task, s.gate.waiting⟩ }
          obtain ⟨facts, henters, hfacts⟩ := enterGate_enters setup gated task credentials
          exact ⟨facts, .enters hvalid hholder henters, hfacts⟩
      | some holder =>
          refine ⟨[], ?_, by simp⟩
          simp only [Bool.false_eq_true, if_false, Turn.update_system, hholder]
          exact .queues hvalid hholder

theorem start_starts (task : Nat) (job : Job) :
    ∃ facts, Starts setup turn.system task job facts (start setup task job turn).system ∧
      (start setup task job turn).facts = turn.facts ++ facts := by
  cases job with
  | authenticate credentials => exact authenticate_starts setup turn task credentials
  | refreshIfNeeded minValidity => exact refreshIfNeeded_starts setup turn task minValidity
  | call operation params => exact call_starts setup turn task operation params
  | logout =>
      obtain ⟨facts, hends, hfacts⟩ := turn.endSession_ends setup .userRequested none
      simp only [start, logout_eq]
      exact ⟨facts, .logout hends, hfacts⟩

theorem settle?_settles (task : Nat) {phase : TaskPhase} {reply : Reply} {after : Turn}
    (h : settle? setup task phase reply turn = some after) :
    ∃ facts, Settles setup turn.system task reply phase facts after.system ∧
      after.facts = turn.facts ++ facts := by
  cases phase with
  | ready | atGate | finished => cases h
  | loggingIn credentials =>
      cases h
      obtain ⟨facts, middle, result, hends, hfacts, hsystem⟩ := concludeLogin_ends turn task
        ((setup.identity.login credentials).conclude reply)
      rw [hsystem]
      exact ⟨facts, .login hends, hfacts⟩
  | refreshing renewal =>
      cases h
      obtain ⟨facts, hends, hfacts⟩ := turn.concludeRefresh_ends renewal
        ((setup.identity.refresh renewal.refreshToken).conclude reply)
      exact ⟨facts, .refresh hends, hfacts⟩
  | leaving ending =>
      cases h
      obtain ⟨hsystem, hfacts, -⟩ := turn.concludeEnding_ends ending
        ((setup.identity.logout ending.refreshToken).conclude reply)
      refine ⟨_, ?_, hfacts⟩
      simp only [finish, Turn.update_system, hsystem]
      exact .logout
  | calling entered since =>
      cases h
      exact ⟨_, .call, concludeCall_facts task _ entered reply turn⟩

end Task

namespace Loop

theorem stop_system (loop : Nat) :
    (stop loop turn).system = turn.system.stopLoop loop :=
  Turn.cancel_system _ loop

theorem stop_facts (loop : Nat) : (stop loop turn).facts = turn.facts :=
  Turn.cancel_facts _ loop

theorem concludeEnding_system (loop : Nat) (result : Except Failure Unit) :
    (concludeEnding loop result turn).system = turn.system.stopLoop loop := by
  cases result with
  | ok => exact stop_system turn loop
  | error failure => exact stop_system _ loop

theorem concludeEnding_facts (loop : Nat) (result : Except Failure Unit) :
    (concludeEnding loop result turn).facts = turn.facts := by
  cases result with
  | ok => exact stop_facts turn loop
  | error failure => exact (stop_facts _ loop).trans (Turn.log_facts _ _ _ _)

/-- A loop goes on when the end of a session has got as far as it gets at once. -/
def part (loop : Nat) (farewell : Farewell) : Turn :=
  match farewell with
  | .kept => stop loop turn
  | .pending ending => turn.update (·.setLoop loop (.leaving ending))
  | .settled result => concludeEnding loop result turn

theorem part_system (loop : Nat) (farewell : Farewell) :
    (part turn loop farewell).system = turn.system.afterFarewell loop farewell := by
  cases farewell with
  | kept => exact stop_system turn loop
  | pending ending => rfl
  | settled result => exact concludeEnding_system turn loop result

theorem part_facts (loop : Nat) (farewell : Farewell) :
    (part turn loop farewell).facts = turn.facts := by
  cases farewell with
  | kept => exact stop_facts turn loop
  | pending ending => rfl
  | settled result => exact concludeEnding_facts turn loop result

theorem giveUp_eq (loop generation : Nat) (failure : Failure) :
    giveUp setup loop generation failure turn =
      part ((turn.warnFailed generation failure).endSession setup .refreshFailed
          (some generation)).1 loop
        ((turn.warnFailed generation failure).endSession setup .refreshFailed
          (some generation)).2 := by
  simp only [giveUp, Turn.endSession, Turn.beginEnding, Turn.warnFailed]
  rcases (turn.log .warn "token refresh failed, logging out" [Turn.failureField failure,
    Turn.generationField generation]).takeSession .refreshFailed (some generation) with
      ⟨left, _ | ending⟩
  · rfl
  · simp only
    rcases left.askEnding setup ending with ⟨asked, _ | result⟩ <;> rfl

theorem giveUp_ends (loop generation : Nat) (failure : Failure) :
    ∃ facts farewell after,
      EndsSession setup turn.system .refreshFailed (some generation) facts after farewell ∧
      (giveUp setup loop generation failure turn).system = after.afterFarewell loop farewell ∧
      (giveUp setup loop generation failure turn).facts = turn.facts ++ facts := by
  obtain ⟨facts, hends, hfacts⟩ :=
    (turn.warnFailed generation failure).endSession_ends setup .refreshFailed (some generation)
  rw [giveUp_eq, part_system, part_facts, hfacts, Turn.warnFailed_facts]
  exact ⟨facts, _, _, hends, rfl, rfl⟩

theorem concludeRefresh_goesOn (loop due : Nat) (renewal : Renewal) (renewed : Renewed) :
    ∃ facts, GoesOn setup turn.system loop due renewal renewed facts
        (concludeRefresh setup loop due renewal renewed turn).system ∧
      (concludeRefresh setup loop due renewal renewed turn).facts = turn.facts ++ facts := by
  cases renewed with
  | stored => exact ⟨[], .stored, (List.append_nil _).symm⟩
  | discarded => exact ⟨[], .discarded, (List.append_nil _).symm⟩
  | broken fault => exact ⟨[], .broken, (List.append_nil _).symm⟩
  | failed failure =>
      obtain ⟨facts, farewell, after, hends, hsystem, hfacts⟩ :=
        giveUp_ends setup turn loop renewal.generation failure
      refine ⟨facts, ?_, hfacts⟩
      rw [concludeRefresh, hsystem]
      exact .failed hends

theorem tick_ticks (loop due minValidity : Nat) :
    ∃ facts, Ticks setup turn.system loop due minValidity facts
        (tick setup loop due minValidity turn).system ∧
      (tick setup loop due minValidity turn).facts = turn.facts ++ facts := by
  unfold tick
  cases hclosed : turn.system.closed with
  | true =>
      simp only [if_true, stop_system, stop_facts]
      exact ⟨[], .closed hclosed, (List.append_nil _).symm⟩
  | false =>
      simp only [Bool.false_eq_true, if_false]
      cases hcandidate : turn.system.candidate minValidity with
      | noSession =>
          simp only [stop_system, stop_facts, Turn.log_system, Turn.log_facts]
          exact ⟨[], .noSession hcandidate, (List.append_nil _).symm⟩
      | fresh => exact ⟨[], .fresh hcandidate, (List.append_nil _).symm⟩
      | unusable generation =>
          obtain ⟨facts, farewell, after, hends, hsystem, hfacts⟩ :=
            giveUp_ends setup turn loop generation refreshUnavailable
          refine ⟨facts, ?_, hfacts⟩
          rw [hsystem]
          exact .unusable hcandidate hends
      | renewal renewal =>
          obtain ⟨facts, hasks, hfacts⟩ := turn.askRefresh_asks setup renewal
          rcases hask : turn.askRefresh setup renewal with ⟨asked, _ | renewed⟩
          all_goals
            rw [hask] at hasks hfacts
            simp only [hask]
          · exact ⟨facts, .refreshing hcandidate hasks, hfacts⟩
          · obtain ⟨more, hgoes, hmore⟩ :=
              concludeRefresh_goesOn setup asked loop due renewal renewed
            refine ⟨facts ++ more, .refreshed hcandidate hasks hgoes, ?_⟩
            rw [hmore, ← List.append_assoc]
            exact congrArg (· ++ more) hfacts

theorem settle?_settles (loop : Nat) {phase : LoopPhase} {reply : Reply} {after : Turn}
    (h : settle? setup loop phase reply turn = some after) :
    ∃ facts, LoopSettles setup turn.system loop reply phase facts after.system ∧
      after.facts = turn.facts ++ facts := by
  cases phase with
  | starting | waiting | ended => cases h
  | refreshing due renewal =>
      cases h
      let settlement := (setup.identity.refresh renewal.refreshToken).conclude reply
      obtain ⟨facts, hends, hfacts⟩ := turn.concludeRefresh_ends renewal settlement
      obtain ⟨more, hgoes, hmore⟩ := concludeRefresh_goesOn setup
        (turn.concludeRefresh renewal settlement).1 loop due renewal
          (turn.concludeRefresh renewal settlement).2
      refine ⟨facts ++ more, .refresh hends hgoes, ?_⟩
      rw [← List.append_assoc, ← hfacts]
      exact hmore
  | leaving ending =>
      cases h
      obtain ⟨hsystem, hfacts, -⟩ := turn.concludeEnding_ends ending
        ((setup.identity.logout ending.refreshToken).conclude reply)
      refine ⟨_, ?_, (concludeEnding_facts _ loop _).trans hfacts⟩
      rw [concludeEnding_system, hsystem]
      exact .logout

end Loop

end Stretches

/-! ## Moves -/

namespace System

variable {setup : Setup} {system : System} {turn : Turn}

theorem schedule_system (system : System) (interval minValidity : Nat) :
    (system.schedule interval minValidity).system =
        { system.register (some system.loops.length) with
          loops := (system.register (some system.loops.length)).loops ++
            [⟨max interval 1, minValidity, false, .starting⟩] } ∧
      (system.schedule interval minValidity).facts = [] := by
  have hregistered := Turn.register_system (.start system) (some system.loops.length)
  constructor
  · simp only [schedule, Turn.log_system, Turn.update_system, hregistered, Turn.start_system]
  · simp [schedule]

/-- Up to the closing of an unused provider every move does what is listed. -/
theorem move?_does {move : Move} (h : system.move? setup move = some turn) :
    Does setup system move turn.facts turn.system := by
  cases move with
  | spawn job =>
      simp only [move?, Option.ite_none_right_eq_some, Option.some.injEq] at h
      rw [← h.2]
      exact .spawn h.1
  | start task =>
      simp only [move?] at h
      cases hphase : system.tasks[task]? with
      | none => simp [hphase] at h
      | some phase =>
          cases phase with
          | ready job =>
              simp only [hphase, Option.some.injEq] at h
              obtain ⟨facts, hstarts, hfacts⟩ :=
                Task.start_starts setup (.start system) task job
              rw [← h, hfacts]
              exact .start hphase hstarts
          | _ => simp [hphase] at h
  | passGate task =>
      simp only [move?] at h
      split at h
      · next credentials hphase =>
          simp only [Option.ite_none_right_eq_some, Option.some.injEq] at h
          obtain ⟨facts, henters, hfacts⟩ :=
            Task.enterGate_enters setup (.start system) task credentials
          rw [← h.2, hfacts]
          exact .passGate hphase h.1 henters
      · cases h
  | settle task reply =>
      simp only [move?] at h
      cases hphase : system.tasks[task]? with
      | none => simp [hphase] at h
      | some phase =>
          simp only [hphase] at h
          obtain ⟨facts, hsettles, hfacts⟩ := Task.settle?_settles setup _ task h
          rw [hfacts]
          exact .settle hphase hsettles
  | schedule interval minValidity =>
      simp only [move?, Option.ite_none_right_eq_some, Option.some.injEq] at h
      obtain ⟨hsystem, hfacts⟩ := system.schedule_system interval minValidity
      rw [← h.2, hsystem, hfacts]
      exact .schedule h.1
  | startLoop loop =>
      simp only [move?] at h
      split at h
      · next hloop => cases h; exact .startLoop hloop
      · cases h
  | tick loop =>
      simp only [move?] at h
      split at h
      · next interval minValidity cancelled due hloop =>
          simp only [Option.ite_none_right_eq_some, Option.some.injEq] at h
          obtain ⟨facts, hticks, hfacts⟩ := Loop.tick_ticks setup (.start system) loop
            (Loop.nextDue interval due system.now) minValidity
          rw [← h.2, hfacts]
          exact .tick hloop h.1 hticks
      · cases h
  | stopLoop loop =>
      simp only [move?] at h
      split at h
      · next hloop =>
          cases h
          rw [Loop.stop_system, Loop.stop_facts]
          exact .stopLoop hloop
      · cases h
  | settleLoop loop reply =>
      simp only [move?] at h
      cases hloop : system.loops[loop]? with
      | none => simp [hloop] at h
      | some l =>
          simp only [hloop] at h
          obtain ⟨facts, hsettles, hfacts⟩ := Loop.settle?_settles setup _ loop h
          rw [hfacts]
          exact .settleLoop (by rw [loopPhase?, hloop]; rfl) hsettles
  | cancel loop =>
      simp only [move?, Option.ite_none_right_eq_some, Option.some.injEq] at h
      rw [← h.2, Turn.cancel_system, Turn.cancel_facts]
      exact .cancel h.1
  | release =>
      simp only [move?, Option.ite_none_right_eq_some, Option.some.injEq] at h
      rw [← h.2]
      exact .release h.1
  | advance span =>
      cases h
      exact .advance

/-- Every move does what is listed; then an unused provider is closed. -/
theorem step?_does {move : Move} (h : system.step? setup move = some turn) :
    ∃ after, Does setup system move turn.facts after ∧ turn.system = after.closeUnused := by
  obtain ⟨before, hmove, rfl⟩ := Option.map_eq_some_iff.1 h
  refine ⟨before.system, ?_, Turn.closeUnused_system before⟩
  rw [before.closeUnused_keeps.2.1]
  exact move?_does hmove

end System

end AdminAccess
