import AdminAccess.Proofs.Pipeline
import AdminAccess.Proofs.Session.Stretch

/-! # What tasks can do

The stretches of a task one by one.  Logins, refreshes and logouts are chains of acts; an admin
call changes nothing but the phase of its task and hands requests to the transport.
-/

namespace AdminAccess

variable {guard : Ledger.Guard}

theorem reads_of_candidate {system : System} {minValidity : Nat} {renewal : Renewal}
    (h : system.candidate minValidity = .renewal renewal) : system.ledger.Reads renewal := by
  unfold System.candidate at h
  cases hsession : system.session with
  | none => simp [hsession] at h
  | some session =>
      cases htoken : session.refreshToken with
      | none =>
          simp only [hsession, htoken] at h
          split at h <;> cases h
      | some token =>
          simp only [hsession, htoken] at h
          split at h
          · cases h
          · split at h <;> cases h
            exact ⟨session, hsession, rfl, htoken⟩

theorem holds_of_candidate {system : System} {minValidity generation : Nat}
    (h : system.candidate minValidity = .unusable generation) :
    system.ledger.Holds generation := by
  unfold System.candidate at h
  cases hsession : system.session with
  | none => simp [hsession] at h
  | some session =>
      refine ⟨session, hsession, ?_⟩
      cases htoken : session.refreshToken with
      | none =>
          simp only [hsession, htoken] at h
          split at h <;> cases h
          rfl
      | some token =>
          simp only [hsession, htoken] at h
          split at h
          · cases h
          · split at h <;> cases h
            rfl

theorem none_of_candidate {system : System} {minValidity : Nat}
    (h : system.candidate minValidity = .noSession) : system.session = none := by
  unfold System.candidate at h
  cases hsession : system.session with
  | none => rfl
  | some session =>
      simp only [hsession] at h
      repeat' split at h
      all_goals cases h

theorem Ledger.Holds.generation_eq {ledger : Ledger} {generation : Nat}
    (h : ledger.Holds generation) {session : Session} (hsession : ledger.session = some session) :
    session.generation = generation := by
  obtain ⟨held, hheld, hgeneration⟩ := h
  rw [hheld] at hsession
  cases hsession
  exact hgeneration

theorem Ledger.Reads.holds {ledger : Ledger} {renewal : Renewal} (h : ledger.Reads renewal) :
    ledger.Holds renewal.generation := by
  obtain ⟨session, hsession, hgeneration, -⟩ := h
  exact ⟨session, hsession, hgeneration⟩

namespace Task

variable {layers : List (Layer (Option String))}

open Turn (Leads)

/-! ## Logins -/

theorem finish_leads (task : Nat) (result : TaskResult) (turn : Turn) :
    Leads layers guard turn (finish task result turn) :=
  Turn.setTask_leads turn task trivial

theorem leaveGate_leads (task : Nat) (result : TaskResult) (turn : Turn) :
    Leads layers guard turn (leaveGate task result turn) :=
  (Turn.openGate_leads turn).trans (finish_leads task result _)

theorem concludeLogin_refused (task : Nat) {settlement : Settlement TokenResponse}
    {failure : Failure} (turn : Turn) (hresult : settlement.result = .error failure) :
    concludeLogin task settlement turn =
      leaveGate task (.failed failure)
        ((((turn.logAll settlement.logs).log .warn "authentication failed"
          [Turn.failureField failure]).update fun s => { s with session := none }).emit
            (.authenticationFailed failure.message)) := by
  simp [concludeLogin, hresult]

theorem concludeLogin_broken (task : Nat) {settlement : Settlement TokenResponse}
    {response : TokenResponse} {fault : ClockFault} (turn : Turn)
    (hresult : settlement.result = .ok response)
    (hnew : Session.ofResponse response turn.system.now turn.system.nextGeneration =
      .error fault) :
    concludeLogin task settlement turn =
      leaveGate task (.broken fault) ((turn.logAll settlement.logs).update fun s =>
        { s with nextGeneration := turn.system.nextGeneration + 1 }) := by
  simp [concludeLogin, hresult, hnew]

theorem concludeLogin_opened (task : Nat) {settlement : Settlement TokenResponse}
    {response : TokenResponse} {session : Session} (turn : Turn)
    (hresult : settlement.result = .ok response)
    (hnew : Session.ofResponse response turn.system.now turn.system.nextGeneration =
      .ok session) :
    concludeLogin task settlement turn =
      leaveGate task (.done .authenticated)
        ((((((turn.logAll settlement.logs).update fun s =>
          { s with nextGeneration := turn.system.nextGeneration + 1 }).update fun s =>
            { s with session := some session }).record (.opened session)).log .info
              "authenticated" [Turn.generationField turn.system.nextGeneration]).emit
                .authenticated) := by
  simp [concludeLogin, hresult, hnew]

theorem concludeLogin_leads (task : Nat) (settlement : Settlement TokenResponse) (turn : Turn)
    (hlogin : guard.mayLogin) :
    Leads layers guard turn (concludeLogin task settlement turn) := by
  cases hresult : settlement.result with
  | error failure =>
      rw [concludeLogin_refused task turn hresult]
      refine Leads.trans ?_ (leaveGate_leads _ _ _)
      exact .of_act (.refuse turn.system.ledger failure.message hlogin) (by simp) rfl fun _ => rfl
  | ok response =>
      cases hnew : Session.ofResponse response turn.system.now turn.system.nextGeneration with
      | error fault =>
          rw [concludeLogin_broken task turn hresult hnew]
          refine Leads.trans ?_ (leaveGate_leads _ _ _)
          exact .of_act (.waste turn.system.ledger hlogin hnew) (by simp) rfl fun _ => rfl
      | ok session =>
          rw [concludeLogin_opened task turn hresult hnew]
          refine Leads.trans ?_ (leaveGate_leads _ _ _)
          exact .of_act (.arrive turn.system.ledger hlogin hnew) (by simp [Happening.isFact]) rfl
            fun _ => rfl

theorem mayAsk_login {system : System} (credentials : Credentials)
    (hexpired : system.isAuthenticated = false) :
    system.ledger.MayAsk (.login credentials) := by
  intro session hsession
  have hsome : system.session = some session := hsession
  show session.isExpired system.now = true
  simpa [System.isAuthenticated, hsome] using hexpired

theorem enterGate_leads (setup : Setup) (task : Nat) (credentials : Credentials) (turn : Turn)
    (hlogin : guard.mayLogin) :
    Leads layers guard turn (enterGate setup task credentials turn) := by
  unfold enterGate
  cases hvalid : turn.system.isAuthenticated with
  | true => exact (Turn.log_leads _ _ _ _).trans (leaveGate_leads _ _ _)
  | false =>
      have hasked : Leads layers guard turn
          (turn.exchange (.login credentials) (setup.identity.login credentials)).1 :=
        Turn.exchange_leads _ _ (mayAsk_login credentials hvalid)
      rcases hexchange : turn.exchange (.login credentials)
        (setup.identity.login credentials) with ⟨asked, _ | settlement⟩
      all_goals rw [hexchange] at hasked
      · exact hasked.trans (Turn.setTask_leads _ _ trivial)
      · exact hasked.trans (concludeLogin_leads _ _ _ hlogin)

theorem authenticate_leads (setup : Setup) (task : Nat) (credentials : Credentials)
    (turn : Turn) (hlogin : guard.mayLogin) :
    Leads layers guard turn (authenticate setup task credentials turn) := by
  unfold authenticate
  cases turn.system.isAuthenticated with
  | true => exact (Turn.log_leads _ _ _ _).trans (finish_leads _ _ _)
  | false =>
      cases turn.system.gate.holder with
      | none =>
          have hgate : Leads layers guard turn
              (turn.update fun s => { s with gate := ⟨some task, s.gate.waiting⟩ }) :=
            .of_quiet rfl rfl rfl fun _ => rfl
          exact hgate.trans (enterGate_leads _ _ _ _ hlogin)
      | some holder =>
          have hgate : Leads layers guard turn (turn.update fun s =>
              { s with gate := ⟨s.gate.holder, s.gate.waiting ++ [task]⟩ }) :=
            .of_quiet rfl rfl rfl fun _ => rfl
          exact hgate.trans (Turn.setTask_leads _ task trivial)

/-! ## Refreshes and logouts -/

theorem refreshIfNeeded_leads (setup : Setup) (task minValidity : Nat) (turn : Turn)
    (hhand : ∀ renewal, turn.system.candidate minValidity = .renewal renewal →
      guard.inHand renewal) :
    Leads layers guard turn (refreshIfNeeded setup task minValidity turn) := by
  unfold refreshIfNeeded
  cases hcandidate : turn.system.candidate minValidity with
  | noSession => exact finish_leads _ _ _
  | fresh => exact finish_leads _ _ _
  | unusable generation => exact finish_leads _ _ _
  | renewal renewal =>
      have hrenewal := hhand renewal hcandidate
      have hasked : Leads layers guard turn (turn.askRefresh setup renewal).1 :=
        Turn.askRefresh_leads setup turn hrenewal (reads_of_candidate hcandidate)
      rcases hrefresh : turn.askRefresh setup renewal with ⟨asked, _ | renewed⟩
      all_goals
        rw [hrefresh] at hasked
        simp only [hrefresh]
      · exact hasked.trans (Turn.setTask_leads _ _ hrenewal)
      · exact hasked.trans (finish_leads _ _ _)

theorem logout_leads (setup : Setup) (task : Nat) (turn : Turn)
    (hend : ∀ generation, guard.mayTake .userRequested generation) :
    Leads layers guard turn (logout setup task turn) := by
  have htaken : Leads layers guard turn (turn.takeSession .userRequested none).1 :=
    Turn.takeSession_leads _ fun generation _ => hend generation
  unfold logout
  rcases htake : turn.takeSession .userRequested none with ⟨left, _ | ending⟩
  all_goals rw [htake] at htaken
  · exact htaken.trans (finish_leads _ _ _)
  · have hsession : left.system.session = none := by
      have := Turn.takeSession_session (congrArg Prod.snd htake)
      rwa [htake] at this
    have hasked : Leads layers guard left (left.askEnding setup ending).1 :=
      Turn.askEnding_leads setup left ending hsession
    rcases hask : left.askEnding setup ending with ⟨asked, _ | result⟩
    all_goals
      rw [hask] at hasked
      simp only [hask]
    · exact htaken.trans (hasked.trans (Turn.setTask_leads _ _ trivial))
    · exact htaken.trans (hasked.trans (finish_leads _ _ _))

/-! ## Admin calls -/

theorem concludeCall_system (task elapsed : Nat) (entered : Pipeline.Entered (Option String))
    (reply : Reply) (turn : Turn) :
    (concludeCall task elapsed entered reply turn).system = turn.system.setTask task
      (.finished (callResult (Pipeline.outward elapsed entered reply).2)) := rfl

theorem concludeCall_facts (task elapsed : Nat) (entered : Pipeline.Entered (Option String))
    (reply : Reply) (turn : Turn) :
    (concludeCall task elapsed entered reply turn).facts =
      turn.facts ++ (Pipeline.outward elapsed entered reply).1.requests.map .called := by
  simp [concludeCall, finish, Turn.follow_facts]

theorem call_system (setup : Setup) (task : Nat) (operation : Operation) (params : Params)
    (turn : Turn) :
    ∃ phase, (call setup task operation params turn).system = turn.system.setTask task phase ∧
      phase.IsFresh setup.client.layers guard.inHand := by
  cases hcontext : setup.client.context operation params with
  | error failure =>
      exact ⟨.finished (.failed failure), by simp [call, hcontext, finish], trivial⟩
  | ok context =>
      have hentered := Pipeline.mem_of_entered turn.system.currentToken setup.client.layers context
      cases hcourse : (Pipeline.inward turn.system.currentToken setup.client.layers
        context).course with
      | answer reply =>
          exact ⟨.finished _, by simp only [call, hcontext, hcourse]; rfl, trivial⟩
      | proceed changed =>
          exact ⟨.calling _ _, by simp only [call, hcontext, hcourse]; rfl, hentered⟩

theorem call_facts (setup : Setup) (task : Nat) {operation : Operation} {params : Params}
    {context : CallContext} (turn : Turn)
    (hcontext : setup.client.context operation params = .ok context) :
    (call setup task operation params turn).facts = turn.facts ++
      (Pipeline.inward turn.system.currentToken setup.client.layers
        context).requests.map .called := by
  cases hcourse : (Pipeline.inward turn.system.currentToken setup.client.layers
    context).course with
  | answer reply =>
      simp [call, hcontext, hcourse, concludeCall_facts, Turn.follow_facts,
        Pipeline.Passage.requests]
  | proceed changed =>
      simp [call, hcontext, hcourse, Turn.follow_facts, Pipeline.Passage.requests,
        Happening.isFact]

theorem concludeCall_leads (task elapsed : Nat) (entered : Pipeline.Entered (Option String))
    (reply : Reply) (turn : Turn)
    (hcall : ∀ request ∈ (Pipeline.outward elapsed entered reply).1.requests,
      guard.mayCall request) :
    Leads layers guard turn (concludeCall task elapsed entered reply turn) :=
  .of_calls hcall (concludeCall_facts _ _ _ _ _) (concludeCall_system _ _ _ _ _) trivial

theorem call_leads (setup : Setup) (task : Nat) (operation : Operation) (params : Params)
    (turn : Turn)
    (hcall : ∀ context, setup.client.context operation params = .ok context →
      ∀ request ∈ (Pipeline.inward turn.system.currentToken setup.client.layers
        context).requests, guard.mayCall request) :
    Leads setup.client.layers guard turn (call setup task operation params turn) := by
  cases hcontext : setup.client.context operation params with
  | error failure =>
      simp only [call, hcontext]
      exact finish_leads _ _ _
  | ok context =>
      obtain ⟨phase, hsystem, hfresh⟩ := call_system setup task operation params turn
      exact .of_calls (hcall context hcontext) (call_facts setup task turn hcontext) hsystem hfresh

/-! ## Beginning and going on -/

theorem start_leads (setup : Setup) (task : Nat) (job : Job) (turn : Turn)
    (hlogin : ∀ credentials, job = .authenticate credentials → guard.mayLogin)
    (hend : job = .logout → ∀ generation, guard.mayTake .userRequested generation)
    (hhand : ∀ minValidity renewal, job = .refreshIfNeeded minValidity →
      turn.system.candidate minValidity = .renewal renewal → guard.inHand renewal)
    (hcall : ∀ operation params context, job = .call operation params →
      setup.client.context operation params = .ok context →
      ∀ request ∈ (Pipeline.inward turn.system.currentToken setup.client.layers
        context).requests, guard.mayCall request) :
    Leads setup.client.layers guard turn (start setup task job turn) := by
  cases job with
  | authenticate credentials => exact authenticate_leads _ _ _ _ (hlogin credentials rfl)
  | refreshIfNeeded minValidity =>
      exact refreshIfNeeded_leads _ _ _ _ fun renewal => hhand minValidity renewal rfl
  | logout => exact logout_leads _ _ _ (hend rfl)
  | call operation params =>
      exact call_leads _ _ _ _ _ fun context hcontext => hcall _ _ context rfl hcontext

theorem settle?_leads (setup : Setup) (task : Nat) {phase : TaskPhase} (reply : Reply)
    {turn after : Turn} (h : settle? setup task phase reply turn = some after)
    (hlogin : ∀ credentials, phase = .loggingIn credentials → guard.mayLogin)
    (hhand : ∀ renewal, phase = .refreshing renewal → guard.inHand renewal)
    (hcall : ∀ entered since, phase = .calling entered since →
      ∀ request ∈ (Pipeline.outward (turn.system.now - since) entered reply).1.requests,
        guard.mayCall request) :
    Leads layers guard turn after := by
  cases phase with
  | ready | atGate | finished => cases h
  | loggingIn credentials =>
      cases h
      exact concludeLogin_leads _ _ _ (hlogin credentials rfl)
  | refreshing renewal =>
      cases h
      exact (Turn.concludeRefresh_leads _ _ (hhand renewal rfl)).trans (finish_leads _ _ _)
  | leaving ending =>
      cases h
      exact (Turn.concludeEnding_leads _ _ _).trans (finish_leads _ _ _)
  | calling entered since =>
      cases h
      exact concludeCall_leads _ _ _ _ _ (hcall entered since rfl)

end Task

end AdminAccess
