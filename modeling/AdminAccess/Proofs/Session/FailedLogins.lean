import AdminAccess.Proofs.Session.LoneLogin
import AdminAccess.Proofs.Session.Unexpired

/-! # Logins that fail

A login is asked for without a valid session, and when it fails the session is cleared, whatever it
is by then.  No other login comes between, but a refresh may: it may renew an expired session while
the login is in flight.  The failure of the login then loses a session that is valid, and nobody is
told.
-/

namespace AdminAccess

namespace System

/-- A login of a task has failed: there is no session, subscribers hear of the failure alone, and
nothing but a login is asked for. -/
structure Refuses (failure : Failure) (task : Nat) (facts : List Happening) (after : System) :
    Prop where
  session : after.session = none
  answered : after.taskPhase? task = some (.finished (.failed failure))
  told : facts = [.emitted (.authenticationFailed failure.message)] ∨
    ∃ credentials, facts =
      [.asked (.login credentials), .emitted (.authenticationFailed failure.message)]

/-- A valid session is still there, and so is its token. -/
def KeepsValid (system after : System) : Prop :=
  ∀ session, system.session = some session → session.isExpired system.now = false →
    after.session = some session ∧ after.currentToken = some session.accessToken

/-- A login of a task is under way after some moves; the facts have come about since it was asked
for. -/
inductive LoginUnderWay (setup : Setup) (task : Nat) (credentials : Credentials) :
    List Move → System → List Happening → Prop
  | asked {moves : List Move} {move : Move} {before first : Turn}
      (hrun : initial.run? setup moves = some before)
      (hvalid : before.system.isAuthenticated = false)
      (hstep : before.system.step? setup move = some first)
      (hasked : first.facts = [.asked (.login credentials)])
      (hphase : first.system.taskPhase? task = some (.loggingIn credentials)) :
      LoginUnderWay setup task credentials (moves ++ [move]) first.system []
  | waits {moves : List Move} {move : Move} {before last : Turn} {facts : List Happening}
      (hearlier : LoginUnderWay setup task credentials moves before.system facts)
      (hrun : initial.run? setup moves = some before)
      (hstep : before.system.step? setup move = some last)
      (hphase : last.system.taskPhase? task = some (.loggingIn credentials)) :
      LoginUnderWay setup task credentials (moves ++ [move]) last.system (facts ++ last.facts)

section Moves

variable {setup : Setup} {system after : System} {facts : List Happening} {task : Nat}
  {failure : Failure} {move : Move} {last : Turn} {credentials : Credentials}

/-! ## The failure -/

theorem LoginEnds.refuses {result : Except Failure TokenResponse} {ends : TaskResult}
    {old : TaskPhase} (h : LoginEnds system result facts after ends)
    (hresult : result = .error failure) (hphase : system.taskPhase? task = some old) :
    facts = [.emitted (.authenticationFailed failure.message)] ∧
      (after.openGate.setTask task (.finished ends)).session = none ∧
      (after.openGate.setTask task (.finished ends)).taskPhase? task =
        some (.finished (.failed failure)) := by
  have hkept : after.openGate.taskPhase? task = some old :=
    (after.openGate_taskPhase? task).trans ((h.sameDesk.taskPhase? task).trans hphase)
  cases h with
  | refused hrefused =>
      cases hrefused.symm.trans hresult
      exact ⟨rfl, openGate_session _, setTask_self hkept⟩
  | broken hanswered | opened hanswered => cases hanswered.symm.trans hresult

theorem EntersGate.refuses {settlement : Settlement TokenResponse} {old : TaskPhase}
    (h : EntersGate setup system task credentials facts after)
    (hvalid : system.isAuthenticated = false)
    (hsettled : (setup.identity.login credentials).settlement? = some settlement)
    (hresult : settlement.result = .error failure) (hphase : system.taskPhase? task = some old) :
    Refuses failure task facts after := by
  cases h with
  | already hother => rw [hvalid] at hother; cases hother
  | asked _ hpending => rw [hsettled] at hpending; cases hpending
  | settled _ hother hends =>
      cases hsettled.symm.trans hother
      obtain ⟨rfl, hsession, hanswered⟩ := hends.refuses hresult hphase
      exact ⟨hsession, hanswered, .inr ⟨credentials, rfl⟩⟩

/-- A login fails for a task that is waiting for it, or at once without a valid session. -/
theorem Does.refuses {result : Except Failure TokenResponse}
    (h : Does setup system move facts after) (hbrings : BringsLogin setup system move result)
    (hresult : result = .error failure) :
    ∃ task, Refuses failure task facts after ∧ (system.isAuthenticated = false ∨
      ∃ credentials, system.taskPhase? task = some (.loggingIn credentials)) := by
  cases hbrings with
  | @start task credentials settlement hready hvalid hfree hsettled =>
      refine ⟨task, ?_, .inl hvalid⟩
      cases h with
      | start hphase hstarts =>
          cases hready.symm.trans hphase
          cases hstarts with
          | alreadyIn hother => rw [hvalid] at hother; cases hother
          | queues _ hheld => rw [hfree] at hheld; cases hheld
          | enters _ _ henters => exact henters.refuses hvalid hsettled hresult hphase
  | @passGate task credentials settlement hwaits hvalid hadmitted hsettled =>
      refine ⟨task, ?_, .inl hvalid⟩
      cases h with
      | passGate hphase _ henters =>
          cases hwaits.symm.trans hphase
          exact henters.refuses hvalid hsettled hresult hphase
  | @settle task reply credentials hwaits =>
      refine ⟨task, ?_, .inr ⟨credentials, hwaits⟩⟩
      cases h with
      | settle hphase hsettles =>
          cases hwaits.symm.trans hphase
          cases hsettles with
          | login hends =>
              obtain ⟨htold, hsession, hanswered⟩ := hends.refuses hresult hphase
              exact ⟨hsession, hanswered, .inl htold⟩

theorem BringsLogin.step? {result : Except Failure TokenResponse}
    (h : BringsLogin setup system move result) :
    ∃ last, system.step? setup move = some last := by
  cases h with
  | start hready => exact step?_start setup hready
  | passGate hphase _ hadmitted => exact step?_passGate setup hphase hadmitted
  | settle hphase => exact step?_settle setup _ hphase rfl

theorem BringsLogin.refuses (hbrings : BringsLogin setup system move (.error failure)) :
    ∃ task last, system.step? setup move = some last ∧
      Refuses failure task last.facts last.system ∧ (system.isAuthenticated = false ∨
        ∃ credentials, system.taskPhase? task = some (.loggingIn credentials)) := by
  obtain ⟨last, hstep⟩ := hbrings.step?
  obtain ⟨after, hdoes, hclosed⟩ := step?_does hstep
  obtain ⟨task, hrefuses, hfound⟩ := hdoes.refuses hbrings rfl
  refine ⟨task, last, hstep, ⟨?_, ?_, hrefuses.told⟩, hfound⟩
  · rw [hclosed, closeUnused_session]
    exact hrefuses.session
  · rw [hclosed, closeUnused_taskPhase?]
    exact hrefuses.answered

/-! ## While a login is under way -/

/-- Nobody else logs in while a task waits for its login. -/
theorem Does.not_opened (h : Does setup system move facts after) (horderly : system.Orderly)
    (hlogs : system.LogsIn move)
    (hbefore : system.taskPhase? task = some (.loggingIn credentials))
    (hafter : after.taskPhase? task = some (.loggingIn credentials)) (session : Session) :
    .opened session ∉ facts := by
  have hholder := horderly.holds task credentials hbefore
  intro hmem
  cases hlogs with
  | start hready =>
      cases h with
      | start hphase hstarts =>
          cases hready.symm.trans hphase
          cases hstarts with
          | alreadyIn | queues => cases hmem
          | enters _ hfree => rw [hholder] at hfree; cases hfree
  | passGate =>
      cases h with
      | passGate hphase hadmitted =>
          cases hholder.symm.trans hadmitted
          rw [hbefore] at hphase
          cases hphase
  | @settle other others reply hwaits =>
      cases hholder.symm.trans (horderly.holds other others hwaits)
      cases h with
      | settle hphase hsettles =>
          cases hwaits.symm.trans hphase
          cases hsettles with
          | @login _ _ middle _ hends =>
              have hkept : middle.openGate.taskPhase? task = some (.loggingIn others) :=
                (middle.openGate_taskPhase? task).trans
                  ((hends.sameDesk.taskPhase? task).trans hwaits)
              rw [setTask_self hkept] at hafter
              cases hafter

theorem step?_not_opened (hstep : system.step? setup move = some last)
    (horderly : system.Orderly)
    (hbefore : system.taskPhase? task = some (.loggingIn credentials))
    (hafter : last.system.taskPhase? task = some (.loggingIn credentials)) (session : Session) :
    .opened session ∉ last.facts := by
  obtain ⟨after, hdoes, hclosed⟩ := step?_does hstep
  intro hmem
  have hlogs : system.LogsIn move := (step?_acts hstep).mayLogin_of_opened hmem
  rw [hclosed, closeUnused_taskPhase?] at hafter
  exact hdoes.not_opened horderly hlogs hbefore hafter session hmem

theorem LoginUnderWay.phase {moves : List Move}
    (h : LoginUnderWay setup task credentials moves system facts) :
    system.taskPhase? task = some (.loggingIn credentials) := by
  cases h with
  | asked _ _ _ _ hphase => exact hphase
  | waits _ _ _ hphase => exact hphase

/-- A session that was valid has been so before, if it was there. -/
theorem isExpired_mono {session : Session} {before later : Nat} (hle : before ≤ later)
    (h : session.isExpired later = false) : session.isExpired before = false := by
  rw [Session.isExpired, decide_eq_false_iff_not] at h ⊢
  omega

/-- A session that is valid while a login is under way has been renewed since it was asked
for. -/
theorem LoginUnderWay.renewed {moves : List Move} {session : Session}
    (h : LoginUnderWay setup task credentials moves system facts)
    (hsession : system.session = some session) (hlives : session.isExpired system.now = false) :
    .renewed session ∈ facts := by
  induction h with
  | @asked moves move before first hrun hvalid hstep hasked hphase =>
      have hacts := step?_acts hstep
      have hnow : before.system.now ≤ first.system.now := hacts.now_le
      obtain hbefore | hopened | hrenewed := hacts.session_source hsession
      · have hheld : before.system.session = some session := hbefore
        rw [authenticated_of_session hheld (isExpired_mono hnow hlives)] at hvalid
        cases hvalid
      · simp [hasked] at hopened
      · simp [hasked] at hrenewed
  | @waits moves move before last facts hearlier hrun hstep hphase ih =>
      have hacts := step?_acts hstep
      have horderly := run?_orderly hrun initial_orderly
      have hnow : before.system.now ≤ last.system.now := hacts.now_le
      obtain hbefore | hopened | hrenewed := hacts.session_source hsession
      · exact List.mem_append_left _ (ih hbefore (isExpired_mono hnow hlives))
      · exact absurd hopened (step?_not_opened hstep horderly hearlier.phase hphase session)
      · exact List.mem_append_right _ hrenewed

/-- Every login in flight has been asked for without a valid session, and is under way since. -/
theorem run?_loginUnderWay {moves : List Move} {turn : Turn}
    (hrun : initial.run? setup moves = some turn)
    (hphase : turn.system.taskPhase? task = some (.loggingIn credentials)) :
    ∃ facts, LoginUnderWay setup task credentials moves turn.system facts := by
  refine run?_induction (motive := fun moves system =>
    system.taskPhase? task = some (.loggingIn credentials) →
      ∃ facts, LoginUnderWay setup task credentials moves system facts) ?_ ?_ hrun hphase
  · intro hnone
    simp [initial, taskPhase?] at hnone
  · intro moves before move last hbefore ih hstep hphase
    obtain hearlier | ⟨hvalid, hasked⟩ := step?_earned hstep hphase
    · obtain ⟨facts, hunderWay⟩ := ih hearlier
      exact ⟨_, .waits hunderWay hbefore hstep hphase⟩
    · exact ⟨[], .asked hbefore hvalid hstep hasked hphase⟩

end Moves

/-! ## Runs -/

/-- A login that fails answers its task with the failure, tells subscribers of nothing else, asks
for no logout, and leaves no session.  It spares the session, if it is valid, just when no session
that has been renewed while the login was under way is there and still valid: without a refresh in
between there is no valid session to lose, and with one it is lost. -/
theorem run?_failed_login_spares_unless_renewed {setup : Setup} {moves : List Move} {turn : Turn}
    {move : Move} {failure : Failure} (hrun : initial.run? setup moves = some turn)
    (hbrings : BringsLogin setup turn.system move (.error failure)) :
    ∃ task last, turn.system.step? setup move = some last ∧
      Refuses failure task last.facts last.system ∧
      (KeepsValid turn.system last.system ↔ ∀ credentials facts session,
        LoginUnderWay setup task credentials moves turn.system facts →
        .renewed session ∈ facts → turn.system.session = some session →
        session.isExpired turn.system.now = true) := by
  obtain ⟨task, last, hstep, hrefuses, hfound⟩ := hbrings.refuses
  refine ⟨task, last, hstep, hrefuses, fun hkeeps => ?_, fun hexpired => ?_⟩
  · intro credentials facts session hunderWay hrenewed hsession
    cases hlives : session.isExpired turn.system.now with
    | true => rfl
    | false =>
        obtain ⟨hkept, -⟩ := hkeeps session hsession hlives
        rw [hrefuses.session] at hkept
        cases hkept
  · intro session hsession hlives
    exfalso
    obtain hvalid | ⟨credentials, hphase⟩ := hfound
    · rw [authenticated_of_session hsession hlives] at hvalid
      cases hvalid
    · obtain ⟨facts, hunderWay⟩ := run?_loginUnderWay hrun hphase
      have hrenewed := hunderWay.renewed hsession hlives
      rw [hexpired credentials facts session hunderWay hrenewed hsession] at hlives
      cases hlives

/-! ## A refresh during a login -/

/-- A move of a run that is made of logins, refreshes, loops and time. -/
def OfRenewals : Move → Prop
  | .spawn (.authenticate _) | .spawn (.refreshIfNeeded _) => True
  | .start _ | .passGate _ | .settle _ _ | .advance _ => True
  | .schedule _ _ | .startLoop _ | .tick _ | .stopLoop _ | .settleLoop _ _ => True
  | _ => False

def expiredDuringLogin : List Move :=
  loggedIn ++ [.advance 60000, .spawn (.authenticate (.authorizationCode "code")), .start 1]

def renewedDuringLogin : List Move :=
  expiredDuringLogin ++ [.spawn (.refreshIfNeeded 1), .start 2, .settle 2 (.ok default)]

/-- The second login fails. -/
theorem renewedDuringLogin_fails :
    ∃ turn, initial.run? (.standard .rotating "http://admin") renewedDuringLogin = some turn ∧
      turn.system.session = some ⟨"access-1", some "refresh-1", 120000, none, 0⟩ ∧
      turn.system.now = 60000 ∧
      BringsLogin (.standard .rotating "http://admin") turn.system (.settle 1 (.error .timeout))
        (.error .timeout) := by
  obtain ⟨turn, hrun, hsession, hnow, hphase⟩ : ∃ turn,
      initial.run? (.standard .rotating "http://admin") renewedDuringLogin = some turn ∧
      turn.system.session = some ⟨"access-1", some "refresh-1", 120000, none, 0⟩ ∧
      turn.system.now = 60000 ∧
      turn.system.taskPhase? 1 = some (.loggingIn (.authorizationCode "code")) :=
    ⟨_, rfl, rfl, rfl, rfl⟩
  exact ⟨turn, hrun, hsession, hnow, .settle hphase⟩

/-- The renewed session is valid, and lost without a word about it; one that has expired is not
missed. -/
theorem renewedDuringLogin_loses :
    (∃ turn task last,
      initial.run? (.standard .rotating "http://admin") renewedDuringLogin = some turn ∧
      turn.system.isAuthenticated = true ∧
      turn.system.step? (.standard .rotating "http://admin") (.settle 1 (.error .timeout)) =
        some last ∧
      Refuses .timeout task last.facts last.system ∧ ¬ KeepsValid turn.system last.system ∧
      ∃ credentials facts session, LoginUnderWay (.standard .rotating "http://admin") task
        credentials renewedDuringLogin turn.system facts ∧ .renewed session ∈ facts) ∧
    ∃ turn last,
      initial.run? (.standard .rotating "http://admin") expiredDuringLogin = some turn ∧
      turn.system.step? (.standard .rotating "http://admin") (.settle 1 (.error .timeout)) =
        some last ∧
      KeepsValid turn.system last.system := by
  constructor
  · obtain ⟨turn, hrun, hsession, hnow, hbrings⟩ := renewedDuringLogin_fails
    obtain ⟨task, last, hstep, hrefuses, hspares⟩ :=
      run?_failed_login_spares_unless_renewed hrun hbrings
    have hlives := authenticated_of_session hsession (by rw [hnow]; rfl)
    have hlost : ¬ KeepsValid turn.system last.system := by
      intro hkeeps
      obtain ⟨hkept, -⟩ := hkeeps _ hsession (by rw [hnow]; rfl)
      rw [hrefuses.session] at hkept
      cases hkept
    refine ⟨turn, task, last, hrun, hlives, hstep, hrefuses, hlost, ?_⟩
    rw [hspares] at hlost
    push Not at hlost
    obtain ⟨credentials, facts, session, hunderWay, hrenewed, -⟩ := hlost
    exact ⟨credentials, facts, session, hunderWay, hrenewed⟩
  · obtain ⟨turn, hrun, hsession, hnow, hphase⟩ : ∃ turn,
        initial.run? (.standard .rotating "http://admin") expiredDuringLogin = some turn ∧
        turn.system.session = some ⟨"access-0", some "refresh-0", 60000, none, 0⟩ ∧
        turn.system.now = 60000 ∧
        turn.system.taskPhase? 1 = some (.loggingIn (.authorizationCode "code")) :=
      ⟨_, rfl, rfl, rfl, rfl⟩
    have hbrings : BringsLogin (.standard .rotating "http://admin") turn.system
        (.settle 1 (.error .timeout)) (.error .timeout) := .settle hphase
    obtain ⟨task, last, hstep, -, hspares⟩ := run?_failed_login_spares_unless_renewed hrun hbrings
    refine ⟨turn, last, hrun, hstep, hspares.2 fun _ _ session _ _ hfound => ?_⟩
    rw [hsession] at hfound
    cases hfound
    rw [hnow]
    rfl

/-- The failure of a login loses a session that has been renewed during it. -/
theorem failed_login_may_lose_session :
    ¬ ∀ (setup : Setup) (moves : List Move) (turn last : Turn) (move : Move) (failure : Failure),
      initial.run? setup moves = some turn → (∀ move ∈ moves, OfRenewals move) →
      BringsLogin setup turn.system move (.error failure) →
      turn.system.step? setup move = some last → KeepsValid turn.system last.system := by
  intro hkeeps
  obtain ⟨turn, hrun, hsession, hnow, hbrings⟩ := renewedDuringLogin_fails
  obtain ⟨task, last, hstep, hrefuses, -⟩ := hbrings.refuses
  have hof : ∀ move ∈ renewedDuringLogin, OfRenewals move := by
    simp only [renewedDuringLogin, expiredDuringLogin, loggedIn, List.cons_append,
      List.nil_append, List.mem_cons, List.not_mem_nil, or_false, forall_eq_or_imp, forall_eq,
      OfRenewals, and_self]
  have hkept := (hkeeps _ _ turn last _ _ hrun hof hbrings hstep _ hsession (by rw [hnow]; rfl)).1
  rw [hrefuses.session] at hkept
  cases hkept

end System

end AdminAccess
