import AdminAccess.Proofs.Session.Exchanges
import AdminAccess.Proofs.Session.Logins
import AdminAccess.Proofs.Session.Progress

/-! # Logins one at a time

Over all runs: at most one login is under way.  A run of logins alone, each of which opens a
session that lasts, goes through two stages: before the first login has ended, and after it,
when every other task finds the session.
-/

namespace AdminAccess

open Ledger (openings logins asks sents)

/-- The logins asked for are among all that is asked for. -/
theorem Ledger.logins_eq (happened : List Happening) :
    logins happened = (asks happened).filterMap fun
      | .login credentials => some credentials
      | _ => none := by
  rw [logins, asks, List.filterMap_filterMap]
  congr 1
  funext happening
  cases happening with
  | asked purpose => cases purpose <;> rfl
  | _ => rfl

namespace System

/-! ## Only logins -/

def OfLogins : Move → Prop
  | .spawn (.authenticate _) => True
  | .start _ | .passGate _ | .settle _ _ | .advance _ => True
  | _ => False

/-- A login opens a session that outlives a time. -/
def OpensPast (system : System) (time : Nat) (result : Except Failure TokenResponse) : Prop :=
  ∃ response session, result = .ok response ∧
    Session.ofResponse response system.now system.nextGeneration = .ok session ∧
    time < session.expiresAt

/-- No login has ended yet, and at most one has begun. -/
structure LoginAhead (system : System) (asked : List Purpose) : Prop where
  session : system.session = none
  phases : ∀ task phase, system.taskPhase? task = some phase →
    (∃ credentials, phase = .ready (.authenticate credentials)) ∨ phase.usesGate = true
  asked : asked = [] ∧ system.gate.holder = none ∨
    ∃ task credentials, asked = [.login credentials] ∧ system.gate.holder = some task ∧
      system.taskPhase? task = some (.loggingIn credentials)

/-- One login has opened a session that outlives a time, and everybody else finds it. -/
structure LoginDone (time : Nat) (system : System) (asked : List Purpose) : Prop where
  session : ∃ session, system.session = some session ∧ time < session.expiresAt
  winner : ∃ task, system.taskPhase? task = some (.finished (.done .authenticated)) ∧
    ∀ other phase, other ≠ task → system.taskPhase? other = some phase →
      (∃ credentials, phase = .ready (.authenticate credentials)) ∨
      (∃ credentials, phase = .atGate credentials) ∨
      phase = .finished (.done .alreadyAuthenticated)
  asked : ∃ credentials, asked = [.login credentials]

section OnlyLogins

variable {setup : Setup} {system after : System} {facts : List Happening} {task time : Nat}
  {asked : List Purpose}

theorem LoginDone.authenticated (h : LoginDone time system asked) (hnow : system.now ≤ time) :
    system.isAuthenticated = true := by
  obtain ⟨session, hsession, hlasts⟩ := h.session
  exact authenticated_of_session hsession (decide_eq_false (by omega))

theorem spawn_keeps {other : Nat} {phase : TaskPhase} (job : Job)
    (h : system.taskPhase? other = some phase) :
    (system.spawn job).taskPhase? other = some phase := by
  obtain ⟨hbound, -⟩ := List.getElem?_eq_some_iff.1 h
  rw [taskPhase?, spawn, List.getElem?_append_left hbound]
  exact h

theorem LoginEnds.asks {result : Except Failure TokenResponse} {ends : TaskResult}
    (h : LoginEnds system result facts after ends) : Ledger.asks facts = [] := by
  cases h <;> rfl

/-- A login that opens a lasting session is the one. -/
theorem LoginEnds.done {result : Except Failure TokenResponse} {ends : TaskResult}
    {old : TaskPhase} (h : LoginEnds system result facts after ends)
    (hopens : OpensPast system time result) (hphase : system.taskPhase? task = some old)
    (hothers : ∀ other phase, other ≠ task → system.taskPhase? other = some phase →
      (∃ credentials, phase = .ready (.authenticate credentials)) ∨
      ∃ credentials, phase = .atGate credentials)
    (hasked : ∃ credentials, asked = [.login credentials]) :
    LoginDone time (after.openGate.setTask task (.finished ends)) asked := by
  obtain ⟨response, session, hresult, hnew, hlasts⟩ := hopens
  have hkeeps : ∀ other, after.openGate.taskPhase? other = system.taskPhase? other := by
    intro other
    rw [openGate_taskPhase?, h.sameDesk.taskPhase?]
  cases h with
  | refused hrefused => rw [hresult] at hrefused; cases hrefused
  | broken hbroken hfault =>
      rw [hresult] at hbroken
      cases hbroken
      rw [hnew] at hfault
      cases hfault
  | @opened opened other hother hopened =>
      rw [hresult] at hother
      cases hother
      rw [hnew] at hopened
      cases hopened
      refine ⟨⟨session, openGate_session _, hlasts⟩, ⟨task, ?_, ?_⟩, hasked⟩
      · exact setTask_self ((hkeeps task).trans hphase)
      · intro other phase hne hother
        rw [setTask_other hne, hkeeps] at hother
        exact (hothers other phase hne hother).imp_right .inl

theorem LoginAhead.others (h : LoginAhead system asked)
    (halone : ∀ other credentials, system.taskPhase? other = some (.loggingIn credentials) →
      other = task) (other : Nat) (phase : TaskPhase) (hne : other ≠ task)
    (hphase : system.taskPhase? other = some phase) :
    (∃ credentials, phase = .ready (.authenticate credentials)) ∨
      ∃ credentials, phase = .atGate credentials := by
  obtain hready | huses := h.phases other phase hphase
  · exact .inl hready
  · cases phase with
    | atGate credentials => exact .inr ⟨credentials, rfl⟩
    | loggingIn credentials => exact absurd (halone other credentials hphase) hne
    | _ => cases huses

theorem LoginAhead.setTask {new : TaskPhase} (h : LoginAhead system asked) {gate : Gate}
    (huses : new.usesGate = true) {more : List Purpose}
    (hasked : ∃ other credentials, more = [.login credentials] ∧ gate.holder = some other ∧
      ({ system with gate := gate }.setTask task new).taskPhase? other =
        some (.loggingIn credentials)) :
    LoginAhead ({ system with gate := gate }.setTask task new) more := by
  refine ⟨h.session, fun other phase hphase => ?_, .inr hasked⟩
  obtain rfl | hbefore := setTask_taskPhase? hphase
  · exact .inr huses
  · exact h.phases other phase hbefore

/-- With no login ended, a task that starts asks for the login, waits, or ends it. -/
theorem LoginAhead.starts {credentials : Credentials} (h : LoginAhead system asked)
    (horderly : system.Orderly)
    (hphase : system.taskPhase? task = some (.ready (.authenticate credentials)))
    (hstarts : Starts setup system task (.authenticate credentials) facts after)
    (hbrings : ∀ result, BringsLogin setup system (.start task) result →
      system.OpensPast time result) :
    LoginAhead after (asked ++ asks facts) ∨ LoginDone time after (asked ++ asks facts) := by
  have hnone := not_authenticated h.session
  cases hstarts with
  | alreadyIn hvalid => rw [hnone] at hvalid; cases hvalid
  | queues hvalid hheld =>
      obtain ⟨-, hfree⟩ | ⟨first, others, hone, hholder, hlogging⟩ := h.asked
      · rw [hheld] at hfree; cases hfree
      · rw [hheld] at hholder
        cases hholder
        rw [Ledger.append_asks_nil]
        refine .inl (h.setTask rfl ⟨_, others, hone, rfl, ?_⟩)
        rw [setTask_other]
        · exact hlogging
        · rintro rfl
          rw [hphase] at hlogging
          cases hlogging
  | enters hvalid hfree henters =>
      obtain ⟨rfl, -⟩ | ⟨holder, others, -, hholder, -⟩ := h.asked
      · have hheld := horderly.takes hfree task
        cases henters with
        | already hvalid =>
            have hother : system.isAuthenticated = true := hvalid
            rw [hnone] at hother
            cases hother
        | asked =>
            refine .inl (h.setTask rfl ⟨task, credentials, rfl, rfl, ?_⟩)
            exact setTask_self hphase
        | settled _ hsettled hends =>
            refine .inr (hends.done (hbrings _ (.start hphase hvalid hfree hsettled)) hphase
              (h.others hheld.others) ⟨credentials, ?_⟩)
            exact congrArg (Purpose.login credentials :: ·) hends.asks
      · rw [hfree] at hholder; cases hholder

theorem LoginAhead.settles {reply : Reply} {phase : TaskPhase} (h : LoginAhead system asked)
    (horderly : system.Orderly) (hphase : system.taskPhase? task = some phase)
    (hsettles : Settles setup system task reply phase facts after)
    (hbrings : ∀ result, BringsLogin setup system (.settle task reply) result →
      system.OpensPast time result) :
    LoginDone time after (asked ++ asks facts) := by
  cases hsettles with
  | login hends =>
      have hholder := horderly.holds task _ hphase
      rw [hends.asks, List.append_nil]
      refine hends.done (hbrings _ (.settle hphase)) hphase
        (h.others (horderly.heldBy hholder).others) ?_
      obtain ⟨-, hfree⟩ | ⟨-, others, hone, -⟩ := h.asked
      · rw [hholder] at hfree; cases hfree
      · exact ⟨others, hone⟩
  | refresh | logout | call =>
      obtain ⟨_, hready⟩ | huses := h.phases task _ hphase
      · cases hready
      · cases huses

theorem LoginAhead.step {move : Move} (h : LoginAhead system asked) (horderly : system.Orderly)
    (hof : OfLogins move) (hdoes : Does setup system move facts after)
    (hbrings : ∀ result, BringsLogin setup system move result → system.OpensPast time result) :
    LoginAhead after (asked ++ asks facts) ∨ LoginDone time after (asked ++ asks facts) := by
  cases hdoes with
  | schedule | startLoop | tick | stopLoop | settleLoop | cancel | release => cases hof
  | advance =>
      rw [Ledger.append_asks_nil]
      exact .inl ⟨h.session, h.phases, h.asked⟩
  | settle hphase hsettles => exact .inr (h.settles horderly hphase hsettles hbrings)
  | @spawn job =>
      cases job with
      | refreshIfNeeded | logout | call => cases hof
      | authenticate credentials =>
          rw [Ledger.append_asks_nil]
          refine .inl ⟨h.session, fun other phase hphase => ?_, h.asked.imp_right ?_⟩
          · obtain rfl | hbefore := spawn_taskPhase? hphase
            · exact .inl ⟨credentials, rfl⟩
            · exact h.phases other phase hbefore
          · rintro ⟨holder, others, hone, hholder, hlogging⟩
            exact ⟨holder, others, hone, hholder, spawn_keeps _ hlogging⟩
  | start hphase hstarts =>
      obtain ⟨credentials, hready⟩ | huses := h.phases _ _ hphase
      · cases hready
        exact h.starts horderly hphase hstarts hbrings
      · cases huses
  | passGate hphase hadmitted henters =>
      obtain ⟨-, hfree⟩ | ⟨holder, others, -, hholder, hlogging⟩ := h.asked
      · rw [hadmitted] at hfree; cases hfree
      · rw [hadmitted] at hholder
        cases hholder
        rw [hphase] at hlogging
        cases hlogging

/-- With the session there, an open task can only find it. -/
theorem LoginDone.finds {middle : System} {old : TaskPhase} (h : LoginDone time system asked)
    (hsession : middle.session = system.session) (htasks : middle.tasks = system.tasks)
    (hphase : system.taskPhase? task = some old) (hopen : old.isFinished = false) :
    LoginDone time (middle.setTask task (.finished (.done .alreadyAuthenticated))) asked := by
  have hkeeps : ∀ other, middle.taskPhase? other = system.taskPhase? other := by
    intro other
    rw [taskPhase?, taskPhase?, htasks]
  obtain ⟨session, hheld, hlasts⟩ := h.session
  obtain ⟨winner, hwinner, hothers⟩ := h.winner
  have hne : winner ≠ task := by
    rintro rfl
    rw [hphase] at hwinner
    cases hwinner
    cases hopen
  refine ⟨⟨session, hsession.trans hheld, hlasts⟩,
    ⟨winner, ?_, fun other phase hother hlater => ?_⟩, h.asked⟩
  · rw [setTask_other hne, hkeeps]
    exact hwinner
  · obtain rfl | hbefore := setTask_taskPhase? hlater
    · exact .inr (.inr rfl)
    · exact hothers other phase hother ((hkeeps other).symm.trans hbefore)

theorem LoginDone.phases (h : LoginDone time system asked) {phase : TaskPhase}
    (hphase : system.taskPhase? task = some phase) :
    (∃ credentials, phase = .ready (.authenticate credentials)) ∨
      (∃ credentials, phase = .atGate credentials) ∨ phase.isFinished = true := by
  obtain ⟨winner, hwinner, hothers⟩ := h.winner
  by_cases hsame : task = winner
  · subst hsame
    rw [hphase] at hwinner
    cases hwinner
    exact .inr (.inr rfl)
  · obtain hready | hgate | rfl := hothers task phase hsame hphase
    · exact .inl hready
    · exact .inr (.inl hgate)
    · exact .inr (.inr rfl)

theorem LoginDone.step {move : Move} (h : LoginDone time system asked)
    (hnow : system.now ≤ time) (hof : OfLogins move) (hdoes : Does setup system move facts after) :
    LoginDone time after (asked ++ asks facts) := by
  have hvalid := h.authenticated hnow
  cases hdoes with
  | schedule | startLoop | tick | stopLoop | settleLoop | cancel | release => cases hof
  | advance =>
      rw [Ledger.append_asks_nil]
      exact ⟨h.session, h.winner, h.asked⟩
  | @spawn job =>
      cases job with
      | refreshIfNeeded | logout | call => cases hof
      | authenticate credentials =>
          rw [Ledger.append_asks_nil]
          obtain ⟨winner, hwinner, hothers⟩ := h.winner
          refine ⟨h.session, ⟨winner, spawn_keeps _ hwinner, fun other phase hne hphase => ?_⟩,
            h.asked⟩
          obtain rfl | hbefore := spawn_taskPhase? hphase
          · exact .inl ⟨credentials, rfl⟩
          · exact hothers other phase hne hbefore
  | start hphase hstarts =>
      obtain ⟨credentials, hready⟩ | ⟨_, hgate⟩ | hfinished := h.phases hphase
      · cases hready
        cases hstarts with
        | alreadyIn =>
            rw [Ledger.append_asks_nil]
            exact h.finds rfl rfl hphase rfl
        | queues hother => rw [hvalid] at hother; cases hother
        | enters hother => rw [hvalid] at hother; cases hother
      · cases hgate
      · cases hfinished
  | passGate hphase hadmitted henters =>
      cases henters with
      | already =>
          rw [Ledger.append_asks_nil]
          exact h.finds (openGate_session system) system.openGate_keeps.2.1 hphase rfl
      | asked hother => rw [hvalid] at hother; cases hother
      | settled hother => rw [hvalid] at hother; cases hother
  | settle hphase hsettles =>
      obtain ⟨_, rfl⟩ | ⟨_, rfl⟩ | hfinished := h.phases hphase
      · cases hsettles
      · cases hsettles
      · cases hsettles <;> cases hfinished

theorem initial_loginAhead : initial.LoginAhead [] where
  session := rfl
  phases task phase h := by simp [initial, taskPhase?] at h
  asked := .inl ⟨rfl, rfl⟩

/-- Closing an unused provider is nothing to the logins. -/
theorem login_closeUnused (h : LoginAhead after asked ∨ LoginDone time after asked) :
    LoginAhead after.closeUnused asked ∨ LoginDone time after.closeUnused asked := by
  obtain ⟨-, -, hgate, -⟩ := after.closeUnused_keeps
  refine h.imp (fun h => ⟨?_, ?_, ?_⟩) fun h => ⟨?_, ?_, h.asked⟩
  · simpa only [closeUnused_session] using h.session
  · simpa only [closeUnused_taskPhase?] using h.phases
  · simpa only [closeUnused_taskPhase?, hgate] using h.asked
  · simpa only [closeUnused_session] using h.session
  · simpa only [closeUnused_taskPhase?] using h.winner

/-- A run of logins, each of which opens a session that outlives the run. -/
theorem run?_login {moves : List Move} {turn : Turn}
    (hrun : system.run? setup moves = some turn) (htime : turn.system.now ≤ time)
    (hof : ∀ move ∈ moves, OfLogins move)
    (hbrings : Along setup system moves fun middle move => ∀ result,
      BringsLogin setup middle move result → middle.OpensPast time result)
    (horderly : system.Orderly) (h : LoginAhead system asked ∨ LoginDone time system asked) :
    LoginAhead turn.system (asked ++ asks turn.happened) ∨
      LoginDone time turn.system (asked ++ asks turn.happened) := by
  induction moves generalizing system turn asked with
  | nil =>
      cases hrun
      rw [show (Turn.start system).happened = [] from rfl, Ledger.append_asks_nil]
      exact h
  | cons move rest ih =>
      obtain ⟨first, later, hstep, hrest, rfl⟩ := run?_cons.1 hrun
      have hlater : first.system.now ≤ later.system.now := (run?_acts hrest).now_le
      have hnow : system.now ≤ first.system.now := (step?_acts hstep).now_le
      rw [Turn.andThen_system] at htime
      obtain ⟨after, hdoes, hclosed⟩ := step?_does hstep
      have hmove := hof move List.mem_cons_self
      have hfirst : LoginAhead after (asked ++ asks first.facts) ∨
          LoginDone time after (asked ++ asks first.facts) := by
        obtain hahead | hdone := h
        · exact hahead.step horderly hmove hdoes hbrings.head
        · exact .inr (hdone.step (by omega) hmove hdoes)
      rw [Turn.andThen_system, Turn.andThen_happened, Ledger.asks_append, ← List.append_assoc]
      refine ih hrest htime (fun other hmem => hof other (List.mem_cons_of_mem _ hmem))
        (hbrings.tail hstep) (step?_orderly hstep horderly) ?_
      rw [hclosed, ← first.asks_facts]
      exact login_closeUnused hfirst

end OnlyLogins

/-! ## Runs -/

section Runs

variable {setup : Setup}

theorem step?_earned {system : System} {move : Move} {last : Turn} {task : Nat}
    {phase : TaskPhase} (hstep : system.step? setup move = some last)
    (hphase : last.system.taskPhase? task = some phase) :
    system.taskPhase? task = some phase ∨ Earned system last.facts last.system.ledger phase := by
  obtain ⟨after, hdoes, hclosed⟩ := step?_does hstep
  rw [hclosed, closeUnused_taskPhase?] at hphase
  rw [hclosed, after.closeUnused_keeps.1]
  exact hdoes.earned hphase

/-- Along every run at most one login is under way.  A login is asked for only without a valid
session and with no other under way; a task is told that it is authenticated already only with a
valid session there, and that it is authenticated only when its login has stored one under a new
generation.  What is asked for begins at once.  A task that has not finished can be brought on: some
task can run a stretch, and there are fewer left then.  Where there are only logins, and each opens
a session that outlives the run, then in the end exactly one task has logged in, with the only
request that the identity provider has got, and the others have found its session. -/
theorem run?_logins_one_at_a_time {moves : List Move} {turn : Turn}
    (hrun : initial.run? setup moves = some turn) :
    (∀ task other credentials others,
      turn.system.taskPhase? task = some (.loggingIn credentials) →
      turn.system.taskPhase? other = some (.loggingIn others) → task = other) ∧
    (∀ move last, turn.system.step? setup move = some last →
      (∀ credentials, .asked (.login credentials) ∈ last.happened →
        logins last.happened = [credentials] ∧ setup.Begins (.login credentials) last.happened ∧
        turn.system.isAuthenticated = false ∧ turn.system.NoLogin) ∧
      (∀ task, last.system.taskPhase? task = some (.finished (.done .alreadyAuthenticated)) →
        turn.system.taskPhase? task = some (.finished (.done .alreadyAuthenticated)) ∨
        turn.system.isAuthenticated = true) ∧
      ∀ task, last.system.taskPhase? task = some (.finished (.done .authenticated)) →
        turn.system.taskPhase? task = some (.finished (.done .authenticated)) ∨
        ∃ session, openings last.happened = [session] ∧ last.system.session = some session ∧
          ∀ earlier ∈ openings turn.happened, earlier.generation < session.generation) ∧
    (∀ task phase, turn.system.taskPhase? task = some phase → phase.isFinished = false →
      ∀ reply, ∃ move last, Serves reply move ∧ turn.system.step? setup move = some last ∧
        last.system.stretchesLeft < turn.system.stretchesLeft) ∧
    ((∀ move ∈ moves, OfLogins move) →
      (Along setup initial moves fun middle move => ∀ result,
        BringsLogin setup middle move result → middle.OpensPast turn.system.now result) →
      turn.system.tasks ≠ [] → (∀ phase ∈ turn.system.tasks, phase.isFinished = true) →
      (logins turn.happened).length = 1 ∧
      (∃ credentials, asks turn.happened = [.login credentials] ∧
        setup.Begins (.login credentials) turn.happened ∧
        sents turn.happened = (setup.identity.login credentials).requests) ∧
      ∃ task, turn.system.taskPhase? task = some (.finished (.done .authenticated)) ∧
        ∀ other phase, other ≠ task → turn.system.taskPhase? other = some phase →
          phase = .finished (.done .alreadyAuthenticated)) := by
  have horderly := run?_orderly hrun initial_orderly
  refine ⟨fun task other credentials others htask hother => ?_, fun move last hstep => ⟨?_, ?_, ?_⟩,
    fun task phase hphase hopen reply => ?_, fun hof hbrings hsome hfinished => ?_⟩
  · have hholder := horderly.holds task credentials htask
    rw [horderly.holds other others hother] at hholder
    exact (Option.some.inj hholder).symm
  · intro credentials hasked
    have hbegins := (step?_carriesOut hstep).begins hasked
    obtain ⟨after, hdoes, -⟩ := step?_does hstep
    rw [← Ledger.mem_logins] at hasked
    obtain hnone | ⟨found, hone, hvalid, hnone⟩ := hdoes.logins horderly
    · rw [← Turn.logins_facts, hnone] at hasked
      cases hasked
    · rw [Turn.logins_facts] at hone
      rw [hone, List.mem_singleton] at hasked
      exact ⟨hasked ▸ hone, hbegins, hvalid, hnone⟩
  · exact fun task hphase => step?_earned hstep hphase
  · refine fun task hphase => (step?_earned hstep hphase).imp_right ?_
    rintro ⟨session, hopened, hsession, hgeneration, -⟩
    rw [Turn.openings_facts] at hopened
    refine ⟨session, hopened, hsession, fun earlier hmem => ?_⟩
    rw [← Turn.openings_facts] at hmem
    rw [hgeneration]
    exact ((run?_acts hrun).openings_increasing.2 earlier hmem).2
  · obtain ⟨move, last, hserves, hstep⟩ := horderly.serves hphase hopen setup reply
    exact ⟨move, last, hserves, hstep, step?_stretchesLeft_lt hstep hserves⟩
  · obtain hahead | hdone := run?_login hrun (Nat.le_refl _) hof hbrings initial_orderly
      (.inl initial_loginAhead)
    · obtain ⟨phase, rest, htasks⟩ := List.exists_cons_of_ne_nil hsome
      have hphase : turn.system.taskPhase? 0 = some phase := by rw [taskPhase?, htasks]; rfl
      have hended := hfinished phase (by rw [htasks]; exact List.mem_cons_self)
      obtain ⟨_, rfl⟩ | huses := hahead.phases 0 phase hphase
      · cases hended
      · cases phase with
        | finished => cases huses
        | _ => cases hended
    · obtain ⟨winner, hwinner, hothers⟩ := hdone.winner
      obtain ⟨credentials, hone⟩ : ∃ credentials, asks turn.happened = [.login credentials] :=
        hdone.asked
      have hcarried := run?_carriesOut hrun
      refine ⟨?_, ⟨credentials, hone, hcarried.begins ?_, ?_⟩, winner, hwinner,
        fun other phase hne hphase => ?_⟩
      · rw [Ledger.logins_eq, hone]
        rfl
      · rw [← Ledger.mem_asks, hone]
        exact List.mem_cons_self
      · rw [hcarried.sents_eq, hone]
        exact List.append_nil _
      have hended := hfinished phase (List.mem_of_getElem? hphase)
      obtain ⟨_, rfl⟩ | ⟨_, rfl⟩ | hfound := hothers other phase hne hphase
      · cases hended
      · cases hended
      · exact hfound

end Runs

/-- Two logins, of which one waits at the gate while the other asks. -/
def twoLogins : List Move :=
  [.spawn (.authenticate (.authorizationCode "code")),
    .spawn (.authenticate (.authorizationCode "code")), .start 0, .start 1,
    .settle 0 (.ok default), .passGate 1]

/-- Every login along them opens a session for a minute. -/
theorem twoLogins_open {turn : Turn}
    (hrun : initial.run? (.standard .rotating "http://admin") twoLogins = some turn)
    (hnow : turn.system.now = 0) :
    Along (.standard .rotating "http://admin") initial twoLogins fun middle move => ∀ result,
      BringsLogin (.standard .rotating "http://admin") middle move result →
        middle.OpensPast 0 result := by
  intro before move after middle hmoves hbefore result hbrings
  have hle := run?_now_le (hmoves ▸ hrun) hbefore
  have hmem : move ∈ twoLogins := by
    rw [hmoves]
    exact List.mem_append_right _ List.mem_cons_self
  cases hbrings with
  | start _ _ _ hsettled => cases hsettled
  | passGate _ _ _ hsettled => cases hsettled
  | @settle task reply credentials hphase =>
      have hreply : reply = .ok default := by
        simp only [twoLogins, List.mem_cons, reduceCtorEq, Move.settle.injEq, List.not_mem_nil,
          or_false, false_or] at hmem
        exact hmem.2
      subst hreply
      have hfits : TokenResponse.FitsClock
          ⟨"access-0", 60, some "refresh-0", none, none, none⟩ middle.system.now :=
        ⟨Nat.lt_of_le_of_lt (Nat.add_le_add_right hle _) (by rw [hnow]; decide), nofun⟩
      exact ⟨_, _, rfl, Session.ofResponse_of_fits hfits _, Nat.lt_add_left _ (by decide)⟩

/-- One of the two logs in, with one request; the other finds its session. -/
theorem twoLogins_log_in_once :
    ∃ turn, initial.run? (.standard .rotating "http://admin") twoLogins = some turn ∧
      (logins turn.happened).length = 1 ∧ sents turn.happened = [default] ∧
      ∃ task, turn.system.taskPhase? task = some (.finished (.done .authenticated)) ∧
        ∀ other phase, other ≠ task → turn.system.taskPhase? other = some phase →
          phase = .finished (.done .alreadyAuthenticated) := by
  obtain ⟨turn, hrun, hnow, htasks⟩ : ∃ turn,
      initial.run? (.standard .rotating "http://admin") twoLogins = some turn ∧
      turn.system.now = 0 ∧
      turn.system.tasks =
        [.finished (.done .authenticated), .finished (.done .alreadyAuthenticated)] :=
    ⟨_, rfl, rfl, rfl⟩
  have hof : ∀ move ∈ twoLogins, OfLogins move := by
    intro move hmem
    simp only [twoLogins, List.mem_cons, List.not_mem_nil, or_false] at hmem
    rcases hmem with rfl | rfl | rfl | rfl | rfl | rfl <;> trivial
  have hfinished : ∀ phase ∈ turn.system.tasks, phase.isFinished = true := by
    intro phase hmem
    simp only [htasks, List.mem_cons, List.not_mem_nil, or_false] at hmem
    rcases hmem with rfl | rfl <;> rfl
  have hsome : turn.system.tasks ≠ [] := by
    rw [htasks]
    exact List.cons_ne_nil _ _
  obtain ⟨hlogins, ⟨credentials, -, -, hsents⟩, hphases⟩ :=
    (run?_logins_one_at_a_time hrun).2.2.2 hof (hnow.symm ▸ twoLogins_open hrun hnow) hsome
      hfinished
  exact ⟨turn, hrun, hlogins, hsents, hphases⟩

end System

end AdminAccess
