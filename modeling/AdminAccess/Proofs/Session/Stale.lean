import AdminAccess.Proofs.Session.Runs

/-! # Refreshes that come too late

A refresh whose session is no longer there finds a session of another generation or none.
Whatever its reply is, the ledger stays as it is and the move has no facts.
-/

namespace AdminAccess

namespace Turn

theorem concludeRefresh_stale {turn : Turn} {renewal : Renewal}
    (settlement : Settlement TokenResponse)
    (hout : ¬ turn.system.ledger.Holds renewal.generation) :
    (turn.concludeRefresh renewal settlement).1.system = turn.system ∧
      (turn.concludeRefresh renewal settlement).1.facts = turn.facts ∧
      (turn.concludeRefresh renewal settlement).2 =
        match settlement.result with
        | .ok _ => .discarded
        | .error failure => .failed failure := by
  cases hresult : settlement.result with
  | error failure =>
      simp only [concludeRefresh, hresult]
      exact ⟨rfl, by simp, trivial⟩
  | ok response =>
      have hlogged : ¬ (turn.logAll settlement.logs).system.ledger.Holds renewal.generation := hout
      simp only [concludeRefresh, hresult, storeRefresh_discarded response hlogged]
      exact ⟨rfl, by simp, trivial⟩

theorem takeSession_keeps {turn : Turn} (reason : EndReason) {generation : Nat}
    (hout : ¬ turn.system.ledger.Holds generation) :
    (turn.takeSession reason (some generation)).2 = none ∧
      (turn.takeSession reason (some generation)).1.system.ledger = turn.system.ledger ∧
      (turn.takeSession reason (some generation)).1.facts = turn.facts := by
  cases hsession : turn.system.session with
  | none =>
      obtain ⟨hledger, hfacts, -⟩ := turn.withoutSession_keeps
      rw [takeSession_none reason _ hsession]
      refine ⟨rfl, ?_, (log_facts ..).trans hfacts⟩
      rw [log_system, hledger]
      simp [System.ledger, hsession]
  | some session =>
      have hother : session.generation ≠ generation := fun heq => hout ⟨session, hsession, heq⟩
      rw [takeSession_stale reason hsession hother]
      exact ⟨rfl, rfl, rfl⟩

def warnFailed (turn : Turn) (generation : Nat) (failure : Failure) : Turn :=
  turn.log .warn "token refresh failed, logging out"
    [failureField failure, generationField generation]

@[simp] theorem warnFailed_system (turn : Turn) (generation : Nat) (failure : Failure) :
    (turn.warnFailed generation failure).system = turn.system := rfl

@[simp] theorem warnFailed_facts (turn : Turn) (generation : Nat) (failure : Failure) :
    (turn.warnFailed generation failure).facts = turn.facts :=
  log_facts _ _ _ _

end Turn

namespace Loop

theorem giveUp_kept {turn left : Turn} (setup : Setup) (loop : Nat) {generation : Nat}
    {failure : Failure}
    (h : (turn.warnFailed generation failure).takeSession .refreshFailed (some generation) =
      (left, none)) :
    giveUp setup loop generation failure turn = stop loop left := by
  simp only [Turn.warnFailed] at h
  simp only [giveUp, h]

theorem stop_keeps (loop : Nat) (turn : Turn) :
    (stop loop turn).system.ledger = turn.system.ledger ∧
      (stop loop turn).facts = turn.facts :=
  have h := (turn.update (·.setLoop loop .ended)).cancel_keeps loop
  ⟨h.1, h.2.1⟩

theorem giveUp_stale {turn : Turn} (setup : Setup) (loop : Nat) {generation : Nat}
    (failure : Failure) (hout : ¬ turn.system.ledger.Holds generation) :
    (giveUp setup loop generation failure turn).system.ledger = turn.system.ledger ∧
      (giveUp setup loop generation failure turn).facts = turn.facts := by
  have hwarned : ¬ (turn.warnFailed generation failure).system.ledger.Holds generation := hout
  obtain ⟨hnone, hledger, hfacts⟩ := Turn.takeSession_keeps .refreshFailed hwarned
  rw [giveUp_kept setup loop (Prod.ext rfl hnone)]
  obtain ⟨hstopped, hcancelled⟩ := stop_keeps loop
    ((turn.warnFailed generation failure).takeSession .refreshFailed (some generation)).1
  rw [Turn.warnFailed_system] at hledger
  rw [Turn.warnFailed_facts] at hfacts
  exact ⟨hstopped.trans hledger, hcancelled.trans hfacts⟩

end Loop

namespace System

variable {setup : Setup} {system : System} {renewal : Renewal}

/-- What the reply to a refresh leads to before its actor goes on. -/
def concludeReply (setup : Setup) (system : System) (renewal : Renewal) (reply : Reply) :
    Turn × Renewed :=
  (Turn.start system).concludeRefresh renewal
    ((setup.identity.refresh renewal.refreshToken).conclude reply)

theorem concludeReply_failed {reply : Reply} {failure : Failure}
    (hfailed : setup.refreshResult renewal reply = .error failure) :
    (system.concludeReply setup renewal reply).1.system = system ∧
      (system.concludeReply setup renewal reply).1.facts = [] ∧
      (system.concludeReply setup renewal reply).2 = .failed failure := by
  have hresult : ((setup.identity.refresh renewal.refreshToken).conclude reply).result =
      .error failure := hfailed
  simp only [concludeReply, Turn.concludeRefresh, hresult]
  exact ⟨rfl, Turn.logAll_facts _ _, trivial⟩

theorem move?_settle {task : Nat} (reply : Reply)
    (hphase : system.taskPhase? task = some (.refreshing renewal)) :
    system.move? setup (.settle task reply) =
      some (Task.finish task (Task.refreshResult (system.concludeReply setup renewal reply).2)
        (system.concludeReply setup renewal reply).1) := by
  have htask : system.tasks[task]? = some (.refreshing renewal) := hphase
  simp only [move?, htask]
  rfl

theorem move?_settleLoop {loop due : Nat} (reply : Reply)
    (hphase : system.loopPhase? loop = some (.refreshing due renewal)) :
    system.move? setup (.settleLoop loop reply) =
      some (Loop.concludeRefresh setup loop due renewal
        (system.concludeReply setup renewal reply).2
        (system.concludeReply setup renewal reply).1) := by
  obtain ⟨l, hloop, hrefreshing⟩ := Option.map_eq_some_iff.1 hphase
  simp only [move?, hloop, hrefreshing]
  rfl

/-- An actor is done with a refresh that has brought nothing: the task reports false, the loop
waits for its next tick. -/
def HasDiscarded (system : System) : Actor → Prop
  | .task task => system.taskPhase? task = some (.finished (.done (.refreshed false)))
  | .loop loop => ∃ due, system.loopPhase? loop = some (.waiting due)

theorem concludeReply_stale (setup : Setup) (reply : Reply)
    (hout : ¬ system.ledger.Holds renewal.generation) :
    (system.concludeReply setup renewal reply).1.system = system ∧
      (system.concludeReply setup renewal reply).1.facts = [] ∧
      (system.concludeReply setup renewal reply).2 =
        match setup.refreshResult renewal reply with
        | .ok _ => .discarded
        | .error failure => .failed failure := by
  have hstart : ¬ (Turn.start system).system.ledger.Holds renewal.generation := hout
  exact Turn.concludeRefresh_stale _ hstart

theorem move?_settle_stale {task : Nat} (setup : Setup) (reply : Reply)
    (hphase : system.taskPhase? task = some (.refreshing renewal))
    (hout : ¬ system.ledger.Holds renewal.generation) :
    ∃ turn, system.move? setup (.settle task reply) = some turn ∧
      turn.system.ledger = system.ledger ∧ turn.facts = [] ∧
      ∀ response, setup.refreshResult renewal reply = .ok response →
        turn.system.HasDiscarded (.task task) := by
  obtain ⟨hsystem, hfacts, hrenewed⟩ := concludeReply_stale setup reply hout
  have hledger := congrArg ledger hsystem
  refine ⟨_, move?_settle reply hphase, hledger, hfacts, ?_⟩
  intro response hresult
  have hdiscarded : (system.concludeReply setup renewal reply).2 = .discarded := by
    rw [hrenewed, hresult]
  rw [hdiscarded]
  exact setTask_self (by rw [hsystem]; exact hphase)

theorem move?_settleLoop_stale {loop due : Nat} (setup : Setup) (reply : Reply)
    (hphase : system.loopPhase? loop = some (.refreshing due renewal))
    (hout : ¬ system.ledger.Holds renewal.generation) :
    ∃ turn, system.move? setup (.settleLoop loop reply) = some turn ∧
      turn.system.ledger = system.ledger ∧ turn.facts = [] ∧
      ∀ response, setup.refreshResult renewal reply = .ok response →
        turn.system.HasDiscarded (.loop loop) := by
  obtain ⟨hsystem, hfacts, hrenewed⟩ := concludeReply_stale setup reply hout
  have hledger := congrArg ledger hsystem
  cases hresult : setup.refreshResult renewal reply with
  | ok response =>
      rw [hresult] at hrenewed
      refine ⟨_, move?_settleLoop reply hphase, ?_⟩
      rw [hrenewed]
      refine ⟨hledger, hfacts, fun _ _ => ⟨due, ?_⟩⟩
      exact setLoop_self (by rw [hsystem]; exact hphase)
  | error failure =>
      rw [hresult] at hrenewed
      refine ⟨_, move?_settleLoop reply hphase, ?_⟩
      rw [hrenewed]
      have hlater : ¬ (system.concludeReply setup renewal reply).1.system.ledger.Holds
          renewal.generation := by rwa [hsystem]
      obtain ⟨hkept, hquiet⟩ := Loop.giveUp_stale setup loop failure hlater
      refine ⟨hkept.trans hledger, hquiet.trans hfacts, ?_⟩
      intro response hok
      cases hok

/-- A reply that comes too late leaves the ledger alone, whoever it is for. -/
theorem step?_stale {actor : Actor} (setup : Setup) (reply : Reply)
    (hflight : system.InFlight actor renewal)
    (hout : ¬ system.ledger.Holds renewal.generation) :
    ∃ turn, system.step? setup (actor.settleMove reply) = some turn ∧
      turn.system.ledger = system.ledger ∧ turn.facts = [] ∧
      ∀ response, setup.refreshResult renewal reply = .ok response →
        turn.system.HasDiscarded actor := by
  cases actor with
  | task task =>
      obtain ⟨turn, hmove, hledger, hfacts, hdiscarded⟩ :=
        move?_settle_stale setup reply hflight hout
      obtain ⟨hclosed, hquiet, htasks, -⟩ := turn.closeUnused_keeps
      refine ⟨turn.closeUnused, Option.map_eq_some_iff.2 ⟨turn, hmove, rfl⟩,
        hclosed.trans hledger, hquiet.trans hfacts, fun response hresult => ?_⟩
      have hphase := hdiscarded response hresult
      rwa [HasDiscarded, taskPhase?, ← htasks] at hphase
  | loop loop =>
      obtain ⟨due, hphase⟩ := hflight
      obtain ⟨turn, hmove, hledger, hfacts, hdiscarded⟩ :=
        move?_settleLoop_stale setup reply hphase hout
      obtain ⟨hclosed, hquiet, -, hloops⟩ := turn.closeUnused_keeps
      refine ⟨turn.closeUnused, Option.map_eq_some_iff.2 ⟨turn, hmove, rfl⟩,
        hclosed.trans hledger, hquiet.trans hfacts, fun response hresult => ?_⟩
      obtain ⟨next, hwaiting⟩ := hdiscarded response hresult
      exact ⟨next, (hloops loop).trans hwaiting⟩

end System

end AdminAccess
