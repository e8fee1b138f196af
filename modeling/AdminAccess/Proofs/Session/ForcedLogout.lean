import AdminAccess.Proofs.Session.Exchanges
import AdminAccess.Proofs.Session.Stale

/-! # Forced logouts

A tick whose refresh fails ends the session of the login that the refresh was for, even when
another refresh has replaced its tokens in the meantime: the guard is the generation, which tells
one login from another.
-/

namespace AdminAccess

namespace Turn

theorem concludeEnding_keeps (turn : Turn) (ending : Ending) (settlement : Settlement Unit) :
    (turn.concludeEnding ending settlement).1.system.session = turn.system.session ∧
      (turn.concludeEnding ending settlement).1.facts =
        turn.facts ++ [.emitted (.loggedOut ending.reason)] := by
  unfold concludeEnding
  cases settlement.result with
  | ok => exact ⟨rfl, by simp⟩
  | error failure => exact ⟨rfl, by simp⟩

/-- The identity provider is asked to end the session, whose place stays as it is. -/
theorem askEnding_asks (setup : Setup) (turn : Turn) (ending : Ending) :
    (turn.askEnding setup ending).1.system.session = turn.system.session ∧
      ∃ more, (turn.askEnding setup ending).1.facts =
        turn.facts ++ [.asked (.logout ending)] ++ more := by
  have hsystem := turn.exchange_system (.logout ending)
    (setup.identity.logout ending.refreshToken)
  have hfacts := turn.exchange_facts (.logout ending)
    (setup.identity.logout ending.refreshToken)
  unfold askEnding
  rcases hexchange : turn.exchange (.logout ending)
    (setup.identity.logout ending.refreshToken) with ⟨asked, _ | settlement⟩
  all_goals rw [hexchange] at hsystem hfacts
  · exact ⟨congrArg System.session hsystem, [], by rw [List.append_nil]; exact hfacts⟩
  · obtain ⟨hsession, htold⟩ := asked.concludeEnding_keeps ending settlement
    exact ⟨hsession.trans (congrArg System.session hsystem), _, htold.trans (by rw [hfacts])⟩

end Turn

namespace Loop

theorem concludeEnding_keeps (loop : Nat) (result : Except Failure Unit) (turn : Turn) :
    (concludeEnding loop result turn).system.ledger = turn.system.ledger ∧
      (concludeEnding loop result turn).facts = turn.facts := by
  cases result with
  | ok => exact stop_keeps loop turn
  | error failure =>
      obtain ⟨hledger, hfacts⟩ := stop_keeps loop (turn.log .warn
        "identity provider logout failed" [Turn.failureField failure])
      exact ⟨hledger, hfacts.trans (Turn.log_facts _ _ _ _)⟩

/-- A loop that has taken a session out asks the identity provider to end it and stops with the
answer. -/
theorem giveUp_taken {turn left : Turn} (setup : Setup) (loop : Nat) {generation : Nat}
    {failure : Failure} {ending : Ending}
    (h : (turn.warnFailed generation failure).takeSession .refreshFailed (some generation) =
      (left, some ending)) :
    (giveUp setup loop generation failure turn).system.session =
        (left.askEnding setup ending).1.system.session ∧
      (giveUp setup loop generation failure turn).facts =
        (left.askEnding setup ending).1.facts := by
  simp only [Turn.warnFailed] at h
  simp only [giveUp, h]
  rcases left.askEnding setup ending with ⟨asked, _ | result⟩
  · exact ⟨rfl, rfl⟩
  · obtain ⟨hledger, hfacts⟩ := concludeEnding_keeps loop result asked
    exact ⟨congrArg Ledger.session hledger, hfacts⟩

/-- A refresh that fails while a session of its generation is there takes it out and asks the
identity provider to end it. -/
theorem giveUp_ended {turn : Turn} (setup : Setup) (loop : Nat) (failure : Failure)
    {session : Session} (hsession : turn.system.session = some session) :
    (giveUp setup loop session.generation failure turn).system.session = none ∧
      ∃ more, (giveUp setup loop session.generation failure turn).facts =
        turn.facts ++ [.taken ⟨.refreshFailed, session.generation, session.refreshToken⟩,
          .asked (.logout ⟨.refreshFailed, session.generation, session.refreshToken⟩)] ++
          more := by
  let warned := turn.warnFailed session.generation failure
  have hwarned : warned.system.session = some session := hsession
  have hexpected : ∀ generation ∈ some session.generation, generation = session.generation := by
    simp
  have htake := Turn.takeSession_some .refreshFailed hwarned hexpected
  obtain ⟨hleft, hmore⟩ := giveUp_taken setup loop htake
  obtain ⟨hledger, hfacts, -⟩ := warned.withoutSession_keeps
  obtain ⟨hkept, more, hasked⟩ := Turn.askEnding_asks setup
    (warned.takeSession .refreshFailed (some session.generation)).1
    ⟨.refreshFailed, session.generation, session.refreshToken⟩
  rw [htake] at hkept hasked
  refine ⟨hleft.trans (hkept.trans (congrArg Ledger.session hledger)), more, ?_⟩
  rw [hmore, hasked, Turn.log_facts, Turn.record_facts, hfacts, Turn.warnFailed_facts]
  simp [Happening.isFact]

end Loop

namespace System

variable {setup : Setup}

/-- The failing reply to the refresh of a tick ends the session of that generation. -/
theorem step?_failed {system : System} {loop due : Nat} {renewal : Renewal} {reply : Reply}
    {failure : Failure} {session : Session}
    (hphase : system.loopPhase? loop = some (.refreshing due renewal))
    (hfailed : setup.refreshResult renewal reply = .error failure)
    (hsession : system.session = some session)
    (hgeneration : session.generation = renewal.generation) :
    ∃ last, system.step? setup (.settleLoop loop reply) = some last ∧
      last.system.session = none ∧
      .taken ⟨.refreshFailed, session.generation, session.refreshToken⟩ ∈ last.happened ∧
      .asked (.logout ⟨.refreshFailed, session.generation, session.refreshToken⟩) ∈
        last.happened := by
  let replied := (system.concludeReply setup renewal reply).1
  obtain ⟨hsystem, hfacts, hrenewed⟩ : replied.system = system ∧ replied.facts = [] ∧
      (system.concludeReply setup renewal reply).2 = .failed failure :=
    concludeReply_failed hfailed
  have hmove : system.move? setup (.settleLoop loop reply) =
      some (Loop.giveUp setup loop session.generation failure replied) := by
    rw [move?_settleLoop reply hphase, hrenewed, hgeneration]
    rfl
  have hheld : replied.system.session = some session := by rw [hsystem, hsession]
  obtain ⟨hended, more, hmore⟩ := Loop.giveUp_ended setup loop failure hheld
  obtain ⟨hledger, hquiet, -⟩ :=
    (Loop.giveUp setup loop session.generation failure replied).closeUnused_keeps
  rw [hmore, hfacts, List.nil_append] at hquiet
  refine ⟨_, Option.map_eq_some_iff.2 ⟨_, hmove, rfl⟩,
    (congrArg Ledger.session hledger).trans hended, ?_, ?_⟩
  · rw [← Turn.mem_facts rfl, hquiet]
    simp
  · rw [← Turn.mem_facts rfl, hquiet]
    simp

/-- A refresh was read at a state of a run, and since then only refreshes have changed the
session. -/
def OnlyRefreshedSince (setup : Setup) (system : System) (moves : List Move)
    (renewal : Renewal) : Prop :=
  ∃ before after read later, moves = before ++ after ∧
    system.run? setup before = some read ∧ read.system.ledger.Reads renewal ∧
    read.system.run? setup after = some later ∧
    ∀ happening ∈ later.happened, Ledger.replaces happening = false

/-- As long as there is a session of the generation that has been read, it is the one that has
been read, perhaps with other tokens. -/
theorem WasRead.onlyRefreshed {moves : List Move} {turn : Turn} {renewal : Renewal}
    (hrun : initial.run? setup moves = some turn) (hread : WasRead setup initial moves renewal)
    (hholds : turn.system.ledger.Holds renewal.generation) :
    OnlyRefreshedSince setup initial moves renewal := by
  obtain ⟨before, after, read, rfl, hbefore, hreads⟩ := hread
  obtain ⟨later, hafter, rfl⟩ := run?_rest hrun hbefore
  refine ⟨before, after, read, later, rfl, hbefore, hreads, hafter, fun happening hmem => ?_⟩
  obtain ⟨session, hsession, hgeneration, -⟩ := hreads
  have hused : renewal.generation < read.system.ledger.nextGeneration :=
    hgeneration ▸ run?_settled hbefore session hsession
  have hkept := (run?_acts hafter).not_replaces_of_holds hused hholds
  cases hfact : happening.isFact with
  | true => exact hkept happening ((Turn.mem_facts hfact).2 hmem)
  | false => cases happening <;> first | rfl | cases hfact

/-- In every run, when the refresh of a tick fails, the session is ended exactly if it is of the
login that the refresh was read from, whether its tokens have been replaced since or not; the
session of another login stays, and neither the identity provider nor a subscriber hears of it.
Nothing else ends a session by force. -/
theorem run?_forced_logout_by_generation {moves : List Move} {turn : Turn}
    (hrun : initial.run? setup moves = some turn) :
    (∀ loop due renewal reply failure,
      turn.system.loopPhase? loop = some (.refreshing due renewal) →
      setup.refreshResult renewal reply = .error failure →
      ∃ last, turn.system.step? setup (.settleLoop loop reply) = some last ∧
        (∀ session, turn.system.session = some session →
          session.generation = renewal.generation →
          OnlyRefreshedSince setup initial moves renewal ∧ last.system.session = none ∧
          .taken ⟨.refreshFailed, session.generation, session.refreshToken⟩ ∈ last.happened ∧
          .asked (.logout ⟨.refreshFailed, session.generation, session.refreshToken⟩) ∈
            last.happened ∧
          setup.Begins (.logout ⟨.refreshFailed, session.generation, session.refreshToken⟩)
            last.happened) ∧
        (¬ turn.system.ledger.Holds renewal.generation →
          last.system.session = turn.system.session ∧
          last.system.events = turn.system.events ∧
          (∀ event, .emitted event ∉ last.happened) ∧
          (∀ ending, .taken ending ∉ last.happened) ∧
          ∀ purpose, .asked purpose ∉ last.happened)) ∧
    ∀ move last ending, turn.system.step? setup move = some last →
      .taken ending ∈ last.happened → ending.reason = .refreshFailed →
      turn.system.Ends setup move .refreshFailed ending.generation := by
  refine ⟨fun loop due renewal reply failure hphase hfailed => ?_,
    fun move last ending hstep htaken hreason => ?_⟩
  · have hflight : turn.system.InFlight (.loop loop) renewal := ⟨due, hphase⟩
    by_cases hholds : turn.system.ledger.Holds renewal.generation
    · obtain ⟨held, hheld, hsame⟩ := hholds
      obtain ⟨last, hstep, hnone, htaken, hasked⟩ := step?_failed hphase hfailed hheld hsame
      refine ⟨last, hstep, fun session hsession _ => ?_, fun hout => ?_⟩
      · cases (show some held = some session from hheld.symm.trans hsession)
        have honly := (wasRead_of_inFlight hrun hflight).onlyRefreshed hrun ⟨held, hheld, hsame⟩
        exact ⟨honly, hnone, htaken, hasked, (step?_carriesOut hstep).begins hasked⟩
      · exact absurd ⟨held, hheld, hsame⟩ hout
    · obtain ⟨last, hstep, hledger, hfacts, -⟩ := step?_stale setup reply hflight hholds
      refine ⟨last, hstep, fun session hsession hsame => ?_, fun _ => ?_⟩
      · exact absurd ⟨session, hsession, hsame⟩ hholds
      · exact ⟨congrArg Ledger.session hledger, congrArg Ledger.events hledger,
          fun _ => Turn.not_mem_of_facts hfacts rfl, fun _ => Turn.not_mem_of_facts hfacts rfl,
          fun _ => Turn.not_mem_of_facts hfacts rfl⟩
  · have hends : turn.system.Ends setup move ending.reason ending.generation :=
      (step?_acts hstep).mayTake_of_taken ((Turn.mem_facts rfl).2 htaken)
    rwa [hreason] at hends

def tickDue : List Move :=
  [.spawn (.authenticate (.authorizationCode "code")), .start 0, .settle 0 (.ok default),
    .schedule 5 60001, .startLoop 0, .advance 5]

/-- The tick, and another refresh that overtakes its refresh. -/
def tickOvertaken : List Move :=
  [.tick 0, .spawn (.refreshIfNeeded 60001), .start 1, .settle 1 (.ok default)]

theorem tickOvertaken_run :
    ∃ turn, initial.run? (.standard .rotating "http://admin") (tickDue ++ tickOvertaken) =
        some turn ∧
      turn.system.session = some ⟨"access-1", some "refresh-1", 60005, none, 0⟩ ∧
      turn.system.loopPhase? 0 = some (.refreshing 10 ⟨0, "refresh-0"⟩) :=
  ⟨_, rfl, rfl, rfl⟩

/-- When the refresh of the tick then fails, the renewed session is ended. -/
theorem tickOvertaken_ends :
    ∃ turn last, initial.run? (.standard .rotating "http://admin") (tickDue ++ tickOvertaken) =
        some turn ∧
      turn.system.session = some ⟨"access-1", some "refresh-1", 60005, none, 0⟩ ∧
      turn.system.loopPhase? 0 = some (.refreshing 10 ⟨0, "refresh-0"⟩) ∧
      turn.system.step? (.standard .rotating "http://admin") (.settleLoop 0 (.error .timeout)) =
        some last ∧
      last.system.session = none ∧
      .asked (.logout ⟨.refreshFailed, 0, some "refresh-1"⟩) ∈ last.happened ∧
      .sent default ∈ last.happened := by
  obtain ⟨turn, hrun, hsession, hphase⟩ := tickOvertaken_run
  obtain ⟨last, hstep, hended, -⟩ :=
    (run?_forced_logout_by_generation hrun).1 0 10 _ (.error .timeout) .timeout hphase rfl
  obtain ⟨-, hnone, -, hasked, before, after, hbegun⟩ := hended _ hsession rfl
  refine ⟨turn, last, hrun, hsession, hphase, hstep, hnone, hasked, ?_⟩
  rw [hbegun]
  exact List.mem_append_right _ (List.mem_cons_of_mem _ List.mem_cons_self)

theorem tickOvertaken_renews :
    ∃ read later, initial.run? (.standard .rotating "http://admin") tickDue = some read ∧
      read.system.ledger.Reads ⟨0, "refresh-0"⟩ ∧
      read.system.run? (.standard .rotating "http://admin") tickOvertaken = some later ∧
      .renewed ⟨"access-1", some "refresh-1", 60005, none, 0⟩ ∈ later.happened := by
  obtain ⟨read, later, hread, hreads, hlater, hrenewed⟩ : ∃ read later,
      initial.run? (.standard .rotating "http://admin") tickDue = some read ∧
      read.system.ledger.Reads ⟨0, "refresh-0"⟩ ∧
      read.system.run? (.standard .rotating "http://admin") tickOvertaken = some later ∧
      later.happened[6]? =
        some (.renewed ⟨"access-1", some "refresh-1", 60005, none, 0⟩) :=
    ⟨_, _, rfl, ⟨_, rfl, rfl, rfl⟩, rfl, rfl⟩
  exact ⟨read, later, hread, hreads, hlater, List.mem_of_getElem? hrenewed⟩

/-- The failure of a tick can end a session whose tokens have been replaced since the tick read
it. -/
theorem refreshed_session_may_be_ended :
    ¬ ∀ (setup : Setup) (moves : List Move) (turn last : Turn) (loop due : Nat)
      (renewal : Renewal) (reply : Reply) (failure : Failure) (session : Session),
      initial.run? setup moves = some turn →
      turn.system.loopPhase? loop = some (.refreshing due renewal) →
      setup.refreshResult renewal reply = .error failure →
      turn.system.session = some session →
      (∃ before after read later, moves = before ++ after ∧
        initial.run? setup before = some read ∧ read.system.ledger.Reads renewal ∧
        read.system.run? setup after = some later ∧ .renewed session ∈ later.happened) →
      turn.system.step? setup (.settleLoop loop reply) = some last →
      last.system.session = some session := by
  intro hstays
  obtain ⟨turn, hrun, hsession, hphase⟩ := tickOvertaken_run
  obtain ⟨read, later, hread, hreads, hlater, hrenewed⟩ := tickOvertaken_renews
  have hfailed : (Setup.standard .rotating "http://admin").refreshResult ⟨0, "refresh-0"⟩
      (.error .timeout) = .error .timeout := rfl
  obtain ⟨last, hstep, hnone, -⟩ := step?_failed hphase hfailed hsession rfl
  have hkept := hstays _ _ turn last 0 10 _ (.error .timeout) .timeout _ hrun hphase hfailed
    hsession ⟨tickDue, tickOvertaken, read, later, rfl, hread, hreads, hlater, hrenewed⟩ hstep
  rw [hnone] at hkept
  cases hkept

end System

end AdminAccess
