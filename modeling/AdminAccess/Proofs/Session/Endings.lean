import AdminAccess.Proofs.Session.Books
import AdminAccess.Proofs.Session.Dispatch
import AdminAccess.Proofs.Session.Exchanges

/-! # Sessions end once

Over all runs: no generation is taken out twice, and the books of the moves balance.  Hence no
session is ended at the identity provider twice, and subscribers are told once of each.
-/

namespace AdminAccess

open Ledger (takings logouts farewells heard NoEnding Books asks sents)

/-! ## Generations that are taken out -/

namespace Ledger

variable {guard : Guard} {first last : Ledger} {facts : List Happening}

theorem Act.takings (hact : Act guard first facts last) :
    Ledger.takings facts = [] ∨
      ∃ ending, Ledger.takings facts = [ending] ∧ first.Holds ending.generation ∧
        last.session = none := by
  cases hact with
  | take hold hmay => exact .inr ⟨_, rfl, ⟨_, hold, rfl⟩, rfl⟩
  | _ => exact .inl rfl

/-- What is taken out later is of no generation that is out already. -/
theorem Acts.taken_ne {generation : Nat} {ending : Ending} (hacts : Acts guard first facts last)
    (hused : generation < first.nextGeneration) (hout : ¬ first.Holds generation)
    (hmem : .taken ending ∈ facts) : ending.generation ≠ generation := by
  rintro rfl
  obtain ⟨_, _, _, start, _, _, hbefore, hact, hown, _⟩ := hacts.split hmem
  refine hbefore.not_holds hused hout ?_
  cases hact with
  | take hold hmay =>
      cases List.mem_singleton.1 hown
      exact ⟨_, hold, rfl⟩
  | _ => simp at hown

/-- No generation is taken out twice. -/
theorem Acts.takings_distinct (hacts : Acts guard first facts last) (h : first.Settled) :
    ((Ledger.takings facts).map (·.generation)).Nodup := by
  induction hacts with
  | done => exact List.nodup_nil
  | @next first second last facts more hact hrest ih =>
      rw [takings_append]
      obtain hnone | ⟨ending, hone, ⟨session, hsession, hgeneration⟩, hout⟩ := hact.takings
      · rw [hnone, List.nil_append]
        exact ih (hact.settled h)
      · rw [hone, List.singleton_append, List.map_cons, List.nodup_cons]
        refine ⟨fun hmem => ?_, ih (hact.settled h)⟩
        obtain ⟨later, hlater, hsame⟩ := List.mem_map.1 hmem
        have hused : ending.generation < second.nextGeneration :=
          hgeneration ▸ Nat.lt_of_lt_of_le (h session hsession) hact.nextGeneration_le
        have hgone : ¬ second.Holds ending.generation := by
          rintro ⟨held, hheld, -⟩
          rw [hout] at hheld
          cases hheld
        exact hrest.taken_ne hused hgone (mem_takings.1 hlater) hsame

theorem NoEnding.not_taken {ending : Ending} (h : NoEnding facts) : .taken ending ∉ facts := by
  rw [← mem_takings, h.takings]
  exact List.not_mem_nil

end Ledger

namespace System

/-! ## How a session goes -/

/-- A move leaves no session where there was one: a logout or a forced logout takes it out, a
login fails, or a refresh brings a lifetime that breaks the clock. -/
inductive Loses (setup : Setup) (system : System) (move : Move) (old : Session)
    (facts : List Happening) : Prop
  | taken {reason : EndReason} (hmem : .taken (old.ending reason) ∈ facts)
  | refused {detail : String} (hmem : .emitted (.authenticationFailed detail) ∈ facts)
  | broken {renewal : Renewal} {result : Except Failure TokenResponse}
      {response : TokenResponse} {fault : ClockFault}
      (hbrings : BringsRefresh setup system move renewal result) (hresult : result = .ok response)
      (hbroken : old.refreshed response system.now = .error fault)

section Loses

variable {setup : Setup} {system after : System} {facts : List Happening} {old : Session}

theorem EndsSession.taken {reason : EndReason} {expected : Option Nat} {farewell : Farewell}
    {ending : Ending} (h : EndsSession setup system reason expected facts after farewell)
    (hmem : .taken ending ∈ facts) :
    ∃ session, system.session = some session ∧ ending = session.ending ending.reason := by
  cases h with
  | stale | idle => cases hmem
  | asked hsession | settled hsession =>
      rw [← Ledger.mem_takings] at hmem
      cases List.mem_singleton.1 hmem
      exact ⟨_, hsession, rfl⟩

theorem EndsSession.gone {reason : EndReason} {expected : Option Nat} {farewell : Farewell}
    (h : EndsSession setup system reason expected facts after farewell)
    (hold : system.session = some old) (hnone : after.session = none) :
    .taken (old.ending reason) ∈ facts := by
  cases h with
  | stale => rw [hold] at hnone; cases hnone
  | idle hidle => rw [hold] at hidle; cases hidle
  | asked hsession | settled hsession =>
      rw [hold] at hsession
      cases hsession
      exact List.mem_cons_self

theorem LoginEnds.gone {result : Except Failure TokenResponse} {ends : TaskResult}
    (h : LoginEnds system result facts after ends) (hold : system.session = some old)
    (hnone : after.session = none) : ∃ detail, .emitted (.authenticationFailed detail) ∈ facts := by
  cases h with
  | refused => exact ⟨_, List.mem_singleton_self _⟩
  | broken => rw [show system.session = none from hnone] at hold; cases hold
  | opened => cases hnone

theorem EntersGate.gone {task : Nat} {credentials : Credentials}
    (h : EntersGate setup system task credentials facts after)
    (hold : system.session = some old) (hnone : after.session = none) :
    ∃ detail, .emitted (.authenticationFailed detail) ∈ facts := by
  cases h with
  | already =>
      have hopen : system.openGate.session = none := hnone
      rw [openGate_session, hold] at hopen
      cases hopen
  | asked =>
      rw [show system.session = none from hnone] at hold
      cases hold
  | @settled settlement facts middle result hvalid hsettled hends =>
      obtain ⟨detail, hmem⟩ := hends.gone hold (middle.openGate_session.symm.trans hnone)
      exact ⟨detail, List.mem_cons_of_mem _ hmem⟩

theorem RefreshEnds.gone {renewal : Renewal} {result : Except Failure TokenResponse}
    {renewed : Renewed} (h : RefreshEnds system renewal result facts after renewed)
    (hold : system.session = some old) (hnone : after.session = none) :
    ∃ response fault, result = .ok response ∧
      old.refreshed response system.now = .error fault := by
  cases h with
  | failed | discarded => rw [hold] at hnone; cases hnone
  | stored => cases hnone
  | broken hresult hheld hgeneration hnew =>
      rw [hold] at hheld
      cases hheld
      exact ⟨_, _, hresult, hnew⟩

theorem AsksRefresh.gone {renewal : Renewal} {renewed : Option Renewed}
    (h : AsksRefresh setup system renewal facts after renewed)
    (hold : system.session = some old) (hnone : after.session = none) :
    ∃ settlement response fault,
      (setup.identity.refresh renewal.refreshToken).settlement? = some settlement ∧
      settlement.result = .ok response ∧ old.refreshed response system.now = .error fault := by
  cases h with
  | pending => rw [hold] at hnone; cases hnone
  | settled hsettled hends =>
      obtain ⟨response, fault, hresult, hbroken⟩ := hends.gone hold hnone
      exact ⟨_, response, fault, hsettled, hresult, hbroken⟩

theorem afterFarewell_session (system : System) (loop : Nat) (farewell : Farewell) :
    (system.afterFarewell loop farewell).session = system.session := by
  cases farewell <;> rfl

/-- A loop that goes on after a refresh takes the session out or keeps it. -/
theorem GoesOn.gone {loop due : Nat} {renewal : Renewal} {renewed : Renewed}
    (h : GoesOn setup system loop due renewal renewed facts after)
    (hold : system.session = some old) (hnone : after.session = none) :
    .taken (old.ending .refreshFailed) ∈ facts := by
  cases h with
  | stored | discarded | broken =>
      rw [show system.session = none from hnone] at hold
      cases hold
  | failed hends =>
      rw [afterFarewell_session] at hnone
      exact hends.gone hold hnone

/-- The session goes with the refresh or when the loop goes on. -/
theorem RefreshEnds.gone_on {middle : System} {more : List Happening} {loop due : Nat}
    {renewal : Renewal} {result : Except Failure TokenResponse} {renewed : Renewed}
    (hends : RefreshEnds system renewal result facts middle renewed)
    (hgoes : GoesOn setup middle loop due renewal renewed more after)
    (hold : system.session = some old) (hnone : after.session = none) :
    .taken (old.ending .refreshFailed) ∈ more ∨
      ∃ response fault, result = .ok response ∧
        old.refreshed response system.now = .error fault := by
  cases hmiddle : middle.session with
  | none => exact .inr (hends.gone hold hmiddle)
  | some session =>
      have htaken := hgoes.gone hmiddle hnone
      cases hends with
      | failed | discarded =>
          rw [hold] at hmiddle
          cases hmiddle
          exact .inl htaken
      | stored => cases hgoes; cases hnone
      | broken => cases hmiddle

theorem Starts.gone {task : Nat} {job : Job} (h : Starts setup system task job facts after)
    (hphase : system.taskPhase? task = some (.ready job)) (hold : system.session = some old)
    (hnone : after.session = none) : Loses setup system (.start task) old facts := by
  cases h with
  | alreadyIn | queues | unrefreshed | uncalled | answered | calling =>
      rw [show system.session = none from hnone] at hold
      cases hold
  | enters hvalid hfree henters =>
      obtain ⟨detail, hmem⟩ := henters.gone hold hnone
      exact .refused hmem
  | refreshing hcandidate hasks | refreshed hcandidate hasks =>
      obtain ⟨_, _, _, hsettled, hresult, hbroken⟩ := hasks.gone hold hnone
      exact .broken (.start hphase hcandidate hsettled) hresult hbroken
  | logout hends => exact .taken (hends.gone hold hnone)

theorem Settles.gone {task : Nat} {reply : Reply} {phase : TaskPhase}
    (h : Settles setup system task reply phase facts after)
    (hphase : system.taskPhase? task = some phase) (hold : system.session = some old)
    (hnone : after.session = none) : Loses setup system (.settle task reply) old facts := by
  cases h with
  | @login credentials facts middle result hends =>
      obtain ⟨detail, hmem⟩ := hends.gone hold (middle.openGate_session.symm.trans hnone)
      exact .refused hmem
  | refresh hends =>
      obtain ⟨_, _, hresult, hbroken⟩ := hends.gone hold hnone
      exact .broken (.settle hphase) hresult hbroken
  | logout | call =>
      rw [show system.session = none from hnone] at hold
      cases hold

theorem Ticks.gone {loop interval minValidity due next : Nat} {cancelled : Bool}
    (h : Ticks setup system loop next minValidity facts after)
    (hloop : system.loops[loop]? = some ⟨interval, minValidity, cancelled, .waiting due⟩)
    (hold : system.session = some old) (hnone : after.session = none) :
    Loses setup system (.tick loop) old facts := by
  cases h with
  | closed | noSession | fresh =>
      rw [show system.session = none from hnone] at hold
      cases hold
  | unusable hcandidate hends =>
      rw [afterFarewell_session] at hnone
      exact .taken (hends.gone hold hnone)
  | refreshing hcandidate hasks =>
      obtain ⟨_, _, _, hsettled, hresult, hbroken⟩ := hasks.gone hold hnone
      exact .broken (.tick hloop hcandidate hsettled) hresult hbroken
  | refreshed hcandidate hasks hgoes =>
      cases hasks with
      | settled hsettled hends =>
          obtain htaken | ⟨_, _, hresult, hbroken⟩ := hends.gone_on hgoes hold hnone
          · exact .taken (List.mem_append_right _ htaken)
          · exact .broken (.tick hloop hcandidate hsettled) hresult hbroken

theorem LoopSettles.gone {loop : Nat} {reply : Reply} {phase : LoopPhase}
    (h : LoopSettles setup system loop reply phase facts after)
    (hphase : system.loopPhase? loop = some phase) (hold : system.session = some old)
    (hnone : after.session = none) : Loses setup system (.settleLoop loop reply) old facts := by
  cases h with
  | refresh hends hgoes =>
      obtain htaken | ⟨_, _, hresult, hbroken⟩ := hends.gone_on hgoes hold hnone
      · exact .taken (List.mem_append_right _ htaken)
      · exact .broken (.settleLoop hphase) hresult hbroken
  | logout =>
      rw [show system.session = none from hnone] at hold
      cases hold

theorem Does.gone {move : Move} (h : Does setup system move facts after)
    (hold : system.session = some old) (hnone : after.session = none) :
    Loses setup system move old facts := by
  cases h with
  | start hphase hstarts => exact hstarts.gone hphase hold hnone
  | settle hphase hsettles => exact hsettles.gone hphase hold hnone
  | tick hloop hdue hticks => exact hticks.gone hloop hold hnone
  | settleLoop hphase hsettles => exact hsettles.gone hphase hold hnone
  | passGate hphase hadmitted henters =>
      obtain ⟨detail, hmem⟩ := henters.gone hold hnone
      exact .refused hmem
  | schedule =>
      have hregistered : (system.register (some system.loops.length)).session = none := hnone
      rw [register_session, hold] at hregistered
      cases hregistered
  | spawn | startLoop | stopLoop | cancel | release | advance =>
      rw [show system.session = none from hnone] at hold
      cases hold

theorem RefreshEnds.taken_on {first middle : System} {more : List Happening} {loop due : Nat}
    {renewal : Renewal} {result : Except Failure TokenResponse} {renewed : Renewed}
    {ending : Ending} (hends : RefreshEnds first renewal result facts middle renewed)
    (hgoes : GoesOn setup middle loop due renewal renewed more after)
    (hmem : .taken ending ∈ facts ++ more) :
    ∃ session, first.session = some session ∧ ending = session.ending ending.reason := by
  have hmore := (List.mem_append.1 hmem).resolve_left hends.noEnding.not_taken
  cases hgoes with
  | stored | discarded | broken => cases hmore
  | failed hended =>
      cases hends
      exact hended.taken hmore

/-- What a move takes out is the session of the moment, with its refresh token. -/
theorem Does.taken {move : Move} {ending : Ending} (h : Does setup system move facts after)
    (hmem : .taken ending ∈ facts) :
    ∃ session, system.session = some session ∧ ending = session.ending ending.reason := by
  cases h with
  | spawn | schedule | startLoop | stopLoop | cancel | release | advance => cases hmem
  | passGate hphase hadmitted henters => exact absurd hmem henters.noEnding.not_taken
  | start hphase hstarts =>
      cases hstarts with
      | alreadyIn | queues | unrefreshed | uncalled => cases hmem
      | enters hvalid hfree henters => exact absurd hmem henters.noEnding.not_taken
      | refreshing hcandidate hasks | refreshed hcandidate hasks =>
          exact absurd hmem hasks.noEnding.not_taken
      | logout hends => exact hends.taken hmem
      | answered | calling => exact absurd hmem (NoEnding.called _).not_taken
  | settle hphase hsettles =>
      cases hsettles with
      | login hends => exact absurd hmem hends.noEnding.not_taken
      | refresh hends => exact absurd hmem hends.noEnding.not_taken
      | logout => cases List.mem_singleton.1 hmem
      | call => exact absurd hmem (NoEnding.called _).not_taken
  | tick hloop hdue hticks =>
      cases hticks with
      | closed | noSession | fresh => cases hmem
      | unusable hcandidate hends => exact hends.taken hmem
      | refreshing hcandidate hasks => exact absurd hmem hasks.noEnding.not_taken
      | refreshed hcandidate hasks hgoes =>
          cases hasks with
          | settled hsettled hends =>
              refine hends.taken_on hgoes ((List.mem_cons.1 hmem).resolve_left ?_)
              simp
  | settleLoop hphase hsettles =>
      cases hsettles with
      | refresh hends hgoes => exact hends.taken_on hgoes hmem
      | logout => cases List.mem_singleton.1 hmem

end Loses

/-! ## Runs -/

variable {setup : Setup}

theorem step?_taken_held {system : System} {move : Move} {last : Turn} {ending : Ending}
    (hstep : system.step? setup move = some last) (hmem : .taken ending ∈ last.happened) :
    ∃ session, system.session = some session ∧ ending = session.ending ending.reason := by
  obtain ⟨after, hdoes, -⟩ := step?_does hstep
  exact hdoes.taken ((Turn.mem_facts rfl).2 hmem)

theorem step?_loses {system : System} {move : Move} {last : Turn} {old : Session}
    (hstep : system.step? setup move = some last) (hold : system.session = some old)
    (hnone : last.system.session = none) : Loses setup system move old last.happened := by
  obtain ⟨after, hdoes, hclosed⟩ := step?_does hstep
  have hgone : after.session = none := by rw [← closeUnused_session, ← hclosed, hnone]
  cases hdoes.gone hold hgone with
  | taken hmem => exact .taken ((Turn.mem_facts rfl).1 hmem)
  | refused hmem => exact .refused ((Turn.mem_facts rfl).1 hmem)
  | broken hbrings hresult hbroken => exact .broken hbrings hresult hbroken

/-- The sessions whose end subscribers are told of along a run. -/
def heardAlong (setup : Setup) (system : System) : List Move → List Ending
  | [] => []
  | move :: rest =>
    match system.step? setup move with
    | none => []
    | some turn =>
      heard (system.waited? move) turn.happened ++ turn.system.heardAlong setup rest

/-- One move keeps the books of all endings. -/
theorem step?_books {system : System} {move : Move} {turn : Turn}
    (h : system.step? setup move = some turn) :
    logouts turn.happened = takings turn.happened ∧
      farewells turn.happened =
        (heard (system.waited? move) turn.happened).map (·.reason) ∧
      (system.leaving ++ takings turn.happened).Perm
        (heard (system.waited? move) turn.happened ++ turn.system.leaving) := by
  obtain ⟨after, hdoes, hclosed⟩ := step?_does h
  obtain ⟨waits, ⟨hasked, htold, hkept⟩, hleaving⟩ := hdoes.books
  have hheard : heard (system.waited? move) turn.facts =
      heard (system.waited? move) turn.happened := by
    rw [heard, heard, turn.farewells_facts, turn.takings_facts]
  rw [turn.logouts_facts, turn.takings_facts] at hasked
  rw [turn.farewells_facts, hheard] at htold
  rw [turn.takings_facts, hheard] at hkept
  refine ⟨hasked, htold, ?_⟩
  rw [hclosed, after.closeUnused_sameWork.leaving]
  rw [List.perm_iff_count] at hleaving ⊢
  intro ending
  have hcount := hleaving ending
  have hmover := congrArg (List.count ending) hkept
  simp only [List.count_append] at hcount hmover ⊢
  omega

/-- Every run keeps the books of all endings: what has been taken out has been asked for, and has
been told of or is still being ended. -/
theorem run?_books {system : System} {moves : List Move} {turn : Turn}
    (h : system.run? setup moves = some turn) :
    logouts turn.happened = takings turn.happened ∧
      farewells turn.happened = (heardAlong setup system moves).map (·.reason) ∧
      (system.leaving ++ takings turn.happened).Perm
        (heardAlong setup system moves ++ turn.system.leaving) := by
  induction moves generalizing system turn with
  | nil =>
      cases h
      exact ⟨rfl, rfl, by simp [takings, heardAlong, Turn.start]⟩
  | cons move rest ih =>
      obtain ⟨first, later, hstep, hrest, rfl⟩ := run?_cons.1 h
      obtain ⟨hasked, htold, hkept⟩ := step?_books hstep
      obtain ⟨hasked', htold', hkept'⟩ := ih hrest
      have hheard : heardAlong setup system (move :: rest) =
          heard (system.waited? move) first.happened ++
            first.system.heardAlong setup rest := by
        simp only [heardAlong, hstep]
      refine ⟨?_, ?_, ?_⟩
      · simp only [Turn.andThen_happened, Ledger.logouts_append, Ledger.takings_append, hasked,
          hasked']
      · simp only [Turn.andThen_happened, Ledger.farewells_append, htold, htold', hheard,
          List.map_append]
      · rw [hheard, Turn.andThen_happened, Turn.andThen_system, Ledger.takings_append]
        rw [List.perm_iff_count] at hkept hkept' ⊢
        intro ending
        have hfirst := hkept ending
        have hlater := hkept' ending
        simp only [List.count_append] at hfirst hlater ⊢
        omega

theorem leaving_of_idle {system : System}
    (htasks : ∀ phase ∈ system.tasks, phase.isFinished = true)
    (hloops : ∀ l ∈ system.loops, l.phase.isTicking = false) : system.leaving = [] := by
  rw [leaving, loopPhases, List.append_eq_nil_iff, List.filterMap_eq_nil_iff,
    List.filterMap_eq_nil_iff]
  constructor
  · intro phase hmem
    have hfinished := htasks phase hmem
    cases phase <;> first | rfl | cases hfinished
  · intro phase hmem
    obtain ⟨l, hl, rfl⟩ := List.mem_map.1 hmem
    have hticking := hloops l hl
    cases hphase : l.phase <;> first | rfl | (rw [hphase] at hticking; cases hticking)

/-- Along every run no session is ended twice at the identity provider, and it is asked for an
end exactly when a logout or forced logout takes the session out; at once the logout with the
refresh token that the session has then begins, and no request is sent but for what is asked.
Every farewell to subscribers is about a session of its own that has been
taken out, and when nothing is under way there are as many of them as sessions taken out. -/
theorem run?_sessions_end_once {moves : List Move} {turn : Turn}
    (hrun : initial.run? setup moves = some turn) :
    ((logouts turn.happened).map (·.generation)).Nodup ∧
    (∀ move last, turn.system.step? setup move = some last →
      logouts last.happened = takings last.happened ∧
      (∀ ending, .taken ending ∈ last.happened →
        turn.system.Ends setup move ending.reason ending.generation ∧
        last.system.session = none ∧
        (∃ session, turn.system.session = some session ∧
          ending = session.ending ending.reason) ∧
        setup.Begins (.logout ending) last.happened) ∧
      ∀ old, turn.system.session = some old → last.system.session = none →
        Loses setup turn.system move old last.happened) ∧
    sents turn.happened = (asks turn.happened).flatMap setup.requests ∧
    farewells turn.happened = (heardAlong setup initial moves).map (·.reason) ∧
    ((heardAlong setup initial moves).map (·.generation)).Nodup ∧
    (∀ ending ∈ heardAlong setup initial moves, ending ∈ takings turn.happened) ∧
    (takings turn.happened).length =
      (farewells turn.happened).length + turn.system.leaving.length ∧
    ((∀ phase ∈ turn.system.tasks, phase.isFinished = true) →
      (∀ l ∈ turn.system.loops, l.phase.isTicking = false) →
      (farewells turn.happened).length = (takings turn.happened).length) := by
  obtain ⟨hasked, htold, hkept⟩ := run?_books hrun
  have hinitial : initial.leaving ++ takings turn.happened = takings turn.happened := rfl
  rw [hinitial] at hkept
  have hdistinct : ((takings turn.happened).map (·.generation)).Nodup := by
    rw [← Turn.takings_facts]
    exact (run?_acts hrun).takings_distinct initial_settled
  have hheard : ((heardAlong setup initial moves ++ turn.system.leaving).map
      (·.generation)).Nodup := (hkept.map _).nodup_iff.1 hdistinct
  have hlength : (takings turn.happened).length =
      (farewells turn.happened).length + turn.system.leaving.length := by
    rw [htold, List.length_map, hkept.length_eq, List.length_append]
  refine ⟨hasked ▸ hdistinct, fun move last hstep => ⟨(step?_books hstep).1, ?_, ?_⟩,
    (run?_carriesOut hrun).sents_eq, htold, ?_, fun ending hmem => ?_, hlength,
    fun htasks hloops => ?_⟩
  · intro ending hmem
    have hlogout : ending ∈ logouts last.happened := by
      rw [(step?_books hstep).1]
      exact Ledger.mem_takings.2 hmem
    exact ⟨(step?_acts hstep).mayTake_of_taken ((Turn.mem_facts rfl).2 hmem),
      step?_taken hstep hmem, step?_taken_held hstep hmem,
      (step?_carriesOut hstep).begins (Ledger.mem_logouts.1 hlogout)⟩
  · exact fun old => step?_loses hstep
  · rw [List.map_append] at hheard
    exact (List.nodup_append.1 hheard).1
  · exact hkept.mem_iff.2 (List.mem_append_left _ hmem)
  · rw [hlength, leaving_of_idle htasks hloops, List.length_nil, Nat.add_zero]

/-- A login, and a loop whose refresh fails and which has ended the session. -/
def forcedOut : List Move :=
  [.spawn (.authenticate (.authorizationCode "code")), .start 0, .settle 0 (.ok default),
    .schedule 5 60001, .startLoop 0, .advance 5, .tick 0, .settleLoop 0 (.error .timeout),
    .settleLoop 0 (.ok default)]

/-- The session is ended once, with the last of three requests, and subscribers hear of it
once. -/
theorem forcedOut_ends_once :
    ∃ turn, initial.run? (.standard .rotating "http://admin") forcedOut = some turn ∧
      logouts turn.happened = [⟨.refreshFailed, 0, some "refresh-0"⟩] ∧
      sents turn.happened = [default, default, default] ∧
      (farewells turn.happened).length = 1 := by
  obtain ⟨turn, hrun, htasks, hloops, hlogouts, htakings, hasks⟩ : ∃ turn,
      initial.run? (.standard .rotating "http://admin") forcedOut = some turn ∧
      (∀ phase ∈ turn.system.tasks, phase.isFinished = true) ∧
      turn.system.loops = [⟨5, 60001, true, .ended⟩] ∧
      logouts turn.happened = [⟨.refreshFailed, 0, some "refresh-0"⟩] ∧
      takings turn.happened = [⟨.refreshFailed, 0, some "refresh-0"⟩] ∧
      asks turn.happened = [.login (.authorizationCode "code"), .refresh ⟨0, "refresh-0"⟩,
        .logout ⟨.refreshFailed, 0, some "refresh-0"⟩] :=
    ⟨_, rfl, List.forall_mem_singleton.2 rfl, rfl, rfl, rfl, rfl⟩
  obtain ⟨-, -, hsents, -, -, -, -, hcount⟩ := run?_sessions_end_once hrun
  refine ⟨turn, hrun, hlogouts, by rw [hsents, hasks]; rfl, ?_⟩
  rw [hcount htasks (by rw [hloops]; exact List.forall_mem_singleton.2 rfl), htakings]
  rfl

end System

end AdminAccess
