import AdminAccess.Proofs.Session.Stale

/-! # Sessions stay apart

Over all runs: a session that has ended never comes back, and what a refresh brings goes to the
session it was for or nowhere.
-/

namespace AdminAccess

open Ledger (openings)

namespace Turn

theorem openings_facts (turn : Turn) : openings turn.facts = openings turn.happened := by
  refine turn.filterMap_facts fun happening => ?_
  cases happening <;> rfl

end Turn

namespace System

variable {setup : Setup}

/-- A move stores tokens of a refresh that it completes, in the session that the refresh was read
from. -/
theorem step?_renewed {moves : List Move} {turn last : Turn} {move : Move} {new : Session}
    (hrun : initial.run? setup moves = some turn)
    (hstep : turn.system.step? setup move = some last) (hnew : .renewed new ∈ last.happened) :
    ∃ renewal old, turn.system.Carries move renewal ∧
      WasRead setup initial moves renewal ∧ turn.system.session = some old ∧
      old.generation = renewal.generation ∧ new.generation = renewal.generation := by
  have hused : ∀ renewal, turn.system.Carries move renewal →
      renewal.generation < turn.system.ledger.nextGeneration :=
    fun renewal hcarries => (wasRead_of_carries hrun hcarries).lt_nextGeneration hrun
  have hfact : .renewed new ∈ last.facts := (Turn.mem_facts rfl).2 hnew
  obtain ⟨renewal, hcarries, ⟨old, hold, hgeneration⟩, hrenewed⟩ :=
    (step?_acts hstep).of_renewed hused hfact
  exact ⟨renewal, old, hcarries, wasRead_of_carries hrun hcarries, hold, hgeneration, hrenewed⟩

theorem step?_session {system : System} {move : Move} {last : Turn} {session : Session}
    (hstep : system.step? setup move = some last)
    (hsession : last.system.session = some session) :
    system.session = some session ∨ .opened session ∈ last.happened ∨
      .renewed session ∈ last.happened := by
  have hsource := (step?_acts hstep).session_source hsession
  rwa [Turn.mem_facts rfl, Turn.mem_facts rfl] at hsource

/-- A refresh in flight whose session is gone stays too late until its reply comes. -/
theorem run?_stale {moves more : List Move} {turn later : Turn} {actor : Actor}
    {renewal : Renewal} (hrun : initial.run? setup moves = some turn)
    (hflight : turn.system.InFlight actor renewal)
    (hout : ¬ turn.system.ledger.Holds renewal.generation)
    (hmore : turn.system.run? setup more = some later) :
    ¬ later.system.ledger.Holds renewal.generation :=
  (run?_acts hmore).not_holds
    ((wasRead_of_inFlight hrun hflight).lt_nextGeneration hrun) hout

/-- Along every run the session is of a generation below the counter, logins get ever higher
generations, and tokens of a refresh are only stored in the session whose refresh token has been
read for it.  A refresh that completes after its session is gone changes neither the session nor
the counter, tells nothing to anyone and reports that it has stored nothing. -/
theorem run?_sessions_stay_apart {moves : List Move} {turn : Turn}
    (hrun : initial.run? setup moves = some turn) :
    (∀ session, turn.system.session = some session →
      session.generation < turn.system.nextGeneration) ∧
    ((openings turn.happened).map (·.generation)).Pairwise (· < ·) ∧
    (∀ move last, turn.system.step? setup move = some last →
      (∀ new, last.system.session = some new → turn.system.session = some new ∨
        .opened new ∈ last.happened ∨ .renewed new ∈ last.happened) ∧
      ∀ new, .renewed new ∈ last.happened →
        ∃ renewal old, turn.system.Carries move renewal ∧
          WasRead setup initial moves renewal ∧ turn.system.session = some old ∧
          old.generation = renewal.generation ∧ new.generation = renewal.generation) ∧
    ∀ actor renewal, turn.system.InFlight actor renewal →
      ¬ turn.system.ledger.Holds renewal.generation →
      ∀ more later, turn.system.run? setup more = some later →
      later.system.InFlight actor renewal → ∀ reply, ∃ last,
        later.system.step? setup (actor.settleMove reply) = some last ∧
        last.system.session = later.system.session ∧
        last.system.nextGeneration = later.system.nextGeneration ∧
        last.system.events = later.system.events ∧
        (∀ event, .emitted event ∉ last.happened) ∧
        ∀ response, setup.refreshResult renewal reply = .ok response →
          last.system.HasDiscarded actor := by
  refine ⟨run?_settled hrun, ?_, ?_, ?_⟩
  · rw [← Turn.openings_facts]
    exact (run?_acts hrun).openings_increasing.1
  · intro move last hstep
    exact ⟨fun new => step?_session hstep, fun new => step?_renewed hrun hstep⟩
  · intro actor renewal hflight hout more later hmore hlater reply
    have hgone := run?_stale hrun hflight hout hmore
    obtain ⟨last, hstep, hledger, hfacts, hdiscarded⟩ := step?_stale setup reply hlater hgone
    refine ⟨last, hstep, ?_, ?_, ?_, fun event => Turn.not_mem_of_facts hfacts rfl, hdiscarded⟩
    · exact congrArg Ledger.session hledger
    · exact congrArg Ledger.nextGeneration hledger
    · exact congrArg Ledger.events hledger

/-- A login, a refresh, a logout while the refresh is under way, and another login. -/
def refreshOutrun : List Move :=
  [.spawn (.authenticate (.authorizationCode "code")), .start 0, .settle 0 (.ok default),
    .spawn (.refreshIfNeeded 60001), .start 1, .spawn .logout, .start 2,
    .spawn (.authenticate (.authorizationCode "code")), .start 3, .settle 3 (.ok default)]

/-- After them the late tokens of the first session do not touch the second. -/
theorem refreshOutrun_discards :
    ∃ turn last, initial.run? (.standard .rotating "http://admin") refreshOutrun = some turn ∧
      turn.system.InFlight (.task 1) ⟨0, "refresh-0"⟩ ∧ ¬ turn.system.ledger.Holds 0 ∧
      turn.system.step? (.standard .rotating "http://admin") (.settle 1 (.ok default)) =
        some last ∧
      last.system.session = some ⟨"access-0", some "refresh-0", 60000, none, 1⟩ ∧
      last.system.nextGeneration = 2 ∧ last.system.events = [.authenticated, .authenticated] ∧
      last.system.HasDiscarded (.task 1) := by
  obtain ⟨turn, hrun, hflight, hsession, hcounter, hevents⟩ : ∃ turn,
      initial.run? (.standard .rotating "http://admin") refreshOutrun = some turn ∧
      turn.system.InFlight (.task 1) ⟨0, "refresh-0"⟩ ∧
      turn.system.session = some ⟨"access-0", some "refresh-0", 60000, none, 1⟩ ∧
      turn.system.nextGeneration = 2 ∧ turn.system.events = [.authenticated, .authenticated] :=
    ⟨_, rfl, rfl, rfl, rfl, rfl⟩
  have hout : ¬ turn.system.ledger.Holds 0 := by
    rintro ⟨session, hheld, hgeneration⟩
    rw [show turn.system.session = some session from hheld] at hsession
    cases hsession
    cases hgeneration
  obtain ⟨last, hstep, hkept, hcount, htold, -, hdiscarded⟩ :=
    (run?_sessions_stay_apart hrun).2.2.2 (.task 1) _ hflight hout [] _ rfl hflight (.ok default)
  exact ⟨turn, last, hrun, hflight, hout, hstep, hkept.trans hsession, hcount.trans hcounter,
    htold.trans hevents, hdiscarded _ rfl⟩

end System

end AdminAccess
