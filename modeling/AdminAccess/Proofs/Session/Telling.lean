import AdminAccess.Proofs.Session.Endings
import AdminAccess.Proofs.Session.Upkeep

/-! # What the events tell

Somebody who follows the events knows whether there is a session: after a login or a refresh
there is one, after a failed login or the end of a session there is none.  A login and a refresh
change the session and tell of it in one stretch.  The end of a session is told of only when the
identity provider has answered, and a login done meanwhile is overtaken by it.
-/

namespace AdminAccess

open Ledger (takings farewells NoEnding)

def SessionEvent.tellsSession : SessionEvent → Bool
  | .authenticated | .refreshed => true
  | .authenticationFailed _ | .loggedOut _ => false

def Told (events : List SessionEvent) : Bool :=
  events.getLast?.any SessionEvent.tellsSession

theorem told_of_last {events before : List SessionEvent} {event : SessionEvent}
    (h : events = before ++ [event]) : Told events = event.tellsSession := by
  simp [Told, h]

namespace Ledger

/-- What a move makes of the session and what it tells. -/
inductive Turnover (first : Ledger) (facts : List Happening) (last : Ledger) : Prop
  | quiet (hending : NoEnding facts) (hsession : last.session = first.session)
      (hevents : last.events = first.events)
  | opened {session : Session} (hending : NoEnding facts) (hopened : .opened session ∈ facts)
      (hsession : last.session = some session)
      (hevents : last.events = first.events ++ [.authenticated])
  | renewed {old new : Session} (hending : NoEnding facts) (hold : first.session = some old)
      (hgeneration : new.generation = old.generation) (hsession : last.session = some new)
      (hevents : last.events = first.events ++ [.refreshed])
  | refused {detail : String} (hending : NoEnding facts) (hsession : last.session = none)
      (hevents : last.events = first.events ++ [.authenticationFailed detail])
  /-- The session is out, and the identity provider has not answered yet. -/
  | taken {ending : Ending} (htakings : takings facts = [ending])
      (hfarewells : farewells facts = [])
      (hsession : last.session = none) (hevents : last.events = first.events)
  /-- The session is out, and its end is told of at once. -/
  | ended {ending : Ending} (htakings : takings facts = [ending])
      (hfarewells : farewells facts = [ending.reason]) (hsession : last.session = none)
      (hevents : last.events = first.events ++ [.loggedOut ending.reason])
  /-- The end of a session that has been out already is told of. -/
  | told {reason : EndReason} (htakings : takings facts = [])
      (hfarewells : farewells facts = [reason]) (hsession : last.session = first.session)
      (hevents : last.events = first.events ++ [.loggedOut reason])

variable {first last : Ledger} {facts : List Happening}

/-- A fact before that is not about the end of a session changes nothing. -/
theorem Turnover.behind {happening : Happening} (h : Turnover first facts last)
    (hfirst : NoEnding [happening]) : Turnover first (happening :: facts) last := by
  have htakings : takings (happening :: facts) = takings facts := by
    rw [← List.singleton_append, takings_append, hfirst.takings, List.nil_append]
  have hfarewells : farewells (happening :: facts) = farewells facts := by
    rw [← List.singleton_append, farewells_append, hfirst.farewells, List.nil_append]
  cases h with
  | quiet hending hsession hevents => exact .quiet (.cons hfirst hending) hsession hevents
  | opened hending hopened hsession hevents =>
      exact .opened (.cons hfirst hending) (List.mem_cons_of_mem _ hopened) hsession hevents
  | renewed hending hold hgeneration hsession hevents =>
      exact .renewed (.cons hfirst hending) hold hgeneration hsession hevents
  | refused hending hsession hevents =>
      exact .refused (.cons hfirst hending) hsession hevents
  | taken htaken htold hsession hevents =>
      exact .taken (htakings.trans htaken) (hfarewells.trans htold) hsession hevents
  | ended htaken htold hsession hevents =>
      exact .ended (htakings.trans htaken) (hfarewells.trans htold) hsession hevents
  | told htaken htold hsession hevents =>
      exact .told (htakings.trans htaken) (hfarewells.trans htold) hsession hevents

theorem Turnover.called (requests : List Request) :
    Turnover first (requests.map .called) first :=
  .quiet (.called requests) rfl rfl

theorem Turnover.nothing : Turnover first [] first :=
  .quiet .nil rfl rfl

end Ledger

open Ledger (Turnover)

namespace System

/-! ## Stretches -/

section Turnover

variable {setup : Setup} {system after : System} {facts more : List Happening}

theorem openGate_ledger (system : System) : system.openGate.ledger = system.ledger :=
  system.openGate_keeps.1

theorem register_ledger (system : System) (loop : Option Nat) :
    (system.register loop).ledger = system.ledger :=
  (system.register_keeps loop).1

theorem afterFarewell_ledger (system : System) (loop : Nat) (farewell : Farewell) :
    (system.afterFarewell loop farewell).ledger = system.ledger := by
  cases farewell <;> rfl

theorem LoginEnds.turnover {result : Except Failure TokenResponse} {ends : TaskResult}
    (h : LoginEnds system result facts after ends) :
    Turnover system.ledger facts after.ledger := by
  have hending := h.noEnding
  cases h with
  | refused => exact .refused hending rfl rfl
  | broken => exact .quiet hending rfl rfl
  | opened => exact .opened hending List.mem_cons_self rfl rfl

theorem EntersGate.turnover {task : Nat} {credentials : Credentials}
    (h : EntersGate setup system task credentials facts after) :
    Turnover system.ledger facts after.ledger := by
  cases h with
  | already =>
      rw [setTask_ledger, openGate_ledger]
      exact .nothing
  | asked => exact .quiet ⟨rfl, rfl, rfl⟩ rfl rfl
  | settled hvalid hsettled hends =>
      rw [setTask_ledger, openGate_ledger]
      exact hends.turnover.behind ⟨rfl, rfl, rfl⟩

/-- A refresh within reach of the clock is told of as soon as it is stored. -/
theorem RefreshEnds.turnover {renewal : Renewal} {result : Except Failure TokenResponse}
    {renewed : Renewed} (h : RefreshEnds system renewal result facts after renewed)
    (hfits : ∀ response, result = .ok response → response.FitsClock system.now) :
    Turnover system.ledger facts after.ledger := by
  have hending := h.noEnding
  cases h with
  | failed | discarded => exact .nothing
  | stored hresult hold hgeneration hnew =>
      exact .renewed hending hold (Session.refreshed_generation hnew) rfl rfl
  | broken hresult hold hgeneration hnew =>
      exact absurd hnew (Session.refreshed_ne_error (hfits _ hresult) _ _)

theorem AsksRefresh.turnover {renewal : Renewal} {renewed : Option Renewed}
    (h : AsksRefresh setup system renewal facts after renewed)
    (hfits : ∀ settlement response,
      (setup.identity.refresh renewal.refreshToken).settlement? = some settlement →
      settlement.result = .ok response → response.FitsClock system.now) :
    Turnover system.ledger facts after.ledger := by
  cases h with
  | pending => exact .quiet ⟨rfl, rfl, rfl⟩ rfl rfl
  | settled hsettled hends =>
      exact (hends.turnover fun response => hfits _ response hsettled).behind ⟨rfl, rfl, rfl⟩

theorem EndsSession.turnover {reason : EndReason} {expected : Option Nat} {farewell : Farewell}
    (h : EndsSession setup system reason expected facts after farewell) :
    Turnover system.ledger facts after.ledger := by
  cases h with
  | stale => exact .nothing
  | idle =>
      rw [register_ledger]
      exact .nothing
  | asked =>
      rw [withoutSession, register_ledger]
      exact .taken rfl rfl rfl rfl
  | settled =>
      have hledger := register_ledger { system with session := none } none
      refine .ended rfl rfl (register_session _ none) ?_
      show system.withoutSession.events ++ [_] = system.events ++ [_]
      rw [show system.withoutSession.events = _ from congrArg Ledger.events hledger]
      rfl

/-- A loop that goes on after a refresh tells of it, or of the end of the session. -/
theorem RefreshEnds.turnover_on {middle : System} {loop due : Nat} {renewal : Renewal}
    {result : Except Failure TokenResponse} {renewed : Renewed}
    (hends : RefreshEnds system renewal result facts middle renewed)
    (hgoes : GoesOn setup middle loop due renewal renewed more after)
    (hfits : ∀ response, result = .ok response → response.FitsClock system.now) :
    Turnover system.ledger (facts ++ more) after.ledger := by
  have hturnover := hends.turnover hfits
  cases hgoes with
  | stored | discarded | broken =>
      rw [setLoop_ledger, List.append_nil]
      exact hturnover
  | failed hended =>
      cases hends
      rw [afterFarewell_ledger]
      exact hended.turnover

theorem Starts.turnover {task : Nat} {job : Job} (h : Starts setup system task job facts after)
    (hphase : system.taskPhase? task = some (.ready job))
    (hfits : RefreshesFit setup system (.start task)) :
    Turnover system.ledger facts after.ledger := by
  cases h with
  | alreadyIn | queues | unrefreshed | uncalled => exact .nothing
  | enters hvalid hfree henters => exact henters.turnover
  | refreshing hcandidate hasks | refreshed hcandidate hasks =>
      exact hasks.turnover fun settlement response hsettled =>
        hfits.fits (.start hphase hcandidate hsettled) response
  | logout hends => exact hends.turnover
  | answered | calling => exact .called _

theorem Settles.turnover {task : Nat} {reply : Reply} {phase : TaskPhase}
    (h : Settles setup system task reply phase facts after)
    (hphase : system.taskPhase? task = some phase)
    (hfits : RefreshesFit setup system (.settle task reply)) :
    Turnover system.ledger facts after.ledger := by
  cases h with
  | login hends =>
      rw [setTask_ledger, openGate_ledger]
      exact hends.turnover
  | refresh hends => exact hends.turnover (hfits.fits (.settle hphase))
  | logout => exact .told rfl rfl rfl rfl
  | call => exact .called _

theorem Ticks.turnover {loop interval minValidity due next : Nat} {cancelled : Bool}
    (h : Ticks setup system loop next minValidity facts after)
    (hloop : system.loops[loop]? = some ⟨interval, minValidity, cancelled, .waiting due⟩)
    (hfits : RefreshesFit setup system (.tick loop)) :
    Turnover system.ledger facts after.ledger := by
  cases h with
  | closed | noSession | fresh => exact .nothing
  | unusable hcandidate hends =>
      rw [afterFarewell_ledger]
      exact hends.turnover
  | refreshing hcandidate hasks =>
      exact hasks.turnover fun settlement response hsettled =>
        hfits.fits (.tick hloop hcandidate hsettled) response
  | refreshed hcandidate hasks hgoes =>
      cases hasks with
      | settled hsettled hends =>
          have hgood := hfits.fits (.tick hloop hcandidate hsettled)
          exact (hends.turnover_on hgoes hgood).behind ⟨rfl, rfl, rfl⟩

theorem LoopSettles.turnover {loop : Nat} {reply : Reply} {phase : LoopPhase}
    (h : LoopSettles setup system loop reply phase facts after)
    (hphase : system.loopPhase? loop = some phase)
    (hfits : RefreshesFit setup system (.settleLoop loop reply)) :
    Turnover system.ledger facts after.ledger := by
  cases h with
  | refresh hends hgoes => exact hends.turnover_on hgoes (hfits.fits (.settleLoop hphase))
  | logout => exact .told rfl rfl rfl rfl

/-- Every move within reach of the clock changes the session and tells of it in one of the ways
listed. -/
theorem Does.turnover {move : Move} (h : Does setup system move facts after)
    (hfits : RefreshesFit setup system move) : Turnover system.ledger facts after.ledger := by
  cases h with
  | spawn | startLoop | stopLoop | cancel | release | advance => exact .quiet .nil rfl rfl
  | schedule =>
      have hledger := system.register_ledger (some system.loops.length)
      exact .quiet .nil (congrArg Ledger.session hledger) (congrArg Ledger.events hledger)
  | start hphase hstarts => exact hstarts.turnover hphase hfits
  | passGate hphase hadmitted henters => exact henters.turnover
  | settle hphase hsettles => exact hsettles.turnover hphase hfits
  | tick hloop hdue hticks => exact hticks.turnover hloop hfits
  | settleLoop hphase hsettles => exact hsettles.turnover hphase hfits

end Turnover

/-! ## Moves -/

variable {setup : Setup}

theorem step?_turnover {system : System} {move : Move} {last : Turn}
    (hstep : system.step? setup move = some last) (hfits : RefreshesFit setup system move) :
    Turnover system.ledger last.facts last.system.ledger := by
  obtain ⟨after, hdoes, hclosed⟩ := step?_does hstep
  rw [hclosed, after.closeUnused_keeps.1]
  exact hdoes.turnover hfits

/-- Sessions that are out and not told of yet become more with each that is taken out, and fewer
with each that is told of. -/
theorem step?_leaving {system : System} {move : Move} {last : Turn}
    (hstep : system.step? setup move = some last) :
    system.leaving.length + (takings last.facts).length =
      (farewells last.facts).length + last.system.leaving.length := by
  obtain ⟨-, htold, hkept⟩ := step?_books hstep
  rw [last.takings_facts, last.farewells_facts, htold, List.length_map, ← List.length_append,
    ← List.length_append, hkept.length_eq]

/-! ## Runs -/

/-- Along a run, a session of a generation has been opened while the end of another was not told
of yet. -/
def OpenedDuringFarewell (setup : Setup) (moves : List Move) (generation : Nat) : Prop :=
  ∃ before move after middle last session, moves = before ++ move :: after ∧
    initial.run? setup before = some middle ∧ middle.system.leaving ≠ [] ∧
    middle.system.step? setup move = some last ∧ .opened session ∈ last.happened ∧
    session.generation = generation

theorem OpenedDuringFarewell.snoc {moves : List Move} {generation : Nat}
    (h : OpenedDuringFarewell setup moves generation) (move : Move) :
    OpenedDuringFarewell setup (moves ++ [move]) generation := by
  obtain ⟨before, opening, after, middle, last, session, rfl, hrest⟩ := h
  exact ⟨before, opening, after ++ [move], middle, last, session, by simp, hrest⟩

/-- How far the events tell whether there is a session. -/
structure Telling (setup : Setup) (moves : List Move) (system : System) : Prop where
  out : system.session = none → Told system.events = false ∨ system.leaving ≠ []
  held : ∀ session, system.session = some session → Told system.events = true ∨
    (∃ reason, system.events.getLast? = some (.loggedOut reason)) ∧
      OpenedDuringFarewell setup moves session.generation
  during : ∀ session, system.session = some session → system.leaving ≠ [] →
    OpenedDuringFarewell setup moves session.generation

theorem Telling.of_none {moves : List Move} {system : System} (hnone : system.session = none)
    (hout : Told system.events = false ∨ system.leaving ≠ []) : Telling setup moves system where
  out _ := hout
  held session hheld := by rw [hnone] at hheld; cases hheld
  during session hheld := by rw [hnone] at hheld; cases hheld

theorem Telling.of_told {moves : List Move} {system : System} {session : Session}
    (hsession : system.session = some session) (htold : Told system.events = true)
    (hduring : system.leaving ≠ [] → OpenedDuringFarewell setup moves session.generation) :
    Telling setup moves system where
  out hnone := by rw [hsession] at hnone; cases hnone
  held _ _ := .inl htold
  during other hother hpending := by
    rw [hsession] at hother
    cases hother
    exact hduring hpending

section Step

variable {moves : List Move} {system after : System}

theorem Telling.kept (h : Telling setup moves system) (move : Move)
    (hsession : after.session = system.session) (hevents : after.events = system.events)
    (hpending : after.leaving ≠ [] ↔ system.leaving ≠ []) :
    Telling setup (moves ++ [move]) after where
  out hnone := by
    rw [hevents, hpending]
    exact h.out (hsession ▸ hnone)
  held session hheld := by
    rw [hevents]
    exact (h.held session (hsession ▸ hheld)).imp_right fun ⟨hlast, hopened⟩ =>
      ⟨hlast, hopened.snoc move⟩
  during session hheld hleaving :=
    (h.during session (hsession ▸ hheld) (hpending.1 hleaving)).snoc move

/-- When the end of a session is told of, a session that is there has been opened before. -/
theorem Telling.overtaken (h : Telling setup moves system) (move : Move) {reason : EndReason}
    (hsession : after.session = system.session)
    (hevents : after.events = system.events ++ [.loggedOut reason])
    (hpending : system.leaving ≠ []) : Telling setup (moves ++ [move]) after := by
  have hopened : ∀ session, after.session = some session →
      OpenedDuringFarewell setup (moves ++ [move]) session.generation := by
    intro session hheld
    exact (h.during session (hsession ▸ hheld) hpending).snoc move
  refine ⟨fun _ => .inl (told_of_last hevents), fun session hheld => .inr ⟨⟨reason, ?_⟩, ?_⟩,
    fun session hheld _ => hopened session hheld⟩
  · rw [hevents, List.getLast?_concat]
  · exact hopened session hheld

end Step

theorem Telling.step {moves : List Move} {turn last : Turn} {move : Move}
    (hrun : initial.run? setup moves = some turn) (h : Telling setup moves turn.system)
    (hstep : turn.system.step? setup move = some last)
    (hfits : RefreshesFit setup turn.system move) :
    Telling setup (moves ++ [move]) last.system := by
  have hleaving := step?_leaving hstep
  have hsame : NoEnding last.facts → (last.system.leaving ≠ [] ↔ turn.system.leaving ≠ []) := by
    intro hending
    rw [hending.takings, hending.farewells] at hleaving
    rw [← List.length_pos_iff, ← List.length_pos_iff]
    simp only [List.length_nil] at hleaving
    omega
  -- an end that is told of was under way before, so a session that is there now came after it
  cases step?_turnover hstep hfits with
  | quiet hending hsession hevents => exact h.kept move hsession hevents (hsame hending)
  | @opened session hending hopened hsession hevents =>
      refine .of_told hsession (told_of_last hevents) fun hpending => ?_
      exact ⟨moves, move, [], turn, last, session, rfl, hrun, (hsame hending).1 hpending, hstep,
        (Turn.mem_facts rfl).1 hopened, rfl⟩
  | renewed hending hold hgeneration hsession hevents =>
      refine .of_told hsession (told_of_last hevents) fun hpending => ?_
      rw [hgeneration]
      exact (h.during _ hold ((hsame hending).1 hpending)).snoc move
  | refused hending hsession hevents => exact .of_none hsession (.inl (told_of_last hevents))
  | ended htakings hfarewells hsession hevents =>
      exact .of_none hsession (.inl (told_of_last hevents))
  | taken htakings hfarewells hsession hevents =>
      rw [htakings, hfarewells, List.length_nil, List.length_singleton] at hleaving
      exact .of_none hsession (.inr (List.length_pos_iff.1 (by omega)))
  | told htakings hfarewells hsession hevents =>
      rw [htakings, hfarewells, List.length_nil, List.length_singleton] at hleaving
      exact h.overtaken move hsession hevents (List.length_pos_iff.1 (by omega))

theorem run?_telling {moves : List Move} {turn : Turn}
    (hrun : initial.run? setup moves = some turn)
    (hfits : Along setup initial moves (RefreshesFit setup)) :
    Telling setup moves turn.system := by
  refine run?_induction (motive := fun moves system =>
    Along setup initial moves (RefreshesFit setup) → Telling setup moves system) ?_ ?_ hrun hfits
  · exact fun _ => .of_none rfl (.inl rfl)
  · intro moves turn move last hbefore ih hstep hfits
    exact (ih hfits.init).step hbefore hstep (hfits.last hbefore)

/-- After every run whose refreshes stay within reach of the clock, when no end of a session is
under way, the last event tells whether there is a session, unless it is the end of one that has
overtaken a login: the session has been opened while the end of another was under way, and then
that end has been told of. -/
theorem run?_events_tell_unless_overtaken {moves : List Move} {turn : Turn}
    (hrun : initial.run? setup moves = some turn)
    (hfits : Along setup initial moves (RefreshesFit setup))
    (hidle : turn.system.leaving = []) :
    Told turn.system.events = turn.system.session.isSome ↔
      ¬ ∃ session reason, turn.system.session = some session ∧
        turn.system.events.getLast? = some (.loggedOut reason) ∧
        OpenedDuringFarewell setup moves session.generation := by
  have htelling := run?_telling hrun hfits
  constructor
  · rintro htold ⟨session, reason, hsession, hlast, -⟩
    rw [hsession, Told, hlast] at htold
    cases htold
  · intro hkeeps
    cases hsession : turn.system.session with
    | none =>
        obtain hfalse | hpending := htelling.out hsession
        · exact hfalse
        · exact absurd hidle hpending
    | some session =>
        obtain htrue | ⟨⟨reason, hlast⟩, hopened⟩ := htelling.held session hsession
        · exact htrue
        · exact absurd ⟨session, reason, hsession, hlast, hopened⟩ hkeeps

/-- A login is done between the two halves of a logout. -/
def loginDuringLogout : List Move :=
  [.spawn (.authenticate (.authorizationCode "code")), .start 0, .settle 0 (.ok default),
    .spawn .logout, .start 1, .spawn (.authenticate (.authorizationCode "code")), .start 2,
    .settle 2 (.ok default), .settle 1 (.ok default)]

theorem rotating_refreshesFit {root : String} {system : System} (move : Move)
    (hearly : system.now + 60000 < clockEnd) :
    RefreshesFit (.standard .rotating root) system move := by
  intro renewal response hbrings
  have hminute : TokenResponse.FitsClock
      ⟨"access-1", 60, some "refresh-1", none, none, none⟩ system.now := ⟨hearly, nofun⟩
  have hfits : ∀ reply, (Setup.standard .rotating root).refreshResult renewal reply =
      .ok response → response.FitsClock system.now := by
    intro reply hresult
    cases reply with
    | error failure => cases hresult
    | ok reply =>
        cases hresult
        exact hminute
  generalize hresult : Except.ok response = result at hbrings
  cases hbrings with
  | settle | settleLoop => exact hfits _ hresult.symm
  | start _ _ hsettled | tick _ _ hsettled => cases hsettled

theorem run?_rotating_fits {root : String} {system : System} {moves : List Move} {turn : Turn}
    (hrun : system.run? (.standard .rotating root) moves = some turn)
    (hearly : turn.system.now + 60000 < clockEnd) :
    Along (.standard .rotating root) system moves (RefreshesFit (.standard .rotating root)) := by
  rintro before move after middle rfl hbefore
  have hle := run?_now_le hrun hbefore
  exact rotating_refreshesFit move (by omega)

/-- The next refresh puts right what the events tell. -/
theorem loginDuringLogout_refreshed_told :
    ∃ turn, initial.run? (.standard .rotating "http://admin") (loginDuringLogout ++
        [.spawn (.refreshIfNeeded 60001), .start 3, .settle 3 (.ok default)]) = some turn ∧
      turn.system.session.isSome = true ∧ Told turn.system.events = true := by
  obtain ⟨turn, hrun, hidle, hsession, hlast, hnow⟩ : ∃ turn,
      initial.run? (.standard .rotating "http://admin") (loginDuringLogout ++
        [.spawn (.refreshIfNeeded 60001), .start 3, .settle 3 (.ok default)]) = some turn ∧
      turn.system.leaving = [] ∧ turn.system.session.isSome = true ∧
      turn.system.events.getLast? = some .refreshed ∧ turn.system.now = 0 :=
    ⟨_, rfl, rfl, rfl, rfl, rfl⟩
  have htells := run?_events_tell_unless_overtaken hrun
    (run?_rotating_fits hrun (by rw [hnow]; decide)) hidle
  refine ⟨turn, hrun, hsession, (htells.2 ?_).trans hsession⟩
  rintro ⟨session, reason, -, hlogout, -⟩
  rw [hlast] at hlogout
  cases hlogout

/-- With nothing under way, the last event can tell of the end of a session though there is
one. -/
theorem farewell_may_overtake_login :
    ¬ ∀ (setup : Setup) (moves : List Move) (turn : Turn),
      initial.run? setup moves = some turn →
      (∀ phase ∈ turn.system.tasks, phase.isFinished = true) →
      (∀ l ∈ turn.system.loops, l.phase.isTicking = false) →
      Told turn.system.events = turn.system.session.isSome := by
  intro htells
  obtain ⟨turn, hrun, htasks, hloops, hsession, htold⟩ : ∃ turn,
      initial.run? (.standard .rotating "http://admin") loginDuringLogout = some turn ∧
      turn.system.tasks = [.finished (.done .authenticated), .finished (.done .loggedOut),
        .finished (.done .authenticated)] ∧
      turn.system.loops = [] ∧ turn.system.session.isSome = true ∧
      Told turn.system.events = false :=
    ⟨_, rfl, rfl, rfl, rfl, rfl⟩
  have hfinished : ∀ phase ∈ turn.system.tasks, phase.isFinished = true := by
    rw [htasks]
    simp [TaskPhase.isFinished, TaskPhase.result?]
  have hsame := htells _ _ turn hrun hfinished (by rw [hloops]; exact nofun)
  rw [htold, hsession] at hsame
  cases hsame

end System

end AdminAccess
