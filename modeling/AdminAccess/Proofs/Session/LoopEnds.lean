import AdminAccess.Proofs.Session.IdleEndings
import AdminAccess.Proofs.Session.Upkeep

/-! # How loops end

A loop that nobody cancels ends in a tick that finds no session, or that takes the session out
and tells subscribers so.  There is one more way: the refresh of its tick fails when another
login has opened a session meanwhile.  That session stays, but the loop that would have refreshed
it is gone.
-/

namespace AdminAccess

def Move.loop? : Move → Option Nat
  | .startLoop loop | .tick loop | .stopLoop loop | .settleLoop loop _ => some loop
  | _ => none

def Farewell.loopPhase : Farewell → LoopPhase
  | .pending ending => .leaving ending
  | _ => .ended

namespace System

/-! ## Ways to end -/

/-- The failure of a refresh reaches a loop when another login has opened a session. -/
inductive Outrun (setup : Setup) (system : System) (loop : Nat) : Move → Prop
  | settle {due : Nat} {renewal : Renewal} {reply : Reply} {failure : Failure}
      {session : Session} (hphase : system.loopPhase? loop = some (.refreshing due renewal))
      (hfailed : setup.refreshResult renewal reply = .error failure)
      (hsession : system.session = some session)
      (hother : session.generation ≠ renewal.generation) :
      Outrun setup system loop (.settleLoop loop reply)

/-- Why a loop ends in a move. -/
inductive EndsLoop (setup : Setup) (system : System) (loop : Nat) (facts : List Happening) :
    Move → Prop
  | stopped {due : Nat} (hphase : system.loopPhase? loop = some (.waiting due))
      (hcancelled : system.cancelled? loop = some true) :
      EndsLoop setup system loop facts (.stopLoop loop)
  | closed (hclosed : system.closed = true) : EndsLoop setup system loop facts (.tick loop)
  | noSession {move : Move} (hnone : system.session = none) :
      EndsLoop setup system loop facts move
  /-- The session is taken out, and its end is settled at once. -/
  | forced {move : Move} {session : Session}
      (htaken : .taken (session.ending .refreshFailed) ∈ facts)
      (htold : .emitted (.loggedOut .refreshFailed) ∈ facts) :
      EndsLoop setup system loop facts move
  /-- The session has been taken out, and now its end is settled. -/
  | told {ending : Ending} {reply : Reply}
      (hphase : system.loopPhase? loop = some (.leaving ending))
      (htold : .emitted (.loggedOut ending.reason) ∈ facts) :
      EndsLoop setup system loop facts (.settleLoop loop reply)
  | outrun {move : Move} (houtrun : Outrun setup system loop move) :
      EndsLoop setup system loop facts move
  /-- A refresh brings a lifetime that breaks the clock. -/
  | broken {move : Move} {renewal : Renewal} {response : TokenResponse} {old : Session}
      {fault : ClockFault} (hbrings : BringsRefresh setup system move renewal (.ok response))
      (hbroken : old.refreshed response system.now = .error fault) :
      EndsLoop setup system loop facts move
  /-- The first tick would come out of reach of the clock. -/
  | unstarted {l : Loop} (hloop : system.loops[loop]? = some l)
      (hlate : clockEnd ≤ system.now + l.interval) :
      EndsLoop setup system loop facts (.startLoop loop)

/-- How a loop is after a move. -/
inductive TurnsLoop (setup : Setup) (system : System) (loop : Nat) (move : Move)
    (facts : List Happening) : LoopPhase → Prop
  | stays {phase : LoopPhase} (hphase : system.loopPhase? loop = some phase)
      (hother : move.loop? ≠ some loop) : TurnsLoop setup system loop move facts phase
  | begins : TurnsLoop setup system loop move facts .starting
  | waits {due : Nat} : TurnsLoop setup system loop move facts (.waiting due)
  | asks {due : Nat} {renewal : Renewal} :
      TurnsLoop setup system loop move facts (.refreshing due renewal)
  | leaves {session : Session} (hown : move.loop? = some loop)
      (htaken : .taken (session.ending .refreshFailed) ∈ facts) :
      TurnsLoop setup system loop move facts (.leaving (session.ending .refreshFailed))
  | ends (hends : EndsLoop setup system loop facts move) :
      TurnsLoop setup system loop move facts .ended

section Turns

variable {setup : Setup} {system after : System} {facts more : List Happening} {loop : Nat}
  {move : Move} {phase new : LoopPhase}

theorem EndsLoop.mono (h : EndsLoop setup system loop facts move) (hsub : facts ⊆ more) :
    EndsLoop setup system loop more move := by
  cases h with
  | stopped hphase hcancelled => exact .stopped hphase hcancelled
  | closed hclosed => exact .closed hclosed
  | noSession hnone => exact .noSession hnone
  | forced htaken htold => exact .forced (hsub htaken) (hsub htold)
  | told hphase htold => exact .told hphase (hsub htold)
  | outrun houtrun => exact .outrun houtrun
  | broken hbrings hbroken => exact .broken hbrings hbroken
  | unstarted hloop hlate => exact .unstarted hloop hlate

theorem TurnsLoop.of_firstPhase {l : Loop} (hloop : system.loops[loop]? = some l) :
    TurnsLoop setup system loop (.startLoop loop) facts
      (Loop.firstPhase l.interval system.now) := by
  obtain hreach | hlate := Nat.lt_or_ge (system.now + l.interval) clockEnd
  · rw [Loop.firstPhase_of_lt hreach]
    exact .waits
  · rw [Loop.firstPhase_of_le hlate]
    exact .ends (.unstarted hloop hlate)

theorem TurnsLoop.mono (h : TurnsLoop setup system loop move facts new) (hsub : facts ⊆ more) :
    TurnsLoop setup system loop move more new := by
  cases h with
  | stays hphase hother => exact .stays hphase hother
  | begins => exact .begins
  | waits => exact .waits
  | asks => exact .asks
  | leaves hown htaken => exact .leaves hown (hsub htaken)
  | ends hends => exact .ends (hends.mono hsub)

/-! ## Moves of others -/

theorem loopPhase?_congr (h : after.loopPhases = system.loopPhases) (loop : Nat) :
    after.loopPhase? loop = system.loopPhase? loop := by
  rw [← loopPhase?_eq, ← loopPhase?_eq, h]

theorem MovesLoop.loopPhase?_other {mover : Nat} (h : system.MovesLoop mover phase after)
    (hother : mover ≠ loop) : after.loopPhase? loop = system.loopPhase? loop := by
  rw [← loopPhase?_eq, ← loopPhase?_eq, h.2, List.getElem?_set_ne hother]

theorem MovesLoop.loopPhase?_own {old : LoopPhase} (h : system.MovesLoop loop phase after)
    (hold : system.loopPhase? loop = some old) : after.loopPhase? loop = some phase := by
  rw [← loopPhase?_eq] at hold ⊢
  obtain ⟨hbound, -⟩ := List.getElem?_eq_some_iff.1 hold
  rw [h.2, List.getElem?_set_self hbound]

theorem stopLoop_ended {old : LoopPhase} (h : system.loopPhase? loop = some old) :
    (system.stopLoop loop).loopPhase? loop = some .ended :=
  (SameWork.stopLoop ⟨rfl, rfl⟩ loop).loopPhase?_own h

theorem schedule_loopPhases (system : System) (interval minValidity : Nat) :
    (system.schedule interval minValidity).system.loopPhases =
      system.loopPhases ++ [.starting] := by
  have hphases := (system.register_sameWork (some system.loops.length)).2
  rw [loopPhases, (system.schedule_system interval minValidity).1, List.map_append, ← loopPhases,
    hphases]
  rfl

/-- The moves of others leave a loop where it is, or start loops behind those that there are. -/
theorem Does.loopPhase?_beside (h : Does setup system move facts after)
    (hother : move.loop? ≠ some loop) :
    ∃ started : List LoopPhase, (∀ phase ∈ started, phase = .starting) ∧
      after.loopPhase? loop = (system.loopPhases ++ started)[loop]? := by
  have hne : ∀ {mover : Nat}, some mover ≠ some loop → mover ≠ loop :=
    fun hmover heq => hmover (congrArg some heq)
  have hsame : system.SameWork system := ⟨rfl, rfl⟩
  have hstays : after.loopPhase? loop = system.loopPhase? loop →
      ∃ started : List LoopPhase, (∀ phase ∈ started, phase = .starting) ∧
        after.loopPhase? loop = (system.loopPhases ++ started)[loop]? :=
    fun hphase => ⟨[], nofun, by rw [hphase, List.append_nil, loopPhase?_eq]⟩
  cases h with
  | spawn | release | advance => exact hstays rfl
  | cancel => exact hstays (markCancelled_loopPhase? _ _ _)
  | @schedule interval minValidity =>
      refine ⟨[.starting], fun phase => List.mem_singleton.1, ?_⟩
      rw [← (system.schedule_system interval minValidity).1, ← loopPhase?_eq,
        schedule_loopPhases]
  | start hphase hstarts =>
      obtain ⟨phase, hmoves, -⟩ := hstarts.books
      exact hstays (loopPhase?_congr hmoves.2 loop)
  | passGate hphase hadmitted henters =>
      obtain ⟨phase, hmoves, -⟩ := henters.books
      exact hstays (loopPhase?_congr hmoves.2 loop)
  | settle hphase hsettles =>
      obtain ⟨phase, hmoves, -⟩ := hsettles.books
      exact hstays (loopPhase?_congr hmoves.2 loop)
  | startLoop hloop => exact hstays ((hsame.setLoop _ _).loopPhase?_other (hne hother))
  | stopLoop hloop => exact hstays ((hsame.stopLoop _).loopPhase?_other (hne hother))
  | tick hloop hdue hticks =>
      obtain ⟨phase, hmoves, -⟩ := hticks.books
      exact hstays (hmoves.loopPhase?_other (hne hother))
  | settleLoop hphase hsettles =>
      obtain ⟨phase, hmoves, -⟩ := hsettles.books
      exact hstays (hmoves.loopPhase?_other (hne hother))

theorem Does.loopPhase?_other (h : Does setup system move facts after)
    (hother : move.loop? ≠ some loop) (hafter : after.loopPhase? loop = some new) :
    system.loopPhase? loop = some new ∨ new = .starting := by
  obtain ⟨started, hstarting, hphase⟩ := h.loopPhase?_beside hother
  rw [hphase, List.getElem?_append] at hafter
  split at hafter
  · exact .inl ((loopPhase?_eq system loop).symm.trans hafter)
  · exact .inr (hstarting _ (List.mem_of_getElem? hafter))

theorem Does.loopPhase?_kept (h : Does setup system move facts after)
    (hother : move.loop? ≠ some loop) (hphase : system.loopPhase? loop = some phase) :
    after.loopPhase? loop = some phase := by
  obtain ⟨started, -, hafter⟩ := h.loopPhase?_beside hother
  rw [← loopPhase?_eq] at hphase
  obtain ⟨hbound, -⟩ := List.getElem?_eq_some_iff.1 hphase
  rw [hafter, List.getElem?_append_left hbound, hphase]

/-! ## Moves of the loop -/

theorem EndsSession.loopPhase? {reason : EndReason} {expected : Option Nat} {farewell : Farewell}
    (h : EndsSession setup system reason expected facts after farewell)
    (hphase : system.loopPhase? loop = some phase) :
    (after.afterFarewell loop farewell).loopPhase? loop = some farewell.loopPhase := by
  cases farewell with
  | pending ending => exact (h.sameWork.setLoop loop _).loopPhase?_own hphase
  | kept | settled => exact (h.sameWork.stopLoop loop).loopPhase?_own hphase

/-- A loop whose refresh has failed ends or asks for the end of the session. -/
theorem EndsSession.turnsLoop {generation : Nat} {farewell : Farewell}
    (h : EndsSession setup system .refreshFailed (some generation) facts after farewell)
    (hown : move.loop? = some loop)
    (hstale : ∀ session, system.session = some session → session.generation ≠ generation →
      Outrun setup system loop move) :
    TurnsLoop setup system loop move facts farewell.loopPhase := by
  cases h with
  | stale hsession hexpected hother =>
      cases hexpected
      exact .ends (.outrun (hstale _ hsession hother))
  | idle hnone => exact .ends (.noSession hnone)
  | asked hsession hexpected => exact .leaves hown List.mem_cons_self
  | settled hsession hexpected => exact .ends (.forced List.mem_cons_self (by simp))

/-- A loop that goes on after a refresh waits for its next tick, ends or asks for the end of the
session. -/
theorem RefreshEnds.turnsLoop {middle : System} {due : Nat} {renewal : Renewal}
    {result : Except Failure TokenResponse} {renewed : Renewed}
    (hends : RefreshEnds system renewal result facts middle renewed)
    (hgoes : GoesOn setup middle loop due renewal renewed more after)
    (hphase : system.loopPhase? loop = some phase) (hown : move.loop? = some loop)
    (hbrings : BringsRefresh setup system move renewal result)
    (hstale : ∀ session failure, system.session = some session →
      session.generation ≠ renewal.generation → result = .error failure →
      Outrun setup system loop move) :
    ∃ new, after.loopPhase? loop = some new ∧
      TurnsLoop setup system loop move (facts ++ more) new := by
  have hmiddle : middle.loopPhase? loop = some phase :=
    (loopPhase?_congr hends.sameWork.2 loop).trans hphase
  cases hgoes with
  | stored | discarded => exact ⟨_, setLoop_self hmiddle, .waits⟩
  | broken =>
      cases hends with
      | broken hresult hold hgeneration hnew =>
          rw [hresult] at hbrings
          exact ⟨_, setLoop_self hmiddle, .ends (.broken hbrings hnew)⟩
  | failed hended =>
      cases hends with
      | failed hresult =>
          exact ⟨_, hended.loopPhase? hphase, hended.turnsLoop hown
            fun session hsession hother => hstale session _ hsession hother hresult⟩

/-- A tick that has a token to use, or none, is for the session of the moment. -/
theorem Ticks.turnsLoop {interval minValidity due next : Nat} {cancelled : Bool}
    (h : Ticks setup system loop next minValidity facts after)
    (hloop : system.loops[loop]? = some ⟨interval, minValidity, cancelled, .waiting due⟩) :
    ∃ new, after.loopPhase? loop = some new ∧
      TurnsLoop setup system loop (.tick loop) facts new := by
  have hphase := loopPhase?_of_loop hloop
  cases h with
  | closed hclosed => exact ⟨_, stopLoop_ended hphase, .ends (.closed hclosed)⟩
  | noSession hcandidate =>
      exact ⟨_, stopLoop_ended hphase, .ends (.noSession (none_of_candidate hcandidate))⟩
  | fresh => exact ⟨_, setLoop_self hphase, .waits⟩
  | unusable hcandidate hends =>
      -- nothing comes between the look at the session and the failure
      have hcurrent := holds_of_candidate hcandidate
      exact ⟨_, hends.loopPhase? hphase, hends.turnsLoop rfl
        fun session hsession hother => absurd (hcurrent.generation_eq hsession) hother⟩
  | refreshing hcandidate hasks =>
      exact ⟨_, setLoop_self ((loopPhase?_congr hasks.sameWork.2 loop).trans hphase), .asks⟩
  | refreshed hcandidate hasks hgoes =>
      cases hasks with
      | settled hsettled hends =>
          have hcurrent := (reads_of_candidate hcandidate).holds
          obtain ⟨new, hnew, hturns⟩ := hends.turnsLoop hgoes hphase rfl
            (.tick hloop hcandidate hsettled) fun session _ hsession hother _ =>
              absurd (hcurrent.generation_eq hsession) hother
          exact ⟨new, hnew, hturns.mono (List.subset_cons_self _ _)⟩

theorem LoopSettles.turnsLoop {reply : Reply}
    (h : LoopSettles setup system loop reply phase facts after)
    (hphase : system.loopPhase? loop = some phase) :
    ∃ new, after.loopPhase? loop = some new ∧
      TurnsLoop setup system loop (.settleLoop loop reply) facts new := by
  cases h with
  | refresh hends hgoes =>
      exact hends.turnsLoop hgoes hphase rfl (.settleLoop hphase)
        fun session failure hsession hother hfailed => .settle hphase hfailed hsession hother
  | @logout ending =>
      have hsame : system.SameWork (system.tell (.loggedOut ending.reason)) := ⟨rfl, rfl⟩
      exact ⟨_, (hsame.stopLoop loop).loopPhase?_own hphase,
        .ends (.told hphase (List.mem_singleton_self _))⟩

/-- What a move makes of a loop, whoever moves. -/
theorem Does.turnsLoop (h : Does setup system move facts after)
    (hafter : after.loopPhase? loop = some new) :
    TurnsLoop setup system loop move facts new := by
  by_cases hown : move.loop? = some loop
  · have hsame : system.SameWork system := ⟨rfl, rfl⟩
    have hknown : ∀ {found : LoopPhase}, after.loopPhase? loop = some found → found = new :=
      fun hfound => Option.some.inj (hfound.symm.trans hafter)
    cases h with
    | spawn | start | passGate | settle | schedule | cancel | release | advance => cases hown
    | startLoop hloop =>
        cases hown
        cases hknown ((hsame.setLoop _ _).loopPhase?_own (loopPhase?_of_loop hloop))
        exact .of_firstPhase hloop
    | stopLoop hloop =>
        cases hown
        cases hknown ((hsame.stopLoop _).loopPhase?_own (loopPhase?_of_loop hloop))
        exact .ends (.stopped (loopPhase?_of_loop hloop) (by rw [cancelled?, hloop]; rfl))
    | tick hloop hdue hticks =>
        cases hown
        obtain ⟨found, hfound, hturns⟩ := hticks.turnsLoop hloop
        cases hknown hfound
        exact hturns
    | settleLoop hphase hsettles =>
        cases hown
        obtain ⟨found, hfound, hturns⟩ := hsettles.turnsLoop hphase
        cases hknown hfound
        exact hturns
  · obtain hbefore | rfl := h.loopPhase?_other hown hafter
    · exact .stays hbefore hown
    · exact .begins

/-- A loop whose failure comes too late ends, and nothing else changes. -/
theorem Outrun.does (houtrun : Outrun setup system loop move)
    (h : Does setup system move facts after) : facts = [] ∧ after = system.stopLoop loop := by
  cases houtrun with
  | settle hphase hfailed hsession hother =>
      obtain ⟨middle, farewell, hends, rfl⟩ := h.endsSession hphase hfailed
      cases hends with
      | stale => exact ⟨rfl, rfl⟩
      | idle hnone => rw [hsession] at hnone; cases hnone
      | asked hheld hexpected | settled hheld hexpected =>
          rw [hsession] at hheld
          cases hheld
          exact absurd (hexpected _ rfl).symm hother

end Turns

/-! ## Runs -/

variable {setup : Setup}

theorem step?_turnsLoop {system : System} {move : Move} {last : Turn} {loop : Nat}
    {new : LoopPhase} (hstep : system.step? setup move = some last)
    (hafter : last.system.loopPhase? loop = some new) :
    TurnsLoop setup system loop move last.facts new := by
  obtain ⟨after, hdoes, hclosed⟩ := step?_does hstep
  rw [hclosed, closeUnused_loopPhase?] at hafter
  exact hdoes.turnsLoop hafter

/-- A loop has taken a session out in a move of a run, and has not moved since. -/
def HasTaken (setup : Setup) (moves : List Move) (loop : Nat) (ending : Ending) : Prop :=
  ∃ before own after middle last, moves = before ++ own :: after ∧
    initial.run? setup before = some middle ∧ own.loop? = some loop ∧
    middle.system.step? setup own = some last ∧ .taken ending ∈ last.happened ∧
    ∀ move ∈ after, move.loop? ≠ some loop

theorem HasTaken.snoc {moves : List Move} {loop : Nat} {ending : Ending} {move : Move}
    (h : HasTaken setup moves loop ending) (hother : move.loop? ≠ some loop) :
    HasTaken setup (moves ++ [move]) loop ending := by
  obtain ⟨before, own, after, middle, last, rfl, hbefore, hown, hstep, htaken, hsince⟩ := h
  refine ⟨before, own, after ++ [move], middle, last, by simp, hbefore, hown, hstep, htaken,
    fun later hmem => ?_⟩
  obtain hmem | hmem := List.mem_append.1 hmem
  · exact hsince later hmem
  · rwa [List.mem_singleton.1 hmem]

/-- A loop that waits for the end of a session has itself taken it out, because its refresh has
failed. -/
theorem run?_leaving {moves : List Move} {turn : Turn} {loop : Nat} {ending : Ending}
    (hrun : initial.run? setup moves = some turn)
    (hphase : turn.system.loopPhase? loop = some (.leaving ending)) :
    ending.reason = .refreshFailed ∧ HasTaken setup moves loop ending := by
  refine run?_induction (motive := fun moves system => ∀ ending,
    system.loopPhase? loop = some (.leaving ending) →
      ending.reason = .refreshFailed ∧ HasTaken setup moves loop ending) ?_ ?_ hrun ending hphase
  · intro ending hphase
    cases hphase
  · intro moves turn move last hbefore ih hstep ending hphase
    -- only the loop itself comes into this phase, and it leaves it with its next move
    cases step?_turnsLoop hstep hphase with
    | stays hphase hother =>
        obtain ⟨hreason, htaken⟩ := ih ending hphase
        exact ⟨hreason, htaken.snoc hother⟩
    | leaves hown htaken =>
        exact ⟨rfl, moves, move, [], turn, last, rfl, hbefore, hown, hstep,
          (Turn.mem_facts rfl).1 htaken, nofun⟩

/-- The tick of a loop that ends in a move has taken the session out, in this move or before it,
and in this move subscribers are told. -/
def ForcesOut (setup : Setup) (moves : List Move) (loop : Nat) (happened : List Happening) :
    Prop :=
  .emitted (.loggedOut .refreshFailed) ∈ happened ∧ ∃ ending : Ending,
    ending.reason = .refreshFailed ∧
      (.taken ending ∈ happened ∨ HasTaken setup moves loop ending)

theorem EndsLoop.of_alive {moves : List Move} {turn last : Turn} {loop : Nat} {move : Move}
    {phase : LoopPhase} (h : EndsLoop setup turn.system loop last.facts move)
    (hrun : initial.run? setup moves = some turn)
    (hphase : turn.system.loopPhase? loop = some phase)
    (huncancelled : ∀ due, phase = .waiting due → turn.system.cancelled? loop = some false)
    (halive : turn.system.closed = false)
    (hfits : KeepsClock setup turn.system move) :
    turn.system.session = none ∨ ForcesOut setup moves loop last.happened ∨
      Outrun setup turn.system loop move := by
  cases h with
  | stopped hwaiting hcancelled =>
      rw [hphase] at hwaiting
      cases hwaiting
      rw [huncancelled _ rfl] at hcancelled
      cases hcancelled
  | closed hclosed =>
      rw [halive] at hclosed
      cases hclosed
  | noSession hnone => exact .inl hnone
  | forced htaken htold =>
      exact .inr (.inl ⟨(Turn.mem_facts rfl).1 htold, _, rfl, .inl ((Turn.mem_facts rfl).1 htaken)⟩)
  | told hleaving htold =>
      obtain ⟨hreason, htaken⟩ := run?_leaving hrun hleaving
      rw [hreason] at htold
      exact .inr (.inl ⟨(Turn.mem_facts rfl).1 htold, _, hreason, .inr htaken⟩)
  | outrun houtrun => exact .inr (.inr houtrun)
  | broken hbrings hbroken =>
      exact absurd hbroken (Session.refreshed_ne_error (hfits.refreshes _ _ hbrings) _ _)
  | unstarted hloop hlate => exact absurd (hfits.start _ _ rfl hloop) (Nat.not_lt.2 hlate)

/-- A move in which a loop is outrun is possible and ends it; the session of the other login
stays, and subscribers hear nothing. -/
theorem Outrun.step? {system : System} {loop : Nat} {move : Move}
    (h : Outrun setup system loop move) :
    ∃ last, system.step? setup move = some last ∧
      last.system.loopPhase? loop = some .ended ∧ last.system.session = system.session ∧
      ∀ event, .emitted event ∉ last.happened := by
  obtain ⟨last, hstep⟩ : ∃ last, system.step? setup move = some last := by
    cases h with
    | settle hphase => exact ⟨_, congrArg _ (move?_settleLoop _ hphase)⟩
  obtain ⟨after, hdoes, hclosed⟩ := step?_does hstep
  obtain ⟨hfacts, rfl⟩ := h.does hdoes
  have hstopped : (system.stopLoop loop).loopPhase? loop = some .ended := by
    cases h with
    | settle hphase => exact stopLoop_ended hphase
  refine ⟨last, hstep, ?_, ?_, fun event => Turn.not_mem_of_facts hfacts rfl⟩
  · rw [hclosed, closeUnused_loopPhase?, hstopped]
  · rw [hclosed, closeUnused_session]
    rfl

/-- When a loop of a provider in use, not cancelled when its last tick begins, ends in a move that
asks the clock for nothing out of its reach, then either that tick has found no session or has
taken it out and told subscribers so, or the loop is outrun: the failure of its refresh has come
after another login.  Whenever a loop is outrun it does end, and leaves the new session behind
without it. -/
theorem run?_loops_end_unless_outrun {moves : List Move} {turn : Turn}
    (hrun : initial.run? setup moves = some turn) (loop : Nat) (move : Move) :
    (∀ last phase, turn.system.step? setup move = some last →
      turn.system.loopPhase? loop = some phase → phase ≠ .ended →
      last.system.loopPhase? loop = some .ended →
      (∀ due, phase = .waiting due → turn.system.cancelled? loop = some false) →
      turn.system.closed = false →
      KeepsClock setup turn.system move →
      ((turn.system.session = none ∨ ForcesOut setup moves loop last.happened) ↔
        ¬ Outrun setup turn.system loop move)) ∧
    (Outrun setup turn.system loop move →
      ∃ last, turn.system.step? setup move = some last ∧
        last.system.loopPhase? loop = some .ended ∧
        last.system.session = turn.system.session ∧
        ∀ event, .emitted event ∉ last.happened) := by
  refine ⟨fun last phase hstep hphase hopen hended huncancelled halive hfits => ?_,
    Outrun.step?⟩
  constructor
  · intro hdue houtrun
    obtain ⟨found, hfound, -, -, hquiet⟩ := houtrun.step?
    rw [hstep] at hfound
    cases hfound
    obtain hnone | ⟨htold, -⟩ := hdue
    · cases houtrun with
      | settle _ _ hsession _ => rw [hnone] at hsession; cases hsession
    · exact hquiet _ htold
  · intro hkeeps
    cases step?_turnsLoop hstep hended with
    | stays hbefore hother =>
        rw [hphase] at hbefore
        cases hbefore
        exact absurd rfl hopen
    | ends hends =>
        obtain hnone | hforced | houtrun :=
          hends.of_alive hrun hphase huncancelled halive hfits
        · exact .inl hnone
        · exact .inr hforced
        · exact absurd houtrun hkeeps

/-- The refresh of a tick has failed, and another login is done before the end of the session has
been answered. -/
def loginDuringFarewell : List Move :=
  tickDue ++ [.tick 0, .settleLoop 0 (.error .timeout),
    .spawn (.authenticate (.authorizationCode "code")), .start 1, .settle 1 (.ok default)]

/-- The loop then ends because its tick has taken the session out. -/
theorem loginDuringFarewell_forced :
    ∃ turn last,
      initial.run? (.standard .rotating "http://admin") loginDuringFarewell = some turn ∧
      turn.system.session.isSome = true ∧
      turn.system.step? (.standard .rotating "http://admin") (.settleLoop 0 (.ok default)) =
        some last ∧
      last.system.loopPhase? 0 = some .ended ∧
      ForcesOut (.standard .rotating "http://admin") loginDuringFarewell 0 last.happened := by
  obtain ⟨turn, last, hrun, hsession, hphase, halive, hstep, hended⟩ : ∃ turn last,
      initial.run? (.standard .rotating "http://admin") loginDuringFarewell = some turn ∧
      turn.system.session.isSome = true ∧
      turn.system.loopPhase? 0 = some (.leaving ⟨.refreshFailed, 0, some "refresh-0"⟩) ∧
      turn.system.closed = false ∧
      turn.system.step? (.standard .rotating "http://admin") (.settleLoop 0 (.ok default)) =
        some last ∧
      last.system.loopPhase? 0 = some .ended :=
    ⟨_, _, rfl, rfl, rfl, rfl, rfl, rfl⟩
  have hends := (run?_loops_end_unless_outrun hrun 0 (.settleLoop 0 (.ok default))).1 last _ hstep
    hphase nofun hended nofun halive
  have hdue := (hends ⟨fun renewal response hbrings => ?_, nofun⟩).2 fun houtrun => ?_
  · obtain hnone | hforced := hdue
    · rw [hnone] at hsession
      cases hsession
    · exact ⟨turn, last, hrun, hsession, hstep, hended, hforced⟩
  · cases hbrings with
    | settleLoop hrefreshing => rw [hphase] at hrefreshing; cases hrefreshing
  · cases houtrun with
    | settle hrefreshing => rw [hphase] at hrefreshing; cases hrefreshing

/-- A loop can end though its session is there and nobody has been told of the end of any. -/
theorem new_session_may_lose_loop :
    ¬ ∀ (setup : Setup) (moves : List Move) (turn last : Turn) (loop : Nat) (move : Move)
      (phase : LoopPhase), initial.run? setup moves = some turn →
      turn.system.step? setup move = some last → turn.system.loopPhase? loop = some phase →
      phase ≠ .ended → last.system.loopPhase? loop = some .ended →
      turn.system.cancelled? loop = some false → turn.system.closed = false →
      turn.system.session = none ∨ ForcesOut setup moves loop last.happened := by
  intro hends
  obtain ⟨turn, hrun, hphase, hsession, hhandle, halive⟩ : ∃ turn,
      initial.run? (.standard .rotating "http://admin") (tickDue ++ [.tick 0, .advance 60000,
        .spawn (.authenticate (.authorizationCode "code")), .start 1, .settle 1 (.ok default)]) =
        some turn ∧
      turn.system.loopPhase? 0 = some (.refreshing 10 ⟨0, "refresh-0"⟩) ∧
      turn.system.session = some ⟨"access-0", some "refresh-0", 120005, none, 1⟩ ∧
      turn.system.cancelled? 0 = some false ∧ turn.system.closed = false :=
    ⟨_, rfl, rfl, rfl, rfl, rfl⟩
  have hfailed : (Setup.standard .rotating "http://admin").refreshResult ⟨0, "refresh-0"⟩
      (.error .timeout) = .error .timeout := rfl
  have houtrun : Outrun (.standard .rotating "http://admin") turn.system 0
      (.settleLoop 0 (.error .timeout)) := .settle hphase hfailed hsession (by decide)
  obtain ⟨last, hstep, hended, -, hquiet⟩ := houtrun.step?
  obtain hnone | ⟨htold, -⟩ :=
    hends _ _ turn last 0 _ _ hrun hstep hphase nofun hended hhandle halive
  · rw [hsession] at hnone
    cases hnone
  · exact hquiet _ htold

end System

end AdminAccess
