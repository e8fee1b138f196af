import AdminAccess.Proofs.Session.LoopEnds
import AdminAccess.Proofs.Session.Terms

/-! # What loops do

A loop goes from phase to phase in its own moves only.  `System.OwnMove` lists them: a refresh is
asked for by a tick alone, which comes when it is due and finds a session to refresh, and the tick
is over when the reply has come.  `System.refreshesOf` collects the refreshes that a loop asks for
along a run.
-/

namespace AdminAccess

namespace LoopPhase

/-- No tick is under way; the next one, if there is to be any, is due at a time. -/
def Over (due : Nat) : LoopPhase → Prop
  | .waiting next => next = due
  | .leaving _ | .ended => True
  | .starting | .refreshing _ _ => False

end LoopPhase

theorem Farewell.over (farewell : Farewell) (due : Nat) : farewell.loopPhase.Over due := by
  cases farewell <;> trivial

namespace Ledger

def refreshes (facts : List Happening) : List Renewal :=
  facts.filterMap fun
    | .asked (.refresh renewal) => some renewal
    | _ => none

theorem refreshes_append (facts more : List Happening) :
    refreshes (facts ++ more) = refreshes facts ++ refreshes more :=
  List.filterMap_append

theorem mem_refreshes {facts : List Happening} {renewal : Renewal} :
    renewal ∈ refreshes facts ↔ .asked (.refresh renewal) ∈ facts := by
  simp only [refreshes, List.mem_filterMap]
  constructor
  · rintro ⟨happening, hmem, h⟩
    cases happening with
    | asked purpose => cases purpose <;> cases h; exact hmem
    | _ => cases h
  · exact fun hmem => ⟨_, hmem, rfl⟩

end Ledger

open Ledger (refreshes)

theorem Turn.refreshes_facts (turn : Turn) : refreshes turn.facts = refreshes turn.happened := by
  refine turn.filterMap_facts fun happening => ?_
  cases happening <;> rfl

namespace System

/-- A move of a loop with an interval and a threshold: the phase from which it goes on, the
refreshes that it asks for, and the phase after. -/
inductive OwnMove (setup : Setup) (system : System) (loop interval minValidity : Nat) :
    Move → LoopPhase → List Renewal → LoopPhase → Prop
  | starts : OwnMove setup system loop interval minValidity (.startLoop loop) .starting []
      (Loop.firstPhase interval system.now)
  | stops {due : Nat} : OwnMove setup system loop interval minValidity (.stopLoop loop)
      (.waiting due) [] .ended
  /-- A tick that asks for no refresh. -/
  | passes {due : Nat} {new : LoopPhase} (hdue : due ≤ system.now)
      (hover : new.Over (Loop.nextDue interval due system.now)) :
      OwnMove setup system loop interval minValidity (.tick loop) (.waiting due) [] new
  /-- A tick whose refresh has to be waited for. -/
  | asks {due : Nat} {renewal : Renewal} (hdue : due ≤ system.now)
      (hcandidate : system.candidate minValidity = .renewal renewal) :
      OwnMove setup system loop interval minValidity (.tick loop) (.waiting due) [renewal]
        (.refreshing (Loop.nextDue interval due system.now) renewal)
  /-- A tick whose refresh is settled at once. -/
  | refreshes {due : Nat} {renewal : Renewal} {new : LoopPhase} (hdue : due ≤ system.now)
      (hcandidate : system.candidate minValidity = .renewal renewal)
      (hsettled : (setup.identity.refresh renewal.refreshToken).settlement? ≠ none)
      (hover : new.Over (Loop.nextDue interval due system.now)) :
      OwnMove setup system loop interval minValidity (.tick loop) (.waiting due) [renewal] new
  | resumes {due : Nat} {renewal : Renewal} {reply : Reply} {new : LoopPhase}
      (hover : new.Over due) :
      OwnMove setup system loop interval minValidity (.settleLoop loop reply)
        (.refreshing due renewal) [] new
  | parts {ending : Ending} {reply : Reply} :
      OwnMove setup system loop interval minValidity (.settleLoop loop reply) (.leaving ending) []
        .ended

namespace OwnMove

variable {setup : Setup} {system : System} {loop interval minValidity due : Nat} {move : Move}
  {phase new : LoopPhase} {asking : List Renewal} {renewal : Renewal}

/-- Only a tick asks for a refresh, and the refresh is in flight then if it was not settled at
once. -/
theorem of_asking (h : OwnMove setup system loop interval minValidity move phase asking new)
    (hmem : renewal ∈ asking) :
    move = .tick loop ∧ ((setup.identity.refresh renewal.refreshToken).settlement? = none →
      ∃ due, new = .refreshing due renewal) := by
  cases h with
  | asks =>
      cases List.mem_singleton.1 hmem
      exact ⟨rfl, fun _ => ⟨_, rfl⟩⟩
  | refreshes hdue hcandidate hsettled =>
      cases List.mem_singleton.1 hmem
      exact ⟨rfl, fun hpending => absurd hpending hsettled⟩
  | _ => cases hmem

/-- A refresh that is in flight after a move of the loop has been asked for in it. -/
theorem mem_asking (h : OwnMove setup system loop interval minValidity move phase asking new)
    (hnew : new = .refreshing due renewal) : renewal ∈ asking := by
  cases h with
  | starts =>
      obtain hfirst | hfirst := Loop.firstPhase_cases interval system.now
      · rw [hfirst] at hnew
        cases hnew
      · rw [hfirst] at hnew
        cases hnew
  | stops | parts => cases hnew
  | asks =>
      cases hnew
      exact List.mem_singleton_self _
  | passes _ hover | refreshes _ _ _ hover | resumes hover =>
      subst hnew
      exact hover.elim

/-- While its refresh is in flight, all that a loop can do is get the reply. -/
theorem of_refreshing (h : OwnMove setup system loop interval minValidity move phase asking new)
    (hphase : phase = .refreshing due renewal) : ∃ reply, move = .settleLoop loop reply := by
  subst hphase
  cases h with
  | resumes => exact ⟨_, rfl⟩

theorem of_stopLoop
    (h : OwnMove setup system loop interval minValidity (.stopLoop loop) phase asking new) :
    new = .ended := by
  cases h
  rfl

end OwnMove

/-! ## Stretches of a loop -/

section Stretches

variable {setup : Setup} {system after : System} {facts : List Happening} {loop due : Nat}
  {old : LoopPhase}

theorem RefreshEnds.refreshes {renewal : Renewal} {result : Except Failure TokenResponse}
    {renewed : Renewed} (h : RefreshEnds system renewal result facts after renewed) :
    refreshes facts = [] := by
  cases h <;> rfl

theorem AsksRefresh.refreshes {renewal : Renewal} {renewed : Option Renewed}
    (h : AsksRefresh setup system renewal facts after renewed) :
    refreshes facts = [renewal] := by
  cases h with
  | pending => rfl
  | settled hsettled hends => exact congrArg (renewal :: ·) hends.refreshes

theorem EndsSession.refreshes {reason : EndReason} {expected : Option Nat} {farewell : Farewell}
    (h : EndsSession setup system reason expected facts after farewell) :
    refreshes facts = [] := by
  cases h <;> rfl

theorem GoesOn.refreshes {renewal : Renewal} {renewed : Renewed}
    (h : GoesOn setup system loop due renewal renewed facts after) : refreshes facts = [] := by
  cases h with
  | stored | discarded | broken => rfl
  | failed hends => exact hends.refreshes

/-- Behind a refresh the tick is over. -/
theorem GoesOn.over {renewal : Renewal} {renewed : Renewed}
    (h : GoesOn setup system loop due renewal renewed facts after)
    (hphase : system.loopPhase? loop = some old) :
    ∃ new, after.loopPhase? loop = some new ∧ new.Over due := by
  cases h with
  | stored | discarded => exact ⟨_, setLoop_self hphase, rfl⟩
  | failed hends => exact ⟨_, hends.loopPhase? hphase, Farewell.over _ due⟩
  | broken => exact ⟨_, setLoop_self hphase, trivial⟩

theorem Ticks.ownMove {l : Loop}
    (h : Ticks setup system loop (Loop.nextDue l.interval due system.now) l.minValidity facts after)
    (hphase : system.loopPhase? loop = some (.waiting due)) (hdue : due ≤ system.now) :
    ∃ new, after.loopPhase? loop = some new ∧
      OwnMove setup system loop l.interval l.minValidity (.tick loop) (.waiting due)
        (refreshes facts) new := by
  cases h with
  | closed | noSession => exact ⟨_, stopLoop_ended hphase, .passes hdue trivial⟩
  | fresh => exact ⟨_, setLoop_self hphase, .passes hdue rfl⟩
  | unusable hcandidate hends =>
      rw [hends.refreshes]
      exact ⟨_, hends.loopPhase? hphase, .passes hdue (Farewell.over _ _)⟩
  | refreshing hcandidate hasks =>
      rw [hasks.refreshes]
      exact ⟨_, setLoop_self ((loopPhase?_congr hasks.sameWork.2 loop).trans hphase),
        .asks hdue hcandidate⟩
  | refreshed hcandidate hasks hgoes =>
      obtain ⟨new, hnew, hover⟩ :=
        hgoes.over ((loopPhase?_congr hasks.sameWork.2 loop).trans hphase)
      rw [Ledger.refreshes_append, hasks.refreshes, hgoes.refreshes]
      cases hasks with
      | settled hsettled hends =>
          exact ⟨new, hnew, .refreshes hdue hcandidate (hsettled ▸ nofun) hover⟩

theorem LoopSettles.ownMove {l : Loop} {reply : Reply}
    (h : LoopSettles setup system loop reply old facts after)
    (hphase : system.loopPhase? loop = some old) :
    ∃ new, after.loopPhase? loop = some new ∧
      OwnMove setup system loop l.interval l.minValidity (.settleLoop loop reply) old
        (refreshes facts) new := by
  cases h with
  | refresh hends hgoes =>
      obtain ⟨new, hnew, hover⟩ :=
        hgoes.over ((loopPhase?_congr hends.sameWork.2 loop).trans hphase)
      rw [Ledger.refreshes_append, hends.refreshes, hgoes.refreshes]
      exact ⟨new, hnew, .resumes hover⟩
  | @logout ending =>
      have htold : (system.tell (.loggedOut ending.reason)).loopPhase? loop =
          some (.leaving ending) := hphase
      exact ⟨_, stopLoop_ended htold, .parts⟩

/-- What a loop does in a move of its own. -/
theorem Does.ownMove {move : Move} (h : Does setup system move facts after)
    (hown : move.loop? = some loop) :
    ∃ l new, system.loops[loop]? = some l ∧ after.loopPhase? loop = some new ∧
      OwnMove setup system loop l.interval l.minValidity move l.phase (refreshes facts) new := by
  cases h with
  | spawn | start | passGate | settle | schedule | cancel | release | advance => cases hown
  | startLoop hloop =>
      cases hown
      exact ⟨_, _, hloop, setLoop_self (loopPhase?_of_loop hloop), .starts⟩
  | stopLoop hloop =>
      cases hown
      exact ⟨_, _, hloop, stopLoop_ended (loopPhase?_of_loop hloop), .stops⟩
  | @tick _ interval minValidity due cancelled _ _ hloop hdue hticks =>
      cases hown
      obtain ⟨new, hnew, hmove⟩ := hticks.ownMove (l := ⟨interval, minValidity, cancelled, _⟩)
        (loopPhase?_of_loop hloop) hdue
      exact ⟨_, new, hloop, hnew, hmove⟩
  | settleLoop hphase hsettles =>
      cases hown
      obtain ⟨l, hloop, rfl⟩ := Option.map_eq_some_iff.1 hphase
      obtain ⟨new, hnew, hmove⟩ := hsettles.ownMove hphase
      exact ⟨l, new, hloop, hnew, hmove⟩

end Stretches

/-! ## Moves -/

variable {setup : Setup}

theorem step?_ownMove {system : System} {move : Move} {last : Turn} {loop : Nat}
    (hstep : system.step? setup move = some last) (hown : move.loop? = some loop) :
    ∃ l new, system.loops[loop]? = some l ∧ last.system.loopPhase? loop = some new ∧
      OwnMove setup system loop l.interval l.minValidity move l.phase (refreshes last.happened)
        new := by
  obtain ⟨after, hdoes, hclosed⟩ := step?_does hstep
  rw [hclosed, closeUnused_loopPhase?, ← last.refreshes_facts]
  exact hdoes.ownMove hown

theorem step?_loopPhase?_kept {system : System} {move : Move} {last : Turn} {loop : Nat}
    {phase : LoopPhase} (hstep : system.step? setup move = some last)
    (hother : move.loop? ≠ some loop) (hphase : system.loopPhase? loop = some phase) :
    last.system.loopPhase? loop = some phase := by
  obtain ⟨after, hdoes, hclosed⟩ := step?_does hstep
  rw [hclosed, closeUnused_loopPhase?]
  exact hdoes.loopPhase?_kept hother hphase

/-! ## Runs -/

/-- The refreshes that a move of a loop asks for, each with the state in which it is made. -/
def ownRefreshes (loop : Nat) (system : System) (move : Move) (last : Turn) :
    List (System × Renewal) :=
  if move.loop? = some loop then (refreshes last.happened).map (system, ·) else []

/-- The refreshes that a loop asks for along a run, each with the state in which it does. -/
def refreshesOf (setup : Setup) (loop : Nat) (system : System) :
    List Move → List (System × Renewal)
  | [] => []
  | move :: rest =>
    match system.step? setup move with
    | none => []
    | some last => ownRefreshes loop system move last ++ refreshesOf setup loop last.system rest

theorem refreshesOf_eq_gather (loop : Nat) (system : System) (moves : List Move) :
    refreshesOf setup loop system moves = gather setup (ownRefreshes loop) system moves := by
  induction moves generalizing system with
  | nil => rfl
  | cons move rest ih =>
      cases hstep : system.step? setup move with
      | none => simp only [refreshesOf, gather, hstep]
      | some last => simp only [refreshesOf, gather, hstep, ih]

theorem refreshesOf_cons {system : System} {move : Move} {last : Turn} (loop : Nat)
    (hstep : system.step? setup move = some last) (rest : List Move) :
    refreshesOf setup loop system (move :: rest) =
      ownRefreshes loop system move last ++ refreshesOf setup loop last.system rest := by
  simp only [refreshesOf, hstep]

theorem refreshesOf_snoc {system : System} {moves : List Move} {turn last : Turn} {move : Move}
    (loop : Nat) (hrun : system.run? setup moves = some turn)
    (hstep : turn.system.step? setup move = some last) :
    refreshesOf setup loop system (moves ++ [move]) =
      refreshesOf setup loop system moves ++ ownRefreshes loop turn.system move last := by
  simp only [refreshesOf_eq_gather, gather_snoc (ownRefreshes loop) hrun hstep]

end System

end AdminAccess
