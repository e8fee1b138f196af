import AdminAccess.Proofs.Session.Gate
import AdminAccess.Proofs.Session.Generations

/-! # What logins leave behind

A login is asked for only without a valid session and with no other under way, and what tasks
answer about logins is true when they answer.  Both are read off the ways a move can go.
-/

namespace AdminAccess

open Ledger (openings)

namespace Ledger

def logins (facts : List Happening) : List Credentials :=
  facts.filterMap fun
    | .asked (.login credentials) => some credentials
    | _ => none

theorem logins_append (facts more : List Happening) :
    logins (facts ++ more) = logins facts ++ logins more :=
  List.filterMap_append

theorem mem_logins {facts : List Happening} {credentials : Credentials} :
    credentials ∈ logins facts ↔ .asked (.login credentials) ∈ facts := by
  simp only [logins, List.mem_filterMap]
  constructor
  · rintro ⟨happening, hmem, h⟩
    cases happening with
    | asked purpose => cases purpose <;> cases h; exact hmem
    | _ => cases h
  · exact fun hmem => ⟨_, hmem, rfl⟩

theorem logins_called (requests : List Request) : logins (requests.map .called) = [] := by
  induction requests with
  | nil => rfl
  | cons request rest ih => exact ih

end Ledger

open Ledger (logins)

theorem Turn.logins_facts (turn : Turn) : logins turn.facts = logins turn.happened := by
  refine turn.filterMap_facts fun happening => ?_
  cases happening <;> rfl

namespace System

section Moves

variable {setup : Setup} {system after : System} {facts : List Happening} {task : Nat}

theorem not_authenticated (h : system.session = none) : system.isAuthenticated = false := by
  rw [isAuthenticated, h]
  rfl

theorem authenticated_of_session {session : Session} (h : system.session = some session)
    (hlives : session.isExpired system.now = false) : system.isAuthenticated = true := by
  rw [isAuthenticated, h, Option.any_some, hlives]
  rfl

/-! ## Who logs in -/

theorem LoginEnds.logins {result : Except Failure TokenResponse} {ends : TaskResult}
    (h : LoginEnds system result facts after ends) : Ledger.logins facts = [] := by
  cases h <;> rfl

theorem RefreshEnds.logins {renewal : Renewal} {result : Except Failure TokenResponse}
    {renewed : Renewed} (h : RefreshEnds system renewal result facts after renewed) :
    Ledger.logins facts = [] := by
  cases h <;> rfl

theorem AsksRefresh.logins {renewal : Renewal} {renewed : Option Renewed}
    (h : AsksRefresh setup system renewal facts after renewed) : Ledger.logins facts = [] := by
  cases h with
  | pending => rfl
  | settled hsettled hends => exact hends.logins

theorem EndsSession.logins {reason : EndReason} {expected : Option Nat} {farewell : Farewell}
    (h : EndsSession setup system reason expected facts after farewell) :
    Ledger.logins facts = [] := by
  cases h <;> rfl

theorem GoesOn.logins {loop due : Nat} {renewal : Renewal} {renewed : Renewed}
    (h : GoesOn setup system loop due renewal renewed facts after) :
    Ledger.logins facts = [] := by
  cases h with
  | stored | discarded | broken => rfl
  | failed hends => exact hends.logins

theorem Ticks.logins {loop due minValidity : Nat}
    (h : Ticks setup system loop due minValidity facts after) : Ledger.logins facts = [] := by
  cases h with
  | closed | noSession | fresh => rfl
  | unusable hcandidate hends => exact hends.logins
  | refreshing hcandidate hasks => exact hasks.logins
  | refreshed hcandidate hasks hgoes =>
      rw [Ledger.logins_append, hasks.logins, hgoes.logins, List.append_nil]

theorem LoopSettles.logins {loop : Nat} {reply : Reply} {phase : LoopPhase}
    (h : LoopSettles setup system loop reply phase facts after) : Ledger.logins facts = [] := by
  cases h with
  | refresh hends hgoes =>
      rw [Ledger.logins_append, hends.logins, hgoes.logins, List.append_nil]
  | logout => rfl

theorem Settles.logins {reply : Reply} {phase : TaskPhase}
    (h : Settles setup system task reply phase facts after) : Ledger.logins facts = [] := by
  cases h with
  | login hends => exact hends.logins
  | refresh hends => exact hends.logins
  | logout => rfl
  | call => exact Ledger.logins_called _

theorem EntersGate.logins {credentials : Credentials}
    (h : EntersGate setup system task credentials facts after) :
    Ledger.logins facts = [] ∨
      Ledger.logins facts = [credentials] ∧ system.isAuthenticated = false := by
  cases h with
  | already => exact .inl rfl
  | asked hvalid => exact .inr ⟨rfl, hvalid⟩
  | settled hvalid hsettled hends => exact .inr ⟨congrArg (credentials :: ·) hends.logins, hvalid⟩

theorem Starts.logins {job : Job} (h : Starts setup system task job facts after) :
    Ledger.logins facts = [] ∨ ∃ credentials, Ledger.logins facts = [credentials] ∧
      system.isAuthenticated = false ∧ system.gate.holder = none := by
  cases h with
  | alreadyIn | queues | unrefreshed | uncalled => exact .inl rfl
  | @enters credentials facts after hvalid hfree henters =>
      exact henters.logins.imp_right fun hone => ⟨credentials, hone.1, hvalid, hfree⟩
  | refreshing hcandidate hasks | refreshed hcandidate hasks => exact .inl hasks.logins
  | logout hends => exact .inl hends.logins
  | answered | calling => exact .inl (Ledger.logins_called _)

def NoLogin (system : System) : Prop :=
  ∀ task credentials, system.taskPhase? task ≠ some (.loggingIn credentials)

/-- A move asks for at most one login, without a valid session and with no other under way. -/
theorem Does.logins {move : Move} (h : Does setup system move facts after)
    (horderly : system.Orderly) :
    Ledger.logins facts = [] ∨ ∃ credentials, Ledger.logins facts = [credentials] ∧
      system.isAuthenticated = false ∧ system.NoLogin := by
  cases h with
  | spawn | schedule | startLoop | stopLoop | cancel | release | advance => exact .inl rfl
  | settle hphase hsettles => exact .inl hsettles.logins
  | tick hloop hdue hticks => exact .inl hticks.logins
  | settleLoop hphase hsettles => exact .inl hsettles.logins
  | start hphase hstarts =>
      refine hstarts.logins.imp_right fun ⟨credentials, hone, hvalid, hfree⟩ => ?_
      refine ⟨credentials, hone, hvalid, fun other others hlogging => ?_⟩
      rw [horderly.holds other others hlogging] at hfree
      cases hfree
  | @passGate task credentials facts after hphase hadmitted henters =>
      refine henters.logins.imp_right fun ⟨hone, hvalid⟩ => ?_
      refine ⟨credentials, hone, hvalid, fun other others hlogging => ?_⟩
      have hholder := horderly.holds other others hlogging
      rw [hadmitted] at hholder
      cases hholder
      rw [hphase] at hlogging
      cases hlogging

/-! ## Answers -/

/-- An answer about a login is true: there has been a valid session, or this move has stored one
under a new generation.  A login that comes to be in flight has been asked for in this move, without
a valid session. -/
def Earned (system : System) (facts : List Happening) (ledger : Ledger) : TaskPhase → Prop
  | .finished (.done .alreadyAuthenticated) => system.isAuthenticated = true
  | .finished (.done .authenticated) => ∃ session, openings facts = [session] ∧
      ledger.session = some session ∧ session.generation = system.nextGeneration ∧
      ledger.nextGeneration = system.nextGeneration + 1
  | .loggingIn credentials => system.isAuthenticated = false ∧
      facts = [.asked (.login credentials)]
  | _ => True

theorem LoginEnds.earned {result : Except Failure TokenResponse} {ends : TaskResult}
    (h : LoginEnds system result facts after ends) :
    Earned system facts after.ledger (.finished ends) := by
  cases h with
  | refused | broken => trivial
  | opened hresult hnew => exact ⟨_, rfl, rfl, Session.ofResponse_generation hnew, rfl⟩

theorem EntersGate.earned {credentials : Credentials}
    (h : EntersGate setup system task credentials facts after) {other : Nat} {phase : TaskPhase}
    (hphase : after.taskPhase? other = some phase) :
    system.taskPhase? other = some phase ∨ Earned system facts after.ledger phase := by
  cases h with
  | already hvalid =>
      obtain rfl | hbefore := setTask_taskPhase? hphase
      · exact .inr hvalid
      · exact .inl ((system.openGate_taskPhase? other).symm.trans hbefore)
  | asked hvalid =>
      obtain rfl | hbefore := setTask_taskPhase? hphase
      · exact .inr ⟨hvalid, rfl⟩
      · exact .inl hbefore
  | @settled settlement facts middle result hvalid hsettled hends =>
      obtain rfl | hbefore := setTask_taskPhase? hphase
      · right
        rw [setTask_ledger, middle.openGate_keeps.1]
        have hearned := hends.earned
        cases hends <;> exact hearned
      · rw [openGate_taskPhase?, hends.sameDesk.taskPhase?] at hbefore
        exact .inl hbefore

theorem earned_refreshResult (renewed : Renewed) (ledger : Ledger) :
    Earned system facts ledger (.finished (Task.refreshResult renewed)) := by
  cases renewed <;> trivial

theorem earned_callResult (reply : Reply) (ledger : Ledger) :
    Earned system facts ledger (.finished (Task.callResult reply)) := by
  unfold Task.callResult
  split <;> trivial

theorem earned_logoutResult (result : Except Failure Unit) (ledger : Ledger) :
    Earned system facts ledger (.finished (Task.logoutResult result)) := by
  cases result <;> trivial

theorem earned_unrefreshed {candidate : Candidate} {result : TaskResult}
    (h : Task.unrefreshed? candidate = some result) (ledger : Ledger) :
    Earned system facts ledger (.finished result) := by
  cases candidate <;> cases h <;> trivial

theorem Starts.earned {job : Job} (h : Starts setup system task job facts after) {other : Nat}
    {phase : TaskPhase} (hphase : after.taskPhase? other = some phase) :
    system.taskPhase? other = some phase ∨ Earned system facts after.ledger phase := by
  cases h with
  | alreadyIn hvalid =>
      obtain rfl | hbefore := setTask_taskPhase? hphase
      · exact .inr hvalid
      · exact .inl hbefore
  | queues | uncalled | calling =>
      obtain rfl | hbefore := setTask_taskPhase? hphase
      · exact .inr trivial
      · exact .inl hbefore
  | enters hvalid hfree henters => exact henters.earned hphase
  | unrefreshed hresult =>
      obtain rfl | hbefore := setTask_taskPhase? hphase
      · exact .inr (earned_unrefreshed hresult _)
      · exact .inl hbefore
  | refreshing hcandidate hasks =>
      obtain rfl | hbefore := setTask_taskPhase? hphase
      · exact .inr trivial
      · exact .inl ((hasks.sameDesk.taskPhase? other).symm.trans hbefore)
  | refreshed hcandidate hasks =>
      obtain rfl | hbefore := setTask_taskPhase? hphase
      · exact .inr (earned_refreshResult _ _)
      · exact .inl ((hasks.sameDesk.taskPhase? other).symm.trans hbefore)
  | @logout facts middle farewell hends =>
      obtain rfl | hbefore := setTask_taskPhase? hphase
      · cases farewell with
        | kept | pending => exact .inr trivial
        | settled result => exact .inr (earned_logoutResult result _)
      · exact .inl ((hends.sameDesk.taskPhase? other).symm.trans hbefore)
  | answered =>
      obtain rfl | hbefore := setTask_taskPhase? hphase
      · exact .inr (earned_callResult _ _)
      · exact .inl hbefore

theorem Settles.earned {reply : Reply} {old : TaskPhase}
    (h : Settles setup system task reply old facts after) {other : Nat} {phase : TaskPhase}
    (hphase : after.taskPhase? other = some phase) :
    system.taskPhase? other = some phase ∨ Earned system facts after.ledger phase := by
  cases h with
  | @login credentials facts middle result hends =>
      obtain rfl | hbefore := setTask_taskPhase? hphase
      · right
        rw [setTask_ledger, middle.openGate_keeps.1]
        exact hends.earned
      · rw [openGate_taskPhase?, hends.sameDesk.taskPhase?] at hbefore
        exact .inl hbefore
  | refresh hends =>
      obtain rfl | hbefore := setTask_taskPhase? hphase
      · exact .inr (earned_refreshResult _ _)
      · exact .inl ((hends.sameDesk.taskPhase? other).symm.trans hbefore)
  | logout =>
      obtain rfl | hbefore := setTask_taskPhase? hphase
      · exact .inr (earned_logoutResult _ _)
      · exact .inl hbefore
  | call =>
      obtain rfl | hbefore := setTask_taskPhase? hphase
      · exact .inr (earned_callResult _ _)
      · exact .inl hbefore

/-- Every phase after a move was there before it or is earned by it. -/
theorem Does.earned {move : Move} (h : Does setup system move facts after) {other : Nat}
    {phase : TaskPhase} (hphase : after.taskPhase? other = some phase) :
    system.taskPhase? other = some phase ∨ Earned system facts after.ledger phase := by
  cases h with
  | spawn =>
      obtain rfl | hbefore := spawn_taskPhase? hphase
      · exact .inr trivial
      · exact .inl hbefore
  | start hready hstarts => exact hstarts.earned hphase
  | passGate hwaits hadmitted henters => exact henters.earned hphase
  | settle hwaits hsettles => exact hsettles.earned hphase
  | schedule => exact .inl (((system.register_sameDesk _).taskPhase? other).symm.trans hphase)
  | tick hloop hdue hticks =>
      exact .inl ((hticks.sameDesk.taskPhase? other).symm.trans hphase)
  | settleLoop hwaits hsettles =>
      exact .inl ((hsettles.sameDesk.taskPhase? other).symm.trans hphase)
  | startLoop | stopLoop | cancel | release | advance => exact .inl hphase

end Moves

end System

end AdminAccess
