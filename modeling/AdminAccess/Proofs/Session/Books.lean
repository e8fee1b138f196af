import Mathlib.Data.List.Perm.Basic
import AdminAccess.Proofs.Session.Course

/-! # The books of all endings

A session that has been taken out is, at the same moment, asked to be ended at the identity
provider; then it is either still being ended or has been told of to subscribers.  The books of
one mover balance, because it waits for at most one ending; from them follow those of a move.
-/

namespace AdminAccess

/-! ## What a record tells -/

def TaskPhase.ending? : TaskPhase → Option Ending
  | .leaving ending => some ending
  | _ => none

def LoopPhase.ending? : LoopPhase → Option Ending
  | .leaving ending => some ending
  | _ => none

theorem Loop.firstPhase_ending? (interval now : Nat) :
    (firstPhase interval now).ending? = none := by
  obtain h | h := firstPhase_cases interval now <;> rw [h] <;> rfl

namespace Ledger

def takings (facts : List Happening) : List Ending :=
  facts.filterMap fun
    | .taken ending => some ending
    | _ => none

def logouts (facts : List Happening) : List Ending :=
  facts.filterMap fun
    | .asked (.logout ending) => some ending
    | _ => none

def farewells (facts : List Happening) : List EndReason :=
  facts.filterMap fun
    | .emitted (.loggedOut reason) => some reason
    | _ => none

theorem takings_append (facts more : List Happening) :
    takings (facts ++ more) = takings facts ++ takings more :=
  List.filterMap_append

theorem logouts_append (facts more : List Happening) :
    logouts (facts ++ more) = logouts facts ++ logouts more :=
  List.filterMap_append

theorem farewells_append (facts more : List Happening) :
    farewells (facts ++ more) = farewells facts ++ farewells more :=
  List.filterMap_append

theorem mem_takings {facts : List Happening} {ending : Ending} :
    ending ∈ takings facts ↔ .taken ending ∈ facts := by
  simp only [takings, List.mem_filterMap]
  constructor
  · rintro ⟨happening, hmem, h⟩
    cases happening <;> cases h
    exact hmem
  · exact fun hmem => ⟨_, hmem, rfl⟩

theorem mem_logouts {facts : List Happening} {ending : Ending} :
    ending ∈ logouts facts ↔ .asked (.logout ending) ∈ facts := by
  simp only [logouts, List.mem_filterMap]
  constructor
  · rintro ⟨happening, hmem, h⟩
    cases happening with
    | asked purpose => cases purpose <;> cases h; exact hmem
    | _ => cases h
  · exact fun hmem => ⟨_, hmem, rfl⟩

/-- Nothing in a record is about the end of a session. -/
structure NoEnding (facts : List Happening) : Prop where
  takings : takings facts = []
  logouts : logouts facts = []
  farewells : farewells facts = []

theorem NoEnding.nil : NoEnding [] :=
  ⟨rfl, rfl, rfl⟩

theorem NoEnding.cons {happening : Happening} {facts : List Happening}
    (hfirst : NoEnding [happening]) (hrest : NoEnding facts) : NoEnding (happening :: facts) where
  takings := by
    rw [← List.singleton_append, takings_append, hfirst.takings, hrest.takings, List.append_nil]
  logouts := by
    rw [← List.singleton_append, logouts_append, hfirst.logouts, hrest.logouts, List.append_nil]
  farewells := by
    rw [← List.singleton_append, farewells_append, hfirst.farewells, hrest.farewells,
      List.append_nil]

theorem NoEnding.called (requests : List Request) : NoEnding (requests.map .called) := by
  induction requests with
  | nil => exact .nil
  | cons request rest ih => exact .cons ⟨rfl, rfl, rfl⟩ ih

/-- The sessions whose end subscribers are told of in a record, given the one that the mover has
waited for. -/
def heard (waited : Option Ending) (facts : List Happening) : List Ending :=
  if farewells facts = [] then [] else waited.toList ++ takings facts

/-- The books of one mover: what it has waited for and what it takes out it tells of or goes on
waiting for. -/
structure Books (waited : Option Ending) (facts : List Happening) (waits : Option Ending) :
    Prop where
  asked : logouts facts = takings facts
  told : farewells facts = (heard waited facts).map (·.reason)
  kept : waited.toList ++ takings facts = heard waited facts ++ waits.toList

theorem NoEnding.heard {waited : Option Ending} {facts : List Happening} (h : NoEnding facts) :
    heard waited facts = [] := by
  simp [Ledger.heard, h.farewells]

theorem NoEnding.books {facts : List Happening} (h : NoEnding facts) : Books none facts none where
  asked := by rw [h.logouts, h.takings]
  told := by simp [h.heard, h.farewells]
  kept := by simp [h.heard, h.takings]

theorem Books.after {facts more : List Happening} {waits : Option Ending}
    (hfirst : NoEnding facts) (h : Books none more waits) : Books none (facts ++ more) waits := by
  have hheard : Ledger.heard none (facts ++ more) = Ledger.heard none more := by
    simp [Ledger.heard, farewells_append, takings_append, hfirst.farewells, hfirst.takings]
  constructor
  · rw [logouts_append, takings_append, hfirst.logouts, hfirst.takings, h.asked]
  · rw [hheard, farewells_append, hfirst.farewells, List.nil_append, h.told]
  · rw [hheard, takings_append, hfirst.takings, List.nil_append, h.kept]

end Ledger

open Ledger (takings logouts farewells heard NoEnding Books)

theorem Turn.takings_facts (turn : Turn) : takings turn.facts = takings turn.happened := by
  refine turn.filterMap_facts fun happening => ?_
  cases happening <;> rfl

theorem Turn.logouts_facts (turn : Turn) : logouts turn.facts = logouts turn.happened := by
  refine turn.filterMap_facts fun happening => ?_
  cases happening <;> rfl

theorem Turn.farewells_facts (turn : Turn) : farewells turn.facts = farewells turn.happened := by
  refine turn.filterMap_facts fun happening => ?_
  cases happening <;> rfl

open scoped List in
/-- When one entry of a list is replaced, what the list yields changes by that entry's part. -/
theorem perm_filterMap_set {α β : Type} {entries : List α} {index : Nat} {old : α}
    (yields : α → Option β) (new : α) (h : entries[index]? = some old) :
    (entries.set index new).filterMap yields ++ (yields old).toList ~
      entries.filterMap yields ++ (yields new).toList := by
  obtain ⟨hbound, rfl⟩ := List.getElem?_eq_some_iff.1 h
  have hnew := (List.set_perm_cons_eraseIdx hbound new).filterMap yields
  have hold := (List.getElem_cons_eraseIdx_perm hbound).filterMap yields
  have hcons : ∀ (entry : α) (rest : List α), (entry :: rest).filterMap yields =
      (yields entry).toList ++ rest.filterMap yields := by
    intro entry rest
    cases hentry : yields entry <;> simp [hentry]
  rw [hcons] at hnew hold
  let rest := (entries.eraseIdx index).filterMap yields
  calc (entries.set index new).filterMap yields ++ (yields entries[index]).toList
      _ ~ ((yields new).toList ++ rest) ++ (yields entries[index]).toList :=
        hnew.append_right _
      _ ~ (yields entries[index]).toList ++ ((yields new).toList ++ rest) :=
        List.perm_append_comm
      _ ~ (yields entries[index]).toList ++ (rest ++ (yields new).toList) :=
        List.perm_append_comm.append_left _
      _ = ((yields entries[index]).toList ++ rest) ++ (yields new).toList :=
        (List.append_assoc _ _ _).symm
      _ ~ entries.filterMap yields ++ (yields new).toList := hold.append_right _

namespace System

def leaving (system : System) : List Ending :=
  system.tasks.filterMap TaskPhase.ending? ++ system.loopPhases.filterMap LoopPhase.ending?

theorem SameWork.leaving {system after : System} (h : system.SameWork after) :
    after.leaving = system.leaving := by
  rw [System.leaving, System.leaving, h.1, h.2]

/-! ## Stretches -/

section Books

variable {setup : Setup} {system after : System} {facts : List Happening}

theorem LoginEnds.noEnding {result : Except Failure TokenResponse} {ends : TaskResult}
    (h : LoginEnds system result facts after ends) : NoEnding facts := by
  cases h <;> exact ⟨rfl, rfl, rfl⟩

theorem RefreshEnds.noEnding {renewal : Renewal} {result : Except Failure TokenResponse}
    {renewed : Renewed} (h : RefreshEnds system renewal result facts after renewed) :
    NoEnding facts := by
  cases h <;> exact ⟨rfl, rfl, rfl⟩

theorem AsksRefresh.noEnding {renewal : Renewal} {renewed : Option Renewed}
    (h : AsksRefresh setup system renewal facts after renewed) : NoEnding facts := by
  cases h with
  | pending => exact ⟨rfl, rfl, rfl⟩
  | settled hsettled hends => exact .cons ⟨rfl, rfl, rfl⟩ hends.noEnding

theorem EntersGate.noEnding {task : Nat} {credentials : Credentials}
    (h : EntersGate setup system task credentials facts after) : NoEnding facts := by
  cases h with
  | already | asked => exact ⟨rfl, rfl, rfl⟩
  | settled hvalid hsettled hends => exact .cons ⟨rfl, rfl, rfl⟩ hends.noEnding

theorem EndsSession.books {reason : EndReason} {expected : Option Nat} {farewell : Farewell}
    (h : EndsSession setup system reason expected facts after farewell) :
    Books none facts farewell.ending? := by
  cases h <;> exact ⟨rfl, rfl, rfl⟩

theorem EntersGate.books {task : Nat} {credentials : Credentials}
    (h : EntersGate setup system task credentials facts after) :
    ∃ phase, system.MovesTask task phase after ∧ Books none facts phase.ending? := by
  have hbooks := h.noEnding.books
  obtain ⟨middle, phase, hwork, rfl, rfl | ⟨result, rfl⟩⟩ := h.sameWork
  · exact ⟨_, hwork.setTask task _, hbooks⟩
  · exact ⟨_, hwork.setTask task _, hbooks⟩

theorem Starts.books {task : Nat} {job : Job} (h : Starts setup system task job facts after) :
    ∃ phase, system.MovesTask task phase after ∧ Books none facts phase.ending? := by
  have hsame : system.SameWork system := ⟨rfl, rfl⟩
  cases h with
  | alreadyIn | unrefreshed | uncalled =>
      exact ⟨_, hsame.setTask task _, NoEnding.nil.books⟩
  | queues => exact ⟨_, hsame.setTask task _, NoEnding.nil.books⟩
  | enters hvalid hfree henters =>
      obtain ⟨phase, hmoves, hbooks⟩ := henters.books
      exact ⟨phase, hmoves, hbooks⟩
  | refreshing hcandidate hasks =>
      exact ⟨_, hasks.sameWork.setTask task _, hasks.noEnding.books⟩
  | refreshed hcandidate hasks =>
      exact ⟨_, hasks.sameWork.setTask task _, hasks.noEnding.books⟩
  | @logout facts after farewell hends =>
      have hbooks := hends.books
      refine ⟨_, hends.sameWork.setTask task _, ?_⟩
      cases farewell <;> exact hbooks
  | answered | calling => exact ⟨_, hsame.setTask task _, (NoEnding.called _).books⟩

theorem Settles.books {task : Nat} {reply : Reply} {old : TaskPhase}
    (h : Settles setup system task reply old facts after) :
    ∃ phase, system.MovesTask task phase after ∧ Books old.ending? facts phase.ending? := by
  cases h with
  | login hends =>
      exact ⟨_, (hends.sameWork.trans (openGate_sameWork _)).setTask task _,
        hends.noEnding.books⟩
  | refresh hends => exact ⟨_, hends.sameWork.setTask task _, hends.noEnding.books⟩
  | logout => exact ⟨_, SameWork.setTask ⟨rfl, rfl⟩ task _, rfl, rfl, rfl⟩
  | call => exact ⟨_, SameWork.setTask ⟨rfl, rfl⟩ task _, (NoEnding.called _).books⟩

theorem EndsSession.afterFarewell {loop : Nat} {reason : EndReason} {expected : Option Nat}
    {farewell : Farewell} (h : EndsSession setup system reason expected facts after farewell) :
    ∃ phase, system.MovesLoop loop phase (after.afterFarewell loop farewell) ∧
      Books none facts phase.ending? := by
  have hbooks := h.books
  cases farewell with
  | kept | settled => exact ⟨_, h.sameWork.stopLoop loop, hbooks⟩
  | pending ending => exact ⟨_, h.sameWork.setLoop loop _, hbooks⟩

theorem GoesOn.books {loop due : Nat} {renewal : Renewal} {renewed : Renewed}
    (h : GoesOn setup system loop due renewal renewed facts after) :
    ∃ phase, system.MovesLoop loop phase after ∧ Books none facts phase.ending? := by
  cases h with
  | stored | discarded | broken =>
      exact ⟨_, SameWork.setLoop ⟨rfl, rfl⟩ loop _, NoEnding.nil.books⟩
  | failed hends => exact hends.afterFarewell

theorem SameWork.movesLoop {middle : System} {loop : Nat} {phase : LoopPhase}
    (hfirst : system.SameWork middle) (h : middle.MovesLoop loop phase after) :
    system.MovesLoop loop phase after :=
  ⟨h.1.trans hfirst.1, by rw [h.2, hfirst.2]⟩

theorem Ticks.books {loop due minValidity : Nat}
    (h : Ticks setup system loop due minValidity facts after) :
    ∃ phase, system.MovesLoop loop phase after ∧ Books none facts phase.ending? := by
  have hsame : system.SameWork system := ⟨rfl, rfl⟩
  cases h with
  | closed | noSession => exact ⟨_, hsame.stopLoop loop, NoEnding.nil.books⟩
  | fresh => exact ⟨_, hsame.setLoop loop _, NoEnding.nil.books⟩
  | unusable hcandidate hends => exact hends.afterFarewell
  | refreshing hcandidate hasks =>
      exact ⟨_, hasks.sameWork.setLoop loop _, hasks.noEnding.books⟩
  | refreshed hcandidate hasks hgoes =>
      obtain ⟨phase, hmoves, hbooks⟩ := hgoes.books
      exact ⟨phase, hasks.sameWork.movesLoop hmoves, hbooks.after hasks.noEnding⟩

theorem LoopSettles.books {loop : Nat} {reply : Reply} {old : LoopPhase}
    (h : LoopSettles setup system loop reply old facts after) :
    ∃ phase, system.MovesLoop loop phase after ∧ Books old.ending? facts phase.ending? := by
  cases h with
  | refresh hends hgoes =>
      obtain ⟨phase, hmoves, hbooks⟩ := hgoes.books
      exact ⟨phase, hends.sameWork.movesLoop hmoves, hbooks.after hends.noEnding⟩
  | @logout ending =>
      have hsame : system.SameWork (system.tell (.loggedOut ending.reason)) := ⟨rfl, rfl⟩
      exact ⟨_, hsame.stopLoop loop, rfl, rfl, rfl⟩

/-! ## Moves -/

def waited? (system : System) : Move → Option Ending
  | .settle task _ => (system.taskPhase? task).bind TaskPhase.ending?
  | .settleLoop loop _ => (system.loopPhase? loop).bind LoopPhase.ending?
  | _ => none

theorem MovesTask.leaving {task : Nat} {old phase : TaskPhase}
    (hmoves : system.MovesTask task phase after) (hold : system.taskPhase? task = some old) :
    (after.leaving ++ old.ending?.toList).Perm (system.leaving ++ phase.ending?.toList) := by
  have htasks := perm_filterMap_set TaskPhase.ending? phase hold
  rw [System.leaving, System.leaving, hmoves.1, hmoves.2]
  rw [List.perm_iff_count] at htasks ⊢
  intro ending
  have hcount := htasks ending
  simp only [List.count_append] at hcount ⊢
  omega

theorem MovesLoop.leaving {loop : Nat} {old phase : LoopPhase}
    (hmoves : system.MovesLoop loop phase after) (hold : system.loopPhase? loop = some old) :
    (after.leaving ++ old.ending?.toList).Perm (system.leaving ++ phase.ending?.toList) := by
  rw [← loopPhase?_eq] at hold
  have hloops := perm_filterMap_set LoopPhase.ending? phase hold
  rw [System.leaving, System.leaving, hmoves.1, hmoves.2, List.append_assoc, List.append_assoc]
  exact hloops.append_left _

theorem spawn_leaving (system : System) (job : Job) :
    (system.spawn job).leaving = system.leaving := by
  have hready : [TaskPhase.ready job].filterMap TaskPhase.ending? = [] := rfl
  have htasks : (system.spawn job).tasks = system.tasks ++ [.ready job] := rfl
  have hphases : (system.spawn job).loopPhases = system.loopPhases := rfl
  rw [leaving, leaving, htasks, hphases, List.filterMap_append, hready, List.append_nil]

theorem schedule_leaving (system : System) (interval minValidity : Nat) :
    (system.schedule interval minValidity).system.leaving = system.leaving := by
  obtain ⟨htasks, hphases⟩ := system.register_sameWork (some system.loops.length)
  have hstarting : [LoopPhase.starting].filterMap LoopPhase.ending? = [] := rfl
  have hadded : (system.schedule interval minValidity).system.loopPhases =
      system.loopPhases ++ [.starting] := by
    rw [(system.schedule_system interval minValidity).1, ← hphases]
    exact List.map_append
  have hkept : (system.schedule interval minValidity).system.tasks = system.tasks := by
    rw [(system.schedule_system interval minValidity).1]
    exact htasks
  rw [leaving, leaving, hkept, hadded, List.filterMap_append, hstarting, List.append_nil]

/-- Every move keeps the books of its mover. -/
theorem Does.books {move : Move} (h : Does setup system move facts after) :
    ∃ waits, Books (system.waited? move) facts waits ∧
      (after.leaving ++ (system.waited? move).toList).Perm
        (system.leaving ++ waits.toList) := by
  have hsame : system.SameWork system := ⟨rfl, rfl⟩
  have hquiet : ∀ {other : System}, other.leaving = system.leaving →
      ∃ waits, Books none [] waits ∧
        (other.leaving ++ (none : Option Ending).toList).Perm
          (system.leaving ++ waits.toList) :=
    fun hleaving => ⟨none, NoEnding.nil.books, by rw [hleaving]⟩
  cases h with
  | spawn => exact hquiet (system.spawn_leaving _)
  | schedule =>
      have hleaving := system.schedule_leaving
      simp only [schedule_system] at hleaving
      exact hquiet (hleaving _ _)
  | cancel => exact hquiet (system.markCancelled_sameWork _).leaving
  | release | advance => exact hquiet rfl
  | start hphase hstarts =>
      obtain ⟨phase, hmoves, hbooks⟩ := hstarts.books
      exact ⟨_, hbooks, hmoves.leaving hphase⟩
  | passGate hphase hadmitted henters =>
      obtain ⟨phase, hmoves, hbooks⟩ := henters.books
      exact ⟨_, hbooks, hmoves.leaving hphase⟩
  | settle hphase hsettles =>
      obtain ⟨phase, hmoves, hbooks⟩ := hsettles.books
      simp only [waited?, hphase, Option.bind_some]
      exact ⟨_, hbooks, hmoves.leaving hphase⟩
  | @startLoop loop interval _ _ hloop =>
      have hleaving := (hsame.setLoop loop (Loop.firstPhase interval system.now)).leaving
        (loopPhase?_of_loop hloop)
      rw [Loop.firstPhase_ending?] at hleaving
      exact ⟨none, NoEnding.nil.books, hleaving⟩
  | tick hloop hdue hticks =>
      obtain ⟨phase, hmoves, hbooks⟩ := hticks.books
      exact ⟨_, hbooks, hmoves.leaving (loopPhase?_of_loop hloop)⟩
  | stopLoop hloop =>
      exact ⟨_, NoEnding.nil.books, (hsame.stopLoop _).leaving (loopPhase?_of_loop hloop)⟩
  | settleLoop hphase hsettles =>
      obtain ⟨phase, hmoves, hbooks⟩ := hsettles.books
      simp only [waited?, hphase, Option.bind_some]
      exact ⟨_, hbooks, hmoves.leaving hphase⟩

end Books

end System

end AdminAccess
