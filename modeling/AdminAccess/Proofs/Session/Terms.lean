import AdminAccess.Proofs.Session.IdleEndings
import AdminAccess.Proofs.Session.Runs

/-! # The terms of loops

The interval and the threshold of a loop are settled when it is scheduled, and a loop that has been
told to stop is never told otherwise.  Whatever is done to a state, its loops keep these terms.
-/

namespace AdminAccess

structure Loop.KeepsTerms (before after : Loop) : Prop where
  interval : after.interval = before.interval
  minValidity : after.minValidity = before.minValidity
  cancelled : before.cancelled = true → after.cancelled = true

namespace Loop

theorem KeepsTerms.refl (l : Loop) : l.KeepsTerms l :=
  ⟨rfl, rfl, id⟩

theorem KeepsTerms.trans {before middle after : Loop} (hfirst : before.KeepsTerms middle)
    (hsecond : middle.KeepsTerms after) : before.KeepsTerms after where
  interval := hsecond.interval.trans hfirst.interval
  minValidity := hsecond.minValidity.trans hfirst.minValidity
  cancelled hcancelled := hsecond.cancelled (hfirst.cancelled hcancelled)

end Loop

namespace System

/-- All loops of a state are there after a change of it, under the same terms. -/
def KeepsTerms (system after : System) : Prop :=
  ∀ (loop : Nat) (before : Loop), system.loops[loop]? = some before →
    ∃ now, after.loops[loop]? = some now ∧ before.KeepsTerms now

/-! ## Changes of the state -/

section Changes

variable {system middle after : System}

theorem KeepsTerms.of_same (h : after.loops = system.loops) : system.KeepsTerms after := by
  intro loop before hbefore
  exact ⟨before, h ▸ hbefore, .refl before⟩

theorem KeepsTerms.refl (system : System) : system.KeepsTerms system :=
  .of_same rfl

theorem KeepsTerms.trans (hfirst : system.KeepsTerms middle) (hsecond : middle.KeepsTerms after) :
    system.KeepsTerms after := by
  intro loop before hbefore
  obtain ⟨now, hnow, hterms⟩ := hfirst loop before hbefore
  obtain ⟨last, hlast, hmore⟩ := hsecond loop now hnow
  exact ⟨last, hlast, hterms.trans hmore⟩

theorem updateLoop_keepsTerms (system : System) (loop : Nat) {change : Loop → Loop}
    (hchange : ∀ l : Loop, l.KeepsTerms (change l)) :
    system.KeepsTerms (system.updateLoop loop change) := by
  intro other before hbefore
  by_cases hother : loop = other
  · exact ⟨change before, by simp [updateLoop, hother, hbefore], hchange before⟩
  · exact ⟨before, by simp [updateLoop, hother, hbefore], .refl before⟩

theorem setLoop_keepsTerms (system : System) (loop : Nat) (phase : LoopPhase) :
    system.KeepsTerms (system.setLoop loop phase) :=
  system.updateLoop_keepsTerms loop fun _ => ⟨rfl, rfl, id⟩

theorem markCancelled_keepsTerms (system : System) (loop : Nat) :
    system.KeepsTerms (system.markCancelled loop) :=
  system.updateLoop_keepsTerms loop fun _ => ⟨rfl, rfl, fun _ => rfl⟩

theorem stopLoop_keepsTerms (system : System) (loop : Nat) :
    system.KeepsTerms (system.stopLoop loop) :=
  (system.setLoop_keepsTerms loop .ended).trans (markCancelled_keepsTerms _ loop)

theorem register_keepsTerms (system : System) (loop : Option Nat) :
    system.KeepsTerms (system.register loop) := by
  unfold register
  cases system.registered with
  | none => exact .of_same rfl
  | some before =>
      have hnext : system.KeepsTerms { system with registered := loop } := .of_same rfl
      exact hnext.trans (markCancelled_keepsTerms _ before)

theorem closeUnused_keepsTerms (system : System) : system.KeepsTerms system.closeUnused := by
  unfold closeUnused
  split
  · exact .refl system
  · exact system.register_keepsTerms none

theorem afterFarewell_keepsTerms (system : System) (loop : Nat) (farewell : Farewell) :
    system.KeepsTerms (system.afterFarewell loop farewell) := by
  cases farewell with
  | pending ending => exact system.setLoop_keepsTerms loop (.leaving ending)
  | kept | settled => exact system.stopLoop_keepsTerms loop

/-- A loop more, behind the others. -/
theorem KeepsTerms.append (h : system.KeepsTerms middle) (started : Loop) :
    system.KeepsTerms { middle with loops := middle.loops ++ [started] } := by
  intro loop before hbefore
  obtain ⟨now, hnow, hterms⟩ := h loop before hbefore
  obtain ⟨hbound, -⟩ := List.getElem?_eq_some_iff.1 hnow
  exact ⟨now, (List.getElem?_append_left hbound).trans hnow, hterms⟩

end Changes

/-! ## Moves -/

section Moves

variable {setup : Setup} {system after : System} {facts : List Happening}

theorem LoginEnds.loops {result : Except Failure TokenResponse} {ends : TaskResult}
    (h : LoginEnds system result facts after ends) : after.loops = system.loops := by
  cases h <;> rfl

theorem RefreshEnds.loops {renewal : Renewal} {result : Except Failure TokenResponse}
    {renewed : Renewed} (h : RefreshEnds system renewal result facts after renewed) :
    after.loops = system.loops := by
  cases h <;> rfl

theorem AsksRefresh.loops {renewal : Renewal} {renewed : Option Renewed}
    (h : AsksRefresh setup system renewal facts after renewed) : after.loops = system.loops := by
  cases h with
  | pending => rfl
  | settled hsettled hends => exact hends.loops

theorem EntersGate.loops {task : Nat} {credentials : Credentials}
    (h : EntersGate setup system task credentials facts after) : after.loops = system.loops := by
  cases h with
  | already => exact system.openGate_keeps.2.2.1
  | asked => rfl
  | settled hvalid hsettled hends => exact (openGate_keeps _).2.2.1.trans hends.loops

theorem EndsSession.keepsTerms {reason : EndReason} {expected : Option Nat} {farewell : Farewell}
    (h : EndsSession setup system reason expected facts after farewell) :
    system.KeepsTerms after := by
  cases h with
  | stale => exact .refl system
  | idle => exact system.register_keepsTerms none
  | asked | settled => exact register_keepsTerms { system with session := none } none

theorem Starts.keepsTerms {task : Nat} {job : Job} (h : Starts setup system task job facts after) :
    system.KeepsTerms after := by
  cases h with
  | alreadyIn | queues | unrefreshed | uncalled | answered | calling => exact .of_same rfl
  | enters hvalid hfree henters => exact .of_same henters.loops
  | refreshing hcandidate hasks | refreshed hcandidate hasks => exact .of_same hasks.loops
  | logout hends => exact hends.keepsTerms

theorem Settles.keepsTerms {task : Nat} {reply : Reply} {phase : TaskPhase}
    (h : Settles setup system task reply phase facts after) : system.KeepsTerms after := by
  cases h with
  | login hends => exact .of_same ((openGate_keeps _).2.2.1.trans hends.loops)
  | refresh hends => exact .of_same hends.loops
  | logout | call => exact .of_same rfl

theorem GoesOn.keepsTerms {loop due : Nat} {renewal : Renewal} {renewed : Renewed}
    (h : GoesOn setup system loop due renewal renewed facts after) : system.KeepsTerms after := by
  cases h with
  | stored | discarded | broken => exact system.setLoop_keepsTerms loop _
  | failed hends => exact hends.keepsTerms.trans (afterFarewell_keepsTerms _ loop _)

theorem Ticks.keepsTerms {loop due minValidity : Nat}
    (h : Ticks setup system loop due minValidity facts after) : system.KeepsTerms after := by
  cases h with
  | closed | noSession => exact system.stopLoop_keepsTerms loop
  | fresh => exact system.setLoop_keepsTerms loop _
  | unusable hcandidate hends =>
      exact hends.keepsTerms.trans (afterFarewell_keepsTerms _ loop _)
  | refreshing hcandidate hasks =>
      exact (KeepsTerms.of_same hasks.loops).trans (setLoop_keepsTerms _ loop _)
  | refreshed hcandidate hasks hgoes =>
      exact (KeepsTerms.of_same hasks.loops).trans hgoes.keepsTerms

theorem LoopSettles.keepsTerms {loop : Nat} {reply : Reply} {phase : LoopPhase}
    (h : LoopSettles setup system loop reply phase facts after) : system.KeepsTerms after := by
  cases h with
  | refresh hends hgoes => exact (KeepsTerms.of_same hends.loops).trans hgoes.keepsTerms
  | @logout ending => exact stopLoop_keepsTerms (system.tell (.loggedOut ending.reason)) loop

theorem Does.keepsTerms {move : Move} (h : Does setup system move facts after) :
    system.KeepsTerms after := by
  cases h with
  | spawn | release | advance => exact .of_same rfl
  | start hphase hstarts => exact hstarts.keepsTerms
  | passGate hphase hadmitted henters => exact .of_same henters.loops
  | settle hphase hsettles => exact hsettles.keepsTerms
  | schedule => exact (system.register_keepsTerms _).append _
  | startLoop => exact system.setLoop_keepsTerms _ _
  | tick hloop hdue hticks => exact hticks.keepsTerms
  | stopLoop => exact system.stopLoop_keepsTerms _
  | settleLoop hphase hsettles => exact hsettles.keepsTerms
  | cancel => exact system.markCancelled_keepsTerms _

end Moves

/-! ## Runs -/

variable {setup : Setup}

theorem step?_keepsTerms {system : System} {move : Move} {last : Turn}
    (h : system.step? setup move = some last) : system.KeepsTerms last.system := by
  obtain ⟨after, hdoes, hclosed⟩ := step?_does h
  rw [hclosed]
  exact hdoes.keepsTerms.trans after.closeUnused_keepsTerms

theorem run?_keepsTerms {system : System} {moves : List Move} {turn : Turn}
    (h : system.run? setup moves = some turn) : system.KeepsTerms turn.system := by
  refine run?_induction (motive := fun _ after => system.KeepsTerms after) (.refl system) ?_ h
  intro _ _ _ _ _ hbefore hstep
  exact hbefore.trans (step?_keepsTerms hstep)

theorem KeepsTerms.cancelled? {system after : System} (h : system.KeepsTerms after) {loop : Nat}
    (hcancelled : system.cancelled? loop = some true) : after.cancelled? loop = some true := by
  obtain ⟨before, hbefore, htold⟩ := Option.map_eq_some_iff.1 hcancelled
  obtain ⟨now, hnow, hterms⟩ := h loop before hbefore
  rw [System.cancelled?, hnow, Option.map_some, hterms.cancelled htold]

end System

end AdminAccess
