import AdminAccess.Proofs.Session.LoopEnds
import AdminAccess.Proofs.Session.Telling
import AdminAccess.Proofs.Session.Terms

/-! # What handles show

The handle of a loop can be cancelled from six places.  Between two moves a handle that does not
show so is the one of the registered loop, which runs, and the provider is there; hence there is
at most one such handle.  A cancelled handle stays cancelled.
-/

namespace AdminAccess

namespace System

/-- The handles that are not cancelled tell the truth. -/
def TrueHandles (system : System) : Prop :=
  ∀ loop, system.cancelled? loop = some false →
    system.registered = some loop ∧ system.closed = false ∧ system.loopPhase? loop ≠ some .ended

/-- A change after which handles are as true as before. -/
def TurnsHandles (system after : System) : Prop :=
  system.TrueHandles → after.TrueHandles

/-! ## Changes of the state -/

section Changes

variable {system middle after : System}

theorem TurnsHandles.trans (hfirst : system.TurnsHandles middle)
    (hsecond : middle.TurnsHandles after) : system.TurnsHandles after :=
  fun htrue => hsecond (hfirst htrue)

/-- A change of other things than loops. -/
theorem TurnsHandles.of_same (hloops : after.loops = system.loops)
    (hregistered : after.registered = system.registered) (hclosed : after.closed = system.closed) :
    system.TurnsHandles after := by
  have hhandles : ∀ loop, after.cancelled? loop = system.cancelled? loop := fun loop => by
    rw [cancelled?, cancelled?, hloops]
  have hphases : ∀ loop, after.loopPhase? loop = system.loopPhase? loop := fun loop => by
    rw [loopPhase?, loopPhase?, hloops]
  intro htrue loop hhandle
  rw [hregistered, hclosed, hphases]
  exact htrue loop ((hhandles loop).symm.trans hhandle)

theorem TurnsHandles.refl (system : System) : system.TurnsHandles system :=
  .of_same rfl rfl rfl

theorem openGate_turnsHandles (system : System) : system.TurnsHandles system.openGate := by
  unfold openGate
  split <;> exact .of_same rfl rfl rfl

theorem markCancelled_turnsHandles (system : System) (loop : Nat) :
    system.TurnsHandles (system.markCancelled loop) := by
  intro htrue other hhandle
  rw [markCancelled_cancelled?] at hhandle
  rw [markCancelled_loopPhase?]
  split at hhandle
  · obtain ⟨shown, -, hshown⟩ := Option.map_eq_some_iff.1 hhandle
    cases hshown
  · exact htrue other hhandle

/-- A loop that starts, waits or asks for something runs on. -/
theorem setLoop_turnsHandles (system : System) (loop : Nat) {phase : LoopPhase}
    (hruns : phase ≠ .ended) : system.TurnsHandles (system.setLoop loop phase) := by
  intro htrue other hhandle
  rw [setLoop_cancelled?] at hhandle
  obtain ⟨hregistered, hclosed, hrunning⟩ := htrue other hhandle
  refine ⟨hregistered, hclosed, fun hended => ?_⟩
  obtain hphase | hbefore := setLoop_loopPhase? hended
  · exact hruns hphase.symm
  · exact hrunning hbefore

/-- A loop that ends by itself cancels its handle. -/
theorem stopLoop_turnsHandles (system : System) (loop : Nat) :
    system.TurnsHandles (system.stopLoop loop) := by
  intro htrue other hhandle
  rw [stopLoop, markCancelled_cancelled?, setLoop_cancelled?] at hhandle
  split at hhandle
  · obtain ⟨shown, -, hshown⟩ := Option.map_eq_some_iff.1 hhandle
    cases hshown
  · next hother =>
      obtain ⟨hregistered, hclosed, hrunning⟩ := htrue other hhandle
      have hphase : (system.stopLoop loop).loopPhase? other = system.loopPhase? other :=
        MovesLoop.loopPhase?_other (SameWork.stopLoop ⟨rfl, rfl⟩ loop) hother
      exact ⟨hregistered, hclosed, fun hended => hrunning (hphase.symm.trans hended)⟩

/-- Whoever is registered next, the loop before is told to stop, and it was the only one with a
handle that did not show so. -/
theorem TrueHandles.register (h : system.TrueHandles) (loop : Option Nat) (other : Nat) :
    (system.register loop).cancelled? other ≠ some false := by
  intro hhandle
  rw [register_cancelled?] at hhandle
  split at hhandle
  · obtain ⟨shown, -, hshown⟩ := Option.map_eq_some_iff.1 hhandle
    cases hshown
  · next hother => exact hother (h other hhandle).1

theorem register_none_turnsHandles (system : System) :
    system.TurnsHandles (system.register none) :=
  fun htrue other hhandle => absurd hhandle (htrue.register none other)

theorem closeUnused_turnsHandles (system : System) :
    system.TurnsHandles system.closeUnused := by
  unfold closeUnused
  split
  · exact .refl system
  · exact fun htrue other hhandle => absurd hhandle (htrue.register none other)

/-- The state in which a loop has just been scheduled. -/
theorem schedule_turnsHandles (hclosed : system.closed = false) (started : Loop)
    (hstarting : started.phase = .starting) :
    system.TurnsHandles { system.register (some system.loops.length) with
      loops := (system.register (some system.loops.length)).loops ++ [started] } := by
  have hregister := system.register_keeps (some system.loops.length)
  have hcount := system.register_loops_length (some system.loops.length)
  intro htrue other hhandle
  simp only [cancelled?, List.getElem?_append, hcount] at hhandle
  split at hhandle
  · exact absurd hhandle (htrue.register _ other)
  · next hnew =>
      -- the new loop is the only one behind the others
      obtain ⟨l, hl, -⟩ := Option.map_eq_some_iff.1 hhandle
      obtain ⟨hbound, rfl⟩ := List.getElem?_eq_some_iff.1 hl
      simp only [List.length_singleton] at hbound
      have hother : other = system.loops.length := by omega
      subst hother
      refine ⟨register_registered _ _, hregister.2.2.2.2.trans hclosed, fun hended => ?_⟩
      simp [loopPhase?, hcount, hstarting] at hended

end Changes

/-! ## Moves -/

section Moves

variable {setup : Setup} {system after : System} {facts : List Happening}

theorem LoginEnds.turnsHandles {result : Except Failure TokenResponse} {ends : TaskResult}
    (h : LoginEnds system result facts after ends) : system.TurnsHandles after := by
  cases h <;> exact .of_same rfl rfl rfl

theorem RefreshEnds.turnsHandles {renewal : Renewal} {result : Except Failure TokenResponse}
    {renewed : Renewed} (h : RefreshEnds system renewal result facts after renewed) :
    system.TurnsHandles after := by
  cases h <;> exact .of_same rfl rfl rfl

theorem AsksRefresh.turnsHandles {renewal : Renewal} {renewed : Option Renewed}
    (h : AsksRefresh setup system renewal facts after renewed) : system.TurnsHandles after := by
  cases h with
  | pending => exact .refl system
  | settled hsettled hends => exact hends.turnsHandles

theorem EndsSession.turnsHandles {reason : EndReason} {expected : Option Nat}
    {farewell : Farewell} (h : EndsSession setup system reason expected facts after farewell) :
    system.TurnsHandles after := by
  have hempty : system.TurnsHandles { system with session := none } := .of_same rfl rfl rfl
  have hout : system.TurnsHandles system.withoutSession :=
    hempty.trans (register_none_turnsHandles _)
  cases h with
  | stale => exact .refl system
  | idle => exact system.register_none_turnsHandles
  | asked => exact hout
  | settled => exact hout.trans (.of_same rfl rfl rfl)

theorem setTask_turnsHandles (system : System) (task : Nat) (phase : TaskPhase) :
    system.TurnsHandles (system.setTask task phase) :=
  .of_same rfl rfl rfl

theorem EntersGate.turnsHandles {task : Nat} {credentials : Credentials}
    (h : EntersGate setup system task credentials facts after) : system.TurnsHandles after := by
  cases h with
  | already => exact system.openGate_turnsHandles.trans (setTask_turnsHandles _ _ _)
  | asked => exact setTask_turnsHandles _ _ _
  | settled hvalid hsettled hends =>
      exact hends.turnsHandles.trans
        ((openGate_turnsHandles _).trans (setTask_turnsHandles _ _ _))

theorem Starts.turnsHandles {task : Nat} {job : Job}
    (h : Starts setup system task job facts after) : system.TurnsHandles after := by
  cases h with
  | alreadyIn | queues | unrefreshed | uncalled | answered | calling =>
      exact .of_same rfl rfl rfl
  | enters hvalid hfree henters =>
      have hgate : system.TurnsHandles
          { system with gate := ⟨some task, system.gate.waiting⟩ } := .of_same rfl rfl rfl
      exact hgate.trans henters.turnsHandles
  | refreshing hcandidate hasks | refreshed hcandidate hasks =>
      exact hasks.turnsHandles.trans (setTask_turnsHandles _ _ _)
  | logout hends => exact hends.turnsHandles.trans (setTask_turnsHandles _ _ _)

theorem Settles.turnsHandles {task : Nat} {reply : Reply} {phase : TaskPhase}
    (h : Settles setup system task reply phase facts after) : system.TurnsHandles after := by
  cases h with
  | login hends =>
      exact hends.turnsHandles.trans
        ((openGate_turnsHandles _).trans (setTask_turnsHandles _ _ _))
  | refresh hends => exact hends.turnsHandles.trans (setTask_turnsHandles _ _ _)
  | logout | call => exact .of_same rfl rfl rfl

theorem afterFarewell_turnsHandles (system : System) (loop : Nat) (farewell : Farewell) :
    system.TurnsHandles (system.afterFarewell loop farewell) := by
  cases farewell with
  | pending => exact system.setLoop_turnsHandles loop nofun
  | kept | settled => exact system.stopLoop_turnsHandles loop

/-- A refresh with lifetimes within reach of the clock does not break the loop. -/
theorem RefreshEnds.unbroken {renewal : Renewal} {result : Except Failure TokenResponse}
    {renewed : Renewed} (h : RefreshEnds system renewal result facts after renewed)
    (hfits : ∀ response, result = .ok response → response.FitsClock system.now)
    (fault : ClockFault) :
    renewed ≠ .broken fault := by
  rintro rfl
  cases h with
  | broken hresult hold hgeneration hnew =>
      exact Session.refreshed_ne_error (hfits _ hresult) _ _ hnew

theorem GoesOn.turnsHandles {loop due : Nat} {renewal : Renewal} {renewed : Renewed}
    (h : GoesOn setup system loop due renewal renewed facts after)
    (hunbroken : ∀ fault, renewed ≠ .broken fault) : system.TurnsHandles after := by
  cases h with
  | stored | discarded => exact system.setLoop_turnsHandles loop nofun
  | failed hends => exact hends.turnsHandles.trans (afterFarewell_turnsHandles _ _ _)
  | broken => exact absurd rfl (hunbroken _)

theorem Ticks.turnsHandles {loop next interval minValidity due : Nat} {cancelled : Bool}
    (h : Ticks setup system loop next minValidity facts after)
    (hloop : system.loops[loop]? = some ⟨interval, minValidity, cancelled, .waiting due⟩)
    (hfits : RefreshesFit setup system (.tick loop)) : system.TurnsHandles after := by
  cases h with
  | closed | noSession => exact system.stopLoop_turnsHandles loop
  | fresh => exact system.setLoop_turnsHandles loop nofun
  | unusable hcandidate hends =>
      exact hends.turnsHandles.trans (afterFarewell_turnsHandles _ _ _)
  | refreshing hcandidate hasks =>
      exact hasks.turnsHandles.trans (setLoop_turnsHandles _ _ nofun)
  | refreshed hcandidate hasks hgoes =>
      cases hasks with
      | settled hsettled hends =>
          have hunbroken := hends.unbroken (hfits.fits (.tick hloop hcandidate hsettled))
          exact hends.turnsHandles.trans (hgoes.turnsHandles hunbroken)

theorem LoopSettles.turnsHandles {loop : Nat} {reply : Reply} {phase : LoopPhase}
    (h : LoopSettles setup system loop reply phase facts after)
    (hphase : system.loopPhase? loop = some phase)
    (hfits : RefreshesFit setup system (.settleLoop loop reply)) :
    system.TurnsHandles after := by
  cases h with
  | refresh hends hgoes =>
      have hunbroken := hends.unbroken (hfits.fits (.settleLoop hphase))
      exact hends.turnsHandles.trans (hgoes.turnsHandles hunbroken)
  | @logout ending =>
      have htold : system.TurnsHandles (system.tell (.loggedOut ending.reason)) :=
        .of_same rfl rfl rfl
      exact htold.trans (stopLoop_turnsHandles _ _)

/-- No move within reach of the clock makes a handle lie. -/
theorem Does.turnsHandles {move : Move} (h : Does setup system move facts after)
    (hopen : system.Open) (hfits : KeepsClock setup system move) :
    system.TurnsHandles after := by
  cases h with
  | spawn | release | advance => exact .of_same rfl rfl rfl
  | start hphase hstarts => exact hstarts.turnsHandles
  | passGate hphase hadmitted henters => exact henters.turnsHandles
  | settle hphase hsettles => exact hsettles.turnsHandles
  | schedule hheld => exact schedule_turnsHandles (hopen hheld) _ rfl
  | startLoop hloop =>
      rw [Loop.firstPhase_of_lt (hfits.start _ _ rfl hloop)]
      exact system.setLoop_turnsHandles _ nofun
  | tick hloop hdue hticks => exact hticks.turnsHandles hloop hfits.refreshes
  | stopLoop => exact system.stopLoop_turnsHandles _
  | settleLoop hphase hsettles => exact hsettles.turnsHandles hphase hfits.refreshes
  | cancel => exact system.markCancelled_turnsHandles _

end Moves

/-! ## Runs -/

variable {setup : Setup}

theorem initial_trueHandles : initial.TrueHandles :=
  nofun

theorem step?_turnsHandles {system : System} {move : Move} {last : Turn}
    (hstep : system.step? setup move = some last) (hopen : system.Open)
    (hfits : KeepsClock setup system move) : system.TurnsHandles last.system := by
  obtain ⟨after, hdoes, hclosed⟩ := step?_does hstep
  rw [hclosed]
  exact (hdoes.turnsHandles hopen hfits).trans after.closeUnused_turnsHandles

theorem run?_turnsHandles {system : System} {moves : List Move} {turn : Turn}
    (hrun : system.run? setup moves = some turn) (hopen : system.Open)
    (hfits : Along setup system moves (KeepsClock setup)) :
    system.TurnsHandles turn.system := by
  refine run?_induction (motive := fun moves after =>
    Along setup system moves (KeepsClock setup) → system.TurnsHandles after) ?_ ?_ hrun hfits
  · intro _
    exact .refl system
  · intro moves middle move last hbefore ih hstep hfits
    exact (ih hfits.init).trans
      (step?_turnsHandles hstep (run?_open hbefore hopen) (hfits.last hbefore))

/-- Loops whose first ticks would be due within reach of the clock at the end of a run have begun
within its reach along the run. -/
theorem run?_startFits {system : System} {moves : List Move} {turn : Turn}
    (hrun : system.run? setup moves = some turn)
    (hearly : ∀ l ∈ turn.system.loops, turn.system.now + l.interval < clockEnd) :
    Along setup system moves StartFits := by
  rintro before move after middle rfl hbefore loop l - hloop
  obtain ⟨later, hlater, rfl⟩ := run?_rest hrun hbefore
  obtain ⟨now, hnow, hterms⟩ := run?_keepsTerms hlater loop l hloop
  have hreach := hearly now (List.mem_of_getElem? hnow)
  have hle := run?_now_le hrun hbefore
  rw [hterms.interval] at hreach
  omega

/-- A provider that is still there is in use. -/
theorem run?_inUse {moves : List Move} {turn : Turn}
    (hrun : initial.run? setup moves = some turn) (halive : turn.system.closed = false) :
    turn.system.isInUse = true := by
  refine run?_induction (motive := fun _ system => system.closed = false → system.isInUse = true)
    (fun _ => rfl) ?_ hrun halive
  intro _ middle move last _ _ hstep halive
  obtain ⟨after, -, hclosed⟩ := step?_does hstep
  rw [hclosed] at halive ⊢
  unfold closeUnused at halive ⊢
  split at halive
  · next hleft =>
      rw [if_pos hleft]
      simpa [halive] using hleft
  · cases halive

/-- After every run that stays within reach of the clock, a handle that is not cancelled belongs to
the registered loop, which has not ended, and the provider is there and in use; at most one handle
is not cancelled.  A cancelled handle is cancelled in every state that follows, whatever happens to
the clock. -/
theorem run?_handles_tell_truth {moves : List Move} {turn : Turn}
    (hrun : initial.run? setup moves = some turn)
    (hfits : Along setup initial moves (KeepsClock setup)) :
    (∀ loop, turn.system.cancelled? loop = some false →
      turn.system.registered = some loop ∧
        (∃ phase, turn.system.loopPhase? loop = some phase ∧ phase ≠ .ended) ∧
        turn.system.closed = false ∧ turn.system.isInUse = true) ∧
    (∀ loop other, turn.system.cancelled? loop = some false →
      turn.system.cancelled? other = some false → loop = other) ∧
    (∀ loop more later, turn.system.cancelled? loop = some true →
      turn.system.run? setup more = some later →
      later.system.cancelled? loop = some true) := by
  have hopen : initial.Open := fun _ => rfl
  have htrue : turn.system.TrueHandles := run?_turnsHandles hrun hopen hfits initial_trueHandles
  refine ⟨fun loop hhandle => ?_, fun loop other hloop hother => ?_,
    fun loop more later hcancelled hmore => (run?_keepsTerms hmore).cancelled? hcancelled⟩
  · obtain ⟨hregistered, halive, hrunning⟩ := htrue loop hhandle
    obtain ⟨l, hl, -⟩ := Option.map_eq_some_iff.1 hhandle
    have hphase := loopPhase?_of_loop hl
    exact ⟨hregistered, ⟨l.phase, hphase, fun hended => hrunning (hended ▸ hphase)⟩, halive,
      run?_inUse hrun halive⟩
  · have hboth := (htrue loop hloop).1.symm.trans (htrue other hother).1
    exact Option.some.inj hboth

/-- Another loop is scheduled while the refresh of a tick is in flight. -/
def scheduledDuringTick : List Move :=
  tickDue ++ [.tick 0, .schedule 5 60001]

/-- Only the handle of the new loop is not cancelled then, and whatever follows, the one of the
loop before stays cancelled, also when its refresh is answered. -/
theorem scheduledDuringTick_handles :
    ∃ turn, initial.run? (.standard .rotating "http://admin") scheduledDuringTick = some turn ∧
      turn.system.cancelled? 1 = some false ∧ turn.system.registered = some 1 ∧
      turn.system.loopPhase? 0 = some (.refreshing 10 ⟨0, "refresh-0"⟩) ∧
      turn.system.cancelled? 0 ≠ some false ∧
      ∀ more later,
        turn.system.run? (.standard .rotating "http://admin") more = some later →
        later.system.cancelled? 0 = some true := by
  obtain ⟨turn, hrun, hnew, hold, hphase, hnow, hloops⟩ : ∃ turn,
      initial.run? (.standard .rotating "http://admin") scheduledDuringTick = some turn ∧
      turn.system.cancelled? 1 = some false ∧ turn.system.cancelled? 0 = some true ∧
      turn.system.loopPhase? 0 = some (.refreshing 10 ⟨0, "refresh-0"⟩) ∧
      turn.system.now = 5 ∧ turn.system.loops.map (·.interval) = [5, 5] :=
    ⟨_, rfl, rfl, rfl, rfl, rfl, rfl⟩
  have hfits := run?_rotating_fits hrun (by rw [hnow]; decide)
  have hstarts := run?_startFits hrun fun l hmem => by
    have hinterval : l.interval ∈ [5, 5] := hloops ▸ List.mem_map_of_mem hmem
    rw [hnow, List.mem_pair.1 hinterval |>.elim id id]
    decide
  obtain ⟨htrue, hsingle, hfinal⟩ := run?_handles_tell_truth hrun
    fun before move after middle hmoves hmiddle =>
      ⟨hfits before move after middle hmoves hmiddle,
        hstarts before move after middle hmoves hmiddle⟩
  refine ⟨turn, hrun, hnew, (htrue 1 hnew).1, hphase,
    fun hboth => absurd (hsingle 0 1 hboth hnew) (by decide), fun more later => ?_⟩
  exact hfinal 0 more later hold

end System

end AdminAccess
