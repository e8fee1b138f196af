import AdminAccess.Proofs.Session.Turn

/-! # What a move can do

`Turn.Leads` relates a move before and after a stretch of it: the ledger has gone through a chain
of acts that accounts for the facts, and no task or loop has come into a phase with data from
nowhere.  Every function of the tasks and loops is such a stretch, hence every move; what holds
of all moves is derived from `System.step?_leads` alone.
-/

namespace AdminAccess

/-- The data of a phase that is new: a refresh is in hand and a call has entered only layers of
the client. -/
def TaskPhase.IsFresh (layers : List (Layer (Option String))) (inHand : Renewal → Prop) :
    TaskPhase → Prop
  | .refreshing renewal => inHand renewal
  | .calling entered _ => ∀ stop ∈ entered, stop.1 ∈ layers
  | _ => True

/-- The data of a phase that is new: a refresh is in hand. -/
def LoopPhase.IsFresh (inHand : Renewal → Prop) : LoopPhase → Prop
  | .refreshing _ renewal => inHand renewal
  | _ => True

theorem Loop.firstPhase_isFresh (inHand : Renewal → Prop) (interval now : Nat) :
    (firstPhase interval now).IsFresh inHand := by
  obtain h | h := firstPhase_cases interval now <;> rw [h] <;> trivial

namespace Turn

structure Leads (layers : List (Layer (Option String))) (guard : Ledger.Guard)
    (before after : Turn) : Prop where
  acts : ∃ facts, after.facts = before.facts ++ facts ∧
    Ledger.Acts guard before.system.ledger facts after.system.ledger
  tasks : ∀ task phase, after.system.taskPhase? task = some phase →
    phase.IsFresh layers guard.inHand ∨ before.system.taskPhase? task = some phase
  loops : ∀ loop phase, after.system.loopPhase? loop = some phase →
    phase.IsFresh guard.inHand ∨ before.system.loopPhase? loop = some phase

variable {layers : List (Layer (Option String))} {guard : Ledger.Guard}
variable {before middle after : Turn}

namespace Leads

theorem of_same (hledger : after.system.ledger = before.system.ledger)
    (hfacts : after.facts = before.facts)
    (htasks : ∀ task phase, after.system.taskPhase? task = some phase →
      phase.IsFresh layers guard.inHand ∨ before.system.taskPhase? task = some phase)
    (hloops : ∀ loop phase, after.system.loopPhase? loop = some phase →
      phase.IsFresh guard.inHand ∨ before.system.loopPhase? loop = some phase) :
    Leads layers guard before after where
  acts := ⟨[], by simp [hfacts], by rw [hledger]; exact .done _⟩
  tasks := htasks
  loops := hloops

theorem of_quiet (hledger : after.system.ledger = before.system.ledger)
    (hfacts : after.facts = before.facts) (htasks : after.system.tasks = before.system.tasks)
    (hloops : ∀ loop, after.system.loopPhase? loop = before.system.loopPhase? loop) :
    Leads layers guard before after :=
  of_same hledger hfacts
    (fun task phase h => .inr (by rwa [System.taskPhase?, htasks] at h))
    (fun loop phase h => .inr (by rwa [hloops] at h))

theorem of_act {facts : List Happening}
    (hact : Ledger.Act guard before.system.ledger facts after.system.ledger)
    (hfacts : after.facts = before.facts ++ facts)
    (htasks : after.system.tasks = before.system.tasks)
    (hloops : ∀ loop, after.system.loopPhase? loop = before.system.loopPhase? loop) :
    Leads layers guard before after where
  acts := ⟨facts, hfacts, .single hact⟩
  tasks := fun task phase h => .inr (by rwa [System.taskPhase?, htasks] at h)
  loops := fun loop phase h => .inr (by rwa [hloops] at h)

/-- A stretch that hands requests to the transport and changes the phase of one task. -/
theorem of_calls {requests : List Request} {task : Nat} {phase : TaskPhase}
    (hmay : ∀ request ∈ requests, guard.mayCall request)
    (hfacts : after.facts = before.facts ++ requests.map .called)
    (hsystem : after.system = before.system.setTask task phase)
    (hfresh : phase.IsFresh layers guard.inHand) : Leads layers guard before after where
  acts := ⟨_, hfacts, by rw [hsystem]; exact .calls _ hmay⟩
  tasks := fun task phase h => by
    rw [hsystem] at h
    exact (System.setTask_taskPhase? h).imp (fun heq => by rwa [heq]) id
  loops := fun loop phase h => .inr (by rwa [hsystem] at h)

theorem refl (turn : Turn) : Leads layers guard turn turn :=
  of_quiet rfl rfl rfl fun _ => rfl

theorem trans (hfirst : Leads layers guard before middle)
    (hsecond : Leads layers guard middle after) :
    Leads layers guard before after where
  acts := by
    obtain ⟨facts, hfacts, hacts⟩ := hfirst.acts
    obtain ⟨more, hmore, hlater⟩ := hsecond.acts
    exact ⟨facts ++ more, by rw [hmore, hfacts, List.append_assoc], hacts.trans hlater⟩
  tasks := fun task phase h =>
    (hsecond.tasks task phase h).elim .inl (hfirst.tasks task phase)
  loops := fun loop phase h =>
    (hsecond.loops loop phase h).elim .inl (hfirst.loops loop phase)

end Leads

/-! ## Operations on turns -/

theorem log_leads (turn : Turn) (level : LogLevel) (message : String)
    (fields : List (String × String)) :
    Leads layers guard turn (turn.log level message fields) :=
  .of_quiet rfl (by simp) rfl fun _ => rfl

theorem logAll_leads (turn : Turn) (records : List LogRecord) :
    Leads layers guard turn (turn.logAll records) :=
  .of_quiet rfl (by simp) rfl fun _ => rfl

theorem cancel_leads (turn : Turn) (loop : Nat) :
    Leads layers guard turn (turn.cancel loop) :=
  have h := turn.cancel_keeps loop
  .of_quiet h.1 h.2.1 h.2.2.1 h.2.2.2

theorem register_leads (turn : Turn) (loop : Option Nat) :
    Leads layers guard turn (turn.register loop) :=
  have h := turn.register_keeps loop
  .of_quiet h.1 h.2.1 h.2.2.1 h.2.2.2

theorem openGate_leads (turn : Turn) : Leads layers guard turn turn.openGate :=
  have h := turn.openGate_keeps
  .of_quiet h.1 h.2.1 h.2.2.1 fun loop => by rw [System.loopPhase?, h.2.2.2]; rfl

theorem setTask_leads (turn : Turn) (task : Nat) {phase : TaskPhase}
    (hfresh : phase.IsFresh layers guard.inHand) :
    Leads layers guard turn (turn.update (·.setTask task phase)) :=
  .of_same rfl rfl
    (fun _ _ h => (System.setTask_taskPhase? h).imp (fun heq => by rwa [heq]) id)
    (fun _ _ h => .inr h)

theorem setLoop_leads (turn : Turn) (loop : Nat) {phase : LoopPhase}
    (hfresh : phase.IsFresh guard.inHand) :
    Leads layers guard turn (turn.update (·.setLoop loop phase)) :=
  .of_same rfl rfl (fun _ _ h => .inr h)
    (fun _ _ h => (System.setLoop_loopPhase? h).imp (fun heq => by rwa [heq]) id)

/-- Asking the identity provider is an act; what comes back at once has not been taken over
yet. -/
theorem exchange_leads {α : Type} (turn : Turn) {purpose : Purpose} (exchange : Exchange α)
    (hmay : turn.system.ledger.MayAsk purpose) :
    Leads layers guard turn (turn.exchange purpose exchange).1 :=
  .of_act (by rw [exchange_system]; exact .ask _ hmay) (exchange_facts _ _ _)
    (by rw [exchange_system]) (fun _ => by rw [exchange_system])

/-! ## Refreshes -/

theorem storeRefresh_leads (turn : Turn) {renewal : Renewal} (response : TokenResponse)
    (hhand : guard.inHand renewal) :
    Leads layers guard turn (turn.storeRefresh renewal response).1 := by
  by_cases hholds : turn.system.ledger.Holds renewal.generation
  · obtain ⟨session, hsession, hgeneration⟩ := hholds
    cases hnew : session.refreshed response turn.system.now with
    | error fault =>
        rw [storeRefresh_broken hsession hgeneration hnew]
        exact .of_act (.lose _ hhand hsession hgeneration hnew) (by simp) rfl fun _ => rfl
    | ok renewed =>
        rw [storeRefresh_stored hsession hgeneration hnew]
        exact .of_act (.renew _ hhand hsession hgeneration hnew)
          (by simp [Happening.isFact]) rfl fun _ => rfl
  · rw [storeRefresh_discarded response hholds]
    exact log_leads _ _ _ _

theorem concludeRefresh_leads (turn : Turn) {renewal : Renewal}
    (settlement : Settlement TokenResponse) (hhand : guard.inHand renewal) :
    Leads layers guard turn (turn.concludeRefresh renewal settlement).1 := by
  unfold concludeRefresh
  cases settlement.result with
  | error failure => exact logAll_leads _ _
  | ok response => exact (logAll_leads _ _).trans (storeRefresh_leads _ response hhand)

theorem concludeRefresh_failed {turn : Turn} {renewal : Renewal}
    {settlement : Settlement TokenResponse} {failure : Failure}
    (h : (turn.concludeRefresh renewal settlement).2 = .failed failure) :
    settlement.result = .error failure := by
  cases hresult : settlement.result with
  | error other =>
      simp only [concludeRefresh, hresult, Renewed.failed.injEq] at h
      rw [h]
  | ok response =>
      simp only [concludeRefresh, hresult, storeRefresh] at h
      split at h
      · split at h <;> cases h
      · cases h

theorem askRefresh_leads (setup : Setup) (turn : Turn) {renewal : Renewal}
    (hhand : guard.inHand renewal) (hreads : turn.system.ledger.Reads renewal) :
    Leads layers guard turn (turn.askRefresh setup renewal).1 := by
  let logged := turn.log .debug "refreshing session token" [generationField renewal.generation]
  have hlogged : Leads layers guard turn logged := log_leads _ _ _ _
  have hasked : Leads layers guard logged (logged.exchange (.refresh renewal)
      (setup.identity.refresh renewal.refreshToken)).1 := exchange_leads _ _ hreads
  unfold askRefresh
  rcases hexchange : logged.exchange (.refresh renewal)
    (setup.identity.refresh renewal.refreshToken) with ⟨asked, _ | settlement⟩
  all_goals
    rw [hexchange] at hasked
    simp only [logged] at hexchange
    simp only [hexchange]
  · exact hlogged.trans hasked
  · exact hlogged.trans (hasked.trans (concludeRefresh_leads _ settlement hhand))

/-! ## Endings -/

theorem takeSession_leads (turn : Turn) {reason : EndReason} {expected : Option Nat}
    (hmay : ∀ generation, (∀ g ∈ expected, g = generation) → guard.mayTake reason generation) :
    Leads layers guard turn (turn.takeSession reason expected).1 := by
  obtain ⟨hledger, hfacts, htasks, hloops⟩ := turn.withoutSession_keeps
  obtain hkept | ⟨hsession, hkept⟩ | ⟨session, hsession, hexpected, htaken⟩ :=
    takeSession_cases turn reason expected
  · rw [hkept]
    exact .refl turn
  · rw [hkept]
    refine .of_quiet ?_ ((log_facts ..).trans hfacts) htasks hloops
    rw [log_system, hledger]
    simp [System.ledger, hsession]
  · rw [htaken]
    have hact : Ledger.Act guard turn.system.ledger
        [.taken ⟨reason, session.generation, session.refreshToken⟩]
        { turn.system.ledger with session := none } := .take _ hsession (hmay _ hexpected)
    rw [← hledger] at hact
    exact .of_act hact (by simp [hfacts, Happening.isFact]) htasks hloops

theorem takeSession_session {turn : Turn} {reason : EndReason} {expected : Option Nat}
    {ending : Ending} (h : (turn.takeSession reason expected).2 = some ending) :
    (turn.takeSession reason expected).1.system.session = none := by
  have hledger := turn.withoutSession_keeps.1
  obtain hkept | ⟨-, hkept⟩ | ⟨session, -, -, htaken⟩ := takeSession_cases turn reason expected
  · rw [hkept] at h; cases h
  · rw [hkept] at h; cases h
  · rw [htaken]
    exact congrArg Ledger.session hledger

theorem concludeEnding_leads (turn : Turn) (ending : Ending) (settlement : Settlement Unit) :
    Leads layers guard turn (turn.concludeEnding ending settlement).1 := by
  have htold : Leads layers guard turn
      ((turn.logAll settlement.logs).emit (.loggedOut ending.reason)) :=
    .of_act (.leave turn.system.ledger ending.reason) (by simp) rfl fun _ => rfl
  unfold concludeEnding
  cases settlement.result with
  | ok => exact htold
  | error failure => exact htold.trans (log_leads _ _ _ _)

theorem askEnding_leads (setup : Setup) (turn : Turn) (ending : Ending)
    (hsession : turn.system.session = none) :
    Leads layers guard turn (turn.askEnding setup ending).1 := by
  have hasked : Leads layers guard turn
      (turn.exchange (.logout ending) (setup.identity.logout ending.refreshToken)).1 :=
    exchange_leads _ _ hsession
  unfold askEnding
  rcases hexchange : turn.exchange (.logout ending)
    (setup.identity.logout ending.refreshToken) with ⟨asked, _ | settlement⟩
  all_goals rw [hexchange] at hasked
  · exact hasked
  · exact hasked.trans (concludeEnding_leads _ ending settlement)

end Turn

end AdminAccess
