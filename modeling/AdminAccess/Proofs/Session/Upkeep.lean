import AdminAccess.Proofs.Session.Lifetimes
import AdminAccess.Proofs.Session.Logins

/-! # A loop that keeps its session valid

While refreshes succeed in time, the session lasts longer than the loop needs until its next
refresh is stored: `Session.Covers` says how much longer, phase by phase.  Every move but a
logout, and every span of time that the loop allows, keeps this.
-/

namespace AdminAccess

namespace Session

structure Sound (session : Session) : Prop where
  token : session.refreshToken.isSome = true
  lasts : ∀ expiry ∈ session.refreshExpiresAt, session.expiresAt ≤ expiry

/-- A refresh in time leads from a sound session to a sound one that lasts. -/
theorem Sound.refreshed {session : Session} (h : session.Sound) {response : TokenResponse}
    {span now : Nat} (hfits : response.FitsClock now) (houtlasts : response.Outlasts span) :
    ∃ new, session.refreshed response now = .ok new ∧ new.Sound ∧
      new.generation = session.generation ∧ now + span < new.expiresAt := by
  refine ⟨_, refreshed_of_fits hfits session, ⟨?_, ?_⟩, rfl, ?_⟩
  · cases response.refreshToken with
    | none => exact h.token
    | some token => rfl
  · intro expiry hexpiry
    obtain ⟨seconds, hseconds, rfl⟩ := Option.map_eq_some_iff.1 hexpiry
    have hlonger := houtlasts.2 seconds hseconds
    simp only
    omega
  · exact Nat.add_lt_add_left houtlasts.1 now

theorem Sound.canRefresh {session : Session} (h : session.Sound) {now : Nat}
    (hvalid : now < session.expiresAt) : session.canRefresh now = true := by
  rw [Session.canRefresh, h.token, Bool.true_and, Option.all_eq_true_iff_get]
  intro hsome
  have hlasts := h.lasts _ (Option.get_mem hsome)
  exact decide_eq_true (by omega)

/-- A session lasts as long as a loop needs until it has refreshed it; a refresh under way has
begun at a time. -/
def Covers (session : Session) (interval latency began now : Nat) : LoopPhase → Prop
  | .starting => now + interval < clockEnd ∧ now + interval + latency < session.expiresAt
  | .waiting due => due ≤ now + interval ∧ max due now + latency < session.expiresAt
  | .refreshing due renewal => session.generation = renewal.generation ∧ began ≤ now ∧
      now ≤ began + latency ∧ due ≤ began + interval ∧ began + latency < session.expiresAt
  | .leaving _ | .ended => False

section Covers

variable {session : Session} {interval latency began now : Nat} {phase : LoopPhase}

theorem Covers.valid (h : session.Covers interval latency began now phase) :
    now < session.expiresAt := by
  cases phase with
  | starting => have hlasts := h.2; omega
  | waiting due =>
      have hlasts := h.2
      have hle := Nat.le_max_right due now
      omega
  | refreshing due renewal => obtain ⟨-, -, hnow, -, hlasts⟩ := h; omega
  | leaving | ended => exact h.elim

/-- Another session of the same generation that lasts covers what the old one has covered. -/
theorem Covers.renewed {new : Session} (h : session.Covers interval latency began now phase)
    (hgeneration : new.generation = session.generation)
    (hlasts : now + (interval + latency) < new.expiresAt) :
    new.Covers interval latency began now phase := by
  cases phase with
  | starting => exact ⟨h.1, by omega⟩
  | waiting due =>
      refine ⟨h.1, ?_⟩
      have hmax : max due now ≤ now + interval := Nat.max_le.2 ⟨h.1, Nat.le_add_right _ _⟩
      omega
  | refreshing due renewal =>
      obtain ⟨hsame, hbegan, hnow, hdue, -⟩ := h
      exact ⟨hgeneration.trans hsame, hbegan, hnow, hdue, by omega⟩
  | leaving | ended => exact h.elim

end Covers

end Session

theorem Loop.nextDue_le {interval due now : Nat} (h : due ≤ now) :
    nextDue interval due now ≤ now + interval := by
  unfold nextDue
  split <;> omega

namespace System

/-! ## Moves that do not break the clock -/

/-- The refreshes that a move completes bring lifetimes that end within reach of the clock. -/
def RefreshesFit (setup : Setup) (system : System) (move : Move) : Prop :=
  ∀ renewal response, BringsRefresh setup system move renewal (.ok response) →
    response.FitsClock system.now

theorem RefreshesFit.fits {setup : Setup} {system : System} {move : Move} {renewal : Renewal}
    {result : Except Failure TokenResponse} (h : RefreshesFit setup system move)
    (hbrings : BringsRefresh setup system move renewal result) :
    ∀ response, result = .ok response → response.FitsClock system.now := by
  rintro response rfl
  exact h renewal response hbrings

/-- The first tick of a loop that begins in a move is due within reach of the clock. -/
def StartFits (system : System) (move : Move) : Prop :=
  ∀ loop l, move = .startLoop loop → system.loops[loop]? = some l →
    system.now + l.interval < clockEnd

/-- A move asks the clock for nothing out of its reach. -/
structure KeepsClock (setup : Setup) (system : System) (move : Move) : Prop where
  refreshes : RefreshesFit setup system move
  start : StartFits system move

/-! ## The invariant -/

/-- A refresh comes to tokens that outlast a span. -/
def Outlasting (system : System) (span : Nat) (result : Except Failure TokenResponse) : Prop :=
  ∃ response, result = .ok response ∧ response.FitsClock system.now ∧ response.Outlasts span

/-- A loop runs and its session lasts as long as the loop needs. -/
structure Kept (loop interval minValidity latency began : Nat) (system : System) : Prop where
  held : system.held = true
  unclosed : system.closed = false
  noLogin : system.NoLogin
  watched : ∃ session phase, system.session = some session ∧ session.Sound ∧
    system.loops[loop]? = some ⟨interval, minValidity, false, phase⟩ ∧
    session.Covers interval latency began system.now phase

section Kept

variable {setup : Setup} {system after : System} {facts : List Happening}
  {loop interval minValidity latency began : Nat}

theorem Kept.authenticated (h : Kept loop interval minValidity latency began system) :
    system.isAuthenticated = true := by
  obtain ⟨session, phase, hsession, -, -, hcovers⟩ := h.watched
  have hvalid := hcovers.valid
  exact authenticated_of_session hsession (decide_eq_false (by omega))

theorem Kept.candidate_ne (h : Kept loop interval minValidity latency began system)
    (threshold : Nat) :
    system.candidate threshold ≠ .noSession ∧
      ∀ generation, system.candidate threshold ≠ .unusable generation := by
  obtain ⟨session, phase, hsession, hsound, -, hcovers⟩ := h.watched
  obtain ⟨token, htoken⟩ := Option.isSome_iff_exists.1 hsound.token
  have hcan := hsound.canRefresh hcovers.valid
  simp only [candidate, hsession, htoken, hcan, if_true]
  split <;> exact ⟨nofun, fun _ => nofun⟩

/-- The same session, the same time and the loop as it is. -/
structure Undisturbed (loop : Nat) (system after : System) : Prop where
  now : after.now = system.now
  session : after.session = system.session
  watched : after.loops[loop]? = system.loops[loop]?
  held : after.held = system.held
  closed : after.closed = system.closed

theorem Kept.undisturbed (h : Kept loop interval minValidity latency began system)
    (hsame : Undisturbed loop system after) (hnone : after.NoLogin) :
    Kept loop interval minValidity latency began after := by
  obtain ⟨session, phase, hsession, hsound, hloop, hcovers⟩ := h.watched
  refine ⟨hsame.held.trans h.held, hsame.closed.trans h.unclosed, hnone, session, phase,
    hsame.session.trans hsession, hsound, hsame.watched.trans hloop, ?_⟩
  rw [hsame.now]
  exact hcovers

theorem NoLogin.setTask (h : system.NoLogin) (task : Nat) {phase : TaskPhase}
    (hphase : ∀ credentials, phase ≠ .loggingIn credentials) :
    (system.setTask task phase).NoLogin := by
  intro other credentials hlogging
  obtain hnew | hbefore := setTask_taskPhase? hlogging
  · exact hphase credentials hnew.symm
  · exact h other credentials hbefore

theorem SameDesk.noLogin (hdesk : system.SameDesk after) (h : system.NoLogin) :
    after.NoLogin := by
  intro other credentials hlogging
  exact h other credentials ((hdesk.taskPhase? other).symm.trans hlogging)

theorem updateLoop_other {other : Nat} (hother : other ≠ loop) (change : Loop → Loop) :
    (system.updateLoop other change).loops[loop]? = system.loops[loop]? := by
  simp [updateLoop, hother]

theorem Kept.setTask (h : Kept loop interval minValidity latency began system) (task : Nat)
    {phase : TaskPhase} (hphase : ∀ credentials, phase ≠ .loggingIn credentials) :
    Kept loop interval minValidity latency began (system.setTask task phase) :=
  h.undisturbed ⟨rfl, rfl, rfl, rfl, rfl⟩ (h.noLogin.setTask task hphase)

theorem Kept.updateLoop (h : Kept loop interval minValidity latency began system) {other : Nat}
    (hother : other ≠ loop) (change : Loop → Loop) :
    Kept loop interval minValidity latency began (system.updateLoop other change) :=
  h.undisturbed ⟨rfl, rfl, updateLoop_other hother change, rfl, rfl⟩ h.noLogin

theorem Kept.stopLoop (h : Kept loop interval minValidity latency began system) {other : Nat}
    (hother : other ≠ loop) :
    Kept loop interval minValidity latency began (system.stopLoop other) :=
  (h.updateLoop hother _).updateLoop hother _

theorem Kept.tell (h : Kept loop interval minValidity latency began system)
    (event : SessionEvent) :
    Kept loop interval minValidity latency began (system.tell event) :=
  h.undisturbed ⟨rfl, rfl, rfl, rfl, rfl⟩ h.noLogin

theorem Kept.openGate (h : Kept loop interval minValidity latency began system) :
    Kept loop interval minValidity latency began system.openGate := by
  obtain ⟨hledger, htasks, hloops, hheld, hclosed⟩ := system.openGate_keeps
  refine h.undisturbed ⟨congrArg Ledger.now hledger, openGate_session system, ?_, hheld,
    hclosed⟩ fun other credentials => ?_
  · rw [hloops]
  · rw [openGate_taskPhase?]
    exact h.noLogin other credentials

/-! ## Refreshes -/

/-- A refresh that outlasts the needs of the loop keeps the session, or brings one that lasts. -/
theorem RefreshEnds.kept {renewal : Renewal} {result : Except Failure TokenResponse}
    {renewed : Renewed} (hends : RefreshEnds system renewal result facts after renewed)
    (h : Kept loop interval minValidity latency began system)
    (hgood : system.Outlasting (interval + latency) result) :
    Kept loop interval minValidity latency began after ∧ after.now = system.now ∧
      (renewed = .stored ∧ (∀ new, after.session = some new →
          system.now + (interval + latency) < new.expiresAt) ∨
        renewed = .discarded ∧ ¬ system.ledger.Holds renewal.generation) := by
  obtain ⟨response, hresult, hfits, houtlasts⟩ := hgood
  obtain ⟨session, phase, hsession, hsound, hloop, hcovers⟩ := h.watched
  cases hends with
  | failed hfailed => rw [hresult] at hfailed; cases hfailed
  | discarded hfound hout => exact ⟨h, rfl, .inr ⟨rfl, hout⟩⟩
  | @stored found old new hfound hold hgeneration hnew =>
      rw [hresult] at hfound
      cases hfound
      rw [hsession] at hold
      cases hold
      obtain ⟨lasting, hlasting, hsoundNew, hsame, hlasts⟩ :=
        hsound.refreshed hfits houtlasts
      rw [hnew] at hlasting
      cases hlasting
      refine ⟨⟨h.held, h.unclosed, h.noLogin, new, phase, rfl, hsoundNew, hloop,
        hcovers.renewed hsame hlasts⟩, rfl, .inl ⟨rfl, fun other hother => ?_⟩⟩
      cases hother
      exact hlasts
  | broken hfound hold hgeneration hnew =>
      rw [hresult] at hfound
      cases hfound
      rw [hsession] at hold
      cases hold
      obtain ⟨lasting, hlasting, -⟩ := hsound.refreshed hfits houtlasts
      rw [hnew] at hlasting
      cases hlasting

theorem AsksRefresh.asked_kept {renewal : Renewal}
    (hasks : AsksRefresh setup system renewal facts after none) : after = system := by
  cases hasks
  rfl

/-! ## Moves -/

/-- What may happen to a loop that is to go on: everything but a logout, its cancellation,
another schedule and the end of the provider. -/
def Spares (loop : Nat) (system : System) : Move → Prop
  | .start task => system.taskPhase? task ≠ some (.ready .logout)
  | .cancel other => other ≠ loop
  | .schedule _ _ | .release => False
  | _ => True

/-- The time up to which a loop lets time pass: it begins at once, makes its tick when it is due,
and its refresh, begun at a time, is answered within the latency. -/
def MayPass (loop latency began : Nat) (system : System) (moment : Nat) : Prop :=
  match system.loopPhase? loop with
  | some .starting => moment ≤ system.now
  | some (.waiting due) => moment ≤ max due system.now
  | some (.refreshing _ _) => moment ≤ began + latency
  | _ => True

theorem EntersGate.kept {task : Nat} {credentials : Credentials}
    (henters : EntersGate setup system task credentials facts after)
    (h : Kept loop interval minValidity latency began system) :
    Kept loop interval minValidity latency began after := by
  have hvalid := h.authenticated
  cases henters with
  | already => exact h.openGate.setTask task fun _ => nofun
  | asked hother => rw [hvalid] at hother; cases hother
  | settled hother => rw [hvalid] at hother; cases hother

theorem Starts.kept {task : Nat} {job : Job} (hstarts : Starts setup system task job facts after)
    (hphase : system.taskPhase? task = some (.ready job)) (hjob : job ≠ .logout)
    (h : Kept loop interval minValidity latency began system)
    (hgood : ∀ renewal result, BringsRefresh setup system (.start task) renewal result →
      system.Outlasting (interval + latency) result) :
    Kept loop interval minValidity latency began after := by
  have hvalid := h.authenticated
  cases hstarts with
  | alreadyIn | unrefreshed | uncalled | answered | calling =>
      exact h.setTask task fun _ => nofun
  | queues hother => rw [hvalid] at hother; cases hother
  | enters hother => rw [hvalid] at hother; cases hother
  | refreshing hcandidate hasks =>
      cases hasks.asked_kept
      exact h.setTask task fun _ => nofun
  | refreshed hcandidate hasks =>
      cases hasks with
      | settled hsettled hends =>
          have hbrings := hgood _ _ (.start hphase hcandidate hsettled)
          exact (hends.kept h hbrings).1.setTask task fun _ => nofun
  | logout => exact absurd rfl hjob

theorem Settles.kept {task : Nat} {reply : Reply} {phase : TaskPhase}
    (hsettles : Settles setup system task reply phase facts after)
    (hphase : system.taskPhase? task = some phase)
    (h : Kept loop interval minValidity latency began system)
    (hgood : ∀ renewal result, BringsRefresh setup system (.settle task reply) renewal result →
      system.Outlasting (interval + latency) result) :
    Kept loop interval minValidity latency began after := by
  cases hsettles with
  | login => exact absurd hphase (h.noLogin task _)
  | refresh hends =>
      exact (hends.kept h (hgood _ _ (.settle hphase))).1.setTask task fun _ => nofun
  | logout => exact (h.tell _).setTask task fun _ => nofun
  | call => exact h.setTask task fun _ => nofun

/-- The loop itself is in a new phase that its session covers. -/
theorem Kept.setLoop (h : Kept loop interval minValidity latency began system) {later : Nat}
    {phase : LoopPhase} (hcovers : ∀ session, system.session = some session → session.Sound →
      session.Covers interval latency later system.now phase) :
    Kept loop interval minValidity latency later (system.setLoop loop phase) := by
  obtain ⟨session, old, hsession, hsound, hloop, -⟩ := h.watched
  refine ⟨h.held, h.unclosed, h.noLogin, session, phase, hsession, hsound, ?_,
    hcovers session hsession hsound⟩
  simp [System.setLoop, System.updateLoop, hloop]

/-- The refresh of the loop itself is stored, and the loop waits for its next tick. -/
theorem RefreshEnds.kept_on {middle : System} {more : List Happening} {due later : Nat}
    {renewal : Renewal} {result : Except Failure TokenResponse} {renewed : Renewed}
    (hends : RefreshEnds system renewal result facts middle renewed)
    (hgoes : GoesOn setup middle loop due renewal renewed more after)
    (h : Kept loop interval minValidity latency began system)
    (hgood : system.Outlasting (interval + latency) result)
    (hholds : system.ledger.Holds renewal.generation) (hdue : due ≤ system.now + interval) :
    Kept loop interval minValidity latency later after := by
  obtain ⟨hkept, hnow, ⟨rfl, hlasts⟩ | ⟨-, hout⟩⟩ := hends.kept h hgood
  · cases hgoes
    refine hkept.setLoop fun new hnew _ => ?_
    have hmax : max due system.now ≤ system.now + interval :=
      Nat.max_le.2 ⟨hdue, Nat.le_add_right _ _⟩
    have hlong := hlasts new hnew
    rw [hnow]
    exact ⟨hdue, by omega⟩
  · exact absurd hholds hout

/-- The refresh of another loop is stored or discarded. -/
theorem RefreshEnds.kept_beside {middle : System} {more : List Happening} {other due : Nat}
    {renewal : Renewal} {result : Except Failure TokenResponse} {renewed : Renewed}
    (hends : RefreshEnds system renewal result facts middle renewed)
    (hgoes : GoesOn setup middle other due renewal renewed more after) (hother : other ≠ loop)
    (h : Kept loop interval minValidity latency began system)
    (hgood : system.Outlasting (interval + latency) result) :
    Kept loop interval minValidity latency began after := by
  obtain ⟨hkept, -, ⟨rfl, -⟩ | ⟨rfl, -⟩⟩ := hends.kept h hgood
  · cases hgoes
    exact hkept.updateLoop hother _
  · cases hgoes
    exact hkept.updateLoop hother _

theorem Ticks.kept_beside {other next threshold due period : Nat} {cancelled : Bool}
    (hticks : Ticks setup system other next threshold facts after) (hother : other ≠ loop)
    (hloop : system.loops[other]? = some ⟨period, threshold, cancelled, .waiting due⟩)
    (h : Kept loop interval minValidity latency began system)
    (hgood : ∀ renewal result, BringsRefresh setup system (.tick other) renewal result →
      system.Outlasting (interval + latency) result) :
    Kept loop interval minValidity latency began after := by
  obtain ⟨hsession, husable⟩ := h.candidate_ne threshold
  cases hticks with
  | closed hclosed => rw [h.unclosed] at hclosed; cases hclosed
  | noSession hcandidate => exact absurd hcandidate hsession
  | unusable hcandidate => exact absurd hcandidate (husable _)
  | fresh => exact h.updateLoop hother _
  | refreshing hcandidate hasks =>
      cases hasks.asked_kept
      exact h.updateLoop hother _
  | refreshed hcandidate hasks hgoes =>
      cases hasks with
      | settled hsettled hends =>
          have hbrings := hgood _ _ (.tick hloop hcandidate hsettled)
          exact hends.kept_beside hgoes hother h hbrings

theorem candidate_fresh {session : Session} (hsession : system.session = some session)
    (hfresh : system.candidate minValidity = .fresh) :
    minValidity ≤ session.remaining system.now := by
  simp only [candidate, hsession] at hfresh
  split at hfresh
  · assumption
  · split at hfresh
    · split at hfresh <;> cases hfresh
    · cases hfresh

/-- The tick of the loop itself, at which a refresh may begin. -/
theorem Ticks.kept {due next : Nat}
    (hticks : Ticks setup system loop next minValidity facts after)
    (hloop : system.loops[loop]? = some ⟨interval, minValidity, false, .waiting due⟩)
    (hnext : next ≤ system.now + interval) (hlong : interval + latency < minValidity)
    (h : Kept loop interval minValidity latency began system)
    (hgood : ∀ renewal result, BringsRefresh setup system (.tick loop) renewal result →
      system.Outlasting (interval + latency) result) :
    Kept loop interval minValidity latency system.now after := by
  obtain ⟨hsome, husable⟩ := h.candidate_ne minValidity
  have hlasts : ∀ session, system.session = some session →
      system.now + latency < session.expiresAt := by
    obtain ⟨session, phase, hsession, -, hwatched, hcovers⟩ := h.watched
    rw [hloop] at hwatched
    cases hwatched
    intro other hother
    rw [hsession] at hother
    cases hother
    have hcovered := hcovers.2
    have hmax := Nat.le_max_right due system.now
    omega
  cases hticks with
  | closed hclosed => rw [h.unclosed] at hclosed; cases hclosed
  | noSession hcandidate => exact absurd hcandidate hsome
  | unusable hcandidate => exact absurd hcandidate (husable _)
  | fresh hcandidate =>
      refine h.setLoop fun session hsession _ => ⟨hnext, ?_⟩
      have hfresh := candidate_fresh hsession hcandidate
      have hmax : max next system.now ≤ system.now + interval :=
        Nat.max_le.2 ⟨hnext, Nat.le_add_right _ _⟩
      rw [Session.remaining] at hfresh
      omega
  | refreshing hcandidate hasks =>
      cases hasks.asked_kept
      refine h.setLoop fun session hsession _ => ?_
      obtain ⟨found, hfound, hgeneration, -⟩ := reads_of_candidate hcandidate
      rw [show system.session = some found from hfound] at hsession
      cases hsession
      exact ⟨hgeneration, Nat.le_refl _, Nat.le_add_right _ _, hnext, hlasts _ hfound⟩
  | refreshed hcandidate hasks hgoes =>
      cases hasks with
      | settled hsettled hends =>
          exact hends.kept_on hgoes h (hgood _ _ (.tick hloop hcandidate hsettled))
            (reads_of_candidate hcandidate).holds hnext

theorem LoopSettles.kept_beside {other : Nat} {reply : Reply} {phase : LoopPhase}
    (hsettles : LoopSettles setup system other reply phase facts after) (hother : other ≠ loop)
    (hphase : system.loopPhase? other = some phase)
    (h : Kept loop interval minValidity latency began system)
    (hgood : ∀ renewal result, BringsRefresh setup system (.settleLoop other reply) renewal
      result → system.Outlasting (interval + latency) result) :
    Kept loop interval minValidity latency began after := by
  cases hsettles with
  | refresh hends hgoes =>
      exact hends.kept_beside hgoes hother h (hgood _ _ (.settleLoop hphase))
  | logout => exact (h.tell _).stopLoop hother

theorem LoopSettles.kept {reply : Reply} {phase : LoopPhase}
    (hsettles : LoopSettles setup system loop reply phase facts after)
    (hphase : system.loopPhase? loop = some phase)
    (h : Kept loop interval minValidity latency began system)
    (hgood : ∀ renewal result, BringsRefresh setup system (.settleLoop loop reply) renewal
      result → system.Outlasting (interval + latency) result) :
    Kept loop interval minValidity latency began after := by
  obtain ⟨session, old, hsession, -, hwatched, hcovers⟩ := h.watched
  rw [loopPhase?_of_loop hwatched] at hphase
  cases hphase
  cases hsettles with
  | refresh hends hgoes =>
      obtain ⟨hsame, hbegan, -, hdue, -⟩ := hcovers
      exact hends.kept_on hgoes h (hgood _ _ (.settleLoop (loopPhase?_of_loop hwatched)))
        ⟨session, hsession, hsame⟩ (by omega)
  | logout => exact hcovers.elim

/-- When the refresh under way in a loop has begun, after a move. -/
def beganAfter (loop began : Nat) (system : System) : Move → Nat
  | .tick other => if other = loop then system.now else began
  | _ => began

theorem Kept.advance (h : Kept loop interval minValidity latency began system) {span : Nat}
    (hpass : MayPass loop latency began system (system.now + span)) :
    Kept loop interval minValidity latency began { system with now := system.now + span } := by
  obtain ⟨session, phase, hsession, hsound, hloop, hcovers⟩ := h.watched
  refine ⟨h.held, h.unclosed, h.noLogin, session, phase, hsession, hsound, hloop, ?_⟩
  rw [MayPass, loopPhase?_of_loop hloop] at hpass
  cases phase with
  | starting =>
      obtain ⟨hreach, hlasts⟩ := hcovers
      simp only at hpass
      exact ⟨by simp only; omega, by simp only; omega⟩
  | waiting due =>
      obtain ⟨hdue, hlasts⟩ := hcovers
      simp only at hpass
      have hmax : max due (system.now + span) ≤ max due system.now :=
        Nat.max_le.2 ⟨Nat.le_max_left _ _, hpass⟩
      exact ⟨by simp only; omega, by simp only; omega⟩
  | refreshing due renewal =>
      obtain ⟨hsame, hbegan, hnow, hdue, hlasts⟩ := hcovers
      exact ⟨hsame, Nat.le_add_right_of_le hbegan, hpass, hdue, hlasts⟩
  | leaving | ended => exact hcovers.elim

/-- Every move that spares the loop, and every span of time that it allows, keeps it. -/
theorem Does.kept {move : Move} (hdoes : Does setup system move facts after)
    (h : Kept loop interval minValidity latency began system) (hspares : Spares loop system move)
    (hpass : ∀ span, move = .advance span →
      MayPass loop latency began system (system.now + span))
    (hlong : interval + latency < minValidity)
    (hgood : ∀ renewal result, BringsRefresh setup system move renewal result →
      system.Outlasting (interval + latency) result) :
    Kept loop interval minValidity latency (beganAfter loop began system move) after := by
  obtain ⟨session, old, hsession, -, hwatched, hcovers⟩ := h.watched
  cases hdoes with
  | schedule | release => exact hspares.elim
  | advance => exact h.advance (hpass _ rfl)
  | start hphase hstarts =>
      refine hstarts.kept hphase (fun hjob => hspares ?_) h hgood
      rw [← hjob]
      exact hphase
  | passGate hphase hadmitted henters => exact henters.kept h
  | settle hphase hsettles => exact hsettles.kept hphase h hgood
  | cancel => exact h.updateLoop hspares _
  | spawn =>
      refine h.undisturbed ⟨rfl, rfl, rfl, rfl, rfl⟩ fun other credentials hlogging => ?_
      obtain hready | hbefore := spawn_taskPhase? hlogging
      · cases hready
      · exact h.noLogin other credentials hbefore
  | @startLoop other _ _ _ hloop =>
      by_cases hsame : other = loop
      · subst hsame
        rw [hwatched] at hloop
        cases hloop
        refine h.setLoop fun found hfound _ => ?_
        rw [hsession] at hfound
        cases hfound
        obtain ⟨hreach, hlasts⟩ := hcovers
        rw [Loop.firstPhase_of_lt hreach]
        exact ⟨Nat.le_refl _, by omega⟩
      · exact h.updateLoop hsame _
  | @tick other _ _ _ _ _ _ hloop hdue hticks =>
      by_cases hsame : other = loop
      · subst hsame
        rw [hwatched] at hloop
        cases hloop
        rw [beganAfter, if_pos rfl]
        exact hticks.kept hwatched (Loop.nextDue_le hdue) hlong h hgood
      · rw [beganAfter, if_neg hsame]
        exact hticks.kept_beside hsame hloop h hgood
  | @stopLoop other _ _ _ hloop =>
      by_cases hsame : other = loop
      · subst hsame
        rw [hwatched] at hloop
        cases hloop
      · exact h.stopLoop hsame
  | @settleLoop other _ _ _ _ hphase hsettles =>
      by_cases hsame : other = loop
      · subst hsame
        exact hsettles.kept hphase h hgood
      · exact hsettles.kept_beside hsame hphase h hgood

end Kept

end System

end AdminAccess
