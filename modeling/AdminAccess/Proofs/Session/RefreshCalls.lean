import AdminAccess.Proofs.Session.Books
import AdminAccess.Proofs.Session.Handles
import AdminAccess.Proofs.Session.LoneLogin
import AdminAccess.Proofs.Session.RefreshRate

/-! # Calls that refresh the token if need be

Such a call runs at most two stretches: it looks at the session and may ask for a refresh, and it
takes over what has come.  In between others may change everything.  Either the last of its
stretches stores the new tokens and tells of it, or none changes anything but the phase of the call.
-/

namespace AdminAccess

def Move.task? : Move → Option Nat
  | .start task | .passGate task | .settle task _ => some task
  | _ => none

/-- A stretch that has been run: the state that it has found, the move and the turn that this
takes.  That a provider is closed which nobody uses any more is no part of it. -/
structure Stretch where
  found : System
  move : Move
  turn : Turn

namespace Stretch

/-- Of all that is shared only the phase of a task may be another than before. -/
def LeavesProvider (task : Nat) (stretch : Stretch) : Prop :=
  ∃ phase, stretch.turn.system = stretch.found.setTask task phase

/-- A stretch of a task puts a session in the place of another one of the same generation, with the
tokens that the identity provider has answered to a refresh of that one, tells of this once and
changes nothing else. -/
structure Stores (setup : Setup) (task : Nat) (stretch : Stretch) (response : TokenResponse)
    (old new : Session) : Prop where
  held : stretch.found.session = some old
  answered : ∃ renewal, renewal.generation = old.generation ∧
    System.BringsRefresh setup stretch.found stretch.move renewal (.ok response)
  refreshed : old.refreshed response stretch.found.now = .ok new
  generation : new.generation = old.generation
  accessToken : new.accessToken = response.accessToken
  refreshToken : new.refreshToken = response.refreshToken.or old.refreshToken
  replaces : stretch.turn.system =
    ({ stretch.found with session := some new }.tell .refreshed).setTask task
      (.finished (.done (.refreshed true)))

/-- The identity provider is asked for nothing but a refresh of a session that has less left than a
threshold, with a refresh token that has not passed its recorded expiry. -/
def AsksInNeed (minValidity : Nat) (stretch : Stretch) : Prop :=
  ∀ purpose, .asked purpose ∈ stretch.turn.happened →
    ∃ session token, stretch.found.session = some session ∧
      purpose = .refresh ⟨session.generation, token⟩ ∧
      session.remaining stretch.found.now < minValidity ∧
      session.refreshToken = some token ∧
      ∀ expiry ∈ session.refreshExpiresAt, stretch.found.now < expiry

variable {setup : Setup} {task : Nat} {stretch : Stretch}

theorem Stores.not_leavesProvider {response : TokenResponse} {old new : Session}
    (h : stretch.Stores setup task response old new) : ¬ stretch.LeavesProvider task := by
  rintro ⟨phase, hleaves⟩
  have hevents := congrArg (·.events.length) (h.replaces.symm.trans hleaves)
  simp [System.setTask, System.tell] at hevents

end Stretch

namespace System

/-! ## Moves of others -/

section Others

variable {setup : Setup} {system after : System} {facts : List Happening} {task : Nat}
  {phase : TaskPhase}

theorem MovesTask.taskPhase?_other {mover : Nat} {new : TaskPhase}
    (h : system.MovesTask mover new after) (hother : mover ≠ task) :
    after.taskPhase? task = system.taskPhase? task := by
  rw [taskPhase?, taskPhase?, h.1, List.getElem?_set_ne hother]

theorem Does.taskPhase?_kept {move : Move} (h : Does setup system move facts after)
    (hother : move.task? ≠ some task) (hphase : system.taskPhase? task = some phase) :
    after.taskPhase? task = some phase := by
  have hmover : ∀ {mover : Nat}, some mover ≠ some task → mover ≠ task := fun hne heq =>
    hne (congrArg some heq)
  cases h with
  | spawn => exact spawn_keeps _ hphase
  | start hready hstarts =>
      obtain ⟨new, hmoves, -⟩ := hstarts.books
      exact (hmoves.taskPhase?_other (hmover hother)).trans hphase
  | passGate hwaits hadmitted henters =>
      obtain ⟨new, hmoves, -⟩ := henters.books
      exact (hmoves.taskPhase?_other (hmover hother)).trans hphase
  | settle hwaits hsettles =>
      obtain ⟨new, hmoves, -⟩ := hsettles.books
      exact (hmoves.taskPhase?_other (hmover hother)).trans hphase
  | schedule => exact ((system.register_sameDesk _).taskPhase? task).trans hphase
  | tick hloop hdue hticks => exact (hticks.sameDesk.taskPhase? task).trans hphase
  | settleLoop hwaits hsettles => exact (hsettles.sameDesk.taskPhase? task).trans hphase
  | startLoop | stopLoop | cancel | release | advance => exact hphase

theorem step?_taskPhase?_kept {move : Move} {last : Turn}
    (hstep : system.step? setup move = some last) (hother : move.task? ≠ some task)
    (hphase : system.taskPhase? task = some phase) :
    last.system.taskPhase? task = some phase := by
  obtain ⟨after, hdoes, hclosed⟩ := step?_does hstep
  rw [hclosed, closeUnused_taskPhase?]
  exact hdoes.taskPhase?_kept hother hphase

end Others

/-! ## The stretches of a call -/

/-- The stretch of a task that a move runs. -/
def ownStretch (setup : Setup) (task : Nat) (system : System) (move : Move) (_ : Turn) :
    List Stretch :=
  if move.task? = some task then
    (system.move? setup move).toList.map fun turn => ⟨system, move, turn⟩
  else []

/-- The stretches that a task runs along a run. -/
def stretchesOf (setup : Setup) (task : Nat) : System → List Move → List Stretch :=
  gather setup (ownStretch setup task)

/-- How a refresh that stores nothing may end: the token lives long enough or has come too late,
there is no session or no usable refresh token, or the identity provider has failed. -/
def Declined (setup : Setup) (stretches : List Stretch) (result : TaskResult) : Prop :=
  result = .done (.refreshed false) ∨ result = .failed .unauthenticated ∨
    result = .failed refreshUnavailable ∨
    ∃ stretch ∈ stretches, ∃ renewal failure, result = .failed failure ∧
      BringsRefresh setup stretch.found stretch.move renewal (.error failure)

/-- How far a call has come with its stretches. -/
inductive RefreshProgress (setup : Setup) (task minValidity : Nat) :
    List Stretch → TaskPhase → Prop
  | ready : RefreshProgress setup task minValidity [] (.ready (.refreshIfNeeded minValidity))
  | waits {stretches : List Stretch} {renewal : Renewal}
      (hleaves : ∀ stretch ∈ stretches, stretch.LeavesProvider task) :
      RefreshProgress setup task minValidity stretches (.refreshing renewal)
  | declined {stretches : List Stretch} {result : TaskResult}
      (hleaves : ∀ stretch ∈ stretches, stretch.LeavesProvider task)
      (hresult : Declined setup stretches result) :
      RefreshProgress setup task minValidity stretches (.finished result)
  | stored {stretches : List Stretch} {last : Stretch} {response : TokenResponse}
      {old new : Session} (hleaves : ∀ stretch ∈ stretches, stretch.LeavesProvider task)
      (hstores : last.Stores setup task response old new) :
      RefreshProgress setup task minValidity (stretches ++ [last])
        (.finished (.done (.refreshed true)))

section Calls

variable {setup : Setup} {system : System} {task minValidity : Nat} {move : Move} {turn : Turn}
  {stretches : List Stretch} {renewal : Renewal}

theorem Declined.of_unrefreshed {candidate : Candidate} {result : TaskResult}
    (h : Task.unrefreshed? candidate = some result) : Declined setup stretches result := by
  cases candidate with
  | noSession =>
      cases h
      exact .inr (.inl rfl)
  | fresh =>
      cases h
      exact .inl rfl
  | unusable generation =>
      cases h
      exact .inr (.inr (.inl rfl))
  | renewal renewal => cases h

theorem canRefresh_of_candidate (h : system.candidate minValidity = .renewal renewal) :
    ∃ session, system.session = some session ∧ session.generation = renewal.generation ∧
      session.remaining system.now < minValidity ∧
      session.refreshToken = some renewal.refreshToken ∧
      ∀ expiry ∈ session.refreshExpiresAt, system.now < expiry := by
  obtain ⟨session, hsession, hshort, hgeneration, htoken⟩ := wanting_of_candidate h
  refine ⟨session, hsession, hgeneration, hshort, htoken, ?_⟩
  have hcan : session.canRefresh system.now = true := by
    by_contra hdead
    simp only [candidate, hsession, if_neg (Nat.not_le_of_lt hshort), htoken, if_neg hdead] at h
    cases h
  simpa [Session.canRefresh, htoken, Option.all_eq_true] using hcan

theorem RefreshEnds.progress {ended : List Happening} {middle : System}
    {result : Except Failure TokenResponse} {renewed : Renewed}
    (hends : RefreshEnds system renewal result ended middle renewed)
    (hbrings : BringsRefresh setup system move renewal result)
    (hfits : RefreshesFit setup system move)
    (hleaves : ∀ stretch ∈ stretches, stretch.LeavesProvider task)
    (hturn : turn.system = middle.setTask task (.finished (Task.refreshResult renewed))) :
    RefreshProgress setup task minValidity (stretches ++ [⟨system, move, turn⟩])
      (.finished (Task.refreshResult renewed)) := by
  have hunbroken := hends.unbroken (hfits.fits hbrings)
  have hall : middle = system →
      ∀ stretch ∈ stretches ++ [⟨system, move, turn⟩], stretch.LeavesProvider task := by
    rintro rfl stretch hmem
    obtain hbefore | hlast := List.mem_append.1 hmem
    · exact hleaves stretch hbefore
    · cases List.mem_singleton.1 hlast
      exact ⟨_, hturn⟩
  cases hends with
  | failed hresult =>
      rw [hresult] at hbrings
      exact .declined (hall rfl)
        (.inr (.inr (.inr ⟨_, List.mem_append_right _ List.mem_cons_self, _, _, rfl, hbrings⟩)))
  | discarded => exact .declined (hall rfl) (.inl rfl)
  | @stored response old new hresult hold hgeneration hnew =>
      rw [hresult] at hbrings
      have hmade := hnew.symm.trans
        (Session.refreshed_of_fits (Session.fits_of_refreshed hnew) old)
      cases hmade
      exact .stored hleaves
        ⟨hold, ⟨renewal, hgeneration.symm, hbrings⟩, hnew, rfl, rfl, rfl, hturn⟩
  | broken => exact absurd rfl (hunbroken _)

theorem RefreshEnds.not_asked {ended : List Happening} {middle : System}
    {result : Except Failure TokenResponse} {renewed : Renewed} {purpose : Purpose}
    (h : RefreshEnds system renewal result ended middle renewed) : .asked purpose ∉ ended := by
  cases h <;> simp

theorem AsksRefresh.eq_of_mem {facts : List Happening} {after : System} {renewed : Option Renewed}
    {purpose : Purpose} (h : AsksRefresh setup system renewal facts after renewed)
    (hmem : .asked purpose ∈ facts) : purpose = .refresh renewal := by
  cases h with
  | pending => simpa using hmem
  | settled hsettled hends =>
      obtain hasked | hlater := List.mem_cons.1 hmem
      · cases hasked
        rfl
      · exact absurd hlater hends.not_asked

theorem AsksRefresh.asksInNeed {after : System} {renewed : Option Renewed}
    (hasks : AsksRefresh setup system renewal turn.facts after renewed)
    (hcandidate : system.candidate minValidity = .renewal renewal) :
    Stretch.AsksInNeed minValidity ⟨system, move, turn⟩ := by
  intro purpose hmem
  have hpurpose := hasks.eq_of_mem ((Turn.mem_facts rfl).2 hmem)
  obtain ⟨session, hsession, hgeneration, hshort, htoken, halive⟩ :=
    canRefresh_of_candidate hcandidate
  refine ⟨session, renewal.refreshToken, hsession, ?_, hshort, htoken, halive⟩
  rw [hpurpose, hgeneration]

theorem asksInNeed_of_facts (hquiet : turn.facts = []) :
    Stretch.AsksInNeed minValidity ⟨system, move, turn⟩ :=
  fun _ hmem => absurd hmem (Turn.not_mem_of_facts hquiet rfl)

/-- The first stretch looks at the session. -/
theorem Starts.progress {facts : List Happening} {after : System}
    (h : Starts setup system task (.refreshIfNeeded minValidity) facts after)
    (hfacts : turn.facts = facts) (hafter : turn.system = after)
    (hphase : system.taskPhase? task = some (.ready (.refreshIfNeeded minValidity)))
    (hfits : RefreshesFit setup system (.start task)) :
    ∃ new, turn.system.taskPhase? task = some new ∧
      RefreshProgress setup task minValidity [⟨system, .start task, turn⟩] new ∧
      Stretch.AsksInNeed minValidity ⟨system, .start task, turn⟩ := by
  have hleaves : ∀ {phase : TaskPhase}, turn.system = system.setTask task phase →
      ∀ stretch ∈ [(⟨system, .start task, turn⟩ : Stretch)], stretch.LeavesProvider task := by
    intro phase hturn stretch hmem
    cases List.mem_singleton.1 hmem
    exact ⟨phase, hturn⟩
  cases h with
  | unrefreshed hresult =>
      exact ⟨_, by rw [hafter, setTask_self hphase],
        .declined (hleaves hafter) (.of_unrefreshed hresult), asksInNeed_of_facts hfacts⟩
  | refreshing hcandidate hasks =>
      cases hasks.asked_kept
      refine ⟨_, by rw [hafter, setTask_self hphase], .waits (hleaves hafter), ?_⟩
      rw [← hfacts] at hasks
      exact hasks.asksInNeed hcandidate
  | refreshed hcandidate hasks =>
      have hkept := (hasks.sameWork.taskPhase? task).trans hphase
      refine ⟨_, by rw [hafter]; exact setTask_self hkept, ?_, ?_⟩
      · cases hasks with
        | settled hsettled hends =>
            have hnone : ∀ stretch ∈ ([] : List Stretch), stretch.LeavesProvider task := by simp
            exact hends.progress (.start hphase hcandidate hsettled) hfits hnone hafter
      · rw [← hfacts] at hasks
        exact hasks.asksInNeed hcandidate

/-- A stretch of the call takes it on. -/
theorem RefreshProgress.move? {phase : TaskPhase}
    (h : RefreshProgress setup task minValidity stretches phase)
    (hphase : system.taskPhase? task = some phase) (hmove : system.move? setup move = some turn)
    (hown : move.task? = some task) (hfits : RefreshesFit setup system move) :
    ∃ new, turn.system.taskPhase? task = some new ∧
      RefreshProgress setup task minValidity (stretches ++ [⟨system, move, turn⟩]) new ∧
      Stretch.AsksInNeed minValidity ⟨system, move, turn⟩ := by
  have hdoes := move?_does hmove
  generalize hfacts : turn.facts = facts at hdoes
  generalize hafter : turn.system = after at hdoes
  rw [← hafter]
  cases hdoes with
  | start hfound hstarts =>
      cases hown
      cases hphase.symm.trans hfound
      cases h with
      | ready => exact hstarts.progress hfacts hafter hphase hfits
  | passGate hfound =>
      cases hown
      cases hphase.symm.trans hfound
      cases h
  | settle hfound hsettles =>
      cases hown
      cases hphase.symm.trans hfound
      cases h with
      | ready | declined | stored => cases hsettles
      | waits hleaves =>
          cases hsettles with
          | refresh hends =>
              have hkept := (hends.sameWork.taskPhase? task).trans hphase
              refine ⟨_, by rw [hafter]; exact setTask_self hkept,
                hends.progress (.settle hphase) hfits hleaves hafter, fun purpose hmem => ?_⟩
              have hasked := (Turn.mem_facts rfl).2 hmem
              rw [hfacts] at hasked
              exact absurd hasked hends.not_asked
  | spawn | schedule | startLoop | tick | stopLoop | settleLoop | cancel | release | advance =>
      cases hown

/-! ## What a call has done -/

theorem Declined.ne_stored {result : TaskResult} (h : Declined setup stretches result) :
    result ≠ .done (.refreshed true) := by
  obtain rfl | rfl | rfl | ⟨stretch, -, renewal, failure, rfl, -⟩ := h <;> exact nofun

theorem RefreshProgress.stored_iff {phase : TaskPhase}
    (h : RefreshProgress setup task minValidity stretches phase) :
    phase = .finished (.done (.refreshed true)) ↔
      ∃ stretch ∈ stretches, ¬ stretch.LeavesProvider task := by
  have hnone : ∀ {own : List Stretch}, (∀ stretch ∈ own, stretch.LeavesProvider task) →
      ¬ ∃ stretch ∈ own, ¬ stretch.LeavesProvider task :=
    fun hleaves ⟨stretch, hmem, hchanges⟩ => hchanges (hleaves stretch hmem)
  cases h with
  | ready => exact iff_of_false nofun (hnone fun _ hmem => absurd hmem List.not_mem_nil)
  | waits hleaves => exact iff_of_false nofun (hnone hleaves)
  | declined hleaves hresult =>
      refine iff_of_false (fun hstored => ?_) (hnone hleaves)
      exact hresult.ne_stored (TaskPhase.finished.inj hstored)
  | stored hleaves hstores =>
      exact iff_of_true rfl
        ⟨_, List.mem_append_right _ List.mem_cons_self, hstores.not_leavesProvider⟩

theorem RefreshProgress.stores
    (h : RefreshProgress setup task minValidity stretches (.finished (.done (.refreshed true)))) :
    ∃ earlier last response old new, stretches = earlier ++ [last] ∧
      (∀ stretch ∈ earlier, stretch.LeavesProvider task) ∧
      last.Stores setup task response old new := by
  cases h with
  | declined hleaves hresult => exact absurd rfl hresult.ne_stored
  | stored hleaves hstores => exact ⟨_, _, _, _, _, rfl, hleaves, hstores⟩

theorem RefreshProgress.declines {result : TaskResult}
    (h : RefreshProgress setup task minValidity stretches (.finished result))
    (hresult : result ≠ .done (.refreshed true)) :
    (∀ stretch ∈ stretches, stretch.LeavesProvider task) ∧ Declined setup stretches result := by
  cases h with
  | declined hleaves hdeclined => exact ⟨hleaves, hdeclined⟩
  | stored => exact absurd rfl hresult

/-- Whatever others do between its stretches, a call is where its own stretches have taken it. -/
theorem run?_refreshProgress {moves : List Move}
    (hready : system.taskPhase? task = some (.ready (.refreshIfNeeded minValidity)))
    (hrun : system.run? setup moves = some turn)
    (hfits : Along setup system moves fun found move =>
      move.task? = some task → RefreshesFit setup found move) :
    ∃ phase, turn.system.taskPhase? task = some phase ∧
      RefreshProgress setup task minValidity (stretchesOf setup task system moves) phase ∧
      ∀ stretch ∈ stretchesOf setup task system moves, stretch.AsksInNeed minValidity := by
  refine run?_induction (motive := fun moves after =>
    Along setup system moves (fun found move =>
      move.task? = some task → RefreshesFit setup found move) →
    ∃ phase, after.taskPhase? task = some phase ∧
      RefreshProgress setup task minValidity (stretchesOf setup task system moves) phase ∧
      ∀ stretch ∈ stretchesOf setup task system moves, stretch.AsksInNeed minValidity)
    ?_ ?_ hrun hfits
  · exact fun _ => ⟨_, hready, .ready, fun _ hmem => absurd hmem List.not_mem_nil⟩
  · intro moves before move last hbefore ih hstep halong
    obtain ⟨phase, hphase, hprogress, hasks⟩ := ih halong.init
    rw [stretchesOf, gather_snoc _ hbefore hstep]
    obtain ⟨made, hmove, rfl⟩ := Option.map_eq_some_iff.1 hstep
    by_cases hown : move.task? = some task
    · have hlast : ownStretch setup task before.system move made.closeUnused =
          [⟨before.system, move, made⟩] := by
        simp [ownStretch, hown, hmove]
      obtain ⟨new, hnew, hgoes, hneed⟩ :=
        hprogress.move? hphase hmove hown (halong.last hbefore hown)
      rw [hlast]
      refine ⟨new, ?_, hgoes, fun stretch hmem => ?_⟩
      · rw [Turn.closeUnused_system, closeUnused_taskPhase?, hnew]
      · obtain hearlier | hthis := List.mem_append.1 hmem
        · exact hasks stretch hearlier
        · cases List.mem_singleton.1 hthis
          exact hneed
    · have hnone : ownStretch setup task before.system move made.closeUnused = [] := by
        simp [ownStretch, hown]
      rw [hnone, List.append_nil]
      exact ⟨phase, step?_taskPhase?_kept hstep hown hphase, hprogress, hasks⟩

/-- A call that refreshes if need be is all or nothing, whatever others do in between, as long as
the lifetimes that its own refresh brings are within reach of the clock.  Exactly if it reports that
new tokens are stored, one of its stretches changes what is shared.  That is its last one: it puts
the new session in the place of the old one and tells of it once.  If it reports that none are
stored, or an error, no stretch changes anything but the phase of the call, and the error is that
there is no session or no usable refresh token, or what the identity provider has answered.  In
every case it asks for nothing but a refresh, and only in need of one. -/
theorem run?_refreshIfNeeded_all_or_nothing {moves : List Move}
    (hready : system.taskPhase? task = some (.ready (.refreshIfNeeded minValidity)))
    (hrun : system.run? setup moves = some turn)
    (hfits : Along setup system moves fun found move =>
      move.task? = some task → RefreshesFit setup found move) :
    let stretches := stretchesOf setup task system moves
    (turn.system.taskPhase? task = some (.finished (.done (.refreshed true))) ↔
      ∃ stretch ∈ stretches, ¬ stretch.LeavesProvider task) ∧
    (turn.system.taskPhase? task = some (.finished (.done (.refreshed true))) →
      ∃ earlier last response old new, stretches = earlier ++ [last] ∧
        (∀ stretch ∈ earlier, stretch.LeavesProvider task) ∧
        last.Stores setup task response old new) ∧
    (∀ result, turn.system.taskPhase? task = some (.finished result) →
      result ≠ .done (.refreshed true) →
      (∀ stretch ∈ stretches, stretch.LeavesProvider task) ∧
        Declined setup stretches result) ∧
    ∀ stretch ∈ stretches, stretch.AsksInNeed minValidity := by
  intro stretches
  obtain ⟨phase, hphase, hprogress, hasks⟩ := run?_refreshProgress hready hrun hfits
  rw [hphase]
  simp only [Option.some.injEq]
  refine ⟨hprogress.stored_iff, ?_, ?_, hasks⟩
  · rintro rfl
    exact hprogress.stores
  · rintro result rfl hresult
    exact hprogress.declines hresult

end Calls

/-- A second call refreshes the session while the first one waits for its answer. -/
def refreshesAtOnce : List Move :=
  [.start 1, .start 2, .settle 2 (.ok default), .advance 7, .settle 1 (.ok default)]

/-- The first call stores its tokens all the same. -/
theorem refreshesAtOnce_first_stores :
    ∃ before turn earlier last response old new,
      initial.run? (.standard .rotating "http://admin")
        (loggedIn ++ [.spawn (.refreshIfNeeded 60001), .spawn (.refreshIfNeeded 60001)]) =
          some before ∧
      before.system.run? (.standard .rotating "http://admin") refreshesAtOnce = some turn ∧
      stretchesOf (.standard .rotating "http://admin") 1 before.system refreshesAtOnce =
        earlier ++ [last] ∧
      (∀ stretch ∈ earlier, stretch.LeavesProvider 1) ∧
      last.Stores (.standard .rotating "http://admin") 1 response old new := by
  obtain ⟨before, turn, hbefore, hready, hrun, hstored, hnow⟩ : ∃ before turn,
      initial.run? (.standard .rotating "http://admin")
        (loggedIn ++ [.spawn (.refreshIfNeeded 60001), .spawn (.refreshIfNeeded 60001)]) =
          some before ∧
      before.system.taskPhase? 1 = some (.ready (.refreshIfNeeded 60001)) ∧
      before.system.run? (.standard .rotating "http://admin") refreshesAtOnce = some turn ∧
      turn.system.taskPhase? 1 = some (.finished (.done (.refreshed true))) ∧
      turn.system.now = 7 :=
    ⟨_, _, rfl, rfl, rfl, rfl, rfl⟩
  have hfit := run?_rotating_fits hrun (by rw [hnow]; decide)
  have hcall := run?_refreshIfNeeded_all_or_nothing hready hrun
    fun before move after middle hmoves hmiddle _ => hfit before move after middle hmoves hmiddle
  obtain ⟨earlier, last, response, old, new, hstretches, hleaves, hstores⟩ := hcall.2.1 hstored
  exact ⟨before, turn, earlier, last, response, old, new, hbefore, hrun, hstretches, hleaves,
    hstores⟩

end System

end AdminAccess
