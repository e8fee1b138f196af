import AdminAccess.Proofs.Session.LoopEnds
import AdminAccess.Proofs.Session.Unexpired

/-! # Refreshes that break the clock

A refresh takes the session out, makes the new one and puts that in.  If a lifetime is out of reach
of the clock, the new session cannot be made, and the old one is not put back.
-/

namespace AdminAccess

/-- A session is still there as it was, or as a refresh makes it. -/
def Session.Survives (old : Session) (response : TokenResponse) (now : Nat)
    (left : Option Session) : Prop :=
  left = some old ∨ ∃ new, old.refreshed response now = .ok new ∧ left = some new

namespace System

def BrokenBy (system : System) : Move → Prop
  | .start task | .settle task _ =>
    system.taskPhase? task = some (.finished (.broken .overflow))
  | .tick loop | .settleLoop loop _ => system.loopPhase? loop = some .ended
  | _ => False

theorem closeUnused_brokenBy (system : System) (move : Move) :
    system.closeUnused.BrokenBy move ↔ system.BrokenBy move := by
  cases move <;> simp [BrokenBy]

section Moves

variable {setup : Setup} {system after : System} {facts : List Happening} {move : Move}
  {renewal : Renewal}

/-- A loop whose refresh has not failed touches only itself afterwards. -/
theorem GoesOn.of_unfailed {loop due : Nat} {renewed : Renewed} {phase : LoopPhase}
    (h : GoesOn setup system loop due renewal renewed facts after)
    (hunfailed : ∀ failure, renewed ≠ .failed failure)
    (hphase : system.loopPhase? loop = some phase) :
    after.ledger = system.ledger ∧
      ∀ fault, renewed = .broken fault → after.loopPhase? loop = some .ended := by
  cases h with
  | stored | discarded => exact ⟨rfl, fun fault hbroken => by cases hbroken⟩
  | failed => exact absurd rfl (hunfailed _)
  | broken => exact ⟨rfl, fun fault _ => setLoop_self hphase⟩

/-- A move that completes a refresh ends it; unless the refresh has failed, the ledger then is what
the end of the refresh has made of it, and a refresh that has broken breaks its mover. -/
theorem BringsRefresh.ends {result : Except Failure TokenResponse}
    (hbrings : BringsRefresh setup system move renewal result)
    (hopen : ∀ loop, move = .tick loop → system.closed = false)
    (hdoes : Does setup system move facts after) :
    ∃ ended middle renewed, RefreshEnds system renewal result ended middle renewed ∧
      ((∀ failure, renewed ≠ .failed failure) → after.ledger = middle.ledger ∧
        (renewed = .broken .overflow → after.BrokenBy move)) := by
  cases hbrings with
  | settle hphase =>
      cases hdoes with
      | settle hfound hsettles =>
          cases hphase.symm.trans hfound
          cases hsettles with
          | refresh hends =>
              refine ⟨_, _, _, hends, fun _ => ⟨rfl, ?_⟩⟩
              rintro rfl
              exact setTask_self ((hends.sameWork.taskPhase? _).trans hphase)
  | settleLoop hphase =>
      cases hdoes with
      | settleLoop hfound hsettles =>
          cases hphase.symm.trans hfound
          cases hsettles with
          | refresh hends hgoes =>
              refine ⟨_, _, _, hends, fun hunfailed => ?_⟩
              obtain ⟨hledger, hended⟩ := hgoes.of_unfailed hunfailed
                ((loopPhase?_congr hends.sameWork.2 _).trans hphase)
              exact ⟨hledger, hended _⟩
  | start hready hcandidate hsettled =>
      cases hdoes with
      | start hfound hstarts =>
          cases hready.symm.trans hfound
          cases hstarts with
          | unrefreshed hresult => rw [hcandidate] at hresult; cases hresult
          | refreshing hother hasks =>
              cases hcandidate.symm.trans hother
              cases hasks with
              | pending hpending => rw [hsettled] at hpending; cases hpending
          | refreshed hother hasks =>
              cases hcandidate.symm.trans hother
              cases hasks with
              | settled hfirst hends =>
                  cases hsettled.symm.trans hfirst
                  refine ⟨_, _, _, hends, fun _ => ⟨rfl, ?_⟩⟩
                  rintro rfl
                  exact setTask_self ((hends.sameWork.taskPhase? _).trans hready)
  | tick hloop hcandidate hsettled =>
      cases hdoes with
      | tick hfound hdue hticks =>
          cases hloop.symm.trans hfound
          cases hticks with
          | closed hclosed => rw [hopen _ rfl] at hclosed; cases hclosed
          | noSession hother | fresh hother | unusable hother =>
              rw [hcandidate] at hother
              cases hother
          | refreshing hother hasks =>
              cases hcandidate.symm.trans hother
              cases hasks with
              | pending hpending => rw [hsettled] at hpending; cases hpending
          | refreshed hother hasks hgoes =>
              cases hcandidate.symm.trans hother
              cases hasks with
              | settled hfirst hends =>
                  cases hsettled.symm.trans hfirst
                  refine ⟨_, _, _, hends, fun hunfailed => ?_⟩
                  obtain ⟨hledger, hended⟩ := hgoes.of_unfailed hunfailed
                    ((loopPhase?_congr hends.sameWork.2 _).trans (loopPhase?_of_loop hloop))
                  exact ⟨hledger, hended _⟩

variable {response : TokenResponse} {old : Session} {last : Turn}

/-- What a successful answer makes of a session: nothing if it is for another one, else the
refreshed session, or none if that cannot be made. -/
theorem RefreshEnds.answered {renewed : Renewed}
    (h : RefreshEnds system renewal (.ok response) facts after renewed)
    (hsession : system.session = some old) :
    (old.generation ≠ renewal.generation ∧ renewed = .discarded ∧ after.ledger = system.ledger) ∨
    (old.generation = renewal.generation ∧ ∃ new, old.refreshed response system.now = .ok new ∧
      renewed = .stored ∧
      after.ledger = { system.ledger with session := some new }.tell .refreshed) ∨
    (old.generation = renewal.generation ∧ ¬ response.FitsClock system.now ∧
      renewed = .broken .overflow ∧
      after.ledger = { system.ledger with session := none }) := by
  cases h with
  | failed hresult => cases hresult
  | discarded hresult hout => exact .inl ⟨fun h => hout ⟨old, hsession, h⟩, rfl, rfl⟩
  | stored hresult hold hgeneration hnew =>
      cases hresult
      cases hold.symm.trans hsession
      exact .inr (.inl ⟨hgeneration, _, hnew, rfl, rfl⟩)
  | broken hresult hold hgeneration hnew =>
      cases hresult
      cases hold.symm.trans hsession
      have hlong : ¬ response.FitsClock system.now := fun hfits =>
        Session.refreshed_ne_error hfits _ _ hnew
      cases hnew.symm.trans (Session.refreshed_of_not_fits hlong _)
      exact .inr (.inr ⟨hgeneration, hlong, rfl, rfl⟩)

/-- Whatever its lifetimes are, the answer to a refresh of another session leaves the session
alone.  If the refresh is for the session that is there, this is renewed as long as the lifetimes
are within reach of the clock; otherwise it is lost, without any event, and whoever has asked for
the refresh breaks down.  So the session survives exactly the answers of the first two kinds.  Ticks
ask for a refresh only while there is a provider. -/
theorem step?_survives_iff (hsession : system.session = some old)
    (hbrings : BringsRefresh setup system move renewal (.ok response))
    (hopen : ∀ loop, move = .tick loop → system.closed = false)
    (hstep : system.step? setup move = some last) :
    (old.Survives response system.now last.system.session ↔
      old.generation ≠ renewal.generation ∨ response.FitsClock system.now) ∧
    (old.generation ≠ renewal.generation → last.system.ledger = system.ledger) ∧
    (old.generation = renewal.generation → ∀ new, old.refreshed response system.now = .ok new →
      last.system.ledger = { system.ledger with session := some new }.tell .refreshed) ∧
    (old.generation = renewal.generation → ¬ response.FitsClock system.now →
      last.system.ledger = { system.ledger with session := none } ∧
        last.system.BrokenBy move) := by
  obtain ⟨after, hdoes, hclosed⟩ := step?_does hstep
  obtain ⟨ended, middle, renewed, hends, hgoes⟩ := hbrings.ends hopen hdoes
  have hleft : last.system.ledger = after.ledger := by rw [hclosed, after.closeUnused_keeps.1]
  have hsame : ∀ {ledger : Ledger}, last.system.ledger = ledger →
      last.system.session = ledger.session := congrArg Ledger.session
  obtain ⟨hother, rfl, hmiddle⟩ | ⟨hgeneration, new, hnew, rfl, hmiddle⟩ |
    ⟨hgeneration, hlong, rfl, hmiddle⟩ := hends.answered hsession
  · have hkept := hleft.trans ((hgoes nofun).1.trans hmiddle)
    exact ⟨iff_of_true (.inl ((hsame hkept).trans hsession)) (.inl hother), fun _ => hkept,
      fun h => absurd h hother, fun h => absurd h hother⟩
  · have hstored := hleft.trans ((hgoes nofun).1.trans hmiddle)
    have hfits := Session.fits_of_refreshed hnew
    refine ⟨iff_of_true (.inr ⟨new, hnew, hsame hstored⟩) (.inr hfits),
      fun hother => absurd hgeneration hother, fun _ other hother => ?_,
      fun _ hlong => absurd hfits hlong⟩
    cases hnew.symm.trans hother
    exact hstored
  · obtain ⟨hafter, hbroken⟩ := hgoes nofun
    have hlost := hleft.trans (hafter.trans hmiddle)
    have hmade : ∀ new, old.refreshed response system.now ≠ .ok new :=
      fun new hnew => hlong (Session.fits_of_refreshed hnew)
    refine ⟨iff_of_false ?_ ?_, fun hother => absurd hgeneration hother,
      fun _ new hnew => absurd hnew (hmade new), fun _ _ => ⟨hlost, ?_⟩⟩
    · rintro (hkept | ⟨new, hnew, -⟩)
      · rw [hsame hlost] at hkept
        cases hkept
      · exact hmade new hnew
    · exact not_or.2 ⟨not_not_intro hgeneration, hlong⟩
    · rw [hclosed, closeUnused_brokenBy]
      exact hbroken rfl

end Moves

def refreshAsked : List Move :=
  loggedIn ++ [.spawn (.refreshIfNeeded 120000), .start 1]

theorem refreshAsked_waits :
    ∃ before, initial.run? (.standard (.lasting 60) "http://admin") refreshAsked = some before ∧
      before.system.now = 0 ∧
      before.system.session = some ⟨"access-0", some "refresh-0", 60000, none, 0⟩ ∧
      before.system.taskPhase? 1 = some (.refreshing ⟨0, "refresh-0"⟩) :=
  ⟨_, rfl, rfl, rfl, rfl⟩

theorem refresh_for_minute_survives :
    ∃ before last old,
      initial.run? (.standard (.lasting 60) "http://admin") refreshAsked = some before ∧
      before.system.session = some old ∧
      before.system.step? (.standard (.lasting 60) "http://admin") (.settle 1 (.ok default)) =
        some last ∧
      old.Survives ⟨"access-1", 60, some "refresh-1", none, none, none⟩ before.system.now
        last.system.session := by
  obtain ⟨before, hrun, hnow, hsession, hphase⟩ := refreshAsked_waits
  obtain ⟨last, hstep⟩ :=
    step?_settle (.standard (.lasting 60) "http://admin") (.ok default) hphase rfl
  have hbrings : BringsRefresh (.standard (.lasting 60) "http://admin") before.system
      (.settle 1 (.ok default)) ⟨0, "refresh-0"⟩
      (.ok ⟨"access-1", 60, some "refresh-1", none, none, none⟩) := .settle hphase
  refine ⟨before, last, _, hrun, hsession, hstep, ?_⟩
  have hreach : before.system.now + 60 * 1000 < clockEnd := hnow ▸ by decide
  exact (step?_survives_iff hsession hbrings nofun hstep).1.2 (.inr ⟨hreach, nofun⟩)

/-- An answer that announces a lifetime of 2⁶³ seconds loses the session. -/
theorem endless_answer_loses_session :
    ∃ before last old response,
      initial.run? (.standard (.lasting 9223372036854775808) "http://admin") refreshAsked =
        some before ∧
      before.system.session = some old ∧
      BringsRefresh (.standard (.lasting 9223372036854775808) "http://admin") before.system
        (.settle 1 (.ok default)) ⟨0, "refresh-0"⟩ (.ok response) ∧
      before.system.step? (.standard (.lasting 9223372036854775808) "http://admin")
        (.settle 1 (.ok default)) = some last ∧
      last.system.session = none ∧
      ¬ old.Survives response before.system.now last.system.session := by
  have hlost : ∀ {old : Session} {response : TokenResponse} {now : Nat} {left : Option Session},
      left = none → ¬ old.Survives response now left := by
    rintro old response now left rfl (hkept | ⟨new, -, hnew⟩)
    · cases hkept
    · cases hnew
  exact ⟨_, _, _, _, rfl, rfl, .settle rfl, rfl, rfl, hlost rfl⟩

end System

end AdminAccess
