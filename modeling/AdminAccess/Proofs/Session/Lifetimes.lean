import AdminAccess.Session.Loop

/-! # Lifetimes of tokens

A response whose lifetimes end within reach of the clock makes a session; any other makes none.
-/

namespace AdminAccess

theorem timeAfter_of_lt {now span : Nat} (h : now + span < clockEnd) :
    timeAfter now span = .ok (now + span) :=
  if_pos h

theorem timeAfter_of_le {now span : Nat} (h : clockEnd ≤ now + span) :
    timeAfter now span = .error .overflow :=
  if_neg (Nat.not_lt.2 h)

namespace Loop

theorem firstPhase_of_lt {interval now : Nat} (h : now + interval < clockEnd) :
    firstPhase interval now = .waiting (now + interval) := by
  rw [firstPhase, timeAfter_of_lt h]

theorem firstPhase_of_le {interval now : Nat} (h : clockEnd ≤ now + interval) :
    firstPhase interval now = .ended := by
  rw [firstPhase, timeAfter_of_le h]

theorem firstPhase_cases (interval now : Nat) :
    firstPhase interval now = .waiting (now + interval) ∨ firstPhase interval now = .ended := by
  obtain hreach | hlate := Nat.lt_or_ge (now + interval) clockEnd
  · exact .inl (firstPhase_of_lt hreach)
  · exact .inr (firstPhase_of_le hlate)

end Loop

namespace TokenResponse

/-- Both lifetimes, counted from a time, end within reach of the clock. -/
def FitsClock (response : TokenResponse) (now : Nat) : Prop :=
  now + response.expiresIn.toNat * 1000 < clockEnd ∧
    ∀ seconds ∈ response.refreshExpiresIn, now + seconds.toNat * 1000 < clockEnd

instance (response : TokenResponse) (now : Nat) : Decidable (response.FitsClock now) :=
  @instDecidableAnd _ _ (Nat.decLt _ _) (Option.decidableForallMem response.refreshExpiresIn)

/-- The access token lives longer than a span, and the refresh token, if its lifetime is
announced, at least as long as the access token. -/
def Outlasts (response : TokenResponse) (span : Nat) : Prop :=
  span < response.expiresIn.toNat * 1000 ∧
    ∀ seconds ∈ response.refreshExpiresIn, response.expiresIn.toNat ≤ seconds.toNat

end TokenResponse

namespace Session

variable {response : TokenResponse} {now : Nat}

theorem ofResponse_of_fits (h : response.FitsClock now) (generation : Nat) :
    ofResponse response now generation = .ok
      ⟨response.accessToken, response.refreshToken, now + response.expiresIn.toNat * 1000,
        response.refreshExpiresIn.map (now + ·.toNat * 1000), generation⟩ := by
  obtain ⟨haccess, hrefresh⟩ := h
  have hrefreshExpiry : refreshExpiry now response.refreshExpiresIn =
      .ok (response.refreshExpiresIn.map (now + ·.toNat * 1000)) := by
    cases hseconds : response.refreshExpiresIn with
    | none => rfl
    | some seconds =>
        rw [refreshExpiry, timeAfter_of_lt (hrefresh seconds hseconds)]
        rfl
  rw [ofResponse, timeAfter_of_lt haccess, hrefreshExpiry]

theorem ofResponse_of_not_fits (h : ¬ response.FitsClock now) (generation : Nat) :
    ofResponse response now generation = .error .overflow := by
  by_cases haccess : now + response.expiresIn.toNat * 1000 < clockEnd
  · obtain ⟨seconds, hseconds, hlong⟩ :
        ∃ seconds ∈ response.refreshExpiresIn, clockEnd ≤ now + seconds.toNat * 1000 := by
      simpa [TokenResponse.FitsClock, haccess] using h
    have hrefreshExpiry : refreshExpiry now response.refreshExpiresIn = .error .overflow := by
      rw [Option.mem_def.1 hseconds, refreshExpiry, timeAfter_of_le hlong]
      rfl
    rw [ofResponse, timeAfter_of_lt haccess, hrefreshExpiry]
  · rw [ofResponse, timeAfter_of_le (Nat.not_lt.1 haccess)]

theorem refreshed_of_fits (h : response.FitsClock now) (session : Session) :
    session.refreshed response now = .ok
      ⟨response.accessToken, response.refreshToken.or session.refreshToken,
        now + response.expiresIn.toNat * 1000,
        response.refreshExpiresIn.map (now + ·.toNat * 1000), session.generation⟩ := by
  rw [refreshed, ofResponse_of_fits h]
  rfl

theorem refreshed_of_not_fits (h : ¬ response.FitsClock now) (session : Session) :
    session.refreshed response now = .error .overflow := by
  rw [refreshed, ofResponse_of_not_fits h]
  rfl

theorem refreshed_ne_error (h : response.FitsClock now) (session : Session)
    (fault : ClockFault) : session.refreshed response now ≠ .error fault := by
  rw [refreshed_of_fits h]
  exact nofun

theorem fits_of_ofResponse {generation : Nat} {session : Session}
    (h : ofResponse response now generation = .ok session) : response.FitsClock now := by
  refine Classical.byContradiction fun hfits => ?_
  simp [ofResponse_of_not_fits hfits] at h

theorem fits_of_refreshed {session new : Session}
    (h : session.refreshed response now = .ok new) : response.FitsClock now := by
  refine Classical.byContradiction fun hfits => ?_
  simp [refreshed_of_not_fits hfits] at h

theorem ofResponse_expiresAt_lt {generation : Nat} {session : Session}
    (h : ofResponse response now generation = .ok session) : session.expiresAt < clockEnd := by
  have hfits := fits_of_ofResponse h
  rw [ofResponse_of_fits hfits, Except.ok.injEq] at h
  rw [← h]
  exact hfits.1

theorem refreshed_expiresAt_lt {session new : Session}
    (h : session.refreshed response now = .ok new) : new.expiresAt < clockEnd := by
  have hfits := fits_of_refreshed h
  rw [refreshed_of_fits hfits, Except.ok.injEq] at h
  rw [← h]
  exact hfits.1

end Session

end AdminAccess
