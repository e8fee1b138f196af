import Mathlib.Data.List.Induction
import AdminAccess.Proofs.Session.Lifetimes

/-! # How long a refresh token is vouched for

The refresh token of a session and the expiry that is recorded for it come from different
responses: the token from the last one that brought a token, the expiry from the last one of all.
So a session vouches for a refresh token that is known to be dead, unless the last response says
that refresh tokens end by then.
-/

namespace AdminAccess

structure Receipt where
  time : Nat
  response : TokenResponse
  deriving DecidableEq, Repr

namespace Receipt

/-- When refresh tokens expire by what the response announces. -/
def refreshExpiry? (receipt : Receipt) : Option Nat :=
  receipt.response.refreshExpiresIn.map (receipt.time + ·.toNat * 1000)

def bringsToken (receipt : Receipt) : Bool :=
  receipt.response.refreshToken.isSome

/-- The receipt of the refresh token that is held after all of them: the last that brought one. -/
def bringer? (receipts : List Receipt) : Option Receipt :=
  (receipts.filter bringsToken).getLast?

theorem bringer?_snoc (receipts : List Receipt) (receipt : Receipt) :
    bringer? (receipts ++ [receipt]) =
      if receipt.bringsToken then some receipt else bringer? receipts := by
  cases hbrings : receipt.bringsToken <;> simp [bringer?, List.filter_append, hbrings]

end Receipt

namespace Session

open Receipt (bringer?)

/-- The session that a first response and the refreshes after it make. -/
def ofReceipts (generation : Nat) (first : Receipt) (later : List Receipt) :
    Except ClockFault Session := do
  let session ← ofResponse first.response first.time generation
  later.foldlM (fun session receipt => session.refreshed receipt.response receipt.time) session

theorem ofReceipts_nil (generation : Nat) (first : Receipt) :
    ofReceipts generation first [] = ofResponse first.response first.time generation := by
  cases hfirst : ofResponse first.response first.time generation <;>
    simp [ofReceipts, hfirst, bind, Except.bind, pure, Except.pure]

theorem ofReceipts_snoc_ok_iff {generation : Nat} {first receipt : Receipt} {later : List Receipt}
    {new : Session} :
    ofReceipts generation first (later ++ [receipt]) = .ok new ↔
      ∃ session, ofReceipts generation first later = .ok session ∧
        session.refreshed receipt.response receipt.time = .ok new := by
  have hsnoc : ofReceipts generation first (later ++ [receipt]) =
      ofReceipts generation first later >>= fun session =>
        session.refreshed receipt.response receipt.time := by
    simp only [ofReceipts, List.foldlM_append, List.foldlM_cons, List.foldlM_nil, bind_pure,
      bind_assoc]
  rw [hsnoc]
  cases ofReceipts generation first later <;> simp [bind, Except.bind]

/-- Receipts make a session exactly if the lifetimes of all are within reach of the clock. -/
theorem ofReceipts_ok_iff (generation : Nat) (first : Receipt) (later : List Receipt) :
    (∃ session, ofReceipts generation first later = .ok session) ↔
      ∀ receipt ∈ first :: later, receipt.response.FitsClock receipt.time := by
  induction later using List.reverseRecOn with
  | nil =>
      rw [ofReceipts_nil, List.forall_mem_singleton]
      exact ⟨fun ⟨_, h⟩ => fits_of_ofResponse h, fun h => ⟨_, ofResponse_of_fits h _⟩⟩
  | append_singleton later receipt ih =>
      rw [← List.cons_append, List.forall_mem_append, List.forall_mem_singleton, ← ih]
      constructor
      · rintro ⟨new, hnew⟩
        obtain ⟨session, hsession, hrefreshed⟩ := ofReceipts_snoc_ok_iff.1 hnew
        exact ⟨⟨session, hsession⟩, fits_of_refreshed hrefreshed⟩
      · rintro ⟨⟨session, hsession⟩, hfits⟩
        exact ⟨_, ofReceipts_snoc_ok_iff.2 ⟨session, hsession, refreshed_of_fits hfits _⟩⟩

/-- Which receipts the refresh token of a session and its expiry come from. -/
structure Reflects (session : Session) (bringer? : Option Receipt) (last : Receipt) : Prop where
  token : session.refreshToken = bringer?.bind (·.response.refreshToken)
  expiry : session.refreshExpiresAt = last.refreshExpiry?

theorem reflects_ofResponse {first : Receipt} {generation : Nat} {session : Session}
    (h : ofResponse first.response first.time generation = .ok session) :
    session.Reflects (bringer? [first]) first := by
  rw [ofResponse_of_fits (fits_of_ofResponse h), Except.ok.injEq] at h
  subst h
  refine ⟨?_, rfl⟩
  cases htoken : first.response.refreshToken <;>
    simp [bringer?, Receipt.bringsToken, htoken]

/-- A refresh takes the expiry from its response, and the token only if the response has one. -/
theorem Reflects.refreshed {session new : Session} {receipts : List Receipt}
    {last receipt : Receipt}
    (hreflects : session.Reflects (bringer? receipts) last)
    (h : session.refreshed receipt.response receipt.time = .ok new) :
    new.Reflects (bringer? (receipts ++ [receipt])) receipt := by
  rw [refreshed_of_fits (fits_of_refreshed h), Except.ok.injEq] at h
  subst h
  refine ⟨?_, rfl⟩
  rw [Receipt.bringer?_snoc]
  cases htoken : receipt.response.refreshToken with
  | none => simpa [Receipt.bringsToken, htoken] using hreflects.token
  | some token => simp [Receipt.bringsToken, htoken]

theorem reflects_ofReceipts {generation : Nat} {first : Receipt} {later : List Receipt}
    {session : Session} (h : ofReceipts generation first later = .ok session) :
    session.Reflects (bringer? (first :: later)) (later.getLastD first) := by
  induction later using List.reverseRecOn generalizing session with
  | nil =>
      rw [ofReceipts_nil] at h
      exact reflects_ofResponse h
  | append_singleton later receipt ih =>
      obtain ⟨old, hold, hrefreshed⟩ := ofReceipts_snoc_ok_iff.1 h
      rw [← List.cons_append, List.getLastD_concat]
      exact (ih hold).refreshed hrefreshed

/-- Whenever a session of receipts that is asked at a moment not before the last of them says that
it can be refreshed, its refresh token has not passed the expiry announced with it. -/
def VouchesForLiveTokens (session : Session) (receipts : List Receipt) (last : Nat) : Prop :=
  ∀ now, last ≤ now → session.canRefresh now = true →
    ∀ bringer ∈ bringer? receipts, ∀ expiry ∈ bringer.refreshExpiry?, now < expiry

/-- The expiry that the last receipt records does not come too late for the refresh token. -/
def RecordsInTime (receipts : List Receipt) (last : Receipt) : Prop :=
  ∀ bringer ∈ bringer? receipts, ∀ expiry ∈ bringer.refreshExpiry?,
    ∃ recorded ∈ last.refreshExpiry?, recorded ≤ expiry ∨ recorded ≤ last.time

section Reflects

variable {session : Session} {receipts : List Receipt} {last : Receipt}

theorem Reflects.canRefresh_iff (h : session.Reflects (bringer? receipts) last) {bringer : Receipt}
    (hbringer : bringer ∈ bringer? receipts) (now : Nat) :
    session.canRefresh now = true ↔ ∀ recorded ∈ last.refreshExpiry?, now < recorded := by
  have hbrings : bringer.bringsToken = true :=
    (List.mem_filter.1 (List.mem_of_getLast? hbringer)).2
  have hheld : session.refreshToken.isSome = true := by
    rw [h.token, Option.mem_def.1 hbringer]
    exact hbrings
  rw [canRefresh, hheld, h.expiry, Bool.true_and]
  cases last.refreshExpiry? <;> simp

/-- At the later of the two moments, that of the last receipt and the expiry, nothing but a record
in time rules a refresh out. -/
theorem Reflects.recordsInTime (h : session.Reflects (bringer? receipts) last)
    (hvouches : session.VouchesForLiveTokens receipts last.time) : RecordsInTime receipts last := by
  intro bringer hbringer expiry hannounced
  by_contra hlate
  have hcan : session.canRefresh (max last.time expiry) = true := by
    rw [h.canRefresh_iff hbringer]
    intro recorded hrecorded
    have hneither : ¬ (recorded ≤ expiry ∨ recorded ≤ last.time) := fun hends =>
      hlate ⟨recorded, hrecorded, hends⟩
    omega
  have hlive := hvouches _ (Nat.le_max_left _ _) hcan bringer hbringer expiry hannounced
  omega

theorem Reflects.vouches (h : session.Reflects (bringer? receipts) last)
    (hrecords : RecordsInTime receipts last) :
    session.VouchesForLiveTokens receipts last.time := by
  intro now hnow hcan bringer hbringer expiry hannounced
  obtain ⟨recorded, hrecorded, hends⟩ := hrecords bringer hbringer expiry hannounced
  have hopen : now < recorded := (h.canRefresh_iff hbringer now).1 hcan recorded hrecorded
  omega

end Reflects

/-- A session holds the refresh token of the last response that brought one, with the expiry of the
last response of all.  So it vouches only for refresh tokens that are alive exactly if, whenever
its token came with an expiry, the last response records one too, which is not later or has
passed already when it comes. -/
theorem vouchesForLiveTokens_iff {generation : Nat} {first : Receipt} {later : List Receipt}
    {session : Session} (hsession : ofReceipts generation first later = .ok session) :
    let last := later.getLastD first
    (session.refreshToken = (bringer? (first :: later)).bind (·.response.refreshToken) ∧
        session.refreshExpiresAt = last.refreshExpiry?) ∧
      (session.VouchesForLiveTokens (first :: later) last.time ↔
        RecordsInTime (first :: later) last) := by
  have hreflects := reflects_ofReceipts hsession
  exact ⟨⟨hreflects.token, hreflects.expiry⟩, hreflects.recordsInTime, hreflects.vouches⟩

/-- A receipt of an access token that lives for five minutes. -/
def briefly (time : Nat) (refreshToken : Option String) (refreshExpiresIn : Option UInt64) :
    Receipt :=
  ⟨time, ⟨"a", 300, refreshToken, refreshExpiresIn, none, none⟩⟩

/-- A refresh that brings its own token is vouched for until that token expires. -/
theorem renewed_token_keeps_expiry :
    let first := briefly 0 (some "r0") (some 1800)
    let second := briefly 100000 (some "r1") (some 1800)
    ∃ session, ofReceipts 0 first [second] = .ok session ∧
      session.VouchesForLiveTokens [first, second] second.time := by
  intro first second
  obtain ⟨session, hsession⟩ := (ofReceipts_ok_iff 0 first [second]).2
    (List.forall_mem_cons.2 ⟨by decide, List.forall_mem_singleton.2 (by decide)⟩)
  refine ⟨session, hsession, ?_⟩
  refine (vouchesForLiveTokens_iff hsession).2.2 fun bringer hbringer expiry hannounced => ?_
  obtain rfl : second = bringer := Option.some.inj hbringer
  exact ⟨expiry, hannounced, .inl (Nat.le_refl _)⟩

/-- A token that lives for half an hour is kept when a refresh brings neither a token nor a
lifetime for one; then its expiry is forgotten. -/
theorem kept_token_loses_expiry :
    let first := briefly 0 (some "r0") (some 1800)
    let second := briefly 100000 none none
    first.time ≤ second.time ∧
      ∃ session, ofReceipts 0 first [second] = .ok session ∧
        session.canRefresh 1900000 = true ∧
        ¬ session.VouchesForLiveTokens [first, second] second.time := by
  intro first second
  refine ⟨by decide, ⟨"a", some "r0", 400000, none, 0⟩, by decide, by decide, fun hvouches => ?_⟩
  have hlive := hvouches 1900000 (by decide) (by decide) first (by decide) 1800000 (by decide)
  exact absurd hlive (by decide)

end Session

end AdminAccess
