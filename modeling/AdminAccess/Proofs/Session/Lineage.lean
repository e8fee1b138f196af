import AdminAccess.Proofs.Session.Ledger

/-! # Generations along a chain of acts

The counter never falls and every login takes the next number, so a generation whose session is
out never has a session again.  All statements are about chains of any length; the case of one
act comes first.
-/

namespace AdminAccess

namespace Ledger

variable {guard : Guard} {first last : Ledger} {facts : List Happening}

/-! ## The counter -/

theorem Act.nextGeneration_le (hact : Act guard first facts last) :
    first.nextGeneration ≤ last.nextGeneration := by
  cases hact <;> simp

theorem Acts.nextGeneration_le (hacts : Acts guard first facts last) :
    first.nextGeneration ≤ last.nextGeneration := by
  induction hacts with
  | done => exact Nat.le_refl _
  | next hact _ ih => exact Nat.le_trans hact.nextGeneration_le ih

theorem Act.now_le (hact : Act guard first facts last) : first.now ≤ last.now := by
  cases hact <;> simp [tell]

theorem Acts.now_le (hacts : Acts guard first facts last) : first.now ≤ last.now := by
  induction hacts with
  | done => exact Nat.le_refl _
  | next hact _ ih => exact Nat.le_trans hact.now_le ih

theorem Act.settled (hact : Act guard first facts last) (h : first.Settled) :
    last.Settled := by
  intro session hsession
  cases hact with
  | wait | call | ask | leave => exact h session hsession
  | arrive hmay hnew =>
      cases hsession
      simp [Session.ofResponse_generation hnew]
  | waste => exact Nat.lt_succ_of_lt (h session hsession)
  | refuse | lose | take => cases hsession
  | renew hhand hold hgeneration hnew =>
      cases hsession
      rw [Session.refreshed_generation hnew]
      exact h _ hold

theorem Acts.settled (hacts : Acts guard first facts last) (h : first.Settled) :
    last.Settled := by
  induction hacts with
  | done => exact h
  | next hact _ ih => exact ih (hact.settled h)

/-! ## The clock -/

/-- The session expires at a time that the clock can show. -/
def Timely (ledger : Ledger) : Prop :=
  ∀ session, ledger.session = some session → session.expiresAt < clockEnd

theorem Act.timely (hact : Act guard first facts last) (h : first.Timely) : last.Timely := by
  intro session hsession
  cases hact with
  | wait | call | ask | leave | waste => exact h session hsession
  | arrive hmay hnew =>
      cases hsession
      exact Session.ofResponse_expiresAt_lt hnew
  | refuse | lose | take => cases hsession
  | renew hhand hold hgeneration hnew =>
      cases hsession
      exact Session.refreshed_expiresAt_lt hnew

theorem Acts.timely (hacts : Acts guard first facts last) (h : first.Timely) : last.Timely := by
  induction hacts with
  | done => exact h
  | next hact _ ih => exact ih (hact.timely h)

/-! ## Logins -/

def openings (facts : List Happening) : List Session :=
  facts.filterMap fun
    | .opened session => some session
    | _ => none

theorem openings_append (facts more : List Happening) :
    openings (facts ++ more) = openings facts ++ openings more :=
  List.filterMap_append

theorem Act.openings (hact : Act guard first facts last) :
    Ledger.openings facts = [] ∨
      ∃ session, Ledger.openings facts = [session] ∧
        session.generation = first.nextGeneration ∧
        last.nextGeneration = first.nextGeneration + 1 := by
  cases hact with
  | arrive hmay hnew => exact .inr ⟨_, rfl, Session.ofResponse_generation hnew, rfl⟩
  | _ => exact .inl rfl

/-- Logins get ever higher generations, from the counter at the start up to the one at the
end. -/
theorem Acts.openings_increasing (hacts : Acts guard first facts last) :
    ((openings facts).map (·.generation)).Pairwise (· < ·) ∧
      ∀ session ∈ openings facts,
        first.nextGeneration ≤ session.generation ∧
          session.generation < last.nextGeneration := by
  induction hacts with
  | done => simp [openings]
  | @next first second last facts more hact hrest ih =>
      obtain ⟨hpairs, hbounds⟩ := ih
      have hlater := hrest.nextGeneration_le
      rw [openings_append]
      obtain hnone | ⟨session, hone, hgeneration, hcounter⟩ := hact.openings
      · have hstep := hact.nextGeneration_le
        rw [hnone, List.nil_append]
        refine ⟨hpairs, fun session hmem => ?_⟩
        have := hbounds session hmem
        omega
      · rw [hone, List.singleton_append]
        refine ⟨?_, fun other hmem => ?_⟩
        · rw [List.map_cons, List.pairwise_cons]
          refine ⟨fun generation hmem => ?_, hpairs⟩
          obtain ⟨other, hother, rfl⟩ := List.mem_map.1 hmem
          have := (hbounds other hother).1
          omega
        · rcases List.mem_cons.1 hmem with rfl | hmem
          · omega
          · have := hbounds other hmem
            omega

/-! ## Sessions that are out -/

theorem Act.not_holds {generation : Nat} (hact : Act guard first facts last)
    (hused : generation < first.nextGeneration) (hout : ¬ first.Holds generation) :
    ¬ last.Holds generation := by
  rintro ⟨session, hsession, rfl⟩
  cases hact with
  | wait | call | ask | waste | leave => exact hout ⟨session, hsession, rfl⟩
  | arrive hmay hnew =>
      cases hsession
      rw [Session.ofResponse_generation hnew] at hused
      omega
  | refuse | lose | take => cases hsession
  | renew hhand hold hgeneration hnew =>
      cases hsession
      exact hout ⟨_, hold, (Session.refreshed_generation hnew).symm⟩

/-- A generation that has been given away and has no session never has one again. -/
theorem Acts.not_holds {generation : Nat} (hacts : Acts guard first facts last)
    (hused : generation < first.nextGeneration) (hout : ¬ first.Holds generation) :
    ¬ last.Holds generation := by
  induction hacts with
  | done => exact hout
  | next hact _ ih =>
      exact ih (Nat.lt_of_lt_of_le hused hact.nextGeneration_le) (hact.not_holds hused hout)

/-! ## What a chain contains -/

/-- Every happening of a chain belongs to one of its acts. -/
theorem Acts.split {happening : Happening} (hacts : Acts guard first facts last)
    (hmem : happening ∈ facts) :
    ∃ before own after start finish, facts = before ++ own ++ after ∧
      Acts guard first before start ∧ Act guard start own finish ∧
      happening ∈ own ∧ Acts guard finish after last := by
  induction hacts with
  | done => cases hmem
  | @next first second last facts more hact hrest ih =>
      rcases List.mem_append.1 hmem with hown | hlater
      · exact ⟨[], facts, more, first, second, rfl, .done first, hact, hown, hrest⟩
      · obtain ⟨before, own, after, start, finish, heq, hbefore, hmid, hown, hafter⟩ :=
          ih hlater
        exact ⟨facts ++ before, own, after, start, finish, by simp [heq],
          .next hact hbefore, hmid, hown, hafter⟩

theorem Acts.mayCall_of_called {request : Request} (hacts : Acts guard first facts last)
    (hmem : .called request ∈ facts) : guard.mayCall request := by
  obtain ⟨_, _, _, _, _, _, _, hact, hown, _⟩ := hacts.split hmem
  cases hact <;> simp at hown
  subst hown
  assumption

theorem Acts.mayLogin_of_opened {session : Session} (hacts : Acts guard first facts last)
    (hmem : .opened session ∈ facts) : guard.mayLogin := by
  obtain ⟨_, _, _, _, _, _, _, hact, hown, _⟩ := hacts.split hmem
  cases hact <;> simp at hown
  assumption

theorem Acts.mayTake_of_taken {ending : Ending} (hacts : Acts guard first facts last)
    (hmem : .taken ending ∈ facts) : guard.mayTake ending.reason ending.generation := by
  obtain ⟨_, _, _, _, _, _, _, hact, hown, _⟩ := hacts.split hmem
  cases hact <;> simp at hown
  subst hown
  assumption

/-- New tokens are stored by a refresh in hand, and go to the session that it was for. -/
theorem Acts.of_renewed {renewed : Session} (hacts : Acts guard first facts last)
    (hused : ∀ renewal, guard.inHand renewal → renewal.generation < first.nextGeneration)
    (hmem : .renewed renewed ∈ facts) :
    ∃ renewal, guard.inHand renewal ∧ first.Holds renewal.generation ∧
      renewed.generation = renewal.generation := by
  obtain ⟨_, _, _, start, _, _, hbefore, hact, hown, _⟩ := hacts.split hmem
  cases hact with
  | @renew renewal response old new hhand hold hgeneration hnew =>
      simp only [List.mem_cons, Happening.renewed.injEq, reduceCtorEq, List.not_mem_nil,
        or_false] at hown
      subst hown
      refine ⟨renewal, hhand, ?_, (Session.refreshed_generation hnew).trans hgeneration⟩
      apply Classical.byContradiction
      intro hout
      exact hbefore.not_holds (hused renewal hhand) hout ⟨old, hold, hgeneration⟩
  | _ => simp at hown

theorem Act.session_source {session : Session} (hact : Act guard first facts last)
    (hsession : last.session = some session) :
    first.session = some session ∨ .opened session ∈ facts ∨ .renewed session ∈ facts := by
  cases hact with
  | wait | call | ask | waste | leave => exact .inl hsession
  | arrive | renew =>
      cases hsession
      simp
  | refuse | lose | take => cases hsession

theorem Acts.session_source {session : Session} (hacts : Acts guard first facts last)
    (hsession : last.session = some session) :
    first.session = some session ∨ .opened session ∈ facts ∨ .renewed session ∈ facts := by
  induction hacts with
  | done => exact .inl hsession
  | next hact _ ih =>
      obtain hbefore | hopened | hrenewed := ih hsession
      · obtain hfirst | hopened | hrenewed := hact.session_source hbefore
        · exact .inl hfirst
        · exact .inr (.inl (List.mem_append_left _ hopened))
        · exact .inr (.inr (List.mem_append_left _ hrenewed))
      · exact .inr (.inl (List.mem_append_right _ hopened))
      · exact .inr (.inr (List.mem_append_right _ hrenewed))

/-- Whether a happening puts another session, or none, in the place of the one there is. -/
def replaces : Happening → Bool
  | .opened _ | .taken _ | .emitted (.authenticationFailed _) => true
  | _ => false

theorem Act.not_holds_of_replaces {generation : Nat} {happening : Happening}
    (hact : Act guard first facts last) (hused : generation < first.nextGeneration)
    (hmem : happening ∈ facts) (hreplaces : replaces happening = true) :
    ¬ last.Holds generation := by
  rintro ⟨session, hsession, rfl⟩
  cases hact with
  | arrive hmay hnew =>
      cases hsession
      rw [Session.ofResponse_generation hnew] at hused
      omega
  | refuse | take => cases hsession
  | call | ask | renew | leave =>
      simp only [List.mem_cons, List.not_mem_nil, or_false] at hmem
      rcases hmem with rfl | rfl <;> cases hreplaces
  | wait | waste | lose => cases hmem

theorem Acts.not_replaces_of_holds {generation : Nat}
    (hacts : Acts guard first facts last) (hused : generation < first.nextGeneration)
    (hholds : last.Holds generation) : ∀ happening ∈ facts, replaces happening = false := by
  intro happening hmem
  apply Bool.eq_false_iff.2
  intro hreplaces
  obtain ⟨_, _, _, start, finish, _, hbefore, hact, hown, hafter⟩ := hacts.split hmem
  have hstart := Nat.lt_of_lt_of_le hused hbefore.nextGeneration_le
  have hfinish := Nat.lt_of_lt_of_le hstart hact.nextGeneration_le
  have hout := hact.not_holds_of_replaces hstart hown hreplaces
  exact hafter.not_holds hfinish hout hholds

theorem Acts.session_kept (hacts : Acts guard first facts last)
    (hhand : ∀ renewal, ¬ guard.inHand renewal) (hlogin : ¬ guard.mayLogin)
    (htake : ∀ reason generation, ¬ guard.mayTake reason generation) :
    last.session = first.session := by
  induction hacts with
  | done => rfl
  | next hact _ ih =>
      rw [ih]
      cases hact with
      | wait | call | ask | waste | leave => rfl
      | arrive hmay => exact absurd hmay hlogin
      | refuse _ hmay => exact absurd hmay hlogin
      | renew hmay => exact absurd hmay (hhand _)
      | lose hmay => exact absurd hmay (hhand _)
      | take _ hmay => exact absurd hmay (htake _ _)

theorem Act.session_none (hact : Act guard first facts last)
    (hnone : first.session = none) (hopened : ∀ session, .opened session ∉ facts) :
    last.session = none := by
  cases hact with
  | wait | call | ask | waste | leave => exact hnone
  | arrive => exact absurd (List.mem_cons_self) (hopened _)
  | refuse | lose | take => rfl
  | renew hhand hold => rw [hnone] at hold; cases hold

theorem Acts.session_none (hacts : Acts guard first facts last)
    (hnone : first.session = none) (hopened : ∀ session, .opened session ∉ facts) :
    last.session = none := by
  induction hacts with
  | done => exact hnone
  | next hact _ ih =>
      refine ih (hact.session_none hnone fun session hmem => ?_) fun session hmem => ?_
      · exact hopened session (List.mem_append_left _ hmem)
      · exact hopened session (List.mem_append_right _ hmem)

theorem Acts.session_none_of_taken {ending : Ending} (hacts : Acts guard first facts last)
    (hmem : .taken ending ∈ facts) (hopened : ∀ session, .opened session ∉ facts) :
    last.session = none := by
  obtain ⟨before, own, after, start, finish, rfl, _, hact, hown, hafter⟩ := hacts.split hmem
  have hfinish : finish.session = none := by
    cases hact <;> simp at hown
    rfl
  refine hafter.session_none hfinish fun session hlater => hopened session ?_
  exact List.mem_append_right _ hlater

end Ledger

end AdminAccess
