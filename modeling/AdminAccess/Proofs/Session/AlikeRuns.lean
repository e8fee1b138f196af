import AdminAccess.Proofs.Session.MaskedMoves

/-! # Runs that differ in secrets

Two runs are alike if their moves differ in the secrets of credentials and in the texts of tokens
only.  Masked they are the same run, by induction on their moves.
-/

namespace AdminAccess

variable {setup : Setup}

/-! ## Alike moves -/

namespace TaskPhase

def awaitsTokens : TaskPhase → Bool
  | .loggingIn _ => true
  | .refreshing _ => true
  | _ => false

end TaskPhase

namespace LoopPhase

def awaitsTokens : LoopPhase → Bool
  | .refreshing _ _ => true
  | _ => false

end LoopPhase

def System.awaitsTokens (system : System) : Actor → Bool
  | .task task => (system.taskPhase? task).any TaskPhase.awaitsTokens
  | .loop loop => (system.loopPhase? loop).any LoopPhase.awaitsTokens

inductive Move.Alike (system : System) : Move → Move → Prop
  | same (move : Move) : Alike system move move
  | login {credentials other : Credentials} (hmasked : credentials.masked = other.masked) :
      Alike system (.spawn (.authenticate credentials)) (.spawn (.authenticate other))
  | tokens {actor : Actor} {response other : Response}
      (hawaits : system.awaitsTokens actor = true) (halike : response.TokensAlike other) :
      Alike system (actor.settleMove (.ok response)) (actor.settleMove (.ok other))

/-- The moves of two runs, alike one by one; the first are a run from the given state. -/
inductive AlikeMoves (setup : Setup) : System → List Move → List Move → Prop
  | done (system : System) : AlikeMoves setup system [] []
  | step {system : System} {move other : Move} {rest others : List Move} {turn : Turn}
      (hmove : move.Alike system other) (hstep : system.step? setup move = some turn)
      (hrest : AlikeMoves setup turn.system rest others) :
      AlikeMoves setup system (move :: rest) (other :: others)

theorem Task.settle?_alike (hdiscreet : setup.Discreet) (task : Nat) {phase : TaskPhase}
    {response other : Response} (turn : Turn) (hawaits : phase.awaitsTokens = true)
    (halike : response.TokensAlike other) :
    (settle? setup task phase (.ok response) turn).map Turn.masked =
      (settle? setup task phase (.ok other) turn).map Turn.masked := by
  rw [← masked_settle? hdiscreet, ← masked_settle? hdiscreet]
  cases phase with
  | loggingIn credentials =>
      simp only [settle?, TaskPhase.masked, hdiscreet.concludeLogin,
        hdiscreet.loginReply credentials halike]
  | refreshing renewal =>
      simp only [settle?, TaskPhase.masked, hdiscreet.concludeRefresh,
        hdiscreet.refreshReply renewal.refreshToken halike]
  | _ => cases hawaits

theorem Loop.settle?_alike (hdiscreet : setup.Discreet) (loop : Nat) {phase : LoopPhase}
    {response other : Response} (turn : Turn) (hawaits : phase.awaitsTokens = true)
    (halike : response.TokensAlike other) :
    (settle? setup loop phase (.ok response) turn).map Turn.masked =
      (settle? setup loop phase (.ok other) turn).map Turn.masked := by
  rw [← masked_settle? hdiscreet, ← masked_settle? hdiscreet]
  cases phase with
  | refreshing due renewal =>
      simp only [settle?, LoopPhase.masked, hdiscreet.concludeRefresh,
        hdiscreet.refreshReply renewal.refreshToken halike]
  | _ => cases hawaits

namespace System

theorem move?_alike (hdiscreet : setup.Discreet) {system : System} {move other : Move}
    (halike : move.Alike system other) :
    (system.move? setup move).map Turn.masked = (system.move? setup other).map Turn.masked := by
  cases halike with
  | same => rfl
  | @login credentials other hmasked =>
      have hmoves : (Move.spawn (.authenticate credentials)).masked =
          (Move.spawn (.authenticate other)).masked :=
        congrArg (Move.spawn <| .authenticate ·) hmasked
      rw [← system.masked_move? hdiscreet, ← system.masked_move? hdiscreet, hmoves]
  | @tokens actor response other hawaits halike =>
      cases actor with
      | task task =>
          simp only [awaitsTokens, taskPhase?] at hawaits
          simp only [Actor.settleMove, move?]
          cases hphase : system.tasks[task]? with
          | none => rfl
          | some phase =>
              rw [hphase] at hawaits
              exact Task.settle?_alike hdiscreet task _ hawaits halike
      | loop loop =>
          simp only [awaitsTokens, loopPhase?] at hawaits
          simp only [Actor.settleMove, move?]
          cases hloop : system.loops[loop]? with
          | none => rfl
          | some l =>
              rw [hloop] at hawaits
              exact Loop.settle?_alike hdiscreet loop _ hawaits halike

theorem step?_alike (hdiscreet : setup.Discreet) {system : System} {move other : Move}
    (halike : move.Alike system other) :
    (system.step? setup move).map Turn.masked = (system.step? setup other).map Turn.masked := by
  have hclosed := congrArg (Option.map Turn.closeUnused) (move?_alike hdiscreet halike)
  simpa only [step?, Option.map_map, Function.comp_def, Turn.masked_closeUnused] using hclosed

end System

namespace Turn

theorem masked_andThen (first later : Turn) :
    (first.andThen later).masked = first.masked.andThen later.masked := by
  simp only [andThen, masked, List.map_append]

end Turn

/-- Two setups that differ in secrets make runs that differ in secrets. -/
theorem System.run?_alike {setup other : Setup} (hdiscreet : setup.Discreet)
    (hother : other.Discreet) (hsetup : setup.masked = other.masked) {system sibling : System}
    {moves others : List Move} (hsystem : system.masked = sibling.masked)
    (halike : AlikeMoves setup system moves others) :
    (system.run? setup moves).map Turn.masked = (sibling.run? other others).map Turn.masked := by
  induction halike generalizing sibling with
  | done system =>
      exact congrArg (some <| Turn.start ·) hsystem
  | @step system move change rest others turn hmove hstep hrest ih =>
      -- masked, the two moves are one move of one setup
      have hsteps : some turn.masked = (sibling.step? other change).map Turn.masked := by
        calc some turn.masked
            _ = (system.step? setup move).map Turn.masked := by rw [hstep]; rfl
            _ = (system.step? setup change).map Turn.masked := step?_alike hdiscreet hmove
            _ = system.masked.step? setup.masked change.masked :=
                (system.masked_step? hdiscreet change).symm
            _ = (sibling.step? other change).map Turn.masked := by
                rw [hsystem, hsetup, sibling.masked_step? hother]
      obtain ⟨first, hfirst, hmasked⟩ := Option.map_eq_some_iff.1 hsteps.symm
      have hlater := congrArg (Option.map turn.masked.andThen)
        (ih (congrArg Turn.system hmasked.symm))
      simpa only [run?, hstep, hfirst, Option.map_map, Function.comp_def, Turn.masked_andThen,
        hmasked] using hlater

end AdminAccess
