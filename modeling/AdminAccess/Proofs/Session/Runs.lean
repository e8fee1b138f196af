import Mathlib.Data.List.Induction
import AdminAccess.Proofs.Session.Lineage
import AdminAccess.Proofs.Session.Moves

/-! # Runs

A run makes moves one after the other, in any order that the states allow; runs from
`System.initial` are the interleavings of tasks and loops.  A run is a chain of acts, and what is
in flight at its end has been read at one of its states or was in flight at its start.
-/

namespace AdminAccess

namespace Turn

def andThen (first later : Turn) : Turn :=
  ⟨later.system, first.happened ++ later.happened⟩

@[simp] theorem andThen_system (first later : Turn) :
    (first.andThen later).system = later.system := rfl

@[simp] theorem andThen_happened (first later : Turn) :
    (first.andThen later).happened = first.happened ++ later.happened := rfl

@[simp] theorem andThen_facts (first later : Turn) :
    (first.andThen later).facts = first.facts ++ later.facts :=
  List.filter_append _ _

theorem andThen_assoc (first second third : Turn) :
    (first.andThen second).andThen third = first.andThen (second.andThen third) := by
  simp [andThen]

end Turn

namespace System

variable {setup : Setup}

/-- What moves made one after the other lead to; none if a state does not allow the next. -/
def run? (setup : Setup) (system : System) : List Move → Option Turn
  | [] => some (.start system)
  | move :: rest =>
    match system.step? setup move with
    | none => none
    | some turn => (turn.system.run? setup rest).map turn.andThen

theorem run?_cons {system : System} {move : Move} {rest : List Move} {turn : Turn} :
    system.run? setup (move :: rest) = some turn ↔
      ∃ first later, system.step? setup move = some first ∧
        first.system.run? setup rest = some later ∧ first.andThen later = turn := by
  cases hstep : system.step? setup move with
  | none => simp [run?, hstep]
  | some first => simp [run?, hstep, Option.map_eq_some_iff]

theorem run?_append (system : System) (moves more : List Move) :
    system.run? setup (moves ++ more) =
      (system.run? setup moves).bind fun first =>
        (first.system.run? setup more).map first.andThen := by
  induction moves generalizing system with
  | nil =>
      simp only [List.nil_append, run?, Option.bind_some, Turn.start_system]
      exact (congrFun Option.map_id _).symm
  | cons move rest ih =>
      cases hstep : system.step? setup move with
      | none => simp [run?, hstep]
      | some turn =>
          simp only [List.cons_append, run?, hstep, ih, Option.map_bind, Option.bind_map]
          congr 1
          funext first
          rw [Function.comp_apply, Option.map_map]
          congr 1
          funext later
          exact (Turn.andThen_assoc turn first later).symm

theorem run?_rest {system : System} {before after : List Move} {middle turn : Turn}
    (hrun : system.run? setup (before ++ after) = some turn)
    (hbefore : system.run? setup before = some middle) :
    ∃ later, middle.system.run? setup after = some later ∧ middle.andThen later = turn := by
  rw [run?_append, hbefore, Option.bind_some] at hrun
  exact Option.map_eq_some_iff.1 hrun

/-- A move of a run is possible where it is made, and the rest of the run goes on from there. -/
theorem run?_step {system : System} {before after : List Move} {move : Move} {middle turn : Turn}
    (hrun : system.run? setup (before ++ move :: after) = some turn)
    (hbefore : system.run? setup before = some middle) :
    ∃ last later, middle.system.step? setup move = some last ∧
      last.system.run? setup after = some later := by
  obtain ⟨rest, hrest, -⟩ := run?_rest hrun hbefore
  obtain ⟨last, later, hstep, hlater, -⟩ := run?_cons.1 hrest
  exact ⟨last, later, hstep, hlater⟩

theorem run?_snoc {system : System} {moves : List Move} {move : Move} {turn : Turn} :
    system.run? setup (moves ++ [move]) = some turn ↔
      ∃ first last, system.run? setup moves = some first ∧
        first.system.step? setup move = some last ∧ first.andThen last = turn := by
  have hone : ∀ first : Turn, first.system.run? setup [move] =
      (first.system.step? setup move).map fun last => ⟨last.system, last.happened ++ []⟩ := by
    intro first
    simp only [run?]
    cases first.system.step? setup move <;> rfl
  simp only [run?_append, hone, List.append_nil, Option.bind_eq_some_iff, Option.map_map,
    Option.map_eq_some_iff]
  constructor
  · rintro ⟨first, hrun, last, hstep, rfl⟩
    exact ⟨first, last, hrun, hstep, rfl⟩
  · rintro ⟨first, last, hrun, hstep, rfl⟩
    exact ⟨first, hrun, last, hstep, rfl⟩

/-- What holds at the start of a run, and after a move whenever it holds before it, holds at the
end. -/
theorem run?_induction {system : System} {motive : List Move → System → Prop}
    (hstart : motive [] system)
    (hmoves : ∀ moves turn move last, system.run? setup moves = some turn →
      motive moves turn.system → turn.system.step? setup move = some last →
      motive (moves ++ [move]) last.system)
    {moves : List Move} {turn : Turn} (hrun : system.run? setup moves = some turn) :
    motive moves turn.system := by
  induction moves using List.reverseRecOn generalizing turn with
  | nil =>
      cases hrun
      exact hstart
  | append_singleton moves move ih =>
      obtain ⟨first, last, hbefore, hstep, rfl⟩ := run?_snoc.1 hrun
      exact hmoves moves first move last hbefore (ih hbefore) hstep

/-- What is picked from the moves of a run, each with the state in which it is made and the turn
that it leads to. -/
def gather {α : Type} (setup : Setup) (pick : System → Move → Turn → List α) (system : System) :
    List Move → List α
  | [] => []
  | move :: rest =>
    match system.step? setup move with
    | none => []
    | some turn => pick system move turn ++ gather setup pick turn.system rest

theorem gather_cons {α : Type} {system : System} {move : Move} {turn : Turn}
    (pick : System → Move → Turn → List α) (hstep : system.step? setup move = some turn)
    (rest : List Move) :
    gather setup pick system (move :: rest) =
      pick system move turn ++ gather setup pick turn.system rest := by
  simp only [gather, hstep]

theorem gather_snoc {α : Type} {system : System} {moves : List Move} {turn last : Turn}
    {move : Move} (pick : System → Move → Turn → List α)
    (hrun : system.run? setup moves = some turn)
    (hstep : turn.system.step? setup move = some last) :
    gather setup pick system (moves ++ [move]) =
      gather setup pick system moves ++ pick turn.system move last := by
  induction moves generalizing system turn with
  | nil =>
      cases hrun
      rw [Turn.start_system] at hstep
      rw [List.nil_append, gather_cons pick hstep]
      exact List.append_nil _
  | cons first rest ih =>
      obtain ⟨middle, later, hfirst, hrest, rfl⟩ := run?_cons.1 hrun
      rw [List.cons_append, gather_cons pick hfirst, gather_cons pick hfirst, ih hrest hstep,
        List.append_assoc]
      rfl

/-- Something holds whenever a move of a run is made. -/
def Along (setup : Setup) (system : System) (moves : List Move)
    (holds : System → Move → Prop) : Prop :=
  ∀ before move after middle, moves = before ++ move :: after →
    system.run? setup before = some middle → holds middle.system move

theorem Along.head {system : System} {move : Move} {rest : List Move}
    {holds : System → Move → Prop} (h : Along setup system (move :: rest) holds) :
    holds system move :=
  h [] move rest (.start system) rfl rfl

theorem Along.tail {system : System} {move : Move} {rest : List Move} {turn : Turn}
    {holds : System → Move → Prop} (h : Along setup system (move :: rest) holds)
    (hstep : system.step? setup move = some turn) : Along setup turn.system rest holds := by
  rintro before next after middle rfl hrun
  exact h (move :: before) next after (turn.andThen middle) rfl
    (run?_cons.2 ⟨turn, middle, hstep, hrun, rfl⟩)

theorem Along.init {system : System} {moves : List Move} {move : Move}
    {holds : System → Move → Prop} (h : Along setup system (moves ++ [move]) holds) :
    Along setup system moves holds := by
  rintro before next after middle rfl hrun
  exact h before next (after ++ [move]) middle (by simp) hrun

theorem Along.last {system : System} {moves : List Move} {move : Move} {turn : Turn}
    {holds : System → Move → Prop} (h : Along setup system (moves ++ [move]) holds)
    (hrun : system.run? setup moves = some turn) : holds turn.system move :=
  h moves move [] turn rfl hrun

theorem Along.nil {system : System} {holds : System → Move → Prop} :
    Along setup system [] holds := by
  intro before move after middle hmoves
  simp at hmoves

theorem Along.snoc {system : System} {moves : List Move} {move : Move} {turn : Turn}
    {holds : System → Move → Prop} (h : Along setup system moves holds)
    (hrun : system.run? setup moves = some turn) (hlast : holds turn.system move) :
    Along setup system (moves ++ [move]) holds := by
  intro before next after middle hmoves hbefore
  obtain rfl | ⟨rest, final, rfl⟩ := List.eq_nil_or_concat after
  · obtain ⟨rfl, hnext⟩ := List.append_inj' hmoves rfl
    cases hnext
    cases hrun.symm.trans hbefore
    exact hlast
  · rw [List.concat_eq_append, ← List.cons_append, ← List.append_assoc] at hmoves
    exact h before next rest middle (List.append_inj' hmoves rfl).1 hbefore

/-! ## Acts -/

theorem step?_acts {system : System} {move : Move} {turn : Turn}
    (h : system.step? setup move = some turn) :
    Ledger.Acts (system.moveGuard setup move) system.ledger turn.facts turn.system.ledger := by
  obtain ⟨facts, hfacts, hacts⟩ := (step?_leads h).acts
  rw [Turn.start_facts, List.nil_append] at hfacts
  rw [hfacts]
  exact hacts

/-- A run is a chain of acts. -/
theorem run?_acts {system : System} {moves : List Move} {turn : Turn}
    (h : system.run? setup moves = some turn) :
    Ledger.Acts .anything system.ledger turn.facts turn.system.ledger := by
  induction moves generalizing system turn with
  | nil =>
      cases h
      exact .done _
  | cons move rest ih =>
      obtain ⟨first, later, hstep, hrest, rfl⟩ := run?_cons.1 h
      rw [Turn.andThen_facts]
      exact (step?_acts hstep).unguarded.trans (ih hrest)

/-- A state along a run is no later than the end of the run. -/
theorem run?_now_le {system : System} {before after : List Move} {middle turn : Turn}
    (hrun : system.run? setup (before ++ after) = some turn)
    (hbefore : system.run? setup before = some middle) : middle.system.now ≤ turn.system.now := by
  obtain ⟨later, hlater, rfl⟩ := run?_rest hrun hbefore
  exact (run?_acts hlater).now_le

theorem initial_settled : initial.ledger.Settled :=
  fun _ h => by cases h

/-- Every reachable session is of a generation that the counter has passed. -/
theorem run?_settled {moves : List Move} {turn : Turn}
    (h : initial.run? setup moves = some turn) : turn.system.ledger.Settled :=
  (run?_acts h).settled initial_settled

theorem run?_timely {moves : List Move} {turn : Turn}
    (h : initial.run? setup moves = some turn) : turn.system.ledger.Timely :=
  (run?_acts h).timely nofun

/-! ## Refreshes in flight -/

/-- At one of the states of a run, a refresh was for the session of the moment and used its
refresh token. -/
def WasRead (setup : Setup) (system : System) (moves : List Move) (renewal : Renewal) : Prop :=
  ∃ before after turn, moves = before ++ after ∧ system.run? setup before = some turn ∧
    turn.system.ledger.Reads renewal

theorem WasRead.cons {system : System} {move : Move} {moves : List Move} {turn : Turn}
    {renewal : Renewal} (hstep : system.step? setup move = some turn)
    (hread : WasRead setup turn.system moves renewal) :
    WasRead setup system (move :: moves) renewal := by
  obtain ⟨before, after, later, rfl, hrun, hreads⟩ := hread
  exact ⟨move :: before, after, turn.andThen later, rfl,
    run?_cons.2 ⟨turn, later, hstep, hrun, rfl⟩, hreads⟩

theorem WasRead.start {system : System} {moves : List Move} {renewal : Renewal}
    (hreads : system.ledger.Reads renewal) : WasRead setup system moves renewal :=
  ⟨[], moves, .start system, rfl, rfl, hreads⟩

/-- A refresh in flight after a move was in flight before it, or is carried by it. -/
theorem step?_inFlight {system : System} {move : Move} {turn : Turn} {actor : Actor}
    {renewal : Renewal} (h : system.step? setup move = some turn)
    (hflight : turn.system.InFlight actor renewal) :
    system.InFlight actor renewal ∨ system.Carries move renewal := by
  have hleads := step?_leads h
  cases actor with
  | task task => exact (hleads.tasks task _ hflight).symm
  | loop loop =>
      obtain ⟨due, hphase⟩ := hflight
      exact (hleads.loops loop _ hphase).symm.imp_left fun hbefore => ⟨due, hbefore⟩

/-- A refresh in flight at the end of a run was in flight at its start or has been read along
it. -/
theorem run?_inFlight {system : System} {moves : List Move} {turn : Turn} {actor : Actor}
    {renewal : Renewal} (h : system.run? setup moves = some turn)
    (hflight : turn.system.InFlight actor renewal) :
    (∃ other, system.InFlight other renewal) ∨ WasRead setup system moves renewal := by
  induction moves generalizing system turn with
  | nil =>
      cases h
      exact .inl ⟨actor, hflight⟩
  | cons move rest ih =>
      obtain ⟨first, later, hstep, hrest, rfl⟩ := run?_cons.1 h
      obtain ⟨other, hother⟩ | hread := ih hrest hflight
      · obtain hbefore | hcarries := step?_inFlight hstep hother
        · exact .inl ⟨other, hbefore⟩
        · exact hcarries.inFlight_or_reads.imp id .start
      · exact .inr (.cons hstep hread)

theorem not_inFlight_initial (actor : Actor) (renewal : Renewal) :
    ¬ initial.InFlight actor renewal := by
  cases actor with
  | task task => simp [InFlight, taskPhase?, initial]
  | loop loop => simp [InFlight, loopPhase?, initial]

/-- Every refresh in flight has been read from a session. -/
theorem wasRead_of_inFlight {moves : List Move} {turn : Turn} {actor : Actor}
    {renewal : Renewal} (h : initial.run? setup moves = some turn)
    (hflight : turn.system.InFlight actor renewal) : WasRead setup initial moves renewal := by
  obtain ⟨other, hother⟩ | hread := run?_inFlight h hflight
  · exact absurd hother (not_inFlight_initial other renewal)
  · exact hread

theorem WasRead.lt_nextGeneration {moves : List Move} {turn : Turn} {renewal : Renewal}
    (h : initial.run? setup moves = some turn) (hread : WasRead setup initial moves renewal) :
    renewal.generation < turn.system.nextGeneration := by
  obtain ⟨before, after, middle, rfl, hbefore, session, hsession, hgeneration, -⟩ := hread
  obtain ⟨later, hafter, rfl⟩ := run?_rest h hbefore
  calc renewal.generation = session.generation := hgeneration.symm
    _ < middle.system.nextGeneration := run?_settled hbefore session hsession
    _ ≤ later.system.nextGeneration := (run?_acts hafter).nextGeneration_le

theorem wasRead_of_carries {moves : List Move} {turn : Turn} {move : Move} {renewal : Renewal}
    (h : initial.run? setup moves = some turn) (hcarries : turn.system.Carries move renewal) :
    WasRead setup initial moves renewal := by
  obtain ⟨actor, hflight⟩ | hreads := hcarries.inFlight_or_reads
  · exact wasRead_of_inFlight h hflight
  · exact ⟨moves, [], turn, (List.append_nil moves).symm, h, hreads⟩

/-! ## Calls under way -/

/-- The calls under way have entered only layers of the client. -/
def CallsThrough (layers : List (Layer (Option String))) (system : System) : Prop :=
  ∀ task entered since, system.taskPhase? task = some (.calling entered since) →
    ∀ stop ∈ entered, stop.1 ∈ layers

theorem step?_callsThrough {system : System} {move : Move} {turn : Turn}
    (h : system.step? setup move = some turn)
    (hcalls : system.CallsThrough setup.client.layers) :
    turn.system.CallsThrough setup.client.layers := by
  intro task entered since hphase
  obtain hfresh | hbefore := (step?_leads h).tasks task _ hphase
  · exact hfresh
  · exact hcalls task entered since hbefore

theorem run?_callsThrough {system : System} {moves : List Move} {turn : Turn}
    (h : system.run? setup moves = some turn)
    (hcalls : system.CallsThrough setup.client.layers) :
    turn.system.CallsThrough setup.client.layers := by
  refine run?_induction (motive := fun _ system => system.CallsThrough setup.client.layers)
    hcalls ?_ h
  intro _ _ _ _ _ hbefore hstep
  exact step?_callsThrough hstep hbefore

theorem initial_callsThrough (layers : List (Layer (Option String))) :
    initial.CallsThrough layers := by
  intro task entered since hphase
  simp [taskPhase?, initial] at hphase

end System

/-! ## A standard setup -/

/-- An identity provider whose refreshes bring new tokens of both kinds for a minute; a reply
tells it only whether a request has succeeded. -/
def IdentityProvider.rotating : IdentityProvider where
  login _ := .awaiting [] default fun reply =>
    ⟨[], reply.map fun _ => ⟨"access-0", 60, some "refresh-0", none, none, none⟩⟩
  refresh _ := .awaiting [] default fun reply =>
    ⟨[], reply.map fun _ => ⟨"access-1", 60, some "refresh-1", none, none, none⟩⟩
  logout _ := .awaiting [] default fun reply => ⟨[], reply.map fun _ => ()⟩

/-- A client with the standard layers, which read the token of the provider. -/
def Setup.standard (identity : IdentityProvider) (root : String)
    (names : DomainNames := .ascii) : Setup :=
  ⟨identity, ⟨root, Layer.defaults id, names⟩⟩

end AdminAccess
