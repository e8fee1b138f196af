import AdminAccess.Proofs.Session.Runs

/-! # What is asked for is begun

Over all runs: where the record shows that the identity provider is asked for something, the
exchange asked for begins, with what it logs and then its request, if it has one.  Nothing else is
sent to the identity provider.
-/

namespace AdminAccess

/-! ## Beginnings -/

namespace Exchange

variable {α : Type}

def requests : Exchange α → List Request
  | .settled _ => []
  | .awaiting _ request _ => [request]

def beginning (exchange : Exchange α) : List Happening :=
  exchange.opening.map .log ++ exchange.requests.map .sent

end Exchange

namespace Setup

variable (setup : Setup)

def requests : Purpose → List Request
  | .login credentials => (setup.identity.login credentials).requests
  | .refresh renewal => (setup.identity.refresh renewal.refreshToken).requests
  | .logout ending => (setup.identity.logout ending.refreshToken).requests

def beginning : Purpose → List Happening
  | .login credentials => (setup.identity.login credentials).beginning
  | .refresh renewal => (setup.identity.refresh renewal.refreshToken).beginning
  | .logout ending => (setup.identity.logout ending.refreshToken).beginning

/-- The identity provider is asked for something, and the exchange begins at once. -/
def Begins (purpose : Purpose) (happened : List Happening) : Prop :=
  ∃ before after, happened = before ++ .asked purpose :: (setup.beginning purpose ++ after)

end Setup

namespace Ledger

def asks (happened : List Happening) : List Purpose :=
  happened.filterMap fun
    | .asked purpose => some purpose
    | _ => none

def sents (happened : List Happening) : List Request :=
  happened.filterMap fun
    | .sent request => some request
    | _ => none

theorem asks_append (happened more : List Happening) :
    asks (happened ++ more) = asks happened ++ asks more :=
  List.filterMap_append

theorem append_asks_nil (asked : List Purpose) : asked ++ asks [] = asked :=
  List.append_nil asked

theorem sents_append (happened more : List Happening) :
    sents (happened ++ more) = sents happened ++ sents more :=
  List.filterMap_append

theorem mem_asks {happened : List Happening} {purpose : Purpose} :
    purpose ∈ asks happened ↔ .asked purpose ∈ happened := by
  simp only [asks, List.mem_filterMap]
  constructor
  · rintro ⟨happening, hmem, h⟩
    cases happening <;> cases h
    exact hmem
  · exact fun hmem => ⟨_, hmem, rfl⟩

end Ledger

open Ledger (asks sents)

theorem Turn.asks_facts (turn : Turn) : asks turn.facts = asks turn.happened := by
  refine turn.filterMap_facts fun happening => ?_
  cases happening <;> rfl

theorem Exchange.asks_beginning {α : Type} (exchange : Exchange α) :
    asks exchange.beginning = [] := by
  simp [beginning, asks]

theorem Exchange.sents_beginning {α : Type} (exchange : Exchange α) :
    sents exchange.beginning = exchange.requests := by
  simp only [beginning, sents, List.filterMap_append, List.filterMap_map, Function.comp_def,
    List.filterMap_some, List.append_left_eq_self, List.filterMap_eq_nil_iff, implies_true]

theorem Setup.asks_beginning (setup : Setup) (purpose : Purpose) :
    asks (setup.beginning purpose) = [] := by
  cases purpose <;> exact Exchange.asks_beginning _

theorem Setup.sents_beginning (setup : Setup) (purpose : Purpose) :
    sents (setup.beginning purpose) = setup.requests purpose := by
  cases purpose <;> exact Exchange.sents_beginning _

/-! ## Records in which asking is beginning -/

/-- Something that is neither an asking nor a request to the identity provider. -/
def Happening.isApart : Happening → Bool
  | .asked _ | .sent _ => false
  | _ => true

/-- Each asking in a record is followed at once by the beginning of what is asked for, and every
request to the identity provider belongs to such a beginning. -/
inductive CarriesOut (setup : Setup) : List Happening → Prop
  | nil : CarriesOut setup []
  | ask (purpose : Purpose) {rest : List Happening} (hrest : CarriesOut setup rest) :
      CarriesOut setup (.asked purpose :: (setup.beginning purpose ++ rest))
  | apart {happening : Happening} {rest : List Happening} (happart : happening.isApart = true)
      (hrest : CarriesOut setup rest) : CarriesOut setup (happening :: rest)

namespace CarriesOut

variable {setup : Setup} {happened more : List Happening}

theorem append (h : CarriesOut setup happened) (hmore : CarriesOut setup more) :
    CarriesOut setup (happened ++ more) := by
  induction h with
  | nil => exact hmore
  | ask purpose hrest ih =>
      rw [List.cons_append, List.append_assoc]
      exact .ask purpose ih
  | apart happart hrest ih => exact .apart happart ih

theorem of_apart (h : ∀ happening ∈ happened, happening.isApart = true) :
    CarriesOut setup happened := by
  induction happened with
  | nil => exact .nil
  | cons happening rest ih =>
      obtain ⟨happart, hrest⟩ := List.forall_mem_cons.1 h
      exact .apart happart (ih hrest)

/-- What is asked for is begun. -/
theorem begins (h : CarriesOut setup happened) {purpose : Purpose}
    (hmem : .asked purpose ∈ happened) : setup.Begins purpose happened := by
  rw [← Ledger.mem_asks] at hmem
  induction h with
  | nil => cases hmem
  | @ask first rest hrest ih =>
      have hasks : asks (.asked first :: (setup.beginning first ++ rest)) = first :: asks rest := by
        have happend := Ledger.asks_append (setup.beginning first) rest
        rw [setup.asks_beginning, List.nil_append] at happend
        exact congrArg (first :: ·) happend
      rw [hasks] at hmem
      obtain rfl | hlater := List.mem_cons.1 hmem
      · exact ⟨[], rest, rfl⟩
      · obtain ⟨before, after, hrest⟩ := ih hlater
        refine ⟨.asked first :: (setup.beginning first ++ before), after, ?_⟩
        rw [hrest, List.cons_append, List.append_assoc]
  | @apart happening rest happart hrest ih =>
      have hlater : purpose ∈ asks rest := by
        cases happening with
        | asked | sent => cases happart
        | _ => exact hmem
      obtain ⟨before, after, hrest⟩ := ih hlater
      exact ⟨happening :: before, after, by rw [hrest, List.cons_append]⟩

/-- The requests sent are those of what is asked for, in that order. -/
theorem sents_eq (h : CarriesOut setup happened) :
    sents happened = (asks happened).flatMap setup.requests := by
  induction h with
  | nil => rfl
  | @ask purpose rest hrest ih =>
      calc sents (.asked purpose :: (setup.beginning purpose ++ rest))
        _ = sents (setup.beginning purpose ++ rest) := rfl
        _ = setup.requests purpose ++ (asks rest).flatMap setup.requests := by
          rw [Ledger.sents_append, setup.sents_beginning, ih]
        _ = (purpose :: asks (setup.beginning purpose ++ rest)).flatMap setup.requests := by
          rw [Ledger.asks_append, setup.asks_beginning, List.nil_append, List.flatMap_cons]
  | @apart happening rest happart hrest ih =>
      cases happening with
      | asked | sent => cases happart
      | _ => exact ih

end CarriesOut

/-! ## Parts of a move -/

section Parts

variable {setup : Setup} {turn : Turn}

namespace Turn

theorem update_carriesOut (h : CarriesOut setup turn.happened) (change : System → System) :
    CarriesOut setup (turn.update change).happened :=
  h

theorem record_carriesOut {happening : Happening} (h : CarriesOut setup turn.happened)
    (happart : happening.isApart = true) : CarriesOut setup (turn.record happening).happened :=
  h.append (.apart happart .nil)

theorem log_carriesOut (h : CarriesOut setup turn.happened) (level : LogLevel)
    (message : String) (fields : List (String × String)) :
    CarriesOut setup (turn.log level message fields).happened :=
  record_carriesOut h rfl

theorem logAll_carriesOut (h : CarriesOut setup turn.happened) (records : List LogRecord) :
    CarriesOut setup (turn.logAll records).happened := by
  refine h.append (.of_apart fun happening hmem => ?_)
  obtain ⟨record, -, rfl⟩ := List.mem_map.1 hmem
  rfl

theorem follow_carriesOut (h : CarriesOut setup turn.happened) (trace : Trace) :
    CarriesOut setup (turn.follow trace).happened := by
  refine h.append (.of_apart fun happening hmem => ?_)
  obtain ⟨event, -, rfl⟩ := List.mem_map.1 hmem
  cases event <;> rfl

theorem emit_carriesOut (h : CarriesOut setup turn.happened) (event : SessionEvent) :
    CarriesOut setup (turn.emit event).happened :=
  h.append (.apart rfl .nil)

theorem cancel_carriesOut (h : CarriesOut setup turn.happened) (loop : Nat) :
    CarriesOut setup (turn.cancel loop).happened := by
  unfold cancel
  split
  · split
    · exact h
    · exact h.append (.apart rfl .nil)
  · exact h

theorem register_carriesOut (h : CarriesOut setup turn.happened) (loop : Option Nat) :
    CarriesOut setup (turn.register loop).happened := by
  unfold register
  cases turn.system.registered with
  | none => exact h
  | some before => exact cancel_carriesOut (update_carriesOut h _) before

theorem openGate_carriesOut (h : CarriesOut setup turn.happened) :
    CarriesOut setup turn.openGate.happened := by
  unfold openGate
  split
  · exact h
  · exact h.append (.apart rfl .nil)

theorem closeUnused_carriesOut (h : CarriesOut setup turn.happened) :
    CarriesOut setup turn.closeUnused.happened := by
  unfold closeUnused
  split
  · exact h
  · exact register_carriesOut h none

/-- An exchange that is asked for has begun, or it is settled at once and has begun with the
records of its settlement. -/
theorem exchange_carriesOut {α : Type} {purpose : Purpose} {exchange : Exchange α}
    (h : CarriesOut setup turn.happened)
    (hbegins : setup.beginning purpose = exchange.beginning) :
    (∃ asked, turn.exchange purpose exchange = (asked, none) ∧
      CarriesOut setup asked.happened) ∨
    ∃ asked settlement, turn.exchange purpose exchange = (asked, some settlement) ∧
      CarriesOut setup (asked.logAll settlement.logs).happened := by
  have hasked := h.append (.ask purpose .nil)
  rw [hbegins, List.append_nil] at hasked
  cases exchange with
  | settled settlement =>
      refine .inr ⟨_, settlement, rfl, ?_⟩
      simpa [record, logAll, Exchange.beginning, Exchange.opening, Exchange.requests] using hasked
  | awaiting opening request conclude =>
      refine .inl ⟨_, rfl, ?_⟩
      simpa [record, logAll, Exchange.beginning, Exchange.opening, Exchange.requests] using hasked

/-! ## Refreshes and endings -/

theorem storeRefresh_carriesOut (h : CarriesOut setup turn.happened) (renewal : Renewal)
    (response : TokenResponse) :
    CarriesOut setup (turn.storeRefresh renewal response).1.happened := by
  unfold storeRefresh
  split
  · split
    · exact emit_carriesOut (log_carriesOut (record_carriesOut h rfl) _ _ _) _
    · exact h
  · exact log_carriesOut h _ _ _

theorem concludeRefresh_carriesOut (renewal : Renewal) (settlement : Settlement TokenResponse)
    (h : CarriesOut setup (turn.logAll settlement.logs).happened) :
    CarriesOut setup (turn.concludeRefresh renewal settlement).1.happened := by
  unfold concludeRefresh
  cases settlement.result with
  | ok response => exact storeRefresh_carriesOut h renewal response
  | error failure => exact h

theorem askRefresh_carriesOut (h : CarriesOut setup turn.happened) (renewal : Renewal) :
    CarriesOut setup (turn.askRefresh setup renewal).1.happened := by
  have hlogged := log_carriesOut h .debug "refreshing session token"
    [generationField renewal.generation]
  have hbegins : setup.beginning (.refresh renewal) =
      (setup.identity.refresh renewal.refreshToken).beginning := rfl
  unfold askRefresh
  obtain ⟨asked, hexchange, hasked⟩ | ⟨asked, settlement, hexchange, hasked⟩ :=
    exchange_carriesOut hlogged hbegins
  · simp only [hexchange]
    exact hasked
  · simp only [hexchange]
    exact concludeRefresh_carriesOut renewal settlement hasked

theorem takeSession_carriesOut (h : CarriesOut setup turn.happened) (reason : EndReason)
    (expected : Option Nat) :
    CarriesOut setup (turn.takeSession reason expected).1.happened := by
  have hwithout : CarriesOut setup turn.withoutSession.happened :=
    register_carriesOut (update_carriesOut h _) none
  obtain hkept | ⟨-, hkept⟩ | ⟨session, -, -, htaken⟩ := takeSession_cases turn reason expected
  · rw [hkept]
    exact h
  · rw [hkept]
    exact log_carriesOut hwithout _ _ _
  · rw [htaken]
    exact log_carriesOut (record_carriesOut hwithout rfl) _ _ _

theorem concludeEnding_carriesOut (ending : Ending) (settlement : Settlement Unit)
    (h : CarriesOut setup (turn.logAll settlement.logs).happened) :
    CarriesOut setup (turn.concludeEnding ending settlement).1.happened := by
  have htold := emit_carriesOut h (.loggedOut ending.reason)
  unfold concludeEnding
  cases settlement.result with
  | ok => exact htold
  | error failure => exact log_carriesOut htold _ _ _

theorem askEnding_carriesOut (h : CarriesOut setup turn.happened) (ending : Ending) :
    CarriesOut setup (turn.askEnding setup ending).1.happened := by
  have hbegins : setup.beginning (.logout ending) =
      (setup.identity.logout ending.refreshToken).beginning := rfl
  unfold askEnding
  obtain ⟨asked, hexchange, hasked⟩ | ⟨asked, settlement, hexchange, hasked⟩ :=
    exchange_carriesOut h hbegins
  · rw [hexchange]
    exact hasked
  · rw [hexchange]
    exact concludeEnding_carriesOut ending settlement hasked

end Turn

/-! ## Tasks -/

namespace Task

theorem leaveGate_carriesOut (h : CarriesOut setup turn.happened) (task : Nat)
    (result : TaskResult) : CarriesOut setup (leaveGate task result turn).happened :=
  Turn.openGate_carriesOut h

theorem concludeLogin_carriesOut (task : Nat) (settlement : Settlement TokenResponse)
    (h : CarriesOut setup (turn.logAll settlement.logs).happened) :
    CarriesOut setup (concludeLogin task settlement turn).happened := by
  cases hresult : settlement.result with
  | error failure =>
      rw [concludeLogin_refused task turn hresult]
      refine leaveGate_carriesOut (Turn.emit_carriesOut ?_ _) task _
      exact Turn.update_carriesOut (Turn.log_carriesOut h _ _ _) _
  | ok response =>
      cases hnew : Session.ofResponse response turn.system.now turn.system.nextGeneration with
      | error fault =>
          rw [concludeLogin_broken task turn hresult hnew]
          exact leaveGate_carriesOut (Turn.update_carriesOut h _) task _
      | ok session =>
          rw [concludeLogin_opened task turn hresult hnew]
          refine leaveGate_carriesOut (Turn.emit_carriesOut (Turn.log_carriesOut ?_ _ _ _) _) task _
          exact Turn.record_carriesOut (Turn.update_carriesOut (Turn.update_carriesOut h _) _) rfl

theorem enterGate_carriesOut (h : CarriesOut setup turn.happened) (task : Nat)
    (credentials : Credentials) :
    CarriesOut setup (enterGate setup task credentials turn).happened := by
  have hbegins : setup.beginning (.login credentials) =
      (setup.identity.login credentials).beginning := rfl
  unfold enterGate
  split
  · exact leaveGate_carriesOut (Turn.log_carriesOut h _ _ _) _ _
  · obtain ⟨asked, hexchange, hasked⟩ | ⟨asked, settlement, hexchange, hasked⟩ :=
      Turn.exchange_carriesOut h hbegins
    · rw [hexchange]
      exact hasked
    · rw [hexchange]
      exact concludeLogin_carriesOut task settlement hasked

theorem authenticate_carriesOut (h : CarriesOut setup turn.happened) (task : Nat)
    (credentials : Credentials) :
    CarriesOut setup (authenticate setup task credentials turn).happened := by
  unfold authenticate
  split
  · exact Turn.log_carriesOut h _ _ _
  · split
    · exact enterGate_carriesOut (Turn.update_carriesOut h _) _ _
    · exact h

theorem refreshIfNeeded_carriesOut (h : CarriesOut setup turn.happened) (task minValidity : Nat) :
    CarriesOut setup (refreshIfNeeded setup task minValidity turn).happened := by
  unfold refreshIfNeeded
  cases turn.system.candidate minValidity with
  | noSession | fresh | unusable => exact h
  | renewal renewal =>
      have hasked := Turn.askRefresh_carriesOut h renewal
      rcases hask : turn.askRefresh setup renewal with ⟨asked, _ | renewed⟩
      all_goals
        rw [hask] at hasked
        simp only [hask]
        exact hasked

theorem logout_carriesOut (h : CarriesOut setup turn.happened) (task : Nat) :
    CarriesOut setup (logout setup task turn).happened := by
  have htaken := Turn.takeSession_carriesOut h .userRequested none
  unfold logout
  rcases htake : turn.takeSession .userRequested none with ⟨left, _ | ending⟩
  all_goals rw [htake] at htaken
  · exact htaken
  · have hasked := Turn.askEnding_carriesOut htaken ending
    rcases hask : left.askEnding setup ending with ⟨asked, _ | result⟩
    all_goals
      rw [hask] at hasked
      simp only [hask]
      exact hasked

theorem concludeCall_carriesOut (h : CarriesOut setup turn.happened) (task elapsed : Nat)
    (entered : Pipeline.Entered (Option String)) (reply : Reply) :
    CarriesOut setup (concludeCall task elapsed entered reply turn).happened :=
  Turn.follow_carriesOut h _

theorem call_carriesOut (h : CarriesOut setup turn.happened) (task : Nat) (operation : Operation)
    (params : Params) : CarriesOut setup (call setup task operation params turn).happened := by
  unfold call
  split
  · exact h
  · dsimp only
    split
    · exact concludeCall_carriesOut (Turn.follow_carriesOut h _) _ _ _ _
    · exact Turn.record_carriesOut (Turn.follow_carriesOut h _) rfl

theorem start_carriesOut (h : CarriesOut setup turn.happened) (task : Nat) (job : Job) :
    CarriesOut setup (start setup task job turn).happened := by
  cases job with
  | authenticate credentials => exact authenticate_carriesOut h task credentials
  | refreshIfNeeded minValidity => exact refreshIfNeeded_carriesOut h task minValidity
  | logout => exact logout_carriesOut h task
  | call operation params => exact call_carriesOut h task operation params

theorem settle?_carriesOut (h : CarriesOut setup turn.happened) {task : Nat} {phase : TaskPhase}
    {reply : Reply} {after : Turn} (hsettle : settle? setup task phase reply turn = some after) :
    CarriesOut setup after.happened := by
  cases phase with
  | ready | atGate | finished => cases hsettle
  | loggingIn credentials =>
      cases hsettle
      exact concludeLogin_carriesOut task _ (Turn.logAll_carriesOut h _)
  | refreshing renewal =>
      cases hsettle
      exact Turn.concludeRefresh_carriesOut renewal _ (Turn.logAll_carriesOut h _)
  | leaving ending =>
      cases hsettle
      exact Turn.concludeEnding_carriesOut ending _ (Turn.logAll_carriesOut h _)
  | calling entered since =>
      cases hsettle
      exact concludeCall_carriesOut h task _ entered reply

end Task

/-! ## Loops -/

namespace Loop

theorem stop_carriesOut (h : CarriesOut setup turn.happened) (loop : Nat) :
    CarriesOut setup (stop loop turn).happened :=
  Turn.cancel_carriesOut (Turn.update_carriesOut h _) loop

theorem concludeEnding_carriesOut (h : CarriesOut setup turn.happened) (loop : Nat)
    (result : Except Failure Unit) :
    CarriesOut setup (concludeEnding loop result turn).happened := by
  cases result with
  | ok => exact stop_carriesOut h loop
  | error failure => exact stop_carriesOut (Turn.log_carriesOut h _ _ _) loop

theorem giveUp_carriesOut (h : CarriesOut setup turn.happened) (loop generation : Nat)
    (failure : Failure) :
    CarriesOut setup (giveUp setup loop generation failure turn).happened := by
  let logged := turn.log .warn "token refresh failed, logging out"
    [Turn.failureField failure, Turn.generationField generation]
  have hlogged : CarriesOut setup logged.happened := Turn.log_carriesOut h _ _ _
  have htaken := Turn.takeSession_carriesOut hlogged .refreshFailed (some generation)
  unfold giveUp
  rcases htake : logged.takeSession .refreshFailed (some generation) with ⟨left, _ | ending⟩
  all_goals
    rw [htake] at htaken
    simp only [logged] at htake
    simp only [htake]
  · exact stop_carriesOut htaken loop
  · have hasked := Turn.askEnding_carriesOut htaken ending
    rcases hask : left.askEnding setup ending with ⟨asked, _ | result⟩
    all_goals rw [hask] at hasked
    · exact hasked
    · exact concludeEnding_carriesOut hasked loop result

theorem concludeRefresh_carriesOut (h : CarriesOut setup turn.happened) (loop due : Nat)
    (renewal : Renewal) (renewed : Renewed) :
    CarriesOut setup (concludeRefresh setup loop due renewal renewed turn).happened := by
  cases renewed with
  | stored | discarded | broken => exact h
  | failed failure => exact giveUp_carriesOut h loop renewal.generation failure

theorem tick_carriesOut (h : CarriesOut setup turn.happened) (loop due minValidity : Nat) :
    CarriesOut setup (tick setup loop due minValidity turn).happened := by
  unfold tick
  cases turn.system.closed with
  | true => exact stop_carriesOut h loop
  | false =>
      cases turn.system.candidate minValidity with
      | noSession => exact stop_carriesOut (Turn.log_carriesOut h _ _ _) loop
      | fresh => exact h
      | unusable generation => exact giveUp_carriesOut h loop generation refreshUnavailable
      | renewal renewal =>
          have hasked := Turn.askRefresh_carriesOut h renewal
          rcases hask : turn.askRefresh setup renewal with ⟨asked, _ | renewed⟩
          all_goals
            rw [hask] at hasked
            simp only [hask]
          · exact hasked
          · exact concludeRefresh_carriesOut hasked loop due renewal renewed

theorem settle?_carriesOut (h : CarriesOut setup turn.happened) {loop : Nat} {phase : LoopPhase}
    {reply : Reply} {after : Turn} (hsettle : settle? setup loop phase reply turn = some after) :
    CarriesOut setup after.happened := by
  cases phase with
  | starting | waiting | ended => cases hsettle
  | refreshing due renewal =>
      cases hsettle
      exact concludeRefresh_carriesOut
        (Turn.concludeRefresh_carriesOut renewal _ (Turn.logAll_carriesOut h _)) loop due renewal _
  | leaving ending =>
      cases hsettle
      exact concludeEnding_carriesOut
        (Turn.concludeEnding_carriesOut ending _ (Turn.logAll_carriesOut h _)) loop _

end Loop

end Parts

/-! ## Moves and runs -/

namespace System

variable {setup : Setup} {system : System} {turn : Turn}

theorem move?_carriesOut {move : Move} (h : system.move? setup move = some turn) :
    CarriesOut setup turn.happened := by
  have hstart : CarriesOut setup (Turn.start system).happened := .nil
  cases move with
  | spawn job | release =>
      simp only [move?, Option.ite_none_right_eq_some, Option.some.injEq] at h
      rw [← h.2]
      exact .nil
  | start task =>
      simp only [move?] at h
      split at h
      · cases h
        exact Task.start_carriesOut hstart task _
      · cases h
  | passGate task =>
      simp only [move?] at h
      split at h
      · simp only [Option.ite_none_right_eq_some, Option.some.injEq] at h
        rw [← h.2]
        exact Task.enterGate_carriesOut hstart task _
      · cases h
  | settle task reply =>
      simp only [move?] at h
      split at h
      · exact Task.settle?_carriesOut hstart h
      · cases h
  | schedule interval minValidity =>
      simp only [move?, Option.ite_none_right_eq_some, Option.some.injEq] at h
      rw [← h.2]
      exact Turn.log_carriesOut (Turn.register_carriesOut hstart (some system.loops.length)) _ _ _
  | startLoop loop =>
      simp only [move?] at h
      split at h
      · cases h
        exact .nil
      · cases h
  | tick loop =>
      simp only [move?] at h
      split at h
      · simp only [Option.ite_none_right_eq_some, Option.some.injEq] at h
        rw [← h.2]
        exact Loop.tick_carriesOut hstart loop _ _
      · cases h
  | stopLoop loop =>
      simp only [move?] at h
      split at h
      · cases h
        exact Loop.stop_carriesOut (Turn.log_carriesOut hstart _ _ _) loop
      · cases h
  | settleLoop loop reply =>
      simp only [move?] at h
      split at h
      · exact Loop.settle?_carriesOut hstart h
      · cases h
  | cancel loop =>
      simp only [move?, Option.ite_none_right_eq_some, Option.some.injEq] at h
      rw [← h.2]
      exact Turn.cancel_carriesOut hstart loop
  | advance span =>
      cases h
      exact .nil

theorem step?_carriesOut {move : Move} (h : system.step? setup move = some turn) :
    CarriesOut setup turn.happened := by
  obtain ⟨before, hmove, rfl⟩ := Option.map_eq_some_iff.1 h
  exact Turn.closeUnused_carriesOut (move?_carriesOut hmove)

/-- In every run the identity provider gets to do what it is asked for, and nothing else. -/
theorem run?_carriesOut {moves : List Move} (h : system.run? setup moves = some turn) :
    CarriesOut setup turn.happened := by
  induction moves generalizing system turn with
  | nil =>
      cases h
      exact .nil
  | cons move rest ih =>
      obtain ⟨first, later, hstep, hrest, rfl⟩ := run?_cons.1 h
      exact (step?_carriesOut hstep).append (ih hrest)

end System

end AdminAccess
