import AdminAccess.Proofs.Pipeline.Order

/-! # What logging layers add

Logging layers may stand anywhere among other layers.  Without them the other layers see the same
calls and replies, the transport gets the same requests and the caller the same reply.  The
records of a logging layer that a call enters stand around everything that happens inside it.
-/

namespace AdminAccess

namespace Trace

def unlogged (trace : Trace) : Trace :=
  trace.filter fun
    | .log _ => false
    | _ => true

@[simp] theorem unlogged_append (trace more : Trace) :
    unlogged (trace ++ more) = unlogged trace ++ unlogged more :=
  List.filter_append _ _

@[simp] theorem unlogged_log (record : LogRecord) (trace : Trace) :
    unlogged (.log record :: trace) = unlogged trace := rfl

@[simp] theorem unlogged_logs (records : List LogRecord) :
    unlogged (records.map .log) = [] := by
  induction records with
  | nil => rfl
  | cons record rest ih => exact ih

theorem requests_unlogged (trace : Trace) : requests (unlogged trace) = requests trace := by
  induction trace with
  | nil => rfl
  | cons event rest ih =>
      cases event with
      | log => exact ih
      | note => exact ih
      | sent request => exact congrArg (request :: ·) ih

end Trace

/-- A place in a list of layers in which the logging layers are told from the others. -/
inductive Station (σ : Type) where
  | log (name : String) (detail : LoggingDetail)
  | other (layer : Layer σ)

namespace Station

variable {σ : Type}

def layer : Station σ → Layer σ
  | .log name detail => (Layer.logging detail).rename name
  | .other layer => layer

def other? : Station σ → Option (Layer σ)
  | .log _ _ => none
  | .other layer => some layer

def layers (stations : List (Station σ)) : List (Layer σ) :=
  stations.map layer

/-- The layers that are left when the logging layers are removed. -/
def others (stations : List (Station σ)) : List (Layer σ) :=
  stations.filterMap other?

theorem layers_append (outer inner : List (Station σ)) :
    layers (outer ++ inner) = layers outer ++ layers inner :=
  List.map_append

end Station

namespace Layer

variable {detail : LoggingDetail} {context : CallContext} {elapsed : Nat} {reply : Reply}

inductive Opens (detail : LoggingDetail) (context : CallContext) : LogRecord → Prop
  | calling : Opens detail context
      { level := detail.level
        message := "calling " ++ (context.operation.endpoint ++ " " ++ context.operation.name)
        fields := [("params", context.params.text), ("method", context.request.method.text),
          ("url", context.request.url.text)]
        span := some ⟨context.operation.endpoint, context.operation.name⟩ }

inductive ShowsBody (context : CallContext) (response : Response) : LogRecord → Prop
  | body : ShowsBody context response
      { level := .debug
        message := context.operation.endpoint ++ " " ++ context.operation.name ++ " response body"
        fields := [("body", response.textLossy)]
        span := some ⟨context.operation.endpoint, context.operation.name⟩ }

/-- What the log says when the reply to a call has come: that it is completed, that there is an HTTP
error, or that it has failed, and then the payload if there is a response. -/
inductive Closes (detail : LoggingDetail) (context : CallContext) (elapsed : Nat) :
    Reply → List LogRecord → Prop
  | completed {response : Response} {body : LogRecord}
      (hstatus : 200 ≤ response.status ∧ response.status ≤ 299)
      (hbody : ShowsBody context response body) :
      Closes detail context elapsed (.ok response)
        [{ level := detail.level
           message := context.operation.endpoint ++ " " ++ context.operation.name ++ " completed"
           fields := [("status", toString response.status), elapsedField elapsed]
           span := some ⟨context.operation.endpoint, context.operation.name⟩ }, body]
  | httpError {response : Response} {body : LogRecord}
      (hstatus : ¬ (200 ≤ response.status ∧ response.status ≤ 299))
      (hbody : ShowsBody context response body) :
      Closes detail context elapsed (.ok response)
        [{ level := .warn
           message := context.operation.endpoint ++ " " ++ context.operation.name ++
             " returned an HTTP error"
           fields := [("status", toString response.status), elapsedField elapsed]
           span := some ⟨context.operation.endpoint, context.operation.name⟩ }, body]
  | failed {failure : Failure} :
      Closes detail context elapsed (.error failure)
        [{ level := .warn
           message := context.operation.endpoint ++ " " ++ context.operation.name ++ " failed"
           fields := [("error", failure.message), elapsedField elapsed]
           span := some ⟨context.operation.endpoint, context.operation.name⟩ }]

/-- All that a logging layer writes when the reply has come. -/
def closingRecords (detail : LoggingDetail) (context : CallContext) (elapsed : Nat) :
    Reply → List LogRecord
  | .ok response =>
    [outcomeRecord detail context elapsed (.ok response), bodyRecord context response]
  | .error failure => [outcomeRecord detail context elapsed (.error failure)]

theorem callingRecord_opens (detail : LoggingDetail) (context : CallContext) :
    Opens detail context (callingRecord detail context) :=
  .calling

theorem bodyRecord_showsBody (context : CallContext) (response : Response) :
    ShowsBody context response (bodyRecord context response) :=
  .body

theorem closingRecords_closes (detail : LoggingDetail) (context : CallContext) (elapsed : Nat)
    (reply : Reply) :
    Closes detail context elapsed reply (closingRecords detail context elapsed reply) := by
  cases reply with
  | error failure => exact .failed
  | ok response =>
      by_cases hstatus : 200 ≤ response.status ∧ response.status ≤ 299
      · have hsuccess := response.isSuccess_iff.2 hstatus
        simp only [closingRecords, outcomeRecord, hsuccess, if_true]
        exact .completed hstatus (bodyRecord_showsBody context response)
      · have hother : response.isSuccess = false :=
          Bool.eq_false_iff.2 (mt response.isSuccess_iff.1 hstatus)
        simp only [closingRecords, outcomeRecord, hother, Bool.false_eq_true, if_false]
        exact .httpError hstatus (bodyRecord_showsBody context response)

theorem Opens.span {record : LogRecord} (h : Opens detail context record) :
    record.span = some ⟨context.operation.endpoint, context.operation.name⟩ := by
  cases h
  rfl

theorem Closes.span {records : List LogRecord} (h : Closes detail context elapsed reply records) :
    ∀ record ∈ records, record.span =
      some ⟨context.operation.endpoint, context.operation.name⟩ := by
  cases h with
  | completed hstatus hbody | httpError hstatus hbody =>
      cases hbody
      simp
  | failed => simp

end Layer

namespace Pipeline

open Station (layers others)

variable {σ : Type} (view : σ) (elapsed : Nat) (send : Request → Reply)

/-! ## One logging layer -/

/-- A logging layer writes before and after everything inside it, and changes nothing. -/
theorem run_log (name : String) (detail : LoggingDetail) (inner : List (Layer σ))
    (context : CallContext) :
    run ((Layer.logging detail).rename name :: inner) view elapsed send context =
      (.log (Layer.callingRecord detail context) :: (run inner view elapsed send context).1 ++
          (Layer.closingRecords detail context elapsed
            (run inner view elapsed send context).2).map .log,
        (run inner view elapsed send context).2) := by
  have hproceeds : ((Layer.logging detail).rename name).inward view context =
      ([.log (Layer.callingRecord detail context)], .proceed context) := rfl
  rw [run_cons, Layer.around_proceed hproceeds]
  cases (run inner view elapsed send context).2 <;> rfl

/-! ## Without the logging layers -/

/-- The reply, and all that happens apart from the log, do not depend on the logging layers. -/
theorem run_others (stations : List (Station σ)) (context : CallContext) :
    (run (layers stations) view elapsed send context).2 =
        (run (others stations) view elapsed send context).2 ∧
      Trace.unlogged (run (layers stations) view elapsed send context).1 =
        Trace.unlogged (run (others stations) view elapsed send context).1 := by
  induction stations generalizing context with
  | nil => exact ⟨rfl, rfl⟩
  | cons station rest ih =>
      cases station with
      | log name detail =>
          have hrun : run (layers (.log name detail :: rest)) view elapsed send context = _ :=
            run_log view elapsed send name detail (layers rest) context
          obtain ⟨hreply, htrace⟩ := ih context
          rw [hrun]
          refine ⟨hreply, ?_⟩
          simp only [List.cons_append, Trace.unlogged_log, Trace.unlogged_append,
            Trace.unlogged_logs, List.append_nil, htrace]
          rfl
      | other layer =>
          have hfull : run (layers (.other layer :: rest)) view elapsed send context = _ :=
            run_cons layer (layers rest) view elapsed send context
          have hbare : run (others (.other layer :: rest)) view elapsed send context = _ :=
            run_cons layer (others rest) view elapsed send context
          rcases hlayer : layer.inward view context with ⟨trace, changed | reply⟩
          · obtain ⟨hreply, htrace⟩ := ih changed
            rw [hfull, hbare, Layer.around_proceed hlayer, Layer.around_proceed hlayer, hreply]
            refine ⟨rfl, ?_⟩
            simp only [Trace.unlogged_append, htrace]
          · rw [hfull, hbare, Layer.around_answer hlayer, Layer.around_answer hlayer]
            exact ⟨rfl, rfl⟩

/-- Logging layers let every call pass as it is. -/
theorem passed?_others (stations : List (Station σ)) (context : CallContext) :
    passed? view (layers stations) context = passed? view (others stations) context := by
  induction stations generalizing context with
  | nil => rfl
  | cons station rest ih =>
      cases station with
      | log name detail => exact ih context
      | other layer =>
          simp only [layers, others, List.map_cons, List.filterMap_cons, Station.layer,
            Station.other?, passed?]
          cases (layer.inward view context).2 with
          | proceed changed => exact ih changed
          | answer reply => rfl

/-! ## Behind outer layers -/

/-- The run of a call that the outer layers let pass: what they do on the way in, the run through
the inner layers, and what the outer ones do on the way out. -/
theorem run_passed {outer : List (Layer σ)} {context here : CallContext}
    (hpassed : passed? view outer context = some here) (inner : List (Layer σ)) :
    run (outer ++ inner) view elapsed send context =
      ((inward view outer context).trace ++ (run inner view elapsed send here).1 ++
          (outward elapsed (inward view outer context).entered
            (run inner view elapsed send here).2).1,
        (outward elapsed (inward view outer context).entered
          (run inner view elapsed send here).2).2) := by
  induction outer generalizing context with
  | nil =>
      cases hpassed
      simp [inward, outward]
  | cons layer rest ih =>
      obtain ⟨changed, hlayer, hrest⟩ := passed?_cons hpassed
      have hinward : layer.inward view context =
          ((layer.inward view context).1, .proceed changed) := Prod.ext rfl hlayer
      rw [List.cons_append, run_cons, Layer.around_proceed hinward, ih hrest, inward, hinward]
      simp only [outward_append, outward, List.append_assoc, List.append_nil]

/-- Layers behind one that answers are not reached. -/
theorem run_stopped {outer : List (Layer σ)} {context : CallContext}
    (hstopped : passed? view outer context = none) (inner : List (Layer σ)) :
    run (outer ++ inner) view elapsed send context = run outer view elapsed send context := by
  induction outer generalizing context with
  | nil => cases hstopped
  | cons layer rest ih =>
      rw [List.cons_append, run_cons, run_cons]
      rcases hlayer : layer.inward view context with ⟨trace, changed | reply⟩
      · simp only [passed?, hlayer] at hstopped
        rw [Layer.around_proceed hlayer, Layer.around_proceed hlayer, ih hstopped]
      · rw [Layer.around_answer hlayer, Layer.around_answer hlayer]

/-- Removing the logging layers from a list of layers changes neither the reply nor the requests,
nor anything else that happens apart from the log; every other layer is given the same call and
the same reply.  A logging layer that a call reaches writes that the call begins before, and how
it went behind, everything that the layers inside do: completed for a status of success, an HTTP
error for any other, a failure with its text without a response.  The two records, and the payload
if there is a response, are all it adds, and belong to the span of the call.  So the records of
logging layers inside lie between those of the ones outside.  One that a call does not reach writes
nothing. -/
theorem run_logging_brackets_inner (stations : List (Station σ)) (context : CallContext) :
    ((run (layers stations) view elapsed send context).2 =
        (run (others stations) view elapsed send context).2 ∧
      Trace.requests (run (layers stations) view elapsed send context).1 =
        Trace.requests (run (others stations) view elapsed send context).1 ∧
      Trace.unlogged (run (layers stations) view elapsed send context).1 =
        Trace.unlogged (run (others stations) view elapsed send context).1) ∧
    (∀ outer layer inner, stations = outer ++ .other layer :: inner →
      passed? view (layers outer) context = passed? view (others outer) context ∧
      ∀ changed, (run (layers inner) view elapsed send changed).2 =
        (run (others inner) view elapsed send changed).2) ∧
    (∀ outer name detail inner here, stations = outer ++ .log name detail :: inner →
      passed? view (layers outer) context = some here →
      let inside := run (layers inner) view elapsed send here
      let passage := inward view (layers outer) context
      ∃ opening closing, Layer.Opens detail here opening ∧
        Layer.Closes detail here elapsed inside.2 closing ∧
        (run (layers stations) view elapsed send context).1 =
          passage.trace ++ (.log opening :: inside.1 ++ closing.map .log) ++
            (outward elapsed passage.entered inside.2).1 ∧
        ∀ record ∈ opening :: closing,
          record.span = some ⟨here.operation.endpoint, here.operation.name⟩) ∧
    (∀ outer inner, stations = outer ++ inner → passed? view (layers outer) context = none →
      run (layers stations) view elapsed send context =
        run (layers outer) view elapsed send context) := by
  obtain ⟨hreply, htrace⟩ := run_others view elapsed send stations context
  refine ⟨⟨hreply, ?_, htrace⟩, ?_, ?_, ?_⟩
  · rw [← Trace.requests_unlogged, htrace, Trace.requests_unlogged]
  · intro outer layer inner _
    exact ⟨passed?_others view outer context, fun changed =>
      (run_others view elapsed send inner changed).1⟩
  · rintro outer name detail inner here rfl hreached
    have hopens := Layer.callingRecord_opens detail here
    have hcloses := Layer.closingRecords_closes detail here elapsed
      (run (layers inner) view elapsed send here).2
    refine ⟨_, _, hopens, hcloses, ?_, List.forall_mem_cons.2 ⟨hopens.span, hcloses.span⟩⟩
    have hrun : run (layers (.log name detail :: inner)) view elapsed send here = _ :=
      run_log view elapsed send name detail (layers inner) here
    rw [Station.layers_append, run_passed view elapsed send hreached, hrun]
  · rintro outer inner rfl hstopped
    rw [Station.layers_append]
    exact run_stopped view elapsed send hstopped (layers inner)

/-- A log outside a token layer, and another one inside it. -/
def logsAroundToken : List (Station (Option String)) :=
  [.log "logging" .info, .other (Layer.bearer id), .log "logging" .debug]

def usersCall : CallContext :=
  { (default : CallContext) with operation := ⟨"users", "list", .get, "/users"⟩ }

/-- The log inside sees the call with its token and writes about it in the middle. -/
theorem logsAroundToken_nested :
    ∃ here : CallContext,
      here.request.headers.get? "Authorization" = some "Bearer t" ∧
      (run (layers logsAroundToken) (some "t") 12 (fun _ => .error .timeout) usersCall).1 =
        [.log (Layer.callingRecord .info usersCall),
          .log ⟨.debug, "calling users list", [("params", here.params.text),
            ("method", here.request.method.text), ("url", here.request.url.text)],
            some ⟨"users", "list"⟩⟩,
          .sent here.request,
          .log ⟨.warn, "users list failed",
            [("error", Failure.timeout.message), ("elapsed_ms", "12")], some ⟨"users", "list"⟩⟩,
          .log (Layer.outcomeRecord .info usersCall 12 (.error .timeout))] := by
  obtain ⟨here, hreached, htoken, hoperation⟩ : ∃ here,
      passed? (some "t") (layers [.log "logging" .info, .other (Layer.bearer id)]) usersCall =
        some here ∧ here.request.headers.get? "Authorization" = some "Bearer t" ∧
      here.operation = ⟨"users", "list", .get, "/users"⟩ :=
    ⟨_, rfl, rfl, rfl⟩
  obtain ⟨opening, closing, hopens, hcloses, htrace, -⟩ :=
    (run_logging_brackets_inner (some "t") 12 (fun _ => .error .timeout) logsAroundToken
      usersCall).2.2.1 [.log "logging" .info, .other (Layer.bearer id)] "logging" .debug [] here
        rfl hreached
  have hfailed : (run (layers []) (some "t") 12 (fun _ => .error .timeout) here).2 =
      .error .timeout := rfl
  rw [hfailed] at hcloses
  cases hopens
  cases hcloses
  simp only [hoperation] at htrace
  exact ⟨here, htoken, htrace⟩

end Pipeline

end AdminAccess
