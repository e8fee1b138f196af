import AdminAccess.Proofs.Pipeline

/-! # The order of layers

A pipeline is built from the inside out: every layer wraps the service inside it, and the
innermost service sends the request.  `PipelineBuilder.build` builds it so, and a call of what is
built goes as `Pipeline.run` says.  Observers at the doors of the layers see it enter them in
order, up to the first one that answers, and leave the same ones in reverse order.
-/

namespace AdminAccess

abbrev Service (σ : Type) := σ → CallContext → Trace × Reply

namespace Layer

variable {σ : Type} {elapsed : Nat}

/-- The service that a layer makes of the one inside it, for calls that take a given time. -/
def around (elapsed : Nat) (layer : Layer σ) (inner : Service σ) : Service σ := fun view context =>
  match layer.inward view context with
  | (trace, .answer reply) => (trace, reply)
  | (trace, .proceed changed) =>
    let reached := inner view changed
    let out := layer.outward elapsed context reached.2
    (trace ++ reached.1 ++ out.1, out.2)

theorem around_answer {layer : Layer σ} {inner : Service σ} {view : σ} {context : CallContext}
    {trace : Trace} {reply : Reply} (h : layer.inward view context = (trace, .answer reply)) :
    layer.around elapsed inner view context = (trace, reply) := by
  simp only [around, h]

theorem around_proceed {layer : Layer σ} {inner : Service σ} {view : σ}
    {context changed : CallContext} {trace : Trace}
    (h : layer.inward view context = (trace, .proceed changed)) :
    layer.around elapsed inner view context =
      (trace ++ (inner view changed).1 ++
          (layer.outward elapsed context (inner view changed).2).1,
        (layer.outward elapsed context (inner view changed).2).2) := by
  simp only [around, h]

/-! ## Observers -/

def entering (layer : Layer σ) : CallEvent :=
  .note ("enter " ++ layer.name)

def leaving (layer : Layer σ) : CallEvent :=
  .note ("leave " ++ layer.name)

/-- A layer as an observer at its door sees it: nothing is noted but that calls enter and
leave. -/
def watched (layer : Layer σ) : Layer σ where
  name := layer.name
  inward view context :=
    match (layer.inward view context).2 with
    | .proceed changed => ([layer.entering], .proceed changed)
    | .answer reply => ([layer.entering, layer.leaving], .answer reply)
  outward elapsed context reply := ([layer.leaving], (layer.outward elapsed context reply).2)

theorem watched_inward_proceed {layer : Layer σ} {view : σ} {context changed : CallContext}
    (h : (layer.inward view context).2 = .proceed changed) :
    layer.watched.inward view context = ([layer.entering], .proceed changed) := by
  simp only [watched, h]

theorem watched_inward_answer {layer : Layer σ} {view : σ} {context : CallContext}
    {reply : Reply} (h : (layer.inward view context).2 = .answer reply) :
    layer.watched.inward view context =
      ([layer.entering, layer.leaving], .answer reply) := by
  simp only [watched, h]

end Layer

/-! ## Building -/

/-- The layers added so far, the outermost first. -/
structure PipelineBuilder (σ : Type) where
  layers : List (Layer σ)

/-- A pipeline that is ready for calls, and what it says of its layers. -/
structure BuiltPipeline (σ : Type) where
  names : List String
  service : Service σ

namespace PipelineBuilder

variable {σ : Type}

def add (builder : PipelineBuilder σ) (layer : Layer σ) : PipelineBuilder σ :=
  ⟨builder.layers ++ [layer]⟩

def ofLayers (layers : List (Layer σ)) : PipelineBuilder σ :=
  layers.foldl add ⟨[]⟩

def dispatch (send : Request → Reply) : Service σ := fun _ context =>
  ([.sent context.request], send context.request)

/-- The names are collected first; then the last layer is wrapped around the innermost service,
and so on outward. -/
def build (builder : PipelineBuilder σ) (elapsed : Nat) (send : Request → Reply) :
    BuiltPipeline σ where
  names := builder.layers.map (·.name)
  service :=
    builder.layers.reverse.foldl (fun service layer => layer.around elapsed service)
      (dispatch send)

theorem foldl_add (builder : PipelineBuilder σ) (layers : List (Layer σ)) :
    (layers.foldl add builder).layers = builder.layers ++ layers := by
  induction layers generalizing builder with
  | nil => exact (List.append_nil _).symm
  | cons layer rest ih =>
      calc ((layer :: rest).foldl add builder).layers
        _ = (builder.layers ++ [layer]) ++ rest := ih (builder.add layer)
        _ = builder.layers ++ layer :: rest := by rw [List.append_assoc, List.singleton_append]

theorem ofLayers_layers (layers : List (Layer σ)) : (ofLayers layers).layers = layers :=
  foldl_add ⟨[]⟩ layers

end PipelineBuilder

namespace Pipeline

variable {σ : Type} {elapsed : Nat}

/-- The service of layers that are added one after the other. -/
def build (layers : List (Layer σ)) (elapsed : Nat) (send : Request → Reply) : Service σ :=
  ((PipelineBuilder.ofLayers layers).build elapsed send).service

theorem build_cons (layer : Layer σ) (inner : List (Layer σ)) (send : Request → Reply) :
    build (layer :: inner) elapsed send = layer.around elapsed (build inner elapsed send) := by
  simp only [build, PipelineBuilder.build, PipelineBuilder.ofLayers_layers, List.reverse_cons,
    List.foldl_append]
  rfl

theorem outward_append (inner outer : Entered σ) (reply : Reply) :
    outward elapsed (inner ++ outer) reply =
      ((outward elapsed inner reply).1 ++ (outward elapsed outer (outward elapsed inner reply).2).1,
        (outward elapsed outer (outward elapsed inner reply).2).2) := by
  induction inner generalizing reply with
  | nil => rfl
  | cons stop rest ih =>
      obtain ⟨layer, context⟩ := stop
      have hrest := ih (layer.outward elapsed context reply).2
      simp only [List.cons_append, outward, hrest, List.append_assoc]

/-- The outermost layer of a run wraps the run through the others. -/
theorem run_cons (layer : Layer σ) (inner : List (Layer σ)) (view : σ) (elapsed : Nat)
    (send : Request → Reply) (context : CallContext) :
    run (layer :: inner) view elapsed send context =
      layer.around elapsed (fun view => run inner view elapsed send) view context := by
  rcases hlayer : layer.inward view context with ⟨trace, changed | reply⟩
  · rw [Layer.around_proceed hlayer]
    cases hcourse : (inward view inner changed).course with
    | proceed last | answer last =>
        simp [run, inward, hlayer, hcourse, outward_append, outward, List.append_assoc]
  · rw [Layer.around_answer hlayer]
    simp [run, inward, hlayer, outward]

/-- Calls of the service that is built go through the layers as in a run. -/
theorem build_eq_run (layers : List (Layer σ)) (view : σ) (elapsed : Nat)
    (send : Request → Reply) (context : CallContext) :
    build layers elapsed send view context = run layers view elapsed send context := by
  induction layers generalizing view context with
  | nil => rfl
  | cons layer inner ih =>
      have hinner : build inner elapsed send = fun view => run inner view elapsed send := by
        funext other call
        exact ih other call
      rw [build_cons, hinner, run_cons]

/-! ## What layers make of calls and replies -/

/-- The call as layers one after the other change it, if they all let it pass. -/
def passed? (view : σ) : List (Layer σ) → CallContext → Option CallContext
  | [], context => some context
  | layer :: inner, context =>
    match (layer.inward view context).2 with
    | .proceed changed => passed? view inner changed
    | .answer _ => none

/-- The reply to a call that layers have let pass, as they change it, the last one first. -/
def unwound (view : σ) (elapsed : Nat) : List (Layer σ) → CallContext → Reply → Reply
  | [], _, reply => reply
  | layer :: inner, context, reply =>
    match (layer.inward view context).2 with
    | .proceed changed =>
      (layer.outward elapsed context (unwound view elapsed inner changed reply)).2
    | .answer _ => reply

theorem passed?_cons {view : σ} {layer : Layer σ} {inner : List (Layer σ)}
    {context last : CallContext} (h : passed? view (layer :: inner) context = some last) :
    ∃ changed, (layer.inward view context).2 = .proceed changed ∧
      passed? view inner changed = some last := by
  cases hlayer : (layer.inward view context).2 with
  | proceed changed =>
      simp only [passed?, hlayer] at h
      exact ⟨changed, rfl, h⟩
  | answer reply =>
      simp only [passed?, hlayer] at h
      cases h

theorem unwound_cons {view : σ} {layer : Layer σ} {context changed : CallContext}
    (h : (layer.inward view context).2 = .proceed changed) (inner : List (Layer σ))
    (reply : Reply) :
    unwound view elapsed (layer :: inner) context reply =
      (layer.outward elapsed context (unwound view elapsed inner changed reply)).2 := by
  simp only [unwound, h]

/-- All layers let a call pass, or there is a first one that answers it. -/
theorem passes_or_answers (view : σ) (layers : List (Layer σ)) (context : CallContext) :
    (∃ last, passed? view layers context = some last) ∨
      ∃ before answering after here reply, layers = before ++ answering :: after ∧
        passed? view before context = some here ∧
        (answering.inward view here).2 = .answer reply := by
  induction layers generalizing context with
  | nil => exact .inl ⟨context, rfl⟩
  | cons layer inner ih =>
      cases hlayer : (layer.inward view context).2 with
      | answer reply => exact .inr ⟨[], layer, inner, context, reply, rfl, rfl, hlayer⟩
      | proceed changed =>
          have hpassed : ∀ layers, passed? view (layer :: layers) context =
              passed? view layers changed := by
            intro layers
            simp only [passed?, hlayer]
          obtain ⟨last, hlast⟩ | ⟨before, answering, after, here, reply, rfl, hhere, hanswer⟩ :=
            ih changed
          · exact .inl ⟨last, (hpassed inner).trans hlast⟩
          · exact .inr ⟨layer :: before, answering, after, here, reply, rfl,
              (hpassed before).trans hhere, hanswer⟩

/-! ## Services whose outer layers let a call pass -/

/-- What a service of layers does with a call that the outer ones let pass is what the inner ones
do with the call as it comes to them, with the reply changed on its way back. -/
theorem build_reply_passed {view : σ} {outer : List (Layer σ)} {context here : CallContext}
    (hpassed : passed? view outer context = some here) (inner : List (Layer σ))
    (elapsed : Nat) (send : Request → Reply) :
    (build (outer ++ inner) elapsed send view context).2 =
      unwound view elapsed outer context (build inner elapsed send view here).2 := by
  induction outer generalizing context with
  | nil =>
      cases hpassed
      rfl
  | cons layer rest ih =>
      obtain ⟨changed, hlayer, hrest⟩ := passed?_cons hpassed
      have hinward : layer.inward view context =
          ((layer.inward view context).1, .proceed changed) := Prod.ext rfl hlayer
      rw [List.cons_append, build_cons, Layer.around_proceed hinward, unwound_cons hlayer,
        ih hrest]

/-- The observers of the outer layers see the call pass in order and the reply in reverse. -/
theorem build_watched_passed {view : σ} {outer : List (Layer σ)} {context here : CallContext}
    (hpassed : passed? view outer context = some here) (inner : List (Layer σ))
    (elapsed : Nat) (send : Request → Reply) :
    build ((outer ++ inner).map Layer.watched) elapsed send view context =
      (outer.map Layer.entering ++ (build (inner.map Layer.watched) elapsed send view here).1 ++
          outer.reverse.map Layer.leaving,
        unwound view elapsed outer context
          (build (inner.map Layer.watched) elapsed send view here).2) := by
  induction outer generalizing context with
  | nil =>
      cases hpassed
      simp [unwound]
  | cons layer rest ih =>
      obtain ⟨changed, hlayer, hrest⟩ := passed?_cons hpassed
      have hinward := Layer.watched_inward_proceed hlayer
      rw [List.cons_append, List.map_cons, build_cons, Layer.around_proceed hinward, ih hrest,
        unwound_cons hlayer]
      simp [Layer.watched]

/-- A layer that answers is entered and left, whatever is inside it. -/
theorem build_answered {view : σ} {answering : Layer σ} {here : CallContext} {reply : Reply}
    (hanswer : (answering.inward view here).2 = .answer reply) (inner : List (Layer σ))
    (elapsed : Nat) (send : Request → Reply) :
    (build (answering :: inner) elapsed send view here).2 = reply ∧
      build ((answering :: inner).map Layer.watched) elapsed send view here =
        ([answering.entering, answering.leaving], reply) := by
  have hinward : answering.inward view here =
      ((answering.inward view here).1, .answer reply) := Prod.ext rfl hanswer
  constructor
  · rw [build_cons, Layer.around_answer hinward]
  · rw [List.map_cons, build_cons,
      Layer.around_answer (Layer.watched_inward_answer hanswer)]

/-- A call of the service built from layers that are added one after the other enters them in
order.  If all let it pass, the transport gets the request once, with the changes of all of them,
and the reply leaves all layers in reverse order.  If one answers, the call enters the layers up to
the first such one, leaves just these in reverse order, and the transport is not called.  In both
cases the answer is what the layers left make of it, the innermost first, and the names that are
collected are those of the layers, in order. -/
theorem build_enters_in_order_leaves_in_reverse {σ : Type} (client : Client σ) (view : σ)
    (elapsed : Nat) (send : Request → Reply) (context : CallContext) :
    let built := (PipelineBuilder.ofLayers client.layers).build elapsed send
    let watched := (PipelineBuilder.ofLayers (client.layers.map Layer.watched)).build elapsed send
    built.names = client.layers.map (·.name) ∧ client.layerNames = built.names ∧
    built.service view context = run client.layers view elapsed send context ∧
    ((∃ last, passed? view client.layers context = some last ∧
        (built.service view context).2 =
          unwound view elapsed client.layers context (send last.request) ∧
        watched.service view context =
          (client.layers.map Layer.entering ++ .sent last.request ::
              client.layers.reverse.map Layer.leaving,
            unwound view elapsed client.layers context (send last.request))) ∨
      ∃ before answering after here reply, client.layers = before ++ answering :: after ∧
        passed? view before context = some here ∧
        (answering.inward view here).2 = .answer reply ∧
        (built.service view context).2 = unwound view elapsed before context reply ∧
        watched.service view context =
          ((before ++ [answering]).map Layer.entering ++
              (before ++ [answering]).reverse.map Layer.leaving,
            unwound view elapsed before context reply)) := by
  intro built watched
  have hnames : built.names = client.layers.map (·.name) :=
    congrArg (List.map _) (PipelineBuilder.ofLayers_layers client.layers)
  refine ⟨hnames, hnames.symm, build_eq_run client.layers view elapsed send context, ?_⟩
  have hbuilt : built.service = build client.layers elapsed send := rfl
  have hwatches : watched.service = build (client.layers.map Layer.watched) elapsed send := rfl
  rw [hbuilt, hwatches]
  obtain ⟨last, hlast⟩ | ⟨before, answering, after, here, reply, hlayers, hhere, hanswer⟩ :=
    passes_or_answers view client.layers context
  · have hreply := build_reply_passed hlast [] elapsed send
    have hwatched := build_watched_passed hlast [] elapsed send
    rw [List.append_nil] at hreply hwatched
    refine .inl ⟨last, hlast, hreply, ?_⟩
    rw [hwatched, List.append_assoc]
    rfl
  · obtain ⟨hreply, hseen⟩ := build_answered hanswer after elapsed send
    refine .inr ⟨before, answering, after, here, reply, hlayers, hhere, hanswer, ?_, ?_⟩
    · rw [hlayers, build_reply_passed hhere, hreply]
    · rw [hlayers, build_watched_passed hhere, hseen]
      simp

/-- Two recorders around a layer that answers. -/
example (elapsed : Nat) (send : Request → Reply) (context : CallContext) :
    (build ([Layer.recorder (fun _ => "failure") "first",
      Layer.recorder (fun _ => "failure") "second", Layer.canned (.error .timeout),
        Layer.logging .info].map Layer.watched) elapsed send () context).1 =
      [.note "enter first", .note "enter second", .note "enter canned", .note "leave canned",
        .note "leave second", .note "leave first"] := rfl

end Pipeline

end AdminAccess
