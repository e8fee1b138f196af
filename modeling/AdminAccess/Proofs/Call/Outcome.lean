import AdminAccess.Proofs.Pipeline.Order

/-! # What a call comes to

Behind layers that only log or send a token, a call makes exactly one request, and the reply to it
decides what the caller gets.  A call without a path or an address does nothing at all.  What is
expected of the answer matters only for a reply with success.
-/

namespace AdminAccess

/-- The same request up to its header fields. -/
structure Request.SameTarget (request other : Request) : Prop where
  method : other.method = request.method
  url : other.url = request.url
  body : other.body = request.body

theorem Request.SameTarget.trans {request middle other : Request}
    (hfirst : request.SameTarget middle) (hsecond : middle.SameTarget other) :
    request.SameTarget other :=
  ⟨hsecond.method.trans hfirst.method, hsecond.url.trans hfirst.url,
    hsecond.body.trans hfirst.body⟩

namespace Layer

variable {σ : Type}

/-- The layers that come with the client, under any name. -/
inductive IsBundled : Layer σ → Prop
  | logging (name : String) (detail : LoggingDetail) : IsBundled ((logging detail).rename name)
  | bearer (name : String) (source : σ → Option String) :
      IsBundled ((bearer source).rename name)

theorem bearer_inward (name : String) (source : σ → Option String) (view : σ)
    (context : CallContext) :
    ((bearer source).rename name).inward view context =
      ([], .proceed (Pipeline.authorized (source view) context)) := by
  cases hsource : source view <;>
    simp [rename, bearer, editing, Pipeline.authorized, hsource]

/-- A bundled layer makes no request of its own, lets every call pass with at most other header
fields, and hands every reply on as it is. -/
theorem IsBundled.passes {layer : Layer σ} (h : layer.IsBundled) (view : σ)
    (context : CallContext) :
    ∃ trace changed, layer.inward view context = (trace, .proceed changed) ∧
      Trace.requests trace = [] ∧ context.request.SameTarget changed.request ∧
      ∀ elapsed reply, ∃ after, layer.outward elapsed context reply = (after, reply) ∧
        Trace.requests after = [] := by
  cases h with
  | logging name detail =>
      refine ⟨_, context, rfl, rfl, ⟨rfl, rfl, rfl⟩, fun elapsed reply => ⟨_, rfl, ?_⟩⟩
      cases reply <;> rfl
  | bearer name source =>
      refine ⟨[], _, bearer_inward name source view context, rfl, ?_,
        fun elapsed reply => ⟨_, rfl, rfl⟩⟩
      cases source view <;> exact ⟨rfl, rfl, rfl⟩

theorem isBundled_of_defaults (source : σ → Option String) :
    ∀ layer ∈ defaults source, layer.IsBundled := by
  intro layer hmem
  simp only [defaults, List.mem_cons, List.not_mem_nil, or_false] at hmem
  obtain rfl | rfl := hmem
  · exact .logging "logging" .info
  · exact .bearer "bearer_auth" source

end Layer

namespace Pipeline

variable {σ : Type}

/-- Behind bundled layers one request leaves the program, and its reply comes back. -/
theorem run_bundled {layers : List (Layer σ)} (hbundled : ∀ layer ∈ layers, layer.IsBundled)
    (view : σ) (elapsed : Nat) (send : Request → Reply) (context : CallContext) :
    ∃ request, context.request.SameTarget request ∧
      Trace.requests (run layers view elapsed send context).1 = [request] ∧
      (run layers view elapsed send context).2 = send request := by
  induction layers generalizing context with
  | nil => exact ⟨context.request, ⟨rfl, rfl, rfl⟩, rfl, rfl⟩
  | cons layer inner ih =>
      obtain ⟨trace, changed, hinward, htrace, hsame, houtward⟩ :=
        (hbundled layer List.mem_cons_self).passes view context
      obtain ⟨request, hrequest, hsent, hreply⟩ :=
        ih (fun layer hmem => hbundled layer (List.mem_cons_of_mem _ hmem)) changed
      obtain ⟨after, hout, hafter⟩ := houtward elapsed (run inner view elapsed send changed).2
      rw [run_cons, Layer.around_proceed hinward, hout]
      refine ⟨request, hsame.trans hrequest, ?_, hreply⟩
      simp only [Trace.requests_append, htrace, hsent, hafter, List.nil_append, List.append_nil]

end Pipeline

namespace Client

variable {σ : Type} {client : Client σ} {operation : Operation} {params : Params}

/-! ## From the operation to the request -/

theorem context_of_path_fault {failure : Failure}
    (hpath : operation.resolvePath params = .error failure) :
    client.context operation params = .error failure := by
  rw [context, hpath]

theorem context_of_url_fault {path : String} {fault : UrlFault}
    (hpath : operation.resolvePath params = .ok path)
    (hurl : Url.parse client.names (client.root ++ path) = .error fault) :
    client.context operation params = .error (.invalidUrl fault) := by
  simp only [context, hpath, hurl]

theorem context_of_url {path : String} {url : Url}
    (hpath : operation.resolvePath params = .ok path)
    (hurl : Url.parse client.names (client.root ++ path) = .ok url) :
    client.context operation params =
      .ok ⟨operation, params, request operation params url⟩ := by
  simp only [context, hpath, hurl]

/-! ## From the reply to the result -/

variable (view : σ) (elapsed : Nat) (send : Request → Reply)

theorem call_of_no_context {failure : Failure}
    (hcontext : client.context operation params = .error failure) :
    client.call view elapsed send operation params = ([], .error failure) := by
  rw [call, hcontext]

theorem call_of_context {context : CallContext}
    (hcontext : client.context operation params = .ok context) :
    client.call view elapsed send operation params =
      ((Pipeline.run client.layers view elapsed send context).1,
        checked (Pipeline.run client.layers view elapsed send context).2) := by
  rw [call, hcontext]

/-- Exactly the replies with success are let through, as they are. -/
theorem checked_eq_ok_iff {reply : Reply} {response : Response} :
    checked reply = .ok response ↔
      reply = .ok response ∧ 200 ≤ response.status ∧ response.status ≤ 299 := by
  rw [← Response.isSuccess_iff]
  cases reply with
  | error failure => simp [checked]
  | ok found =>
      by_cases hsuccess : found.isSuccess = true
      · simp only [checked, hsuccess, if_true, Except.ok.injEq]
        constructor
        · rintro rfl
          exact ⟨rfl, hsuccess⟩
        · exact fun h => h.1
      · simp only [checked, hsuccess, Bool.false_eq_true, if_false, Except.ok.injEq]
        constructor
        · exact nofun
        · rintro ⟨rfl, hfound⟩
          exact absurd hfound hsuccess

theorem checked_of_other_status {response : Response}
    (hstatus : ¬ (200 ≤ response.status ∧ response.status ≤ 299)) :
    ∃ reason, checked (.ok response) =
      .error (.http response.status reason (some response.body)) := by
  rw [← Response.isSuccess_iff] at hstatus
  exact ⟨_, by rw [checked, if_neg hstatus]⟩

end Client

theorem Envelope.intoData_eq_ok_iff {α : Type} {envelope : Envelope α} {data : α} :
    envelope.intoData = .ok data ↔ envelope.data = some data := by
  unfold Envelope.intoData
  cases envelope.data <;> simp

namespace Expectation

theorem conclude_success_iff {reply : Reply} :
    Expectation.success.conclude reply = .ok () ↔ ∃ response, reply = .ok response := by
  cases reply with
  | error failure => simp [conclude, Except.map]
  | ok response => simp [conclude, Except.map]

/-- Data comes of a response whose payload is an envelope with these data. -/
theorem conclude_data_iff {α : Type} {shape : Shape α} {reply : Reply} {data : α} :
    (Expectation.data shape).conclude reply = .ok data ↔
      ∃ response envelope, reply = .ok response ∧
        (Envelope.shape shape).decodePayload response.body = .ok envelope ∧
        envelope.data = some data := by
  cases reply with
  | error failure => simp [conclude]
  | ok response =>
      simp only [conclude, Response.json, Except.ok.injEq, exists_and_left, exists_eq_left']
      cases (Envelope.shape shape).decodePayload response.body with
      | error failure => simp
      | ok envelope => simp [Envelope.intoData_eq_ok_iff]

end Expectation

namespace Client

/-- A call through bundled layers whose path cannot be filled, or whose address cannot be read,
ends with that fault; nothing is sent and nothing is logged.  Any other one makes a single
request, whatever the reply: a reply with a status from 200 to 299 is the result as it is, another
status is a failure with this status and the payload of the reply, and a failed exchange is the
failure of the call.  Success alone is expected of exactly the calls with a result, and data are
those in the envelope that the payload of the result is read as. -/
theorem call_makes_one_request {σ : Type} (client : Client σ)
    (hbundled : ∀ layer ∈ client.layers, layer.IsBundled) (view : σ) (elapsed : Nat)
    (send : Request → Reply) (operation : Operation) (params : Params) :
    (∀ failure, operation.resolvePath params = .error failure →
      client.call view elapsed send operation params = ([], .error failure)) ∧
    (∀ path fault, operation.resolvePath params = .ok path →
      Url.parse client.names (client.root ++ path) = .error fault →
      client.call view elapsed send operation params = ([], .error (.invalidUrl fault))) ∧
    (∀ path url, operation.resolvePath params = .ok path →
      Url.parse client.names (client.root ++ path) = .ok url →
      ∃ sent, (request operation params url).SameTarget sent ∧
        Trace.requests (client.call view elapsed send operation params).1 = [sent] ∧
        (∀ response, (client.call view elapsed send operation params).2 = .ok response ↔
          send sent = .ok response ∧ 200 ≤ response.status ∧ response.status ≤ 299) ∧
        (∀ response, send sent = .ok response →
          ¬ (200 ≤ response.status ∧ response.status ≤ 299) →
          ∃ reason, (client.call view elapsed send operation params).2 =
            .error (.http response.status reason (some response.body))) ∧
        (∀ failure, send sent = .error failure →
          (client.call view elapsed send operation params).2 = .error failure)) ∧
    ((client.run view elapsed send ⟨operation, params, .success⟩).2 = .ok () ↔
      ∃ response, (client.call view elapsed send operation params).2 = .ok response) ∧
    (∀ (α : Type) (shape : Shape α) (data : α),
      (client.run view elapsed send ⟨operation, params, .data shape⟩).2 = .ok data ↔
        ∃ response envelope, (client.call view elapsed send operation params).2 = .ok response ∧
          (Envelope.shape shape).decodePayload response.body = .ok envelope ∧
          envelope.data = some data) ∧
    (∀ (α : Type) (expects : Expectation α),
      (client.run view elapsed send ⟨operation, params, expects⟩).1 =
        (client.call view elapsed send operation params).1) := by
  refine ⟨fun failure hpath => ?_, fun path fault hpath hurl => ?_, fun path url hpath hurl => ?_,
    Expectation.conclude_success_iff, fun α shape data => ?_, fun α expects => rfl⟩
  · exact call_of_no_context view elapsed send (context_of_path_fault hpath)
  · exact call_of_no_context view elapsed send (context_of_url_fault hpath hurl)
  · rw [call_of_context view elapsed send (context_of_url hpath hurl)]
    obtain ⟨sent, hsame, hsent, hreply⟩ := Pipeline.run_bundled hbundled view elapsed send
      ⟨operation, params, request operation params url⟩
    rw [hreply]
    refine ⟨sent, hsame, hsent, fun response => checked_eq_ok_iff,
      fun response hresponse hstatus => ?_, fun failure hfailure => ?_⟩
    · rw [hresponse]
      exact checked_of_other_status hstatus
    · rw [hfailure]
      rfl
  · show
      (Expectation.data shape).conclude (client.call view elapsed send operation params).2 = _ ↔ _
    exact Expectation.conclude_data_iff

/-- Through the standard layers to a server that is moving. -/
def movingReply : Reply :=
  .ok ⟨300, .empty, Utf8.encode "moved"⟩

/-- A status just behind the ones with success is a failure, and the call is not made again. -/
theorem movingReply_failed :
    ∃ sent reason, sent.url.path = .segments ["users"] ∧
      Trace.requests ((⟨"http://admin", Layer.defaults id, .ascii⟩ : Client (Option String)).call
        (some "t") 12 (fun _ => movingReply) ⟨"users", "list", .get, "/users"⟩ .empty).1 = [sent] ∧
      ((⟨"http://admin", Layer.defaults id, .ascii⟩ : Client (Option String)).call
        (some "t") 12 (fun _ => movingReply) ⟨"users", "list", .get, "/users"⟩ .empty).2 =
          .error (.http 300 reason (some (Utf8.encode "moved"))) := by
  obtain ⟨url, hurl, hpath⟩ : ∃ url, Url.parse .ascii ("http://admin" ++ "/users") = .ok url ∧
      url.path = .segments ["users"] := ⟨_, rfl, rfl⟩
  obtain ⟨-, -, hcall, -⟩ := call_makes_one_request
    (⟨"http://admin", Layer.defaults id, .ascii⟩ : Client (Option String))
    (Layer.isBundled_of_defaults id) (some "t") 12 (fun _ => movingReply)
    ⟨"users", "list", .get, "/users"⟩ .empty
  obtain ⟨sent, hsame, hsent, -, hother, -⟩ := hcall "/users" url rfl hurl
  obtain ⟨reason, hfailed⟩ := hother _ rfl (by decide)
  exact ⟨sent, reason, hsame.url ▸ hpath, hsent, hfailed⟩

end Client

end AdminAccess
