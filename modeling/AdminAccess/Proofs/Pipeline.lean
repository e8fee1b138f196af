import AdminAccess.Client

/-! # Passages of calls

What a call leaves behind on its way through the layers: the layers that it has entered are
layers of the pipeline, and behind the standard layers exactly one request leaves the program,
with the token of the view in its only authorization field.
-/

namespace AdminAccess

namespace Trace

theorem requests_append (trace more : Trace) :
    (trace ++ more).requests = trace.requests ++ more.requests :=
  List.filterMap_append

end Trace

theorem Response.isSuccess_iff (response : Response) :
    response.isSuccess = true ↔ 200 ≤ response.status ∧ response.status ≤ 299 := by
  simp only [isSuccess, Status.isSuccess, Bool.and_eq_true, decide_eq_true_eq]
  omega

namespace Headers

def spellings (headers : Headers) (name : String) : List (String × String) :=
  headers.entries.filter fun entry => sameName entry.1 name

theorem sameName_refl (name : String) : sameName name name = true := by
  simp [sameName]

theorem spellings_insert (headers : Headers) {name other : String} (value : String)
    (hother : sameName other name = false) :
    (headers.insert other value).spellings name = headers.spellings name := by
  have hkept : ∀ entry ∈ headers.entries,
      (sameName entry.1 name && entry.1 != other) = sameName entry.1 name := by
    intro entry _
    cases hsame : sameName entry.1 name with
    | false => rfl
    | true =>
        have hne : entry.1 ≠ other := fun heq => by simp [← heq, hsame] at hother
        simpa using hne
  simp only [spellings, insert, filter, List.filter_append, List.filter_filter, hother,
    List.filter_cons, List.filter_nil, Bool.false_eq_true, if_false, List.append_nil]
  exact List.filter_congr hkept

theorem spellings_replace (headers : Headers) (name value : String) :
    (headers.replace name value).spellings name = [(name, value)] := by
  have hnone : ∀ entry ∈ headers.entries,
      (sameName entry.1 name && (entry.1 != name && !sameName entry.1 name)) = false := by
    intro entry _
    cases sameName entry.1 name <;> simp
  simp only [spellings, replace, insert, filter, List.filter_append, List.filter_filter,
    List.filter_cons, List.filter_nil, sameName_refl, if_true]
  rw [List.filter_eq_nil_iff.2 fun entry hmem => by simp [hnone entry hmem], List.nil_append]

end Headers

namespace Pipeline

variable {σ : Type}

theorem mem_of_entered (view : σ) (layers : List (Layer σ)) (context : CallContext) :
    ∀ stop ∈ (inward view layers context).entered, stop.1 ∈ layers := by
  induction layers generalizing context with
  | nil => intro stop hmem; cases hmem
  | cons layer inner ih =>
      intro stop hmem
      rcases hlayer : layer.inward view context with ⟨trace, changed | reply⟩
      · simp only [inward, hlayer, List.mem_append, List.mem_singleton] at hmem
        rcases hmem with hinner | rfl
        · exact List.mem_cons_of_mem _ (ih changed stop hinner)
        · exact List.mem_cons_self
      · simp only [inward, hlayer] at hmem
        cases hmem

/-- The requests of a call that has gone inward, up to a reply from outside. -/
def Passage.requests (passage : Passage σ) : List Request :=
  passage.trace.requests ++
    match passage.course with
    | .proceed changed => [changed.request]
    | .answer reply => (outward 0 passage.entered reply).1.requests

/-! ## The standard layers -/

def authorized (token : Option String) (context : CallContext) : CallContext :=
  match token with
  | some token => Layer.authorize token context
  | none => context

theorem inward_defaults (source : σ → Option String) (view : σ) (context : CallContext) :
    inward view (Layer.defaults source) context =
      { trace := [.log (Layer.callingRecord .info context)]
        entered := [(Layer.bearer source, context), (Layer.logging .info, context)]
        course := .proceed (authorized (source view) context) } := by
  cases hsource : source view <;>
    simp [inward, Layer.defaults, Layer.logging, Layer.bearer, Layer.editing, authorized, hsource]

/-- Behind the standard layers a call makes one request. -/
theorem requests_defaults (source : σ → Option String) (view : σ) (context : CallContext) :
    (inward view (Layer.defaults source) context).requests =
      [(authorized (source view) context).request] := by
  rw [inward_defaults]
  rfl

theorem outward_defaults_requests (source : σ → Option String) (elapsed : Nat)
    (entered : Entered σ) (reply : Reply)
    (hentered : ∀ stop ∈ entered, stop.1 ∈ Layer.defaults source) :
    (outward elapsed entered reply).1.requests = [] := by
  induction entered generalizing reply with
  | nil => rfl
  | cons stop outer ih =>
      obtain ⟨layer, context⟩ := stop
      have houter := fun reply => ih reply fun stop hmem =>
        hentered stop (List.mem_cons_of_mem _ hmem)
      simp only [outward, Trace.requests_append, houter, List.append_nil]
      have hlayer : layer = Layer.logging .info ∨ layer = Layer.bearer source := by
        simpa [Layer.defaults] using hentered _ List.mem_cons_self
      rcases hlayer with rfl | rfl
      · cases reply <;> rfl
      · rfl

end Pipeline

namespace Request

/-- The fields that a server takes for credentials. -/
def authorizations (request : Request) : List (String × String) :=
  request.headers.spellings Layer.authorizationName

end Request

namespace Client

/-- The request of a call has no other fields than the two that say which forms of payload are
sent and understood. -/
theorem request_spellings (operation : Operation) (params : Params) (url : Url) {name : String}
    (haccept : Headers.sameName "Accept" name = false)
    (htype : Headers.sameName "Content-Type" name = false) :
    (request operation params url).headers.spellings name = [] := by
  have hnew : ((Request.new operation.method url).setHeader "Accept"
      MediaType.json.text).headers.spellings name = [] :=
    (Headers.spellings_insert .empty _ haccept).trans rfl
  have hquery : ∀ request : Request, request.headers.spellings name = [] →
      (request.addQueryPairs params.query).headers.spellings name = [] := by
    intro request hnone
    unfold Request.addQueryPairs
    split <;> exact hnone
  unfold Client.request
  cases params.body with
  | none => exact hquery _ hnew
  | some doc => exact (Headers.spellings_insert _ _ htype).trans (hquery _ hnew)

variable {σ : Type} {client : Client σ} {operation : Operation} {params : Params}
  {context : CallContext}

theorem context_spellings (h : client.context operation params = .ok context) {name : String}
    (haccept : Headers.sameName "Accept" name = false)
    (htype : Headers.sameName "Content-Type" name = false) :
    context.request.headers.spellings name = [] := by
  unfold Client.context at h
  cases hpath : operation.resolvePath params with
  | error failure => simp [hpath] at h
  | ok path =>
      cases hurl : Url.parse client.names (client.root ++ path) with
      | error fault => simp [hpath, hurl] at h
      | ok url =>
          simp only [hpath, hurl, Except.ok.injEq] at h
          rw [← h]
          exact request_spellings operation params url haccept htype

theorem context_authorizations (h : client.context operation params = .ok context) :
    context.request.authorizations = [] :=
  context_spellings h (by decide) (by decide)

end Client

/-- Behind the token layer a request has one authorization field with the token of the view, and
none without a token. -/
theorem Pipeline.authorized_authorizations {context : CallContext} (token : Option String)
    (hnone : context.request.authorizations = []) :
    (authorized token context).request.authorizations =
      token.toList.map fun token => (Layer.authorizationName, Layer.bearerValue token) := by
  cases token with
  | none => exact hnone
  | some token => exact Headers.spellings_replace _ _ _

end AdminAccess
