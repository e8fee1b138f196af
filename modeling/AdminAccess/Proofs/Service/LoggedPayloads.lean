import AdminAccess.Proofs.Pipeline.Logging
import AdminAccess.Proofs.Service.Payloads

/-! # What logs tell of payloads

Behind bundled layers the log of a call is that of the logging layers among them.  What they write
shows the parameters of the call, and of these the whole payload; everything else that they write
depends on the payload only by the reply.  The diagnostic text of a new user hides the password, but
the log of the call that creates the user tells it.
-/

namespace AdminAccess

namespace Trace

@[simp] theorem logs_append (trace more : Trace) : logs (trace ++ more) = logs trace ++ logs more :=
  List.filterMap_append

@[simp] theorem logs_log (record : LogRecord) (trace : Trace) :
    logs (.log record :: trace) = record :: logs trace := rfl

@[simp] theorem logs_map_log (records : List LogRecord) : logs (records.map .log) = records := by
  induction records with
  | nil => rfl
  | cons record rest ih => exact congrArg (record :: ·) ih

end Trace

namespace LogRecord

/-- A record without what it shows of the parameters of a call. -/
def withoutParams (record : LogRecord) : LogRecord :=
  { record with fields := record.fields.filter fun field => field.1 ≠ "params" }

end LogRecord

namespace Request

/-- A transport whose replies do not depend on the payload. -/
def IgnoresBody (send : Request → Reply) : Prop :=
  ∀ (request : Request) (payload : Option Bytes),
    send { request with body := payload } = send request

end Request

namespace CallContext

def withPayload (context : CallContext) (params : Params) (payload : Option Bytes) : CallContext :=
  { context with params := params, request := { context.request with body := payload } }

end CallContext

/-! ## The records of a call -/

namespace Layer

variable {σ : Type}

def IsLogging (layer : Layer σ) : Prop :=
  ∃ name detail, layer = (logging detail).rename name

theorem isLogging_logging (name : String) (detail : LoggingDetail) :
    ((logging detail).rename name : Layer σ).IsLogging :=
  ⟨name, detail, rfl⟩

/-- A token layer logs nothing, so it is no logging layer. -/
theorem not_isLogging_bearer (view : σ) (name : String) (source : σ → Option String) :
    ¬ ((bearer source).rename name).IsLogging := by
  rintro ⟨other, detail, heq⟩
  have htrace := congrArg (fun layer => (layer.inward view default).1) heq
  cases htrace

/-- The token of a call is in none of its records. -/
theorem callingRecord_authorized (detail : LoggingDetail) (token : Option String)
    (context : CallContext) :
    callingRecord detail (Pipeline.authorized token context) = callingRecord detail context := by
  cases token <;> rfl

theorem closingRecords_authorized (detail : LoggingDetail) (token : Option String)
    (context : CallContext) (elapsed : Nat) (reply : Reply) :
    closingRecords detail (Pipeline.authorized token context) elapsed reply =
      closingRecords detail context elapsed reply := by
  cases token <;> cases reply <;> rfl

variable {context : CallContext} {params : Params} {payload : Option Bytes}

/-- What a logging layer writes of a call apart from its parameters is told by the rest of the
call. -/
theorem callingRecord_withPayload (detail : LoggingDetail) :
    (callingRecord detail (context.withPayload params payload)).withoutParams =
      (callingRecord detail context).withoutParams := rfl

theorem closingRecords_withPayload (detail : LoggingDetail) (elapsed : Nat) (reply : Reply) :
    closingRecords detail (context.withPayload params payload) elapsed reply =
      closingRecords detail context elapsed reply := by
  cases reply <;> rfl

theorem callingRecord_params {detail : LoggingDetail} {here there : CallContext}
    (h : callingRecord detail here = callingRecord detail there) :
    here.params.text = there.params.text := by
  have hfields := congrArg LogRecord.fields h
  simp only [callingRecord, List.cons.injEq, Prod.mk.injEq, true_and] at hfields
  exact hfields.1

theorem callingRecord_congr (detail : LoggingDetail) (h : params.text = context.params.text) :
    callingRecord detail (context.withPayload params payload) = callingRecord detail context := by
  simp only [callingRecord, CallContext.withPayload, h]

end Layer

namespace Pipeline

variable {σ : Type} {layers : List (Layer σ)}

/-- What the logging layers of a list write about a call with a reply, given how much each of them
writes, the outermost first. -/
def bracketed (details : List LoggingDetail) (context : CallContext) (elapsed : Nat)
    (reply : Reply) : List LogRecord :=
  details.map (Layer.callingRecord · context) ++
    details.reverse.flatMap (Layer.closingRecords · context elapsed reply)

theorem bracketed_cons (detail : LoggingDetail) (details : List LoggingDetail)
    (context : CallContext) (elapsed : Nat) (reply : Reply) :
    bracketed (detail :: details) context elapsed reply =
      Layer.callingRecord detail context ::
        (bracketed details context elapsed reply ++
          Layer.closingRecords detail context elapsed reply) := by
  simp [bracketed]

theorem bracketed_authorized (details : List LoggingDetail) (token : Option String)
    (context : CallContext) (elapsed : Nat) (reply : Reply) :
    bracketed details (authorized token context) elapsed reply =
      bracketed details context elapsed reply := by
  simp only [bracketed, Layer.callingRecord_authorized, Layer.closingRecords_authorized]

/-- Through bundled layers the log of a call is that of the logging layers among them. -/
theorem run_logs (hbundled : ∀ layer ∈ layers, layer.IsBundled) (view : σ) (elapsed : Nat)
    (send : Request → Reply) :
    ∃ details : List LoggingDetail,
      (details = [] ↔ ∀ layer ∈ layers, ¬ layer.IsLogging) ∧
      ∀ context, Trace.logs (run layers view elapsed send context).1 =
        bracketed details context elapsed (run layers view elapsed send context).2 := by
  induction layers with
  | nil => exact ⟨[], by simp, fun context => rfl⟩
  | cons layer inner ih =>
      obtain ⟨details, hnone, hlogs⟩ :=
        ih fun layer hmem => hbundled layer (List.mem_cons_of_mem _ hmem)
      cases hbundled layer List.mem_cons_self with
      | logging name detail =>
          refine ⟨detail :: details, ?_, fun context => ?_⟩
          · simp [Layer.isLogging_logging]
          · rw [run_log, bracketed_cons]
            simp [hlogs]
      | bearer name source =>
          refine ⟨details, ?_, fun context => ?_⟩
          · rw [List.forall_mem_cons, ← hnone]
            exact (and_iff_right (Layer.not_isLogging_bearer view name source)).symm
          · rw [run_cons, Layer.around_proceed (Layer.bearer_inward name source view context)]
            simp only [List.nil_append, Trace.logs_append, hlogs, bracketed_authorized]
            exact List.append_nil _

/-- A transport that does not look at payloads gives the same reply behind bundled layers. -/
theorem run_withPayload (hbundled : ∀ layer ∈ layers, layer.IsBundled) (view : σ) (elapsed : Nat)
    {send : Request → Reply} (hblind : Request.IgnoresBody send) (context : CallContext)
    (params : Params) (payload : Option Bytes) :
    (run layers view elapsed send (context.withPayload params payload)).2 =
      (run layers view elapsed send context).2 := by
  induction layers generalizing context with
  | nil => exact hblind context.request payload
  | cons layer inner ih =>
      have hrest := ih fun layer hmem => hbundled layer (List.mem_cons_of_mem _ hmem)
      cases hbundled layer List.mem_cons_self with
      | logging name detail =>
          rw [run_log, run_log]
          exact hrest context
      | bearer name source =>
          have hauthorized : authorized (source view) (context.withPayload params payload) =
              (authorized (source view) context).withPayload params payload := by
            cases source view <;> rfl
          rw [run_cons, run_cons, Layer.around_proceed (Layer.bearer_inward name source view _),
            Layer.around_proceed (Layer.bearer_inward name source view _), hauthorized]
          exact hrest _

/-- Two calls with different parameters and payloads leave the same records up to the parameters
if the transport does not look at payloads.  They leave the same ones if and only if the parameters
have the same text or no layer logs. -/
theorem run_logs_withPayload (hbundled : ∀ layer ∈ layers, layer.IsBundled) (view : σ)
    (elapsed : Nat) {send : Request → Reply} (hblind : Request.IgnoresBody send)
    (context : CallContext) (params : Params) (payload : Option Bytes) :
    let records := Trace.logs (run layers view elapsed send context).1
    let others := Trace.logs (run layers view elapsed send (context.withPayload params payload)).1
    others.map LogRecord.withoutParams = records.map LogRecord.withoutParams ∧
      (others = records ↔
        params.text = context.params.text ∨ ∀ layer ∈ layers, ¬ layer.IsLogging) := by
  obtain ⟨details, hnone, hlogs⟩ := run_logs hbundled view elapsed send
  simp only [hlogs, run_withPayload hbundled view elapsed hblind, ← hnone, bracketed,
    Layer.closingRecords_withPayload, List.map_append, List.map_map, Function.comp_def,
    Layer.callingRecord_withPayload, true_and, List.append_left_inj]
  constructor
  · intro hsame
    cases details with
    | nil => exact .inr rfl
    | cons detail rest => exact .inl (Layer.callingRecord_params (List.cons.inj hsame).1)
  · rintro (htext | rfl)
    · exact List.map_congr_left fun detail _ => Layer.callingRecord_congr detail htext
    · rfl

end Pipeline

/-! ## Texts of payloads -/

namespace Params

theorem text_setBody (doc : Json) :
    (empty.setBody doc).text =
      String.ofList ("\x7b\"body\":".toList ++ doc.sortKeys.chars ++ ['\x7d']) := rfl

theorem bytes_of_text_setBody {doc other : Json}
    (h : (empty.setBody doc).text = (empty.setBody other).text) :
    doc.sortKeys.bytes = other.sortKeys.bytes := by
  rw [text_setBody, text_setBody] at h
  have hchars := List.append_cancel_left (List.append_cancel_right (String.ofList_injective h))
  exact congrArg Utf8.encodeChars hchars

end Params

/-- Parameters with a payload show which value it is written of. -/
theorem Shape.IsPayload.params_text_inj {α : Type} {shape : Shape α} (h : shape.IsPayload)
    {value other : α} :
    (Params.empty.setBodyOf shape value).text = (Params.empty.setBodyOf shape other).text ↔
      value = other := by
  refine ⟨fun htext => ?_, fun heq => by rw [heq]⟩
  have hread := h.decodePayload_sortKeys value
  rw [Params.bytes_of_text_setBody htext, h.decodePayload_sortKeys other] at hread
  exact (Except.ok.inj hread).symm

/-! ## New users -/

namespace Client

variable {σ : Type} {client : Client σ}

def creationLog (client : Client σ) (view : σ) (elapsed : Nat) (send : Request → Reply)
    (user : UserCreation) : List LogRecord :=
  Trace.logs (client.run view elapsed send (Users.create user)).1

def creationContext (url : Url) (user : UserCreation) : CallContext :=
  ⟨Users.createOperation, (Users.create user).params,
    request Users.createOperation (Users.create user).params url⟩

/-- Only the parameters and the payload of the call tell one user from another. -/
theorem creationContext_withPayload (url : Url) (user other : UserCreation) :
    creationContext url other =
      (creationContext url user).withPayload (Users.create other).params
        (creationContext url other).request.body := rfl

theorem creationLog_of_url {url : Url}
    (hurl : Url.parse client.names (client.root ++ "/users") = .ok url)
    (view : σ) (elapsed : Nat) (send : Request → Reply) (user : UserCreation) :
    client.creationLog view elapsed send user =
      Trace.logs (Pipeline.run client.layers view elapsed send (creationContext url user)).1 := by
  have hcontext : client.context Users.createOperation (Users.create user).params =
      .ok (creationContext url user) := context_of_url rfl hurl
  show Trace.logs (client.call view elapsed send Users.createOperation _).1 = _
  rw [call_of_context view elapsed send hcontext]

theorem creationLog_of_no_url {fault : UrlFault}
    (hurl : Url.parse client.names (client.root ++ "/users") = .error fault)
    (view : σ) (elapsed : Nat) (send : Request → Reply) (user : UserCreation) :
    client.creationLog view elapsed send user = [] := by
  have hcontext : client.context Users.createOperation (Users.create user).params =
      .error (.invalidUrl fault) := context_of_url_fault rfl hurl
  show Trace.logs (client.call view elapsed send Users.createOperation _).1 = []
  rw [call_of_no_context view elapsed send hcontext]
  rfl

/-- The log of a call that creates a user tells which user it is, if a layer logs. -/
theorem creationLog_tells_user (hbundled : ∀ layer ∈ client.layers, layer.IsBundled) (view : σ)
    (elapsed : Nat) {send : Request → Reply} (hblind : Request.IgnoresBody send) {url : Url}
    (hurl : Url.parse client.names (client.root ++ "/users") = .ok url)
    (user other : UserCreation) :
    (client.creationLog view elapsed send other).map LogRecord.withoutParams =
        (client.creationLog view elapsed send user).map LogRecord.withoutParams ∧
      (client.creationLog view elapsed send other = client.creationLog view elapsed send user ↔
        other = user ∨ ∀ layer ∈ client.layers, ¬ layer.IsLogging) := by
  have htext : (Users.create other).params.text = (Users.create user).params.text ↔
      other = user := Shape.IsPayload.userCreation.params_text_inj
  rw [creationLog_of_url hurl, creationLog_of_url hurl, creationContext_withPayload url user other,
    ← htext]
  exact Pipeline.run_logs_withPayload hbundled view elapsed hblind (creationContext url user) _ _

/-- The password of a new user is written to the log.  Through bundled layers, to a server whose
replies do not depend on payloads, the calls that create two users who differ only in it leave the
same records up to the parameters that these show.  With the parameters they leave the same ones
only if the passwords are the same after all, if no layer logs, or if there is no call because the
root address is no good. -/
theorem creationLog_tells_password {σ : Type} (client : Client σ)
    (hbundled : ∀ layer ∈ client.layers, layer.IsBundled) (view : σ) (elapsed : Nat)
    (send : Request → Reply) (hblind : Request.IgnoresBody send) (user : UserCreation)
    (password : String) :
    (client.creationLog view elapsed send { user with password := password }).map
          LogRecord.withoutParams =
        (client.creationLog view elapsed send user).map LogRecord.withoutParams ∧
      (client.creationLog view elapsed send { user with password := password } =
          client.creationLog view elapsed send user ↔
        password = user.password ∨ (∀ layer ∈ client.layers, ¬ layer.IsLogging) ∨
          ∃ fault, Url.parse client.names (client.root ++ "/users") = .error fault) := by
  cases hurl : Url.parse client.names (client.root ++ "/users") with
  | error fault => simp [creationLog_of_no_url hurl]
  | ok url =>
      have hsame : { user with password := password } = user ↔ password = user.password := by
        cases user
        simp
      obtain ⟨hrest, htells⟩ := creationLog_tells_user hbundled view elapsed hblind hurl user
        { user with password := password }
      rw [hsame] at htells
      refine ⟨hrest, htells.trans ?_⟩
      simp

def toto : UserCreation :=
  ⟨"Toto", "Tata", "toto@lsadf.com", "hunter2", true, false, ["USER"]⟩

/-- A client with the standard layers has another log when only the password is another one. -/
theorem toto_password_told :
    (⟨"http://admin", Layer.defaults id, .ascii⟩ : Client (Option String)).creationLog (some "t") 12
        (fun _ => .error .timeout) { toto with password := "hunter3" } ≠
      (⟨"http://admin", Layer.defaults id, .ascii⟩ : Client (Option String)).creationLog
          (some "t") 12
        (fun _ => .error .timeout) toto := by
  obtain ⟨url, hurl⟩ : ∃ url, Url.parse .ascii ("http://admin" ++ "/users") = .ok url := ⟨_, rfl⟩
  obtain ⟨-, htells⟩ := creationLog_tells_password
    (⟨"http://admin", Layer.defaults id, .ascii⟩ : Client (Option String))
    (Layer.isBundled_of_defaults id) (some "t") 12 (fun _ => .error .timeout) (fun _ _ => rfl) toto
    "hunter3"
  rw [ne_eq, htells]
  rintro (hsame | hquiet | ⟨fault, hfault⟩)
  · exact absurd hsame (by decide)
  · exact hquiet _ List.mem_cons_self (Layer.isLogging_logging "logging" .info)
  · rw [hurl] at hfault
    cases hfault

/-- The log of the call that creates a user may depend on the password alone. -/
theorem password_reaches_log :
    ¬ ∀ (σ : Type) (client : Client σ) (view : σ) (elapsed : Nat) (send : Request → Reply)
      (user : UserCreation) (password : String), (∀ layer ∈ client.layers, layer.IsBundled) →
      Request.IgnoresBody send →
      client.creationLog view elapsed send { user with password := password } =
        client.creationLog view elapsed send user := by
  intro hsame
  obtain ⟨url, hurl⟩ : ∃ url, Url.parse .ascii ("http://admin" ++ "/users") = .ok url := ⟨_, rfl⟩
  let client : Client (Option String) := ⟨"http://admin", Layer.defaults id, .ascii⟩
  have hbundled : ∀ layer ∈ client.layers, layer.IsBundled := Layer.isBundled_of_defaults id
  have hblind : Request.IgnoresBody fun _ => .error .timeout := fun _ _ => rfl
  have htells := (creationLog_tells_user hbundled (some "t") 12 hblind hurl toto
    { toto with password := "hunter3" }).2.1 (hsame _ _ _ _ _ _ _ hbundled hblind)
  obtain hpassword | hquiet := htells
  · exact absurd (congrArg UserCreation.password hpassword) (by decide)
  · exact hquiet _ List.mem_cons_self (Layer.isLogging_logging "logging" .info)

end Client

end AdminAccess
