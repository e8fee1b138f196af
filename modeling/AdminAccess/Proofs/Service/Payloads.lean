import AdminAccess.Proofs.Call.Outcome
import AdminAccess.Proofs.Model.Payloads
import AdminAccess.Service.GameSaves
import AdminAccess.Service.Searches
import AdminAccess.Service.Users

/-! # Payloads survive the way through the services

What a call sends of a value is read as this value, although its members are sorted on the way, and
a call returns the data that a reply with success has in its envelope.
-/

namespace AdminAccess

/-- The calls that send a value, with the shape in which it is written. -/
inductive ApiCall.Carries : {α β : Type} → ApiCall α → Shape β → β → Prop
  | createSave (save : GameSaveCreation) :
      Carries (GameSaves.create save) GameSaveCreation.shape save
  | updateSave (id : String) (content : GameSaveUpdate) :
      Carries (GameSaves.update id content) GameSaveUpdate.shape content
  | createUser (user : UserCreation) : Carries (Users.create user) UserCreation.shape user
  | updateUser (id : String) (content : UserUpdate) :
      Carries (Users.update id content) UserUpdate.shape content
  | searchUsers (search : SearchRequest) (orderBy : List String) :
      Carries (Searches.users search orderBy) SearchRequest.shape search
  | searchGameSaves (search : SearchRequest) (orderBy : List String) :
      Carries (Searches.gameSaves search orderBy) SearchRequest.shape search

namespace ApiCall.Carries

variable {α β : Type} {apiCall : ApiCall α} {shape : Shape β} {value : β}

theorem isPayload (h : apiCall.Carries shape value) : shape.IsPayload := by
  cases h with
  | createSave => exact .gameSaveCreation
  | updateSave => exact .gameSaveUpdate
  | createUser => exact .userCreation
  | updateUser => exact .userUpdate
  | searchUsers => exact .searchRequest
  | searchGameSaves => exact .searchRequest

theorem params_body (h : apiCall.Carries shape value) :
    apiCall.params.body = some (shape.write value).sortKeys := by
  cases h <;> rfl

end ApiCall.Carries

namespace Client

variable {σ : Type} {client : Client σ} {operation : Operation} {params : Params}

theorem request_body {doc : Json} (hbody : params.body = some doc) (url : Url) :
    (request operation params url).body = some doc.bytes := by
  rw [request, hbody]
  rfl

theorem context_body {context : CallContext} {doc : Json} (hbody : params.body = some doc)
    (hcontext : client.context operation params = .ok context) :
    context.request.body = some doc.bytes := by
  unfold Client.context at hcontext
  split at hcontext
  · cases hcontext
  · split at hcontext
    · cases hcontext
    · cases hcontext
      exact request_body hbody _

/-- Every payload is read as the value it is written of.  A call that carries a value sends it with
sorted members, which are read as the same value: they are the payload of its request, and behind
bundled layers of the one request that leaves the program.  A call for data returns those of the
envelope that a reply with success is written of, whatever status and message stand beside them. -/
theorem payloads_survive_the_wire :
    (∀ (α : Type) (shape : Shape α), shape.IsPayload → ∀ value : α,
      shape.decodePayload (shape.bytes value) = .ok value) ∧
    (∀ (α β : Type) (apiCall : ApiCall α) (shape : Shape β) (value : β),
      apiCall.Carries shape value →
      apiCall.params.body = some (shape.write value).sortKeys ∧
      shape.decodePayload (shape.write value).sortKeys.bytes = .ok value ∧
      ∀ (σ : Type) (client : Client σ) (context : CallContext),
        client.context apiCall.operation apiCall.params = .ok context →
        context.request.body = some (shape.write value).sortKeys.bytes ∧
        ∀ (view : σ) (elapsed : Nat) (send : Request → Reply),
          (∀ layer ∈ client.layers, layer.IsBundled) →
          ∃ sent, Trace.requests (client.run view elapsed send apiCall).1 = [sent] ∧
            sent.body = some (shape.write value).sortKeys.bytes) ∧
    (∀ (α : Type) (shape : Shape α), shape.IsPayload → ∀ (data : α) (status : Option UInt16)
      (message : Option String) (σ : Type) (client : Client σ) (view : σ) (elapsed : Nat)
      (send : Request → Reply) (operation : Operation) (params : Params) (context : CallContext)
      (response : Response), client.context operation params = .ok context →
      (Pipeline.run client.layers view elapsed send context).2 = .ok response →
      200 ≤ response.status → response.status ≤ 299 →
      response.body = (Envelope.shape shape).bytes ⟨status, message, some data⟩ →
      (client.run view elapsed send ⟨operation, params, .data shape⟩).2 = .ok data) := by
  refine ⟨fun α shape h => h.decodePayload_bytes, fun α β apiCall shape value h => ?_,
    fun α shape h data status message σ client view elapsed send operation params context response
      hcontext hreply hleast hlargest hbody => ?_⟩
  · refine ⟨h.params_body, h.isPayload.decodePayload_sortKeys value,
      fun σ client context hcontext => ?_⟩
    have hpayload := context_body h.params_body hcontext
    refine ⟨hpayload, fun view elapsed send hbundled => ?_⟩
    obtain ⟨sent, hsame, hsent, -⟩ := Pipeline.run_bundled hbundled view elapsed send context
    refine ⟨sent, ?_, hsame.body.trans hpayload⟩
    show Trace.requests (client.call view elapsed send apiCall.operation apiCall.params).1 = _
    rw [call_of_context view elapsed send hcontext]
    exact hsent
  · show (Expectation.data shape).conclude (client.call view elapsed send operation params).2 = _
    rw [call_of_context view elapsed send hcontext, Expectation.conclude_data_iff]
    refine ⟨response, ⟨status, message, some data⟩, ?_, ?_, rfl⟩
    · exact checked_eq_ok_iff.2 ⟨hreply, hleast, hlargest⟩
    · rw [hbody]
      exact h.decodePayload_envelope _

/-- A save with escapes, characters of every length and the ends of the range of numbers. -/
def strangeSave : GameSave :=
  ⟨"", "\x00\"\\\n\x7f/", "é€😀", some (.millis Int64.minValue), some (.text "-12"),
    ⟨Int64.minValue, Int64.maxValue, 0, -1, 10⟩, ⟨1, 2, 3, 4⟩, ⟨5, 6⟩⟩

def strangeCreation : GameSaveCreation :=
  ⟨none, strangeSave.userEmail, strangeSave.nickname, strangeSave.characteristics,
    strangeSave.currency, strangeSave.stage⟩

def createdReply : Reply :=
  .ok ⟨201, .empty, (Envelope.shape GameSave.shape).bytes ⟨none, some "", some strangeSave⟩⟩

theorem strangeSave_survives :
    GameSave.shape.decodePayload (GameSave.shape.bytes strangeSave) = .ok strangeSave ∧
    ∃ sent payload, Trace.requests ((⟨"http://admin", Layer.defaults id, .ascii⟩ :
        Client (Option String)).run (some "t") 12 (fun _ => createdReply)
          (GameSaves.create strangeCreation)).1 = [sent] ∧
      sent.body = some payload ∧
      GameSaveCreation.shape.decodePayload payload = .ok strangeCreation ∧
      ((⟨"http://admin", Layer.defaults id, .ascii⟩ : Client (Option String)).run (some "t") 12
        (fun _ => createdReply) (GameSaves.create strangeCreation)).2 = .ok strangeSave := by
  obtain ⟨hwritten, hcarried, hreturned⟩ := payloads_survive_the_wire
  obtain ⟨context, hcontext⟩ : ∃ context, (⟨"http://admin", Layer.defaults id, .ascii⟩ :
      Client (Option String)).context GameSaves.createOperation
        (GameSaves.create strangeCreation).params = .ok context := ⟨_, rfl⟩
  obtain ⟨-, hread, hsends⟩ := hcarried _ _ _ _ _ (.createSave strangeCreation)
  obtain ⟨-, hsends⟩ := hsends _ _ context hcontext
  obtain ⟨sent, hsent, hbody⟩ := hsends (some "t") 12 (fun _ => createdReply)
    (Layer.isBundled_of_defaults id)
  refine ⟨hwritten _ _ .gameSave strangeSave, sent, _, hsent, hbody, hread, ?_⟩
  exact hreturned _ _ .gameSave strangeSave none (some "") _ _ _ _ _ _ _ context
    ⟨201, .empty, _⟩ hcontext rfl (by decide) (by decide) rfl

end Client

end AdminAccess
