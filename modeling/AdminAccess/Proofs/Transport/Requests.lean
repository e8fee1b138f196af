import AdminAccess.Identity.Realm
import AdminAccess.Proofs.Pipeline
import AdminAccess.Proofs.Transport.Lengths
import AdminAccess.Transport.Peer

/-! # Requests on their way to a server

A request that says nothing itself of the length of its payload reaches a server whole, with this
length announced; calls and forms are such requests.  A server reads nothing but requests to an
address in the clear, and without having read one it brings no response.
-/

namespace AdminAccess

open WireField

/-! ## Payloads of requests -/

/-- The fields say nothing of where a payload ends. -/
def WireField.Unframed (fields : List WireField) : Prop :=
  ∀ field ∈ fields, field.name ≠ lengthName ∧ field.name ≠ Outgoing.codingName

namespace Outgoing

theorem unframed_addMissing {name value : String} {fields : List WireField}
    (h : Unframed fields) (hlength : name ≠ lengthName) (hcoding : name ≠ codingName) :
    Unframed (addMissing name value fields) := by
  unfold addMissing
  split
  · exact h
  · intro field hfield
    rcases List.mem_append.1 hfield with hfield | hfield
    · exact h field hfield
    · rw [List.mem_singleton.1 hfield]
      exact ⟨hlength, hcoding⟩

theorem named_lengthName_of_unframed {fields : List WireField} (h : Unframed fields) :
    named lengthName fields = [] :=
  List.filter_eq_nil_iff.2 fun field hfield => by simpa using (h field hfield).1

/-- Fields that say nothing of it are joined by one that announces the length of the payload. -/
theorem markOff_of_unframed {fields : List WireField} (h : Unframed fields) {body : Bytes}
    (hbody : body ≠ []) : markOff body fields = fields ++ [ofLength body.length] := by
  have hnone : fields.any (·.name == lengthName) = false :=
    List.any_eq_false.2 fun field hfield => by simpa using (h field hfield).1
  have hcodings : fields.any (·.name == codingName) = false :=
    List.any_eq_false.2 fun field hfield => by simpa using (h field hfield).2
  have hkept : fields.filter (·.name != "content-length") = fields :=
    List.filter_eq_self.2 fun field hfield => by simpa [lengthName] using (h field hfield).1
  have hagreed := agreedLength?_of_unnamed (named_lengthName_of_unframed h)
  simp only [markOff, List.isEmpty_eq_false_iff.2 hbody, hcodings, hkept, hagreed, addMissing,
    Option.isSome_none, Bool.false_eq_true, if_false]
  exact if_neg (by simpa [lengthName] using hnone)

theorem agreedLength?_markOff {fields : List WireField} (h : Unframed fields) {body : Bytes}
    (hbody : body ≠ []) :
    agreedLength? (markOff body fields) =
      if body.length ≤ maxNumber then some body.length else none := by
  rw [markOff_of_unframed h hbody]
  apply agreedLength?_of_named
  rw [named_append, named_lengthName_of_unframed h]
  rfl

/-- A server reads the whole payload of a request whose fields say nothing of where it ends. -/
theorem complete_body (request : Request) {fields : List WireField} (h : Unframed fields) :
    (complete request fields).body = request.body.getD [] := by
  have hhost : Unframed (addMissing "host" (host request.url) fields) :=
    unframed_addMissing h (by decide) (by decide)
  cases hbody : request.body.getD [] with
  | nil => simp [complete, hbody]
  | cons b rest =>
      simp only [complete, hbody, agreedLength?_markOff hhost (List.cons_ne_nil b rest)]
      apply List.take_of_length_le
      split
      · exact Nat.le_refl _
      · exact Nat.le_refl _

theorem name_of_ofEntry? {entry : String × String} {field : WireField}
    (h : WireField.ofEntry? entry = .ok field) : field.name = lowerName entry.1 := by
  simp only [WireField.ofEntry?] at h
  split at h
  · cases h
  · split at h
    · cases h
    · cases h
      rfl

/-- The fields that are sent have the names that were set, in lower case. -/
theorem of_mapM_ofEntry? {entries : List (String × String)} {fields : List WireField}
    (h : entries.mapM WireField.ofEntry? = .ok fields) :
    ∀ field ∈ fields, ∃ entry ∈ entries, field.name = WireField.lowerName entry.1 := by
  induction entries generalizing fields with
  | nil => cases h; nofun
  | cons entry entries ih =>
      rw [List.mapM_cons] at h
      cases hentry : WireField.ofEntry? entry with
      | error wording => rw [hentry] at h; cases h
      | ok first =>
          cases hrest : entries.mapM WireField.ofEntry? with
          | error wording => rw [hentry, hrest] at h; cases h
          | ok rest =>
              rw [hentry, hrest] at h
              cases h
              intro field hfield
              rcases List.mem_cons.1 hfield with rfl | hfield
              · exact ⟨entry, List.mem_cons_self, name_of_ofEntry? hentry⟩
              · obtain ⟨other, hother, hname⟩ := ih hrest field hfield
                exact ⟨other, List.mem_cons_of_mem _ hother, hname⟩

theorem of_ofRequest? {request : Request} {destination : Destination} {outgoing : Outgoing}
    (h : ofRequest? request = .ok (destination, outgoing)) :
    ∃ fields, Destination.ofUrl? request.url = .ok destination ∧
      request.headers.entries.mapM WireField.ofEntry? = .ok fields ∧
      outgoing = complete request fields := by
  unfold ofRequest? at h
  split at h
  · cases h
  · next hurl =>
      split at h
      · cases h
      · next fields hfields =>
          cases h
          exact ⟨fields, hurl, hfields, rfl⟩

end Outgoing

/-! ## Requests of calls and forms -/

/-- A request whose fields say nothing of where its payload ends. -/
structure Request.Unframed (request : Request) : Prop where
  lengths : request.headers.spellings lengthName = []
  codings : request.headers.spellings Outgoing.codingName = []

theorem Headers.lowerName_ne {headers : Headers} {name : String} (hname : lowerName name = name)
    (h : headers.spellings name = []) {entry : String × String} (hentry : entry ∈ headers.entries) :
    lowerName entry.1 ≠ name := by
  intro hsame
  have hother := List.filter_eq_nil_iff.1 h entry hentry
  rw [← hname] at hsame
  have hchars := congrArg String.toList hsame
  simp only [lowerName, String.toList_ofList] at hchars
  exact hother (by simp [Headers.sameName, hchars])

theorem Headers.spellings_replace_eq_nil {headers : Headers} {name other value : String}
    (hother : sameName other name = false) (h : headers.spellings name = []) :
    (headers.replace other value).spellings name = [] := by
  rw [replace, spellings_insert _ _ hother]
  exact List.filter_eq_nil_iff.2 fun entry hentry =>
    List.filter_eq_nil_iff.1 h entry (List.mem_filter.1 hentry).1

namespace Request

variable {request : Request}

theorem Unframed.fields (h : request.Unframed) {fields : List WireField}
    (hfields : request.headers.entries.mapM WireField.ofEntry? = .ok fields) :
    WireField.Unframed fields := by
  intro field hfield
  obtain ⟨entry, hentry, hname⟩ := Outgoing.of_mapM_ofEntry? hfields field hfield
  rw [hname]
  exact ⟨Headers.lowerName_ne (by decide) h.lengths hentry,
    Headers.lowerName_ne (by decide) h.codings hentry⟩

/-- All of the payload arrives. -/
theorem Unframed.body_arrives (h : request.Unframed) {destination : Destination}
    {outgoing : Outgoing} (hsent : Outgoing.ofRequest? request = .ok (destination, outgoing)) :
    outgoing.body = request.body.getD [] := by
  obtain ⟨fields, -, hfields, rfl⟩ := Outgoing.of_ofRequest? hsent
  exact Outgoing.complete_body request (h.fields hfields)

/-- A token is put into a field that says nothing of it either. -/
theorem Unframed.authorized {context : CallContext} (h : context.request.Unframed)
    (token : Option String) : (Pipeline.authorized token context).request.Unframed := by
  cases token with
  | none => exact h
  | some token =>
      exact ⟨Headers.spellings_replace_eq_nil (by decide) h.lengths,
        Headers.spellings_replace_eq_nil (by decide) h.codings⟩

end Request

/-- The payload of a call arrives, with a token or without. -/
theorem Client.body_arrives {σ : Type} {client : Client σ} {operation : Operation}
    {params : Params} {context : CallContext}
    (hcontext : client.context operation params = .ok context) (token : Option String)
    {destination : Destination} {outgoing : Outgoing}
    (hsent : Outgoing.ofRequest? (Pipeline.authorized token context).request =
      .ok (destination, outgoing)) :
    outgoing.body = context.request.body.getD [] := by
  have hunframed : context.request.Unframed :=
    ⟨context_spellings hcontext (by decide) (by decide),
      context_spellings hcontext (by decide) (by decide)⟩
  have hbody : (Pipeline.authorized token context).request.body = context.request.body := by
    cases token <;> rfl
  rw [(hunframed.authorized token).body_arrives hsent, hbody]

/-- The form of a login, a refresh or a logout arrives. -/
theorem Realm.form_arrives (url : Url) (pairs : List (String × String))
    {destination : Destination} {outgoing : Outgoing}
    (hsent : Outgoing.ofRequest? (formRequest url pairs) = .ok (destination, outgoing)) :
    outgoing.body = Utf8.encode (Form.encodePairs pairs) := by
  have hspellings : ∀ {name : String}, Headers.sameName "Accept" name = false →
      Headers.sameName "Content-Type" name = false →
      (formRequest url pairs).headers.spellings name = [] := fun haccept htype =>
    (Headers.spellings_insert _ _ htype).trans
      ((Headers.spellings_insert .empty _ haccept).trans rfl)
  have hunframed : (formRequest url pairs).Unframed :=
    ⟨hspellings (by decide) (by decide), hspellings (by decide) (by decide)⟩
  exact hunframed.body_arrives hsent

/-! ## What a server reads -/

/-- Only an address in the clear is one that a server here reads requests to. -/
theorem Destination.scheme_of_plain {url : Url} (h : ofUrl? url = .ok .plain) :
    url.scheme = "http" := by
  have hofScheme : ofScheme url.scheme = .plain → url.scheme = "http" := by
    unfold ofScheme
    split
    · next hhttp => exact fun _ => hhttp
    · split <;> nofun
  simp only [ofUrl?] at h
  split at h
  · cases h
  · split at h
    · simp only [ofHierarchy?] at h
      split at h
      · cases h
      · split at h
        · cases h
        · split at h
          · cases h
          · exact hofScheme (Except.ok.inj h)
    · simp only [ofName?] at h
      split at h
      · cases h
      · split at h <;> cases h

namespace Listener

variable {listener : Listener} {request : Request}

/-- What a server has read is a request to it, in the clear. -/
theorem of_seen {outgoing : Outgoing} (h : (listener.exchange request).1 = some outgoing) :
    request.url.scheme = "http" ∧ (listener.peerAt request.url).isReading = true ∧
      Outgoing.ofRequest? request = .ok (.plain, outgoing) := by
  simp only [exchange] at h
  split at h
  · cases h
  · cases h
  · cases h
  · cases h
  · next hsent =>
      split at h
      · next hreading =>
          cases h
          obtain ⟨-, hurl, -⟩ := Outgoing.of_ofRequest? hsent
          exact ⟨Destination.scheme_of_plain hurl, hreading, hsent⟩
      · cases h

/-- A response comes from a server that has read the request. -/
theorem seen_of_response {response : Response} (h : (listener.exchange request).2 = .ok response) :
    ∃ outgoing, (listener.exchange request).1 = some outgoing := by
  have hreading : ∀ peer : Peer, peer.plainReply = .ok response → peer.isReading = true := by
    rintro (_ | _ | _ | _ | _) hreply
    · cases hreply
    · cases hreply
    · rfl
    · rfl
    · rfl
  simp only [exchange] at h ⊢
  split at h
  · cases h
  · cases h
  · cases h
  · cases h
  · next outgoing _ => exact ⟨outgoing, if_pos (hreading _ h)⟩

end Listener

end AdminAccess
