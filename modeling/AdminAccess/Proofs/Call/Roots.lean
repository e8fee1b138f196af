import AdminAccess.Config
import AdminAccess.Proofs.Call.Outcome
import AdminAccess.Proofs.Text.Slashes

/-! # Roots of the admin service

The base and the path prefix of a configuration meet in one slash, whatever slashes they are given
with, and the root ends in none, so that a client has nothing left to trim from it.  All that the
address of a request takes from a configuration is this root.
-/

namespace AdminAccess

/-- Configurations of one place: the base and the path prefix differ at most in the slashes at
their ends, the other fields may differ. -/
structure ClientConfig.SameButSlashes (config other : ClientConfig) : Prop where
  base : ∃ core, Slashes.Behind core config.baseUrl ∧ Slashes.Behind core other.baseUrl
  path : ∃ core, Slashes.Around core config.apiPrefix ∧ Slashes.Around core other.apiPrefix

/-- Of a client, only the root and how domains are spelled go into the request of a call. -/
theorem Client.context_eq_of_root {σ τ : Type} {client : Client σ} {other : Client τ}
    (h : other.root = client.root) (hnames : other.names = client.names) (operation : Operation)
    (params : Params) : other.context operation params = client.context operation params := by
  simp only [Client.context, h, hnames]

namespace ClientConfig

variable {σ τ : Type}

/-! ## The joint -/

variable {config other : ClientConfig} {base path : String}

theorem apiRoot_of_no_path (hbase : Slashes.EndsBare config.baseUrl base)
    (h : ∀ c ∈ config.apiPrefix.toList, c = '/') : config.apiRoot = base := by
  have hslash : Slashes.Behind base (base ++ "/" ++ "") := ⟨1, String.append_empty⟩
  rw [apiRoot, hbase.trimEnd_eq, Slashes.trimBoth_eq_empty_iff.2 h, hslash.trimEnd_eq]
  exact Slashes.trimEnd_of_last hbase.last

theorem apiRoot_of_path (hbase : Slashes.EndsBare config.baseUrl base)
    (hpath : Slashes.Bare config.apiPrefix path) (h : ∃ c ∈ config.apiPrefix.toList, c ≠ '/') :
    config.apiRoot = base ++ "/" ++ path := by
  have hchars : path.toList ≠ [] := by
    intro hnil
    have hempty : Slashes.trimBoth config.apiPrefix = "" :=
      hpath.trimBoth_eq.trans (String.toList_eq_nil_iff.1 hnil)
    obtain ⟨c, hc, hslash⟩ := h
    exact hslash (Slashes.trimBoth_eq_empty_iff.1 hempty c hc)
  rw [apiRoot, hbase.trimEnd_eq, hpath.trimBoth_eq]
  -- Some of the path is left, so the text ends as the path does.
  apply Slashes.trimEnd_of_last
  rw [String.toList_append, List.getLast?_append_of_ne_nil _ hchars]
  exact hpath.last

theorem last_apiRoot (config : ClientConfig) : config.apiRoot.toList.getLast? ≠ some '/' :=
  (Slashes.endsBare_trimEnd _).last

theorem trimEnd_apiRoot (config : ClientConfig) :
    Slashes.trimEnd config.apiRoot = config.apiRoot :=
  Slashes.trimEnd_of_last config.last_apiRoot

theorem SameButSlashes.apiRoot_eq (h : config.SameButSlashes other) :
    other.apiRoot = config.apiRoot := by
  obtain ⟨base, hbase, hotherBase⟩ := h.base
  obtain ⟨path, hpath, hotherPath⟩ := h.path
  have hfront : Slashes.trimEnd other.baseUrl = Slashes.trimEnd config.baseUrl :=
    hotherBase.trimEnd_eq.trans hbase.trimEnd_eq.symm
  have hback : Slashes.trimBoth other.apiPrefix = Slashes.trimBoth config.apiPrefix :=
    hotherPath.trimBoth_eq.trans hpath.trimBoth_eq.symm
  rw [apiRoot, apiRoot, hfront, hback]

/-! ## Clients of a configuration -/

variable {names : DomainNames} {source : σ → Option String} {client : Client σ}

theorem client?_of_url {url : Url} (h : Url.parse names config.apiRoot = .ok url)
    (source : σ → Option String) :
    config.client? names source = .ok ⟨config.apiRoot, Layer.defaults source, names⟩ := by
  simp only [client?, Client.new?, trimEnd_apiRoot, h]

theorem client?_of_url_fault {fault : UrlFault} (h : Url.parse names config.apiRoot = .error fault)
    (source : σ → Option String) :
    config.client? names source = .error (.invalidUrl fault) := by
  simp only [client?, Client.new?, trimEnd_apiRoot, h]

theorem client?_eq_ok (h : config.client? names source = .ok client) :
    client = ⟨config.apiRoot, Layer.defaults source, names⟩ := by
  cases hurl : Url.parse names config.apiRoot with
  | error fault =>
      rw [client?_of_url_fault hurl] at h
      cases h
  | ok url =>
      rw [client?_of_url hurl] at h
      exact (Except.ok.inj h).symm

/-- The address that a call through a client of the configuration is sent to, or why there is
none. -/
def requestUrl? (config : ClientConfig) (names : DomainNames) (source : σ → Option String)
    (operation : Operation) (params : Params) : Except Failure Url :=
  (config.client? names source).bind fun client =>
    (client.context operation params).map (·.request.url)

theorem requestUrl?_of_client (h : config.client? names source = .ok client) (operation : Operation)
    (params : Params) :
    config.requestUrl? names source operation params =
      (client.context operation params).map (·.request.url) := by
  unfold requestUrl?
  rw [h]
  rfl

theorem requestUrl?_of_failure {failure : Failure}
    (h : config.client? names source = .error failure) (operation : Operation) (params : Params) :
    config.requestUrl? names source operation params = .error failure := by
  unfold requestUrl?
  rw [h]
  rfl

theorem requestUrl?_eq_of_apiRoot (h : other.apiRoot = config.apiRoot) (names : DomainNames)
    (source : σ → Option String) (otherSource : τ → Option String) (operation : Operation)
    (params : Params) :
    other.requestUrl? names otherSource operation params =
      config.requestUrl? names source operation params := by
  cases hurl : Url.parse names config.apiRoot with
  | error fault =>
      have hother : Url.parse names other.apiRoot = .error fault := by rw [h, hurl]
      rw [requestUrl?_of_failure (client?_of_url_fault hurl source),
        requestUrl?_of_failure (client?_of_url_fault hother otherSource)]
  | ok url =>
      have hother : Url.parse names other.apiRoot = .ok url := by rw [h, hurl]
      have hroot : (⟨other.apiRoot, Layer.defaults otherSource, names⟩ : Client τ).root =
          (⟨config.apiRoot, Layer.defaults source, names⟩ : Client σ).root := h
      rw [requestUrl?_of_client (client?_of_url hurl source),
        requestUrl?_of_client (client?_of_url hother otherSource),
        Client.context_eq_of_root hroot rfl]

/-- The requests of a call go to this address. -/
theorem requests_of_client (h : config.client? names source = .ok client) (view : σ) (elapsed : Nat)
    (send : Request → Reply) (operation : Operation) (params : Params) :
    (Trace.requests (client.call view elapsed send operation params).1).map (·.url) =
      (config.requestUrl? names source operation params).toOption.toList := by
  rw [requestUrl?_of_client h]
  cases hcontext : client.context operation params with
  | error failure =>
      rw [Client.call_of_no_context view elapsed send hcontext]
      rfl
  | ok context =>
      have hbundled : ∀ layer ∈ client.layers, layer.IsBundled := by
        rw [client?_eq_ok h]
        exact Layer.isBundled_of_defaults source
      obtain ⟨sent, hsame, hsent, -⟩ := Pipeline.run_bundled hbundled view elapsed send context
      rw [Client.call_of_context view elapsed send hcontext, hsent, List.map_singleton, hsame.url]
      rfl

/-- The root of a configuration does not end in a slash.  It is the base without the slashes at its
end, one slash and the path prefix without the slashes around it, or the base alone where the prefix
has nothing but slashes.  Trimming leaves it as it is, so that a client of the configuration reports
this root, and there is one wherever the root is read as an address.  Configurations that differ
only in slashes at the end of the base and around the prefix have the same root; their clients send
a call to the same address, or to none for the same reason, whatever tokens they have. -/
theorem joint_is_one_slash (names : DomainNames) (config : ClientConfig) :
    config.apiRoot.toList.getLast? ≠ some '/' ∧
    (∃ base path, Slashes.EndsBare config.baseUrl base ∧ Slashes.Bare config.apiPrefix path ∧
      ((∃ c ∈ config.apiPrefix.toList, c ≠ '/') → config.apiRoot = base ++ "/" ++ path) ∧
      ((∀ c ∈ config.apiPrefix.toList, c = '/') → config.apiRoot = base)) ∧
    Slashes.trimEnd config.apiRoot = config.apiRoot ∧
    (∀ (σ : Type) (source : σ → Option String),
      (∀ url, Url.parse names config.apiRoot = .ok url →
        config.client? names source = .ok ⟨config.apiRoot, Layer.defaults source, names⟩) ∧
      (∀ fault, Url.parse names config.apiRoot = .error fault →
        config.client? names source = .error (.invalidUrl fault)) ∧
      ∀ client, config.client? names source = .ok client →
        ∀ (view : σ) (elapsed : Nat) (send : Request → Reply) (operation : Operation)
            (params : Params),
          (Trace.requests (client.call view elapsed send operation params).1).map (·.url) =
            (config.requestUrl? names source operation params).toOption.toList) ∧
    ∀ other : ClientConfig, config.SameButSlashes other →
      other.apiRoot = config.apiRoot ∧
      ∀ (σ τ : Type) (source : σ → Option String) (otherSource : τ → Option String)
        (operation : Operation) (params : Params),
        other.requestUrl? names otherSource operation params =
          config.requestUrl? names source operation params := by
  refine ⟨config.last_apiRoot, ?_, config.trimEnd_apiRoot, fun σ source => ?_,
    fun other hsame => ?_⟩
  · have hbase := Slashes.endsBare_trimEnd config.baseUrl
    have hpath := Slashes.bare_trimBoth config.apiPrefix
    exact ⟨_, _, hbase, hpath, apiRoot_of_path hbase hpath, apiRoot_of_no_path hbase⟩
  · exact ⟨fun url hurl => client?_of_url hurl source,
      fun fault hfault => client?_of_url_fault hfault source,
      fun client hclient => requests_of_client hclient⟩
  · exact ⟨hsame.apiRoot_eq, fun σ τ => requestUrl?_eq_of_apiRoot hsame.apiRoot_eq names⟩

/-- Slashes at every end, and two that belong to the path. -/
def scattered : ClientConfig :=
  { baseUrl := "http://admin//", apiPrefix := "//api//v1/" }

def tidy : ClientConfig :=
  { baseUrl := "http://admin", apiPrefix := "api//v1", timeout := 5000 }

theorem scattered_sameButSlashes_tidy : scattered.SameButSlashes tidy where
  base := ⟨"http://admin", ⟨2, rfl⟩, ⟨0, rfl⟩⟩
  path := ⟨"api//v1", ⟨2, 1, rfl⟩, ⟨0, 0, rfl⟩⟩

def userById : Operation :=
  ⟨"users", "find", .get, "/users/\x7bid\x7d"⟩

/-- Both configurations have the root without slashes at the joint, and a call through a client of
either goes to the same address.  A prefix of slashes alone adds none, and a base without a scheme
makes no client. -/
theorem tidy_calls_where_scattered_does :
    (∃ base path, Slashes.EndsBare scattered.baseUrl base ∧
      Slashes.Bare scattered.apiPrefix path ∧ scattered.apiRoot = base ++ "/" ++ path) ∧
    scattered.apiRoot = "http://admin/api//v1" ∧ tidy.apiRoot = scattered.apiRoot ∧
    (∃ base, Slashes.EndsBare "http://admin/" base ∧
      ({ baseUrl := "http://admin/", apiPrefix := "//" } : ClientConfig).apiRoot = base) ∧
    ({ baseUrl := "admin", apiPrefix := "api" } : ClientConfig).client? .ascii
      (id : Option String → _) = .error (.invalidUrl .noScheme) ∧
    ∃ url client, url.path = .segments ["api", "", "v1", "users", "7"] ∧
      scattered.client? .ascii (id : Option String → _) = .ok client ∧
      client.root = "http://admin/api//v1" ∧
      (Trace.requests (client.call (some "t") 12 (fun _ => .error .timeout) userById
        (Params.empty.addPath "id" "7")).1).map (·.url) = [url] ∧
      tidy.requestUrl? .ascii (fun _ : Unit => none) userById (Params.empty.addPath "id" "7") =
        .ok url := by
  obtain ⟨-, ⟨base, path, hbase, hpath, hroot, -⟩, -, hclients, hothers⟩ :=
    joint_is_one_slash .ascii scattered
  obtain ⟨-, ⟨bare, -, hbare, -, -, halone⟩, -⟩ :=
    joint_is_one_slash .ascii { baseUrl := "http://admin/", apiPrefix := "//" }
  obtain ⟨-, -, -, hrefused, -⟩ :=
    joint_is_one_slash .ascii { baseUrl := "admin", apiPrefix := "api" }
  have hslashes : ∀ c ∈ "//".toList, c = '/' := fun c hc => List.eq_of_mem_replicate (n := 2) hc
  obtain ⟨root, hparsed⟩ : ∃ root, Url.parse .ascii scattered.apiRoot = .ok root := ⟨_, rfl⟩
  obtain ⟨url, hurl, hsegments⟩ : ∃ url,
      scattered.requestUrl? .ascii (id : Option String → _) userById
        (Params.empty.addPath "id" "7") = .ok url ∧
        url.path = .segments ["api", "", "v1", "users", "7"] := ⟨_, rfl, rfl⟩
  obtain ⟨hmade, -, hsent⟩ := hclients _ (id : Option String → _)
  have hclient := hmade root hparsed
  obtain ⟨hsame, haddress⟩ := hothers tidy scattered_sameButSlashes_tidy
  refine ⟨⟨base, path, hbase, hpath, hroot ⟨'a', by decide, by decide⟩⟩, rfl, hsame,
    ⟨bare, hbare, halone hslashes⟩, (hrefused _ _).2.1 _ rfl, url, _, hsegments, hclient, rfl,
    ?_, (haddress _ _ _ _ userById _).trans hurl⟩
  rw [hsent _ hclient, hurl]
  rfl

end ClientConfig

end AdminAccess
