import AdminAccess.Proofs.Call.Outcome
import AdminAccess.Proofs.Call.PathValues
import AdminAccess.Proofs.Call.Substitution
import AdminAccess.Proofs.Url.Query

/-! # Query parameters of calls

The steps that add query parameters to a request, and those that put the parameters of a call
together, each leave what is there already and add their own pairs behind it.  So the query of a
call is read as the pairs of its address and then those that the caller gave, and an address has
pairs of its own only if the root or the template of the operation spells them.
-/

namespace AdminAccess

/-- Steps that each leave a list as it is and put their own items behind it. -/
theorem foldl_puts_behind {α β γ : Type} {apply : α → β → α} (read : α → List γ)
    {added : β → List γ} (hstep : ∀ a step, read (apply a step) = read a ++ added step)
    (steps : List β) (a : α) :
    read (steps.foldl apply a) = read a ++ steps.flatMap added := by
  induction steps generalizing a with
  | nil => exact (List.append_nil _).symm
  | cons step steps ih =>
      rw [List.foldl_cons, ih, hstep, List.flatMap_cons, List.append_assoc]

/-! ## Steps of a request -/

namespace Request

/-- The same request up to the query of its address. -/
structure SameButQuery (request other : Request) : Prop where
  method : other.method = request.method
  headers : other.headers = request.headers
  body : other.body = request.body
  scheme : other.url.scheme = request.url.scheme
  authority : other.url.authority = request.url.authority
  path : other.url.path = request.url.path
  fragment : other.url.fragment = request.url.fragment

theorem SameButQuery.refl (request : Request) : request.SameButQuery request :=
  ⟨rfl, rfl, rfl, rfl, rfl, rfl, rfl⟩

theorem SameButQuery.trans {request middle other : Request} (hfirst : request.SameButQuery middle)
    (hsecond : middle.SameButQuery other) : request.SameButQuery other :=
  ⟨hsecond.method.trans hfirst.method, hsecond.headers.trans hfirst.headers,
    hsecond.body.trans hfirst.body, hsecond.scheme.trans hfirst.scheme,
    hsecond.authority.trans hfirst.authority, hsecond.path.trans hfirst.path,
    hsecond.fragment.trans hfirst.fragment⟩

end Request

inductive QueryStep where
  | one (name value : String)
  | many (pairs : List (String × String))
  deriving DecidableEq, Repr

namespace QueryStep

def pairs : QueryStep → List (String × String)
  | .one name value => [(name, value)]
  | .many pairs => pairs

def apply (request : Request) : QueryStep → Request
  | .one name value => request.addQuery name value
  | .many pairs => request.addQueryPairs pairs

theorem apply_many_nil (request : Request) : apply request (.many []) = request := rfl

theorem queryPairs_apply (request : Request) (step : QueryStep) :
    (apply request step).url.queryPairs = request.url.queryPairs ++ step.pairs := by
  cases step with
  | one name value => exact Url.queryPairs_appendPairs request.url [(name, value)]
  | many pairs =>
      cases pairs with
      | nil => exact (List.append_nil _).symm
      | cons pair pairs => exact Url.queryPairs_appendPairs request.url (pair :: pairs)

theorem sameButQuery_apply (request : Request) (step : QueryStep) :
    request.SameButQuery (apply request step) := by
  cases step with
  | one name value => exact ⟨rfl, rfl, rfl, rfl, rfl, rfl, rfl⟩
  | many pairs => cases pairs <;> exact ⟨rfl, rfl, rfl, rfl, rfl, rfl, rfl⟩

theorem queryPairs_foldl (steps : List QueryStep) (request : Request) :
    (steps.foldl apply request).url.queryPairs =
      request.url.queryPairs ++ steps.flatMap pairs :=
  foldl_puts_behind (fun request => request.url.queryPairs) queryPairs_apply steps request

theorem sameButQuery_foldl (steps : List QueryStep) (request : Request) :
    request.SameButQuery (steps.foldl apply request) := by
  induction steps generalizing request with
  | nil => exact .refl request
  | cons step steps ih => exact (sameButQuery_apply request step).trans (ih _)

theorem foldl_of_no_pairs {steps : List QueryStep} (h : ∀ step ∈ steps, step = .many [])
    (request : Request) : steps.foldl apply request = request := by
  induction steps with
  | nil => rfl
  | cons step steps ih =>
      obtain ⟨rfl, hsteps⟩ := List.forall_mem_cons.1 h
      rw [List.foldl_cons, apply_many_nil, ih hsteps]

end QueryStep

/-! ## Steps of the parameters -/

inductive ParamsStep where
  | path (name value : String)
  | query (name value : String)
  | queryAll (name : String) (values : List String)
  | body (doc : Json)

namespace ParamsStep

def pairs : ParamsStep → List (String × String)
  | .path _ _ => []
  | .query name value => [(name, value)]
  | .queryAll name values => values.map fun value => (name, value)
  | .body _ => []

def apply (params : Params) : ParamsStep → Params
  | .path name value => params.addPath name value
  | .query name value => params.addQuery name value
  | .queryAll name values => params.addQueryAll name values
  | .body doc => params.setBody doc

def build (steps : List ParamsStep) : Params :=
  steps.foldl apply .empty

theorem query_apply (params : Params) (step : ParamsStep) :
    (apply params step).query = params.query ++ step.pairs := by
  cases step with
  | path name value => exact (List.append_nil _).symm
  | query name value => rfl
  | queryAll name values => rfl
  | body doc => exact (List.append_nil _).symm

theorem query_build (steps : List ParamsStep) : (build steps).query = steps.flatMap pairs :=
  foldl_puts_behind Params.query query_apply steps Params.empty

end ParamsStep

/-! ## Addresses of calls -/

namespace TemplatePart

/-- Only a literal text can bring a question mark into a path. -/
theorem not_mem_filled {params : Params} {parts : List TemplatePart}
    (h : ∀ text, literal text ∈ parts → '?' ∉ text.toList) :
    '?' ∉ parts.flatMap (·.filled params) := by
  intro hmem
  obtain ⟨part, hpart, hmark⟩ := List.mem_flatMap.1 hmem
  cases part with
  | literal text => exact h text hpart hmark
  | placeholder name =>
      have hkeeps := (Percent.mem_encodeChars_segment hmark).1
      exact (Percent.keeps_path_bounds hkeeps).1.1 rfl
  | unclosed => exact List.not_mem_nil hmark

end TemplatePart

namespace Client

variable {σ : Type} {client : Client σ} {operation : Operation} {params : Params}
  {context : CallContext}

theorem queryPairs_of_context (hcontext : client.context operation params = .ok context) :
    ∃ path address, operation.resolvePath params = .ok path ∧
      Url.parse client.names (client.root ++ path) = .ok address ∧
      context.request.url.queryPairs = address.queryPairs ++ params.query := by
  obtain ⟨chars, address, hchars, haddress, hrequest⟩ := context_eq_ok hcontext
  refine ⟨String.ofList chars, address, ?_, haddress, ?_⟩
  · rw [Operation.resolvePath, hchars]
  · rw [hrequest, request_url]
    cases hquery : params.query with
    | nil => simp
    | cons pair pairs => exact Url.queryPairs_appendPairs address (pair :: pairs)

/-- Behind a root without a query, a template whose literal texts have no question mark makes an
address without a query. -/
theorem address_query_eq_none {root address : Url} {parts : List TemplatePart} {path : String}
    (hroot : Url.parse client.names client.root = .ok root) (hquery : root.query = none)
    (hparts : Template.SplitsInto operation.path.toList parts)
    (hliterals : ∀ text, .literal text ∈ parts → '?' ∉ text.toList)
    (hpath : operation.resolvePath params = .ok path)
    (haddress : Url.parse client.names (client.root ++ path) = .ok address) :
    address.query = none := by
  obtain ⟨-, rfl⟩ := Operation.filled_of_resolvePath hparts hpath
  rw [Url.query_eq_none_iff haddress, String.toList_append, String.toList_ofList,
    Url.hasQuery_append]
  rintro (hmark | ⟨-, hmark⟩)
  · exact (Url.query_eq_none_iff hroot).1 hquery hmark
  · exact Url.not_hasQuery_of_not_mem (TemplatePart.not_mem_filled hliterals) hmark

/-- Steps that add query parameters to a request leave the pairs of its address in front and change
nothing else; without a pair the address stays as it is.  A call whose root and filled template make
an address has a request, whose query is read as the pairs of this address and then the pairs of the
parameters in the order in which they were given.  A root without a query and a template without a
question mark in its literal texts make an address without pairs.  Bundled layers send the address
as it is. -/
theorem query_pairs_in_order {σ : Type} (client : Client σ) (operation : Operation)
    (steps : List ParamsStep) :
    (∀ (request : Request) (added : List QueryStep),
      (added.foldl QueryStep.apply request).url.queryPairs =
        request.url.queryPairs ++ added.flatMap QueryStep.pairs ∧
      request.SameButQuery (added.foldl QueryStep.apply request) ∧
      ((∀ step ∈ added, step = .many []) → added.foldl QueryStep.apply request = request)) ∧
    (∀ path address, operation.resolvePath (ParamsStep.build steps) = .ok path →
      Url.parse client.names (client.root ++ path) = .ok address →
      ∃ context, client.context operation (ParamsStep.build steps) = .ok context) ∧
    ∀ context, client.context operation (ParamsStep.build steps) = .ok context →
      (∃ path address, operation.resolvePath (ParamsStep.build steps) = .ok path ∧
        Url.parse client.names (client.root ++ path) = .ok address ∧
        context.request.url.queryPairs =
          address.queryPairs ++ steps.flatMap ParamsStep.pairs) ∧
      (∀ root parts, Url.parse client.names client.root = .ok root → root.query = none →
        Template.SplitsInto operation.path.toList parts →
        (∀ text, .literal text ∈ parts → '?' ∉ text.toList) →
        context.request.url.queryPairs = steps.flatMap ParamsStep.pairs) ∧
      ((∀ layer ∈ client.layers, layer.IsBundled) → ∀ view elapsed send, ∃ sent,
        Trace.requests
            (client.call view elapsed send operation (ParamsStep.build steps)).1 = [sent] ∧
          sent.url = context.request.url) := by
  refine ⟨fun request added => ⟨QueryStep.queryPairs_foldl added request,
    QueryStep.sameButQuery_foldl added request,
    fun hnone => QueryStep.foldl_of_no_pairs hnone request⟩,
    fun path address hpath haddress => ⟨_, context_of_url hpath haddress⟩,
    fun context hcontext => ?_⟩
  obtain ⟨path, address, hpath, haddress, hpairs⟩ := queryPairs_of_context hcontext
  rw [ParamsStep.query_build] at hpairs
  refine ⟨⟨path, address, hpath, haddress, hpairs⟩,
    fun root parts hroot hquery hparts hliterals => ?_, fun hbundled view elapsed send => ?_⟩
  · have hnone := address_query_eq_none hroot hquery hparts hliterals hpath haddress
    have hempty : address.queryPairs = [] := by
      rw [Url.queryPairs, hnone]
      rfl
    rw [hpairs, hempty, List.nil_append]
  · obtain ⟨sent, hsame, hsent, -⟩ := Pipeline.run_bundled hbundled view elapsed send context
    refine ⟨sent, ?_, hsame.url⟩
    rw [call_of_context view elapsed send hcontext]
    exact hsent

def ordersOfUser : Operation :=
  ⟨"orders", "find", .get, "/users/\x7bid\x7d/orders"⟩

/-- A question mark in a value of the path, repeated and empty names, and values full of signs. -/
def ordersSteps : List ParamsStep :=
  [.query "q" "a b&c=d", .path "id" "?x=1", .queryAll "sort" ["é", "", "é"], .query "" "%2B+"]

theorem ordersSteps_pairs :
    ∃ context, (⟨"http://admin/api", Layer.defaults id, .ascii⟩ : Client (Option String)).context
        ordersOfUser (ParamsStep.build ordersSteps) = .ok context ∧
      context.request.url.queryPairs =
        [("q", "a b&c=d"), ("sort", "é"), ("sort", ""), ("sort", "é"), ("", "%2B+")] ∧
      ∀ view elapsed send, ∃ sent,
        Trace.requests
          ((⟨"http://admin/api", Layer.defaults id, .ascii⟩ : Client (Option String)).call
            view elapsed send ordersOfUser (ParamsStep.build ordersSteps)).1 = [sent] ∧
        sent.url = context.request.url := by
  obtain ⟨context, hcontext⟩ : ∃ context,
      (⟨"http://admin/api", Layer.defaults id, .ascii⟩ : Client (Option String)).context
        ordersOfUser (ParamsStep.build ordersSteps) = .ok context := ⟨_, rfl⟩
  obtain ⟨root, hroot, hquery⟩ : ∃ root, Url.parse .ascii "http://admin/api" = .ok root ∧
      root.query = none := ⟨_, rfl, rfl⟩
  have hparts : Template.SplitsInto
      ("/users/".toList ++ '\x7b' :: ("id".toList ++ '\x7d' :: ("/orders".toList ++ [])))
      [.literal "/users/", .placeholder "id", .literal "/orders"] :=
    .literal (by decide) <| .placeholder (by decide) <| .literal (by decide) .nil
  obtain ⟨-, hexact, hsent⟩ := (query_pairs_in_order _ _ _).2.2 context hcontext
  refine ⟨context, hcontext, hexact root _ hroot hquery hparts ?_,
    hsent (Layer.isBundled_of_defaults id)⟩
  intro text htext
  obtain rfl | rfl : text = "/users/" ∨ text = "/orders" := by simpa using htext
  · decide
  · decide

/-- A template can bring query parameters of its own, also behind a root without a query. -/
theorem template_brings_query :
    ¬ ∀ (client : Client Unit) (operation : Operation) (params : Params) (context : CallContext)
      (root : Url), Url.parse client.names client.root = .ok root → root.query = none →
      client.context operation params = .ok context →
      context.request.url.queryPairs = params.query := by
  intro hexact
  obtain ⟨context, hcontext, hpairs⟩ : ∃ context,
      (⟨"http://admin", [], .ascii⟩ : Client Unit).context
          ⟨"users", "list", .get, "/users?enabled=true"⟩
        (Params.empty.addQuery "a" "b") = .ok context ∧
      context.request.url.queryPairs = [("enabled", "true"), ("a", "b")] := ⟨_, rfl, rfl⟩
  obtain ⟨root, hroot, hquery⟩ : ∃ root, Url.parse .ascii "http://admin" = .ok root ∧
      root.query = none := ⟨_, rfl, rfl⟩
  have hread := hexact _ _ _ context root hroot hquery hcontext
  rw [hpairs] at hread
  exact absurd hread (by decide)

end Client

end AdminAccess
