import AdminAccess.Model.Envelope
import AdminAccess.Pipeline.Run
import AdminAccess.Text.Diagnostic
import AdminAccess.Text.Slashes
import AdminAccess.Url.Parse

/-!
# The admin client

A client knows the root address of the admin service, the layers that its calls pass and how
the domains in its addresses are spelled.
`Client.context` makes a request of an operation and its parameters, `Client.checked` turns
replies without success into failures, and `ApiCall` says what is expected of the answer.
-/

namespace AdminAccess

inductive Expectation : Type → Type 1 where
  /-- The response as it is. -/
  | response : Expectation Response
  /-- Success alone. -/
  | success : Expectation Unit
  /-- Data in an envelope. -/
  | data {α : Type} (shape : Shape α) : Expectation α

namespace Expectation

def conclude {α : Type} : Expectation α → Reply → Except Failure α
  | .response, reply => reply
  | .success, reply => reply.map fun _ => ()
  | .data shape, reply =>
    match reply with
    | .error failure => .error failure
    | .ok answer =>
      match answer.json (Envelope.shape shape) with
      | .error failure => .error failure
      | .ok envelope => envelope.intoData

end Expectation

structure ApiCall (α : Type) where
  operation : Operation
  params : Params
  expects : Expectation α

structure Client (σ : Type) where
  root : String
  layers : List (Layer σ)
  names : DomainNames

namespace Client

def new? {σ : Type} (names : DomainNames) (layers : List (Layer σ)) (root : String) :
    Except Failure (Client σ) :=
  match Url.parse names (Slashes.trimEnd root) with
  | .ok _ => .ok ⟨Slashes.trimEnd root, layers, names⟩
  | .error fault => .error (.invalidUrl fault)

def layerNames {σ : Type} (client : Client σ) : List String :=
  client.layers.map (·.name)

def describeLayers {σ : Type} (layers : List (Layer σ)) : String :=
  Diagnostic.record "PipelineBuilder" [("layers", Diagnostic.texts (layers.map (·.name)))]

def describePipeline {σ : Type} (layers : List (Layer σ)) : String :=
  Diagnostic.partOf "Pipeline" [("layers", Diagnostic.texts (layers.map (·.name)))]

def describe {σ : Type} (client : Client σ) : String :=
  Diagnostic.record "AdminClient"
    [("pipeline", describePipeline client.layers), ("api_root", Quoted.encode client.root)]

def request (operation : Operation) (params : Params) (url : Url) : Request :=
  let request := (Request.new operation.method url).setHeader "Accept" MediaType.json.text
  let request := request.addQueryPairs params.query
  params.body.elim request request.setJson

def context {σ : Type} (client : Client σ) (operation : Operation) (params : Params) :
    Except Failure CallContext :=
  match operation.resolvePath params with
  | .error failure => .error failure
  | .ok path =>
    match Url.parse client.names (client.root ++ path) with
    | .error fault => .error (.invalidUrl fault)
    | .ok url => .ok ⟨operation, params, request operation params url⟩

/-- A reply with success, or the failure it stands for. -/
def checked : Reply → Reply
  | .error failure => .error failure
  | .ok response =>
    if response.isSuccess then .ok response
    else
      let reason := (Status.reason? response.status).getD "unexpected status"
      .error (.http response.status reason (some response.body))

def call {σ : Type} (client : Client σ) (view : σ) (elapsed : Nat) (send : Request → Reply)
    (operation : Operation) (params : Params) : Trace × Reply :=
  match client.context operation params with
  | .error failure => ([], .error failure)
  | .ok context =>
    let result := Pipeline.run client.layers view elapsed send context
    (result.1, checked result.2)

def run {σ α : Type} (client : Client σ) (view : σ) (elapsed : Nat) (send : Request → Reply)
    (apiCall : ApiCall α) : Trace × Except Failure α :=
  let result := client.call view elapsed send apiCall.operation apiCall.params
  (result.1, apiCall.expects.conclude result.2)

end Client

end AdminAccess
