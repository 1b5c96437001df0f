import CosmosClient.Request

/-!
# Asking an endpoint
-/

namespace CosmosClient.Client

variable {α : Type}

def contentOf (decode : Json.Decoder α) : Response → Except RequestError α
  | .error e => .error e
  | .ok page =>
    match Json.decodeText decode page.body with
    | .ok a => .ok a
    | .error _ => .error (.invalidJson page.url page.body)

/-- Makes a request and reads the content of the answer. -/
def fetch (decode : Json.Decoder α) (r : Request) : ExceptT RequestError Program α :=
  ExceptT.mk (Course.ask r fun response => Course.done (contentOf decode response))

def get (decode : Json.Decoder α) (path : String) : ExceptT RequestError Program α :=
  fetch decode { path }

def post (decode : Json.Decoder α) (path : String) (body : Json) :
    ExceptT RequestError Program α :=
  fetch decode { path, body := some body }

/-- Takes a request error as the failure of an operation. -/
def failing (p : ExceptT RequestError Program α) : ExceptT Failure Program α :=
  p.adapt RequestError.toFailure

/-- Takes a request error as the failure of an operation in a context. -/
def failingIn (context : String) (p : ExceptT RequestError Program α) :
    ExceptT Failure Program α :=
  p.adapt fun e => e.toFailure.within context

def pause (seconds : Nat) : ExceptT Failure Program Unit :=
  ExceptT.mk (Course.sleep seconds (Course.done (.ok ())))

end CosmosClient.Client
