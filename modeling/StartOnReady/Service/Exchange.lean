import StartOnReady.Application.Reference
import StartOnReady.Json.Value

/-!
# Requests and responses

What goes over the wire.  A network is a list of replies still to come and the requests that were
sent; a request without a reply left fails.
-/

namespace StartOnReady.Service

/-- The calls of the service. -/
inductive Operation where
  | describe
  | start
  deriving DecidableEq, Repr

/-- The name of a call. -/
def Operation.name : Operation → String
  | describe => "DescribeApplication"
  | start => "StartApplication"

/-- The name of a call with the version of the service. -/
def Operation.target (operation : Operation) : String :=
  "KinesisAnalytics_20180523." ++ operation.name

/-- A request. -/
structure Request where
  operation : Operation
  uri : String
  /-- The region that the request is signed for. -/
  region : String
  application : String
  deriving DecidableEq, Repr

namespace Request

def method : String := "POST"

def contentType : String := "application/x-amz-json-1.1"

/-- The body of a request. -/
def body (request : Request) : Json.Value :=
  .object [("ApplicationName", .string request.application)]

end Request

/-- A response. -/
structure Response where
  status : Nat
  headers : List (String × String)
  body : String
  deriving DecidableEq, Repr

/-- What comes of a request that was sent. -/
inductive Delivery where
  | answered (response : Response)
  /-- The connection failed. -/
  | broken
  /-- No response came within the time that was allowed. -/
  | late
  deriving DecidableEq, Repr

/-- The replies still to come and the requests sent so far. -/
structure Network where
  pending : List Delivery := []
  sent : List Request := []
  deriving DecidableEq, Repr

/-- Sends a request. -/
def Network.send (request : Request) (network : Network) : Delivery × Network :=
  match network.pending with
  | [] => (.broken, { network with sent := network.sent ++ [request] })
  | delivery :: pending => (delivery, ⟨pending, network.sent ++ [request]⟩)

end StartOnReady.Service
