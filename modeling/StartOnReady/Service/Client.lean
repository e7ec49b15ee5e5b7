import StartOnReady.ControlPlane.Basic
import StartOnReady.Service.Body
import StartOnReady.Service.Endpoint
import StartOnReady.Service.Failure

/-!
# The client of the service

A control plane over a network.  It holds the settings that all its clients share and makes a client
of its own for each call, because events come from any region.  Each call sends one request at most
and is never tried again.
-/

namespace StartOnReady.Service

/-! ### Clients -/

/-- The settings that clients share.  Of all that can be set, only these say where a request goes
and what it is signed for. -/
structure SharedConfig where
  region : Option String := none
  /-- The address that replaces the endpoint of every region. -/
  endpointUrl : Option String := none
  deriving DecidableEq, Repr

/-- A client with settings of its own. -/
structure Client where
  region : Option String
  endpointUrl : Option String
  deriving DecidableEq, Repr

/-- A client with the shared settings. -/
def Client.ofShared (shared : SharedConfig) : Client := ⟨shared.region, shared.endpointUrl⟩

/-- The client for another region. -/
def Client.inRegion (client : Client) (region : String) : Client :=
  { client with region := some region }

namespace SharedConfig

/-- The settings that were found, below an endpoint that is given. -/
def below (found : SharedConfig) (endpointUrl : Option String) : SharedConfig :=
  { found with endpointUrl := endpointUrl.or found.endpointUrl }

/-- The client for the requests of a region. -/
def clientFor (shared : SharedConfig) (region : String) : Client :=
  (Client.ofShared shared).inRegion region

end SharedConfig

/-! ### Calls -/

/-- The endpoint of a region, unless an address replaces it. -/
def endpointFor? (replacement : Option String) (region : String) : Option Endpoint :=
  Endpoint.parse? (replacement.getD (Endpoint.addressOf region))

/-- What a delivery comes to. -/
def readDelivery (operation : Operation) : Delivery → Except Failure Item
  | .broken => .error .notDelivered
  | .late => .error .timedOut
  | .answered response =>
    if response.isSuccess then
      match response.object? operation.success with
      | some item => .ok item
      | none => .error (.refused none)
    else .error (.refused (response.errorCode? operation))

/-- Makes a call about an application of some name.  A client without a region has no endpoint. -/
def Client.call (client : Client) (operation : Operation) (name : String) (network : Network) :
    Except Failure Item × Network :=
  match client.region with
  | none => (.error .notDelivered, network)
  | some region =>
    if isRegion region then
      match endpointFor? client.endpointUrl region with
      | none => (.error .notDelivered, network)
      | some endpoint =>
        let (delivery, network) := network.send ⟨operation, endpoint.uri, region, name⟩
        (readDelivery operation delivery, network)
    else (.error .notBuilt, network)

/-- Makes a call about an application by the client for its region. -/
def SharedConfig.call (shared : SharedConfig) (operation : Operation) (app : ApplicationRef)
    (network : Network) : Except Failure Item × Network :=
  (shared.clientFor app.region).call operation app.name network

/-- The record of a description. -/
def responseRecord (app : ApplicationRef) : Log.Record :=
  ⟨.debug, "describe_application response", [.plain "application" app.display], none⟩

/-- The snapshot that a description gives of an application. -/
def snapshotOf (app : ApplicationRef) (d : Response.Description) : ApplicationSnapshot :=
  ⟨app.name, .parse d.statusWord, some d.versionNumber⟩

namespace SharedConfig

/-- A describe call. -/
def describe (shared : SharedConfig) (app : ApplicationRef) (network : Network) :
    Reply Network ApplicationSnapshot :=
  match shared.call .describe app network with
  | (.ok item, network) => ⟨.ok (snapshotOf app (.ofItem item)), network, [responseRecord app]⟩
  | (.error e, network) => ⟨.error (e.classify .describe app), network, []⟩

/-- A start call. -/
def start (shared : SharedConfig) (app : ApplicationRef) (network : Network) :
    Reply Network Unit :=
  match shared.call .start app network with
  | (.ok _, network) => ⟨.ok (), network, []⟩
  | (.error e, network) => ⟨.error (e.classify .start app), network, []⟩

/-- The control plane of the service. -/
def plane (shared : SharedConfig) : ControlPlane Network where
  name := "kinesisanalyticsv2"
  describe := shared.describe
  start := shared.start

end SharedConfig

/-- The control plane of the service with the settings that were found, and an endpoint that
replaces the one found if it is given. -/
def plane (replacement : Option String) (found : SharedConfig := {}) : ControlPlane Network :=
  (found.below replacement).plane

end StartOnReady.Service
