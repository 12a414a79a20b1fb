import Retrieval.Http.Network

/-!
# Services

A service takes JSON at an address and answers with JSON.  Each call is one
request; it is not repeated when it fails.
-/

namespace Retrieval

open Http (Network Request)

structure Service where
  address : String
  key : String
  deriving DecidableEq, Repr

namespace Service

/-- The service of a name below a base address, whose slashes at the end do not count. -/
def below (baseUrl name key : String) : Service :=
  let base := (baseUrl.toList.reverse.dropWhile (· == '/')).reverse
  ⟨String.ofList base ++ "/" ++ name, key⟩

/-- The value with which the service answers another one. -/
def call (service : Service) (body : Json) (network : Network) : Except Failure Json × Network :=
  let unreachable := Failure.transport (.unreachable service.address)
  match Request.to? service.address service.key body with
  | none => (.error unreachable, network)
  | some request =>
      match network.reach request.key Network.redirectionLimit request with
      | (none, network) => (.error unreachable, network)
      | (some reply, network) => ((reply.json service.address).mapError .transport, network)

end Service

end Retrieval
