import SmbExchange.Config.Basic
import SmbExchange.Transport.Connection
import SmbExchange.Transport.Endpoint

/-!
# Connecting

Connecting asks the network for an endpoint and waits for its answer, but no longer than the
configuration allows.  An address that names no endpoint is refused before the network is asked.
-/

namespace SmbExchange

inductive Network.Answer where
  | accepted (pipe : Pipe)
  /-- There is no way, and this is why. -/
  | refused (reason : String)
  deriving DecidableEq, Repr

/-- What is answered to a call at an endpoint, and after how many milliseconds. -/
abbrev Network := Endpoint → Nat × Network.Answer

namespace Network

def unreachable : Network :=
  fun _ => (0, .refused "Network is unreachable (os error 101)")

end Network

namespace Connection

/-- The fault of a call that came to nothing. -/
def connectFailed (reason : String) : Fault :=
  .transport ("Connect failed: " ++ reason)

def connect (network : Network) (config : Config) : Except Fault Connection :=
  match Endpoint.ofAddress config.client.address with
  | .error fault => .error (connectFailed fault.message)
  | .ok endpoint =>
    let (delay, answer) := network endpoint
    if config.client.connectionTimeout.ticks < delay then .error .timeout
    else
      match answer with
      | .refused reason => .error (connectFailed reason)
      | .accepted pipe =>
        .ok { Connection.new config.transport.maximumFrame.toNat with pipe := pipe }

end Connection

end SmbExchange
