import SmbExchange.Config.Duration
import SmbExchange.Frame.Header
import SmbExchange.Level
import SmbExchange.Packet.Basic
import SmbExchange.Session.Basic

/-!
# Configurations

What can be set, in four sections: the client, its signing, its transport, its logging.  Every
section has a default, and the defaults together are a configuration that can be used.
-/

namespace SmbExchange

namespace Config

structure Client where
  address : String
  connectionTimeout : Duration
  /-- How long a response is waited for. -/
  responseTimeout : Duration
  pollTimeout : Duration
  /-- The capacity of new packets. -/
  bufferSize : UInt64
  /-- The process id put into requests. -/
  processId : UInt16
  /-- Each response is logged in words. -/
  dumpPackets : Bool
  deriving DecidableEq, Repr

structure Signing where
  /-- Signatures of responses are checked. -/
  verifyReceived : Bool
  deriving DecidableEq, Repr

structure Transport where
  /-- The longest payload that is accepted. -/
  maximumFrame : UInt64
  /-- Small writes are sent at once. -/
  sendsAtOnce : Bool
  deriving DecidableEq, Repr

structure Logging where
  /-- The name under which the application reports. -/
  application : String
  level : Level
  toConsole : Bool
  toFile : Bool
  path : Option String
  asJson : Bool
  deriving DecidableEq, Repr

/-- The address of a server on this machine, at the port that servers listen on. -/
def defaultAddress : String := "127.0.0.1:445"

/-- The client of a configuration that says nothing about it. -/
def Client.default : Client where
  address := defaultAddress
  connectionTimeout := .ofMilliseconds 5000
  responseTimeout := .ofMilliseconds 30000
  pollTimeout := .ofMilliseconds 500
  bufferSize := UInt64.ofNat Packet.defaultCapacity
  processId := 1
  dumpPackets := false

/-- The signing of a configuration that says nothing about it. -/
def Signing.default : Signing :=
  ⟨true⟩

/-- The transport of a configuration that says nothing about it. -/
def Transport.default : Transport :=
  ⟨UInt64.ofNat Frame.maximumLength, true⟩

/-- The logging of a configuration that says nothing about it. -/
def Logging.default : Logging where
  application := "smb-protocol"
  level := .info
  toConsole := true
  toFile := false
  path := none
  asJson := false

end Config

structure Config where
  client : Config.Client
  signing : Config.Signing
  transport : Config.Transport
  logging : Config.Logging
  deriving DecidableEq, Repr

namespace Config

def default : Config :=
  ⟨.default, .default, .default, .default⟩

def settings (config : Config) : Settings where
  verifyReceived := config.signing.verifyReceived
  processId := config.client.processId
  responseWait := config.client.responseTimeout.ticks
  pollWait := config.client.pollTimeout.ticks
  bufferSize := config.client.bufferSize.toNat
  dumpPackets := config.client.dumpPackets

end Config

end SmbExchange
