import SmbExchange.Bytes.Basic
import SmbExchange.Config.Basic

/-!
# Configuration by environment variables

Variables may replace six of the defaults.  A variable whose value is not text, or is not of the
right kind, counts as not set.
-/

namespace SmbExchange

abbrev Environment := List (String × Bytes)

def Environment.text? (environment : Environment) (name : String) : Option String :=
  (environment.lookup name).bind fun value => String.fromUTF8? ⟨value.toArray⟩

namespace Config

/-- What the names of all variables start with. -/
def variableStem : String := "SMB_PROTOCOL_"

def truth? (text : String) : Option Bool :=
  if text = "true" then some true else if text = "false" then some false else none

def word? (text : String) : Option UInt64 :=
  (Decimal.below? UInt64.size text).map UInt64.ofNat

/-- The default configuration with what the environment says in its place. -/
def ofEnvironment (environment : Environment) : Config :=
  let text (name : String) : Option String := environment.text? (variableStem ++ name)
  let client := Client.default
  { default with
    client := { client with
      address := (text "SERVER_ADDRESS").getD client.address
      connectionTimeout :=
        (((text "CONNECTION_TIMEOUT_MS").bind word?).map Duration.ofMilliseconds).getD
          client.connectionTimeout
      responseTimeout :=
        (((text "RESPONSE_TIMEOUT_MS").bind word?).map Duration.ofMilliseconds).getD
          client.responseTimeout
      bufferSize := ((text "BUFFER_SIZE").bind word?).getD client.bufferSize
      dumpPackets := ((text "DUMP_PACKETS").bind truth?).getD client.dumpPackets }
    signing := ⟨((text "VERIFY_SIGNATURES").bind truth?).getD Signing.default.verifyReceived⟩ }

end Config

end SmbExchange
