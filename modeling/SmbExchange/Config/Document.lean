import SmbExchange.Config.Basic
import SmbExchange.Toml.Codec

/-!
# Configurations as documents

A configuration is written as a document with one table for each of its sections.  When a document
is read, tables and entries without a meaning are passed over, and a section that is not there is
the default one.  Within a section nearly everything has to be there.  What is written in whole
milliseconds is read as such.

Entries are looked at in the order in which they stand, and only then what is missing, so that the
first misfit is the one that a reader of the document meets first.
-/

namespace SmbExchange.Config

inductive Misfit where
  | malformed
  /-- A value is not of the kind that is wanted. -/
  | mistyped
  | missing (name : String)
  | unknownLevel (text : String)
  deriving DecidableEq, Repr

def Misfit.message? : Misfit → Option String
  | malformed | mistyped => none
  | missing name => some ("missing field `" ++ name ++ "`")
  | unknownLevel text => some ("Invalid log level: " ++ text)

/-! ## Values -/

def readText : Toml.Value → Except Misfit String
  | .string value => .ok value
  | _ => .error .mistyped

def readTruth : Toml.Value → Except Misfit Bool
  | .boolean value => .ok value
  | _ => .error .mistyped

def readBelow (bound : Nat) : Toml.Value → Except Misfit Nat
  | .integer (.ofNat value) => if value < bound then .ok value else .error .mistyped
  | _ => .error .mistyped

def readWord (value : Toml.Value) : Except Misfit UInt64 :=
  (readBelow UInt64.size value).map UInt64.ofNat

def readShortWord (value : Toml.Value) : Except Misfit UInt16 :=
  (readBelow UInt16.size value).map UInt16.ofNat

def readDuration (value : Toml.Value) : Except Misfit Duration :=
  (readWord value).map Duration.ofMilliseconds

def readLevel (value : Toml.Value) : Except Misfit Level := do
  let name ← readText value
  match Level.ofText? name with
  | some level => return level
  | none => throw (.unknownLevel name)

/-! ## Entries -/

abbrev Check := Toml.Value → Except Misfit Unit

def check {α : Type} (read : Toml.Value → Except Misfit α) : Check :=
  fun value => (read value).map fun _ => ()

/-- Checks entries in their order.  Those without a check are passed over. -/
def checkAll (checks : List (String × Check)) (entries : Toml.Entries) : Except Misfit Unit :=
  entries.forM fun (name, value) =>
    match checks.lookup name with
    | some check => check value
    | none => .ok ()

/-- Entries, and what it means that one is not there. -/
structure Fields where
  entries : Toml.Entries
  absent : String → Misfit

namespace Fields

/-- What a value gives in the place of a table with these entries.  An array gives them in their
order, and a moment gives none. -/
def ofValue (names : List String) : Toml.Value → Except Misfit Fields
  | .table entries => .ok ⟨entries, .missing⟩
  | .moment _ => .ok ⟨[], .missing⟩
  | .array items => .ok ⟨names.zip items, fun _ => .mistyped⟩
  | _ => .error .mistyped

/-- The fields that a value gives, when all of them pass their checks. -/
def checked (checks : List (String × Check)) (value : Toml.Value) : Except Misfit Fields := do
  let fields ← ofValue (checks.map Prod.fst) value
  checkAll checks fields.entries
  return fields

def get? {α : Type} (fields : Fields) (read : Toml.Value → Except Misfit α) (name : String) :
    Except Misfit (Option α) :=
  match fields.entries.lookup name with
  | some value => (read value).map some
  | none => .ok none

def get {α : Type} (fields : Fields) (read : Toml.Value → Except Misfit α) (name : String) :
    Except Misfit α :=
  match fields.entries.lookup name with
  | some value => read value
  | none => .error (fields.absent name)

end Fields

/-! ## Sections -/

def Client.checks : List (String × Check) :=
  [("address", check readText), ("connection_timeout", check readDuration),
   ("response_timeout", check readDuration), ("async_poll_timeout", check readDuration),
   ("buffer_size", check readWord), ("process_id", check readShortWord),
   ("dump_packets", check readTruth)]

def Client.ofValue (value : Toml.Value) : Except Misfit Client := do
  let fields ← Fields.checked checks value
  return {
    address := ← fields.get readText "address"
    connectionTimeout := ← fields.get readDuration "connection_timeout"
    responseTimeout := ← fields.get readDuration "response_timeout"
    pollTimeout := ← fields.get readDuration "async_poll_timeout"
    bufferSize := ← fields.get readWord "buffer_size"
    processId := ← fields.get readShortWord "process_id"
    dumpPackets := (← fields.get? readTruth "dump_packets").getD false }

def Signing.checks : List (String × Check) :=
  [("verify_received", check readTruth)]

def Signing.ofValue (value : Toml.Value) : Except Misfit Signing := do
  let fields ← Fields.checked checks value
  return ⟨← fields.get readTruth "verify_received"⟩

def Transport.checks : List (String × Check) :=
  [("max_frame_size", check readWord), ("nodelay", check readTruth)]

def Transport.ofValue (value : Toml.Value) : Except Misfit Transport := do
  let fields ← Fields.checked checks value
  return ⟨← fields.get readWord "max_frame_size", ← fields.get readTruth "nodelay"⟩

def Logging.checks : List (String × Check) :=
  [("app_name", check readText), ("log_level", check readLevel),
   ("log_to_console", check readTruth), ("log_to_file", check readTruth),
   ("log_file_path", check readText), ("json_format", check readTruth)]

def Logging.ofValue (value : Toml.Value) : Except Misfit Logging := do
  let fields ← Fields.checked checks value
  return {
    application := ← fields.get readText "app_name"
    level := ← fields.get readLevel "log_level"
    toConsole := ← fields.get readTruth "log_to_console"
    toFile := ← fields.get readTruth "log_to_file"
    path := ← fields.get? readText "log_file_path"
    asJson := ← fields.get readTruth "json_format" }

/-! ## Documents -/

def checks : List (String × Check) :=
  [("client", check Client.ofValue), ("signing", check Signing.ofValue),
   ("transport", check Transport.ofValue), ("logging", check Logging.ofValue)]

def ofEntries (entries : Toml.Entries) : Except Misfit Config := do
  let fields ← Fields.checked checks (.table entries)
  return {
    client := (← fields.get? Client.ofValue "client").getD .default
    signing := (← fields.get? Signing.ofValue "signing").getD .default
    transport := (← fields.get? Transport.ofValue "transport").getD .default
    logging := (← fields.get? Logging.ofValue "logging").getD .default }

def ofTextBy (codec : Toml.Codec) (text : String) : Except Misfit Config :=
  match codec.read? text with
  | some entries => ofEntries entries
  | none => .error .malformed

def ofText (text : String) : Except Misfit Config :=
  ofTextBy .standard text

/-- A duration as it is written: its whole milliseconds, as a 64-bit word. -/
def writtenDuration (duration : Duration) : Toml.Scalar :=
  .number (UInt64.ofNat duration.milliseconds).toNat

def Client.toSection (client : Client) : Toml.Section where
  name := "client"
  entries :=
    [("address", .text client.address),
     ("connection_timeout", writtenDuration client.connectionTimeout),
     ("response_timeout", writtenDuration client.responseTimeout),
     ("async_poll_timeout", writtenDuration client.pollTimeout),
     ("buffer_size", .number client.bufferSize.toNat),
     ("process_id", .number client.processId.toNat),
     ("dump_packets", .truth client.dumpPackets)]

def Signing.toSection (signing : Signing) : Toml.Section :=
  ⟨"signing", [("verify_received", .truth signing.verifyReceived)]⟩

def Transport.toSection (transport : Transport) : Toml.Section where
  name := "transport"
  entries :=
    [("max_frame_size", .number transport.maximumFrame.toNat),
     ("nodelay", .truth transport.sendsAtOnce)]

def Logging.toSection (logging : Logging) : Toml.Section where
  name := "logging"
  entries :=
    [("app_name", .text logging.application), ("log_level", .text logging.level.lowerName),
     ("log_to_console", .truth logging.toConsole), ("log_to_file", .truth logging.toFile)]
    ++ (logging.path.map fun path => ("log_file_path", .text path)).toList
    ++ [("json_format", .truth logging.asJson)]

def toSections (config : Config) : List Toml.Section :=
  [config.client.toSection, config.signing.toSection, config.transport.toSection,
   config.logging.toSection]

/-- The text of a configuration to a codec, unless something in it cannot be written. -/
def toTextBy? (codec : Toml.Codec) (config : Config) : Option String :=
  codec.write? config.toSections

/-- The text of a configuration, unless one of its numbers is too large to be written. -/
def toText? (config : Config) : Option String :=
  config.toTextBy? .standard

end SmbExchange.Config
