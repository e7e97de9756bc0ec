import SmbExchange.Fault
import SmbExchange.Json.Writer
import SmbExchange.Text.Quoted

/-!
# Faults as records

A fault is its kind and what belongs to it: nothing, one value, or named values.  From this follow
the JSON form that faults are exchanged in and the form in which a fault shows itself in a log.  A
stream fault is exchanged in neither direction.
-/

namespace SmbExchange.Fault

inductive Datum where
  | number (value : Nat)
  | text (value : String)
  deriving DecidableEq, Repr

inductive Content where
  | bare
  | single (value : Datum)
  | named (values : List (String × Datum))
  deriving DecidableEq, Repr

def kind : Fault → String
  | stream _ => "Io"
  | transport _ => "TransportError"
  | connectionClosed => "ConnectionClosed"
  | timeout => "Timeout"
  | shortReceive _ => "ShortReceive"
  | legacyStatus _ _ => "SmbError"
  | ntStatus _ => "NtStatus"
  | signatureMismatch => "SignatureMismatch"
  | parameterIndex _ _ => "ParameterIndex"
  | bufferOverflow _ _ _ => "BufferOverflow"
  | invalidHeader => "InvalidHeader"
  | unexpectedCommand _ => "UnexpectedCommand"
  | oversizedPacket _ => "OversizedPacket"
  | unencodableChar _ => "UnencodableChar"
  | config _ => "ConfigError"
  | custom _ => "Custom"

def content : Fault → Content
  | stream cause => .single (.text cause.message)
  | transport text | config text | custom text => .single (.text text)
  | connectionClosed | timeout | signatureMismatch | invalidHeader => .bare
  | shortReceive length | oversizedPacket length => .single (.number length)
  | legacyStatus errorClass code =>
    .named [("class", .number errorClass.toNat), ("code", .number code.toNat)]
  | ntStatus code => .single (.number code.toNat)
  | parameterIndex index count =>
    .named [("index", .number index), ("count", .number count.toNat)]
  | bufferOverflow offset length capacity =>
    .named [("offset", .number offset), ("len", .number length), ("capacity", .number capacity)]
  | unexpectedCommand command => .single (.number command.toNat)
  | unencodableChar codePoint => .single (.number codePoint.toNat)

/-! ## As JSON -/

def Datum.toJson : Datum → Json.Value
  | number value => .ofNat value
  | text value => .ofText value

/-- A fault as JSON.  Stream faults have no such form. -/
def toJson? (fault : Fault) : Option Json.Value :=
  match fault, fault.content with
  | stream _, _ => none
  | _, .bare => some (.ofText fault.kind)
  | _, .single value => some (.object [(some fault.kind, value.toJson)])
  | _, .named values =>
    some (.object [(some fault.kind,
      .object (values.map fun entry => (some entry.1, entry.2.toJson)))])

/-- Why a stream fault cannot be written. -/
def unwritable : String := "the enum variant ProtocolError::Io cannot be serialized"

def jsonText (fault : Fault) : Except String String :=
  match fault.toJson? with
  | some value => .ok value.toText
  | none => .error unwritable

/-- The fault of a kind without content. -/
def ofBare? : String → Option Fault
  | "ConnectionClosed" => some connectionClosed
  | "Timeout" => some timeout
  | "SignatureMismatch" => some signatureMismatch
  | "InvalidHeader" => some invalidHeader
  | _ => none

def ofSingle? (kind : String) (value : Json.Value) : Option Fault :=
  match kind with
  | "TransportError" => value.toText?.map transport
  | "ConfigError" => value.toText?.map config
  | "Custom" => value.toText?.map custom
  | "ShortReceive" => (value.below? UInt64.size).map shortReceive
  | "OversizedPacket" => (value.below? UInt64.size).map oversizedPacket
  | "NtStatus" => (value.below? UInt32.size).map (ntStatus ∘ UInt32.ofNat)
  | "UnexpectedCommand" => (value.below? UInt8.size).map (unexpectedCommand ∘ UInt8.ofNat)
  | "UnencodableChar" => (value.below? UInt32.size).map (unencodableChar ∘ UInt32.ofNat)
  | _ => none

def ofNamed? (kind : String) (value : Json.Value) : Option Fault :=
  match kind with
  | "SmbError" => do
    let [errorClass, code] ← value.fields? ["class", "code"] | none
    return legacyStatus (UInt8.ofNat (← errorClass.below? UInt8.size))
      (UInt8.ofNat (← code.below? UInt8.size))
  | "ParameterIndex" => do
    let [index, count] ← value.fields? ["index", "count"] | none
    return parameterIndex (← index.below? UInt64.size) (UInt8.ofNat (← count.below? UInt8.size))
  | "BufferOverflow" => do
    let [offset, length, capacity] ← value.fields? ["offset", "len", "capacity"] | none
    return bufferOverflow (← offset.below? UInt64.size) (← length.below? UInt64.size)
      (← capacity.below? UInt64.size)
  | _ => none

/-- The fault that a JSON value is.  A kind without content may also be written with a null. -/
def ofJson? : Json.Value → Option Fault
  | .string (some kind) => ofBare? kind
  | .object [(some kind, .null)] => ofBare? kind
  | .object [(some kind, value)] => (ofSingle? kind value).or (ofNamed? kind value)
  | _ => none

/-! ## As text -/

def Datum.summary : Datum → String
  | number value => toString value
  | text value => Quoted.encode value

def streamSummary : StreamFault → String
  | .brokenPipe => "Kind(BrokenPipe)"
  | cause => "Custom \x7b kind: Other, error: " ++ Quoted.encode cause.message ++ " \x7d"

def summary (fault : Fault) : String :=
  match fault, fault.content with
  | stream cause, _ => fault.kind ++ "(" ++ streamSummary cause ++ ")"
  | _, .bare => fault.kind
  | _, .single value => fault.kind ++ "(" ++ value.summary ++ ")"
  | _, .named values =>
    fault.kind ++ " \x7b "
      ++ String.intercalate ", " (values.map fun entry => entry.1 ++ ": " ++ entry.2.summary)
      ++ " \x7d"

end SmbExchange.Fault
