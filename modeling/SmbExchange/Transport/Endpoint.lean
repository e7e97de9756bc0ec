import SmbExchange.Text.Decimal

/-!
# Endpoints

An address is a host and a port with a colon between them.  The host may hold colons itself: the
last one counts.
-/

namespace SmbExchange

structure Endpoint where
  /-- The name or the number of the host. -/
  host : String
  port : UInt16
  deriving DecidableEq, Repr

inductive AddressFault where
  | noPort
  | invalidPort
  /-- No host has a zero character in its name. -/
  | zeroInHost
  deriving DecidableEq, Repr

def AddressFault.message : AddressFault → String
  | noPort => "invalid socket address"
  | invalidPort => "invalid port value"
  | zeroInHost => "file name contained an unexpected NUL byte"

namespace Endpoint

/-- What stands before and behind the last colon. -/
def splitAtLastColon? (text : String) : Option (String × String) :=
  match text.toList.reverse.span (· ≠ ':') with
  | (_, []) => none
  | (port, _ :: host) => some (String.ofList host.reverse, String.ofList port.reverse)

def port? (text : String) : Option UInt16 :=
  (Decimal.below? UInt16.size text).map UInt16.ofNat

def ofAddress (address : String) : Except AddressFault Endpoint :=
  match splitAtLastColon? address with
  | none => .error .noPort
  | some (host, text) =>
    match port? text with
    | none => .error .invalidPort
    | some port => if host.toList.contains '\x00' then .error .zeroInHost else .ok ⟨host, port⟩

end Endpoint

end SmbExchange
