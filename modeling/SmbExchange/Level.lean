import SmbExchange.Text.Decimal

/-!
# Levels

How much an event matters.  The more a reader wants to see, the higher the verbosity: an event is
let through when its level is within it.
-/

namespace SmbExchange

inductive Level where
  | error
  | warn
  | info
  | debug
  | trace
  deriving DecidableEq, Repr

namespace Level

/-- The levels, gravest first. -/
def all : List Level :=
  [error, warn, info, debug, trace]

def name : Level → String
  | error => "ERROR"
  | warn => "WARN"
  | info => "INFO"
  | debug => "DEBUG"
  | trace => "TRACE"

/-- The name of a level in small letters. -/
def lowerName : Level → String
  | error => "error"
  | warn => "warn"
  | info => "info"
  | debug => "debug"
  | trace => "trace"

/-- How much a level lets through: one for errors alone, five for everything. -/
def verbosity : Level → Nat
  | error => 1
  | warn => 2
  | info => 3
  | debug => 4
  | trace => 5

/-- A text with its ASCII letters small. -/
def fold (text : String) : String :=
  String.ofList (text.toList.map Char.toLower)

/-- The level that a text names, in letters of either case or by its verbosity. -/
def ofText? (text : String) : Option Level :=
  match Decimal.below? UInt64.size text with
  | some number => all.find? (·.verbosity = number)
  | none => all.find? (·.lowerName = fold text)

theorem ofText?_lowerName (level : Level) : ofText? level.lowerName = some level := by
  cases level <;> decide +kernel

end Level

end SmbExchange
