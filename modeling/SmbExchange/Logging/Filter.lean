import SmbExchange.Logging.Directive

/-!
# Filters

A filter is a list of directives.  Of those that speak of an event the most specific one decides,
and of two that are as specific the later one; an event that none speaks of is not let through.
-/

namespace SmbExchange.Logging

abbrev Filter := List Directive

namespace Filter

/-- The filter that lets a level and all graver ones through. -/
def ofLevel (level : Level) : Filter :=
  [.ofLevel level]

/-- The filter that a text is: directives with commas between them.  Where there is no directive,
errors alone are let through. -/
def ofText? (text : String) : Option Filter := do
  let parts := (text.toList.splitOn ',').filter fun part => !part.isEmpty
  if parts.isEmpty then return ofLevel .error
  parts.mapM Directive.ofText?

/-- The directive that decides about events with a target and with named values. -/
def decisive? (filter : Filter) (target : String) (names : List String) : Option Directive :=
  (filter.filter (·.concerns target names)).foldl (fun best next =>
    match best with
    | some directive => if next.overrules directive then some next else best
    | none => some next) none

/-- An event is let through. -/
def allows (filter : Filter) (target : String) (names : List String) (level : Level) : Bool :=
  match filter.decisive? target names with
  | some directive => level.verbosity ≤ directive.verbosity
  | none => false

end Filter

end SmbExchange.Logging
