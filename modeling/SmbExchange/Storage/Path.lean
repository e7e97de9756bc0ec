/-!
# Paths

A path is text whose components are separated by slashes.  Empty components and single dots mean
nothing, but for a dot in front.  The parent of a path is the text up to its last component, and is
cut out of the path as it stands.
-/

namespace SmbExchange.Path

/-- The most bytes of a component. -/
def longestName : Nat := 255

def longestPath : Nat := 4095

/-- What no component takes away, the root or the dot in front, and the rest. -/
def anchor : List Char → List Char × List Char
  | '/' :: rest => (['/'], rest)
  | ['.'] => (['.'], [])
  | '.' :: '/' :: rest => (['.'], '/' :: rest)
  | chars => ([], chars)

/-- A reversed text without the components at its end that mean nothing. -/
def trim : List Char → List Char
  | '/' :: rest => trim rest
  | ['.'] => []
  | '.' :: '/' :: rest => trim rest
  | chars => chars

/-- A reversed text without its last component. -/
def dropComponent (chars : List Char) : List Char :=
  trim ((chars.dropWhile (· ≠ '/')).drop 1)

/-- The parent of a path.  The root and the empty path have none. -/
def parent? (path : String) : Option String :=
  let (front, body) := anchor path.toList
  match trim body.reverse with
  | [] => if front = ['.'] then some "" else none
  | chars => some (String.ofList (front ++ (dropComponent chars).reverse))

/-- The components of a path but for the empty ones. -/
def components (path : String) : List (List Char) :=
  (path.toList.splitOn '/').filter fun component => !component.isEmpty

def endsInSlash (path : String) : Bool :=
  path.toList.getLast? = some '/'

end SmbExchange.Path

namespace SmbExchange

/-- Where a path leads: from the root or from the working directory, along names. -/
structure Place where
  /-- The way starts at the root. -/
  isAbsolute : Bool
  names : List String
  deriving DecidableEq, Repr

namespace Place

def origin (path : String) : Place :=
  ⟨path.toList.head? = some '/', []⟩

/-- Where a component leads.  A dot leads nowhere, and two dots lead back, but not beyond where the
way starts. -/
def follow (place : Place) (component : List Char) : Place :=
  if component = ['.'] then place
  else if component = ['.', '.'] then { place with names := place.names.dropLast }
  else { place with names := place.names ++ [String.ofList component] }

def ofPath (path : String) : Place :=
  (Path.components path).foldl follow (origin path)

end Place

end SmbExchange
