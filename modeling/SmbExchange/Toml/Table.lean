import SmbExchange.Toml.Value

/-!
# Building tables

A document is a sequence of lines, and each line may extend the tables that earlier lines made.  What
it may extend depends on how a table came to be.  A table that a header names is closed once its
lines end.  A table that only stands on the way to another may be named by a header later, once.  A
table that dotted keys made may be extended by dotted keys alone.  Nothing is ever set twice.
-/

namespace SmbExchange.Toml

/-- What a name stands for while tables are built. -/
inductive Node where
  | leaf (value : Value)
  /-- A table: whether it only stands on the way to another, whether dotted keys made it, and its
  entries. -/
  | table (isImplicit isDotted : Bool) (entries : List (String × Node))
  /-- Tables that share a header, oldest first. -/
  | tables (elements : List (List (String × Node)))

/-- The entries of a table that is being built. -/
abbrev Nodes := List (String × Node)

namespace Nodes

/-- Puts a node in the place of the one that a name stands for. -/
def replace (nodes : Nodes) (name : String) (node : Node) : Nodes :=
  nodes.map fun entry => if entry.1 = name then (name, node) else entry

def without (nodes : Nodes) (name : String) : Nodes :=
  nodes.filter fun entry => entry.1 ≠ name

/-- Changes the table at the end of a path, and makes the tables on the way that are missing.  The
change is told whether dotted keys made the table. -/
def update (byDots : Bool) (change : Bool → Nodes → Option Nodes) :
    (path : List String) → (isDotted : Bool) → Nodes → Option Nodes
  | [], isDotted, nodes => change isDotted nodes
  | name :: path, _, nodes =>
    match nodes.lookup name with
    | none => do
      let made ← update byDots change path byDots []
      return nodes ++ [(name, .table true byDots made)]
    | some (.leaf _) => none
    | some (.table isImplicit isDotted inner) =>
      if byDots && !isImplicit then none
      else do
        let changed ← update byDots change path isDotted inner
        return replace nodes name (.table isImplicit isDotted changed)
    | some (.tables elements) => do
      let last ← elements.getLast?
      let changed ← update byDots change path false last
      return replace nodes name (.tables (elements.dropLast ++ [changed]))

/-- Adds an entry under a name that is still free. -/
def add (nodes : Nodes) (name : String) (node : Node) : Option Nodes :=
  match nodes.lookup name with
  | none => some (nodes ++ [(name, node)])
  | some _ => none

/-- Sets the value of a key.  A dotted key has to end in a table that dotted keys made, a plain one in
a table that they did not make. -/
def assign (nodes : Nodes) (key : List String) (value : Value) : Option Nodes := do
  let name ← key.getLast?
  let path := key.dropLast
  let put (isDotted : Bool) (inner : Nodes) : Option Nodes :=
    if isDotted = path.isEmpty then none else inner.add name (.leaf value)
  update true put path false nodes

end Nodes

mutual

def Node.toValue : Node → Value
  | .leaf value => value
  | .table _ _ entries => .table (Nodes.toEntries entries)
  | .tables elements => .array (Nodes.toItems elements)

def Nodes.toEntries : List (String × Node) → Entries
  | [] => []
  | (name, node) :: rest => (name, node.toValue) :: Nodes.toEntries rest

def Nodes.toItems : List (List (String × Node)) → List Value
  | [] => []
  | entries :: rest => .table (Nodes.toEntries entries) :: Nodes.toItems rest

end

/-- A table written with its keys and values between braces. -/
def inlineTable? (pairs : List (List String × Value)) : Option Value := do
  let nodes ← pairs.foldlM (fun nodes pair => Nodes.assign nodes pair.1 pair.2) []
  return .table (Nodes.toEntries nodes)

inductive Line where
  | pair (key : List String) (value : Value)
  | header (path : List String)
  /-- The header of one of several tables. -/
  | arrayHeader (path : List String)

/-- A document that is being built: the finished tables, and the table that the lines extend. -/
structure Draft where
  root : Nodes
  /-- The table that the lines extend. -/
  current : Nodes
  /-- Where it belongs, and whether it is one of several; nothing for the document itself. -/
  place : Option (List String × Bool)

namespace Draft

def empty : Draft :=
  ⟨[], [], none⟩

def updateParent (nodes : Nodes) (path : List String)
    (change : String → Nodes → Option Nodes) : Option Nodes := do
  let name ← path.getLast?
  Nodes.update false (fun _ parent => change name parent) path.dropLast false nodes

/-- The document with the current table put in its place. -/
def close (draft : Draft) : Option Nodes :=
  match draft.place with
  | none => some draft.current
  | some (path, false) =>
    updateParent draft.root path fun name parent =>
      some (parent ++ [(name, .table false false draft.current)])
  | some (path, true) =>
    updateParent draft.root path fun name parent =>
      match parent.lookup name with
      | none => some (parent ++ [(name, .tables [draft.current])])
      | some (.tables elements) =>
        some (Nodes.replace parent name (.tables (elements ++ [draft.current])))
      | some _ => none

/-- What a header finds under its name, and the document without it. -/
def takeOut? (nodes : Nodes) (path : List String) : Option Nodes :=
  updateParent nodes path fun name parent =>
    match parent.lookup name with
    | none => some parent
    | some (.table true false _) => some (Nodes.without parent name)
    | some _ => none

def entriesAt : (path : List String) → Nodes → Nodes
  | [], nodes => nodes
  | name :: path, nodes =>
    match nodes.lookup name with
    | some (.table _ _ inner) => entriesAt path inner
    | some (.tables elements) => entriesAt path (elements.getLast?.getD [])
    | _ => []

def extend (draft : Draft) : Line → Option Draft
  | .pair key value => do
    let current ← draft.current.assign key value
    return { draft with current := current }
  | .header path => do
    let root ← draft.close
    let current := entriesAt path root
    let without ← takeOut? root path
    return ⟨without, current, some (path, false)⟩
  | .arrayHeader path => do
    let root ← draft.close
    let checked ← updateParent root path fun name parent =>
      match parent.lookup name with
      | none | some (.tables _) => some parent
      | some _ => none
    return ⟨checked, [], some (path, true)⟩

end Draft

/-- The entries of the document that lines make. -/
def entriesOf? (lines : List Line) : Option Entries := do
  let draft ← lines.foldlM Draft.extend Draft.empty
  return Nodes.toEntries (← draft.close)

end SmbExchange.Toml
