import SqlShell.Value.Buckets
import SqlShell.Value.Entries
import SqlShell.Yaml.Node
import SqlShell.Yaml.Scalar

/-!
The parts that the nodes of a document stand for. Collections are taken up before they are
filled, and are filled in the order in which they were taken up: of several problems the one
nearest to the root is met, and on one level the first.
-/

namespace SqlShell.Yaml

/-- What a node stands for: a value without parts, or a collection that names its parts by the
numbers of their nodes. The items of a set and the keys of a map have no parts.
-/
inductive Part where
  | plain (value : Value)
  | list (items : List Nat)
  | pairs (items : List (Nat × Nat))
  | set (items : List Value)
  | map (entries : List (Value × Nat))
  deriving Repr

/-- Loading under way: the nodes, what those taken up so far stand for, and the numbers of the
collections among them.
-/
structure Loading where
  nodes : Array Node
  parts : Array (Option Part)
  collections : Array Nat := #[]

/-- A step of loading. -/
abbrev Load := StateT Loading (Except Problem)

/-- The type belongs to collections. -/
def Tag.isCollection : Tag → Bool
  | .orderedMap => true
  | .pairs => true
  | .set => true
  | .sequence => true
  | .mapping => true
  | _ => false

/-- The value of a text in a type. The types of keys with a meaning have no values. -/
def Scalar.value (tag : Tag) (text : List Char) : Except Problem Value :=
  match tag with
  | .null => .ok .null
  | .bool => (Scalar.bool text).map .bool
  | .int => (Scalar.int text).map .int
  | .float => Scalar.float text
  | .binary => (Scalar.binary text).map .bytes
  | .moment => Scalar.moment text
  | .text => .ok (.text (String.ofList text))
  | _ => .error .malformed

namespace Loading

/-- The node with a number. -/
def node (loading : Loading) (number : Nat) : Node :=
  (loading.nodes[number]?).getD .absent

/-- The entries of the node with a number, if it is a mapping. -/
def entries? (loading : Loading) (number : Nat) : Option (List (Nat × Nat)) :=
  match loading.node number with
  | .mapping _ entries => some entries
  | _ => none

/-- The node with a number takes another form. -/
def change (loading : Loading) (number : Nat) (form : Node → Node) : Loading :=
  { loading with nodes := loading.nodes.modify number form }

/-- The mapping with a number gets other entries. -/
def setEntries (loading : Loading) (number : Nat) (entries : List (Nat × Nat)) : Loading :=
  loading.change number fun node => .mapping node.tag entries

/-- The first of the entries whose key has a type. -/
def entryOfType? (loading : Loading) (tag : Tag) (entries : List (Nat × Nat)) :
    Option (Nat × Nat) :=
  entries.find? fun entry => (loading.node entry.1).tag = tag

/-- A key that marks the value of its mapping is an ordinary text from now on. -/
def keepKey (loading : Loading) (key : Nat) : Loading :=
  if (loading.node key).tag = .default then loading.change key (·.withTag .text) else loading

/-- What a node stands for is known. -/
def setPart (loading : Loading) (number : Nat) (part : Part) : Loading :=
  { loading with parts := loading.parts.setIfInBounds number (some part) }

end Loading

namespace Load

/-- The text of a node that stands for a scalar: its own, or the one of the entry of a mapping
that is marked as its value.
-/
def scalarText : Nat → Nat → Load (List Char)
  | 0, _ => throw .malformed
  | fuel + 1, number => do
      let loading ← get
      match loading.node number with
      | .scalar _ text => return text
      | .sequence _ _ => throw .malformed
      | .mapping _ entries =>
          match loading.entryOfType? .default entries with
          | some (_, value) => scalarText fuel value
          | none => throw .malformed

/-- The value of a node that is no collection. -/
def plainValue (number : Nat) : Load Value := do
  let loading ← get
  let text ← scalarText (loading.nodes.size + 1) number
  match loading.node number with
  | .mapping .moment _ => throw .momentMapping
  | node => Scalar.value node.tag text

/-- Takes up a node, unless that has been done. A collection is left to be filled. -/
def takeUp (number : Nat) : Load Unit := do
  let loading ← get
  if ((loading.parts[number]?).getD none).isSome then
    return ()
  if (loading.node number).tag.isCollection then
    set { loading.setPart number (.list []) with
      collections := loading.collections.push number }
  else
    let value ← plainValue number
    modify (·.setPart number (.plain value))

/-- Lets a mapping take over the entries of the mappings that its merge keys name. They come
before its own ones. Of several mappings under one key the later ones come first. A mapping may
name itself, and then takes over what it has at that moment.
-/
def merge : Nat → Nat → Load Unit
  | 0, _ => return ()
  | fuel + 1, number => do
      let loading ← get
      let entries := (loading.entries? number).getD []
      match loading.entryOfType? .merge entries with
      | none => set (entries.foldl (fun loading entry => loading.keepKey entry.1) loading)
      | some entry =>
          let mergedEntries (mapping : Nat) : Load (List (Nat × Nat)) := do
            merge fuel mapping
            match (← get).entries? mapping with
            | some entries => return entries
            | none => throw .malformed
          set (loading.setEntries number (entries.erase entry))
          let taken ←
            match loading.node entry.2 with
            | .mapping _ _ => mergedEntries entry.2
            | .sequence _ items => do
                pure (← items.mapM mergedEntries).reverse.flatten
            | .scalar _ _ => throw .malformed
          merge fuel number
          modify fun loading =>
            loading.setEntries number (taken ++ (loading.entries? number).getD [])

/-- The entries with a key set to a part: in place if the key is there, else at the end. A node
is the same key as itself, whatever it stands for.
-/
def put (keyNode : Nat) (key : Value) (value : Nat)
    : List (Nat × Value × Nat) → List (Nat × Value × Nat)
  | [] => [(keyNode, key, value)]
  | entry :: rest =>
      if entry.1 = keyNode || entry.2.1.sameKey key then (entry.1, entry.2.1, value) :: rest
      else entry :: put keyNode key value rest

/-- Takes up the keys and values of a mapping, and tells its entries. Collections cannot be keys.
-/
def keyedEntries (number : Nat) : Load (List (Value × Nat)) := do
  let loading ← get
  let count := (loading.nodes.map fun node =>
    match node with
    | .mapping _ entries => entries.length
    | _ => 0).foldl (· + ·) 0
  merge (count + 1) number
  match (← get).entries? number with
  | none => throw .malformed
  | some entries =>
      let keyed ← entries.foldlM (fun keyed (keyNode, value) => do
        takeUp keyNode
        match ((← get).parts[keyNode]?).getD none with
        | some (.plain key) => do
            takeUp value
            return put keyNode key value keyed
        | _ => throw .malformed) []
      return keyed.map (·.2)

/-- Takes up the parts of a collection. -/
def fill (number : Nat) : Load Unit := do
  let loading ← get
  let node := loading.node number
  let part ←
    match node.tag, node with
    | .sequence, .sequence _ items => do
        items.forM takeUp
        pure (Part.list items)
    | .mapping, _ => do
        pure (.map (← keyedEntries number))
    | .set, _ => do
        pure (.set (Value.listed ((← keyedEntries number).map (·.1))))
    | _, .sequence _ items => do
        let pairs ← items.mapM fun item => do
          match (← get).entries? item with
          | some [(key, value)] => do
              takeUp key
              takeUp value
              return (key, value)
          | _ => throw .malformed
        pure (.pairs pairs)
    | _, _ => throw .malformed
  modify (·.setPart number part)

/-- Fills the collections from a place on, among them those that are taken up meanwhile. -/
def fillFrom : Nat → Nat → Load Unit
  | 0, _ => return ()
  | fuel + 1, place => do
      match (← get).collections[place]? with
      | none => return ()
      | some number => do
          fill number
          fillFrom fuel (place + 1)

end Load

/-- What a document stands for: its parts by the numbers of their nodes, and the number of the
one that is the whole.
-/
structure Document where
  parts : Array Part
  root : Nat
  deriving Repr

namespace Document

/-- The document without content. -/
def empty : Document where
  parts := #[.plain .null]
  root := 0

/-- The document that the nodes of a text stand for. -/
def ofGraph (graph : Graph) : Except Problem Document := do
  let count := graph.nodes.size
  let load : Load Unit := do
    Load.takeUp graph.root
    Load.fillFrom count 0
  let (_, loading) ← load.run { nodes := graph.nodes, parts := Array.replicate count none }
  return { parts := loading.parts.map (·.getD (.plain .null)), root := graph.root }

/-- The only document of a text; a text without a document has the empty one. Two texts are read
otherwise elsewhere. Nodes may stand in each other to any depth, while a loader that calls itself for
inner nodes gives up from about five hundred levels on. And an escape of half a surrogate pair, which
is no character, stands for U+FFFD.
-/
def ofText (text : List Char) : Except Problem Document := do
  match ← Graph.ofText? text with
  | none => return empty
  | some graph => ofGraph graph

/-- The part with a number. -/
def part (document : Document) (number : Nat) : Part :=
  (document.parts[number]?).getD (.plain .null)

/-- The value of a part inside the given ones, at most so many levels deep. -/
def valueWithin (document : Document) : Nat → List Nat → Nat → Value
  | 0, _, _ => .null
  | fuel + 1, around, number =>
      let inner := document.valueWithin fuel (number :: around)
      if around.contains number then
        match document.part number with
        | .map _ => .again true
        | _ => .again false
      else
        match document.part number with
        | .plain value => value
        | .list items => .list (items.map inner)
        | .pairs items => .list (items.map fun (key, value) => .pair (inner key) (inner value))
        | .set items => .set items
        | .map entries => .map (entries.map fun (key, value) => (key, inner value))

/-- The value of a part. -/
def value (document : Document) (number : Nat) : Value :=
  document.valueWithin (document.parts.size + 1) [] number

/-- The entries of a part that is a map, each with the value of its own part. -/
def entries? (document : Document) (number : Nat) : Option Entries :=
  match document.part number with
  | .map entries => some (entries.map fun (key, value) => (key, document.value value))
  | _ => none

/-- The part under a key of the whole, if there is one, and the document without that entry. -/
def take (document : Document) (key : Value) : Option Nat × Document :=
  match document.part document.root with
  | .map entries =>
      let rest := entries.filter fun entry => !entry.1.sameKey key
      ((entries.find? (·.1.sameKey key)).map (·.2),
        { document with parts := document.parts.setIfInBounds document.root (.map rest) })
  | _ => (none, document)

end Document

end SqlShell.Yaml
