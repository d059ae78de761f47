import SqlShell.Yaml.Tag
import SqlShell.Yaml.Token

/-!
The nodes of a document, put together from its tokens: scalars, sequences and mappings with
their types. An alias stands for the node that its anchor names, so a node may have several places
and may even be a part of itself.
-/

namespace SqlShell.Yaml

/-- A node of a document, which names the nodes inside it by their numbers. -/
inductive Node where
  | scalar (tag : Tag) (text : List Char)
  | sequence (tag : Tag) (items : List Nat)
  | mapping (tag : Tag) (entries : List (Nat × Nat))
  deriving Repr

/-- The node of an entry that is left out. -/
def Node.absent : Node :=
  .scalar .null []

/-- The type of a node. -/
def Node.tag : Node → Tag
  | .scalar tag _ => tag
  | .sequence tag _ => tag
  | .mapping tag _ => tag

/-- The node with another type. -/
def Node.withTag (tag : Tag) : Node → Node
  | .scalar _ text => .scalar tag text
  | .sequence _ items => .sequence tag items
  | .mapping _ entries => .mapping tag entries

/-- The nodes of a document by their numbers, and the number of its root. -/
structure Graph where
  nodes : Array Node
  root : Nat
  deriving Repr

/-- Putting together under way: the tokens still to be used, the problem that ends them, the
meaning of tag handles, the nodes so far, and the numbers of those that anchors name.
-/
structure Assembly where
  rest : List Token
  problem : Option Problem
  handles : List (String × String) := []
  nodes : Array Node := #[]
  anchors : List (String × Nat) := []

/-- A step of putting together. -/
abbrev Assemble := StateT Assembly (Except Problem)

namespace Assemble

/-- The next token, which stays. Where the tokens end early their problem is met. -/
def peek : Assemble Token := do
  let assembly ← get
  match assembly.rest with
  | token :: _ => return token
  | [] => throw (assembly.problem.getD .malformed)

/-- Passes over the next token. -/
def drop : Assemble Unit :=
  modify fun assembly => { assembly with rest := assembly.rest.drop 1 }

/-- Passes over the next token if it is the given one, and tells whether it was. -/
def accept (token : Token) : Assemble Bool := do
  if (← peek) = token then
    drop
    return true
  else
    return false

/-- Passes over the next token, which has to be the given one. -/
def expect (token : Token) : Assemble Unit := do
  if !(← accept token) then
    throw .malformed

/-- The meaning of tag handles in every document. -/
def standardHandles : List (String × String) :=
  [("!", "!"), ("!!", standardAddress)]

/-- Takes in the directives of a document, the `version` having been given or not. Only one
version may be given, and one meaning for each handle.
-/
def directives : Nat → Bool → List (String × String) → Assemble (List (String × String))
  | 0, _, handles => return handles
  | fuel + 1, version, handles => do
      match ← peek with
      | .directive (.version major) =>
          if version || major != 1 then
            throw .malformed
          drop
          directives fuel true handles
      | .directive (.tag handle address) =>
          if handles.any (·.1 == handle) then
            throw .malformed
          drop
          directives fuel version (handles ++ [(handle, address)])
      | .directive .other =>
          drop
          directives fuel version handles
      | _ => return handles

/-- The address of a tag, its handle being replaced by what it stands for. -/
def address (tag : RawTag) : Assemble String := do
  match tag.handle with
  | none => return tag.address
  | some handle =>
      match (← get).handles.find? (·.1 == handle) with
      | some (_, start) => return start ++ tag.address
      | none => throw .malformed

/-- The properties before a node: its anchor and the address of its tag, in either order. -/
def properties : Assemble (Option String × Option String) := do
  match ← peek with
  | .anchor name =>
      drop
      match ← peek with
      | .tag tag =>
          drop
          return (some name, some (← address tag))
      | _ => return (some name, none)
  | .tag tag =>
      drop
      match ← peek with
      | .anchor name =>
          drop
          return (some name, some (← address tag))
      | _ => return (none, some (← address tag))
  | _ => return (none, none)

/-- Takes up a node, and tells its number. -/
def add (node : Node) : Assemble Nat := do
  let number := (← get).nodes.size
  modify fun assembly => { assembly with nodes := assembly.nodes.push node }
  return number

/-- Puts a node in the place of the one with a number. -/
def replace (number : Nat) (node : Node) : Assemble Unit :=
  modify fun assembly => { assembly with nodes := assembly.nodes.setIfInBounds number node }

/-- Gives a name to a node. -/
def bindAnchor (anchor : Option String) (number : Nat) : Assemble Unit :=
  match anchor with
  | none => return ()
  | some name =>
      modify fun assembly => { assembly with anchors := (name, number) :: assembly.anchors }

/-- Refuses an anchor that names another node already. -/
def requireFresh (anchor : Option String) : Assemble Unit := do
  let assembly ← get
  if anchor.any fun name => assembly.anchors.any (·.1 == name) then
    throw .malformed

/-- The node that an anchor names. -/
def anchored (name : String) : Assemble Nat := do
  match (← get).anchors.find? (·.1 == name) with
  | some (_, number) => return number
  | none => throw .malformed

/-- The address asks for the type that the node has by its form. -/
def isFormAddress (address : Option String) : Bool :=
  address.all (· == "!")

/-- The type of a collection: the one of its form unless a tag names another one. -/
def collectionTag (form : Tag) (address : Option String) : Tag :=
  if isFormAddress address then form else Tag.ofAddress (address.getD "")

/-- The type of a scalar. Without a tag a quoted scalar is a text, and with the tag of a single
exclamation mark the form of the scalar tells its type even if it is quoted.
-/
def scalarTag (plain : Bool) (text : List Char) (address : Option String) : Tag :=
  match address with
  | none => if plain then Scalar.tagOf text else .text
  | some address => if address == "!" then Scalar.tagOf text else Tag.ofAddress address

/-- Where a node stands: inside brackets, outside, or outside as the key or value of a mapping,
where the entries of a sequence may follow without indentation.
-/
inductive Place where
  | flow
  | block
  | entryOfMapping
  deriving DecidableEq, Repr

/-- The token ends the content of an entry without brackets. -/
def endsEntry (inMapping : Bool) : Token → Bool
  | .blockEnd => true
  | .entry => !inMapping
  | .key => inMapping
  | .value => inMapping
  | _ => false

/-- The token ends an entry of a sequence whose dashes stand below the key of a mapping. -/
def endsIndentless : Token → Bool
  | .entry => true
  | .key => true
  | .value => true
  | .blockEnd => true
  | _ => false

mutual

/-- Reads a node. The anchor of a collection names it already while its content is read. -/
def node : Nat → Place → Assemble Nat
  | 0, _ => throw .malformed
  | fuel + 1, place => do
      match ← peek with
      | .alias name =>
          drop
          anchored name
      | _ =>
          let (anchor, address) ← properties
          let block := place != .flow
          let collect (read : Assemble Node) : Assemble Nat := do
            requireFresh anchor
            let number ← add .absent
            bindAnchor anchor number
            let found ← read
            replace number (found.withTag (collectionTag found.tag address))
            return number
          match ← peek with
          | .entry =>
              if place = .entryOfMapping then
                collect (return .sequence .sequence (← indentless fuel))
              else
                empty anchor address
          | .scalar plain text =>
              drop
              requireFresh anchor
              let number ← add (.scalar (scalarTag plain text address) text)
              bindAnchor anchor number
              return number
          | .flowSequence =>
              drop
              collect (return .sequence .sequence (← flowItems fuel true))
          | .flowMapping =>
              drop
              collect (return .mapping .mapping (← flowEntries fuel true))
          | .blockSequence =>
              if block then
                drop
                collect (return .sequence .sequence (← blockItems fuel))
              else
                empty anchor address
          | .blockMapping =>
              if block then
                drop
                collect (return .mapping .mapping (← blockEntries fuel))
              else
                empty anchor address
          | _ => empty anchor address

/-- A node without content, which needs an anchor or a tag. -/
def empty (anchor address : Option String) : Assemble Nat := do
  if anchor.isNone && address.isNone then
    throw .malformed
  requireFresh anchor
  let number ← add (.scalar (scalarTag true [] address) [])
  bindAnchor anchor number
  return number

/-- Reads a node unless the next token ends its place, in which case it is absent. -/
def nodeUnless (ends : Token → Bool) : Nat → Place → Assemble Nat
  | 0, _ => throw .malformed
  | fuel + 1, place => do
      if ends (← peek) then
        add .absent
      else
        node fuel place

/-- Reads the items of a sequence up to its end. -/
def blockItems : Nat → Assemble (List Nat)
  | 0 => throw .malformed
  | fuel + 1 => do
      if ← accept .entry then
        let item ← nodeUnless (endsEntry false) fuel .block
        return item :: (← blockItems fuel)
      else
        expect .blockEnd
        return []

/-- Reads the items of a sequence whose dashes stand below the key of a mapping. -/
def indentless : Nat → Assemble (List Nat)
  | 0 => throw .malformed
  | fuel + 1 => do
      if ← accept .entry then
        let item ← nodeUnless endsIndentless fuel .block
        return item :: (← indentless fuel)
      else
        return []

/-- Reads the entries of a mapping up to its end. -/
def blockEntries : Nat → Assemble (List (Nat × Nat))
  | 0 => throw .malformed
  | fuel + 1 => do
      if ← accept .key then
        let key ← nodeUnless (endsEntry true) fuel .entryOfMapping
        let value ←
          if ← accept .value then nodeUnless (endsEntry true) fuel .entryOfMapping
          else add .absent
        return (key, value) :: (← blockEntries fuel)
      else
        expect .blockEnd
        return []

/-- Reads the items of a sequence in brackets up to its end; a key among them makes a mapping
with a single entry.
-/
def flowItems : Nat → Bool → Assemble (List Nat)
  | 0, _ => throw .malformed
  | fuel + 1, first => do
      if ← accept .flowSequenceEnd then
        return []
      if !first then
        expect .flowEntry
      if ← accept .flowSequenceEnd then
        return []
      let item ←
        if ← accept .key then
          let key ← nodeUnless
            (fun t => t = .value || t = .flowEntry || t = .flowSequenceEnd) fuel .flow
          let value ←
            if ← accept .value then
              nodeUnless (fun t => t = .flowEntry || t = .flowSequenceEnd) fuel .flow
            else
              add .absent
          add (.mapping .mapping [(key, value)])
        else
          node fuel .flow
      return item :: (← flowItems fuel false)

/-- Reads the entries of a mapping in brackets up to its end; an item without a key mark is a
key without a value.
-/
def flowEntries : Nat → Bool → Assemble (List (Nat × Nat))
  | 0, _ => throw .malformed
  | fuel + 1, first => do
      if ← accept .flowMappingEnd then
        return []
      if !first then
        expect .flowEntry
      if ← accept .flowMappingEnd then
        return []
      let entry ←
        if ← accept .key then
          let key ← nodeUnless
            (fun t => t = .value || t = .flowEntry || t = .flowMappingEnd) fuel .flow
          let value ←
            if ← accept .value then
              nodeUnless (fun t => t = .flowEntry || t = .flowMappingEnd) fuel .flow
            else
              add .absent
          pure (key, value)
        else
          pure (← node fuel .flow, ← add .absent)
      return entry :: (← flowEntries fuel false)

end

/-- Reads the content of a document; only one with a start mark may have none. -/
def content (fuel : Nat) (explicit : Bool) : Assemble Nat := do
  match ← peek with
  | .directive _ => if explicit then add .absent else throw .malformed
  | .documentStart => if explicit then add .absent else throw .malformed
  | .documentEnd => if explicit then add .absent else node fuel .block
  | .streamEnd => if explicit then add .absent else throw .malformed
  | _ => node fuel .block

/-- Passes over the marks that end documents. -/
def dropEndMarks : Nat → Assemble Unit
  | 0 => return ()
  | fuel + 1 => do
      if ← accept .documentEnd then
        dropEndMarks fuel

/-- Reads the only document of a stream, if there is one. A second one is met after its
directives.
-/
def document (fuel : Nat) : Assemble (Option Nat) := do
  match ← peek with
  | .streamEnd => return none
  | .directive _ => explicitDocument
  | .documentStart => explicitDocument
  | _ =>
      modify fun assembly => { assembly with handles := standardHandles }
      let root ← content fuel false
      finish
      return some root
where
  finish : Assemble Unit := do
    dropEndMarks fuel
    if !(← accept .streamEnd) then
      let _ ← directives fuel false []
      throw .malformed
  explicitDocument : Assemble (Option Nat) := do
    let handles ← directives fuel false []
    modify fun assembly => { assembly with handles := handles ++ standardHandles }
    expect .documentStart
    let root ← content fuel true
    finish
    return some root

end Assemble

/-- The nodes of the only document of a text, if there is one. -/
def Graph.ofText? (text : List Char) : Except Problem (Option Graph) := do
  let (tokens, problem) := tokensOf text
  let (root, assembly) ←
    (Assemble.document (4 * tokens.size + 8)).run { rest := tokens.toList, problem }
  return root.map fun root => { nodes := assembly.nodes, root }

end SqlShell.Yaml
