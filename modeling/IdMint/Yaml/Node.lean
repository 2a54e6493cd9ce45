import IdMint.Yaml.Tag
import IdMint.Yaml.Token.Lexer

/-!
# The node graph of a document

A document is a graph: an alias is another way to reach the node that bears its
anchor, even from within. The nodes are kept in an array and refer to each other
by their places in it. `Graph.ofTokens` reads the graph of the only document of
a stream.
-/

namespace IdMint.Yaml

/-- What a node consists of. -/
inductive Content
  | scalar (text : Text)
  | sequence (items : List Nat)
  | mapping (entries : List (Nat × Nat))

/-- A node. -/
structure Node where
  tag : Tag
  content : Content

/-- The node of a missing text. -/
def Node.empty : Node := ⟨.null, .scalar []⟩

instance : Inhabited Node := ⟨Node.empty⟩

/-- The nodes of a document, with the place of the one on top. -/
structure Graph where
  nodes : Array Node
  root : Nat

/-- The node at a place. -/
def Graph.node (g : Graph) (i : Nat) : Node := g.nodes.getD i default

/-- The state of reading nodes: the tokens ahead and the nodes so far, with
their anchors, the number of collections around the next one, and the namespaces
of the handles of tags. -/
structure Composition where
  tokens : List Token
  depth : Nat := 0
  nodes : Array Node := #[]
  anchors : List (List Char × Nat) := []
  handles : List (Text × Text) := []

/-- Reading nodes. -/
abbrev Compose := StateT Composition (Except Flaw)

/-- The next token. At a flaw of the stream, reading ends. -/
def look : Compose Token := do
  match (← get).tokens with
  | [] => return .streamEnd
  | .flaw flaw :: _ => throw flaw
  | token :: _ => return token

/-- Passes over the next token. -/
def next : Compose Unit := modify fun c => { c with tokens := c.tokens.tail }

/-- The tokens break a rule. -/
def reject {α : Type} : Compose α := throw .malformed

/-- Adds a node and gives its place. -/
def addNode (node : Node) : Compose Nat := do
  let c ← get
  set { c with nodes := c.nodes.push node }
  return c.nodes.size

/-- Sets the node at a place. -/
def setNode (i : Nat) (node : Node) : Compose Unit :=
  modify fun c => { c with nodes := c.nodes.setIfInBounds i node }

/-- Adds the node of a missing text. -/
def addEmpty : Compose Nat := addNode .empty

/-- The anchor and the tag before a node. -/
structure Properties where
  anchor : Option (List Char) := none
  tag : Option Text := none

/-- The full name of a tag. -/
def tagName (handle : Option Text) (suffix : Text) : Compose Text := do
  match handle with
  | none => return suffix
  | some h =>
    match (← get).handles.find? (·.1 = h) with
    | some (_, nameSpace) => return nameSpace ++ suffix
    | none => reject

/-- Reads an anchor and a tag, in either order, each at most once. -/
def readProperties : Compose Properties := do
  match ← look with
  | .anchor name =>
    next
    match ← look with
    | .tag handle suffix =>
      next
      return ⟨some name, some (← tagName handle suffix)⟩
    | _ => return ⟨some name, none⟩
  | .tag handle suffix =>
    next
    match ← look with
    | .anchor name =>
      next
      return ⟨some name, some (← tagName handle suffix)⟩
    | _ => return ⟨none, some (← tagName handle suffix)⟩
  | _ => return {}

/-- The tag that leaves the kind of value open. -/
def openTag : Text := "!"

/-- The tag of a collection. -/
def Properties.collectionTag (p : Properties) (standard : Tag) : Tag :=
  match p.tag with
  | none => standard
  | some name => if name = openTag then standard else Tag.ofName name

/-- The characters of a text, for looking at its spelling. -/
def spelling (t : Text) : List Char := t.map fun c => c.toChar?.getD '\ufffd'

/-- The text without a line break at its end. -/
def dropFinalBreak (cs : List Char) : List Char :=
  if cs.getLast? = some '\n' then cs.dropLast else cs

/-- The tag of a spelling, which a line break may end; it does not count then. -/
def Tag.ofSpelling (t : Text) : Tag :=
  let cs := dropFinalBreak (spelling t)
  if cs.isEmpty then (if t.isEmpty then .null else .text) else Tag.ofPlain cs

/-- The tag of a scalar. -/
def Properties.scalarTag (p : Properties) (text : Text) (plain : Bool) : Tag :=
  match p.tag with
  | none => if plain then Tag.ofSpelling text else .text
  | some name => if name = openTag then Tag.ofSpelling text else Tag.ofName name

/-- Gives the node at a place its anchor, which must not have been given before. -/
def bindAnchor (p : Properties) (i : Nat) : Compose Unit := do
  match p.anchor with
  | none => return
  | some name =>
    let c ← get
    if c.anchors.any (·.1 = name) then reject
    set { c with anchors := (name, i) :: c.anchors }

/-- Adds a scalar node. -/
def addScalar (p : Properties) (text : Text) (plain : Bool) : Compose Nat := do
  let i ← addNode ⟨p.scalarTag text plain, .scalar text⟩
  bindAnchor p i
  return i

/-- How many collections may be nested. -/
def nestingLimit : Nat := 490

/-- Reads the members of a collection, one level further down. -/
def nested (members : Compose Content) : Compose Content := do
  let c ← get
  if nestingLimit ≤ c.depth then throw (.fault .tooDeep)
  set { c with depth := c.depth + 1 }
  let content ← members
  modify fun c => { c with depth := c.depth - 1 }
  return content

/-- Adds a collection: its place is fixed, and its anchor given, before its
members are read. -/
def addCollection (p : Properties) (standard : Tag) (members : Compose Content) : Compose Nat := do
  let i ← addNode .empty
  bindAnchor p i
  let content ← nested members
  setNode i ⟨p.collectionTag standard, content⟩
  return i

/-- Where a node stands decides which collections it can be. -/
inductive Place
  /-- In a flow collection: no blocks. -/
  | flow
  /-- In a block. -/
  | block
  /-- In a block mapping, where the entries of a sequence need no indentation. -/
  | mappingPart
deriving DecidableEq

mutual

/-- Reads a node. -/
def readNode : Nat → Place → Compose Nat
  | 0, _ => reject
  | fuel + 1, place => do
    if let .alias name ← look then
      next
      match (← get).anchors.find? (·.1 = name) with
      | some (_, i) => return i
      | none => reject
    else
      let p ← readProperties
      match ← look with
      | .scalar text plain =>
        next
        addScalar p text plain
      | .flowSequenceStart =>
        next
        addCollection p .sequence (.sequence <$> readFlowItems fuel true)
      | .flowMappingStart =>
        next
        addCollection p .mapping (.mapping <$> readFlowEntries fuel true)
      | .blockEntry =>
        if place = .mappingPart then
          addCollection p .sequence (.sequence <$> readBareItems fuel)
        else readMissing p
      | .blockSequenceStart =>
        if place = .flow then readMissing p
        else
          next
          addCollection p .sequence (.sequence <$> readBlockItems fuel)
      | .blockMappingStart =>
        if place = .flow then readMissing p
        else
          next
          addCollection p .mapping (.mapping <$> readBlockEntries fuel)
      | _ => readMissing p

/-- A node of which there is nothing but an anchor or a tag. -/
def readMissing (p : Properties) : Compose Nat :=
  if p.anchor.isSome || p.tag.isSome then do
    let tag := match p.tag with
      | none => Tag.null
      | some name => if name = openTag then .null else Tag.ofName name
    let i ← addNode ⟨tag, .scalar []⟩
    bindAnchor p i
    return i
  else reject

/-- Reads a node, unless one of the tokens after which there is none comes next. -/
def readNodeUnless (fuel : Nat) (place : Place) (ends : Token → Bool) : Compose Nat := do
  if ends (← look) then addEmpty
  else match fuel with
    | 0 => reject
    | fuel + 1 => readNode fuel place

/-- Reads the entries of a block sequence and its end. -/
def readBlockItems : Nat → Compose (List Nat)
  | 0 => reject
  | fuel + 1 => do
    match ← look with
    | .blockEntry =>
      next
      let item ← readNodeUnless fuel .block fun
        | .blockEntry | .blockEnd => true
        | _ => false
      return item :: (← readBlockItems fuel)
    | .blockEnd =>
      next
      return []
    | _ => reject

/-- Reads the entries of a sequence that is not indented. -/
def readBareItems : Nat → Compose (List Nat)
  | 0 => reject
  | fuel + 1 => do
    match ← look with
    | .blockEntry =>
      next
      let item ← readNodeUnless fuel .block fun
        | .blockEntry | .key | .value | .blockEnd => true
        | _ => false
      return item :: (← readBareItems fuel)
    | _ => return []

/-- Reads the entries of a block mapping and its end. -/
def readBlockEntries : Nat → Compose (List (Nat × Nat))
  | 0 => reject
  | fuel + 1 => do
    let key? ← match ← look with
      | .key => do
        next
        let key ← readNodeUnless fuel .mappingPart fun
          | .key | .value | .blockEnd => true
          | _ => false
        pure (some key)
      | .blockEnd => do
        next
        pure none
      | _ => reject
    match key? with
    | none => return []
    | some key =>
      let value ← match ← look with
        | .value => do
          next
          readNodeUnless fuel .mappingPart fun
            | .key | .value | .blockEnd => true
            | _ => false
        | _ => addEmpty
      return (key, value) :: (← readBlockEntries fuel)

/-- Passes over the comma before a member of a flow collection; the first has
none. -/
def passComma (first : Bool) : Compose Unit := do
  if !first then
    match ← look with
    | .flowEntry => next
    | _ => reject

/-- Reads the members of a flow sequence and its end. A key with a value makes a
mapping of one entry. -/
def readFlowItems : Nat → Bool → Compose (List Nat)
  | 0, _ => reject
  | fuel + 1, first => do
    if let .flowSequenceEnd ← look then
      next
      return []
    else
      passComma first
      match ← look with
      | .flowSequenceEnd =>
        next
        return []
      | .key =>
        let item ← addCollection {} .mapping do
          next
          let key ← readNodeUnless fuel .flow fun
            | .value | .flowEntry | .flowSequenceEnd => true
            | _ => false
          let value ← match ← look with
            | .value => do
              next
              readNodeUnless fuel .flow fun
                | .flowEntry | .flowSequenceEnd => true
                | _ => false
            | _ => addEmpty
          return .mapping [(key, value)]
        return item :: (← readFlowItems fuel false)
      | _ =>
        let item ← readNode fuel .flow
        return item :: (← readFlowItems fuel false)

/-- Reads the members of a flow mapping and its end. A key may stand alone. -/
def readFlowEntries : Nat → Bool → Compose (List (Nat × Nat))
  | 0, _ => reject
  | fuel + 1, first => do
    if let .flowMappingEnd ← look then
      next
      return []
    else
      passComma first
      match ← look with
      | .flowMappingEnd =>
        next
        return []
      | .key =>
        next
        let key ← readNodeUnless fuel .flow fun
          | .value | .flowEntry | .flowMappingEnd => true
          | _ => false
        let value ← match ← look with
          | .value => do
            next
            readNodeUnless fuel .flow fun
              | .flowEntry | .flowMappingEnd => true
              | _ => false
          | _ => addEmpty
        return (key, value) :: (← readFlowEntries fuel false)
      | _ =>
        let key ← readNode fuel .flow
        let value ← addEmpty
        return (key, value) :: (← readFlowEntries fuel false)

end

/-- The handles that need no directive. -/
def standardHandles : List (Text × Text) := [("!", "!"), ("!!", Tag.nameSpace)]

/-- Reads directives: whether a version has been stated, and the handles so far,
are given. -/
def readDirectives : Nat → Bool → List (Text × Text) → Compose (List (Text × Text))
  | 0, _, _ => reject
  | fuel + 1, versionStated, handles => do
    match ← look with
    | .versionDirective major =>
      next
      if versionStated || major ≠ 1 then reject
      readDirectives fuel true handles
    | .tagDirective handle nameSpace =>
      next
      if handles.any (·.1 = handle) then reject
      readDirectives fuel versionStated ((handle, nameSpace) :: handles)
    | .otherDirective =>
      next
      readDirectives fuel versionStated handles
    | _ => return handles

/-- Passes over the marks of the end of a document. -/
def passDocumentEnds : Nat → Compose Unit
  | 0 => return ()
  | fuel + 1 => do
    if let .documentEnd ← look then
      next
      passDocumentEnds fuel
    else return ()

/-- Sets the handles that the directives of a document give. -/
def setHandles (stated : List (Text × Text)) : Compose Unit :=
  modify fun c => { c with handles := stated ++ standardHandles }

/-- Reads the node of a document that begins with a mark, after its directives. -/
def readMarkedDocument (fuel : Nat) : Compose Nat := do
  setHandles (← readDirectives fuel false [])
  match ← look with
  | .documentStart =>
    next
    readNodeUnless fuel .block fun
      | .versionDirective _ | .tagDirective _ _ | .otherDirective | .documentStart | .documentEnd
      | .streamEnd => true
      | _ => false
  | _ => reject

/-- Reads the only document of a stream, if there is one. Of a second one no
more is read than what comes before its beginning. -/
def readDocument (fuel : Nat) : Compose (Option Nat) := do
  let root? ← match ← look with
    | .streamEnd => pure none
    | .versionDirective _ | .tagDirective _ _ | .otherDirective | .documentStart =>
      some <$> readMarkedDocument fuel
    | _ => do
      setHandles []
      some <$> readNode fuel .block
  passDocumentEnds fuel
  match ← look with
  | .streamEnd => return root?
  | _ => do
    discard (readDirectives fuel false [])
    reject

/-- The graph of the only document of a stream; a stream may also hold none. -/
def Graph.ofTokens (tokens : List Token) : Except Flaw (Option Graph) := do
  let (root?, c) ← (readDocument (4 * tokens.length + 8)).run { tokens }
  return root?.map fun root => ⟨c.nodes, root⟩

end IdMint.Yaml
