import IdMint.Yaml.Scalar

/-!
# The shapes of nodes

The step from nodes to values: scalars get their values, and collections are
checked against their tags and freed of merges. The nodes are looked at level by
level, beginning with the one on top, the members of a collection in their
order; each node is looked at once. This settles which of several faults is the
one that shows.
-/

namespace IdMint.Yaml

/-- What a node is, once its tag is understood. Members are given by their
places. -/
inductive Shape
  /-- A scalar. -/
  | leaf (v : Value)
  /-- The undefined number, given by its name. It is no more equal to itself
  than others of its kind, but there is only one of it, wherever it stands: as a
  key it is found again. -/
  | undefined
  | list (items : List Nat)
  | dict (entries : List (Nat × Nat))
  | set (members : List Nat)
  /-- A list of pairs. -/
  | pairs (entries : List (Nat × Nat))
  /-- A collection that waits to be looked into. -/
  | pending

instance : Inhabited Shape := ⟨.pending⟩

/-- The shape is the undefined number, given by its name. -/
def Shape.isUndefined : Shape → Bool
  | undefined => true
  | _ => false

/-- The state of looking at nodes: what has become of the nodes, the shapes
found, and the collections that wait. -/
structure Survey where
  nodes : Array Node
  shapes : Array (Option Shape)
  waiting : List Nat := []

/-- Looking at nodes. -/
abbrev Surveying := StateT Survey (Except Flaw)

namespace Surveying

/-- The stream is malformed. -/
def reject {α : Type} : Surveying α := throw .malformed

/-- The node at a place. -/
def nodeAt (i : Nat) : Surveying Node := return (← get).nodes.getD i default

/-- Replaces the node at a place. -/
def setNodeAt (i : Nat) (node : Node) : Surveying Unit :=
  modify fun s => { s with nodes := s.nodes.setIfInBounds i node }

/-- Notes the shape of a node down. -/
def setShape (i : Nat) (shape : Shape) : Surveying Unit :=
  modify fun s => { s with shapes := s.shapes.setIfInBounds i (some shape) }

/-- The entries of a mapping. -/
def entriesAt (i : Nat) : Surveying (List (Nat × Nat)) := do
  match (← nodeAt i).content with
  | .mapping entries => return entries
  | _ => reject

/-- Replaces the entries of a mapping. -/
def setEntries (i : Nat) (entries : List (Nat × Nat)) : Surveying Unit := do
  setNodeAt i { ← nodeAt i with content := .mapping entries }

/-- The items of a sequence. -/
def itemsAt (i : Nat) : Surveying (List Nat) := do
  match (← nodeAt i).content with
  | .sequence items => return items
  | _ => reject

/-- Whether the node at a place has a tag. -/
def hasTag (tag : Tag) (i : Nat) : Surveying Bool := return (← nodeAt i).tag = tag

/-- The first entry with a key of a given tag, and the entries around it. -/
def findKey (tag : Tag) :
    List (Nat × Nat) → Surveying (Option (List (Nat × Nat) × Nat × List (Nat × Nat)))
  | [] => return none
  | (key, value) :: rest => do
    if ← hasTag tag key then return some ([], value, rest)
    else return (← findKey tag rest).map fun (before, found, after) =>
      ((key, value) :: before, found, after)

/-- The text of a scalar. A mapping with a default value passes for that; a way
along default values that has no end leads to no text. -/
def textAt : Nat → Nat → Surveying Text
  | 0, _ => throw (.fault .tooDeep)
  | fuel + 1, i => do
    match (← nodeAt i).content with
    | .scalar text => return text
    | .sequence _ => reject
    | .mapping entries =>
      match ← findKey .defaultValue entries with
      | some (_, value, _) => textAt fuel value
      | none => reject

/-- A key that asks for a default value is a text where it is no scalar that is
wanted. -/
def demoteDefault (entry : Nat × Nat) : Surveying Unit := do
  if ← hasTag .defaultValue entry.1 then
    setNodeAt entry.1 { ← nodeAt entry.1 with tag := .text }

/-- Puts the entries of merged mappings before those of a mapping itself, so
that its own come last and count. Of several merged mappings in one sequence the
first counts most. -/
def resolveMerges : Nat → Nat → Surveying Unit
  | 0, _ => reject
  | fuel + 1, i => do
    let entries ← entriesAt i
    match ← findKey .merge entries with
    | none => entries.forM demoteDefault
    | some (before, source, after) =>
      setEntries i (before ++ after)
      let merged ← match (← nodeAt source).content with
        | .scalar _ => reject
        | .mapping _ => do
          resolveMerges fuel source
          entriesAt source
        | .sequence items => do
          let parts ← items.mapM fun item => do
            discard (entriesAt item)
            resolveMerges fuel item
            entriesAt item
          pure parts.reverse.flatten
      resolveMerges fuel i
      setEntries i (merged ++ (← entriesAt i))

/-- The shape of a scalar with a given text. For a point in time the text of a
default value does not do: that has to be spelt out. -/
def scalarShape (node : Node) (text : Text) : Surveying Shape := do
  match node.tag, node.content with
  | .timestamp, .mapping _ => throw (.fault (.noSpelling "list"))
  | .float, _ =>
    if namesUndefined text then return .undefined
    return .leaf (← node.tag.scalarValue text)
  | _, _ => return .leaf (← node.tag.scalarValue text)

/-- Looks at a node: a scalar gets its value, a collection is put at the end of
those that wait. -/
def visit (i : Nat) : Surveying Unit := do
  let s ← get
  if (s.shapes.getD i none).isNone then
    let node ← nodeAt i
    if node.tag.isScalar then
      setShape i (← scalarShape node (← textAt (s.nodes.size + 1) i))
    else if node.tag.isCollection then
      setShape i .pending
      modify fun s => { s with waiting := s.waiting ++ [i] }
    else reject

/-- Looks at a key, which must be a scalar. -/
def visitKey (i : Nat) : Surveying Unit := do
  visit i
  match ((← get).shapes.getD i none) with
  | some (.leaf v) => if v.isHashable then pure () else reject
  | some .undefined => pure ()
  | _ => reject

/-- Looks at the entries of a mapping. -/
def visitEntries (i : Nat) : Surveying (List (Nat × Nat)) := do
  discard (entriesAt i)
  let s ← get
  let size := s.nodes.toList.foldl (fun size node => size + match node.content with
    | .mapping entries => entries.length
    | _ => 0) 0
  resolveMerges (size + 1) i
  let entries ← entriesAt i
  entries.forM fun entry => do
    visitKey entry.1
    visit entry.2
  return entries

/-- Looks at a mapping of one entry in a list of pairs. -/
def visitPair (i : Nat) : Surveying (Nat × Nat) := do
  match ← entriesAt i with
  | [(first, second)] =>
    visit first
    visit second
    return (first, second)
  | _ => reject

/-- Looks into a collection. -/
def expand (i : Nat) : Surveying Unit := do
  match (← nodeAt i).tag with
  | .sequence =>
    let items ← itemsAt i
    items.forM visit
    setShape i (.list items)
  | .mapping => setShape i (.dict (← visitEntries i))
  | .set => setShape i (.set ((← visitEntries i).map (·.1)))
  | .orderedMap | .pairs => setShape i (.pairs (← (← itemsAt i).mapM visitPair))
  | _ => reject

/-- Looks into the collections that wait, those that come to wait in the course
of it included. -/
def expandAll : Nat → Surveying Unit
  | 0 => return
  | fuel + 1 => do
    match (← get).waiting with
    | [] => return
    | i :: rest =>
      modify fun s => { s with waiting := rest }
      expand i
      expandAll fuel

end Surveying

/-- The shapes of the nodes that can be reached from the top. -/
def Graph.shapes (g : Graph) : Except Flaw (Array (Option Shape)) := do
  let start : Survey := { nodes := g.nodes, shapes := Array.replicate g.nodes.size none }
  let survey : Surveying Unit := do
    Surveying.visit g.root
    Surveying.expandAll (g.nodes.size + 1)
  return (← survey.run start).2.shapes

end IdMint.Yaml
