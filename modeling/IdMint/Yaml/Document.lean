import IdMint.Yaml.Shape
import IdMint.Yaml.Token.Lexer

/-!
# The value of a document

A graph of nodes unfolds to a value. Nodes from which no way leads back to
themselves are worked out from the leaves up, each once. The others unfold from
the top, and where a collection is met inside itself, the value says so.
-/

namespace IdMint.Yaml

/-- A place of a node, and the value there. -/
abbrev Placed := Nat × Value

/-- The members of a set, in the order in which it shows them: whole numbers in
ascending order, and otherwise as they came. -/
def arranged (members : List Value) : List Value :=
  if members.all (·.asInteger?.isSome) then
    members.mergeSort fun v w => v.asInteger?.getD 0 ≤ w.asInteger?.getD 0
  else members

/-- The value of a shape, where the values of its members can be found, and it
is known which members at two places are one key. -/
def Shape.assemble {m : Type → Type} [Monad m] (same : Placed → Placed → Bool)
    (valueOf : Nat → m Value) : Shape → m Value
  | leaf v => pure v
  | undefined => pure (.float (Float.ofBits 0x7FF8000000000000))
  | list items => Value.list <$> items.mapM valueOf
  | dict entries => do
    let entries ← entries.mapM fun (key, value) => do
      return ((key, ← valueOf key), ← valueOf value)
    return .dict ((Value.ofEntriesBy same entries).map fun ((_, key), value) => (key, value))
  | set members => do
    let entries ← members.mapM fun member => do
      return ((member, ← valueOf member), ())
    return .set (arranged ((Value.ofEntriesBy same entries).map (·.1.2)))
  | pairs entries => do
    let items ← entries.mapM fun (first, second) => do
      return Value.pair (← valueOf first) (← valueOf second)
    return .list items
  | pending => pure .null

/-- The shapes of the nodes of a document, with the values known so far. -/
structure Unfolding where
  shapes : Array (Option Shape)
  values : Array (Option Value)

namespace Unfolding

/-- The shape at a place. -/
def shape (u : Unfolding) (i : Nat) : Shape := (u.shapes.getD i none).getD default

/-- What stands at two places is one key: it is the same thing, or the values
are equal as keys. -/
def sameKey (u : Unfolding) (a b : Placed) : Bool :=
  a.1 == b.1 || (u.shape a.1).isUndefined && (u.shape b.1).isUndefined || a.2.sameKey b.2

/-- The value at a place, if it is known. -/
def value? (u : Unfolding) (i : Nat) : Option Value := u.values.getD i none

/-- Works out the values of which all members are known. -/
def step (u : Unfolding) : Unfolding :=
  { u with values := u.shapes.mapIdx fun i shape? =>
      (u.value? i).orElse fun _ => do (← shape?).assemble u.sameKey u.value? }

/-- How many values are known. -/
def known (u : Unfolding) : Nat := u.values.countP Option.isSome

/-- Works out values until no more can be found. -/
def settle : Nat → Unfolding → Unfolding
  | 0, u => u
  | fuel + 1, u => if u.step.known = u.known then u else settle fuel u.step

/-- The value at a place inside of given collections. -/
def unfold (u : Unfolding) : Nat → List Nat → Nat → Value
  | 0, _, _ => .null
  | fuel + 1, outer, i =>
    match u.value? i with
    | some v => v
    | none =>
      if outer.contains i then
        match u.shape i with
        | .dict _ => .recurrence true
        | _ => .recurrence false
      else Id.run ((u.shape i).assemble u.sameKey fun member => unfold u fuel (i :: outer) member)

/-- The value at a place on its own. -/
def valueAt (u : Unfolding) (i : Nat) : Value := u.unfold (u.shapes.size + 1) [] i

/-- The value at a place of which the parts will be looked at on their own, down
to a depth: each of them unfolds afresh. -/
def partwise (u : Unfolding) : Nat → Nat → Value
  | 0, i => u.valueAt i
  | depth + 1, i =>
    match u.shape i with
    | .dict entries =>
      let entries := entries.map fun (key, value) => ((key, u.valueAt key), u.partwise depth value)
      .dict ((Value.ofEntriesBy u.sameKey entries).map fun ((_, key), value) => (key, value))
    | _ => u.valueAt i

end Unfolding

/-- The value of a graph. Settings are looked for in the entries of its entries. -/
def Graph.value (g : Graph) : Except Flaw Value := do
  let shapes ← g.shapes
  let start : Unfolding := ⟨shapes, Array.replicate shapes.size none⟩
  return (start.settle (shapes.size + 1)).partwise 2 g.root

/-- The value of the only document of a stream; of a stream without one it is
null. -/
def read (stream : Stream) : Except Flaw Value := do
  match ← Graph.ofTokens (Token.ofStream stream) with
  | some g => g.value
  | none => return .null

/-- The reader of documents in this language. -/
def reader : DocumentReader := fun file => read (.ofFile file)

end IdMint.Yaml
