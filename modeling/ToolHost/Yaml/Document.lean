import ToolHost.Yaml.Node

/-!
# Documents

The value of a document. A node becomes a scalar at once; lists and mappings get their parts in
the order in which they were met, so of two nodes without a value the one met first decides.

Entries under the key `<<` are merged into the mapping they stand in, before its own entries; keys
have to be scalars.
-/
namespace ToolHost.Yaml

/-- What a node has become. The parts of a list or mapping are nodes. -/
inductive Made
  | scalar (s : Scalar)
  | list (items : List Nat)
  | map (entries : List (Scalar × Nat))
  | set (members : List Scalar)
  | pairs (items : List (Nat × Nat))
  deriving Inhabited

/-- The making of values from nodes. -/
structure Making where
  nodes : Graph
  made : Array (Option Made)
  /-- The lists and mappings whose parts are not made yet, the last one first. -/
  waiting : List Nat := []

abbrev Make := StateT Making (Except Error)

namespace Make

def fail {α : Type} : Make α := throw .malformed

def nodeAt (id : Nat) : Make Node := return (← get).nodes.getD id .empty

def setNode (id : Nat) (n : Node) : Make Unit :=
  modify fun m => { m with nodes := m.nodes.setIfInBounds id n }

def setMade (id : Nat) (x : Made) : Make Unit :=
  modify fun m => { m with made := m.made.setIfInBounds id (some x) }

/-- The text of a node that is to be a scalar. A mapping can give it under its default key. -/
def textOf : Nat → Nat → Make String
  | 0, _ => throw .tooDeep
  | fuel + 1, id => do
    match ← nodeAt id with
    | .scalar _ text => return text
    | .sequence .. => fail
    | .mapping _ entries =>
      let nodes := (← get).nodes
      match entries.find? fun e => (nodes.getD e.1 .empty).kind = .default with
      | some (_, v) => textOf fuel v
      | none => fail

/-- Begins to make a value from a node: its scalar, or a list or mapping without its parts. -/
def begin (id : Nat) : Make Made := do
  let m ← get
  match m.made.getD id none with
  | some x => return x
  | none =>
    let later (x : Made) : Make Made := do
      setMade id x
      modify fun m => { m with waiting := id :: m.waiting }
      return x
    let n ← nodeAt id
    match n.kind with
    | .sequence => later (.list [])
    | .pairs => later (.pairs [])
    | .mapping => later (.map [])
    | .set => later (.set [])
    | .merge | .default | .unknown => fail
    | kind =>
      let text ← textOf (m.nodes.size + 1) id
      if kind = .timestamp && n matches .mapping .. then throw .noText
      let x := Made.scalar (← scalarOf kind text)
      setMade id x
      return x

/-- A key: a scalar. -/
def key (id : Nat) : Make Scalar := do
  match ← begin id with
  | .scalar s => return s
  | _ => fail

/-- The entries that a node gives to a mapping that merges it; `entriesOf` gives those of a
mapping. -/
def contribution (entriesOf : Nat → Make (List (Nat × Nat))) (v : Nat) :
    Make (List (Nat × Nat)) := do
  match ← nodeAt v with
  | .mapping .. => entriesOf v
  | .sequence _ items =>
    let parts ← items.mapM fun item => do
      match ← nodeAt item with
      | .mapping .. => entriesOf item
      | _ => fail
    return parts.reverse.flatten
  | .scalar .. => fail

/-- Puts the entries that a mapping merges in front of its own. An entry to merge is taken out
before the mapping it names is looked at, so a mapping that merges itself comes to an end. `merged`
holds what was found before the entry at `index`; `fuel` bounds the entries visited. -/
def flatten : Nat → Nat → Nat → List (Nat × Nat) → Make Unit
  | 0, _, _, _ => throw .tooDeep
  | fuel + 1, id, index, merged => do
    match ← nodeAt id with
    | .mapping kind entries =>
      match entries[index]? with
      | none =>
        if !merged.isEmpty then setNode id (.mapping kind (merged ++ entries))
      | some (k, v) =>
        let keyNode ← nodeAt k
        if keyNode.kind = .merge then
          setNode id (.mapping kind (entries.eraseIdx index))
          -- The mapping that is named merges its own entries first.
          let more ← contribution (fun v => do
            flatten fuel v 0 []
            match ← nodeAt v with
            | .mapping _ entries => return entries
            | _ => return []) v
          flatten fuel id index (merged ++ more)
        else
          if keyNode.kind = .default then setNode k (keyNode.as .text)
          flatten fuel id (index + 1) merged
    | _ => fail

/-- How many entries are visited in a row while merging. -/
def mostMerged : Nat := 1000000

/-- The keys of a mapping and the nodes of its values, of equal keys the first one with the last
value. -/
def mappingParts (id : Nat) : Make (List (Scalar × Nat)) := do
  if !((← nodeAt id) matches .mapping ..) then fail
  flatten mostMerged id 0 []
  match ← nodeAt id with
  | .mapping _ entries =>
    entries.foldlM (fun parts (k, v) => do
      let s ← key k
      let _ ← begin v
      return put parts s v) []
  | _ => fail
where
  put (parts : List (Scalar × Nat)) (k : Scalar) (v : Nat) : List (Scalar × Nat) :=
    if parts.any fun e => e.1.same k then
      parts.map fun e => if e.1.same k then (e.1, v) else e
    else parts ++ [(k, v)]

/-- The two nodes of an item of a list of pairs. -/
def pairParts (id : Nat) : Make (Nat × Nat) := do
  match ← nodeAt id with
  | .mapping _ [(k, v)] =>
    let _ ← begin k
    let _ ← begin v
    return (k, v)
  | _ => fail

/-- Makes the parts of a list or mapping. -/
def complete (id : Nat) : Make Unit := do
  let n ← nodeAt id
  match n.kind, n with
  | .sequence, .sequence _ items =>
    items.forM fun item => do let _ ← begin item
    setMade id (.list items)
  | .pairs, .sequence _ items => setMade id (.pairs (← items.mapM pairParts))
  | .mapping, .mapping .. => setMade id (.map (← mappingParts id))
  | .set, .mapping .. => setMade id (.set ((← mappingParts id).map (·.1)))
  | _, _ => fail

/-- Makes the parts of all that waits, and of what comes to wait by that. No node waits twice, so
there are no more rounds than nodes. -/
def completeAll : Nat → Make Unit
  | 0 => return ()
  | rounds + 1 => do
    match (← get).waiting.reverse with
    | [] => return ()
    | ids =>
      modify fun m => { m with waiting := [] }
      ids.forM complete
      completeAll rounds

end Make

/-- Values that are put together from what the nodes have become. -/
structure Assembly where
  made : Array (Option Made)
  /-- The values of nodes on no cycle with those that are under way. -/
  known : Array (Option Value)

namespace Assembly

/-- A value, and the labels of lists and mappings around it that it contains. -/
abbrev Part := Value × List Nat

/-- The value of a node inside those of the nodes under way; `fuel` bounds their number. -/
def value : Nat → List Nat → Nat → StateM Assembly Part
  | 0, _, _ => return (.null, [])
  | fuel + 1, around, id => do
    let a ← get
    match a.known.getD id none with
    | some v => return (v, [])
    | none =>
      let made := (a.made.getD id none).getD (.scalar .null)
      if around.contains id then return (.again id (made matches .map ..), [id])
      let inside := value fuel (id :: around)
      let (v, labels) ←
        match made with
        | .scalar s => pure (Value.scalar s, [])
        | .set members => pure (Value.set members, [])
        | .list items => do
          let parts ← items.mapM inside
          pure (Value.list (parts.map (·.1)), parts.flatMap (·.2))
        | .map entries => do
          let parts ← entries.mapM fun e => inside e.2
          pure (Value.map ((entries.map (·.1)).zip (parts.map (·.1))), parts.flatMap (·.2))
        | .pairs items => do
          let firsts ← items.mapM fun e => inside e.1
          let seconds ← items.mapM fun e => inside e.2
          let pairs := (firsts.zip seconds).map fun (x, y) => Value.pair x.1 y.1
          pure (Value.list pairs, (firsts ++ seconds).flatMap (·.2))
      let v := if labels.isEmpty then v else .loop id v
      let labels := labels.eraseDups.filter (· != id)
      if labels.isEmpty then modify fun a => { a with known := a.known.setIfInBounds id (some v) }
      return (v, labels)

end Assembly

/-- The value of the only document in a text; none if there is no document. -/
def load (text : List Char) : Except Error (Option Value) := do
  match ← Graph.ofText text with
  | (_, none) => return none
  | (nodes, some root) =>
    let make : Make Unit := do
      let _ ← Make.begin root
      Make.completeAll (nodes.size + 1)
    let (_, m) ← make.run { nodes, made := .replicate nodes.size none }
    let known := .replicate nodes.size none
    let ((v, _), _) := (Assembly.value (nodes.size + 1) [] root).run { made := m.made, known }
    return some v

end ToolHost.Yaml
