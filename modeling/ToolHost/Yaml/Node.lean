import ToolHost.Yaml.Resolution
import ToolHost.Yaml.Token

/-!
# Nodes

The graph that the tokens of a document describe. Nodes have numbers, and an alias is the number
of the node it stands for; as a node can be named before it is complete, it can contain itself.
-/
namespace ToolHost.Yaml

inductive Node
  | scalar (kind : Kind) (text : String)
  | sequence (kind : Kind) (items : List Nat)
  | mapping (kind : Kind) (entries : List (Nat × Nat))
  deriving Repr

/-- The empty scalar, where nothing is written. -/
def Node.empty : Node := .scalar .null ""

instance : Inhabited Node := ⟨.empty⟩

def Node.kind : Node → Kind
  | .scalar kind _ | .sequence kind _ | .mapping kind _ => kind

/-- The node taken for one of another kind. -/
def Node.as (n : Node) (kind : Kind) : Node :=
  match n with
  | .scalar _ text => .scalar kind text
  | .sequence _ items => .sequence kind items
  | .mapping _ entries => .mapping kind entries

/-- The nodes of a document by their numbers. -/
abbrev Graph := Array Node

/-- The reader of nodes between two tokens. -/
structure Reader where
  lexer : Lexer
  nodes : Graph := #[]
  anchors : List (String × Nat) := []
  /-- What the handles of tags stand for. -/
  handles : List (String × String) := []

abbrev Read := StateT Reader (Except Error)

namespace Read

def standardHandles : List (String × String) :=
  [("!", "!"), ("!!", "tag:yaml.org,2002:")]

def peek : Read Token := do
  let r ← get
  let (token, lexer) ← r.lexer.next
  set { r with lexer }
  return token

def skip : Read Unit := modify fun r => { r with lexer := r.lexer.drop }

def fail {α : Type} : Read α := throw .malformed

/-- Takes the given token, if it comes next. -/
def take? (t : Token) : Read Bool := do
  if (← peek) = t then
    skip
    return true
  else return false

def expect (t : Token) : Read Unit := do
  if !(← take? t) then fail

/-- The name of a tag. -/
def tagName (handle : Option String) (suffix : String) : Read String := do
  match handle with
  | none => return suffix
  | some h =>
    match (← get).handles.lookup h with
    | some start => return start ++ suffix
    | none => fail

/-- The anchor and the tag in front of a node, in either order. -/
def properties : Read (Option String × Option String) := do
  match ← peek with
  | .anchor a =>
    skip
    match ← peek with
    | .tag h s =>
      skip
      return (some a, some (← tagName h s))
    | _ => return (some a, none)
  | .tag h s =>
    skip
    match ← peek with
    | .anchor a =>
      skip
      return (some a, some (← tagName h s))
    | _ => return (none, some (← tagName h s))
  | _ => return (none, none)

/-- A number for a node, which can be named from now on. No two nodes have the same anchor. -/
def declare (anchor : Option String) : Read Nat := do
  let r ← get
  let id := r.nodes.size
  match anchor with
  | none => set { r with nodes := r.nodes.push .empty }
  | some a =>
    if (r.anchors.lookup a).isSome then fail
    set { r with nodes := r.nodes.push .empty, anchors := (a, id) :: r.anchors }
  return id

/-- Puts a node in the place of its number. -/
def define (id : Nat) (n : Node) : Read Nat := do
  modify fun r => { r with nodes := r.nodes.setIfInBounds id n }
  return id

/-- The empty node, where nothing is written. -/
def nothing : Read Nat := do define (← declare none) .empty

/-- How deep nodes can be nested. -/
def greatestDepth : Nat := 487

/-- Where a node stands, which decides how it may be written. -/
inductive Context
  /-- Inside brackets. -/
  | flow
  /-- As an entry of a block. -/
  | block
  /-- As a key or value of a block, where a sequence needs no deeper column. -/
  | indentless
  deriving DecidableEq

mutual

/-- A node with its properties, inside `depth` others. -/
def node (fuel depth : Nat) (context : Context) : Read Nat := do
  match fuel with
  | 0 => fail
  | fuel + 1 =>
    match ← peek with
    | .alias name =>
      skip
      match (← get).anchors.lookup name with
      | some id => return id
      | none => fail
    | _ =>
      let (anchor, tag) ← properties
      let token ← peek
      let start : Read Nat := do
        let id ← declare anchor
        if depth ≥ greatestDepth then throw .tooDeep
        return id
      let kindOr (kind : Kind) : Kind :=
        match tag with
        | none => kind
        | some t => if t = "!" then kind else .ofTag t
      let blank : Read Nat := do
        if anchor.isNone && tag.isNone then fail
        define (← declare anchor) (.scalar (kindOr .null) "")
      match token with
      | .scalar text plain =>
        let id ← declare anchor
        skip
        let own := if plain || tag.isSome then Kind.ofPlain text else .text
        define id (.scalar (kindOr own) text)
      | .flowSequence =>
        let id ← start
        skip
        define id (.sequence (kindOr .sequence) (← flowItems fuel (depth + 1) true))
      | .flowMapping =>
        let id ← start
        skip
        define id (.mapping (kindOr .mapping) (← flowEntries fuel (depth + 1) true))
      | .blockSequence =>
        if context = .flow then fail
        let id ← start
        skip
        define id (.sequence (kindOr .sequence) (← blockItems fuel (depth + 1)))
      | .blockMapping =>
        if context = .flow then fail
        let id ← start
        skip
        define id (.mapping (kindOr .mapping) (← blockEntries fuel (depth + 1)))
      | .blockEntry =>
        if context = .indentless then
          let id ← start
          define id (.sequence (kindOr .sequence) (← indentlessItems fuel (depth + 1)))
        else blank
      | _ => blank

/-- A node, or the empty one where one of the given tokens comes next. -/
def nodeUnless (fuel depth : Nat) (context : Context) (ends : List Token) : Read Nat := do
  match fuel with
  | 0 => fail
  | fuel + 1 => if ends.contains (← peek) then nothing else node fuel depth context

def blockItems (fuel depth : Nat) : Read (List Nat) := do
  match fuel with
  | 0 => fail
  | fuel + 1 =>
    if ← take? .blockEntry then
      let item ← nodeUnless fuel depth .block [.blockEntry, .blockEnd]
      return item :: (← blockItems fuel depth)
    else
      expect .blockEnd
      return []

def indentlessItems (fuel depth : Nat) : Read (List Nat) := do
  match fuel with
  | 0 => fail
  | fuel + 1 =>
    if ← take? .blockEntry then
      let item ← nodeUnless fuel depth .block [.blockEntry, .key, .value, .blockEnd]
      return item :: (← indentlessItems fuel depth)
    else return []

def blockEntries (fuel depth : Nat) : Read (List (Nat × Nat)) := do
  match fuel with
  | 0 => fail
  | fuel + 1 =>
    let ends := [.key, .value, .blockEnd]
    if ← take? .key then
      let k ← nodeUnless fuel depth .indentless ends
      let v ← if ← take? .value then nodeUnless fuel depth .indentless ends else nothing
      return (k, v) :: (← blockEntries fuel depth)
    else
      expect .blockEnd
      return []

/-- The items of a sequence in brackets; an item may be a mapping of one entry. -/
def flowItems (fuel depth : Nat) (first : Bool) : Read (List Nat) := do
  match fuel with
  | 0 => fail
  | fuel + 1 =>
    if ← take? .flowSequenceEnd then return []
    if !first then expect .flowEntry
    if ← take? .key then
      let id ← declare none
      let k ← nodeUnless fuel (depth + 1) .flow [.value, .flowEntry, .flowSequenceEnd]
      let v ←
        if ← take? .value then nodeUnless fuel (depth + 1) .flow [.flowEntry, .flowSequenceEnd]
        else nothing
      let item ← define id (.mapping .mapping [(k, v)])
      return item :: (← flowItems fuel depth false)
    else if ← take? .flowSequenceEnd then return []
    else
      let item ← node fuel depth .flow
      return item :: (← flowItems fuel depth false)

def flowEntries (fuel depth : Nat) (first : Bool) : Read (List (Nat × Nat)) := do
  match fuel with
  | 0 => fail
  | fuel + 1 =>
    if ← take? .flowMappingEnd then return []
    if !first then expect .flowEntry
    if ← take? .key then
      let k ← nodeUnless fuel depth .flow [.value, .flowEntry, .flowMappingEnd]
      let v ←
        if ← take? .value then nodeUnless fuel depth .flow [.flowEntry, .flowMappingEnd]
        else nothing
      return (k, v) :: (← flowEntries fuel depth false)
    else if ← take? .flowMappingEnd then return []
    else
      let k ← node fuel depth .flow
      let v ← nothing
      return (k, v) :: (← flowEntries fuel depth false)

end

/-- The directives in front of a document. -/
def directives (seenVersion : Bool) : Nat → Read Unit
  | 0 => fail
  | fuel + 1 => do
    match ← peek with
    | .directive d =>
      skip
      match d with
      | .version major =>
        if seenVersion || major != 1 then fail
        directives true fuel
      | .handle name start =>
        if ((← get).handles.lookup name).isSome then fail
        modify fun r => { r with handles := (name, start) :: r.handles }
        directives seenVersion fuel
      | .other => directives seenVersion fuel
    | _ => return ()

/-- The mark in front of a document, behind its directives. -/
def documentMark (fuel : Nat) : Read Unit := do
  modify fun r => { r with handles := [] }
  directives false fuel
  modify fun r => { r with handles := r.handles ++ standardHandles }
  expect .documentStart

def skipDocumentEnds : Nat → Read Unit
  | 0 => return ()
  | fuel + 1 => do if ← take? .documentEnd then skipDocumentEnds fuel

/-- The only document of a stream, by the number of its root; none if there is no document. -/
def document (fuel : Nat) : Read (Option Nat) := do
  let root ←
    match ← peek with
    | .streamEnd => return none
    | .directive .. | .documentStart =>
      documentMark fuel
      match ← peek with
      | .directive .. | .documentStart | .documentEnd | .streamEnd => nothing
      | _ => node fuel 0 .block
    | _ =>
      modify fun r => { r with handles := standardHandles }
      node fuel 0 .block
  skipDocumentEnds fuel
  if (← peek) != .streamEnd then
    documentMark fuel
    fail
  return some root

end Read

/-- The nodes of the document in a text, and the number of its root. -/
def Graph.ofText (text : List Char) : Except Error (Graph × Option Nat) := do
  let lexer ← Lexer.ofText text
  let (root, r) ← (Read.document (8 * text.length + 8)).run { lexer }
  return (r.nodes, root)

end ToolHost.Yaml
