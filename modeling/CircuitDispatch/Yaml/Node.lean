import CircuitDispatch.SortedMap
import CircuitDispatch.Yaml.Token

/-!
# YAML nodes

`Document.read?` builds the tree of the one document of a text. An item that is
left out counts as an empty plain scalar. An alias stays in the tree as the
number of its anchor, so that a document may refer to a part that is not
finished yet; `Document.scalar?` follows it.

An anchor's number is how many distinct names stand before it. Where a name is
given anew, two anchors can have one number, and then the later one counts.
-/

namespace CircuitDispatch.Yaml

/-- A scalar with its style and its tag. -/
structure Scalar where
  style : ScalarStyle
  tag : Option String
  text : String
  deriving DecidableEq, Repr

/-- A part of a document. -/
inductive Node where
  | scalar (value : Scalar)
  | sequence (items : List Node)
  | mapping (entries : List (Node × Node))
  | alias (anchor : Nat)
  | anchored (anchor : Nat) (node : Node)

namespace Node

/-- A node that is left out. -/
def empty : Node := .scalar ⟨.plain, none, ""⟩

mutual

/-- The anchored nodes in a node, in the order in which they start. -/
def anchors : Node → List (Nat × Node)
  | .scalar _ => []
  | .sequence items => anchorsOfItems items
  | .mapping entries => anchorsOfEntries entries
  | .alias _ => []
  | .anchored n node => (n, node) :: node.anchors

/-- The anchored nodes in the items of a sequence. -/
def anchorsOfItems : List Node → List (Nat × Node)
  | [] => []
  | item :: rest => item.anchors ++ anchorsOfItems rest

/-- The anchored nodes in the entries of a mapping. -/
def anchorsOfEntries : List (Node × Node) → List (Nat × Node)
  | [] => []
  | (key, value) :: rest => key.anchors ++ value.anchors ++ anchorsOfEntries rest

end

/-- The node behind an anchor. -/
def content : Node → Node
  | .anchored _ node => node
  | node => node

end Node

/-! ### Reading nodes -/

/-- The tokens that are left, and the numbers of the anchors so far. -/
structure Reader where
  tokens : List Token
  anchors : SortedMap String Nat

/-- Reading from tokens, which may fail. -/
abbrev Reading := StateT Reader Option

namespace Reading

/-- The next token. -/
def peek : Reading Token := return (← get).tokens.headD .streamEnd

/-- Moves on behind the next token. -/
def skip : Reading Unit := modify fun r => { r with tokens := r.tokens.tail }

/-- The next token, which is read. -/
def take : Reading Token := do
  let t ← peek
  skip
  return t

/-- Reads a given token and fails on any other. -/
def expect (t : Token) : Reading Unit := do
  if (← take) = t then return () else failure

/-- Reads a given token if it is next, and tells whether it was. -/
def found (t : Token) : Reading Bool := do
  if (← peek) = t then
    skip
    return true
  else return false

/-- A node, which is left out if one of these tokens is next. -/
def unlessAt (stops : List Token) (node : Reading Node) : Reading Node := do
  if stops.contains (← peek) then return .empty else node

/-- The tag that a handle and a suffix stand for. -/
def resolveTag (handles : List (String × String)) (handle suffix : String) : Reading String :=
  if handle.isEmpty then return suffix
  else
    match handles.lookup handle with
    | some stem => return stem ++ suffix
    | none => failure

/-- An anchor, if one is next. -/
def anchor? : Reading (Option String) := do
  match ← peek with
  | .anchor name =>
    skip
    return some name
  | _ => return none

/-- A tag, if one is next. -/
def tag? (handles : List (String × String)) : Reading (Option String) := do
  match ← peek with
  | .tag handle suffix =>
    skip
    some <$> resolveTag handles handle suffix
  | _ => return none

/-- The anchor and the tag before a node, in any order. -/
def properties (handles : List (String × String)) : Reading (Option String × Option String) := do
  let anchor ← anchor?
  let tag ← tag? handles
  let anchor ← if anchor.isSome then pure anchor else anchor?
  return (anchor, tag)

/-- Gives an anchor its number. -/
def number (name : String) : Reading Nat := do
  let r ← get
  let n := r.anchors.entries.length
  set { r with anchors := r.anchors.insert name n }
  return n

mutual

/-- A node. In a block it may be a block collection, and behind a key a sequence that is not
indented. -/
def node (handles : List (String × String)) (block unindented : Bool) : Nat → Reading Node
  | 0 => failure
  | fuel + 1 => do
    match ← peek with
    | .alias name =>
      skip
      match (← get).anchors.get? name with
      | some n => return .alias n
      | none => failure
    | _ =>
      let (anchor, tag) ← properties handles
      let n ← anchor.mapM number
      let content ← content handles block unindented tag (anchor.isSome || tag.isSome) fuel
      return match n with
        | some n => .anchored n content
        | none => content

/-- What follows the anchor and the tag of a node. The tag of one exclamation mark is none. -/
def content (handles : List (String × String)) (block unindented : Bool) (tag : Option String)
    (mayBeEmpty : Bool) : Nat → Reading Node
  | 0 => failure
  | fuel + 1 => do
    match ← peek, block, unindented with
    | .blockEntry, _, true => .sequence <$> unindentedItems handles fuel
    | .scalar style text, _, _ =>
      skip
      return .scalar ⟨style, if tag = some "!" then none else tag, text⟩
    | .flowSequenceStart, _, _ =>
      skip
      .sequence <$> flowItems handles true fuel
    | .flowMappingStart, _, _ =>
      skip
      .mapping <$> flowEntries handles true fuel
    | .blockSequenceStart, true, _ =>
      skip
      .sequence <$> blockItems handles fuel
    | .blockMappingStart, true, _ =>
      skip
      .mapping <$> blockEntries handles fuel
    | _, _, _ => if mayBeEmpty then return .scalar ⟨.plain, tag, ""⟩ else failure

/-- The items of a block sequence and its end. -/
def blockItems (handles : List (String × String)) : Nat → Reading (List Node)
  | 0 => failure
  | fuel + 1 => do
    match ← take with
    | .blockEntry =>
      let item ← unlessAt [.blockEntry, .blockEnd] (node handles true false fuel)
      return item :: (← blockItems handles fuel)
    | .blockEnd => return []
    | _ => failure

/-- The items of a sequence that is not indented, which ends before any other token. -/
def unindentedItems (handles : List (String × String)) : Nat → Reading (List Node)
  | 0 => failure
  | fuel + 1 => do
    if ← found .blockEntry then
      let item ← unlessAt [.blockEntry, .key, .value, .blockEnd] (node handles true false fuel)
      return item :: (← unindentedItems handles fuel)
    else return []

/-- The entries of a block mapping and its end. -/
def blockEntries (handles : List (String × String)) : Nat → Reading (List (Node × Node))
  | 0 => failure
  | fuel + 1 => do
    match ← take with
    | .key =>
      let stops := [.key, .value, .blockEnd]
      let key ← unlessAt stops (node handles true true fuel)
      let value ←
        if ← found .value then unlessAt stops (node handles true true fuel) else pure .empty
      return (key, value) :: (← blockEntries handles fuel)
    | .blockEnd => return []
    | _ => failure

/-- The items of a flow sequence and its end. -/
def flowItems (handles : List (String × String)) (first : Bool) : Nat → Reading (List Node)
  | 0 => failure
  | fuel + 1 => do
    if ← found .flowSequenceEnd then return []
    else
      if !first then expect .flowEntry
      if ← found .flowSequenceEnd then return []
      else
        let item ←
          if ← found .key then flowPair handles fuel else node handles false false fuel
        return item :: (← flowItems handles false fuel)

/-- A mapping of one entry without braces. Where its key is left out, the token that stands there
is passed over. -/
def flowPair (handles : List (String × String)) : Nat → Reading Node
  | 0 => failure
  | fuel + 1 => do
    let key ←
      if [.value, .flowEntry, .flowSequenceEnd].contains (← peek) then do
        skip
        pure .empty
      else node handles false false fuel
    let value ←
      if ← found .value then
        unlessAt [.flowEntry, .flowSequenceEnd] (node handles false false fuel)
      else pure .empty
    return .mapping [(key, value)]

/-- The entries of a flow mapping and its end. -/
def flowEntries (handles : List (String × String)) (first : Bool) :
    Nat → Reading (List (Node × Node))
  | 0 => failure
  | fuel + 1 => do
    if ← found .flowMappingEnd then return []
    else
      if !first then expect .flowEntry
      if ← found .flowMappingEnd then return []
      else
        let entry ←
          if ← found .key then do
            let key ←
              unlessAt [.value, .flowEntry, .flowMappingEnd] (node handles false false fuel)
            let value ←
              if ← found .value then
                unlessAt [.flowEntry, .flowMappingEnd] (node handles false false fuel)
              else pure .empty
            pure (key, value)
          else do
            let key ← node handles false false fuel
            pure (key, .empty)
        return entry :: (← flowEntries handles false fuel)

end

/-! ### Reading documents -/

/-- The tag handles that need no directive. -/
def standardHandles : List (String × String) := [("!", "!"), ("!!", "tag:yaml.org,2002:")]

/-- The directives before a document, as the tag handles they declare. The version and every
handle may be declared once. -/
def directives (versioned : Bool) (handles : List (String × String)) :
    Nat → Reading (List (String × String))
  | 0 => failure
  | fuel + 1 => do
    match ← peek with
    | .versionDirective major minor =>
      if versioned || major ≠ 1 || !(minor = 1 || minor = 2) then failure
      else
        skip
        directives true handles fuel
    | .tagDirective handle uri =>
      if (handles.lookup handle).isSome then failure
      else
        skip
        directives versioned (handles ++ [(handle, uri)]) fuel
    | _ => return handles

/-- Whether a document without content ends before a token. -/
def endsDocument : Token → Bool
  | .versionDirective _ _ => true
  | .tagDirective _ _ => true
  | .documentStart => true
  | .documentEnd => true
  | .streamEnd => true
  | _ => false

/-- The root of a document. Without directives it needs no mark at its start. -/
def root (fuel : Nat) : Reading Node := do
  match ← peek with
  | .versionDirective _ _ => marked
  | .tagDirective _ _ => marked
  | .documentStart => marked
  | _ => node standardHandles true false fuel
where
  marked : Reading Node := do
    let handles ← directives false [] fuel
    expect .documentStart
    if endsDocument (← peek) then return .empty
    else node (handles ++ standardHandles) true false fuel

/-- Skips the marks of a document's end. -/
def documentEnds : Nat → Reading Unit
  | 0 => failure
  | fuel + 1 => do
    if ← found .documentEnd then documentEnds fuel else return ()

/-- The only document of a text, if it has one. -/
def document (fuel : Nat) : Reading (Option Node) := do
  if ← found .streamEnd then return none
  else
    let node ← root fuel
    documentEnds fuel
    expect .streamEnd
    return some node

end Reading

/-- A document. -/
structure Document where
  /-- The outermost node; an empty text has none. -/
  root : Option Node

namespace Document

/-- The only document of a text. Every token takes at most two steps, which bounds them. -/
def read? (text : String) : Option Document := do
  let tokens ← Token.scan? text
  let (root, _) ← (Reading.document (3 * tokens.length + 3)).run ⟨tokens, ∅⟩
  return ⟨root⟩

/-- The node that a node stands for: an alias stands for the last node with its number. -/
def resolve (d : Document) : Node → Option Node
  | .alias n =>
    let anchors := (d.root.map Node.anchors).getD []
    (anchors.filter fun a => a.1 = n).getLast?.map (·.2)
  | node => some node.content

/-- The scalar that a node stands for. -/
def scalar? (d : Document) (node : Node) : Option Scalar :=
  match d.resolve node with
  | some (.scalar value) => some value
  | _ => none

end Document

end CircuitDispatch.Yaml
