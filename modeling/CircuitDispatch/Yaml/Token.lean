import CircuitDispatch.Yaml.Scalar

/-!
# YAML tokens

`Token.scan?` splits a text into tokens. Most of the work is about block
structure: a line that stands further right than the block around it opens a
block, one that stands further left closes blocks, and a word turns out to be
the key of a mapping only when a colon follows it. So a token may be put before
earlier ones: a `key` before the word, and the start of a mapping before that.

Each step takes at least one character, which bounds the number of steps.
-/

namespace CircuitDispatch.Yaml

/-- A token. -/
inductive Token where
  | streamEnd
  | versionDirective (major minor : Nat)
  | tagDirective (handle uri : String)
  | documentStart
  | documentEnd
  | blockSequenceStart
  | blockMappingStart
  | blockEnd
  | flowSequenceStart
  | flowSequenceEnd
  | flowMappingStart
  | flowMappingEnd
  | blockEntry
  | flowEntry
  | key
  | value
  | alias (name : String)
  | anchor (name : String)
  | tag (handle suffix : String)
  | scalar (style : ScalarStyle) (text : String)
  deriving DecidableEq, Repr

/-- A token that may yet turn out to be a key. -/
structure KeyCandidate where
  /-- Whether it must be a key, because a block mapping goes on here. -/
  required : Bool
  /-- The number of tokens before it. -/
  position : Nat
  index : Nat
  line : Nat
  column : Nat

/-- The state of the scanner. -/
structure Scanner where
  cursor : Cursor
  tokens : Array Token
  /-- The column of the current block, -1 outside all blocks. -/
  indent : Int
  /-- The columns of the blocks around it, innermost first. -/
  outer : List Int
  /-- Whether a key may start here. -/
  keyAllowed : Bool
  /-- The key candidate of the current flow collection, or of the block. -/
  candidate : Option KeyCandidate
  /-- The key candidates of the collections around it, innermost first. -/
  outerCandidates : List (Option KeyCandidate)

namespace Scanner

/-- The scanner at the start of a text. -/
def start (text : String) : Scanner :=
  ⟨.start text, #[], -1, [], true, none, []⟩

/-- Whether the scanner is inside a flow collection. -/
def inFlow (s : Scanner) : Bool := !s.outerCandidates.isEmpty

/-- Appends a token. -/
def push (s : Scanner) (t : Token) : Scanner := { s with tokens := s.tokens.push t }

/-- Appends a token and moves on behind some characters. -/
def pushSkip (s : Scanner) (t : Token) (n : Nat) : Scanner :=
  { s with tokens := s.tokens.push t, cursor := s.cursor.skip n }

/-- Puts a token before the one at a position. -/
def insertAt (s : Scanner) (position : Nat) (t : Token) : Scanner :=
  { s with tokens := s.tokens.insertIdxIfInBounds position t }

/-! ### Blocks -/

/-- Closes all blocks right of a column. -/
def unrollTo (column : Int) : List Int → Scanner → Scanner
  | [], s => s
  | outer :: rest, s =>
    if column < s.indent then
      unrollTo column rest { s.push .blockEnd with indent := outer, outer := rest }
    else s

/-- Closes all blocks right of a column, outside flow collections. -/
def unroll (s : Scanner) (column : Int) : Scanner :=
  if s.inFlow then s else unrollTo column s.outer s

/-- Opens a block at a column right of the current one, outside flow collections. Its start goes to
a position among the tokens. -/
def roll (s : Scanner) (column : Nat) (position : Nat) (t : Token) : Scanner :=
  if s.inFlow || (column : Int) ≤ s.indent then s
  else { s.insertAt position t with indent := column, outer := s.indent :: s.outer }

/-! ### Keys -/

/-- Remembers that the next token may be a key. -/
def saveCandidate (s : Scanner) : Option Scanner :=
  if s.keyAllowed then
    let c := s.cursor
    if s.candidate.any (·.required) then none
    else
      let required := !s.inFlow && s.indent = (c.column : Int)
      some { s with candidate := some ⟨required, s.tokens.size, c.index, c.line, c.column⟩ }
  else some s

/-- Forgets the key candidate; one that must be a key cannot be forgotten. -/
def dropCandidate (s : Scanner) : Option Scanner :=
  if s.candidate.any (·.required) then none else some { s with candidate := none }

/-- Whether a candidate is too far back: a key stands on one line and has at most 1024
characters. -/
def isStale (c : Cursor) (k : KeyCandidate) : Bool := k.line < c.line || k.index + 1024 < c.index

/-- Forgets all candidates that are too far back. -/
def dropStale (s : Scanner) : Option Scanner :=
  let stale (k : Option KeyCandidate) : Bool := k.any (isStale s.cursor)
  if (s.candidate :: s.outerCandidates).any fun k => stale k && k.any (·.required) then none
  else
    let keep (k : Option KeyCandidate) : Option KeyCandidate := if stale k then none else k
    some { s with candidate := keep s.candidate, outerCandidates := s.outerCandidates.map keep }

/-! ### Blanks between tokens -/

/-- Moves on to the next token, over blanks, comments and line breaks. A tab counts as a blank
only where no key may start. -/
def skipGap : Nat → Scanner → Scanner
  | 0, s => s
  | fuel + 1, s =>
    let tabs := s.inFlow || !s.keyAllowed
    let c := (s.cursor.skipWhile fun x => x = ' ' || (tabs && x = '\t')).skipComment
    if c.breakAt 0 then
      skipGap fuel { s with cursor := c.skipBreak, keyAllowed := s.keyAllowed || !s.inFlow }
    else { s with cursor := c }

/-! ### Directives, anchors and tags -/

/-- The digits of a version number. -/
def versionNumber? (c : Cursor) : Option (Nat × Cursor) :=
  let (digits, next) := c.takeWhile Char.isDigit
  if digits.isEmpty || 9 < digits.length then none
  else some (digits.foldl (fun n d => 10 * n + (d.toNat - '0'.toNat)) 0, next)

/-- The handle of a tag, with its exclamation marks. -/
def tagHandle? (inDirective : Bool) (c : Cursor) : Option (String × Cursor) :=
  if !c.startsWith '!' then none
  else
    let (word, next) := (c.skip 1).takeWhile isWord
    if next.startsWith '!' then some (String.ofList ('!' :: word ++ ['!']), next.skip 1)
    else if inDirective && !word.isEmpty then none
    else some (String.ofList ('!' :: word), next)

/-- The octets of a percent escape. -/
def octet? (c : Cursor) : Option (Nat × Cursor) :=
  match c.rest with
  | '%' :: a :: b :: _ => (hexNumber? [a, b]).map fun n => (n, c.skip 3)
  | _ => none

/-- The octets that follow the first one of a character. -/
def octetsAfter? (first : Nat) : Option (Nat × Nat) :=
  if first < 0x80 then some (first, 0)
  else if 0xc0 ≤ first ∧ first < 0xe0 then some (first % 0x20, 1)
  else if 0xe0 ≤ first ∧ first < 0xf0 then some (first % 0x10, 2)
  else if 0xf0 ≤ first ∧ first < 0xf8 then some (first % 0x08, 3)
  else none

/-- More octets of an escaped character. -/
def moreOctets? : Nat → Nat → Cursor → Option (Nat × Cursor)
  | 0, n, c => some (n, c)
  | count + 1, n, c => do
    let (octet, next) ← octet? c
    if 0x80 ≤ octet ∧ octet < 0xc0 then moreOctets? count (64 * n + octet % 64) next else none

/-- An escaped character of an identifier. -/
def uriEscape? (c : Cursor) : Option (Char × Cursor) := do
  let (first, next) ← octet? c
  let (n, count) ← octetsAfter? first
  let (n, next) ← moreOctets? count n next
  return (Char.ofNat n, next)

/-- Whether a character may stand in the identifier of a tag. -/
def isUriChar (wide : Bool) (c : Char) : Bool :=
  isWord c || ";/?:@&=+$.!~*'()".toList.contains c || (wide && ",[]".toList.contains c)

/-- The identifier of a tag. -/
def uri? (wide : Bool) : Nat → Cursor → Option (List Char × Cursor)
  | 0, c => some ([], c)
  | fuel + 1, c =>
    match c.peek with
    | some x =>
      if x = '%' then do
        let (y, next) ← uriEscape? c
        let (rest, next) ← uri? wide fuel next
        return (y :: rest, next)
      else if isUriChar wide x then do
        let (rest, next) ← uri? wide fuel (c.skip 1)
        return (x :: rest, next)
      else some ([], c)
    | none => some ([], c)

/-- An identifier that is not empty. -/
def uriText? (wide : Bool) (c : Cursor) : Option (String × Cursor) := do
  let (text, next) ← uri? wide (c.rest.length + 1) c
  if text.isEmpty then none else return (String.ofList text, next)

/-- A tag, as its handle and the rest of it. -/
def tag? (c : Cursor) : Option (Token × Cursor) :=
  if c.peekAt 1 = some '<' then do
    let (uri, next) ← uriText? true (c.skip 2)
    if next.startsWith '>' then return (.tag "" uri, next.skip 1) else none
  else do
    let (handle, next) ← tagHandle? false c
    if handle.length > 1 && handle.endsWith "!" then
      let (suffix, next) ← uriText? false next
      return (.tag handle suffix, next)
    else
      let (rest, next) ← uri? false (next.rest.length + 1) next
      let suffix := String.ofList (handle.toList.drop 1 ++ rest)
      return (if suffix.isEmpty then .tag "" "!" else .tag "!" suffix, next)

/-- A directive from behind its percent sign on, up to the end of its line. -/
def directive? (c : Cursor) : Option (Token × Cursor) := do
  let (name, c) := c.takeWhile isWord
  if name.isEmpty || !c.gapAt 0 then none
  else
    let c := c.skipWhile isBlank
    let (token, c) ←
      if name = "YAML".toList then do
        let (major, c) ← versionNumber? c
        if !c.startsWith '.' then none
        else
          let (minor, c) ← versionNumber? (c.skip 1)
          some (Token.versionDirective major minor, c)
      else if name = "TAG".toList then do
        let (handle, c) ← tagHandle? true c
        if !c.blankAt 0 then none
        else
          let (uri, c) ← uriText? true (c.skipWhile isBlank)
          if c.gapAt 0 then some (Token.tagDirective handle uri, c) else none
      else none
    let c := (c.skipWhile isBlank).skipComment
    if c.lineEnds then return (token, c.skipBreak) else none

/-- The name of an anchor or alias from behind its mark on. -/
def anchorName? (c : Cursor) : Option (String × Cursor) :=
  let (name, next) := c.takeWhile isWord
  let ends := next.gapAt 0 || (next.peek.any fun x => "?:,]\x7d%@`".toList.contains x)
  if name.isEmpty || !ends then none else some (String.ofList name, next)

/-! ### Steps -/

/-- Closes all blocks before a directive or a document marker. -/
def leaveBlocks (s : Scanner) : Option Scanner := do
  let s ← (s.unroll (-1)).dropCandidate
  return { s with keyAllowed := false }

/-- A token that may be a key, behind which no key may start on the line. -/
def word (s : Scanner) (read : Cursor → Option (Token × Cursor)) : Option Scanner := do
  let s ← s.saveCandidate
  let (token, next) ← read s.cursor
  return { s.push token with cursor := next, keyAllowed := false }

/-- The start of a flow collection. -/
def openFlow (s : Scanner) (t : Token) : Option Scanner := do
  let s ← s.saveCandidate
  return { s.pushSkip t 1 with
    outerCandidates := s.candidate :: s.outerCandidates
    candidate := none
    keyAllowed := true }

/-- The end of a flow collection. -/
def closeFlow (s : Scanner) (t : Token) : Option Scanner := do
  let s ← s.dropCandidate
  let s := { s.pushSkip t 1 with keyAllowed := false }
  match s.outerCandidates with
  | candidate :: rest => return { s with candidate := candidate, outerCandidates := rest }
  | [] => return s

/-- A dash before an entry of a block sequence. -/
def blockEntry (s : Scanner) : Option Scanner := do
  let s ←
    if s.inFlow then some s
    else if s.keyAllowed then some (s.roll s.cursor.column s.tokens.size .blockSequenceStart)
    else none
  let s ← s.dropCandidate
  return { s.pushSkip .blockEntry 1 with keyAllowed := true }

/-- A question mark before a key. -/
def explicitKey (s : Scanner) : Option Scanner := do
  let s ←
    if s.inFlow then some s
    else if s.keyAllowed then some (s.roll s.cursor.column s.tokens.size .blockMappingStart)
    else none
  let s ← s.dropCandidate
  return { s.pushSkip .key 1 with keyAllowed := !s.inFlow }

/-- A colon before a value. -/
def value (s : Scanner) : Option Scanner :=
  match s.candidate with
  | some k =>
    let s := (s.insertAt k.position .key).roll k.column k.position .blockMappingStart
    some { s.pushSkip .value 1 with candidate := none, keyAllowed := false }
  | none =>
    if s.inFlow then some { s.pushSkip .value 1 with keyAllowed := false }
    else if s.keyAllowed then
      some { (s.roll s.cursor.column s.tokens.size .blockMappingStart).pushSkip .value 1 with
        keyAllowed := true }
    else none

/-- A block scalar. -/
def blockScalar (s : Scanner) (folds : Bool) : Option Scanner := do
  let s ← s.dropCandidate
  let (text, next) ← blockScalar? folds s.indent (s.cursor.skip 1)
  let style : ScalarStyle := if folds then .folded else .literal
  return { s.push (.scalar style (String.ofList text)) with cursor := next, keyAllowed := true }

/-- A quoted scalar. -/
def quotedScalar (s : Scanner) (single : Bool) : Option Scanner :=
  s.word fun c => do
    let (text, next) ← quotedFrom single (c.rest.length + 1) (c.skip 1)
    let style : ScalarStyle := if single then .singleQuoted else .doubleQuoted
    return (.scalar style (String.ofList text), next)

/-- A plain scalar. -/
def plainScalar (s : Scanner) : Option Scanner := do
  let s ← s.saveCandidate
  let (text, onNewLine, next) ←
    plainFrom s.inFlow (s.indent + 1).toNat (s.cursor.rest.length + 1) [] Gap.empty s.cursor
  return { s.push (.scalar .plain (String.ofList text)) with
    cursor := next
    keyAllowed := onNewLine }

/-- Whether a plain scalar may start here. -/
def plainStarts (s : Scanner) : Bool :=
  match s.cursor.peek with
  | none => false
  | some x =>
    !(s.cursor.gapAt 0 || "-?:,[]\x7b\x7d#&*!|>'\"%@`".toList.contains x)
      || (x = '-' && !s.cursor.blankAt 1)
      || (!s.inFlow && (x = '?' || x = ':') && !s.cursor.gapAt 1)

/-- Reads the token that starts here. -/
def token? (s : Scanner) (x : Char) : Option Scanner :=
  let c := s.cursor
  if c.column = 0 && x = '%' then do
    let s ← s.leaveBlocks
    let (token, next) ← directive? (c.skip 1)
    return { s.push token with cursor := next }
  else if c.atDocumentMarker then do
    let s ← s.leaveBlocks
    return s.pushSkip (if x = '-' then .documentStart else .documentEnd) 3
  else if x = '[' then s.openFlow .flowSequenceStart
  else if x = '{' then s.openFlow .flowMappingStart
  else if x = ']' then s.closeFlow .flowSequenceEnd
  else if x = '}' then s.closeFlow .flowMappingEnd
  else if x = ',' then do
    let s ← s.dropCandidate
    return { s.pushSkip .flowEntry 1 with keyAllowed := true }
  else if x = '-' && c.gapAt 1 then s.blockEntry
  else if x = '?' && (s.inFlow || c.gapAt 1) then s.explicitKey
  else if x = ':' && (s.inFlow || c.gapAt 1) then s.value
  else if x = '*' then
    s.word fun c => (anchorName? (c.skip 1)).map fun (name, c) => (.alias name, c)
  else if x = '&' then
    s.word fun c => (anchorName? (c.skip 1)).map fun (name, c) => (.anchor name, c)
  else if x = '!' then do
    let s ← s.word tag?
    if s.cursor.gapAt 0 || (s.inFlow && s.cursor.startsWith ',') then some s else none
  else if x = '|' && !s.inFlow then s.blockScalar false
  else if x = '>' && !s.inFlow then s.blockScalar true
  else if x = '\'' then s.quotedScalar true
  else if x = '"' then s.quotedScalar false
  else if s.plainStarts then s.plainScalar
  else none

/-- Reads all tokens. -/
def run : Nat → Scanner → Option Scanner
  | 0, _ => none
  | fuel + 1, s => do
    let s ← (skipGap (s.cursor.rest.length + 1) s).dropStale
    match s.cursor.peek with
    | none =>
      let s ← s.leaveBlocks
      return s.push .streamEnd
    | some x =>
      let s ← (s.unroll s.cursor.column).token? x
      run fuel s

end Scanner

/-- The tokens of a text. -/
def Token.scan? (text : String) : Option (List Token) :=
  if text.toList.all isAllowed then
    (Scanner.run (text.length + 1) (.start text)).map (·.tokens.toList)
  else none

end CircuitDispatch.Yaml
