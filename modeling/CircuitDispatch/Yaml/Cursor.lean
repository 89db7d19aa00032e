/-!
# Reading positions in YAML

A cursor is the rest of a text with the place where it starts: how many
characters lie before it, and its line and column. Line breaks are the carriage
return, the line feed, both together, and the three breaks beyond ASCII.
-/

namespace CircuitDispatch.Yaml

/-- Whether a character breaks a line. -/
def isBreak (c : Char) : Bool :=
  c = '\n' || c = '\r' || c = '\u0085' || c = '\u2028' || c = '\u2029'

/-- Whether a character is a blank inside a line. -/
def isBlank (c : Char) : Bool := c = ' ' || c = '\t'

/-- Whether a character may stand in names. -/
def isWord (c : Char) : Bool := c.isAlphanum || c = '_' || c = '-'

/-- Whether a character may stand in a text at all. -/
def isAllowed (c : Char) : Bool :=
  let n := c.toNat
  n = 0x9 || n = 0xa || n = 0xd || (0x20 ≤ n && n ≤ 0x7e) || n = 0x85
    || (0xa0 ≤ n && n ≤ 0xfffd) || 0x10000 ≤ n

/-- The rest of a text and where it starts. -/
structure Cursor where
  rest : List Char
  index : Nat
  line : Nat
  column : Nat

namespace Cursor

/-- The start of a text. A byte order mark says nothing, but it takes a column. -/
def start (text : String) : Cursor :=
  match text.toList with
  | '\ufeff' :: rest => ⟨rest, 1, 0, 1⟩
  | rest => ⟨rest, 0, 0, 0⟩

/-- The next character. -/
def peek (c : Cursor) : Option Char := c.rest.head?

/-- Whether the next character is a given one. -/
def startsWith (c : Cursor) (x : Char) : Bool := c.peek = some x

/-- The character after the next `n`. -/
def peekAt (c : Cursor) (n : Nat) : Option Char := c.rest[n]?

/-- Whether the text ends here. -/
def atEnd (c : Cursor) : Bool := c.rest.isEmpty

/-- Whether a place holds a line break. -/
def breakAt (c : Cursor) (n : Nat) : Bool := (c.peekAt n).any isBreak

/-- Whether a place holds a blank. -/
def blankAt (c : Cursor) (n : Nat) : Bool := (c.peekAt n).any isBlank

/-- Whether a place holds a blank or a line break, or lies behind the end. -/
def gapAt (c : Cursor) (n : Nat) : Bool := (c.peekAt n).all fun x => isBlank x || isBreak x

/-- Whether a line ends here. -/
def lineEnds (c : Cursor) : Bool := (c.peekAt 0).all isBreak

/-- Behind the next `n` characters, none of which breaks a line. -/
def skip (c : Cursor) (n : Nat) : Cursor :=
  { c with rest := c.rest.drop n, index := c.index + n, column := c.column + n }

/-- The characters up to the first that fails a test, and the cursor there. No line break may
pass. -/
def takeWhile (c : Cursor) (p : Char → Bool) : List Char × Cursor :=
  let taken := c.rest.takeWhile p
  (taken, c.skip taken.length)

/-- Behind all characters up to the first that fails a test. -/
def skipWhile (c : Cursor) (p : Char → Bool) : Cursor := (c.takeWhile p).2

/-- The next line break as it counts in a text, and the cursor behind it. Only the two separators
beyond Latin keep their form. -/
def takeBreak (c : Cursor) : List Char × Cursor :=
  let behind (rest : List Char) (n : Nat) : Cursor := ⟨rest, c.index + n, c.line + 1, 0⟩
  match c.rest with
  | '\r' :: '\n' :: rest => (['\n'], behind rest 2)
  | x :: rest =>
    if x = '\u2028' || x = '\u2029' then ([x], behind rest 1)
    else if isBreak x then (['\n'], behind rest 1)
    else ([], c)
  | [] => ([], c)

/-- Behind the next line break. -/
def skipBreak (c : Cursor) : Cursor := c.takeBreak.2

/-- Behind a comment, if there is one. -/
def skipComment (c : Cursor) : Cursor :=
  if c.startsWith '#' then c.skipWhile (fun x => !isBreak x) else c

/-- Whether a marker of a document's start or end stands here. -/
def atDocumentMarker (c : Cursor) : Bool :=
  c.column = 0 && (c.rest.take 3 == "---".toList || c.rest.take 3 == "...".toList) && c.gapAt 3

end Cursor

end CircuitDispatch.Yaml
