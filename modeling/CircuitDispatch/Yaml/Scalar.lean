import CircuitDispatch.Yaml.Cursor

/-!
# YAML scalars

Plain, quoted and block scalars. Inside a flow scalar a line break counts as a
blank, and further breaks count as they are. A block scalar keeps its lines or
folds them, and its header says what becomes of the breaks at its end.
-/

namespace CircuitDispatch.Yaml

/-- How a scalar is written. -/
inductive ScalarStyle where
  | plain
  | singleQuoted
  | doubleQuoted
  | literal
  | folded
  deriving DecidableEq, Repr

/-- What lies between two words of a flow scalar. -/
structure Gap where
  /-- The blanks on the line. -/
  blanks : List Char
  /-- The first line break and the breaks behind it. -/
  breaks : Option (List Char × List Char)

namespace Gap

/-- Nothing. -/
def empty : Gap := ⟨[], none⟩

/-- A line break that was escaped and so does not count. -/
def escapedBreak : Gap := ⟨[], some ([], [])⟩

/-- What a gap stands for. -/
def text (g : Gap) : List Char :=
  match g.breaks with
  | none => g.blanks
  | some (first, more) =>
    if first = ['\n'] then if more.isEmpty then [' '] else more else first ++ more

/-- Reads blanks and line breaks. Behind a break no tab may stand left of a given column. -/
def scan (indent : Nat) : Nat → Gap → Cursor → Option (Gap × Cursor)
  | 0, g, c => some (g, c)
  | fuel + 1, g, c =>
    match c.peek with
    | some x =>
      if isBlank x then
        match g.breaks with
        | none => scan indent fuel { g with blanks := g.blanks ++ [x] } (c.skip 1)
        | some _ =>
          if x = '\t' && c.column < indent then none else scan indent fuel g (c.skip 1)
      else if isBreak x then
        let (b, next) := c.takeBreak
        match g.breaks with
        | none => scan indent fuel ⟨[], some (b, [])⟩ next
        | some (first, more) => scan indent fuel { g with breaks := some (first, more ++ b) } next
      else some (g, c)
    | none => some (g, c)

end Gap

/-! ### Plain scalars -/

/-- Whether a character delimits flow collections. -/
def isFlowDelimiter (c : Char) : Bool :=
  c = ',' || c = '[' || c = ']' || c = '{' || c = '}'

/-- The characters of a plain scalar up to a gap or its end. -/
def plainWord (inFlow : Bool) : Nat → Cursor → Option (List Char × Cursor)
  | 0, c => some ([], c)
  | fuel + 1, c =>
    match c.peek with
    | none => some ([], c)
    | some x =>
      if isBlank x || isBreak x then some ([], c)
      else if inFlow && x = ':' && (c.peekAt 1).any (fun y => isFlowDelimiter y || y = '?') then
        none
      else if (x = ':' && c.gapAt 1) || (inFlow && isFlowDelimiter x) then some ([], c)
      else (plainWord inFlow fuel (c.skip 1)).map fun (word, c) => (x :: word, c)

/-- A plain scalar from a place on, behind `text` and a gap that is still open. Also tells whether
the scalar was left on a new line. -/
def plainFrom (inFlow : Bool) (indent : Nat) :
    Nat → List Char → Gap → Cursor → Option (List Char × Bool × Cursor)
  | 0, text, gap, c => some (text, gap.breaks.isSome, c)
  | fuel + 1, text, gap, c =>
    if c.atDocumentMarker || c.startsWith '#' then some (text, gap.breaks.isSome, c)
    else
      match plainWord inFlow (c.rest.length + 1) c with
      | none => none
      | some (word, next) =>
        let text := if word.isEmpty then text else text ++ gap.text ++ word
        let gap := if word.isEmpty then gap else Gap.empty
        if next.atEnd || !next.gapAt 0 then some (text, gap.breaks.isSome, next)
        else
          match Gap.scan indent (next.rest.length + 1) Gap.empty next with
          | none => none
          | some (gap, next) =>
            if !inFlow && next.column < indent then some (text, gap.breaks.isSome, next)
            else plainFrom inFlow indent fuel text gap next

/-! ### Quoted scalars -/

/-- The character that a letter after a backslash stands for. -/
def escapedChar? (c : Char) : Option Char :=
  match c with
  | '0' => some (Char.ofNat 0)
  | 'a' => some '\x07'
  | 'b' => some '\x08'
  | 't' => some '\t'
  | '\t' => some '\t'
  | 'n' => some '\n'
  | 'v' => some '\x0b'
  | 'f' => some '\x0c'
  | 'r' => some '\r'
  | 'e' => some '\x1b'
  | ' ' => some ' '
  | '"' => some '"'
  | '/' => some '/'
  | '\\' => some '\\'
  | 'N' => some '\u0085'
  | '_' => some '\u00a0'
  | 'L' => some '\u2028'
  | 'P' => some '\u2029'
  | _ => none

/-- The number of hexadecimal digits behind a letter after a backslash. -/
def escapeLength? (c : Char) : Option Nat :=
  match c with
  | 'x' => some 2
  | 'u' => some 4
  | 'U' => some 8
  | _ => none

/-- The value of a hexadecimal digit. -/
def hexDigit? (c : Char) : Option Nat :=
  if c.isDigit then some (c.toNat - '0'.toNat)
  else if 'a' ≤ c ∧ c ≤ 'f' then some (c.toNat - 'a'.toNat + 10)
  else if 'A' ≤ c ∧ c ≤ 'F' then some (c.toNat - 'A'.toNat + 10)
  else none

/-- The number that hexadecimal digits write. -/
def hexNumber? (digits : List Char) : Option Nat :=
  digits.foldlM (fun n c => (hexDigit? c).map (16 * n + ·)) 0

/-- An escape from behind its backslash on. -/
def escape? (c : Cursor) : Option (Char × Cursor) := do
  let letter ← c.peek
  match escapedChar? letter with
  | some x => some (x, c.skip 1)
  | none =>
    let length ← escapeLength? letter
    let digits := (c.rest.drop 1).take length
    if digits.length < length then none
    else
      let n ← hexNumber? digits
      if (0xd800 ≤ n ∧ n < 0xe000) ∨ 0x10ffff < n then none
      else some (Char.ofNat n, c.skip (1 + length))

/-- The characters of a quoted scalar up to a gap or the closing quote. The gap is open already if
an escaped line break ends them. -/
def quotedWord (single : Bool) : Nat → Cursor → Option (List Char × Gap × Cursor)
  | 0, _ => none
  | fuel + 1, c =>
    match c.peek with
    | none => some ([], Gap.empty, c)
    | some x =>
      let push (y : Char) (next : Cursor) : Option (List Char × Gap × Cursor) :=
        (quotedWord single fuel next).map fun (word, gap, c) => (y :: word, gap, c)
      if isBlank x || isBreak x then some ([], Gap.empty, c)
      else if single then
        if x = '\'' then
          if c.peekAt 1 = some '\'' then push '\'' (c.skip 2) else some ([], Gap.empty, c)
        else push x (c.skip 1)
      else if x = '"' then some ([], Gap.empty, c)
      else if x = '\\' then
        if c.breakAt 1 then some ([], Gap.escapedBreak, (c.skip 1).skipBreak)
        else
          match escape? (c.skip 1) with
          | some (y, next) => push y next
          | none => none
      else push x (c.skip 1)

/-- A quoted scalar from behind its opening quote on. -/
def quotedFrom (single : Bool) : Nat → Cursor → Option (List Char × Cursor)
  | 0, _ => none
  | fuel + 1, c =>
    if c.atDocumentMarker || c.atEnd then none
    else
      match quotedWord single (c.rest.length + 1) c with
      | none => none
      | some (word, gap, next) =>
        if gap.breaks.isNone && next.startsWith (if single then '\'' else '"') then
          some (word, next.skip 1)
        else
          match Gap.scan 0 (next.rest.length + 1) gap next with
          | none => none
          | some (gap, next) =>
            -- A quote right behind an escaped break closes the scalar as well.
            (quotedFrom single fuel next).map fun (text, c) => (word ++ gap.text ++ text, c)

/-! ### Block scalars -/

/-- What becomes of the line breaks at the end of a block scalar. -/
inductive Chomping where
  /-- All are dropped. -/
  | strip
  /-- The first is kept. -/
  | clip
  /-- All are kept. -/
  | keep
  deriving DecidableEq, Repr

/-- The chomping that a sign asks for. -/
def chomping? (c : Cursor) : Option Chomping :=
  match c.peek with
  | some '+' => some .keep
  | some '-' => some .strip
  | _ => none

/-- The header of a block scalar: chomping and the explicit indentation, 0 for none. -/
def blockHeader? (c : Cursor) : Option (Chomping × Nat × Cursor) :=
  let indentation? (c : Cursor) : Option (Nat × Cursor) :=
    match c.peek with
    | some d =>
      if d = '0' then none
      else if d.isDigit then some (d.toNat - '0'.toNat, c.skip 1)
      else some (0, c)
    | none => some (0, c)
  let rest : Option (Chomping × Nat × Cursor) :=
    match chomping? c with
    | some chomping => (indentation? (c.skip 1)).map fun (n, c) => (chomping, n, c)
    | none =>
      match indentation? c with
      | none => none
      | some (n, c) =>
        match n, chomping? c with
        | 0, _ => some (.clip, 0, c)
        | n, some chomping => some (chomping, n, c.skip 1)
        | n, none => some (.clip, n, c)
  match rest with
  | none => none
  | some (chomping, n, c) =>
    let c := (c.skipWhile isBlank).skipComment
    if c.lineEnds then some (chomping, n, c.skipBreak) else none

/-- The empty lines up to the next line with content, their breaks, the greatest indentation among
them and the cursor at that content. With indentation 0 every blank counts as indentation. -/
def blockBreaks (indent : Nat) :
    Nat → List Char → Nat → Cursor → Option (List Char × Nat × Cursor)
  | 0, breaks, most, c => some (breaks, most, c)
  | fuel + 1, breaks, most, c =>
    let spaces := (c.rest.takeWhile (· = ' ')).length
    let c := c.skip (if indent = 0 then spaces else min spaces (indent - c.column))
    let most := max most c.column
    if (indent = 0 || c.column < indent) && c.startsWith '\t' then none
    else if c.breakAt 0 then
      let (b, next) := c.takeBreak
      blockBreaks indent fuel (breaks ++ b) most next
    else some (breaks, most, c)

/-- The lines of a block scalar. `leading` is the break before the next line, `trailing` are the
breaks of empty lines behind it, and `wasBlank` says whether the last line started with a blank. -/
def blockLines (folds : Bool) (indent : Nat) :
    Nat → List Char → List Char → List Char → Bool → Cursor →
      Option (List Char × List Char × List Char × Cursor)
  | 0, text, leading, trailing, _, c => some (text, leading, trailing, c)
  | fuel + 1, text, leading, trailing, wasBlank, c =>
    if c.column = indent && !c.atEnd then
      let isBlankLine := c.blankAt 0
      let joint :=
        if folds && leading = ['\n'] && !wasBlank && !isBlankLine then
          if trailing.isEmpty then [' '] else []
        else leading
      let (line, next) := c.takeWhile (fun x => !isBreak x)
      let (leading, next) := next.takeBreak
      match blockBreaks indent (next.rest.length + 1) [] 0 next with
      | none => none
      | some (breaks, _, next) =>
        blockLines folds indent fuel (text ++ joint ++ trailing ++ line) leading breaks isBlankLine
          next
    else some (text, leading, trailing, c)

/-- A block scalar from behind its indicator on, inside a block with a given indentation. -/
def blockScalar? (folds : Bool) (parent : Int) (c : Cursor) : Option (List Char × Cursor) := do
  let (chomping, increment, c) ← blockHeader? c
  let fixed := if increment = 0 then 0 else (max parent 0).toNat + increment
  let (breaks, most, c) ← blockBreaks fixed (c.rest.length + 1) [] 0 c
  let indent := if fixed = 0 then max most (max (parent + 1) 1).toNat else fixed
  let (text, leading, trailing, c) ←
    blockLines folds indent (c.rest.length + 1) [] [] breaks false c
  let tail := match chomping with
    | .strip => []
    | .clip => leading
    | .keep => leading ++ trailing
  return (text ++ tail, c)

end CircuitDispatch.Yaml
