import CircuitDispatch.Decimal.Reading
import CircuitDispatch.Json.Value

/-!
# Reading JSON

`Json.parse?` reads a text that holds one value and, around it, blanks. The
grammar is the strict one: no comments, no trailing commas, no leading zeros or
plus signs, no control characters in strings. Arrays and objects may be nested
`depthLimit` deep; what lies deeper is `unreadable`, like a number beyond the
doubles and a string with half of a surrogate pair.

Each step hands on the rest of the text. The readers recurse on a bound for the
number of steps; twice the length of the text is enough, since no two steps in
a row leave the text as it is.
-/

namespace CircuitDispatch.Json

/-- How many arrays and objects may lie around each other. -/
def depthLimit : Nat := 127

/-- The blanks of JSON. -/
def isBlank (c : Char) : Bool := c = ' ' || c = '\t' || c = '\n' || c = '\r'

/-- The text from its first other character on. -/
def skipBlanks (s : List Char) : List Char := s.dropWhile isBlank

/-- The rest of a text that starts with a given word. -/
def dropWord? : List Char → List Char → Option (List Char)
  | [], s => some s
  | w :: word, c :: s => if w = c then dropWord? word s else none
  | _ :: _, [] => none

/-- The number that decimal digits write. -/
def ofDigits (digits : List Char) : Nat :=
  digits.foldl (fun n c => 10 * n + (c.toNat - '0'.toNat)) 0

/-! ### Numbers -/

/-- The digits that a text starts with, at least one, and the rest. -/
def digits? (s : List Char) : Option (List Char × List Char) :=
  let digits := s.takeWhile Char.isDigit
  if digits.isEmpty then none else some (digits, s.dropWhile Char.isDigit)

/-- Whether a text starts with a minus sign, and the rest behind the sign, if there is one. -/
def exponentSign : List Char → Bool × List Char
  | '-' :: s => (true, s)
  | '+' :: s => (false, s)
  | s => (false, s)

/-- The exponent after the mark, as its value, and the rest. -/
def exponentPart? (s : List Char) : Option (Int × List Char) :=
  let (isNegative, s) := exponentSign s
  (digits? s).map fun (digits, s) =>
    (if isNegative then -(ofDigits digits : Int) else ofDigits digits, s)

/-- The digits after a point, if there is a point, and the rest. -/
def fraction? : List Char → Option (Option (List Char) × List Char)
  | '.' :: s => (digits? s).map fun (digits, s) => (some digits, s)
  | s => some (none, s)

/-- The exponent, if there is a mark for one, and the rest. -/
def exponent? : List Char → Option (Option Int × List Char)
  | 'e' :: s => (exponentPart? s).map fun (e, s) => (some e, s)
  | 'E' :: s => (exponentPart? s).map fun (e, s) => (some e, s)
  | s => some (none, s)

/-- The number with these parts. An integer within 64 bits stays an integer; minus zero does not. -/
def ofParts (isNegative : Bool) (whole : List Char) (fraction : Option (List Char))
    (exponent : Option Int) : Json :=
  let n := ofDigits whole
  let fits := if isNegative then 0 < n ∧ n ≤ Nat.pow 2 63 else n < UInt64.size
  if fraction.isNone ∧ exponent.isNone ∧ fits then .integer (if isNegative then -n else n)
  else
    let decimals := fraction.getD []
    let scale : Int := exponent.getD 0 - decimals.length
    match Decimal.read? isNegative (ofDigits (whole ++ decimals)) scale with
    | some x => .number x
    | none => .unreadable

/-- A number of an integral part and what follows it. -/
def numberTail? (isNegative : Bool) (whole : List Char) (s : List Char) :
    Option (Json × List Char) := do
  let (fraction, s) ← fraction? s
  let (exponent, s) ← exponent? s
  some (ofParts isNegative whole fraction exponent, s)

/-- A number from behind its sign on. -/
def unsigned? (isNegative : Bool) : List Char → Option (Json × List Char)
  | '0' :: s => if s.head?.any Char.isDigit then none else numberTail? isNegative ['0'] s
  | s => do
    let (whole, s) ← digits? s
    numberTail? isNegative whole s

/-- A number from its first character on. -/
def number? : List Char → Option (Json × List Char)
  | '-' :: s => unsigned? true s
  | s => unsigned? false s

/-! ### Strings -/

/-- The value of a hexadecimal digit. -/
def hexValue? (c : Char) : Option Nat :=
  if c.isDigit then some (c.toNat - '0'.toNat)
  else if 'a' ≤ c ∧ c ≤ 'f' then some (c.toNat - 'a'.toNat + 10)
  else if 'A' ≤ c ∧ c ≤ 'F' then some (c.toNat - 'A'.toNat + 10)
  else none

/-- Four hexadecimal digits and the rest. -/
def codeUnit? : List Char → Option (Nat × List Char)
  | a :: b :: c :: d :: s => do
    let a ← hexValue? a
    let b ← hexValue? b
    let c ← hexValue? c
    let d ← hexValue? d
    some (((a * 16 + b) * 16 + c) * 16 + d, s)
  | _ => none

/-- The character that a letter after a backslash stands for. -/
def escaped? (c : Char) : Option Char :=
  if c = '"' ∨ c = '\\' ∨ c = '/' then some c
  else if c = 'b' then some '\x08'
  else if c = 'f' then some '\x0c'
  else if c = 'n' then some '\n'
  else if c = 'r' then some '\r'
  else if c = 't' then some '\t'
  else none

/-- A character of a string as it is read: a character, or one of the 16-bit units of the escapes
`\uXXXX`. -/
inductive Piece where
  | char (c : Char)
  | unit (n : Nat)

/-- The pieces up to the closing quote, and the rest behind it. -/
def pieces? : Nat → List Char → Option (List Piece × List Char)
  | 0, _ => none
  | _ + 1, [] => none
  | fuel + 1, c :: s =>
    if c = '"' then some ([], s)
    else if c.toNat < 0x20 then none
    else if c = '\\' then
      match s with
      | [] => none
      | e :: s =>
        if e = 'u' then do
          let (n, s) ← codeUnit? s
          let (rest, s) ← pieces? fuel s
          some (.unit n :: rest, s)
        else do
          let c ← escaped? e
          let (rest, s) ← pieces? fuel s
          some (.char c :: rest, s)
    else do
      let (rest, s) ← pieces? fuel s
      some (.char c :: rest, s)

/-- The characters of the pieces. Two units of a surrogate pair make one character; half a pair is
none. -/
def ofPieces? : List Piece → Option (List Char)
  | [] => some []
  | .char c :: rest => (ofPieces? rest).map (c :: ·)
  | .unit high :: .unit low :: rest =>
    if 0xD800 ≤ high ∧ high < 0xDC00 then
      if 0xDC00 ≤ low ∧ low < 0xE000 then
        (ofPieces? rest).map (Char.ofNat (0x10000 + (high - 0xD800) * 0x400 + (low - 0xDC00)) :: ·)
      else none
    else if 0xDC00 ≤ high ∧ high < 0xE000 then none
    else (ofPieces? (.unit low :: rest)).map (Char.ofNat high :: ·)
  | .unit n :: rest =>
    if 0xD800 ≤ n ∧ n < 0xE000 then none else (ofPieces? rest).map (Char.ofNat n :: ·)

/-- A string from behind its opening quote on; `none` for the string itself if it stands for no
text. -/
def string? (fuel : Nat) (s : List Char) : Option (Option String × List Char) := do
  let (pieces, rest) ← pieces? fuel s
  some ((ofPieces? pieces).map String.ofList, rest)

/-! ### Values -/

mutual

/-- A value and the rest. `depth` counts the arrays and objects that may still be opened. -/
def value? (fuel depth : Nat) (s : List Char) : Option (Json × List Char) :=
  match fuel with
  | 0 => none
  | fuel + 1 =>
    match skipBlanks s with
    | 'n' :: s => (dropWord? "ull".toList s).map fun s => (.null, s)
    | 't' :: s => (dropWord? "rue".toList s).map fun s => (.bool true, s)
    | 'f' :: s => (dropWord? "alse".toList s).map fun s => (.bool false, s)
    | '"' :: s => do
      let (text, s) ← string? fuel s
      some (match text with | some t => .string t | none => .unreadable, s)
    | '[' :: s =>
      match skipBlanks s with
      | ']' :: s => some (if depth = 0 then .unreadable else .array [], s)
      | s => do
        let (items, s) ← items? fuel (depth - 1) s
        some (if depth = 0 then .unreadable else .array items, s)
    | '\x7b' :: s =>
      match skipBlanks s with
      | '\x7d' :: s => some (if depth = 0 then .unreadable else .object [], s)
      | s => do
        let (members, s) ← members? fuel (depth - 1) s
        some (match members with
          | some members => if depth = 0 then .unreadable else .object members
          | none => .unreadable, s)
    | s => number? s

/-- The items of an array up to its closing bracket. -/
def items? (fuel depth : Nat) (s : List Char) : Option (List Json × List Char) :=
  match fuel with
  | 0 => none
  | fuel + 1 => do
    let (item, s) ← value? fuel depth s
    match skipBlanks s with
    | ',' :: s => do
      let (rest, s) ← items? fuel depth s
      some (item :: rest, s)
    | ']' :: s => some ([item], s)
    | _ => none

/-- The members of an object up to its closing brace; `none` for them if a key stands for no
text. -/
def members? (fuel depth : Nat) (s : List Char) :
    Option (Option (List (String × Json)) × List Char) :=
  match fuel with
  | 0 => none
  | fuel + 1 =>
    match skipBlanks s with
    | '"' :: s => do
      let (key, s) ← string? fuel s
      match skipBlanks s with
      | ':' :: s => do
        let (value, s) ← value? fuel depth s
        let member := key.map fun key => (key, value)
        match skipBlanks s with
        | ',' :: s => do
          let (rest, s) ← members? fuel depth s
          some (member.bind fun m => rest.map (m :: ·), s)
        | '\x7d' :: s => some (member.map ([·]), s)
        | _ => none
      | _ => none
    | _ => none

end

/-- The value that a text holds, if it is well formed. -/
def parse? (text : String) : Option Json := do
  let s := text.toList
  let (value, rest) ← value? (2 * s.length + 2) depthLimit s
  if (skipBlanks rest).isEmpty then some value else none

end CircuitDispatch.Json
