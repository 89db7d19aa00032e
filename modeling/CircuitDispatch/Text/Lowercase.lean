import CircuitDispatch.Text.LetterCase

/-!
# Lower case

`Text.toLower` puts a text into lower case. Two letters are special: a dotted
capital I becomes two characters, and a capital sigma becomes the final form
where a letter stands before it and none after it.
-/

namespace CircuitDispatch.Text

/-- Whether the first character that is not passed over has case. -/
def casedNext (s : List Char) : Bool :=
  match s.dropWhile isCaseIgnorable with
  | c :: _ => isCased c
  | [] => false

/-- The lower-case form of a text. `before` holds the characters already taken, last one first. -/
def lowerFrom (before : List Char) : List Char → List Char
  | [] => []
  | c :: rest =>
    let lower :=
      if c = 'İ' then ['i', '\u0307']
      else if c = 'Σ' then [if casedNext before && !casedNext rest then 'ς' else 'σ']
      else [lowerChar c]
    lower ++ lowerFrom (c :: before) rest

/-- The lower-case form of a text. -/
def toLower (s : String) : String := String.ofList (lowerFrom [] s.toList)

/-- Whether a word stands somewhere in a list of characters. -/
def containsList (word : List Char) : List Char → Bool
  | [] => word.isEmpty
  | c :: rest => word.isPrefixOf (c :: rest) || containsList word rest

/-- Whether a word stands somewhere in a text. -/
def containsWord (text word : String) : Bool := containsList word.toList text.toList

end CircuitDispatch.Text
