import BotBindings.Text.Blank
import BotBindings.Text.LetterCase

namespace BotBindings.Text

/-- A capital begins a word behind a small letter or a digit, and behind a capital when a small
letter follows. -/
def beginsWord (previous current : Char) (next : Option Char) : Bool :=
  isUpper current &&
    (isLower previous || previous.isDigit || (isUpper previous && next.any isLower))

/-- Cuts a name before each capital that begins a word. -/
def words : List Char → List (List Char)
  | [] => []
  | [c] => [[c]]
  | c :: d :: rest =>
    match words (d :: rest) with
    | [] => [[c]]
    | w :: ws => if beginsWord c d rest.head? then [c] :: w :: ws else (c :: w) :: ws

/-- The text between two bytes, unless one of them is inside a character. -/
def between? (s : String) (start stop : Nat) : Option String := do
  let b ← s.pos? ⟨start⟩
  let e ← s.pos? ⟨stop⟩
  (s.slice? b e).map (·.copy)

/-- The word between two bytes, and none if nothing is between them. -/
def wordBetween? (s : String) (start stop : Nat) : Option (List String) :=
  if start < stop then (between? s start stop).map ([·]) else some []

/-- Cuts the words from a text in one pass over its characters. `rest` follows the character
`previous` and begins at the byte `here`, and the word that is not cut yet began at `start`. -/
def cutWords (s : String) (start here : Nat) (previous : Char) : List Char → Option (List String)
  | [] => wordBetween? s start s.utf8ByteSize
  | c :: rest =>
    if beginsWord previous c rest.head? then do
      return (← wordBetween? s start here) ++ (← cutWords s here (here + c.utf8Size) c rest)
    else cutWords s start (here + c.utf8Size) c rest

/-- The parts of a name between underscores, without the empty ones. -/
def parts (cs : List Char) : List (List Char) :=
  (pieces '_' cs).filter (!·.isEmpty)

def snakeCase (cs : List Char) : List Char :=
  ['_'].intercalate (((parts cs).flatMap words).map lowercase)

/-- Applies a case mapping to the first character alone. -/
def mapHead (f : Char → List Char) : List Char → List Char
  | [] => []
  | c :: rest => f c ++ rest

def upperCamel (cs : List Char) : List Char :=
  (parts cs).flatMap (mapHead toUpper)

def lowerCamel (cs : List Char) : List Char :=
  mapHead toLower (upperCamel cs)

end BotBindings.Text

namespace BotBindings

/-- `s` cut before each capital that begins a word. None if a cut were inside a character. -/
def camelWords (s : String) : Option (List String) :=
  match s.toList with
  | [] => Text.wordBetween? s 0 s.utf8ByteSize
  | c :: rest => Text.cutWords s 0 c.utf8Size c rest

/-- `s` with its underscores and word starts as in `send_photo`. -/
def snakeCase (s : String) : String := String.ofList (Text.snakeCase s.toList)

/-- `s` as in `SendPhoto`. -/
def upperCamel (s : String) : String := String.ofList (Text.upperCamel s.toList)

/-- `s` as in `sendPhoto`. -/
def lowerCamel (s : String) : String := String.ofList (Text.lowerCamel s.toList)

end BotBindings
