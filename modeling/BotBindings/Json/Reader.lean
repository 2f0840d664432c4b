import BotBindings.Json.Failure

/-!
Reading JSON text from left to right, one kind of value at a time. A reader takes the text that is
left and returns what it read with the rest. Its first argument bounds the turns of each loop; twice
the length of the text is enough, since no two turns pass without taking a character.
-/
namespace BotBindings.Json

abbrev Reader (α : Type) := Nat → List Char → Except Failure (α × List Char)

def isSpace (c : Char) : Bool := c == ' ' || c == '\t' || c == '\n' || c == '\r'

def skipSpace (cs : List Char) : List Char := cs.dropWhile isSpace

/-- The rest behind the letters of `null`, `true` or `false` that are still due. -/
def readWord : List Char → List Char → Except Failure (List Char)
  | [], cs => .ok cs
  | _ :: _, [] => .error (.before .endInValue [])
  | w :: ws, c :: cs => if c = w then readWord ws cs else .error (.onto .noIdent (c :: cs))

def hexValue (c : Char) : Option Nat :=
  if c.isDigit then some (c.toNat - 48)
  else if 'a' ≤ c ∧ c ≤ 'f' then some (c.toNat - 87)
  else if 'A' ≤ c ∧ c ≤ 'F' then some (c.toNat - 55)
  else none

/-- Four hexadecimal digits. Without them the text is refused behind four bytes. -/
def hexFour (cs : List Char) : Except Failure Nat :=
  match cs with
  | a :: b :: c :: d :: _ =>
    match hexValue a, hexValue b, hexValue c, hexValue d with
    | some a, some b, some c, some d => .ok (((a * 16 + b) * 16 + c) * 16 + d)
    | _, _, _, _ => .error ⟨.badEscape, byteCount cs - 4⟩
  | _ =>
    if byteCount cs < 4 then .error (.before .endInString [])
    else .error ⟨.badEscape, byteCount cs - 4⟩

def isHighSurrogate (n : Nat) : Bool := 0xD800 ≤ n && n ≤ 0xDBFF

def isLowSurrogate (n : Nat) : Bool := 0xDC00 ≤ n && n ≤ 0xDFFF

/-- The character of a hexadecimal escape, with the number of characters it takes behind the `u`.
Characters beyond the first plane take two escapes, and no half of such a pair stands alone. -/
def hexEscape (cs : List Char) : Except Failure (Char × Nat) := do
  let high ← hexFour cs
  if isLowSurrogate high then .error (.before .loneSurrogate (cs.drop 4))
  else if isHighSurrogate high then
    match cs.drop 4 with
    | [] => .error (.before .endInString [])
    | '\\' :: [] => .error (.before .endInString [])
    | '\\' :: 'u' :: rest =>
      let low ← hexFour rest
      if isLowSurrogate low then
        .ok (Char.ofNat ((high - 0xD800) * 0x400 + (low - 0xDC00) + 0x10000), 10)
      else .error (.before .loneSurrogate (rest.drop 4))
    | '\\' :: rest => .error (.onto .halfEscape rest)
    | rest => .error (.onto .halfEscape rest)
  else .ok (Char.ofNat high, 4)

/-- The character of a short escape. -/
def shortEscape (c : Char) : Option Char :=
  if c = '"' then some '"'
  else if c = '\\' then some '\\'
  else if c = '/' then some '/'
  else if c = 'b' then some '\x08'
  else if c = 'f' then some '\x0c'
  else if c = 'n' then some '\n'
  else if c = 'r' then some '\r'
  else if c = 't' then some '\t'
  else none

/-- The character of the escape behind a backslash, with the number of characters it takes. -/
def readEscape : List Char → Except Failure (Char × Nat)
  | [] => .error (.before .endInString [])
  | c :: rest =>
    if c = 'u' then (hexEscape rest).map fun (c, n) => (c, n + 1)
    else
      match shortEscape c with
      | some d => .ok (d, 1)
      | none => .error (.onto .badEscape (c :: rest))

/-- The characters up to the closing quote, after `skip` characters that an escape has taken. The
characters read so far are `acc`, last one first. -/
def stringBody (acc : List Char) : Nat → List Char → Except Failure (List Char × List Char)
  | _, [] => .error (.before .endInString [])
  | skip + 1, _ :: rest => stringBody acc skip rest
  | 0, c :: rest =>
    if c = '"' then .ok (acc.reverse, rest)
    else if c = '\\' then
      match readEscape rest with
      | .error e => .error e
      | .ok (d, n) => stringBody (d :: acc) n rest
    else if c.toNat < 0x20 then .error (.onto .controlCharacter (c :: rest))
    else stringBody (c :: acc) 0 rest

/-- Takes an escape without asking which character it names. -/
def passEscape : List Char → Except Failure Nat
  | [] => .error (.before .endInString [])
  | c :: rest =>
    if c = 'u' then (hexFour rest).map fun _ => 5
    else if (shortEscape c).isSome then .ok 1
    else .error (.onto .badEscape (c :: rest))

/-- The rest behind the closing quote of a string that nobody asked for. -/
def passString : Nat → List Char → Except Failure (List Char)
  | _, [] => .error (.before .endInString [])
  | skip + 1, _ :: rest => passString skip rest
  | 0, c :: rest =>
    if c = '"' then .ok rest
    else if c = '\\' then
      match passEscape rest with
      | .error e => .error e
      | .ok n => passString n rest
    else if c.toNat < 0x20 then .error (.before .controlCharacter (c :: rest))
    else passString 0 rest

def dropDigits (cs : List Char) : List Char := cs.dropWhile Char.isDigit

/-- The power of ten of a number that nobody asked for, behind its `e`. -/
def passExponent (cs : List Char) : Except Failure (List Char) :=
  let cs := match cs with
    | '+' :: rest | '-' :: rest => rest
    | _ => cs
  match cs with
  | c :: rest => if c.isDigit then .ok (dropDigits rest) else .error (.onto .badNumber cs)
  | [] => .error (.before .badNumber [])

def passFraction : List Char → Except Failure (List Char)
  | c :: rest =>
    if c.isDigit then
      match dropDigits rest with
      | 'e' :: rest | 'E' :: rest => passExponent rest
      | rest => .ok rest
    else .error (.onto .badNumber (c :: rest))
  | [] => .error (.before .badNumber [])

/-- The rest behind a number that nobody asked for and whose size does not matter. -/
def passNumber : List Char → Except Failure (List Char)
  | [] => .error (.before .badNumber [])
  | c :: rest =>
    if c.isDigit then
      let rest := if c = '0' then rest else dropDigits rest
      match rest with
      | '.' :: rest => passFraction rest
      | 'e' :: rest | 'E' :: rest => passExponent rest
      | d :: _ => if d.isDigit then .error (.onto .badNumber rest) else .ok rest
      | [] => .ok []
    else .error (.onto .badNumber (c :: rest))

/-- The colon between a key and its value. -/
def readColon (cs : List Char) : Except Failure (List Char) :=
  match skipSpace cs with
  | ':' :: rest => .ok rest
  | [] => .error (.before .endInObject [])
  | rest => .error (.onto .noColon rest)

mutual

/-- The rest behind any one value. -/
def passValue : Nat → List Char → Except Failure (List Char)
  | 0, cs => .error (.before .noValue cs)
  | n + 1, cs =>
    match skipSpace cs with
    | [] => .error (.before .endInValue [])
    | c :: rest =>
      if c = 'n' then readWord ['u', 'l', 'l'] rest
      else if c = 't' then readWord ['r', 'u', 'e'] rest
      else if c = 'f' then readWord ['a', 'l', 's', 'e'] rest
      else if c = '"' then passString 0 rest
      else if c = '-' then passNumber rest
      else if c.isDigit then passNumber (c :: rest)
      else if c = '[' then passItems n false rest
      else if c = '\x7b' then passMembers n false rest
      else .error (.onto .noValue (c :: rest))

/-- The rest of an array; `behind` tells that an item has just been read. -/
def passItems : Nat → Bool → List Char → Except Failure (List Char)
  | 0, _, cs => .error (.before .noValue cs)
  | n + 1, behind, cs =>
    match skipSpace cs with
    | [] => .error (.before .endInList [])
    | c :: rest =>
      if c = ']' then .ok rest
      else if behind then
        if c = ',' then do passItems n true (← passValue n rest)
        else .error (.onto .noCommaInList (c :: rest))
      else do passItems n true (← passValue n (c :: rest))

/-- The rest of an object; `behind` tells that a member has just been read. -/
def passMembers : Nat → Bool → List Char → Except Failure (List Char)
  | 0, _, cs => .error (.before .noValue cs)
  | n + 1, behind, cs =>
    match skipSpace cs with
    | [] => .error (.before .endInObject [])
    | c :: rest =>
      if c = '\x7d' then .ok rest
      else if behind then
        if c = ',' then passMember n (skipSpace rest)
        else .error (.onto .noCommaInObject (c :: rest))
      else passMember n (c :: rest)

/-- A member and what follows it in its object. -/
def passMember : Nat → List Char → Except Failure (List Char)
  | 0, cs => .error (.before .noValue cs)
  | _, [] => .error (.before .endInObject [])
  | n + 1, c :: rest =>
    if c = '"' then do
      let rest ← passString 0 rest
      let rest ← readColon rest
      passMembers n true (← passValue n rest)
    else .error (.onto .keyNoString (c :: rest))

end

/-- The digits in front, added to `significand` as long as it stays below `2 ^ 64`, with the number
of digits taken. -/
def takeDigits (significand count : Nat) : List Char → Nat × Nat × List Char
  | [] => (significand, count, [])
  | c :: rest =>
    let next := significand * 10 + (c.toNat - 48)
    if c.isDigit && next < Nat.pow 2 64 then takeDigits next (count + 1) rest
    else (significand, count, c :: rest)

/-- A double that stands where another kind of value is due. -/
def foundFloat (d : Scientific) (rest : List Char) : Except Failure (Found × List Char) :=
  match d.toFloat? with
  | some f => .ok (.float (floatText f), rest)
  | none => .error (.before .numberRange rest)

/-- The digits of a power of ten; a power that leaves 32 bits settles the number at once. -/
def foundExponent (d : Scientific) (down : Bool) (e : Nat) :
    List Char → Except Failure (Found × List Char)
  | [] => foundFloat { d with exponent := if down then d.exponent - e else d.exponent + e } []
  | c :: rest =>
    if c.isDigit then
      let next := e * 10 + (c.toNat - 48)
      if next < Nat.pow 2 31 then foundExponent d down next rest
      else if d.significand != 0 && !down then .error (.before .numberRange rest)
      else foundFloat { d with significand := 0 } (dropDigits rest)
    else
      foundFloat { d with exponent := if down then d.exponent - e else d.exponent + e } (c :: rest)

def foundPower (d : Scientific) (cs : List Char) : Except Failure (Found × List Char) :=
  let (down, cs) := match cs with
    | '+' :: rest => (false, rest)
    | '-' :: rest => (true, rest)
    | _ => (false, cs)
  match cs with
  | [] => .error (.before .endInValue [])
  | c :: rest =>
    if c.isDigit then foundExponent d down (c.toNat - 48) rest
    else .error (.onto .badNumber (c :: rest))

/-- Digits behind the point. -/
def foundFraction (d : Scientific) (cs : List Char) : Except Failure (Found × List Char) :=
  let (significand, count, rest) := takeDigits d.significand 0 cs
  let d := { d with significand, exponent := d.exponent - count }
  if count = 0 && !rest.head?.any Char.isDigit then
    .error (if cs.isEmpty then .before .endInValue [] else .onto .badNumber cs)
  else
    match dropDigits rest with
    | 'e' :: rest | 'E' :: rest => foundPower d rest
    | rest => foundFloat d rest

/-- A number where another kind of value is due, behind its sign. -/
def foundNumber (negative : Bool) (cs : List Char) : Except Failure (Found × List Char) :=
  match cs with
  | [] => .error (.before .endInValue [])
  | c :: rest =>
    if c = '0' && rest.head?.any Char.isDigit then .error (.onto .badNumber rest)
    else if c.isDigit then
      let (significand, _, rest) := takeDigits 0 0 cs
      let beyond := rest.takeWhile Char.isDigit
      let d : Scientific := ⟨negative, significand, beyond.length⟩
      match dropDigits rest with
      | '.' :: rest => foundFraction d rest
      | 'e' :: rest | 'E' :: rest => foundPower d rest
      | rest =>
        if !beyond.isEmpty then foundFloat d rest
        else if !negative then .ok (.integer significand, rest)
        else if significand = 0 || Nat.pow 2 63 < significand then foundFloat d rest
        else .ok (.integer (-significand), rest)
    else .error (.onto .badNumber cs)

/-- What stands where `due` was due, as the failure it is. Lists and objects are refused where they
start, other values behind them. -/
def mismatch (due : Due) (cs : List Char) : Failure :=
  let refuse := fun (r : Except Failure (Found × List Char)) =>
    match r with
    | .ok (found, rest) => Failure.before (.wrongType found due) rest
    | .error e => e
  match cs with
  | [] => .before .endInValue []
  | c :: rest =>
    if c = 'n' then refuse ((readWord ['u', 'l', 'l'] rest).map fun r => (.null, r))
    else if c = 't' then refuse ((readWord ['r', 'u', 'e'] rest).map fun r => (.bool true, r))
    else if c = 'f' then refuse ((readWord ['a', 'l', 's', 'e'] rest).map fun r => (.bool false, r))
    else if c = '"' then
      refuse ((stringBody [] 0 rest).map fun (s, r) => (.string (String.ofList s), r))
    else if c = '-' then refuse (foundNumber true rest)
    else if c.isDigit then refuse (foundNumber false cs)
    else if c = '[' then .before (.wrongType .sequence due) cs
    else if c = '\x7b' then .before (.wrongType .map due) cs
    else .onto .noValue cs

def readString : Reader String := fun _ cs =>
  match skipSpace cs with
  | '"' :: rest => (stringBody [] 0 rest).map fun (s, r) => (String.ofList s, r)
  | rest => .error (mismatch .string rest)

def readBool : Reader Bool := fun _ cs =>
  match skipSpace cs with
  | 't' :: rest => (readWord ['r', 'u', 'e'] rest).map fun r => (true, r)
  | 'f' :: rest => (readWord ['a', 'l', 's', 'e'] rest).map fun r => (false, r)
  | rest => .error (mismatch .boolean rest)

/-- Takes `null` for nothing. -/
def readOption {α : Type} (item : Reader α) : Reader (Option α) := fun n cs =>
  match skipSpace cs with
  | 'n' :: rest => (readWord ['u', 'l', 'l'] rest).map fun r => (none, r)
  | _ => (item n cs).map fun (a, r) => (some a, r)

/-- Whether another item follows in a list, and the text where it starts. -/
def nextItem (behind : Bool) (cs : List Char) : Except Failure (Bool × List Char) :=
  match skipSpace cs with
  | [] => .error (.before .endInList [])
  | c :: rest =>
    if c = ']' then .ok (false, c :: rest)
    else if !behind then .ok (true, c :: rest)
    else if c = ',' then
      match skipSpace rest with
      | [] => .error (.before .endInValue [])
      | d :: rest =>
        if d = ']' then .error (.onto .trailingComma (d :: rest)) else .ok (true, d :: rest)
    else .error (.onto .noCommaInList (c :: rest))

/-- The items of a list behind those read so far, last one first. -/
def readItems {α : Type} (item : Reader α) (bound : Nat) (acc : List α) :
    Nat → List Char → Except Failure (List α × List Char)
  | 0, cs => .error (.before .noValue cs)
  | n + 1, cs =>
    match nextItem (!acc.isEmpty) cs with
    | .error e => .error e
    | .ok (false, rest) => .ok (acc.reverse, rest.drop 1)
    | .ok (true, rest) =>
      match item bound rest with
      | .error e => .error e
      | .ok (a, rest) => readItems item bound (a :: acc) n rest

def readList {α : Type} (item : Reader α) : Reader (List α) := fun n cs =>
  match skipSpace cs with
  | '[' :: rest => readItems item n [] n rest
  | rest => .error (mismatch .sequence rest)

/-- Whether another member follows in an object, and the text behind the quote that opens its
key. -/
def nextKey (behind : Bool) (cs : List Char) : Except Failure (Bool × List Char) :=
  match skipSpace cs with
  | [] => .error (.before .endInObject [])
  | c :: rest =>
    if c = '\x7d' then .ok (false, c :: rest)
    else if !behind then
      if c = '"' then .ok (true, rest) else .error (.onto .keyNoString (c :: rest))
    else if c = ',' then
      match skipSpace rest with
      | [] => .error (.before .endInValue [])
      | d :: rest =>
        if d = '"' then .ok (true, rest)
        else if d = '\x7d' then .error (.onto .trailingComma (d :: rest))
        else .error (.onto .keyNoString (d :: rest))
    else .error (.onto .noCommaInObject (c :: rest))

/-- The members of an object behind those read so far, last one first. -/
def readEntries {α : Type} (item : Reader α) (bound : Nat) (acc : List (String × α)) :
    Nat → List Char → Except Failure (List (String × α) × List Char)
  | 0, cs => .error (.before .noValue cs)
  | n + 1, cs => do
    match ← nextKey (!acc.isEmpty) cs with
    | (false, rest) => .ok (acc.reverse, rest.drop 1)
    | (true, rest) =>
      let (key, rest) ← stringBody [] 0 rest
      let rest ← readColon rest
      let (a, rest) ← item bound rest
      readEntries item bound ((String.ofList key, a) :: acc) n rest

/-- The members of an object whose keys are free, in the order of the text. -/
def readMap {α : Type} (item : Reader α) : Reader (List (String × α)) := fun n cs =>
  match skipSpace cs with
  | '\x7b' :: rest => readEntries item n [] n rest
  | rest => .error (mismatch .map rest)

/-- Reads the whole text as one value. -/
def readAll {α : Type} (value : Reader α) (text : String) : Except ReadError α :=
  let cs := text.toList
  match value (2 * cs.length + 2) cs with
  | .error e => .error (e.locate text)
  | .ok (a, rest) =>
    match skipSpace rest with
    | [] => .ok a
    | rest => .error ((Failure.onto .trailingCharacters rest).locate text)

end BotBindings.Json
