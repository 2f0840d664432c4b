import BotBindings.Json.Reader

namespace BotBindings.Json

/-- White space, of any length. -/
abbrev Space := { cs : List Char // ∀ c ∈ cs, isSpace c = true }

def Space.none : Space := ⟨[], nofun⟩

/-- A character of a string as it is written: as it is, by a letter behind a backslash, or by four
hexadecimal digits. The digits may name half of a character. -/
inductive Glyph where
  | plain (c : Char) (h : c ≠ '"' ∧ c ≠ '\\' ∧ ¬c.toNat < 0x20)
  | letter (c d : Char) (h : shortEscape d = some c)
  | digits (a b c d : Char) (n : Nat) (h : hexFour [a, b, c, d] = .ok n)

namespace Glyph

def text : Glyph → List Char
  | plain c _ => [c]
  | letter _ d _ => ['\\', d]
  | digits a b c d _ _ => ['\\', 'u', a, b, c, d]

/-- The text of a string behind its opening quote. -/
def tail (gs : List Glyph) : List Char := gs.flatMap text ++ ['"']

/-- The characters that glyphs name, if every half has its other half behind it. -/
def chars? : List Glyph → Option (List Char)
  | [] => some []
  | plain c _ :: gs => (chars? gs).map (c :: ·)
  | letter c _ _ :: gs => (chars? gs).map (c :: ·)
  | digits _ _ _ _ n _ :: gs =>
    if isLowSurrogate n then none
    else if isHighSurrogate n then
      match gs with
      | digits _ _ _ _ m _ :: gs =>
        if isLowSurrogate m then
          (chars? gs).map (Char.ofNat ((n - 0xD800) * 0x400 + (m - 0xDC00) + 0x10000) :: ·)
        else none
      | _ => none
    else (chars? gs).map (Char.ofNat n :: ·)

end Glyph

/-- Digits in a row. -/
structure Digits where
  chars : List Char
  ne_nil : chars ≠ []
  isDigit : ∀ d ∈ chars, d.isDigit = true

def Digits.value (ds : Digits) : Nat := Nat.ofDigitChars 10 ds.chars 0

/-- The sign of a power of ten, which may be left out. -/
inductive Sign where
  | none
  | plus
  | minus

def Sign.text : Sign → List Char
  | none => []
  | plus => ['+']
  | minus => ['-']

structure PowerText where
  upper : Bool
  sign : Sign
  digits : Digits

namespace PowerText

/-- The power behind its `e`. -/
def tail (p : PowerText) : List Char := p.sign.text ++ p.digits.chars

def text (p : PowerText) : List Char := (if p.upper then 'E' else 'e') :: p.tail

def value (p : PowerText) : Int :=
  match p.sign with
  | .minus => -p.digits.value
  | .none | .plus => p.digits.value

end PowerText

/-- A number as it is written. It has no zeros in front. -/
structure NumberText where
  negative : Bool
  whole : Digits
  plain : whole.chars.head? = some '0' → whole.chars = ['0']
  fraction? : Option Digits
  power? : Option PowerText

namespace NumberText

def fractionText (n : NumberText) : List Char :=
  match n.fraction? with
  | none => []
  | some ds => '.' :: ds.chars

def powerText (n : NumberText) : List Char := n.power?.elim [] PowerText.text

/-- The number without its sign. -/
def magnitude (n : NumberText) : List Char := n.whole.chars ++ (n.fractionText ++ n.powerText)

def text (n : NumberText) : List Char := (if n.negative then ['-'] else []) ++ n.magnitude

def value (n : NumberText) : Numeral where
  negative := n.negative
  whole := n.whole.value
  fraction := n.fraction?.elim [] fun ds => ds.chars.map fun d => Fin.ofNat 10 (d.toNat - 48)
  exponent := n.power?.map PowerText.value

end NumberText

/-- The white space around the comma in front of an item, or of the first item. -/
structure Gap where
  before : Space
  behind : Space

/-- What stands in front of the value of a member: its key, and white space on both sides of the key
and of the colon. -/
structure KeyText where
  gap : Gap
  glyphs : List Glyph
  before : Space
  behind : Space

/-- A JSON tree as it is written. Lists and objects may hold white space before their end. -/
inductive Written where
  | null
  | bool (b : Bool)
  | number (n : NumberText)
  | string (gs : List Glyph)
  | array (items : List (Gap × Written)) (close : Space)
  | object (members : List (KeyText × Written)) (close : Space)

def Gap.text (behind : Bool) (g : Gap) : List Char :=
  g.before.1 ++ ((if behind then [','] else []) ++ g.behind.1)

/-- A key with its quotes and the colon. -/
def KeyText.text (k : KeyText) : List Char :=
  '"' :: (Glyph.tail k.glyphs ++ (k.before.1 ++ ':' :: k.behind.1))

mutual

def Written.text : Written → List Char
  | .null => ['n', 'u', 'l', 'l']
  | .bool true => ['t', 'r', 'u', 'e']
  | .bool false => ['f', 'a', 'l', 's', 'e']
  | .number n => n.text
  | .string gs => '"' :: Glyph.tail gs
  | .array items close => '[' :: itemsText close false items
  | .object members close => '\x7b' :: membersText close false members

/-- What is left of a list that still holds these items; `behind` tells that others went before. -/
def itemsText (close : Space) (behind : Bool) : List (Gap × Written) → List Char
  | [] => close.1 ++ [']']
  | (g, w) :: items => g.text behind ++ (w.text ++ itemsText close true items)

/-- What is left of an object that still holds these members. -/
def membersText (close : Space) (behind : Bool) : List (KeyText × Written) → List Char
  | [] => close.1 ++ ['\x7d']
  | (k, w) :: members =>
    k.gap.text behind ++ (k.text ++ (w.text ++ membersText close true members))

end

/-- A string that holds half of a character is no text, and an object with such a key no tree. They
stand as a number, which is as good for all who pass over a value, and for all who read a text, a
flag, a list, a map or a record. -/
def Value.unread : Value := .nat 0

mutual

/-- The tree that is written. -/
def Written.value : Written → Value
  | .null => .null
  | .bool b => .bool b
  | .number n => .number n.value
  | .string gs => (Glyph.chars? gs).elim .unread fun s => .string (String.ofList s)
  | .array items _ => .array (itemValues items)
  | .object members _ => (memberValues? members).elim .unread .object

def itemValues : List (Gap × Written) → List Value
  | [] => []
  | (_, w) :: items => w.value :: itemValues items

def memberValues? : List (KeyText × Written) → Option (List (String × Value))
  | [] => some []
  | (k, w) :: members =>
    (Glyph.chars? k.glyphs).bind fun key =>
      (memberValues? members).map ((String.ofList key, w.value) :: ·)

end

end BotBindings.Json
