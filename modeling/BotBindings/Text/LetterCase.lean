import BotBindings.Text.LetterCase.Table
import BotBindings.Text.LetterCase.Mapping

namespace BotBindings.Text

def isUpper (c : Char) : Bool :=
  if c.toNat < 128 then c.isUpper else upperAbove.has c

def isLower (c : Char) : Bool :=
  if c.toNat < 128 then c.isLower else lowerAbove.has c

/-- Letters with a case: upper, lower or title. -/
def isCased (c : Char) : Bool :=
  isUpper c || isLower c || titleAbove.has c

/-- The code points of the apostrophe, full stop, colon, circumflex and grave accent. -/
def caseIgnorableBelow : List Nat := [0x27, 0x2E, 0x3A, 0x5E, 0x60]

def isCaseIgnorable (c : Char) : Bool :=
  if c.toNat < 128 then caseIgnorableBelow.contains c.toNat else caseIgnorableAbove.has c

/-- The image of a character above ASCII: a listed long image, else the first run that has it. -/
def mapAbove (long : List (Nat × List Nat)) (runs : List CaseRun) (c : Char) : List Char :=
  match long.lookup c.toNat with
  | some image => image.map Char.ofNat
  | none =>
    match runs.findSome? (·.image? c.toNat) with
    | some n => [Char.ofNat n]
    | none => [c]

def toUpper (c : Char) : List Char :=
  if c.toNat < 128 then [c.toUpper] else mapAbove upperLong upperRuns c

def toLower (c : Char) : List Char :=
  if c.toNat < 128 then [c.toLower] else mapAbove lowerLong lowerRuns c

/-- The nearest character that is not ignored is a cased one. -/
def meetsCased (cs : List Char) : Bool :=
  (cs.dropWhile isCaseIgnorable).head?.any isCased

/-- Lower case behind `before`, which is given nearest character first. A sigma that ends a word
takes its final form. -/
def lowercaseBehind (before : List Char) : List Char → List Char
  | [] => []
  | c :: rest =>
    let image :=
      if c = 'Σ' then
        if meetsCased before && !meetsCased rest then ['ς'] else ['σ']
      else toLower c
    image ++ lowercaseBehind (c :: before) rest

def lowercase (cs : List Char) : List Char := lowercaseBehind [] cs

end BotBindings.Text
