import BotBindings.Layout.Token
import BotBindings.Text.Blank
import BotBindings.Text.Quoted

namespace BotBindings.Code

open Text (trim trimEnd lines)

/-- The paragraphs that are not blank, trimmed, with an empty line between two of them. -/
def docChars (paragraphs : List (List Char)) : List Char :=
  ['\n', '\n'].intercalate ((paragraphs.map trim).filter (!·.isEmpty))

def docText? (paragraphs : List String) : Option String :=
  match docChars (paragraphs.map String.toList) with
  | [] => none
  | text => some (String.ofList text)

/-- A line stands one blank behind the mark of its comment; an empty one has no blank. -/
def docLine (line : String) : String := if line.isEmpty then "" else " " ++ line

/-- One line of documentation for each line of the description. -/
def docLines (paragraphs : List String) : List String :=
  (lines (docChars (paragraphs.map String.toList))).map fun l =>
    docLine (String.ofList (trimEnd l))

/-- Comment marks in a text: every block opened in it is closed in it, and none else. -/
def balanced (depth : Nat) : List Char → Bool
  | [] | [_] => depth == 0
  | c :: d :: rest =>
    if c = '/' ∧ d = '*' then balanced (depth + 1) rest
    else if c = '*' ∧ d = '/' then depth != 0 && balanced (depth - 1) rest
    else balanced depth (d :: rest)

def fitsBlockComment (cs : List Char) : Bool := balanced 0 cs && cs.getLast? != some '/'

def trimSpaces (cs : List Char) : List Char := (cs.reverse.dropWhile (· == ' ')).reverse

/-- Trims the blanks at the ends of all lines but the last. -/
def trimInnerLines (cs : List Char) : List Char :=
  let ls := Text.pieces '\n' cs
  ['\n'].intercalate (ls.dropLast.map trimSpaces ++ ls.getLast?.toList)

/-- How the documentation of an item, or of what is around it, is marked. -/
structure DocMarks where
  line : String
  block : String
  bracket : String

def outerMarks : DocMarks := ⟨"///", "/**", "#"⟩

def innerMarks : DocMarks := ⟨"//!", "/*!", "#!"⟩

/-- A text without line feed is a line comment, one with line feeds a block comment if it can be
one, else an attribute. -/
def docPieces (marks : DocMarks) (text : String) : List Layout.Piece :=
  let cs := text.toList
  if !cs.contains '\n' then
    [Layout.word (marks.line ++ String.ofList (trimSpaces cs)), Layout.hard]
  else if fitsBlockComment cs then
    [Layout.word (marks.block ++ String.ofList (trimInnerLines cs) ++ "*/"), Layout.hard]
  else
    [Layout.word (marks.bracket ++ "[doc = " ++ String.ofList (Text.literal cs) ++ "]"),
      Layout.space]

end BotBindings.Code
