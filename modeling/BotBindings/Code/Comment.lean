import BotBindings.Text.Blank
import BotBindings.Text.Front

/-!
What may stand around the tokens of code: blanks and comments, but not the comments that document an
item.
-/
namespace BotBindings.Code

open Text (behind?)

/-- Blanks of code: white space and the two direction marks. -/
def isCodeBlank (c : Char) : Bool := Text.isBlank c || c == '\u200e' || c == '\u200f'

/-- The rest behind a block comment of which `depth` levels are open. -/
def blockEnd? (depth : Nat) : List Char → Option (List Char)
  | [] | [_] => none
  | c :: d :: rest =>
    if c = '/' ∧ d = '*' then blockEnd? (depth + 1) rest
    else if c = '*' ∧ d = '/' then
      if depth ≤ 1 then some rest else blockEnd? (depth - 1) rest
    else blockEnd? depth (d :: rest)

def beginsWith (front cs : List Char) : Bool := (behind? front cs).isSome

/-- Two slashes; a third one, or an exclamation mark, makes it a comment that documents, but a
fourth slash does not. -/
def beginsLineComment (cs : List Char) : Bool :=
  beginsWith ['/', '/'] cs &&
    (!beginsWith ['/', '/', '/'] cs || beginsWith ['/', '/', '/', '/'] cs) &&
    !beginsWith ['/', '/', '!'] cs

def beginsBlockComment (cs : List Char) : Bool :=
  beginsWith ['/', '*', '*', '/'] cs ||
    (beginsWith ['/', '*'] cs &&
      (!beginsWith ['/', '*', '*'] cs || beginsWith ['/', '*', '*', '*'] cs) &&
      !beginsWith ['/', '*', '!'] cs)

/-- Drops at most `n` blanks and comments. -/
def skipTriviaWithin : Nat → List Char → List Char
  | 0, cs => cs
  | _, [] => []
  | n + 1, c :: rest =>
    if isCodeBlank c then skipTriviaWithin n rest
    else if beginsLineComment (c :: rest) then skipTriviaWithin n (rest.dropWhile (· ≠ '\n'))
    else if beginsBlockComment (c :: rest) then
      match blockEnd? 0 (c :: rest) with
      | some rest => skipTriviaWithin n rest
      | none => c :: rest
    else c :: rest

/-- The text behind the blanks and comments in front of it. -/
def skipTrivia (cs : List Char) : List Char := skipTriviaWithin cs.length cs

end BotBindings.Code
