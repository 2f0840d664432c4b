/-!
Text in nested boxes with places where it may break. A box that does not fit on its line is broken:
a consistent one at all its places, an inconsistent one only where the next piece does not fit.
-/
namespace BotBindings.Layout

inductive Style where
  | consistent
  | inconsistent
  deriving DecidableEq, Repr

/-- A place that shows as blanks or as a new line. `offset` counts against the indentation of its
box, and `before` is written in front of the new line. -/
structure Break where
  blanks : Nat := 0
  offset : Int := 0
  before : String := ""
  /-- Shows nothing at the end of its box. -/
  unlessLast : Bool := false
  never : Bool := false
  deriving DecidableEq, Repr

inductive Token where
  | word (s : String)
  | brk (b : Break)
  | start (style : Style) (offset : Int)
  | close
  /-- Ends the piece before it, and shows nothing. -/
  | mark
  deriving DecidableEq, Repr

/-- What a layout is written in: tokens, and a change of the offset of the break before it. -/
inductive Piece where
  | token (t : Token)
  | shift (amount : Int)
  deriving DecidableEq, Repr

/-- More blanks than any line holds. -/
def Break.always : Nat := 65535

def word (s : String) : Piece := .token (.word s)

def zero : Piece := .token (.brk {})

def space : Piece := .token (.brk { blanks := 1 })

def hard : Piece := .token (.brk { blanks := Break.always })

def hardUnlessLast : Piece := .token (.brk { blanks := Break.always, unlessLast := true })

def neverBreak : Piece := .token (.brk { never := true })

/-- Writes a comma only where the line breaks. -/
def commaBreak : Piece := .token (.brk { before := "," })

def cbox (offset : Int) : Piece := .token (.start .consistent offset)

def ibox (offset : Int) : Piece := .token (.start .inconsistent offset)

def close : Piece := .token .close

/-- Pieces in turn, a comma and a space between them and a comma behind the last one if it breaks
there. -/
def commaList : List (List Piece) → List Piece
  | [] => []
  | [p] => p ++ [commaBreak]
  | p :: ps => p ++ [word ",", space] ++ commaList ps

/-- Adds a piece to the tokens so far, last one first. A box with nothing but a break in it
vanishes. -/
def add (acc : List Token) : Piece → List Token
  | .shift k =>
    match acc with
    | .brk b :: rest => .brk { b with offset := b.offset + k } :: rest
    | _ => acc
  | .token .close =>
    match acc with
    | .brk _ :: .start .. :: rest => rest
    | .brk b :: rest => if b.unlessLast then .close :: .mark :: rest else .close :: acc
    | _ => .close :: acc
  | .token t => t :: acc

def tokens (ps : List Piece) : List Token := (ps.foldl add []).reverse

end BotBindings.Layout
