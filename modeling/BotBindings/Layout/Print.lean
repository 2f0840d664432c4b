import BotBindings.Layout.Token

/-!
Printing tokens on lines of 89 bytes. A first pass measures: a break reaches to the next break of its
box or of a box around it, and so does a box. A second pass writes.
-/
namespace BotBindings.Layout

def lineWidth : Int := 89

/-- The least space a line offers, however far it is indented. -/
def leastWidth : Int := 60

/-- A token whose size is still open: its index, and the bytes in front of it. -/
inductive Open where
  | start (index pos : Nat)
  | close
  | brk (index pos : Nat)

/-- Sizes by index; an open one is beyond all bounds. -/
structure Measure where
  pos : Nat := 0
  stack : List Open := []
  sizes : Array (Option Nat)

/-- Settles what ends at `pos`: the boxes that were closed, up to the last break. -/
def settle (pos : Nat) : Nat → List Open → Array (Option Nat) → List Open × Array (Option Nat)
  | _, [], sizes => ([], sizes)
  | depth, .start i p :: rest, sizes =>
    match depth with
    | 0 => (.start i p :: rest, sizes)
    | depth + 1 => settle pos depth rest (sizes.setIfInBounds i (some (pos - p)))
  | depth, .close :: rest, sizes => settle pos (depth + 1) rest sizes
  | depth, .brk i p :: rest, sizes =>
    let sizes := sizes.setIfInBounds i (some (pos - p))
    match depth with
    | 0 => (rest, sizes)
    | depth + 1 => settle pos (depth + 1) rest sizes

def Measure.settle (m : Measure) : Measure :=
  let (stack, sizes) := Layout.settle m.pos 0 m.stack m.sizes
  { m with stack, sizes }

def Measure.step (m : Measure) (index : Nat) : Token → Measure
  | .word s => { m with pos := m.pos + s.utf8ByteSize }
  | .start .. => { m with stack := .start index m.pos :: m.stack }
  | .close => { m with stack := .close :: m.stack }
  | .mark => m.settle
  | .brk b =>
    let m := m.settle
    { m with stack := .brk index m.pos :: m.stack, pos := m.pos + b.blanks }

def measureFrom (m : Measure) : Nat → List Token → Measure
  | _, [] => m.settle
  | i, t :: ts => measureFrom (m.step i t) (i + 1) ts

/-- The size of every token, or nothing where it has no bound. -/
def measure (ts : List Token) : Array (Option Nat) :=
  (measureFrom { sizes := Array.replicate ts.length none } 0 ts).sizes

/-- A box under way: it fits on its line, or it is broken and remembers the indentation outside. -/
inductive Frame where
  | fits
  | broken (style : Style) (outside : Int)

/-- What has been written, last piece first, the blanks that are due, and the space left. -/
structure Printer where
  out : List String := []
  blanks : Nat := 0
  space : Int := lineWidth
  indent : Int := 0
  frames : List Frame := []

def exceeds (size : Option Nat) (space : Int) : Bool :=
  match size with
  | none => true
  | some n => space < n

namespace Printer

def write (p : Printer) (s : String) : Printer :=
  let out := if p.blanks = 0 then p.out else String.ofList (List.replicate p.blanks ' ') :: p.out
  { p with out := s :: out, blanks := 0, space := p.space - s.utf8ByteSize }

/-- Whether a break shows as blanks. -/
def stays (p : Printer) (b : Break) (size : Option Nat) : Bool :=
  b.never ||
    match p.frames.head? with
    | some .fits => true
    | some (.broken .consistent _) => false
    | some (.broken .inconsistent _) | none => !exceeds size p.space

def newLine (p : Printer) (b : Break) : Printer :=
  let p := if b.before.isEmpty then p else p.write b.before
  let column := (p.indent + b.offset).toNat
  { p with out := "\n" :: p.out, blanks := column, space := max (lineWidth - column) leastWidth }

def step (p : Printer) (size : Option Nat) : Token → Printer
  | .word s => p.write s
  | .mark => p
  | .start style offset =>
    if exceeds size p.space then
      { p with frames := .broken style p.indent :: p.frames, indent := p.indent + offset }
    else { p with frames := .fits :: p.frames }
  | .close =>
    match p.frames with
    | .broken _ outside :: rest => { p with frames := rest, indent := outside }
    | .fits :: rest => { p with frames := rest }
    | [] => p
  | .brk b =>
    if p.stays b size then { p with blanks := p.blanks + b.blanks, space := p.space - b.blanks }
    else p.newLine b

end Printer

def printFrom (p : Printer) : List Token → List (Option Nat) → Printer
  | t :: ts, size :: sizes => printFrom (p.step size t) ts sizes
  | _, _ => p

def print (ps : List Piece) : String :=
  let ts := tokens ps
  String.join (printFrom {} ts (measure ts).toList).out.reverse

end BotBindings.Layout
