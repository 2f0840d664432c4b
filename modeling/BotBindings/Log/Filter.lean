import BotBindings.Event
import BotBindings.Text.Blank
import BotBindings.Text.Front

/-!
Which events are told. A filter is a list of directives `target=level`; the one with the longest
target that an event's target begins with decides about the event.
-/
namespace BotBindings

/-- Events of a target pass up to a level, or not at all. Every target begins with the empty one. -/
structure Directive where
  target : String := ""
  level? : Option Level
  deriving DecidableEq, Repr

/-- The directives that bear on events, in the order in which they were given. -/
structure Filter where
  directives : List Directive
  deriving DecidableEq, Repr

namespace Level

def all : List Level := [error, warn, info, debug, trace]

/-- A level by its name in any case or by its rank; `off` and zero let nothing pass. -/
def read? (cs : List Char) : Option (Option Level) :=
  let s := String.ofList (cs.map Char.toUpper)
  if s = "OFF" || s = "0" then some none
  else (all.find? fun l => l.name = s || toString l.rank = s).map some

end Level

namespace Directive

/-- A level behind the `=`; nothing there means the finest. -/
def readLevel? (target : String) (cs : List Char) : Option Directive :=
  if cs.isEmpty then some ⟨target, some .trace⟩ else (Level.read? cs).map (⟨target, ·⟩)

/-- What follows the `[` of a directive for spans must close it, and may give a level. -/
def readSpan? (cs : List Char) : Option Unit :=
  match cs.dropWhile (· ≠ ']') with
  | [_] => some ()
  | _ :: '=' :: level => (readLevel? "" level).map fun _ => ()
  | _ => none

def isFirstChar (c : Char) : Bool := ['-', ':', '_'].contains c || c.isAlphanum || 0x80 ≤ c.toNat

/-- Reads a directive. One for spans is well-formed and bears on no event. -/
def read? (cs : List Char) : Option (Option Directive) :=
  let tidy := Text.trim cs
  match tidy.head? with
  | none => none
  | some c =>
    if c = '[' then (readSpan? tidy.tail).map fun _ => none
    else if !isFirstChar c then none
    else
      match tidy.dropWhile fun d => d ≠ '=' && d ≠ '[' with
      | '=' :: level =>
        if tidy ≠ cs then none
        else (readLevel? (String.ofList (cs.takeWhile (· ≠ '='))) level).map some
      | '[' :: span => (readSpan? span).map fun _ => none
      | _ =>
        match Level.read? cs with
        | some level? => some (some ⟨"", level?⟩)
        | none => some (some ⟨String.ofList cs, some .trace⟩)

end Directive

namespace Filter

/-- Directives are parted by commas. Without any, errors pass. -/
def parse? (text : String) : Option Filter := do
  let pieces := (Text.pieces ',' text.toList).filter (!·.isEmpty)
  if pieces.isEmpty then return ⟨[⟨"", some .error⟩]⟩
  return ⟨(← pieces.mapM Directive.read?).filterMap id⟩

/-- The coarser level for all, the finer one for the loading and the making of bindings. -/
def graded (coarse fine : Level) : Filter :=
  ⟨[⟨"", some coarse⟩, ⟨"tgbind_gen", some fine⟩, ⟨"tgbind_define", some fine⟩]⟩

def warnings : Filter := ⟨[⟨"", some .warn⟩]⟩

def ofVerbosity : Nat → Filter
  | 0 => warnings
  | 1 => graded .warn .info
  | 2 => graded .info .debug
  | _ => graded .debug .trace

/-- A filter given as text counts before the verbosity. If it cannot be read then warnings pass. -/
def choose (text? : Option String) (verbosity : Nat) : Filter :=
  match text? with
  | some text => (parse? text).getD warnings
  | none => ofVerbosity verbosity

/-- Of two directives the one with the longer target, or else the later one. -/
def stronger (best? : Option Directive) (d : Directive) : Option Directive :=
  match best? with
  | some best => if d.target.length < best.target.length then some best else some d
  | none => some d

def directiveFor? (f : Filter) (target : String) : Option Directive :=
  (f.directives.filter fun d => Text.begins d.target target).foldl stronger none

def passes (f : Filter) (e : Event) : Bool :=
  match (f.directiveFor? e.target).bind (·.level?) with
  | some level => e.level.rank ≤ level.rank
  | none => false

end Filter

end BotBindings
