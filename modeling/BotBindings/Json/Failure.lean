import BotBindings.Json.Number
import BotBindings.Text.Quoted

namespace BotBindings.Json

/-- A value that stands where another kind was due. -/
inductive Found where
  | null
  | bool (b : Bool)
  | integer (n : Int)
  | float (text : String)
  | string (s : String)
  | sequence
  | map
  deriving DecidableEq, Repr

/-- A kind of value that is due. -/
inductive Due where
  | string
  | boolean
  | sequence
  | map
  | record (title : String)
  deriving DecidableEq, Repr

inductive Cause where
  | endInValue
  | endInList
  | endInObject
  | endInString
  | noValue
  | noIdent
  | badNumber
  | numberRange
  | noColon
  | noCommaInList
  | noCommaInObject
  | keyNoString
  | trailingComma
  | trailingCharacters
  | controlCharacter
  | badEscape
  | halfEscape
  | loneSurrogate
  | wrongType (found : Found) (due : Due)
  | missingMember (key : String)
  | repeatedMember (key : String)
  | tooShort (length : Nat) (title : String) (due : Nat)
  deriving DecidableEq, Repr

def Found.describe : Found → String
  | .null => "null"
  | .bool b => s!"boolean `{b}`"
  | .integer n => s!"integer `{n}`"
  | .float text => s!"floating point `{text}`"
  | .string s => "string " ++ quoted s
  | .sequence => "sequence"
  | .map => "map"

def Due.describe : Due → String
  | .string => "a string"
  | .boolean => "a boolean"
  | .sequence => "a sequence"
  | .map => "a map"
  | .record title => s!"struct {title}"

def Cause.message : Cause → String
  | .endInValue => "EOF while parsing a value"
  | .endInList => "EOF while parsing a list"
  | .endInObject => "EOF while parsing an object"
  | .endInString => "EOF while parsing a string"
  | .noValue => "expected value"
  | .noIdent => "expected ident"
  | .badNumber => "invalid number"
  | .numberRange => "number out of range"
  | .noColon => "expected `:`"
  | .noCommaInList => "expected `,` or `]`"
  | .noCommaInObject => "expected `,` or `\x7d`"
  | .keyNoString => "key must be a string"
  | .trailingComma => "trailing comma"
  | .trailingCharacters => "trailing characters"
  | .controlCharacter => "control character (\\u0000-\\u001F) found while parsing a string"
  | .badEscape => "invalid escape"
  | .halfEscape => "unexpected end of hex escape"
  | .loneSurrogate => "lone leading surrogate in hex escape"
  | .wrongType found due => s!"invalid type: {found.describe}, expected {due.describe}"
  | .missingMember key => s!"missing field `{key}`"
  | .repeatedMember key => s!"duplicate field `{key}`"
  | .tooShort length title due =>
    s!"invalid length {length}, expected struct {title} with {due} elements"

/-- A cause and the number of bytes of the text that lie behind the place where it was met. -/
structure Failure where
  cause : Cause
  left : Nat
  deriving DecidableEq, Repr

def byteCount (cs : List Char) : Nat := cs.foldl (fun n c => n + c.utf8Size) 0

/-- At the start of `rest`. -/
def Failure.before (cause : Cause) (rest : List Char) : Failure := ⟨cause, byteCount rest⟩

/-- Behind the first byte of `rest`, or at the end of the text. -/
def Failure.onto (cause : Cause) (rest : List Char) : Failure := ⟨cause, byteCount rest - 1⟩

/-- A failure with its line and the byte column in it; lines count from one. -/
structure ReadError where
  cause : Cause
  line : Nat
  column : Nat
  deriving DecidableEq, Repr

def ReadError.message (e : ReadError) : String :=
  s!"{e.cause.message} at line {e.line} column {e.column}"

/-- The place behind the given bytes. -/
def placeBehind (bytes : List UInt8) : Nat × Nat :=
  bytes.foldl (fun (p : Nat × Nat) (b : UInt8) => if b = 10 then (p.1 + 1, 0) else (p.1, p.2 + 1))
    (1, 0)

def Failure.locate (f : Failure) (text : String) : ReadError :=
  let (line, column) := placeBehind (text.toUTF8.toList.take (text.utf8ByteSize - f.left))
  ⟨f.cause, line, column⟩

end BotBindings.Json
