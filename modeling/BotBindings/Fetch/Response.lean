import BotBindings.Fetch.Percent
import BotBindings.Text.Blank

/-!
Answers of a web server, read from the bytes it sent until it closed the connection. The head says
how the body is framed: by its length, in chunks, or by the end of the connection.
-/
namespace BotBindings.Fetch

abbrev Bytes := List UInt8

/-- Why bytes have no head of an answer in front. -/
inductive HeadFault where
  | incomplete
  | version
  | status
  | header
  | tooManyHeaders
  | contentLength
  | transferEncoding
  deriving DecidableEq, Repr

/-- Why a body cannot be read to its end. -/
inductive BodyFault where
  | cut
  | cutLine
  | overflow
  | malformed (words : String)
  deriving DecidableEq, Repr

inductive Framing where
  | empty
  | length (n : Nat)
  | chunked
  | toEnd
  deriving DecidableEq, Repr

structure Header where
  name : String
  value : Bytes
  deriving DecidableEq, Repr

/-- An answer, with the bytes behind its head. -/
structure Response where
  status : Nat
  headers : List Header
  framing : Framing
  rest : Bytes
  deriving DecidableEq, Repr

def lf : UInt8 := 10

def cr : UInt8 := 13

def blank : UInt8 := 32

def ascii (s : String) : Bytes := s.toUTF8.toList

def charOf (b : UInt8) : Char := Char.ofNat b.toNat

/-- The first line, without a carriage return before its line feed, and the bytes behind it. -/
def takeLine (bs : Bytes) : Option (Bytes × Bytes) :=
  match bs.dropWhile (· ≠ lf) with
  | [] => none
  | _ :: rest =>
    let line := bs.takeWhile (· ≠ lf)
    some (if line.getLast? = some cr then line.dropLast else line, rest)

/-- Empty lines in front of an answer mean nothing. -/
def skipEmpty : Bytes → Bytes
  | [] => []
  | [b] => if b = lf then [] else [b]
  | b :: c :: bs =>
    if b = lf then skipEmpty (c :: bs)
    else if b = cr && c = lf then skipEmpty bs
    else b :: c :: bs

def isTextByte (b : UInt8) : Bool := b = 9 || (blank ≤ b && b ≠ 127)

def digit? (b : UInt8) : Option Nat := if 48 ≤ b && b ≤ 57 then some (b.toNat - 48) else none

/-- The minor version and the status of a first line. A reason may follow them. -/
def readStatusLine (line : Bytes) : Except HeadFault (Nat × Nat) := do
  let version := line.take 8
  let minor ← if version = ascii "HTTP/1.1" then .ok 1 else
    if version = ascii "HTTP/1.0" then .ok 0 else .error .version
  match line.drop 8 with
  | sp :: a :: b :: c :: reason =>
    if sp ≠ blank then .error .version
    match digit? a, digit? b, digit? c with
    | some x, some y, some z =>
      let status := 100 * x + 10 * y + z
      if status < 100 then .error .status
      if reason.isEmpty || (reason.head? = some blank && reason.all isTextByte) then
        return (minor, status)
      .error .status
    | _, _, _ => .error .status
  | _ => .error .status

def isNameChar (c : Char) : Bool := c.isAlphanum || "!#$%&'*+-.^_|~\x60".toList.contains c

def isPad (b : UInt8) : Bool := b = 9 || b = blank

def trimPad (bs : Bytes) : Bytes := ((bs.dropWhile isPad).reverse.dropWhile isPad).reverse

def readHeader (line : Bytes) : Except HeadFault Header :=
  let name := (line.takeWhile (· ≠ 58)).map charOf
  match line.dropWhile (· ≠ 58) with
  | [] => .error .header
  | _ :: value =>
    if !name.isEmpty && name.all isNameChar && value.all isTextByte then
      .ok ⟨String.ofList (name.map Char.toLower), trimPad value⟩
    else .error .header

def headerLimit : Nat := 100

/-- Reads at most `room` headers, up to the empty line that ends them. -/
def readHeaders : (room : Nat) → Bytes → Except HeadFault (List Header × Bytes)
  | room, bs =>
    match takeLine bs with
    | none => .error .incomplete
    | some ([], rest) => .ok ([], rest)
    | some (line, rest) => do
      let h ← readHeader line
      match room with
      | 0 => .error .tooManyHeaders
      | room + 1 =>
        let (hs, rest) ← readHeaders room rest
        return (h :: hs, rest)

def valuesOf (name : String) (hs : List Header) : List Bytes :=
  (hs.filter (·.name = name)).map (·.value)

/-- The text of a value, if it is ASCII. -/
def asciiText? (bs : Bytes) : Option (List Char) :=
  if bs.all isTextByte && bs.all (· < 127) then some (bs.map charOf) else none

/-- The last coding counts. -/
def isChunked (values : List Bytes) : Bool :=
  match values.getLast?.bind asciiText? with
  | none => false
  | some cs =>
    match (Text.pieces ',' cs).getLast? with
    | some last => String.ofList ((Text.trim last).map Char.toLower) = "chunked"
    | none => false

def lengthLimit : Nat := Nat.pow 2 64 - 2

/-- A plain number, which fits a word. -/
def length? (cs : List Char) : Option Nat :=
  if cs.isEmpty || !cs.all (fun c => '0' ≤ c && c ≤ '9') then none
  else
    let n := cs.foldl (fun acc c => 10 * acc + (c.toNat - '0'.toNat)) 0
    if n < lengthLimit then some n else none

/-- All lengths given must be the same number. -/
def lengthOf? (values : List Bytes) : Option Nat := do
  let texts ← values.mapM asciiText?
  let ns ← (texts.flatMap (Text.pieces ',')).mapM (length? ∘ Text.trim)
  let n ← ns.head?
  if ns.all (· = n) then some n else none

def framingOf (minor status : Nat) (hs : List Header) : Except HeadFault Framing :=
  if status = 101 || status = 204 || status = 304 then .ok .empty
  else
    match valuesOf "transfer-encoding" hs with
    | [] =>
      match valuesOf "content-length" hs with
      | [] => .ok .toEnd
      | ls =>
        match lengthOf? ls with
        | some n => .ok (.length n)
        | none => .error .contentLength
    | es =>
      if minor = 0 then .error .transferEncoding
      else .ok (if isChunked es then .chunked else .toEnd)

namespace Response

/-- Only the end of the bytes keeps them from being the front of an answer. -/
def isUnfinished (bs : Bytes) : Bool :=
  let front := bs.take 8
  [ascii "HTTP/1.0", ascii "HTTP/1.1"].any fun v => v.take front.length = front

def readOne (bs : Bytes) : Except HeadFault Response := do
  let bs := skipEmpty bs
  match takeLine bs with
  | none => if isUnfinished bs then .error .incomplete else .error .version
  | some (line, rest) =>
    let (minor, status) ← readStatusLine line
    let (headers, rest) ← readHeaders headerLimit rest
    let framing ← framingOf minor status headers
    return { status, headers, framing, rest }

/-- A word ahead of the answer proper. -/
def isPreliminary (r : Response) : Bool := r.status < 200 && r.status ≠ 101

/-- Reads past at most `ahead` preliminary answers. -/
def readPast : (ahead : Nat) → Bytes → Except HeadFault Response
  | 0, _ => .error .incomplete
  | ahead + 1, bs => do
    let r ← readOne bs
    if r.isPreliminary then readPast ahead r.rest else return r

/-- The first answer that is not preliminary. Every answer takes some bytes. -/
def parse (bs : Bytes) : Except HeadFault Response := readPast (bs.length + 1) bs

def isSuccess (r : Response) : Bool := 200 ≤ r.status && r.status < 300

def isRedirect (r : Response) : Bool := [301, 302, 303, 307, 308].contains r.status

def header? (r : Response) (name : String) : Option Bytes := (valuesOf name r.headers).head?

end Response

/-- What stands behind the size in the line in front of a chunk. -/
def readSizeEnd : Bytes → Except BodyFault Bytes
  | [] => .error .cutLine
  | b :: bs =>
    if isPad b then readSizeEnd bs
    else if b = cr then
      match bs with
      | [] => .error .cutLine
      | c :: bs => if c = lf then .ok bs else .error (.malformed "Invalid chunk size LF")
    else if b = 59 then readExtension bs
    else .error (.malformed "Invalid chunk size linear white space")
where
  /-- An extension of the line is passed over. -/
  readExtension : Bytes → Except BodyFault Bytes
    | [] => .error .cutLine
    | [b] =>
      if b = lf then .error (.malformed "invalid chunk extension contains newline")
      else .error .cutLine
    | b :: c :: bs =>
      if b = cr then
        if c = lf then .ok bs else .error (.malformed "Invalid chunk size LF")
      else if b = lf then .error (.malformed "invalid chunk extension contains newline")
      else readExtension (c :: bs)

/-- Reads on in the size of a chunk. -/
def readSizeFrom (size : Nat) : Bytes → Except BodyFault (Nat × Bytes)
  | [] => .error .cutLine
  | b :: bs =>
    match hexValue? (charOf b) with
    | some d => if Nat.pow 2 64 ≤ 16 * size + d then .error .overflow else readSizeFrom (16 * size + d) bs
    | none =>
      if isPad b || b = cr || b = 59 then (readSizeEnd (b :: bs)).map (size, ·)
      else .error (.malformed "Invalid chunk size line: Invalid Size")

def readSize : Bytes → Except BodyFault (Nat × Bytes)
  | [] => .error .cutLine
  | b :: bs =>
    match hexValue? (charOf b) with
    | some d => readSizeFrom d bs
    | none => .error (.malformed "Invalid chunk size line: missing size digit")

/-- The lines behind the last chunk, up to an empty one. -/
def readTrailer : (lines : Nat) → Bytes → Except BodyFault Unit
  | 0, _ => .error .cutLine
  | lines + 1, bs =>
    match bs.dropWhile (· ≠ cr) with
    | [] | [_] => .error .cutLine
    | _ :: c :: rest =>
      let line := bs.takeWhile (· ≠ cr)
      if c ≠ lf then .error (.malformed "Invalid trailer end LF")
      else if line.isEmpty then .ok ()
      else
        match readHeader line with
        | .ok _ => readTrailer lines rest
        | .error _ => .error (.malformed "Invalid trailer")

def readChunkEnd : Bytes → Except BodyFault Bytes
  | b :: bs =>
    if b ≠ cr then .error (.malformed "Invalid chunk body CR")
    else
      match bs with
      | [] => .error .cutLine
      | c :: bs => if c = lf then .ok bs else .error (.malformed "Invalid chunk body LF")
  | [] => .error .cutLine

/-- Reads at most `chunks` chunks. -/
def readChunks : (chunks : Nat) → Bytes → Except BodyFault Bytes
  | 0, _ => .error .cut
  | chunks + 1, bs => do
    let (size, bs) ← readSize bs
    if size = 0 then
      readTrailer (bs.length + 1) bs
      return []
    if bs.length < size then .error .cut
    let rest ← readChunkEnd (bs.drop size)
    return bs.take size ++ (← readChunks chunks rest)

/-- The body of an answer. What stands behind its end is of no interest. -/
def Response.body (r : Response) : Except BodyFault Bytes :=
  match r.framing with
  | .empty => .ok []
  | .length n => if r.rest.length < n then .error .cut else .ok (r.rest.take n)
  | .chunked => readChunks (r.rest.length + 1) r.rest
  | .toEnd => .ok r.rest

end BotBindings.Fetch
