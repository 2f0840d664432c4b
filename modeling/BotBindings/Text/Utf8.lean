namespace BotBindings.Text

/-- A character under way: how many bytes are still due, the bounds of the next one, and the bits
read so far. -/
structure Unfinished where
  due : Nat
  low : UInt8
  high : UInt8
  bits : Nat

/-- What a byte is at the start of a character. -/
inductive Lead where
  | char (c : Char)
  | more (p : Unfinished)
  | stray

def lead (b : UInt8) : Lead :=
  let n := b.toNat
  if n < 0x80 then .char (Char.ofNat n)
  else if n < 0xC2 then .stray
  else if n < 0xE0 then .more ⟨1, 0x80, 0xBF, n % 0x20⟩
  else if n = 0xE0 then .more ⟨2, 0xA0, 0xBF, n % 0x10⟩
  else if n = 0xED then .more ⟨2, 0x80, 0x9F, n % 0x10⟩
  else if n < 0xF0 then .more ⟨2, 0x80, 0xBF, n % 0x10⟩
  else if n = 0xF0 then .more ⟨3, 0x90, 0xBF, n % 0x08⟩
  else if n < 0xF4 then .more ⟨3, 0x80, 0xBF, n % 0x08⟩
  else if n = 0xF4 then .more ⟨3, 0x80, 0x8F, n % 0x08⟩
  else .stray

/-- What a byte is when `p` is under way, or nothing when it cannot continue it. -/
def Unfinished.feed? (p : Unfinished) (b : UInt8) : Option Lead :=
  if p.low ≤ b && b ≤ p.high then
    let bits := p.bits * 0x40 + b.toNat % 0x40
    if p.due ≤ 1 then some (.char (Char.ofNat bits)) else some (.more ⟨p.due - 1, 0x80, 0xBF, bits⟩)
  else none

/-- Each longest stretch of bytes that begins a character without completing it, and each byte that
begins none, reads as one replacement character. -/
def decodeFrom : Option Unfinished → List UInt8 → List Char
  | none, [] => []
  | some _, [] => ['\uFFFD']
  | none, b :: rest =>
    match lead b with
    | .char c => c :: decodeFrom none rest
    | .more p => decodeFrom (some p) rest
    | .stray => '\uFFFD' :: decodeFrom none rest
  | some p, b :: rest =>
    match p.feed? b with
    | some (.char c) => c :: decodeFrom none rest
    | some (.more q) => decodeFrom (some q) rest
    | some .stray => '\uFFFD' :: decodeFrom none rest
    | none =>
      '\uFFFD' ::
        match lead b with
        | .char c => c :: decodeFrom none rest
        | .more q => decodeFrom (some q) rest
        | .stray => '\uFFFD' :: decodeFrom none rest

def decodeLossy (bytes : List UInt8) : String := String.ofList (decodeFrom none bytes)

end BotBindings.Text
