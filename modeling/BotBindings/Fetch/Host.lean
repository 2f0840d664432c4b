import BotBindings.Fetch.Percent
import BotBindings.Text.Blank
import BotBindings.Text.Utf8

/-!
Hosts of web addresses: names, and numeric addresses of both families. A name whose last label is a
number must be a numeric address.
-/
namespace BotBindings.Fetch

/-- Why a text is no web address. -/
inductive UrlFault where
  | emptyHost
  | badDomain
  | badIpv4
  | badIpv6
  | badPort
  | badScheme (address : String)
  deriving DecidableEq, Repr

def UrlFault.name : UrlFault → String
  | emptyHost => "EmptyHost"
  | badDomain => "IdnaError"
  | badIpv4 => "InvalidIpv4Address"
  | badIpv6 => "InvalidIpv6Address"
  | badPort => "InvalidPort"
  | badScheme _ => "BadScheme"

/-- Characters that no host holds. -/
def hostForbidden (c : Char) : Bool :=
  isControl c ||
    [' ', '#', '/', ':', '<', '>', '?', '@', '[', '\\', ']', '^', '|', '%'].contains c

/-- The value of digits in a base. -/
def digitsValue? (base : Nat) (cs : List Char) : Option Nat :=
  cs.foldl (fun acc c => do
    let n ← acc
    let d ← hexValue? c
    if d < base then some (n * base + d) else none) (some 0)

/-- A number of a numeric address: hexadecimal behind `0x`, octal behind `0`. -/
def ipv4Number? : List Char → Option Nat
  | [] => none
  | '0' :: 'x' :: cs => digitsValue? 16 cs
  | '0' :: 'X' :: cs => digitsValue? 16 cs
  | '0' :: cs => digitsValue? 8 cs
  | cs => digitsValue? 10 cs

/-- The labels of a name; a dot at the end is not followed by one. -/
def labels (cs : List Char) : List (List Char) :=
  let ls := Text.pieces '.' cs
  if ls.length > 1 && ls.getLast? = some [] then ls.dropLast else ls

def endsInNumber (cs : List Char) : Bool :=
  match (labels cs).getLast? with
  | none | some [] => false
  | some l => l.all (fun c => '0' ≤ c && c ≤ '9') ||
      (l.take 2 == ['0', 'x'] && (digitsValue? 16 (l.drop 2)).isSome)

/-- The last number fills all bytes that the numbers before it leave. -/
def ipv4? (cs : List Char) : Option (List Char) := do
  let ns ← (labels cs).mapM ipv4Number?
  let last ← ns.getLast?
  let first := ns.dropLast
  if 4 < ns.length || first.any (255 < ·) || Nat.pow 256 (4 - first.length) ≤ last then none
  let value := first.zipIdx.foldl (fun acc (n, i) => acc + n * Nat.pow 256 (3 - i)) last
  let bytes := [value / Nat.pow 256 3, value / Nat.pow 256 2 % 256, value / 256 % 256, value % 256]
  return (".".intercalate (bytes.map toString)).toList

def ipv6Group (cs : List Char) : Bool :=
  !cs.isEmpty && cs.length ≤ 4 && cs.all fun c => (hexValue? c).isSome

/-- How many groups of two bytes a stretch without `::` holds. -/
def ipv6Groups? (cs : List Char) : Option Nat :=
  if cs.isEmpty then some 0
  else
    let gs := Text.pieces ':' cs
    if gs.all ipv6Group then some gs.length
    else
      match gs.getLast? with
      | some l =>
        if gs.dropLast.all ipv6Group && l.contains '.' && (ipv4? l).isSome then some (gs.length + 1)
        else none
      | none => none

/-- Cuts at the first `::`. -/
def cutGap : List Char → List Char × Option (List Char)
  | ':' :: ':' :: cs => ([], some cs)
  | c :: cs =>
    let (front, rest) := cutGap cs
    (c :: front, rest)
  | [] => ([], none)

def isIpv6 (cs : List Char) : Bool :=
  match cutGap cs with
  | (front, none) => ipv6Groups? front = some 8
  | (front, some rest) =>
    match ipv6Groups? front, ipv6Groups? rest with
    | some m, some n => m + n < 8
    | _, _ => false

def hostText (cs : List Char) : Except UrlFault (List Char) :=
  if cs.isEmpty then .error .emptyHost
  else if cs.head? = some '[' then
    let inner := cs.tail.dropLast
    if cs.getLast? = some ']' && isIpv6 inner then .ok (cs.map Char.toLower) else .error .badIpv6
  else
    let name := (Text.decodeLossy (percentDecode cs)).toList.map Char.toLower
    if name.any hostForbidden then .error .badDomain
    else if name.isEmpty then .error .emptyHost
    else if endsInNumber name then
      match ipv4? name with
      | some t => .ok t
      | none => .error .badIpv4
    else .ok name

end BotBindings.Fetch
