import BotBindings.Fetch.Host
import BotBindings.Text.Front

namespace BotBindings.Fetch

structure Url where
  scheme : String
  host : String
  port? : Option Nat := none
  path : String := "/"
  query? : Option String := none
  fragment? : Option String := none
  deriving DecidableEq, Repr

namespace Url

/-- What a request asks the server for. -/
def target (u : Url) : String := u.path ++ (u.query?.elim "" ("?" ++ ·))

/-- The host, with the port if it is not the usual one. -/
def authority (u : Url) : String := u.host ++ (u.port?.elim "" fun n => s!":{n}")

/-- The address without its fragment. -/
def page (u : Url) : Url := { u with fragment? := none }

def text (u : Url) : String :=
  s!"{u.scheme}://{u.authority}{u.target}" ++ (u.fragment?.elim "" ("#" ++ ·))

/-- The text in front of the first `c`, and the text behind it. -/
def cut (c : Char) (cs : List Char) : List Char × Option (List Char) :=
  match cs.dropWhile (· ≠ c) with
  | [] => (cs, none)
  | _ :: rest => (cs.takeWhile (· ≠ c), some rest)

/-- Resolves the segments of a path that say where they stand: `isHere` ones vanish, and `isUp` ones
take the segment before them along. The segments in front are given in reverse. -/
def settle (isHere isUp : List Char → Bool) : (front segments : List (List Char)) → List (List Char)
  | front, [] => front.reverse
  | front, [s] =>
    if isUp s then ([] :: front.tail).reverse
    else if isHere s then ([] :: front).reverse
    else (s :: front).reverse
  | front, s :: rest =>
    if isUp s then settle isHere isUp front.tail rest
    else if isHere s then settle isHere isUp front rest
    else settle isHere isUp (s :: front) rest

def joined (segments : List (List Char)) : List Char := segments.flatMap ('/' :: ·)

/-- A dot, which may be encoded. -/
def dots : List Char → Option Nat
  | [] => some 0
  | '.' :: cs => (dots cs).map (· + 1)
  | '%' :: '2' :: 'e' :: cs => (dots cs).map (· + 1)
  | '%' :: '2' :: 'E' :: cs => (dots cs).map (· + 1)
  | _ => none

def isSlash (c : Char) : Bool := c = '/' || c = '\\'

/-- Both slashes part the segments of a path. -/
def readPath (cs : List Char) : List Char :=
  let cs := cs.map fun c => if isSlash c then '/' else c
  let segments := Text.pieces '/' (if cs.head? = some '/' then cs.tail else cs)
  joined ((settle (dots · = some 1) (dots · = some 2) [] segments).map (percentEncode pathSet))

def defaultPort (scheme : String) : Nat := if scheme = "https" then 443 else 80

def readPort (scheme : String) : Option (List Char) → Except UrlFault (Option Nat)
  | none | some [] => .ok none
  | some cs =>
    match digitsValue? 10 cs with
    | some n =>
      if n < 65536 then .ok (if n = defaultPort scheme then none else some n) else .error .badPort
    | none => .error .badPort

/-- The host in front of the colon of a port; colons between brackets are part of the host. -/
def cutPort : Bool → List Char → List Char × Option (List Char)
  | _, [] => ([], none)
  | bracketed, c :: cs =>
    if c = ':' && !bracketed then ([], some cs)
    else
      let (host, port) := cutPort (c = '[' || bracketed && c ≠ ']') cs
      (c :: host, port)

/-- What stands behind the last `@`. -/
def behindUser (cs : List Char) : List Char := (cs.reverse.takeWhile (· ≠ '@')).reverse

def readBehind (scheme : String) (cs : List Char) : Except UrlFault Url := do
  let (cs, fragment?) := cut '#' (cs.dropWhile isSlash)
  let (cs, query?) := cut '?' cs
  let authority := behindUser (cs.takeWhile (!isSlash ·))
  let (host, port) := cutPort false authority
  let host ← hostText host
  let port? ← readPort scheme port
  return {
    scheme, port?
    host := String.ofList host
    path := String.ofList (readPath (cs.dropWhile (!isSlash ·)))
    query? := query?.map (String.ofList ∘ percentEncode querySet)
    fragment? := fragment?.map (String.ofList ∘ percentEncode fragmentSet) }

/-- Tabs and line ends count for nothing, nor do blanks and control characters around the text. -/
def tidy (cs : List Char) : List Char :=
  let around := fun (c : Char) => c.toNat ≤ 0x20
  ((cs.dropWhile around).reverse.dropWhile around).reverse.filter
    fun c => c ≠ '\t' && c ≠ '\n' && c ≠ '\r'

def parse (raw : String) : Except UrlFault Url :=
  let (scheme, rest) := cut ':' (tidy raw.toList)
  let scheme := String.ofList (scheme.map Char.toLower)
  match rest with
  | some rest =>
    if scheme = "http" || scheme = "https" then readBehind scheme rest else .error (.badScheme raw)
  | none => .error (.badScheme raw)

end Url

end BotBindings.Fetch
