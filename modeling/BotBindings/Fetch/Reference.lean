import BotBindings.Fetch.Url

/-!
References to a page from another one. A reference keeps to the characters of addresses, with all
others percent-encoded; a text that does not is none.
-/
namespace BotBindings.Fetch

/-- A reference without its fragment. -/
structure Reference where
  scheme? : Option (List Char)
  authority? : Option (List Char)
  path : List Char
  query? : Option (List Char)
  deriving DecidableEq, Repr

namespace Reference

/-- Letters, digits and marks that stand for themselves in a segment. -/
def isSegmentChar (c : Char) : Bool := c.isAlphanum || "-._~!$&'()*+,;=:@".toList.contains c

/-- All characters pass, and every `%` has two hexadecimal digits behind it. -/
def allowed (pass : Char → Bool) : List Char → Bool
  | [] => true
  | '%' :: a :: b :: cs => (hexValue? a).isSome && (hexValue? b).isSome && allowed pass cs
  | c :: cs => pass c && allowed pass cs

def isScheme : List Char → Bool
  | [] => false
  | c :: cs => c.isAlpha && cs.all fun d => d.isAlphanum || "+-.".toList.contains d

/-- A colon in the first segment ends a scheme. -/
def cutScheme (cs : List Char) : Option (List Char) × List Char :=
  match Url.cut ':' cs with
  | (scheme, some rest) => if scheme.contains '/' then (none, cs) else (some scheme, rest)
  | (_, none) => (none, cs)

def cutAuthority : List Char → Option (List Char) × List Char
  | '/' :: '/' :: cs => (some (cs.takeWhile (· ≠ '/')), cs.dropWhile (· ≠ '/'))
  | cs => (none, cs)

def parse? (cs : List Char) : Option Reference :=
  let (cs, fragment?) := Url.cut '#' cs
  let (cs, query?) := Url.cut '?' cs
  let (scheme?, cs) := cutScheme cs
  let (authority?, path) := cutAuthority cs
  let tail := fun c => isSegmentChar c || c = '/' || c = '?'
  if scheme?.all isScheme &&
      authority?.all (allowed fun c => isSegmentChar c || c = '[' || c = ']') &&
      allowed (fun c => isSegmentChar c || c = '/') path &&
      query?.all (allowed tail) && fragment?.all (allowed tail) then
    some ⟨scheme?, authority?, path, query?⟩
  else none

/-- Only plain dots say where a segment stands. -/
def settlePath (path : List Char) : List Char :=
  match path with
  | [] => ['/']
  | _ :: cs => Url.joined (Url.settle (· = ['.']) (· = ['.', '.']) [] (Text.pieces '/' cs))

/-- The path and query that a reference without an authority leads to. -/
def follow (r : Reference) (base : Url) : String × Option String :=
  let query? := r.query?.map String.ofList
  match r.path with
  | [] => (base.path, query? <|> base.query?)
  | '/' :: _ => (String.ofList (settlePath r.path), query?)
  | _ =>
    let directory := (base.path.toList.reverse.dropWhile (· ≠ '/')).reverse
    (String.ofList (settlePath (directory ++ r.path)), query?)

/-- Where a reference on the page `base` leads to. One with a scheme but no host leads nowhere. -/
def resolve (r : Reference) (base : Url) : Option (Except UrlFault Url) :=
  match r.authority? with
  | some authority =>
    if authority.isEmpty then none
    else
      let scheme := String.ofList (r.scheme?.getD base.scheme.toList)
      let path := String.ofList (settlePath r.path)
      let query? := r.query?.map String.ofList
      let plain : Url := { scheme, host := String.ofList authority, path, query? }
      some ((Url.parse plain.text).map fun u => { u with path, query? })
  | none =>
    if r.scheme?.isSome then none
    else
      let (path, query?) := r.follow base
      some (.ok { base with path, query?, fragment? := none })

end Reference

end BotBindings.Fetch
