import BotBindings.Fetch.Reference
import BotBindings.Fetch.Response
import BotBindings.Text.Quoted

namespace BotBindings.Fetch

/-- What became of a request that got no answer. -/
inductive SendFault where
  | unreachable
  | head (fault : HeadFault)
  deriving DecidableEq, Repr

inductive FetchError where
  | address (fault : UrlFault)
  | send (url : Url) (fault : SendFault)
  | redirects (url : Url)
  | body (fault : BodyFault)
  deriving DecidableEq, Repr

/-- Sends a request for a page and gives the bytes that came back, if there is a server. -/
abbrev Sender (m : Type → Type) := Url → m (Option Bytes)

def requestLine (u : Url) : String := s!"GET {u.target} HTTP/1.1"

def redirectLimit : Nat := 10

/-- Where an answer to a request for `url` points to. A location that is no reference counts for
nothing. -/
def Response.next? (r : Response) (url : Url) : Option (Except UrlFault Url) := do
  if !r.isRedirect then none
  let location ← r.header? "location"
  (← Reference.parse? (location.map charOf)).resolve url

variable {m : Type → Type} [Monad m]

/-- Asks for `url` and for what its answers point to. If nothing comes back then the first page of
all is at fault, which is `origin`. -/
def follow (send : Sender m) (origin : Url) : (left : Nat) → Url → m (Except FetchError Response)
  | left, url => do
    match ← send url with
    | none => return .error (.send origin .unreachable)
    | some bytes =>
      match Response.parse bytes with
      | .error f => return .error (.send origin (.head f))
      | .ok r =>
        match r.next? url with
        | none => return .ok r
        | some (.error f) => return .error (.address f)
        | some (.ok next) =>
          match left with
          | 0 => return .error (.redirects url.page)
          | left + 1 => follow send origin left next

def get (send : Sender m) (raw : String) : m (Except FetchError Response) :=
  match Url.parse raw with
  | .error f => return .error (.address f)
  | .ok url => follow send url redirectLimit url

namespace FetchError

def message : FetchError → String
  | address (.badScheme text) => s!"builder error for url ({text})"
  | address _ => "builder error"
  | send url _ => s!"error sending request for url ({url.text})"
  | redirects url => s!"error following redirect for url ({url.text})"
  | body _ => "error decoding response body"

end FetchError

/-- The fault of a head with its parts named. -/
def HeadFault.detail : HeadFault → String
  | incomplete => "IncompleteMessage"
  | version => "Parse(Version)"
  | status => "Parse(Status)"
  | header => "Parse(Header(Token))"
  | tooManyHeaders => "Parse(TooLarge)"
  | contentLength => "Parse(Header(ContentLengthInvalid))"
  | transferEncoding => "Parse(Header(TransferEncodingUnexpected))"

def SendFault.detail : SendFault → String
  | unreachable => "Connect"
  | head f => s!"SendRequest, hyper::Error({f.detail})"

def BodyFault.detail : BodyFault → String
  | cut => "kind: UnexpectedEof, error: IncompleteBody"
  | cutLine => "kind: UnexpectedEof, error: " ++ quoted "unexpected EOF during chunk size line"
  | overflow => "kind: InvalidData, error: " ++ quoted "invalid chunk size: overflow"
  | malformed words => "kind: InvalidInput, error: " ++ quoted words

namespace FetchError

def parts : FetchError → List (String × String)
  | address (.badScheme text) =>
    [("kind", "Builder"), ("url", quoted text), ("source", "BadScheme")]
  | address f => [("kind", "Builder"), ("source", f.name)]
  | send url f =>
    [("kind", "Request"), ("url", quoted url.text),
      ("source", s!"hyper_util::client::legacy::Error({f.detail})")]
  | redirects url =>
    [("kind", "Redirect"), ("url", quoted url.text), ("source", "TooManyRedirects")]
  | body f => [("kind", "Decode"), ("source", s!"hyper::Error(Body, Custom \x7b {f.detail} \x7d)")]

def detail (e : FetchError) : String :=
  let parts := e.parts.map fun (name, value) => s!"{name}: {value}"
  "reqwest::Error \x7b " ++ ", ".intercalate parts ++ " \x7d"

end FetchError

end BotBindings.Fetch
