import BotBindings.Event
import BotBindings.Fetch.Exchange
import BotBindings.Files.Failure
import BotBindings.Schema.Reader
import BotBindings.Schema.Source

namespace BotBindings.Schema

inductive LoadError where
  | file (path : String) (cause : FileError)
  | request (error : Fetch.FetchError)
  | status (url : String) (code : Nat)
  | document (error : Json.ReadError)
  deriving DecidableEq, Repr

namespace LoadError

def message : LoadError → String
  | file path cause => s!"Failed to read schema file '{path}': {cause.message}"
  | request e => s!"Schema request failed: {e.message}"
  | status url code => s!"Schema request to '{url}' returned status {code}"
  | document e => s!"Failed to parse schema document: {e.message}"

/-- The error with its parts named. -/
def detail : LoadError → String
  | file path cause => s!"Io \x7b path: {quoted path}, source: {cause.detail} \x7d"
  | request e => s!"Http({e.detail})"
  | status url code => s!"Status \x7b url: {quoted url}, status: {code} \x7d"
  | document e =>
    s!"Parse \x7b source: Error({quoted e.cause.message}, line: {e.line}, column: {e.column}) \x7d"

end LoadError

/-- What loading asks of its surroundings, and tells them. -/
structure Reach (m : Type → Type) where
  read : (path : String) → m (Except FileError (List UInt8))
  send : Fetch.Sender m
  tell : Event → m Unit

variable {m : Type → Type} [Monad m]

/-- Text of a document, which must be UTF-8 if it comes from a file. -/
def fileText (content : List UInt8) : Except FileError String :=
  match String.fromUTF8? ⟨content.toArray⟩ with
  | some text => .ok text
  | none => .error .notUtf8

def loadFile (r : Reach m) (path : String) : m (Except LoadError Document) := do
  r.tell (.reading path)
  match (← r.read path) >>= fileText with
  | .error e => return .error (.file path e)
  | .ok text =>
    match Document.parse text with
    | .error e => return .error (.document e)
    | .ok d =>
      r.tell (.loaded path d.types.size d.methods.size)
      return .ok d

/-- The document in an answer. The answer to a failed request is not read. -/
def documentOf (url : String) (answer : Fetch.Response) : Except LoadError Document :=
  if answer.isSuccess then
    match answer.body with
    | .error f => .error (.request (.body f))
    | .ok bytes => (Document.parse (Text.decodeLossy bytes)).mapError .document
  else .error (.status url answer.status)

def loadPage (r : Reach m) (url : String) : m (Except LoadError Document) := do
  r.tell (.fetching url)
  match ((← Fetch.get r.send url).mapError .request) >>= documentOf url with
  | .error e => return .error e
  | .ok d =>
    r.tell (.fetched url d.types.size d.methods.size)
    return .ok d

def Source.load (r : Reach m) : Source → m (Except LoadError Document)
  | .url address => loadPage r address
  | .path location => loadFile r location

end BotBindings.Schema
