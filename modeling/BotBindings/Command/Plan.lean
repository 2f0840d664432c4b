import BotBindings.Binding.Document
import BotBindings.Binding.Record
import BotBindings.Command.Settings
import BotBindings.Crate.Manifest
import BotBindings.Crate.Module
import BotBindings.Files.Atomic
import BotBindings.Schema.Load

/-!
What a run does once the schema has been loaded, or has not. All texts are made before the first of
them is written, so a schema without bindings, or a crate that cannot be rendered, leaves no files.
-/
namespace BotBindings

open Schema (Document LoadError)

/-- Why a run fails. -/
inductive RunError where
  | load (error : LoadError)
  | bind (error : BindError)
  | render (error : Crate.RenderError)
  | write (failure : WriteFailure)
  deriving DecidableEq, Repr

/-- The error with its parts named. -/
def BindError.detail : BindError → String
  | unresolvable token => s!"UnresolvableType \x7b token: {quoted token} \x7d"
  | violation f =>
    s!"AssumptionViolation \x7b subject: {quoted f.subject}, reason: {quoted f.reason} \x7d"

namespace RunError

/-- What is told about the error at the end of the run. -/
def report : RunError → String
  | load e => s!"Error: Load({e.detail})"
  | bind e => s!"Error: {e.detail}"
  | render (.code f) =>
    "Error: CodeGenError(" ++ quoted s!"Generated code is invalid: {f.message}" ++ ")"
  | render (.ident f) => f.message
  | write f => s!"Error: {f.detail}"

/-- A name that is no identifier breaks the run off. -/
def exitCode : RunError → Nat
  | render (.ident _) => 101
  | _ => 1

end RunError

inductive Action where
  | tell (event : Event)
  | print (text : String)
  | write (path content : String)
  deriving DecidableEq, Repr

/-- A file as a dry run prints it. -/
def shownFile (name content : String) : String := s!"=== {name} ===\n{content}\n\n"

/-- The modules of the crate in their order, each in the directory `dir`. -/
def moduleActions (dryRun : Bool) (dir : String) (modules : List (String × String)) : List Action :=
  if dryRun then modules.map fun (name, content) => .print (shownFile name content)
  else
    (modules.map fun (name, content) => .write (Path.inside dir name) content) ++
      [.tell (.wroteModules modules.length dir)]

def manifestActions (dryRun : Bool) (dir package : String) : List Action :=
  let path := Path.inside dir "Cargo.toml"
  if dryRun then [.print (shownFile path (Crate.manifest package))]
  else [.write path (Crate.manifest package), .tell (.wroteManifest path)]

def recordsActions (dryRun : Bool) (dir : String) (b : Bindings) : List Action :=
  let path := Path.inside dir "bindings.json"
  if dryRun then [.print (shownFile path b.records)]
  else [.write path b.records, .tell (.wroteRecords path)]

/-- The directory of a crate whose modules are in `dir`. -/
def crateDir (dir : String) : String := (Path.parent? dir).getD "bindings"

def outputActions (s : Settings) (b : Bindings) : Except RunError (List Action) :=
  match s.format with
  | .records => .ok (recordsActions s.dryRun s.output b)
  | .rust => do
    let modules ← (Crate.render b).mapError .render
    return moduleActions s.dryRun s.output modules ++
      manifestActions s.dryRun (crateDir s.output) Crate.defaultPackage

/-- Actions to take one after the other, and the error that ends the run behind them. -/
structure Plan where
  actions : List Action
  failure? : Option RunError := none
  deriving DecidableEq, Repr

def Plan.behind (events : List Event) (p : Plan) : Plan :=
  { p with actions := events.map .tell ++ p.actions }

/-- The plan for a document, or for none. -/
def planFor (s : Settings) (document : Option Document) : Plan :=
  let (result, events) := Bindings.ofDocument document
  .behind events <|
    match result with
    | .error e => { actions := [], failure? := some (.bind e) }
    | .ok b =>
      .behind [.compiledBindings b.types.length b.methods.length] <|
        match outputActions s b with
        | .error e => { actions := [], failure? := some e }
        | .ok actions => { actions }

/-- Without a schema a strict run fails, and any other goes on with no bindings. -/
def plan (s : Settings) : Except LoadError Document → Plan
  | .ok d => planFor s (some d)
  | .error e =>
    if s.strict then { actions := [], failure? := some (.load e) }
    else .behind [.unavailable e.message] (planFor s none)

end BotBindings
