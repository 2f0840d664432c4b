import BotBindings.Command.Arguments
import BotBindings.Command.Help
import BotBindings.Command.Plan
import BotBindings.Log.Filter
import BotBindings.Log.Line

namespace BotBindings

variable {m : Type → Type}

/-- What a run asks of its surroundings. -/
structure Host (m : Type → Type) extends Schema.Reach m, Disk m where
  print : (text : String) → m Unit

/-- The surroundings of a command: a log is told of in lines. -/
structure Console (m : Type → Type) where
  read : (path : String) → m (Except FileError (List UInt8))
  send : Fetch.Sender m
  disk : Disk m
  print : (text : String) → m Unit
  complain : (line : String) → m Unit

variable [Monad m]

namespace Host

def perform (h : Host m) : List Action → m (Except WriteFailure Unit)
  | [] => return .ok ()
  | .tell e :: rest => do
    h.tell e
    perform h rest
  | .print text :: rest => do
    h.print text
    perform h rest
  | .write path content :: rest => do
    match ← h.toDisk.writeAtomic path content with
    | .ok () => perform h rest
    | .error f => return .error f

def carryOut (h : Host m) (p : Plan) : m (Except RunError Unit) := do
  match ← h.perform p.actions with
  | .error f => return .error (.write f)
  | .ok () =>
    match p.failure? with
    | some e => return .error e
    | none => return .ok ()

/-- Loads the schema and does what is planned for it. -/
def run (h : Host m) (s : Settings) : m (Except RunError Unit) := do
  let source := Schema.Source.parse s.source
  h.tell (.starting source.text s.format.title s.dryRun)
  let loaded ← source.load h.toReach
  h.carryOut (plan s loaded)

end Host

namespace Console

/-- Tells the events that pass the filter, as text or as JSON. -/
def tell (c : Console m) (filter : Filter) (asJson : Bool) (e : Event) : m Unit :=
  if filter.passes e then
    c.complain (if asJson then String.ofList e.record.compact else e.line)
  else return ()

def host (c : Console m) (s : Settings) (filter? : Option String) : Host m where
  read := c.read
  send := c.send
  tell := c.tell (Filter.choose filter? s.verbosity) s.jsonLogs
  makeDirs := c.disk.makeDirs
  write := c.disk.write
  rename := c.disk.rename
  print := c.print

/-- Runs the program with its arguments and a log filter, and gives its exit code. -/
def execute (c : Console m) (arguments : List String) (filter? : Option String) : m Nat := do
  match Arguments.read arguments with
  | .error (.help full) =>
    c.print (Help.text full)
    return 0
  | .error .version =>
    c.print "tgbind 0.1.0\n"
    return 0
  | .error (.misuse fault) =>
    c.complain s!"error: {fault.message}"
    return 2
  | .ok s =>
    match ← (c.host s filter?).run s with
    | .ok () => return 0
    | .error e =>
      c.complain e.report
      return e.exitCode

end Console

end BotBindings
