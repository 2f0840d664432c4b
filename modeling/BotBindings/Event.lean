import BotBindings.Binding.Basic

namespace BotBindings

inductive Level where
  | error
  | warn
  | info
  | debug
  | trace
  deriving DecidableEq, Repr

def Level.name : Level → String
  | error => "ERROR"
  | warn => "WARN"
  | info => "INFO"
  | debug => "DEBUG"
  | trace => "TRACE"

/-- The greater the rank, the finer the detail. -/
def Level.rank : Level → Nat
  | error => 1
  | warn => 2
  | info => 3
  | debug => 4
  | trace => 5

/-- The value of a named detail of an event. -/
inductive Detail where
  | text (s : String)
  | count (n : Nat)
  | flag (b : Bool)
  deriving DecidableEq, Repr

def Detail.render : Detail → String
  | text s => s
  | count n => toString n
  | flag true => "true"
  | flag false => "false"

inductive Event where
  | starting (source format : String) (dryRun : Bool)
  | unavailable (reason : String)
  | compiledBindings (types methods : Nat)
  | reading (path : String)
  | loaded (path : String) (types methods : Nat)
  | fetching (url : String)
  | fetched (url : String) (types methods : Nat)
  | validated (types methods : Nat)
  | arrayElement (name : String)
  | arrayOfArrayElement (name : String)
  | skippedUpload (field : String)
  | flattened (subtypes : Nat) (parent : String) (fields : Nat)
  | resolvedType (name : String) (kind : Kind) (fields : Nat)
  | resolvedMethod (name : String) (required optional : Nat)
  | noSchema
  | compiled (types methods arrays arraysOfArrays : Nat)
  | wroteModules (count : Nat) (directory : String)
  | wroteRecords (path : String)
  | wroteManifest (path : String)
  deriving DecidableEq, Repr

namespace Event

def level : Event → Level
  | unavailable .. => .warn
  | starting .. | compiledBindings .. | loaded .. | fetched .. | noSchema | compiled ..
  | wroteModules .. | wroteRecords .. | wroteManifest .. => .info
  | reading .. | fetching .. | validated .. | flattened .. | resolvedType .. | resolvedMethod .. =>
    .debug
  | arrayElement .. | arrayOfArrayElement .. | skippedUpload .. => .trace

/-- The part of the program that tells. -/
def target : Event → String
  | starting .. | unavailable .. | compiledBindings .. => "tgbind"
  | reading .. | loaded .. | fetching .. | fetched .. => "tgbind_define::loader"
  | validated .. => "tgbind_gen::validation"
  | arrayElement .. | arrayOfArrayElement .. => "tgbind_gen::resolve::context"
  | skippedUpload .. | flattened .. => "tgbind_gen::resolve::inheritance"
  | resolvedType .. => "tgbind_gen::resolve::declarations"
  | resolvedMethod .. => "tgbind_gen::resolve::methods"
  | noSchema | compiled .. => "tgbind_gen::resolve::compile"
  | wroteModules .. | wroteRecords .. => "tgbind_gen::output"
  | wroteManifest .. => "tgbind_gen::cargo_gen"

def message : Event → String
  | starting .. => "Starting generation"
  | unavailable reason => s!"Schema unavailable ({reason}); generating empty bindings"
  | compiledBindings .. => "Compiled bindings"
  | reading path => s!"Reading schema from {path}"
  | loaded path .. => s!"Loaded schema from {path}"
  | fetching url => s!"Fetching schema from {url}"
  | fetched url .. => s!"Fetched schema from {url}"
  | validated types methods => s!"Validated {types} types and {methods} methods"
  | arrayElement name => s!"Array element registered: {name}"
  | arrayOfArrayElement name => s!"Array-of-array element registered: {name}"
  | skippedUpload field => s!"Skipping file-upload alternative of '{field}'"
  | flattened subtypes parent fields =>
    s!"Flattened {subtypes} subtypes of {parent} into {fields} fields"
  | resolvedType name kind fields => s!"Resolved type {name} ({kind.name}, {fields} fields)"
  | resolvedMethod name required optional =>
    s!"Resolved method {name} ({required} required, {optional} optional)"
  | noSchema => "No schema available, producing empty bindings"
  | compiled types methods arrays arraysOfArrays =>
    s!"Compiled {types} types and {methods} methods ({arrays} array helpers, " ++
      s!"{arraysOfArrays} array-of-array helpers)"
  | wroteModules count directory => s!"Wrote {count} modules to {directory}"
  | wroteRecords path => s!"Wrote binding records to {path}"
  | wroteManifest path => s!"Wrote {path}"

/-- Named details that are told beside the message. -/
def details : Event → List (String × Detail)
  | starting source format dryRun =>
    [("source", .text source), ("format", .text format), ("dry_run", .flag dryRun)]
  | compiledBindings types methods | loaded _ types methods | fetched _ types methods =>
    [("types", .count types), ("methods", .count methods)]
  | _ => []

end Event

end BotBindings
