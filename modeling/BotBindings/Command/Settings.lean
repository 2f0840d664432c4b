import BotBindings.Schema.Source

namespace BotBindings

/-- What a run writes. -/
inductive Format where
  | rust
  | records
  deriving DecidableEq, Repr

namespace Format

def all : List Format := [rust, records]

def name : Format → String
  | rust => "rust"
  | records => "records"

def title : Format → String
  | rust => "Rust"
  | records => "Records"

def about : Format → String
  | rust => "A Rust crate (\x60src/*.rs\x60 plus \x60Cargo.toml\x60 one level up)"
  | records => "The binding records as pretty JSON (\x60bindings.json\x60)"

end Format

structure Settings where
  source : String := Schema.Source.defaultUrl
  output : String := "bindings/src"
  format : Format := .rust
  dryRun : Bool := false
  strict : Bool := false
  verbosity : Nat := 0
  jsonLogs : Bool := false
  deriving DecidableEq, Repr

/-- The options of the command line, in the order of its help. -/
inductive Key where
  | source
  | output
  | format
  | dryRun
  | strict
  | verbose
  | jsonLogs
  | help
  | version
  deriving DecidableEq, Repr

namespace Key

def all : List Key := [source, output, format, dryRun, strict, verbose, jsonLogs, help, version]

def long : Key → String
  | source => "source"
  | output => "output"
  | format => "format"
  | dryRun => "dry-run"
  | strict => "strict"
  | verbose => "verbose"
  | jsonLogs => "json-logs"
  | help => "help"
  | version => "version"

def short? : Key → Option Char
  | source => some 's'
  | output => some 'o'
  | format => some 'f'
  | verbose => some 'v'
  | help => some 'h'
  | version => some 'V'
  | dryRun | strict | jsonLogs => none

/-- The name of the value of an option that takes one. -/
def value? : Key → Option String
  | source => some "SOURCE"
  | output => some "OUTPUT"
  | format => some "FORMAT"
  | _ => none

/-- The option as help and complaints show it. The one that may be repeated has dots behind it. -/
def shown (k : Key) : String :=
  s!"--{k.long}" ++
    match k.value? with
    | some name => s!" <{name}>"
    | none => if k = verbose then "..." else ""

def ofLong? (name : String) : Option Key := all.find? (·.long = name)

def ofShort? (c : Char) : Option Key := all.find? (·.short? = some c)

end Key

end BotBindings
