import BotBindings.Command.Settings

namespace BotBindings

namespace Key

def about : Key → String
  | source => "Schema document to read: an http(s) URL or a local path"
  | output => "Output directory (the crate's src/ for Rust output)"
  | format => "Output format"
  | dryRun => "Print generated output without writing files"
  | strict => "Fail when the schema cannot be loaded instead of generating empty output"
  | verbose => "Increase verbosity (-v, -vv, -vvv)"
  | jsonLogs => "Emit logs as JSON"
  | help => "Print help"
  | version => "Print version"

def default? : Key → Option String
  | source => some ({} : Settings).source
  | output => some ({} : Settings).output
  | format => some ({} : Settings).format.name
  | _ => none

/-- The values that an option can have, if they are but a few. -/
def choices : Key → List Format
  | format => Format.all
  | _ => []

def label (k : Key) : String :=
  (k.short?.elim "    " fun c => s!"-{c}, ") ++ k.shown

end Key

namespace Help

def padded (width : Nat) (s : String) : String :=
  s ++ String.ofList (List.replicate (width - s.length) ' ')

def briefLine (k : Key) : String :=
  let about := k.about ++ if k = .help then " (see more with '--help')" else ""
  let default := k.default?.elim "" fun d => s!" [default: {d}]"
  let choices := if k.choices.isEmpty then "" else
    " [possible values: " ++ ", ".intercalate (k.choices.map Format.name) ++ "]"
  s!"  {padded 23 k.label}{about}{default}{choices}"

def inset (s : String) : String := "          " ++ s

def fullLines (k : Key) : List String :=
  let about := k.about ++ if k = .help then " (see a summary with '-h')" else ""
  let choices := if k.choices.isEmpty then [] else
    ["", inset "Possible values:"] ++
      k.choices.map fun f => inset ("- " ++ padded 9 s!"{f.name}:" ++ f.about)
  let default := k.default?.elim [] fun d => [inset "", inset s!"[default: {d}]"]
  [s!"  {k.label}", inset about] ++ choices ++ default

def front : List String :=
  ["Code generator for Bot API client bindings", "", "Usage: tgbind [OPTIONS]", "", "Options:"]

def text (full : Bool) : String :=
  let body := if full then ["\n\n".intercalate (Key.all.map fun k => "\n".intercalate (fullLines k))]
    else Key.all.map briefLine
  "\n".intercalate (front ++ body) ++ "\n"

end Help

end BotBindings
