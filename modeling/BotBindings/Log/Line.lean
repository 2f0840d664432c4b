import BotBindings.Event
import BotBindings.Json.Value

namespace BotBindings

/-- Control characters that a terminal would act on are written out. -/
def guardChar (c : Char) : List Char :=
  let hex := Json.hexPair c.toNat
  if ['\x1b', '\x07', '\x08', '\x0c', '\x7f'].contains c then ['\\', 'x'] ++ hex
  else if 0x80 ≤ c.toNat && c.toNat ≤ 0x9f then ['\\', 'u', '\x7b'] ++ hex ++ ['\x7d']
  else [c]

namespace Detail

def toJson : Detail → Json.Value
  | text s => .string s
  | count n => .nat n
  | flag b => .bool b

end Detail

namespace Event

/-- The level, the target and the message, and the details behind them. -/
def line (e : Event) : String :=
  let details := e.details.map fun (name, d) => s!" {name}={d.render}"
  s!"{e.level.name} {e.target}: " ++ String.ofList (e.message.toList.flatMap guardChar) ++
    String.join details

/-- The message is a field like the details. -/
def record (e : Event) : Json.Value :=
  .object [("level", .string e.level.name),
    ("fields", .object (("message", .string e.message) ::
      e.details.map fun (name, d) => (name, d.toJson))),
    ("target", .string e.target)]

end Event

end BotBindings
