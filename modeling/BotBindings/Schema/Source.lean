import BotBindings.Text.Front

namespace BotBindings.Schema

inductive Source where
  | url (address : String)
  | path (location : String)
  deriving DecidableEq, Repr

namespace Source

/-- What begins as a web address is one, and all else is a path. -/
def parse (raw : String) : Source :=
  if Text.begins "http://" raw || Text.begins "https://" raw then .url raw else .path raw

def defaultUrl : String :=
  "https://raw.githubusercontent.com/PaulSonOfLars/telegram-bot-api-spec/main/api.json"

def default : Source := .url defaultUrl

def text : Source → String
  | url address => address
  | path location => location

end Source

end BotBindings.Schema
