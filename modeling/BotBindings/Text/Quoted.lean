import BotBindings.Text.Printed.Table

namespace BotBindings.Text

/-- Control characters below and at DEL, and every other character that does not print or that
extends the grapheme before it. -/
def isUnprinted (c : Char) : Bool :=
  if c.toNat < 128 then c.toNat < 32 || c.toNat == 127
  else graphemeExtendAbove.has c || unprintedAbove.has c

def hexDigits (n : Nat) : List Char := Nat.toDigits 16 n

/-- `\u{...}`, with the code point in as few digits as it needs. -/
def codeEscape (c : Char) : List Char :=
  ['\\', 'u', '\x7b'] ++ hexDigits c.toNat ++ ['\x7d']

def escape (c : Char) : List Char :=
  if c = '\x00' then ['\\', '0']
  else if c = '\t' then ['\\', 't']
  else if c = '\n' then ['\\', 'n']
  else if c = '\r' then ['\\', 'r']
  else if c = '"' then ['\\', '"']
  else if c = '\\' then ['\\', '\\']
  else if isUnprinted c then codeEscape c
  else [c]

def quoted (cs : List Char) : List Char :=
  '"' :: (cs.flatMap escape ++ ['"'])

/-- As `quoted`, but a NUL before an octal digit is written in full. -/
def literal (cs : List Char) : List Char :=
  '"' :: (go cs ++ ['"'])
where
  go : List Char → List Char
    | [] => []
    | c :: rest =>
      if c = '\x00' && rest.head?.any (fun d => '0' ≤ d && d ≤ '7') then
        ['\\', 'x', '0', '0'] ++ go rest
      else escape c ++ go rest

end BotBindings.Text

namespace BotBindings

def quoted (s : String) : String := String.ofList (Text.quoted s.toList)

end BotBindings
