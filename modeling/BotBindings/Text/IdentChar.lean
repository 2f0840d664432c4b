import BotBindings.Text.IdentChar.Table

namespace BotBindings.Text

def isIdentStart (c : Char) : Bool :=
  if c.toNat < 128 then c.isAlpha || c == '_' else identStartAbove.has c

def isIdentRest (c : Char) : Bool :=
  if c.toNat < 128 then c.isAlphanum || c == '_'
  else identStartAbove.has c || identExtraAbove.has c

/-- One character that starts an identifier, then any that continue it. -/
def isIdent : List Char → Bool
  | [] => false
  | c :: rest => isIdentStart c && rest.all isIdentRest

end BotBindings.Text
