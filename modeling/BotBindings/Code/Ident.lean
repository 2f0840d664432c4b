import BotBindings.Code.Comment
import BotBindings.Text.IdentChar
import BotBindings.Text.Quoted
import BotBindings.Text.Words

namespace BotBindings.Code

structure Ident where
  raw : Bool := false
  name : String
  deriving DecidableEq, Repr

def Ident.text (i : Ident) : String := if i.raw then "r#" ++ i.name else i.name

def keywords : List String :=
  ["_", "abstract", "as", "async", "await", "become", "box", "break", "const", "continue", "crate",
    "do", "dyn", "else", "enum", "extern", "false", "final", "fn", "for", "if", "impl", "in", "let",
    "loop", "macro", "match", "mod", "move", "mut", "override", "priv", "pub", "ref", "return",
    "Self", "self", "static", "struct", "super", "trait", "true", "try", "type", "typeof", "unsafe",
    "unsized", "use", "virtual", "where", "while", "yield"]

/-- Keywords that have no raw form. -/
def neverRaw : List String := ["self", "Self", "super", "crate", "_"]

def Ident.isKeyword (i : Ident) : Bool := !i.raw && keywords.contains i.name

/-- Why a text is no identifier. -/
inductive IdentFault where
  | empty
  | number
  | malformed (text : String)
  | noRawForm (text : String)
  deriving DecidableEq, Repr

def IdentFault.message : IdentFault → String
  | empty => "Ident is not allowed to be empty; use Option<Ident>"
  | number => "Ident cannot be a number; use Literal instead"
  | malformed text => s!"{quoted text} is not a valid Ident"
  | noRawForm text => s!"`r#{text}` cannot be a raw identifier"

/-- The letters of an identifier, keywords included. -/
def checkIdent (cs : List Char) : Except IdentFault Unit :=
  if cs.isEmpty then .error .empty
  else if cs.all Char.isDigit then .error .number
  else if Text.isIdent cs then .ok ()
  else .error (.malformed (String.ofList cs))

/-- The identifier that a text spells; `r#` in front makes it raw. -/
def Ident.ofString (s : String) : Except IdentFault Ident :=
  match Text.behind? ['r', '#'] s.toList with
  | some rest => do
    checkIdent rest
    let name := String.ofList rest
    if neverRaw.contains name then throw (.noRawForm name)
    return ⟨true, name⟩
  | none => do
    checkIdent s.toList
    return ⟨false, s⟩

/-- The letters in front that make up an identifier, and the rest. -/
def spanIdent (cs : List Char) : Option (List Char × List Char) :=
  match cs with
  | c :: rest =>
    if Text.isIdentStart c then
      some (c :: rest.takeWhile Text.isIdentRest, rest.dropWhile Text.isIdentRest)
    else none
  | [] => none

/-- The one raw identifier behind an `r#`. -/
def rawIdent? (cs : List Char) : Option Ident :=
  match spanIdent cs with
  | some (name, rest) =>
    let name := String.ofList name
    if (skipTrivia rest).isEmpty && !neverRaw.contains name then some ⟨true, name⟩ else none
  | none => none

/-- The identifier of a text that holds one identifier and no other token. A byte order mark at its
start does not count. -/
def soleIdent? (cs : List Char) : Option Ident :=
  let cs := skipTrivia (match cs with
    | '\uFEFF' :: rest => rest
    | _ => cs)
  match Text.behind? ['r', '#'] cs with
  | some rest => rawIdent? rest
  | none =>
    match spanIdent cs with
    | some (name, rest) =>
      let name := String.ofList name
      if (skipTrivia rest).isEmpty && !keywords.contains name then some ⟨false, name⟩ else none
    | none => none

/-- Letters, digits and underscores of ASCII, and underscores in place of all else. -/
def underscored (cs : List Char) : List Char :=
  cs.map fun c => if c.isAlphanum || c == '_' then c else '_'

/-- The text of a name with no letter of its own to begin with, completed to an identifier. -/
def completed (cs : List Char) : List Char :=
  let cs := if cs.isEmpty || cs.head?.any Char.isDigit then '_' :: cs else cs
  if cs.all (· == '_') then cs ++ "field".toList else cs

/-- The identifier for a name of the interface: the name itself, its raw form if it is a keyword,
the name with an underscore behind it if the keyword has no raw form, else the name without the
characters that no identifier holds. -/
def fieldIdent (name : String) : Ident :=
  if neverRaw.contains name then ⟨false, name ++ "_"⟩
  else
    match soleIdent? name.toList with
    | some i => i
    | none =>
      match rawIdent? name.toList with
      | some i => i
      | none => ⟨false, String.ofList (completed (underscored name.toList))⟩

def typeIdent (name : String) : Except IdentFault Ident := Ident.ofString name

/-- `send_photo` for `sendPhoto`. -/
def methodIdent (name : String) : Ident := fieldIdent (snakeCase name)

def arrayHelperIdent (element : String) : Except IdentFault Ident :=
  Ident.ofString s!"unmarshal_{snakeCase element}_array"

def arrayOfArrayHelperIdent (element : String) : Except IdentFault Ident :=
  Ident.ofString s!"unmarshal_{snakeCase element}_array_of_array"

def variantTraitIdent (parent : String) : Except IdentFault Ident := Ident.ofString s!"{parent}Variant"

def variantMethodIdent (parent : String) : Except IdentFault Ident :=
  Ident.ofString s!"to_{snakeCase parent}"

end BotBindings.Code
