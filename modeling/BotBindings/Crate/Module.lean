import BotBindings.Code.Check
import BotBindings.Code.Print
import BotBindings.Crate.Client
import BotBindings.Crate.Methods
import BotBindings.Crate.Types

namespace BotBindings.Crate

open Code

/-- Why a module has no text. -/
inductive RenderError where
  | ident (fault : IdentFault)
  | code (fault : CodeFault)
  deriving DecidableEq, Repr

/-- The comment in front of a generated file. -/
def header (version : Option String) : String :=
  "// This code was automatically generated by tgbind. Do not edit manually.\n" ++
    (match version with
      | some v => s!"// Schema revision: {v}\n"
      | none => "") ++ "\n"

/-- The text of a file of items. -/
def fileText (version : Option String) (items : List Item) : Except RenderError String :=
  match checkItems items with
  | .error f => .error (.code f)
  | .ok () => .ok (header version ++ printItems items)

/-- The front module, which declares the others. -/
def frontModule (b : Bindings) : List Item :=
  let summary := match b.metadata.version with
    | some v => s!"Client bindings for the Telegram Bot API ({v})."
    | none => "Client bindings for the Telegram Bot API."
  [.innerDoc (docLine summary), .innerDoc "",
    .innerDoc (docLine s!"Declares {b.types.length} types and {b.methods.length} methods."),
    .modDecl "bot", .modDecl "methods", .modDecl "types",
    .listing ["pub use bot::\x7bAttachment, Bot, BotError, InputFile, Params\x7d;",
      "pub use types::*;"]]

/-- The items of all modules under their file names. An identifier at fault anywhere leaves none. -/
def modules (b : Bindings) : Except IdentFault (List (String × List Item)) := do
  let types ← typesModule b
  let methods ← methodsModule b
  return [("lib.rs", frontModule b), ("bot.rs", [.listing clientModule]), ("types.rs", types),
    ("methods.rs", methods)]

/-- The files of the crate in their order. -/
def render (b : Bindings) : Except RenderError (List (String × String)) :=
  match modules b with
  | .error f => .error (.ident f)
  | .ok ms => ms.mapM fun (name, items) => do
    return (name, ← fileText b.metadata.version items)

end BotBindings.Crate
