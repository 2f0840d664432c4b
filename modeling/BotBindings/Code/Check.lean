import BotBindings.Code.Tree

/-!
Where keywords may stand in a tree. An item cannot be named by one, and few can stand for a type.
-/
namespace BotBindings.Code

/-- What is wrong with generated code. -/
inductive CodeFault where
  | keywordName (keyword : String)
  | keywordType (expected : String)
  deriving DecidableEq, Repr

def CodeFault.message : CodeFault → String
  | keywordName keyword => s!"expected identifier, found keyword `{keyword}`"
  | keywordType expected => s!"expected {expected}"

def anyType : String :=
  "one of: `for`, parentheses, `fn`, `unsafe`, `extern`, identifier, `::`, `<`, `dyn`, " ++
    "square brackets, `*`, `&`, `!`, `impl`, `_`, lifetime"

def checkName (i : Ident) : Except CodeFault Unit :=
  if i.isKeyword then .error (.keywordName i.name) else .ok ()

/-- Keywords that are paths are types, and `_` is one to be inferred. An argument in angle brackets
may also be a literal. Other keywords begin types that need more behind them, or none. -/
def checkTypeName (inBrackets : Bool) (i : Ident) : Except CodeFault Unit :=
  if !i.isKeyword || neverRaw.contains i.name then .ok ()
  else if i.name = "true" || i.name = "false" then
    if inBrackets then .ok () else .error (.keywordType anyType)
  else if i.name = "fn" then .error (.keywordType "parentheses")
  else if i.name = "unsafe" || i.name = "extern" then .error (.keywordType "`fn`")
  else if i.name = "dyn" || i.name = "impl" then .error (.keywordType "identifier")
  else if i.name = "for" then .error (.keywordType "`<`")
  else .error (.keywordType anyType)

def Ty.check (inBrackets : Bool) : Ty → Except CodeFault Unit
  | named i => checkTypeName inBrackets i
  | path _ => .ok ()
  | apply _ arg => arg.check true
  | result ok err => do
    ok.check true
    err.check true
  | ref t | slice t => t.check false

def Fn.check (f : Fn) : Except CodeFault Unit := do
  checkName f.name
  f.args.forM fun a => do
    checkName a.name
    a.type.check false
  f.result.check false

def Item.check : Item → Except CodeFault Unit
  | innerDoc _ | useDecl _ | modDecl _ | listing _ => .ok ()
  | struct _ _ name fields => do
    checkName name
    fields.forM fun f => do
      checkName f.name
      f.type.check false
  | sum _ _ _ variants =>
    variants.forM checkName
  | impl interface self fns => do
    interface.forM (·.check false)
    self.check false
    fns.forM Fn.check
  | trait _ name _ fns => do
    checkName name
    fns.forM Fn.check
  | fn f => f.check

/-- The first fault of a file. -/
def checkItems (items : List Item) : Except CodeFault Unit := items.forM Item.check

end BotBindings.Code
