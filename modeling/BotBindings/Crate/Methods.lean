import BotBindings.Code.Doc
import BotBindings.Crate.Reference

namespace BotBindings.Crate

open Code

def optionField (p : Parameter) : Except IdentFault FieldDef := do
  let ty ← optionTy p.passing p.descriptor
  return { docs := docLines [p.description], name := fieldIdent p.wireName, type := ty.option }

/-- The options of a method, each of which may be left out. -/
def optionsItem (method : String) (o : Options) : Except IdentFault Item := do
  let name ← typeIdent o.name
  let fields ← o.fields.mapM optionField
  return .struct [docLine s!"Optional parameters of `{method}`."]
    [⟨"derive", ["Debug", "Clone", "Default"]⟩] name fields

def literal (s : String) : Expr := .word (String.ofList (Text.literal s.toList))

/-- The value a statement sends, taken from a variable. -/
def sentValue (s : Statement) (source : String) : Expr :=
  match s.strategy with
  | .direct | .formatInt | .formatFloat | .formatBool => .method (.word source) "to_string" []
  | .fileUpload =>
    .attempt (.method (.word source) "stage" [literal s.wireName, .refMut (.word "files")])
  | .json => .attempt (.call "serde_json::to_string" [.word source])

/-- Puts a value among the form parameters, under the name the interface has for it. -/
def insertion (s : Statement) (source : String) : Stmt :=
  .run (.method (.word "params") "insert"
    [.method (literal s.wireName) "to_string" [], sentValue s source])

def requiredStmt (s : Statement) : Stmt := insertion s (fieldIdent s.wireName).text

/-- Binds the value of an option that was supplied. -/
def optionBinding (s : Statement) : Binding :=
  ⟨"value", .ref (.field (.word "opts") (fieldIdent s.wireName))⟩

def optionsBinding : Binding := ⟨"opts", .word "opts"⟩

/-- The statements for optional parameters under one condition, which a single statement joins. -/
def optionalStmt : List Statement → Stmt
  | [s] => .ifSome [optionsBinding, optionBinding s] [insertion s "value"]
  | ss => .ifSome [optionsBinding] (ss.map fun s => .ifSome [optionBinding s] [insertion s "value"])

def decodeCall (d : Decode) : Except IdentFault String :=
  match d with
  | .generic _ => .ok "serde_json::from_value"
  | .arrayHelper element => (arrayHelperIdent element).map (·.text)
  | .arrayOfArrayHelper element => (arrayOfArrayHelperIdent element).map (·.text)

/-- More arguments than this need a permission. -/
def mostArguments : Nat := 7

def paramArg (p : Parameter) : Except IdentFault Arg := do
  return ⟨fieldIdent p.wireName, ← paramTy p.passing p.descriptor⟩

def methodArgs (s : Signature) : Except IdentFault (List Arg) := do
  let args ← s.params.mapM paramArg
  match s.optionsParam with
  | none => return args
  | some name =>
    let ident ← typeIdent name
    return args ++ [⟨⟨false, "opts"⟩, .option (.ref (.named ident))⟩]

/-- Collects the parameters, sends them, with the files if there are any, and decodes the result. -/
def methodBody (m : MethodBinding) (decode : String) : List Stmt :=
  let sends := !m.requiredStatements.isEmpty || m.optionalStatements.isSome
  let request :=
    if m.hasUpload then
      Expr.method (.word "self") "request_with_files"
        [literal m.name, .word "params", .word "files"]
    else .method (.word "self") "request" [literal m.name, .word "params"]
  [.letIn (if sends then "mut params" else "params") none (.call "Params::new" [])] ++
    (if m.hasUpload then
      [.letIn "mut files" (some (.vec (.path "Attachment"))) (.call "Vec::new" [])]
    else []) ++
    m.requiredStatements.map requiredStmt ++ (m.optionalStatements.map optionalStmt).toList ++
    [.letIn "result" none (.attempt (.await request)),
      .result (.call "Ok" [.attempt (.call decode [.word "result"])])]

def methodFn (m : MethodBinding) : Except IdentFault Fn := do
  let returned ← m.returns.descriptor.ty
  let args ← methodArgs m.signature
  let decode ← decodeCall m.returns.decode
  return {
    docs := docLines m.description
    attributes :=
      if mostArguments < args.length then [⟨"allow", ["clippy::too_many_arguments"]⟩] else []
    qualifier := "pub async fn "
    name := methodIdent m.name
    onSelf := true
    args
    result := .result returned (.path "BotError")
    body := methodBody m decode }

/-- The options of a method, if it has any, and the method. -/
def methodItems (m : MethodBinding) : Except IdentFault (List Item) := do
  let f ← methodFn m
  let options ← m.options.toList.mapM (optionsItem m.name)
  return options ++ [.impl none (.path "Bot") [f]]

def methodsModule (b : Bindings) : Except IdentFault (List Item) := do
  let methods ← b.methods.mapM methodItems
  return .innerDoc " Bot API method bindings." ::
    .useDecl "crate::bot::\x7bBot, BotError, Params\x7d" ::
    ((if b.hasUpload then [.useDecl "crate::bot::\x7bAttachment, InputFile\x7d"] else []) ++
      (if b.types.isEmpty || b.methods.isEmpty then [] else [.useDecl "crate::types::*"]) ++
      methods.flatten)

end BotBindings.Crate
