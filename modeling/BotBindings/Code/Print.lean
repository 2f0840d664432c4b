import BotBindings.Code.Doc
import BotBindings.Code.Tree
import BotBindings.Layout.Print

namespace BotBindings.Code

open Layout (Piece word zero space hard hardUnlessLast neverBreak cbox ibox close commaList
  commaBreak)

/-- Indentation of a level. -/
def indent : Int := 4

/-- Moves the break before a closing bracket back to the level outside. -/
def outdent : Piece := .shift (-indent)

/-- Pieces in brackets of their own level, or nothing. -/
def bracketed (ps : List (List Piece)) : List Piece :=
  [cbox indent, zero] ++ commaList ps ++ [outdent, close]

/-- A block of items or statements that each end their line. -/
def block (ps : List Piece) : List Piece :=
  [word "\x7b", hardUnlessLast] ++ ps ++ [outdent, close, word "\x7d", hard]

def Ty.pieces : Ty → List Piece
  | named i => [word i.text]
  | path text => [word text]
  | apply head arg => [word head, word "<"] ++ bracketed [arg.pieces] ++ [word ">"]
  | result ok err => [word "Result", word "<"] ++ bracketed [ok.pieces, err.pieces] ++ [word ">"]
  | ref t => word "&" :: t.pieces
  | slice t => word "[" :: t.pieces ++ [word "]"]

mutual

def Expr.pieces : Expr → List Piece
  | .word text => [word text]
  | .call path args => [word path, word "("] ++ bracketed (argPieces args) ++ [word ")"]
  | .method e name args =>
    cbox indent :: e.chain ++ [zero, word ("." ++ name), cbox 0, word "("] ++
      bracketed (argPieces args) ++ [word ")", close, close]
  | .field e name => cbox indent :: e.chain ++ [zero, word ("." ++ name.text), close]
  | .await e => cbox indent :: e.chain ++ [zero, word ".await", close]
  | .attempt e => e.pieces ++ [word "?"]
  | .ref e => word "&" :: e.pieces
  | .refMut e => word "&mut " :: e.pieces

/-- An expression as the start of a chain of calls, which shares one box. -/
def Expr.chain : Expr → List Piece
  | .method e name args =>
    e.chain ++ [zero, word ("." ++ name), cbox 0, word "("] ++ bracketed (argPieces args) ++
      [word ")", close]
  | .field e name => e.chain ++ [zero, word ("." ++ name.text)]
  | .await e => e.chain ++ [zero, word ".await"]
  | .attempt e => e.chain ++ [word "?"]
  | .call path args => [word path, word "("] ++ bracketed (argPieces args) ++ [word ")"]
  | .word text => [cbox (-indent), word text, close]
  | .ref e => cbox (-indent) :: word "&" :: e.pieces ++ [close]
  | .refMut e => cbox (-indent) :: word "&mut " :: e.pieces ++ [close]

def argPieces : List Expr → List (List Piece)
  | [] => []
  | e :: es => e.pieces :: argPieces es

end

/-- `let Some(v) = e`. -/
def Binding.pieces (b : Binding) : List Piece :=
  [ibox 0, word "let ", ibox 0, word "Some", word "("] ++ bracketed [[word b.name]] ++
    [word ")", close, word " = ", neverBreak, ibox 0] ++ b.value.pieces ++ [close, close]

def Expr.isField : Expr → Bool
  | .field .. => true
  | .ref e | .refMut e => e.isField
  | _ => false

/-- The condition of a block. The block may start on a line of its own when the condition ends in a
field or has more than one part. -/
def conditionPieces : List Binding → List Piece
  | [] => []
  | [b] => b.pieces ++ [if b.value.isField then space else word " "]
  | b :: bs =>
    ibox indent :: ibox (-indent) :: b.pieces ++ [close] ++
      bs.flatMap (fun b => [space, word "&&", word " "] ++ b.pieces) ++ [close, space]

mutual

def Stmt.pieces : Stmt → List Piece
  | .letIn binder type value =>
    let ty := match type with
      | some t => word ": " :: t.pieces
      | none => []
    [ibox 0, word "let ", word binder] ++ ty ++ [word " = ", neverBreak] ++ value.pieces ++
      [close, word ";", hard]
  | .run e => ibox 0 :: e.pieces ++ [word ";", close, hard]
  | .ifSome bindings [] =>
    ifHead bindings ++ [word "\x7b\x7d", close, close, hard]
  | .ifSome bindings (s :: body) =>
    ifHead bindings ++ [word "\x7b", hard] ++ s.pieces ++ stmtPieces body ++
      [outdent, word "\x7d", close, close, hard]
  | .result e => ibox 0 :: e.pieces ++ [close, hard]
where
  ifHead (bindings : List Binding) : List Piece :=
    [ibox 0, cbox indent, word "if ", cbox (-indent), cbox 0] ++ conditionPieces bindings ++
      [close, close]

def stmtPieces : List Stmt → List Piece
  | [] => []
  | s :: ss => s.pieces ++ stmtPieces ss

end

def Attribute.pieces (a : Attribute) : List Piece :=
  [word "#[", word a.name, word "(", cbox indent, zero] ++ args a.args ++
    [zero, outdent, close, word ")", word "]", space]
where
  args : List String → List Piece
    | [] => []
    | [s] => [word s]
    | s :: ss => [word s, word ",", space] ++ args ss

def headPieces (docs : List String) (attributes : List Attribute) : List Piece :=
  docs.flatMap (docPieces outerMarks) ++ attributes.flatMap Attribute.pieces

def FieldDef.pieces (f : FieldDef) : List Piece :=
  headPieces f.docs f.attributes ++ [word "pub ", word f.name.text, word ": "] ++ f.type.pieces ++
    [word ",", hard]

def Arg.pieces (a : Arg) : List Piece := [word a.name.text, word ": "] ++ a.type.pieces

def Fn.pieces (f : Fn) : List Piece :=
  let args := (if f.onSelf then [[word "&self"]] else []) ++ f.args.map Arg.pieces
  headPieces f.docs f.attributes ++
    [cbox indent, word f.qualifier, word f.name.text, word "(", neverBreak, cbox 0, zero] ++
    commaList args ++ [outdent, close, word ")", cbox (-indent), word " -> "] ++ f.result.pieces ++
    [close, word " "] ++ block (stmtPieces f.body)

def Item.pieces : Item → List Piece
  | .innerDoc text => docPieces innerMarks text
  | .useDecl path => [word s!"use {path};", hard]
  | .modDecl name => [word s!"pub mod {name};", hard]
  | .struct docs attributes name fields =>
    headPieces docs attributes ++ [cbox indent, word s!"pub struct {name.text} "] ++
      block (fields.flatMap FieldDef.pieces)
  | .sum docs attributes name variants =>
    headPieces docs attributes ++ [cbox indent, word s!"pub enum {name} "] ++
      block (variants.flatMap fun v =>
        [word v.text, cbox indent, word "(", zero, word v.text, commaBreak, outdent, word ")", close,
          word ",", hard])
  | .impl interface self fns =>
    [cbox indent, ibox (-indent), cbox indent, word "impl", close, word " "] ++
      (match interface with
        | some t => t.pieces ++ [space, word "for "]
        | none => []) ++
      self.pieces ++ [close, word " "] ++ block (fns.flatMap Fn.pieces)
  | .trait docs name parent fns =>
    headPieces docs [] ++ [cbox indent, word s!"pub trait {name.text}: {parent} "] ++
      block (fns.flatMap Fn.pieces)
  | .fn f => f.pieces
  | .listing body => (Listing.bodyLines 0 body).flatMap fun l => [word l, hard]

/-- Items as a file. -/
def printItems (items : List Item) : String :=
  Layout.print (cbox 0 :: items.flatMap Item.pieces ++ [close])

end BotBindings.Code
