import BotBindings.Json.Reader

/-!
Records: JSON objects with known members, which may also be written as the list of the values of
these members. While it is read, a record is a draft in which some members are given.
-/
namespace BotBindings.Json

structure Member (δ : Type) where
  key : String
  given : δ → Bool
  read : Reader (δ → δ)

/-- The members in their order, the empty draft, and the record a draft makes, or the key of the
first member it lacks. -/
structure Shape (δ α : Type) where
  title : String
  members : List (Member δ)
  blank : δ
  finish : δ → Except String α

variable {δ α β : Type}

/-- A member whose value goes into an optional part of the draft. -/
def Member.of (key : String) (get : δ → Option β) (put : β → δ → δ) (value : Reader β) : Member δ where
  key
  given d := (get d).isSome
  read n cs := (value n cs).map fun (b, rest) => (put b, rest)

/-- A value that must have been given. -/
def demand (key : String) : Option β → Except String β
  | some b => .ok b
  | none => .error key

/-- A repeated key is refused behind the white space that follows it, and behind the end of the
object if that comes next. -/
def refuseRepeat (key : String) (cs : List Char) : Failure :=
  match skipSpace cs with
  | '\x7d' :: rest => .before (.repeatedMember key) rest
  | rest => .before (.repeatedMember key) rest

/-- The members of a record written as an object. Unknown members may hold any value. -/
def readMembers (shape : Shape δ α) (bound : Nat) :
    Nat → Bool → δ → List Char → Except Failure (α × List Char)
  | 0, _, _, cs => .error (.before .noValue cs)
  | n + 1, behind, draft, cs => do
    match ← nextKey behind cs with
    | (false, rest) =>
      match shape.finish draft with
      | .ok a => .ok (a, rest.drop 1)
      | .error key => .error (.before (.missingMember key) (rest.drop 1))
    | (true, rest) =>
      let (key, rest) ← stringBody [] 0 rest
      match shape.members.find? fun m => m.key = String.ofList key with
      | none =>
        let rest ← readColon rest
        let rest ← passValue bound rest
        readMembers shape bound n true draft rest
      | some m =>
        if m.given draft then .error (refuseRepeat m.key rest)
        else
          let rest ← readColon rest
          let (put, rest) ← m.read bound rest
          readMembers shape bound n true (put draft) rest

/-- The end of a record written as a list. -/
def readListEnd (a : α) (cs : List Char) : Except Failure (α × List Char) :=
  match skipSpace cs with
  | [] => .error (.before .endInList [])
  | c :: rest =>
    if c = ']' then .ok (a, rest)
    else if c = ',' then
      match skipSpace rest with
      | ']' :: rest => .error (.onto .trailingComma (']' :: rest))
      | rest => .error (.onto .trailingCharacters rest)
    else .error (.onto .trailingCharacters (c :: rest))

/-- The members of a record written as a list: those in front, in their order. -/
def readValues (shape : Shape δ α) (bound : Nat) :
    List (Member δ) → Bool → δ → List Char → Except Failure (α × List Char)
  | [], _, draft, cs =>
    match shape.finish draft with
    | .ok a => readListEnd a cs
    | .error key => .error (.before (.missingMember key) cs)
  | m :: ms, behind, draft, cs => do
    match ← nextItem behind cs with
    | (true, rest) =>
      let (put, rest) ← m.read bound rest
      readValues shape bound ms true (put draft) rest
    | (false, rest) =>
      match shape.finish draft with
      | .ok a => .ok (a, rest.drop 1)
      | .error key =>
        let length := shape.members.findIdx fun m => m.key = key
        .error (.before (.tooShort length shape.title shape.members.length) (rest.drop 1))

def readRecord (shape : Shape δ α) : Reader α := fun n cs =>
  match skipSpace cs with
  | '\x7b' :: rest => readMembers shape n n false shape.blank rest
  | '[' :: rest => readValues shape n shape.members false shape.blank rest
  | rest => .error (mismatch (.record shape.title) rest)

end BotBindings.Json
