namespace BotBindings.Code

/-- Code that is the same in every output, as lines in nested blocks. -/
inductive Listing where
  | line (text : String)
  | nest (body : List Listing)
  /-- A block behind its head, with what follows the brace that ends it. -/
  | closed (head tail : String) (body : List Listing)
  /-- A block with an alternative. -/
  | choice (head tail : String) (body other : List Listing)
  deriving Repr, Inhabited

namespace Listing

instance : Coe String Listing := ⟨line⟩

def block (head : String) (body : List Listing) : Listing := closed head "" body

def indented (level : Nat) (text : String) : String :=
  String.ofList (List.replicate (4 * level) ' ') ++ text

mutual

def lines (level : Nat) : Listing → List String
  | line text => [indented level text]
  | nest body => bodyLines (level + 1) body
  | closed head tail body =>
    indented level (head ++ " \x7b") :: bodyLines (level + 1) body ++ [indented level ("\x7d" ++ tail)]
  | choice head tail body other =>
    indented level (head ++ " \x7b") :: bodyLines (level + 1) body ++
      indented level "\x7d else \x7b" :: bodyLines (level + 1) other ++
      [indented level ("\x7d" ++ tail)]

def bodyLines (level : Nat) : List Listing → List String
  | [] => []
  | l :: ls => l.lines level ++ bodyLines level ls

end

end Listing

end BotBindings.Code
