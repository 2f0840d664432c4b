import BotBindings.Binding.Registry

namespace BotBindings.Compile

def noteElement : Descriptor → Compile Unit
  | .array (.object name) => noteArray name
  | .arrayOfArray (.object name) => noteArrayOfArray name
  | _ => pure ()

def resolve (token : String) : Compile Descriptor := do
  match Descriptor.ofToken? (← registry).known.has token with
  | some d =>
    noteElement d
    return d
  | none => throw (.unresolvable token)

/-- For the field of a declaration, where objects are held indirectly. -/
def resolveField (token : String) : Compile FieldType := do
  let d ← resolve token
  return ⟨d, d.isObject⟩

end BotBindings.Compile
