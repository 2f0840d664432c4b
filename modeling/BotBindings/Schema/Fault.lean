namespace BotBindings

/-- A way in which a schema breaks what bindings rely on. -/
inductive Fault where
  | fieldWithoutTypes (owner field : String)
  | parameterWithoutTypes (field : String)
  | unknownSubtype (parent subtype : String)
  | twoParents (subtype first second : String)
  | noReturn (method : String)
  deriving DecidableEq, Repr

namespace Fault

/-- Who is at fault. -/
def subject : Fault → String
  | fieldWithoutTypes owner field => s!"{owner}.{field}"
  | parameterWithoutTypes field => field
  | unknownSubtype parent _ => parent
  | twoParents subtype .. => subtype
  | noReturn method => method

def reason : Fault → String
  | fieldWithoutTypes .. => "lists no type alternatives"
  | parameterWithoutTypes _ => "parameter lists no type alternatives"
  | unknownSubtype _ subtype => s!"subtype '{subtype}' is not declared in the schema"
  | twoParents _ first second => s!"listed as a subtype of both '{first}' and '{second}'"
  | noReturn _ => "method declares no return type"

end Fault

inductive BindError where
  | unresolvable (token : String)
  | violation (fault : Fault)
  deriving DecidableEq, Repr

def BindError.message : BindError → String
  | unresolvable token => s!"Unresolvable type token '{token}'"
  | violation fault => s!"Schema assumption violated by '{fault.subject}': {fault.reason}"

end BotBindings
