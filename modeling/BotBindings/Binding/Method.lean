import BotBindings.Binding.Token
import BotBindings.Text.Words

namespace BotBindings

def optionsName (method : String) : String := upperCamel method ++ "Opts"

namespace Compile

open Schema (Field MethodEntry)

def resolveAll : List String → Compile (List Descriptor)
  | [] => return []
  | token :: rest => do
    let d ← resolve token
    return d :: (← resolveAll rest)

/-- How a parameter is handed over and sent, from its tokens and the descriptor of the first. -/
def passing (tokens : List String) (d : Descriptor) : Passing × Strategy :=
  if 1 < tokens.length && isMarkupSet tokens then (.replyMarkup, .json)
  else
    let strategy := Strategy.ofDescriptor d
    (if strategy = .fileUpload then .fileUpload else .plain, strategy)

/-- All tokens of a parameter are resolved; the first one counts. -/
def classify (f : Field) : Compile Parameter := do
  match ← resolveAll f.types with
  | [] => fault (.parameterWithoutTypes f.name)
  | d :: _ =>
    let (passing, strategy) := passing f.types d
    return {
      wireName := f.name
      bindingName := if f.required then lowerCamel f.name else upperCamel f.name
      descriptor := d
      required := f.required
      strategy, passing
      description := f.description }

def classifyAll : List Field → Compile (List Parameter)
  | [] => return []
  | f :: rest => do
    let p ← classify f
    return p :: (← classifyAll rest)

/-- A list of registered objects is decoded by the helper of its element. -/
def decodeOf (r : Registry) : Descriptor → Decode
  | .array (.object name) =>
    if r.arrays.has name then .arrayHelper name else .generic (.array (.object name))
  | .arrayOfArray (.object name) =>
    if r.arraysOfArrays.has name then .arrayOfArrayHelper name
    else .generic (.arrayOfArray (.object name))
  | d => .generic d

def bindReturn (m : MethodEntry) : Compile Return := do
  match m.primaryReturn? with
  | none => fault (.noReturn m.name)
  | some token =>
    let d ← resolve token
    return ⟨d, .ofDescriptor d, decodeOf (← registry) d⟩

/-- Required parameters stand in the signature; the others share one container of options. -/
def assembleMethod (m : MethodEntry) (params : List Parameter) (returns : Return) : MethodBinding :=
  let required := params.filter (·.required)
  let optional := params.filter (!·.required)
  let options : Option Options :=
    if optional.isEmpty then none else some ⟨optionsName m.name, optional⟩
  { name := m.name
    description := m.description
    signature := ⟨required, options.map (·.name)⟩
    options
    requiredStatements := required.map .ofParameter
    optionalStatements := options.map fun o => o.fields.map .ofParameter
    returns }

def bindMethod (m : MethodEntry) : Compile MethodBinding := do
  let params ← classifyAll m.fieldList
  let returns ← bindReturn m
  let binding := assembleMethod m params returns
  tell (.resolvedMethod m.name binding.signature.params.length
    ((binding.options.map (·.fields.length)).getD 0))
  return binding

end Compile

end BotBindings
