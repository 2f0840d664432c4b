import BotBindings.Schema.Table

namespace BotBindings.Schema

/-- A field of a type or a parameter of a method. Each of `types` is a type it may have. -/
structure Field where
  name : String
  types : List String
  required : Bool := false
  description : String := ""
  deriving DecidableEq, Repr

/-- A type of the interface. -/
structure TypeEntry where
  name : String
  description : List String := []
  href : Option String := none
  subtypes : Option (List String) := none
  subtypeOf : Option (List String) := none
  fields : Option (List Field) := none
  deriving DecidableEq, Repr

/-- A method of the interface. Of `returns` the first one counts. -/
structure MethodEntry where
  name : String
  description : List String := []
  href : Option String := none
  fields : Option (List Field) := none
  returns : List String
  deriving DecidableEq, Repr

structure Document where
  version : Option String := none
  releaseDate : Option String := none
  changelog : Option String := none
  types : Table TypeEntry := {}
  methods : Table MethodEntry := {}

namespace TypeEntry

def subtypeList (t : TypeEntry) : List String := t.subtypes.getD []

def fieldList (t : TypeEntry) : List Field := t.fields.getD []

/-- A type that stands for any of its subtypes. -/
def isUnion (t : TypeEntry) : Bool := !t.subtypeList.isEmpty

/-- A type without subtypes and without a list of fields. -/
def isMarker (t : TypeEntry) : Bool := !t.isUnion && t.fields.isNone

end TypeEntry

namespace MethodEntry

def fieldList (m : MethodEntry) : List Field := m.fields.getD []

def primaryReturn? (m : MethodEntry) : Option String := m.returns.head?

end MethodEntry

def Document.isEmpty (d : Document) : Bool :=
  d.types.entries.isEmpty && d.methods.entries.isEmpty

end BotBindings.Schema
