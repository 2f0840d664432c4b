import BotBindings.Proofs.Document

/-!
What is wrong with a document, as a list in the order in which its types and then its methods stand.
The check compares a subtype with the parent it met last, the list with the first type that names the
subtype, and yet the check finds a fault just if the list has one, and reports the first.
-/
namespace BotBindings

/-- The subject and the reason that are reported of a fault. -/
def Fault.report? {α : Type} : Except Fault α → Option (String × String)
  | .ok _ => none
  | .error f => some (f.subject, f.reason)

theorem Fault.report?_unit_bind {α : Type} {x : Except Fault Unit} {f : Unit → Except Fault α} :
    report? (x >>= f) = (report? x).or (report? (f ())) := by
  cases x <;> rfl

theorem Fault.report?_eq_some_iff {α : Type} {x : Except Fault α} {subject reason : String} :
    report? x = some (subject, reason) ↔
      ∃ f, x = .error f ∧ f.subject = subject ∧ f.reason = reason := by
  cases x <;> simp [report?]

namespace Schema

open Fault (report? report?_unit_bind)

/-- The fields of `owner` that list no type. -/
def fieldViolations (owner : String) (fields : List Field) : List (String × String) :=
  (fields.filter (·.types.isEmpty)).map fun f =>
    (s!"{owner}.{f.name}", "lists no type alternatives")

/-- What is wrong with a subtype that `parent` lists, where `first` tells the first type that does:
it has no entry, or the first type has another name. -/
def subtypeViolation? (table : Table TypeEntry) (first : String → Option String)
    (parent s : String) : Option (String × String) :=
  if table.has s then
    match first s with
    | some p =>
      if p = parent then none
      else some (s, s!"listed as a subtype of both '{p}' and '{parent}'")
    | none => none
  else some (parent, s!"subtype '{s}' is not declared in the schema")

def TypeEntry.violations (t : TypeEntry) (table : Table TypeEntry)
    (first : String → Option String) : List (String × String) :=
  fieldViolations t.name t.fieldList ++
    t.subtypeList.filterMap (subtypeViolation? table first t.name)

def MethodEntry.violations (m : MethodEntry) : List (String × String) :=
  fieldViolations m.name m.fieldList ++
    if m.returns.isEmpty then [(m.name, "method declares no return type")] else []

namespace Document

/-- The name of the first type that lists a subtype. -/
def firstParent? (d : Document) (s : String) : Option String :=
  (d.types.values.find? (s ∈ ·.subtypeList)).map (·.name)

/-- Subject and reason of all that is wrong with a document. -/
def violations (d : Document) : List (String × String) :=
  d.types.values.flatMap (·.violations d.types d.firstParent?) ++
    d.methods.values.flatMap (·.violations)

end Document

theorem lookup_map_pair (ss : List String) (p s : String) :
    (ss.map (·, p)).lookup s = if s ∈ ss then some p else none := by
  induction ss with
  | nil => rfl
  | cons x rest ih =>
    rw [List.map_cons, List.lookup_cons, ih]
    by_cases hs : s = x
    · simp [hs]
    · simp [hs, beq_false_of_ne hs]

theorem lookup_claims_cons (t : TypeEntry) (rest : List TypeEntry) (s : String) :
    (claims (t :: rest)).lookup s =
      (if s ∈ t.subtypeList then some t.name else none).or ((claims rest).lookup s) := by
  rw [← lookup_map_pair, ← List.lookup_append]
  rfl

theorem lookup_claims (ts : List TypeEntry) (s : String) :
    (claims ts).lookup s = (ts.find? (s ∈ ·.subtypeList)).map (·.name) := by
  induction ts with
  | nil => rfl
  | cons t rest ih =>
    rw [lookup_claims_cons, ih, List.find?_cons]
    by_cases hs : s ∈ t.subtypeList
    · simp [hs]
    · simp [hs]

theorem report?_checkFields (owner : String) (fs : List Field) :
    report? (checkFields owner fs) = (fieldViolations owner fs).head? := by
  unfold checkFields fieldViolations
  rw [List.head?_map, List.head?_filter]
  cases fs.find? (·.types.isEmpty) <;> rfl

variable {table : Table TypeEntry} {claimed : List (String × String)} {first : String → Option String}

theorem subtypeViolation?_of_has_eq_false {parent s : String} (h : table.has s = false) :
    subtypeViolation? table first parent s =
      some (parent, s!"subtype '{s}' is not declared in the schema") := by
  unfold subtypeViolation?
  rw [h]
  rfl

theorem subtypeViolation?_of_has {parent p s : String} (h : table.has s = true)
    (hp : first s = some p) :
    subtypeViolation? table first parent s =
      if p = parent then none
      else some (s, s!"listed as a subtype of both '{p}' and '{parent}'") := by
  unfold subtypeViolation?
  rw [if_pos h, hp]

/-- The subtypes of one type are reported as `first` has it if `claimed` holds what it tells of the
types before. -/
theorem report?_checkSubtypes {parent : String} {subtypes : List String}
    (h : ∀ s ∈ subtypes, first s = (claimed.lookup s).or (some parent)) :
    report? (checkSubtypes table parent claimed subtypes) =
      subtypes.findSome? (subtypeViolation? table first parent) := by
  induction subtypes generalizing claimed with
  | nil => rfl
  | cons x rest ih =>
    obtain ⟨hx, hrest⟩ := List.forall_mem_cons.1 h
    rw [List.findSome?_cons]
    unfold checkSubtypes
    cases hhas : table.has x with
    | false =>
      rw [subtypeViolation?_of_has_eq_false hhas]
      rfl
    | true =>
      cases hl : claimed.lookup x with
      | some p =>
        rw [hl, Option.some_or] at hx
        rw [subtypeViolation?_of_has hhas hx]
        by_cases hp : p = parent
        · simp only [hp]
          exact ih hrest
        · simp only [hp]
          rfl
      | none =>
        rw [hl, Option.none_or] at hx
        have hcons : ∀ s ∈ rest,
            first s = (((x, parent) :: claimed).lookup s).or (some parent) := by
          intro s hs
          rw [List.lookup_cons]
          split
          · next he => rw [eq_of_beq he, hx, Option.some_or]
          · exact hrest s hs
        rw [subtypeViolation?_of_has hhas hx, if_pos rfl]
        exact ih hcons

theorem report?_checkTypes {ts : List TypeEntry}
    (h : ∀ s, first s = (claimed.lookup s).or ((claims ts).lookup s)) :
    report? (checkTypes table claimed ts) =
      (ts.flatMap (·.violations table first)).head? := by
  induction ts generalizing claimed with
  | nil => rfl
  | cons t rest ih =>
    have hsub : report? (checkSubtypes table t.name claimed t.subtypeList) =
        t.subtypeList.findSome? (subtypeViolation? table first t.name) := by
      refine report?_checkSubtypes fun s hs => ?_
      rw [h, lookup_claims_cons, if_pos hs, Option.some_or]
    rw [checkTypes, report?_unit_bind, report?_checkFields, List.flatMap_cons, TypeEntry.violations,
      List.append_assoc, List.head?_append, List.head?_append, List.head?_filterMap, ← hsub]
    congr 1
    cases hc : checkSubtypes table t.name claimed t.subtypeList with
    | error f => rfl
    | ok c =>
      -- with the subtypes of `t` the pairs hold what is told of the types up to it
      refine ih fun s => ?_
      rw [h, lookup_claims_cons, lookup_checkSubtypes hc, Option.or_assoc]

theorem report?_checkMethods (ms : List MethodEntry) :
    report? (checkMethods ms) = (ms.flatMap (·.violations)).head? := by
  induction ms with
  | nil => rfl
  | cons m rest ih =>
    rw [checkMethods, report?_unit_bind, report?_checkFields, List.flatMap_cons,
      MethodEntry.violations, List.append_assoc, List.head?_append, List.head?_append, ← ih]
    congr 1
    cases m.returns with
    | nil => rfl
    | cons token tokens => rfl

theorem report?_check (d : Document) : report? d.check = d.violations.head? := by
  have hfirst (s : String) : d.firstParent? s =
      (([] : List (String × String)).lookup s).or ((claims d.types.values).lookup s) :=
    (lookup_claims d.types.values s).symm
  rw [Document.check, report?_unit_bind, report?_checkTypes hfirst, report?_checkMethods,
    Document.violations, List.head?_append]

/-- The check passes the documents that are sound, and reports the first violation of the others. -/
theorem Document.check_firstViolation (d : Document) :
    (d.check = .ok () ↔ d.Sound) ∧
    ∀ subject reason,
      (∃ f, d.check = .error f ∧ f.subject = subject ∧ f.reason = reason) ↔
        d.violations.head? = some (subject, reason) :=
  ⟨check_eq_ok_iff, fun subject reason => by rw [← Fault.report?_eq_some_iff, report?_check]⟩

/-- Two types of one name may list a subtype, and the third type that does has another name. -/
example : Document.violations
    { types := ⟨[("Media", { name := "Media", subtypes := some ["Photo"] }),
        ("Album", { name := "Media", subtypes := some ["Photo"] }),
        ("Clip", { name := "Clip", subtypes := some ["Photo"] }),
        ("Photo", { name := "Photo" })], by decide⟩ } =
      [("Photo", "listed as a subtype of both 'Media' and 'Clip'")] := by decide

end Schema

end BotBindings
