import BotBindings.Binding.Document
import BotBindings.Proofs.Check
import BotBindings.Proofs.Declaration
import Mathlib.Data.List.Nodup

namespace BotBindings

namespace Schema

/-- Each subtype beside the name of a type that lists it. -/
def claims (ts : List TypeEntry) : List (String × String) :=
  ts.flatMap fun t => t.subtypeList.map (·, t.name)

theorem mem_claims {ts : List TypeEntry} {s p : String} :
    (s, p) ∈ claims ts ↔ ∃ t ∈ ts, s ∈ t.subtypeList ∧ t.name = p := by
  simp only [claims, List.mem_flatMap, List.mem_map, Prod.mk.injEq]
  grind

/-- Where pairs agree on what they pair a name with, the first pair is as good as any. -/
theorem lookup_eq_some_iff_mem {α : Type} {cs : List (String × α)}
    (h : ∀ c ∈ cs, ∀ c' ∈ cs, c.1 = c'.1 → c.2 = c'.2) {s : String} {p : α} :
    cs.lookup s = some p ↔ (s, p) ∈ cs := by
  constructor
  · intro hp
    obtain ⟨l, l', hl, -⟩ := List.lookup_eq_some_iff.1 hp
    simp [hl]
  · intro hm
    have hs : (cs.lookup s).isSome := List.lookup_isSome_iff.2 ⟨(s, p), hm, by simp⟩
    obtain ⟨q, hq⟩ := Option.isSome_iff_exists.1 hs
    obtain ⟨l, l', hl, -⟩ := List.lookup_eq_some_iff.1 hq
    have hpq : q = p := h (s, q) (by simp [hl]) (s, p) hm rfl
    rw [hq, hpq]

theorem lookup_eq_some_iff_of_nodup {α : Type} {es : List (String × α)}
    (hn : (es.map Prod.fst).Nodup) {key : String} {a : α} :
    es.lookup key = some a ↔ (key, a) ∈ es :=
  lookup_eq_some_iff_mem fun _ he _ he' hk =>
    congrArg Prod.snd (List.inj_on_of_nodup_map hn he he' hk)

namespace Document

/-- The type that lists a subtype. -/
def supertype? (d : Document) (s : String) : Option String := (claims d.types.values).lookup s

theorem Sound.supertype?_eq_some_iff {d : Document} (h : d.Sound) {s p : String} :
    d.supertype? s = some p ↔ ∃ t ∈ d.types.values, s ∈ t.subtypeList ∧ t.name = p := by
  rw [← mem_claims]
  apply lookup_eq_some_iff_mem
  rintro ⟨s, p⟩ hp ⟨s', p'⟩ hp' he
  obtain ⟨t, ht, hs, rfl⟩ := mem_claims.1 hp
  obtain ⟨u, hu, hs', rfl⟩ := mem_claims.1 hp'
  exact h.parents t ht u hu s hs ((show s = s' from he) ▸ hs')

def metadata (d : Document) : Metadata := ⟨d.version, d.releaseDate, d.changelog⟩

/-- The tokens of a document that are resolved, in their order. -/
def visited (d : Document) : List String :=
  (d.types.values.flatMap fun t => (t.sources d.types).flatMap (·.types)) ++
    d.methods.values.flatMap (·.tokens)

def bindings (d : Document) : Bindings where
  metadata := d.metadata
  types := d.types.values.map fun t => t.binding d.types (d.supertype? t.name)
  methods := d.methods.values.map (·.binding)
  arrayHelpers := (NameSet.ofList (Descriptor.arrayObjects d.visited)).names
  arrayOfArrayHelpers := (NameSet.ofList (Descriptor.arrayOfArrayObjects d.visited)).names
  replyMarkupVariants := markupVariants.filter d.types.has

/-- The first visited token that no key of the types answers. -/
def firstUnresolvable? (d : Document) : Option String :=
  d.visited.find? fun t => (Descriptor.ofToken? d.types.has t).isNone

end Document

end Schema

open Schema

theorem Registry.has_ofDocument (d : Document) : (ofDocument d).known.has = d.types.has := by
  funext key
  rw [Bool.eq_iff_iff, NameSet.has_iff]
  change key ∈ (NameSet.ofList d.types.keys).names ↔ _
  rw [NameSet.mem_ofList, Table.has, List.contains_iff_mem]

theorem Registry.firstUnknown?_ofDocument (d : Document) :
    (ofDocument d).firstUnknown? d.visited = d.firstUnresolvable? := by
  unfold Registry.firstUnknown? Document.firstUnresolvable?
  congr 1
  funext t
  rw [← has_ofDocument, ofToken?_known]
  cases (ofDocument d).knows t <;> rfl

namespace Compile.Scans

variable {r : Registry}

theorem noteSubtypes {parent : String} {subtypes : List String}
    (h : ∀ s ∈ subtypes, Free r.parents parent s) :
    Scans (noteSubtypes parent subtypes) r [] () (r.claim (subtypes.map (·, parent))) := by
  induction subtypes generalizing r with
  | nil => exact pure
  | cons s rest ih =>
    rw [List.map_cons, Registry.claim_cons]
    refine (noteParent (h s List.mem_cons_self)).silent_bind (ih fun s' hs => ?_)
    exact Registry.free_claim (h s' (List.mem_cons_of_mem s hs)) (by simp)

theorem noteParents {ts : List TypeEntry}
    (hf : ∀ t ∈ ts, ∀ s ∈ t.subtypeList, Free r.parents t.name s)
    (hn : ∀ t ∈ ts, ∀ u ∈ ts, ∀ s ∈ t.subtypeList, s ∈ u.subtypeList → t.name = u.name) :
    Scans (noteParents ts) r [] () (r.claim (claims ts)) := by
  induction ts generalizing r with
  | nil => exact pure
  | cons t rest ih =>
    have hc : claims (t :: rest) = t.subtypeList.map (·, t.name) ++ claims rest := List.flatMap_cons
    rw [hc, ← Registry.claim_claim]
    refine (noteSubtypes (hf t List.mem_cons_self)).silent_bind (ih (fun u hu s hs => ?_) ?_)
    · -- a subtype listed before has a parent of the same name
      apply Registry.free_claim (hf u (List.mem_cons_of_mem t hu) s hs)
      intro c hc hcs
      obtain ⟨s', hs', rfl⟩ := List.mem_map.1 hc
      have hst : s ∈ t.subtypeList := (show s' = s from hcs) ▸ hs'
      exact hn t List.mem_cons_self u (List.mem_cons_of_mem t hu) s hst hs
    · exact fun u hu v hv => hn u (List.mem_cons_of_mem t hu) v (List.mem_cons_of_mem t hv)

theorem declareTypes {d : Document} (h : d.Sound) (hr : r.parent? = d.supertype?) :
    Scans (declareTypes d.types d.types.values) r
      (d.types.values.flatMap fun t => (t.sources d.types).flatMap (·.types))
      (d.types.values.map fun t => t.binding d.types (d.supertype? t.name))
      (r.visit (d.types.values.flatMap fun t => (t.sources d.types).flatMap (·.types))) := by
  apply each (f := fun t => Compile.declareType t d.types) rfl fun _ _ => rfl
  intro t ht s hs
  have hp : s.parent? = d.supertype? := by
    rw [← hr]
    funext name
    unfold Registry.parent?
    rw [hs]
  have hplaced : Placed t d.types s := by
    intro name hname
    rw [hp]
    exact ⟨Table.has_iff.1 (h.subtypes t ht name hname),
      h.supertype?_eq_some_iff.2 ⟨t, ht, hname, rfl⟩⟩
  rw [← hp]
  exact declareType hplaced

theorem bindMethods {ms : List MethodEntry} (h : ∀ m ∈ ms, m.Complete) :
    Scans (bindMethods ms) r (ms.flatMap (·.tokens)) (ms.map (·.binding))
      (r.visit (ms.flatMap (·.tokens))) :=
  each (f := Compile.bindMethod) rfl (fun _ _ => rfl) fun m hm _ _ => bindMethod (h m hm)

theorem bindChecked {d : Document} (h : d.Sound) :
    Scans (bindChecked d) (.ofDocument d) d.visited d.bindings
      (((Registry.ofDocument d).claim (claims d.types.values)).visit d.visited) := by
  have hm : Scans (modify fun s => { s with registry := .ofDocument d }) (.ofDocument d) [] ()
      (.ofDocument d) := of_exec rfl fun log => ⟨log, rfl⟩
  have hp := noteParents (r := .ofDocument d) (fun t _ s _ p hp => by cases hp) h.parents
  have hr : ((Registry.ofDocument d).claim (claims d.types.values)).parent? = d.supertype? :=
    funext fun s => Registry.parent?_claim _ _ s
  rw [Document.visited, Registry.visit_append]
  refine hm.silent_bind (hp.silent_bind ((declareTypes h hr).bind ?_))
  refine (bindMethods h.methods).bind_silent (registry.silent_bind (pure.congr rfl ?_ rfl))
  rw [← Registry.visit_append]
  rfl

end Compile.Scans

theorem Compile.exec_bindChecked {d : Document} (h : d.Sound) (s : Session) :
    (exec (bindChecked d) s).1 =
      match d.firstUnresolvable? with
      | some t => .error (.unresolvable t)
      | none => .ok d.bindings := by
  have hs := (Scans.bindChecked h).fst_exec s.log
  rw [Registry.firstUnknown?_ofDocument] at hs
  -- the bindings of a document start from a registry of their own
  exact hs

theorem Bindings.ofDocument_of_fault {d : Document} {f : Fault} (h : d.check = .error f) :
    (ofDocument (some d)).1 = .error (.violation f) := by
  have hc : Compile.checked d = Compile.fault f := by
    unfold Compile.checked
    rw [h]
  change (Compile.exec (Compile.bind (some d)) {}).1 = _
  change (Compile.exec (Compile.checked d >>= _) {}).1 = _
  rw [hc]
  rfl

theorem Bindings.ofDocument_of_sound {d : Document} (h : d.Sound) :
    (ofDocument (some d)).1 =
      match d.firstUnresolvable? with
      | some t => .error (.unresolvable t)
      | none => .ok d.bindings := by
  have hc : Compile.checked d = Compile.tell (.validated d.types.size d.methods.size) := by
    unfold Compile.checked
    rw [check_eq_ok_iff.2 h]
  have hb := Compile.exec_bindChecked h ⟨{}, [.validated d.types.size d.methods.size]⟩
  change (Compile.exec (Compile.checked d >>= _) {}).1 = _
  rw [hc]
  -- only events are told before and behind the bindings
  change (Compile.exec (Compile.bindChecked d >>= _) ⟨{}, [_]⟩).1 = _
  rw [Compile.exec_bind, ← hb]
  rcases Compile.exec (Compile.bindChecked d) _ with ⟨result, s⟩
  cases result <;> rfl

theorem Bindings.ofDocument_eq_ok_iff {d : Document} {b : Bindings} :
    (ofDocument (some d)).1 = .ok b ↔
      d.Sound ∧ d.firstUnresolvable? = none ∧ b = d.bindings := by
  constructor
  · intro hb
    cases hc : d.check with
    | error f =>
      rw [ofDocument_of_fault hc] at hb
      cases hb
    | ok =>
      have h := check_eq_ok_iff.1 hc
      rw [ofDocument_of_sound h] at hb
      cases ht : d.firstUnresolvable? with
      | some t =>
        rw [ht] at hb
        cases hb
      | none =>
        rw [ht] at hb
        exact ⟨h, rfl, (Except.ok.inj hb).symm⟩
  · rintro ⟨h, ht, rfl⟩
    rw [ofDocument_of_sound h, ht]

theorem Bindings.ofDocument_of_check {d : Document} (hc : d.check = .ok ())
    (hd : d.firstUnresolvable? = none) : (ofDocument (some d)).1 = .ok d.bindings :=
  ofDocument_eq_ok_iff.2 ⟨check_eq_ok_iff.1 hc, hd, rfl⟩

theorem Schema.Document.firstUnresolvable?_eq_none_iff {d : Document} :
    d.firstUnresolvable? = none ↔ ∀ t ∈ d.visited, Descriptor.ofToken? d.types.has t ≠ none := by
  simp [Document.firstUnresolvable?]

theorem Schema.Document.isSome_firstUnresolvable?_iff {d : Document} :
    d.firstUnresolvable?.isSome ↔ ∃ t ∈ d.visited, Descriptor.ofToken? d.types.has t = none := by
  simp [Document.firstUnresolvable?]

/-- A faulty document fails with the fault of its check, and a sound one at most at a token. -/
theorem Bindings.ofDocument_outcome (d : Document) :
    (∀ f, d.check = .error f → (ofDocument (some d)).1 = .error (.violation f)) ∧
    (d.check = .ok () →
      (∀ f, (ofDocument (some d)).1 ≠ .error (.violation f)) ∧
      ((∃ e, (ofDocument (some d)).1 = .error e) ↔
        ∃ t ∈ d.visited, Descriptor.ofToken? d.types.has t = none) ∧
      ∀ t, (ofDocument (some d)).1 = .error (.unresolvable t) ↔ d.firstUnresolvable? = some t) := by
  refine ⟨fun f => ofDocument_of_fault, fun h => ?_⟩
  rw [ofDocument_of_sound (check_eq_ok_iff.1 h), ← Document.isSome_firstUnresolvable?_iff]
  cases d.firstUnresolvable? <;> simp

/-- A union that meets an unknown name before a method does. -/
def unknownNames : Document where
  types := ⟨[("Shape", { name := "Shape", subtypes := some ["Square"] }),
    ("Square", { name := "Square", fields := some [⟨"side", ["Integer", "Length"], true, ""⟩] })],
    by decide⟩
  methods := ⟨[("draw", { name := "draw", returns := ["Canvas"] })], by decide⟩

theorem Bindings.ofDocument_outcome_unknownNames :
    (ofDocument (some unknownNames)).1 = .error (.unresolvable "Length") :=
  (((ofDocument_outcome unknownNames).2 rfl).2.2 "Length").2 (by decide)

end BotBindings
