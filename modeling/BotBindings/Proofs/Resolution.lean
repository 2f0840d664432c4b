import BotBindings.Proofs.Scan

namespace BotBindings

namespace Registry

/-- The objects that are noted depend on the set of the tokens alone. -/
theorem visit_congr (r : Registry) {ts us : List String} (h : ∀ t, t ∈ ts ↔ t ∈ us) :
    r.visit ts = r.visit us := by
  have harrays : (r.visit ts).arrays = (r.visit us).arrays := by
    apply NameSet.eq_of_mem_iff
    intro x
    rw [← NameSet.has_iff, ← NameSet.has_iff, has_arrays_visit, has_arrays_visit]
    simp only [h]
  have harraysOfArrays : (r.visit ts).arraysOfArrays = (r.visit us).arraysOfArrays := by
    apply NameSet.eq_of_mem_iff
    intro x
    rw [← NameSet.has_iff, ← NameSet.has_iff, has_arraysOfArrays_visit, has_arraysOfArrays_visit]
    simp only [h]
  change { r with arrays := (r.visit ts).arrays, arraysOfArrays := (r.visit ts).arraysOfArrays } = _
  rw [harrays, harraysOfArrays]
  rfl

end Registry

namespace Compile

variable {s : Session} {token : String}

/-- The two places where a token is resolved. -/
inductive Place where
  | declaration
  | signature

/-- Resolves a token for its place. -/
def resolveAt : Place → String → Compile Descriptor
  | .declaration, token => do return (← resolveField token).descriptor
  | .signature, token => resolve token

/-- Resolves tokens one after the other, each for its place, and goes on behind one that fails. -/
def resolveEach (s : Session) (requests : List (Place × String)) : Session :=
  requests.foldl (fun s q => (exec (resolveAt q.1 q.2) s).2) s

theorem exec_resolve_of_unknown (h : s.registry.knows token = false) :
    exec (resolve token) s = (.error (.unresolvable token), s) := by
  have hn : Descriptor.ofToken? s.registry.known.has token = none := by
    rw [Registry.ofToken?_known, h]
    rfl
  have hr : exec registry s = (.ok s.registry, s) := rfl
  rw [resolve, exec_bind, hr]
  dsimp only
  rw [hn]
  rfl

theorem exec_resolve_of_known (h : s.registry.knows token = true) :
    ∃ log, exec (resolve token) s =
      (.ok (Descriptor.ofToken token), ⟨s.registry.visit [token], log⟩) := by
  have hnone : s.registry.firstUnknown? [token] = none := by simp [Registry.firstUnknown?, h]
  have hscan := (Scans.resolve (r := s.registry) token).2 s.log
  rwa [hnone] at hscan

theorem exec_resolve_of_error {e : BindError} (h : (exec (resolve token) s).1 = .error e) :
    e = .unresolvable token ∧ (exec (resolve token) s).2 = s := by
  cases hk : s.registry.knows token with
  | true =>
    obtain ⟨log, hl⟩ := exec_resolve_of_known hk
    rw [hl] at h
    cases h
  | false =>
    rw [exec_resolve_of_unknown hk] at h ⊢
    cases h
    exact ⟨rfl, rfl⟩

theorem exec_resolve_of_ok {d : Descriptor} (h : (exec (resolve token) s).1 = .ok d) :
    d = Descriptor.ofToken token ∧
      (exec (resolve token) s).2.registry = s.registry.visit [token] := by
  cases hk : s.registry.knows token with
  | true =>
    obtain ⟨log, hl⟩ := exec_resolve_of_known hk
    rw [hl] at h ⊢
    cases h
    exact ⟨rfl, rfl⟩
  | false =>
    rw [exec_resolve_of_unknown hk] at h
    cases h

/-- What has been noted is not noted again. -/
theorem exec_noteElement_of_noted {d : Descriptor}
    (harrays : ∀ x, d = .array (.object x) → s.registry.arrays.has x = true)
    (harraysOfArrays : ∀ x, d = .arrayOfArray (.object x) →
      s.registry.arraysOfArrays.has x = true) : exec (noteElement d) s = (.ok (), s) := by
  have hr : exec registry s = (.ok s.registry, s) := rfl
  unfold noteElement
  split
  · rw [noteArray, exec_bind, hr]
    dsimp only
    rw [harrays _ rfl]
    rfl
  · rw [noteArrayOfArray, exec_bind, hr]
    dsimp only
    rw [harraysOfArrays _ rfl]
    rfl
  · rfl

/-- A token whose object has been noted leaves not even an event. -/
theorem exec_resolve_of_noted (h : s.registry.knows token = true)
    (hv : s.registry.visit [token] = s.registry) :
    exec (resolve token) s = (.ok (Descriptor.ofToken token), s) := by
  have hd : Descriptor.ofToken? s.registry.known.has token = some (Descriptor.ofToken token) := by
    rw [Registry.ofToken?_known, h]
    rfl
  have harrays (x : String) (hx : Descriptor.ofToken token = .array (.object x)) :
      s.registry.arrays.has x = true := by
    rw [← hv, Registry.has_arrays_visit]
    exact .inr ⟨token, List.mem_singleton_self token, hx⟩
  have harraysOfArrays (x : String) (hx : Descriptor.ofToken token = .arrayOfArray (.object x)) :
      s.registry.arraysOfArrays.has x = true := by
    rw [← hv, Registry.has_arraysOfArrays_visit]
    exact .inr ⟨token, List.mem_singleton_self token, hx⟩
  have hr : exec registry s = (.ok s.registry, s) := rfl
  rw [resolve, exec_bind, hr]
  dsimp only
  rw [hd]
  dsimp only
  rw [exec_bind, exec_noteElement_of_noted harrays harraysOfArrays]
  rfl

theorem exec_resolveField (token : String) (s : Session) :
    exec (resolveField token) s =
      ((exec (resolve token) s).1.map fun d => ⟨d, d.isObject⟩, (exec (resolve token) s).2) := by
  rw [resolveField, exec_bind]
  cases exec (resolve token) s with
  | mk x t => cases x <;> rfl

/-- It does not matter for which place a token is resolved. -/
theorem exec_resolveAt (p : Place) (token : String) (s : Session) :
    exec (resolveAt p token) s = exec (resolve token) s := by
  cases p with
  | signature => rfl
  | declaration =>
    rw [resolveAt, exec_bind, exec_resolveField]
    cases exec (resolve token) s with
    | mk x t => cases x <;> rfl

theorem registry_resolveAt (p : Place) (token : String) (s : Session) :
    (exec (resolveAt p token) s).2.registry =
      s.registry.visit ([token].filter s.registry.knows) := by
  rw [exec_resolveAt]
  cases h : s.registry.knows token with
  | true =>
    obtain ⟨log, hl⟩ := exec_resolve_of_known h
    rw [hl, List.filter_cons_of_pos h]
    rfl
  | false =>
    rw [exec_resolve_of_unknown h, List.filter_cons_of_neg (by rw [h]; exact Bool.false_ne_true)]
    rfl

/-- A run notes the objects of those of its tokens that stand for anything. -/
theorem registry_resolveEach (s : Session) (requests : List (Place × String)) :
    (resolveEach s requests).registry =
      s.registry.visit ((requests.map Prod.snd).filter s.registry.knows) := by
  induction requests generalizing s with
  | nil => rfl
  | cons q rest ih =>
    have hstep : (exec (resolveAt q.1 q.2) s).2.registry =
        s.registry.visit ([q.2].filter s.registry.knows) := registry_resolveAt q.1 q.2 s
    have hknows : (exec (resolveAt q.1 q.2) s).2.registry.knows = s.registry.knows := by
      rw [hstep]
      rfl
    change (resolveEach (exec (resolveAt q.1 q.2) s).2 rest).registry = _
    rw [ih, hknows, hstep, ← Registry.visit_append, ← List.filter_append]
    rfl

/-- A token of the run has nothing to add behind it. -/
theorem visit_resolveEach {requests : List (Place × String)}
    (h : token ∈ requests.map Prod.snd) (hk : s.registry.knows token = true) :
    (resolveEach s requests).registry.visit [token] = (resolveEach s requests).registry := by
  rw [registry_resolveEach, ← Registry.visit_append]
  apply Registry.visit_congr
  intro t
  rw [List.mem_append, List.mem_singleton, or_iff_left_iff_imp]
  rintro rfl
  exact List.mem_filter.2 ⟨h, hk⟩

/-- A token gives the same in front of a run that holds it, or in the middle of it, as behind the
run, where it changes nothing. -/
theorem exec_resolve_behind {requests : List (Place × String)} (before : List (Place × String))
    (h : token ∈ requests.map Prod.snd) :
    exec (resolve token) (resolveEach s requests) =
      ((exec (resolve token) (resolveEach s before)).1, resolveEach s requests) := by
  have hknows (qs : List (Place × String)) :
      (resolveEach s qs).registry.knows token = s.registry.knows token := by
    rw [registry_resolveEach]
    rfl
  cases hk : s.registry.knows token with
  | true =>
    obtain ⟨log, hl⟩ := exec_resolve_of_known ((hknows before).trans hk)
    rw [hl, exec_resolve_of_noted ((hknows requests).trans hk) (visit_resolveEach h hk)]
  | false =>
    rw [exec_resolve_of_unknown ((hknows before).trans hk),
      exec_resolve_of_unknown ((hknows requests).trans hk)]

/-- A token resolved for a declaration or for a signature gives the same descriptor or the same
error and leaves the same session. An error leaves everything as it was, and a success leaves the
known names and the parents, and adds to the two registries the object just behind one or two of the
words `Array of`. So after a run of tokens, those included that fail, the registry depends on the set
of its tokens alone, and any of them gives the same again and changes nothing more. -/
theorem resolve_effect (s : Session) :
    (∀ token, exec (resolveField token) s =
      ((exec (resolve token) s).1.map fun d => ⟨d, d.isObject⟩, (exec (resolve token) s).2)) ∧
    (∀ token e, (exec (resolve token) s).1 = .error e →
      e = .unresolvable token ∧ (exec (resolve token) s).2 = s) ∧
    (∀ token d, (exec (resolve token) s).1 = .ok d →
      let r := (exec (resolve token) s).2.registry
      r.known = s.registry.known ∧ r.parents = s.registry.parents ∧
      (∀ x, r.arrays.has x = true ↔ s.registry.arrays.has x = true ∨ d = .array (.object x)) ∧
      (∀ x, r.arraysOfArrays.has x = true ↔
        s.registry.arraysOfArrays.has x = true ∨ d = .arrayOfArray (.object x)) ∧
      (∀ x, d = .array (.object x) ↔ x ∉ Scalar.tokens ∧ token = "Array of " ++ x ∧
        ¬ "Array of Array of ".toList <+: token.toList) ∧
      ∀ x, d = .arrayOfArray (.object x) ↔
        x ∉ Scalar.tokens ∧ token = "Array of Array of " ++ x) ∧
    (∀ requests requests' : List (Place × String),
      (∀ token, token ∈ requests.map Prod.snd ↔ token ∈ requests'.map Prod.snd) →
      (resolveEach s requests).registry = (resolveEach s requests').registry) ∧
    ∀ (before behind : List (Place × String)) (p p' : Place) (token : String),
      let after := resolveEach s (before ++ (p, token) :: behind)
      exec (resolveAt p' token) after =
        ((exec (resolveAt p token) (resolveEach s before)).1, after) := by
  refine ⟨fun token => exec_resolveField token s, fun token e => exec_resolve_of_error,
    fun token d hd => ?_, fun requests requests' h => ?_, fun before behind p p' token => ?_⟩
  · obtain ⟨rfl, hr⟩ := exec_resolve_of_ok hd
    dsimp only
    rw [hr]
    refine ⟨rfl, rfl, fun x => ?_, fun x => ?_, fun x => Descriptor.ofToken_eq_array_iff,
      fun x => Descriptor.ofToken_eq_arrayOfArray_iff⟩
    · rw [Registry.has_arrays_visit]
      simp only [List.mem_singleton, exists_eq_left]
    · rw [Registry.has_arraysOfArrays_visit]
      simp only [List.mem_singleton, exists_eq_left]
  · rw [registry_resolveEach, registry_resolveEach]
    apply Registry.visit_congr
    intro token
    rw [List.mem_filter, List.mem_filter, h]
  · dsimp only
    rw [exec_resolveAt, exec_resolveAt]
    exact exec_resolve_behind before (by simp)

/-- A session that knows one type. -/
def photos : Session := ⟨.ofNames ["Photo"], []⟩

theorem resolve_effect_photos :
    exec (resolve "Array of Video") photos =
      (.error (.unresolvable "Array of Video"), photos) ∧
    ((exec (resolve "Array of Photo") photos).1 = .ok (.array (.object "Photo")) ∧
      (exec (resolve "Array of Photo") photos).2.registry.arrays.has "Photo" = true ∧
      (exec (resolve "Array of Photo") photos).2.registry.arraysOfArrays.has "Photo" = false) ∧
    (resolveEach photos [(.signature, "Array of Photo"), (.declaration, "Video"),
        (.declaration, "Array of Array of Photo"), (.declaration, "Array of Photo")]).registry =
      (resolveEach photos [(.declaration, "Video"), (.signature, "Array of Array of Photo"),
        (.declaration, "Array of Photo")]).registry := by
  obtain ⟨-, herror, hok, hrun, -⟩ := resolve_effect photos
  refine ⟨?_, ?_, hrun _ _ fun token => ?_⟩
  · have hfail : (exec (resolve "Array of Video") photos).1 =
        .error (.unresolvable "Array of Video") := by
      rw [exec_resolve_of_unknown (by decide)]
    exact Prod.ext hfail (herror _ _ hfail).2
  · have hphoto : (exec (resolve "Array of Photo") photos).1 = .ok (.array (.object "Photo")) := rfl
    obtain ⟨-, -, harrays, harraysOfArrays, -, -⟩ := hok _ _ hphoto
    have hnone : photos.registry.arraysOfArrays.has "Photo" = false := rfl
    refine ⟨hphoto, (harrays "Photo").2 (.inr rfl), ?_⟩
    rw [Bool.eq_false_iff, ne_eq, harraysOfArrays "Photo", hnone]
    simp
  · simp only [List.map_cons, List.map_nil, List.mem_cons, List.not_mem_nil, or_false]
    grind

end Compile

end BotBindings
