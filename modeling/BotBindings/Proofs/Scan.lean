import BotBindings.Binding.Token
import BotBindings.Proofs.Registry

/-!
Binding reads one token after the other. Each computation is described by the tokens it resolves,
what it gives if all of them are known, and the registry it leaves; otherwise it fails at the first
token that is not known. Events are left out.
-/
namespace BotBindings

namespace Compile

variable {α β : Type}

def exec (m : Compile α) (s : Session) : Except BindError α × Session := m.run.run s

theorem exec_bind (m : Compile α) (f : α → Compile β) (s : Session) :
    exec (m >>= f) s =
      match exec m s with
      | (.ok a, s') => exec (f a) s'
      | (.error e, s') => (.error e, s') := by
  unfold exec
  rw [ExceptT.run_bind, StateT.run_bind]
  cases m.run.run s with
  | mk x s' => cases x <;> rfl

/-- What succeeds has succeeded in its first part, and from there in its second. -/
theorem exec_of_exec_bind {m : Compile α} {f : α → Compile β} {s : Session} {b : β}
    (h : (exec (m >>= f) s).1 = .ok b) :
    ∃ a t, exec m s = (.ok a, t) ∧ (exec (f a) t).1 = .ok b := by
  rw [exec_bind] at h
  cases hm : exec m s with
  | mk x t =>
    rw [hm] at h
    cases x with
    | error e => cases h
    | ok a => exact ⟨a, t, rfl, h⟩

/-- From the registry `r` the computation resolves the tokens in order. If all are known it gives
`a` and leaves `r'`, else it fails at the first one that is not. -/
def Scans (m : Compile α) (r : Registry) (tokens : List String) (a : α) (r' : Registry) : Prop :=
  r'.known = r.known ∧ ∀ log,
    match r.firstUnknown? tokens with
    | none => ∃ log', exec m ⟨r, log⟩ = (.ok a, ⟨r', log'⟩)
    | some t => ∃ s, exec m ⟨r, log⟩ = (.error (.unresolvable t), s)

namespace Scans

variable {m : Compile α} {f : α → Compile β} {r r' r'' : Registry} {t u : List String}
  {a : α} {b : β}

theorem fst_exec (hm : Scans m r t a r') (log : List Event) :
    (exec m ⟨r, log⟩).1 =
      match r.firstUnknown? t with
      | some token => .error (.unresolvable token)
      | none => .ok a := by
  have hr := hm.2 log
  cases ht : r.firstUnknown? t with
  | some token =>
    rw [ht] at hr
    obtain ⟨s, he⟩ := hr
    rw [he]
  | none =>
    rw [ht] at hr
    obtain ⟨log', he⟩ := hr
    rw [he]

theorem eq_ok_iff (hm : Scans m r t a r') {log : List Event} {a' : α} :
    (exec m ⟨r, log⟩).1 = .ok a' ↔ r.firstUnknown? t = none ∧ a' = a := by
  rw [hm.fst_exec log]
  cases r.firstUnknown? t with
  | some token => simp
  | none => simp [eq_comm]

theorem of_exec (hk : r'.known = r.known)
    (h : ∀ log, ∃ log', exec m ⟨r, log⟩ = (.ok a, ⟨r', log'⟩)) : Scans m r [] a r' :=
  ⟨hk, h⟩

theorem pure : Scans (pure a) r [] a r := of_exec rfl fun log => ⟨log, rfl⟩

theorem tell (e : Event) : Scans (tell e) r [] () r := of_exec rfl fun log => ⟨e :: log, rfl⟩

theorem registry : Scans registry r [] r r := of_exec rfl fun log => ⟨log, rfl⟩

theorem bind (hm : Scans m r t a r') (hf : Scans (f a) r' u b r'') :
    Scans (m >>= f) r (t ++ u) b r'' := by
  refine ⟨hf.1.trans hm.1, fun log => ?_⟩
  have hr := hm.2 log
  rw [Registry.firstUnknown?_append, exec_bind]
  cases ht : r.firstUnknown? t with
  | some token =>
    rw [ht] at hr
    obtain ⟨s, hs⟩ := hr
    exact ⟨s, by rw [hs]⟩
  | none =>
    rw [ht] at hr
    obtain ⟨log', hl⟩ := hr
    have hr' := hf.2 log'
    rw [Registry.firstUnknown?_congr hm.1] at hr'
    rw [hl]
    exact hr'

/-- A computation that resolves nothing, and then another one. -/
theorem silent_bind (hm : Scans m r [] a r') (hf : Scans (f a) r' u b r'') :
    Scans (m >>= f) r u b r'' := hm.bind hf

theorem bind_silent (hm : Scans m r t a r') (hf : Scans (f a) r' [] b r'') :
    Scans (m >>= f) r t b r'' := by
  have h := hm.bind hf
  rwa [List.append_nil] at h

theorem map (g : α → β) (hm : Scans m r t a r') :
    Scans (m >>= fun x => Pure.pure (g x)) r t (g a) r' := hm.bind_silent pure

theorem congr (hm : Scans m r t a r') {t' : List String} {a' : α} {s : Registry}
    (ht : t = t') (ha : a = a') (hr : r' = s) : Scans m r t' a' s := by
  subst ht ha hr
  exact hm

theorem noteParent {s parent : String} (h : Free r.parents parent s) :
    Scans (noteParent s parent) r [] () (r.claim [(s, parent)]) := by
  apply registry.silent_bind
  rw [Registry.addParent_eq h]
  exact of_exec rfl fun log => ⟨log, rfl⟩

theorem noteElement (d : Descriptor) :
    Scans (noteElement d) r [] ()
      { r with
        arrays := r.arrays.insertAll d.arrayObject?.toList
        arraysOfArrays := r.arraysOfArrays.insertAll d.arrayOfArrayObject?.toList } := by
  unfold Compile.noteElement
  split
  · next name =>
    apply registry.silent_bind
    cases h : r.arrays.has name with
    | true =>
      refine pure.congr rfl rfl ?_
      change r = { r with arrays := r.arrays.insert name }
      rw [NameSet.insert_of_mem (NameSet.has_iff.1 h)]
    | false => exact of_exec rfl fun log => ⟨_, rfl⟩
  · next name =>
    apply registry.silent_bind
    cases h : r.arraysOfArrays.has name with
    | true =>
      refine pure.congr rfl rfl ?_
      change r = { r with arraysOfArrays := r.arraysOfArrays.insert name }
      rw [NameSet.insert_of_mem (NameSet.has_iff.1 h)]
    | false => exact of_exec rfl fun log => ⟨_, rfl⟩
  · next h h' =>
    have ha := Option.eq_none_iff_forall_ne_some.2
      fun name hd => h name (Descriptor.arrayObject?_eq_some.1 hd)
    have hb := Option.eq_none_iff_forall_ne_some.2
      fun name hd => h' name (Descriptor.arrayOfArrayObject?_eq_some.1 hd)
    rw [ha, hb]
    exact pure

theorem of_known {token : String} (h : r.knows token = true) (hm : Scans m r [] a r') :
    Scans m r [token] a r' := by
  have hn : r.firstUnknown? [token] = none := by simp [Registry.firstUnknown?, h]
  refine ⟨hm.1, fun log => ?_⟩
  rw [hn]
  exact hm.2 log

theorem of_unknown {token : String} (h : r.knows token = false) (hk : r'.known = r.known)
    (hm : ∀ log, ∃ s, exec m ⟨r, log⟩ = (.error (.unresolvable token), s)) :
    Scans m r [token] a r' := by
  have hs : r.firstUnknown? [token] = some token := by simp [Registry.firstUnknown?, h]
  refine ⟨hk, fun log => ?_⟩
  rw [hs]
  exact hm log

theorem resolve (token : String) :
    Scans (resolve token) r [token] (Descriptor.ofToken token) (r.visit [token]) := by
  apply registry.silent_bind
  rw [Registry.ofToken?_known]
  cases hk : r.knows token with
  | true =>
    rw [if_pos rfl]
    apply of_known hk
    refine ((noteElement (Descriptor.ofToken token)).map fun _ => _).congr rfl rfl ?_
    unfold Registry.visit Descriptor.arrayObjects Descriptor.arrayOfArrayObjects
    cases h : (Descriptor.ofToken token).arrayObject? <;>
      cases h' : (Descriptor.ofToken token).arrayOfArrayObject? <;>
      simp [h, h']
  | false =>
    exact of_unknown hk rfl fun log => ⟨⟨r, log⟩, rfl⟩

theorem resolveField (token : String) :
    Scans (resolveField token) r [token]
      ⟨Descriptor.ofToken token, (Descriptor.ofToken token).isObject⟩ (r.visit [token]) :=
  (resolve token).map fun d => (⟨d, d.isObject⟩ : FieldType)

/-- A computation that goes through a list as `f` goes through its elements. -/
theorem each {f : α → Compile β} {g : List α → Compile (List β)} (hnil : g [] = Pure.pure [])
    (hcons : ∀ x xs, g (x :: xs) = do return (← f x) :: (← g xs))
    {tokens : α → List String} {value : α → β} {xs : List α}
    (hf : ∀ x ∈ xs, ∀ s : Registry, s.parents = r.parents →
      Scans (f x) s (tokens x) (value x) (s.visit (tokens x))) :
    Scans (g xs) r (xs.flatMap tokens) (xs.map value) (r.visit (xs.flatMap tokens)) := by
  induction xs generalizing r with
  | nil =>
    rw [hnil]
    exact pure
  | cons x xs ih =>
    have hx := hf x List.mem_cons_self r rfl
    have hxs := ih (r := r.visit (tokens x)) fun y hy => hf y (List.mem_cons_of_mem x hy)
    rw [hcons, List.flatMap_cons, Registry.visit_append]
    exact hx.bind (hxs.map (value x :: ·))

end Scans

end Compile

end BotBindings
