import Intake.Proofs.Coercion.Containers
import Intake.Proofs.Coercion.Elements

namespace Intake

namespace Coercion

variable {f : Value → Coerced} {ms : List (Position × Value)} {m : Position × Value} {w : Value}
  {ps : List Position} {fault : CoercionFault} {rebuild : List (Position × Value) → Value}

/-- The members of a list under their indices. -/
def indexed (xs : List Value) : List (Position × Value) := xs.mapIdx fun i x => (.index i, x)

/-- The members of a map under their keys. -/
def keyed (es : Table Value) : List (Position × Value) := es.map fun e => (.key e.1, e.2)

def ofItems (ms : List (Position × Value)) : Value := .list (ms.map Prod.snd)

def ofEntries (ms : List (Position × Value)) : Value := .map (ms.map fun m => (keyOf m.1, m.2))

/-- The members that are accepted, each as what it is brought to, in their places. -/
def taken (f : Value → Coerced) (ms : List (Position × Value)) : List (Position × Value) :=
  ms.filterMap fun m => (f m.2).value?.map (m.1, ·)

/-- The places of the members that are not accepted. -/
def leftOut (f : Value → Coerced) (ms : List (Position × Value)) : List Position :=
  (ms.filter fun m => (f m.2).value?.isNone).map Prod.fst

/-- A fault stops the coercion of a member, and of none before it. -/
def StopsAt (f : Value → Coerced) (ms : List (Position × Value)) (fault : CoercionFault) : Prop :=
  ∃ before m after, ms = before ++ m :: after ∧ (∀ m' ∈ before, ∀ e, f m'.2 ≠ .faulty e) ∧
    f m.2 = .faulty fault

theorem taken_of_some {x : Value} (h : (f m.2).value? = some x) (ms : List (Position × Value)) :
    taken f (m :: ms) = (m.1, x) :: taken f ms := List.filterMap_cons_some (by rw [h]; rfl)

theorem taken_of_none (h : (f m.2).value? = none) (ms : List (Position × Value)) :
    taken f (m :: ms) = taken f ms := List.filterMap_cons_none (by rw [h]; rfl)

theorem leftOut_of_some {x : Value} (h : (f m.2).value? = some x) (ms : List (Position × Value)) :
    leftOut f (m :: ms) = leftOut f ms := by
  rw [leftOut, List.filter_cons_of_neg (by simp [h]), leftOut]

theorem leftOut_of_none (h : (f m.2).value? = none) (ms : List (Position × Value)) :
    leftOut f (m :: ms) = m.1 :: leftOut f ms := by
  rw [leftOut, List.filter_cons_of_pos (by simp [h]), List.map_cons, leftOut]

/-- Every member is either taken or left out. -/
theorem length_taken_add_leftOut (f : Value → Coerced) (ms : List (Position × Value)) :
    (taken f ms).length + (leftOut f ms).length = ms.length := by
  induction ms with
  | nil => rfl
  | cons m ms ih =>
    cases h : (f m.2).value? with
    | none =>
      rw [taken_of_none h, leftOut_of_none h, List.length_cons, List.length_cons]
      omega
    | some x =>
      rw [taken_of_some h, leftOut_of_some h, List.length_cons, List.length_cons]
      omega

theorem length_taken_le (f : Value → Coerced) (ms : List (Position × Value)) :
    (taken f ms).length ≤ ms.length := length_taken_add_leftOut f ms ▸ Nat.le_add_right _ _

/-- Where no member is stopped by a fault, what is gathered are the members that are taken, and the
places of the others. -/
theorem gather_of_sound (h : ∀ m ∈ ms, ∀ e, f m.2 ≠ .faulty e) :
    gather (ms.map fun m => (m.1, f m.2)) = .ok (taken f ms, leftOut f ms) := by
  induction ms with
  | nil => rfl
  | cons m ms ih =>
    have ih := ih fun m' hm => h m' (List.mem_cons_of_mem _ hm)
    rw [List.map_cons]
    cases hm : f m.2 with
    | faulty e => exact absurd hm (h m List.mem_cons_self e)
    | refused =>
      have hnone : (f m.2).value? = none := by rw [hm]; rfl
      rw [gather, ih, taken_of_none hnone, leftOut_of_none hnone]
      rfl
    | accepted x qs =>
      have hsome : (f m.2).value? = some x := by rw [hm]; rfl
      rw [gather, ih, taken_of_some hsome, leftOut_of_some hsome]
      rfl

theorem gather_of_stopsAt (h : StopsAt f ms fault) :
    gather (ms.map fun m => (m.1, f m.2)) = .error fault := by
  obtain ⟨before, m, after, rfl, hbefore, hm⟩ := h
  induction before with
  | nil => rw [List.nil_append, List.map_cons, hm, gather]
  | cons m' before ih =>
    have ih := ih fun m hm => hbefore m (List.mem_cons_of_mem _ hm)
    rw [List.cons_append, List.map_cons]
    cases hm' : f m'.2 with
    | faulty e => exact absurd hm' (hbefore m' List.mem_cons_self e)
    | refused | accepted =>
      rw [gather, ih]
      rfl

theorem sound_or_stopsAt (f : Value → Coerced) (ms : List (Position × Value)) :
    (∀ m ∈ ms, ∀ e, f m.2 ≠ .faulty e) ∨ ∃ fault, StopsAt f ms fault := by
  induction ms with
  | nil => exact .inl (List.forall_mem_nil _)
  | cons m ms ih =>
    by_cases hm : ∃ e, f m.2 = .faulty e
    · obtain ⟨e, he⟩ := hm
      exact .inr ⟨e, [], m, ms, rfl, List.forall_mem_nil _, he⟩
    · have hm := not_exists.mp hm
      rcases ih with h | ⟨fault, before, m', after, rfl, hbefore, hm'⟩
      · exact .inl (List.forall_mem_cons.mpr ⟨hm, h⟩)
      · exact .inr ⟨fault, m :: before, m', after, rfl, List.forall_mem_cons.mpr ⟨hm, hbefore⟩, hm'⟩

/-- A container made of what its members are brought to. -/
def collect (rebuild : List (Position × Value) → Value) (f : Value → Coerced)
    (ms : List (Position × Value)) : Coerced :=
  match gather (ms.map fun m => (m.1, f m.2)) with
  | .ok (kept, out) => .accepted (rebuild kept) out
  | .error fault => .faulty fault

theorem gatherList_eq_collect (f : Value → Coerced) (xs : List Value) :
    gatherList (xs.map f) = collect ofItems f (indexed xs) := by
  rw [gatherList, mapIdx_index]
  rfl

theorem gatherMap_eq_collect (f : Value → Coerced) (es : Table Value) :
    gatherMap (es.map fun e => (e.1, f e.2)) = collect ofEntries f (keyed es) := by
  rw [gatherMap, List.map_map, collect, keyed, List.map_map]
  rfl

theorem collect_of_sound (h : ∀ m ∈ ms, ∀ e, f m.2 ≠ .faulty e) :
    collect rebuild f ms = .accepted (rebuild (taken f ms)) (leftOut f ms) := by
  rw [collect, gather_of_sound h]

theorem collect_of_stopsAt (h : StopsAt f ms fault) : collect rebuild f ms = .faulty fault := by
  rw [collect, gather_of_stopsAt h]

theorem collect_eq_faulty_iff : collect rebuild f ms = .faulty fault ↔ StopsAt f ms fault := by
  refine ⟨fun h => ?_, collect_of_stopsAt⟩
  rcases sound_or_stopsAt f ms with hs | ⟨fault', hs⟩
  · cases (collect_of_sound hs).symm.trans h
  · obtain rfl := Coerced.faulty.inj ((collect_of_stopsAt hs).symm.trans h)
    exact hs

theorem collect_eq_accepted_iff : collect rebuild f ms = .accepted w ps ↔
    (∀ m ∈ ms, ∀ e, f m.2 ≠ .faulty e) ∧ w = rebuild (taken f ms) ∧ ps = leftOut f ms := by
  rcases sound_or_stopsAt f ms with hs | ⟨fault, hs⟩
  · rw [collect_of_sound hs, Coerced.accepted.injEq]
    constructor
    · rintro ⟨rfl, rfl⟩
      exact ⟨hs, rfl, rfl⟩
    · rintro ⟨-, rfl, rfl⟩
      exact ⟨rfl, rfl⟩
  · rw [collect_of_stopsAt hs]
    refine iff_of_false (by simp) fun h => ?_
    obtain ⟨before, m, after, rfl, -, hm⟩ := hs
    exact h.1 m (by simp) fault hm

theorem collect_ne_refused : collect rebuild f ms ≠ .refused := by
  rcases sound_or_stopsAt f ms with hs | ⟨fault, hs⟩
  · rw [collect_of_sound hs]
    simp
  · rw [collect_of_stopsAt hs]
    simp

/-- A container type whose members are of a type `t`, a value that it takes, the members of the value,
and the way in which a container is made of members. -/
inductive Container (t type : String) :
    Value → List (Position × Value) → (List (Position × Value) → Value) → Prop where
  | list (h : TypeName.canonical type = "list[" ++ t ++ "]") (xs : List Value) :
      Container t type (.list xs) (indexed xs) ofItems
  | tuple (h : TypeName.canonical type = "list[" ++ t ++ "]") (xs : List Value) :
      Container t type (.tuple xs) (indexed xs) ofItems
  | dict (h : TypeName.canonical type = "dict[" ++ t ++ "]") (es : Table Value) :
      Container t type (.map es) (keyed es) ofEntries

theorem Container.not_isBlank {t type : String} {v : Value} (h : Container t type v ms rebuild) :
    v.isBlank = false := by
  cases h <;> rfl

end Coercion

/-- A container is brought to a type by way of its members. -/
theorem Conversions.coerce_container {r : Conversions} {t type : String} {v : Value}
    {ms : List (Position × Value)} {rebuild : List (Position × Value) → Value}
    (h : Coercion.Container t type v ms rebuild) (hfree : r.find? (TypeName.canonical type) = none) :
    r.coerce type v = Coercion.collect rebuild (r.coerce t) ms := by
  cases h with
  | list h xs | tuple h xs =>
    rw [h] at hfree
    rw [coerce, Target.ofName_listed h, Coercion.run_list_of_spread hfree rfl rfl,
      Coercion.gatherList_eq_collect]
    rfl
  | dict h es =>
    rw [h] at hfree
    rw [coerce, Target.ofName_mapped h, Coercion.run_dict_of_spread hfree rfl rfl,
      Coercion.gatherMap_eq_collect]
    rfl

end Intake
