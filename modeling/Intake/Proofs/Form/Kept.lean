import Intake.Proofs.Form.Paths
import Intake.Proofs.Reading.Leaves

namespace Intake

/-- Null, a truth value, a number or a text. -/
def Value.isScalar : Value → Bool
  | .null => true
  | .bool _ => true
  | .int _ => true
  | .float _ => true
  | .text _ => true
  | _ => false

/-- A scalar stands in a value at a path, alone or as a member of the list there. -/
def Value.Bears (v : Value) (path : List String) (w : Value) : Prop :=
  w.isScalar = true ∧
    (v.at? path = some w ∨ ∃ items, v.at? path = some (.list items) ∧ w ∈ items)

namespace Table

variable {α : Type} {t : Table α} {name : String}

theorem perm_put (t : Table α) (name : String) (v : α) :
    (put t name v).Perm ((name, v) :: remove t name) := by
  induction t with
  | nil => exact List.Perm.refl _
  | cons e t ih =>
    obtain ⟨k, w⟩ := e
    by_cases hk : k = name
    · rw [put, remove, if_pos hk, if_pos hk, hk]
    · rw [put, remove, if_neg hk, if_neg hk]
      exact (ih.cons (k, w)).trans (List.Perm.swap _ _ _)

theorem remove_of_absent (h : get? t name = none) : remove t name = t := by
  induction t with
  | nil => rfl
  | cons e t ih =>
    obtain ⟨k, w⟩ := e
    rw [get?_cons] at h
    split_ifs at h with hk
    rw [remove, if_neg hk, ih h]

end Table

namespace Form

/-- Values that pairs with scalars make: scalars, lists of scalars, and maps of such values. -/
inductive IsMade : Value → Prop where
  | scalar {v : Value} (h : v.isScalar = true) : IsMade v
  | list {items : List Value} (h : ∀ v ∈ items, v.isScalar = true) : IsMade (.list items)
  | map {es : Table Value} (hn : (Table.names es).Nodup)
      (h : ∀ name v, Table.get? es name = some v → IsMade v) : IsMade (.map es)

/-- The scalars of a value under a name, each with its path. -/
def scalarsUnder (name : String) (v : Value) : List (List String × Value) :=
  (leaves name v).map fun l => (l.path, l.value)

/-- The scalars of a map, each with its path. -/
def scalars (t : Table Value) : List (List String × Value) :=
  (entryLeaves t).map fun l => (l.path, l.value)

/-- A scalar does not make way for the maps on a path: it is no null, or does not stand on the way. -/
def stays (path : List String) (s : List String × Value) : Bool :=
  !(s.2.isNull && s.1.isPrefixOf path && s.1 != path)

variable {t t' es m : Table Value} {name key : String} {v w : Value} {path q rest : List String}
  {append : Bool} {pairs : List (String × Value)}

theorem scalarsUnder_scalar (h : v.isScalar = true) (name : String) :
    scalarsUnder name v = [([name], v)] := by
  cases v with
  | null | bool | int | float | text => simp [scalarsUnder, leaves]
  | _ => cases h

theorem scalarsUnder_list (name : String) (items : List Value) :
    scalarsUnder name (.list items) = items.map fun v => ([name], v) := by
  rw [scalarsUnder, leaves, List.map_map]
  rfl

theorem scalarsUnder_map (name : String) (es : Table Value) :
    scalarsUnder name (.map es) = (scalars es).map fun s => (name :: s.1, s.2) := by
  rw [scalarsUnder, leaves, scalars, List.map_map, List.map_map]
  rfl

theorem scalars_nil : scalars [] = [] := rfl

theorem scalars_cons (name : String) (v : Value) (t : Table Value) :
    scalars ((name, v) :: t) = scalarsUnder name v ++ scalars t := by
  rw [scalars, entryLeaves, List.map_append]
  rfl

theorem scalars_perm {t u : Table Value} (h : t.Perm u) : (scalars t).Perm (scalars u) := by
  induction h with
  | nil => exact List.Perm.refl _
  | cons e _ ih =>
    rw [scalars_cons, scalars_cons]
    exact ih.append_left _
  | swap e e' t =>
    rw [scalars_cons, scalars_cons, scalars_cons, scalars_cons, ← List.append_assoc,
      ← List.append_assoc]
    exact List.perm_append_comm.append_right _
  | trans _ _ ih ih' => exact ih.trans ih'

/-- The scalars of a map are those under one name and those of the other entries. -/
theorem scalars_split (t : Table Value) (name : String) :
    (scalars t).Perm
      ((Table.get? t name).elim [] (scalarsUnder name) ++ scalars (Table.remove t name)) := by
  cases h : Table.get? t name with
  | none =>
    rw [Table.remove_of_absent h]
    exact List.Perm.refl _
  | some v =>
    have hperm := scalars_perm (Table.perm_cons_remove h)
    rwa [scalars_cons] at hperm

theorem scalars_put (t : Table Value) (name : String) (v : Value) :
    (scalars (Table.put t name v)).Perm
      (scalarsUnder name v ++ scalars (Table.remove t name)) := by
  have hperm := scalars_perm (Table.perm_put t name v)
  rwa [scalars_cons] at hperm

theorem exists_path_of_mem_scalarsUnder {s : List String × Value} (h : s ∈ scalarsUnder name v) :
    ∃ rest, s.1 = name :: rest := by
  obtain ⟨l, hl, rfl⟩ := List.mem_map.mp h
  cases v with
  | map es =>
    rw [leaves] at hl
    obtain ⟨inner, -, rfl⟩ := List.mem_map.mp hl
    exact ⟨_, rfl⟩
  | list items | tuple items =>
    rw [leaves] at hl
    obtain ⟨w, -, rfl⟩ := List.mem_map.mp hl
    exact ⟨_, rfl⟩
  | _ =>
    simp only [leaves, List.mem_singleton] at hl
    exact ⟨[], by rw [hl]⟩

theorem mem_scalars {s : List String × Value} :
    s ∈ scalars t ↔ ∃ e ∈ t, s ∈ scalarsUnder e.1 e.2 := by
  induction t with
  | nil => simp [scalars_nil]
  | cons e t ih =>
    obtain ⟨name, v⟩ := e
    rw [scalars_cons, List.mem_append, ih]
    simp only [List.mem_cons, exists_eq_or_imp]

theorem exists_path_of_mem_scalars {s : List String × Value} (h : s ∈ scalars t) :
    ∃ name ∈ Table.names t, ∃ rest, s.1 = name :: rest := by
  obtain ⟨e, he, hs⟩ := mem_scalars.mp h
  exact ⟨e.1, List.mem_map_of_mem he, exists_path_of_mem_scalarsUnder hs⟩

theorem stays_cons (name : String) (rest : List String) (s : List String × Value) :
    stays (name :: rest) (name :: s.1, s.2) = stays rest s := by
  simp [stays, List.isPrefixOf, bne, List.cons_beq_cons]

/-- Nothing stands on the way to a path of one name. -/
theorem filter_stays_singleton (t : Table Value) (name : String) :
    (scalars t).filter (stays [name]) = scalars t := by
  rw [List.filter_eq_self]
  intro s hs
  obtain ⟨other, -, rest, hpath⟩ := exists_path_of_mem_scalars hs
  rcases s with ⟨p, v⟩
  obtain rfl : p = other :: rest := hpath
  cases rest with
  | nil => by_cases hother : other = name <;> simp [stays, List.isPrefixOf, hother]
  | cons next rest => simp [stays, List.isPrefixOf]

/-- What stands under other names does not stand on the way. -/
theorem filter_stays_remove (hn : (Table.names t).Nodup) (name : String) (rest : List String) :
    (scalars (Table.remove t name)).filter (stays (name :: rest)) = scalars (Table.remove t name) := by
  rw [List.filter_eq_self]
  intro s hs
  obtain ⟨other, hother, more, hpath⟩ := exists_path_of_mem_scalars hs
  have hne : other ≠ name := by
    rintro rfl
    exact (Table.get?_eq_none_iff _ _).mp (Table.get?_remove_self hn other) hother
  simp [stays, hpath, List.isPrefixOf, hne]

theorem isMade_map_iff :
    IsMade (.map t) ↔ (Table.names t).Nodup ∧ ∀ name v, Table.get? t name = some v → IsMade v := by
  constructor
  · intro h
    cases h with
    | scalar h => cases h
    | map hn h => exact ⟨hn, h⟩
  · rintro ⟨hn, h⟩
    exact .map hn h

theorem isMade_nil : IsMade (.map []) := .map List.nodup_nil nofun

theorem IsMade.put (ht : IsMade (.map t)) (hw : IsMade w) (name : String) :
    IsMade (.map (Table.put t name w)) := by
  obtain ⟨hn, hmade⟩ := isMade_map_iff.mp ht
  refine .map (Table.nodup_names_put hn name w) fun other u hu => ?_
  rw [Table.get?_put] at hu
  split_ifs at hu
  · exact Option.some.inj hu ▸ hw
  · exact hmade other u hu

/-- A scalar is joined with nothing, with a scalar or with a list of scalars. -/
theorem joined_cases {existing : Option Value} (hexisting : ∀ u, existing = some u → IsMade u)
    (h : joined append existing v = some w) :
    existing = none ∧ w = (if append then .list [v] else v) ∨
      (∃ u, existing = some u ∧ u.isScalar = true ∧ w = .list [u, v]) ∨
      ∃ items, existing = some (.list items) ∧ (∀ u ∈ items, u.isScalar = true) ∧
        w = .list (items ++ [v]) := by
  cases existing with
  | none => exact .inl ⟨rfl, (Option.some.inj h).symm⟩
  | some u =>
    cases hexisting u rfl with
    | scalar hu =>
      refine .inr (.inl ⟨u, rfl, hu, ?_⟩)
      cases u with
      | null | bool | int | float | text => exact (Option.some.inj h).symm
      | _ => cases hu
    | list hitems => exact .inr (.inr ⟨_, rfl, hitems, (Option.some.inj h).symm⟩)
    | map => cases h

theorem isMade_joined {existing : Option Value} (hv : v.isScalar = true)
    (hexisting : ∀ u, existing = some u → IsMade u) (h : joined append existing v = some w) :
    IsMade w := by
  rcases joined_cases hexisting h with ⟨-, rfl⟩ | ⟨u, -, hu, rfl⟩ | ⟨items, -, hitems, rfl⟩
  · cases append with
    | true => exact .list (by simpa using hv)
    | false => exact .scalar hv
  · exact .list (by simp [hu, hv])
  · refine .list fun x hx => ?_
    rcases List.mem_append.mp hx with hx | hx
    · exact hitems x hx
    · exact List.mem_singleton.mp hx ▸ hv

theorem scalarsUnder_joined {existing : Option Value} (hv : v.isScalar = true)
    (hexisting : ∀ u, existing = some u → IsMade u) (h : joined append existing v = some w)
    (name : String) :
    scalarsUnder name w = existing.elim [] (scalarsUnder name) ++ [([name], v)] := by
  rcases joined_cases hexisting h with ⟨rfl, rfl⟩ | ⟨u, rfl, hu, rfl⟩ | ⟨items, rfl, -, rfl⟩
  · cases append with
    | true => exact scalarsUnder_list name [v]
    | false => exact scalarsUnder_scalar hv name
  · rw [scalarsUnder_list, Option.elim_some, scalarsUnder_scalar hu]
    rfl
  · rw [scalarsUnder_list, Option.elim_some, scalarsUnder_list, List.map_append]
    rfl

theorem IsMade.stores (hv : v.isScalar = true) (h : Stores append v path t t')
    (ht : IsMade (.map t)) : IsMade (.map t') := by
  induction h with
  | last h => exact ht.put (isMade_joined hv ((isMade_map_iff.mp ht).2 _) h) _
  | fresh _ _ ih => exact ht.put (ih isMade_nil) _
  | under hmap _ ih => exact ht.put (ih ((isMade_map_iff.mp ht).2 _ _ hmap)) _

/-- What is stored further down is added to what stays of the map on the way there. -/
theorem scalars_put_map {kept : List (List String × Value)} (hn : (Table.names t).Nodup)
    (hm : (scalars m).Perm ((rest, v) :: kept))
    (hkept : ((Table.get? t name).elim [] (scalarsUnder name)).filter (stays (name :: rest)) =
      kept.map fun s => (name :: s.1, s.2)) :
    (scalars (Table.put t name (.map m))).Perm
      ((name :: rest, v) :: (scalars t).filter (stays (name :: rest))) := by
  have hsplit := (scalars_split t name).filter (stays (name :: rest))
  rw [List.filter_append, hkept, filter_stays_remove hn] at hsplit
  refine (scalars_put t name (.map m)).trans ?_
  rw [scalarsUnder_map]
  exact ((hm.map _).append_right _).trans (hsplit.symm.cons _)

/-- Storing a scalar adds it at its path and keeps all that was there, but for a null on the way. -/
theorem scalars_of_stores (hv : v.isScalar = true) (h : Stores append v path t t')
    (ht : IsMade (.map t)) :
    (scalars t').Perm ((path, v) :: (scalars t).filter (stays path)) := by
  induction h with
  | @last t name w h =>
    rw [filter_stays_singleton]
    refine (scalars_put t name w).trans ?_
    rw [scalarsUnder_joined hv ((isMade_map_iff.mp ht).2 _) h name, List.append_assoc,
      List.singleton_append]
    exact List.perm_middle.trans ((scalars_split t name).symm.cons _)
  | @fresh t m name rest hnull h ih =>
    refine scalars_put_map (isMade_map_iff.mp ht).1 (ih isMade_nil) ?_
    cases hget : Table.get? t name with
    | none => rfl
    | some u =>
      rw [hget, Option.getD_some] at hnull
      subst hnull
      -- The null is on the way to more than one name.
      obtain ⟨next, more, rfl⟩ := List.exists_cons_of_ne_nil h.path_ne
      rw [Option.elim_some, scalarsUnder_scalar rfl]
      simp [stays, List.isPrefixOf, Value.isNull, scalars_nil]
  | @under t m m' name rest hmap h ih =>
    obtain ⟨hn, hmade⟩ := isMade_map_iff.mp ht
    refine scalars_put_map hn (ih (hmade _ _ hmap)) ?_
    have hstays : stays (name :: rest) ∘ (fun s : List String × Value => (name :: s.1, s.2)) =
        stays rest := funext fun s => stays_cons name rest s
    rw [hmap, Option.elim_some, scalarsUnder_map, List.filter_map, hstays]

theorem mem_scalars_cons_iff (hn : (Table.names t).Nodup) :
    (name :: rest, w) ∈ scalars t ↔
      ∃ v, Table.get? t name = some v ∧ (name :: rest, w) ∈ scalarsUnder name v := by
  rw [mem_scalars]
  constructor
  · rintro ⟨⟨other, v⟩, he, hs⟩
    obtain ⟨more, hpath⟩ := exists_path_of_mem_scalarsUnder hs
    obtain ⟨rfl, -⟩ := List.cons.inj hpath
    exact ⟨v, Table.get?_of_mem hn he, hs⟩
  · rintro ⟨v, hv, hs⟩
    exact ⟨(name, v), Table.mem_of_get? hv, hs⟩

theorem bears_map_cons_iff :
    (Value.map t).Bears (name :: rest) w ↔ ∃ v, Table.get? t name = some v ∧ v.Bears rest w := by
  rw [Value.Bears, Value.at?_map_cons]
  cases Table.get? t name <;> simp [Value.Bears]

theorem bears_scalar_iff (hv : v.isScalar = true) : v.Bears rest w ↔ rest = [] ∧ v = w := by
  cases rest with
  | nil =>
    constructor
    · rintro ⟨-, h | ⟨items, h, -⟩⟩
      · exact ⟨rfl, Option.some.inj ((Value.at?_nil v).symm.trans h)⟩
      · obtain rfl := Option.some.inj ((Value.at?_nil v).symm.trans h)
        cases hv
    · rintro ⟨-, rfl⟩
      exact ⟨hv, .inl (Value.at?_nil v)⟩
  | cons next more =>
    have hmap (es : Table Value) : v ≠ .map es := by
      rintro rfl
      cases hv
    simp [Value.Bears, Value.at?_cons_of_not_map hmap]

theorem bears_list_iff {items : List Value} (hitems : ∀ v ∈ items, v.isScalar = true) :
    (Value.list items).Bears rest w ↔ rest = [] ∧ w ∈ items := by
  cases rest with
  | nil =>
    constructor
    · rintro ⟨hw, h | ⟨items', h, hmem⟩⟩
      · obtain rfl := Option.some.inj ((Value.at?_nil _).symm.trans h)
        cases hw
      · obtain rfl := Value.list.inj (Option.some.inj ((Value.at?_nil _).symm.trans h))
        exact ⟨rfl, hmem⟩
    · rintro ⟨-, hmem⟩
      exact ⟨hitems w hmem, .inr ⟨items, Value.at?_nil _, hmem⟩⟩
  | cons next more => simp [Value.Bears, Value.at?_cons_of_not_map]

/-- The scalars of a map are those that stand at their paths, alone or in a list. -/
theorem mem_scalars_iff_bears (ht : IsMade (.map t)) :
    (path, w) ∈ scalars t ↔ (Value.map t).Bears path w := by
  induction path generalizing t with
  | nil =>
    constructor
    · intro h
      obtain ⟨name, -, rest, hpath⟩ := exists_path_of_mem_scalars h
      cases hpath
    · rintro ⟨hw, h | ⟨items, h, -⟩⟩
      · obtain rfl := Option.some.inj ((Value.at?_nil _).symm.trans h)
        cases hw
      · cases Option.some.inj ((Value.at?_nil _).symm.trans h)
  | cons name rest ih =>
    obtain ⟨hn, hmade⟩ := isMade_map_iff.mp ht
    rw [mem_scalars_cons_iff hn, bears_map_cons_iff]
    refine exists_congr fun v => and_congr_right fun hget => ?_
    cases hmade name v hget with
    | scalar hv =>
      rw [scalarsUnder_scalar hv, bears_scalar_iff hv]
      simp [eq_comm]
    | list hitems =>
      rw [scalarsUnder_list, bears_list_iff hitems]
      simp [and_comm, eq_comm]
    | map hes hinner =>
      rw [scalarsUnder_map, ← ih (.map hes hinner)]
      simp

theorem IsMade.store (hv : v.isScalar = true) (ht : IsMade (.map t)) (key : String) :
    IsMade (.map (store t key v).table) := by
  rcases store_cases t key v with ⟨t', hstores, hstore⟩ | ⟨-, htable⟩
  · rw [hstore]
    exact ht.stores hv hstores
  · rw [htable]
    exact ht

theorem IsMade.storeAll (hpairs : ∀ pair ∈ pairs, pair.2.isScalar = true) (ht : IsMade (.map t)) :
    IsMade (.map (storeAll t pairs)) := by
  induction pairs generalizing t with
  | nil => exact ht
  | cons pair pairs ih =>
    have hv := hpairs pair List.mem_cons_self
    exact ih (fun pair h => hpairs pair (List.mem_cons_of_mem _ h)) (ht.store hv pair.1)

/-- How many nulls make way for the maps on the path of an attempt that is accepted. -/
def Attempt.erased (a : Attempt) : Nat :=
  if a.stored.accepted then
    (scalars a.table).countP fun s => !stays (Key.ofText a.key).path s
  else 0

theorem length_scalars_store (hv : v.isScalar = true) (ht : IsMade (.map t)) (key : String) :
    (scalars (store t key v).table).length + Attempt.erased ⟨t, key, v⟩ =
      (scalars t).length + if (store t key v).accepted then 1 else 0 := by
  rw [Attempt.erased, Attempt.stored]
  rcases store_cases t key v with ⟨t', hstores, hstore⟩ | ⟨hno, htable⟩
  · have hlength := (scalars_of_stores hv hstores ht).length_eq
    rw [List.length_cons, ← List.countP_eq_length_filter] at hlength
    have hall := List.length_eq_countP_add_countP (stays (Key.ofText key).path) (l := scalars t)
    simp only [decide_not, Bool.decide_eq_true] at hall
    simp only [hstore, if_true, hlength]
    omega
  · simp only [hno, htable, Bool.false_eq_true, if_false]

theorem length_scalars_storeAll (hpairs : ∀ pair ∈ pairs, pair.2.isScalar = true)
    (ht : IsMade (.map t)) :
    (scalars (storeAll t pairs)).length + ((attempts t pairs).map Attempt.erased).sum =
      (scalars t).length + (attempts t pairs).countP fun a => a.stored.accepted := by
  induction pairs generalizing t with
  | nil => rfl
  | cons pair pairs ih =>
    obtain ⟨key, v⟩ := pair
    have hv : v.isScalar = true := hpairs _ List.mem_cons_self
    have hstep := length_scalars_store hv ht key
    have hrest := ih (fun pair h => hpairs pair (List.mem_cons_of_mem _ h)) (ht.store hv key)
    rw [attempts, List.map_cons, List.sum_cons, List.countP_cons, storeAll_cons]
    have hstored : Attempt.stored ⟨t, key, v⟩ = store t key v := rfl
    rw [hstored]
    omega

/-- In a map that pairs with scalars make, a pair that is accepted is stored at its path, and all scalars
that were there stay, but for a null on the way to that path. So there are as many scalars as pairs were
accepted, less the nulls that made way. -/
theorem accepted_pair_erases_only_nulls (hpairs : ∀ pair ∈ pairs, pair.2.isScalar = true) :
    (ofPairs false pairs).result = .ok (storeAll [] pairs) ∧
      (∀ path w, (path, w) ∈ scalars (storeAll [] pairs) ↔
        (Value.map (storeAll [] pairs)).Bears path w) ∧
      (∀ key v, v.isScalar = true → (store (storeAll [] pairs) key v).accepted = true →
        (scalars (store (storeAll [] pairs) key v).table).Perm
          (((Key.ofText key).path, v) ::
            (scalars (storeAll [] pairs)).filter (stays (Key.ofText key).path))) ∧
      (scalars (storeAll [] pairs)).length + ((attempts [] pairs).map Attempt.erased).sum =
        (attempts [] pairs).countP fun a => a.stored.accepted := by
  have hmade : IsMade (.map (storeAll [] pairs)) := isMade_nil.storeAll hpairs
  refine ⟨result_build [] pairs, fun path w => mem_scalars_iff_bears hmade, ?_, ?_⟩
  · intro key v hv haccepted
    exact scalars_of_stores hv (stores_of_accepted haccepted) hmade
  · have hlength := length_scalars_storeAll hpairs isMade_nil
    rwa [scalars_nil, List.length_nil, Nat.zero_add] at hlength

/-- Pairs of a survey: an answer given twice, and a null that makes way for a map. -/
def survey : List (String × Value) :=
  [("answers.colour", .text "red"), ("answers.colour", .text "blue"), ("answers.size", .null),
    ("answers.size.cm", .int 7), ("answers", .bool true)]

theorem accepted_pair_erases_only_nulls_survey :
    (∀ pair ∈ survey, pair.2.isScalar = true) ∧
      (scalars (storeAll [] survey)).length = 3 ∧
      ((attempts [] survey).map Attempt.erased).sum = 1 ∧
      ((attempts [] survey).countP fun a => a.stored.accepted) = 4 := by
  have hpairs : ∀ pair ∈ survey, pair.2.isScalar = true := by
    simp [survey, Value.isScalar]
  have hsum : ((attempts [] survey).map Attempt.erased).sum = 1 := by decide +kernel
  have haccepted : ((attempts [] survey).countP fun a => a.stored.accepted) = 4 := by decide +kernel
  obtain ⟨-, -, -, hlength⟩ := accepted_pair_erases_only_nulls hpairs
  rw [hsum, haccepted] at hlength
  exact ⟨hpairs, by omega, hsum, haccepted⟩

end Form

end Intake
