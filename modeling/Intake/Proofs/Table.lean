import Mathlib
import Intake.Table

namespace Intake

theorem eraseDups_concat {α : Type} [DecidableEq α] (names : List α) (name : α) :
    (names ++ [name]).eraseDups =
      if name ∈ names then names.eraseDups else names.eraseDups ++ [name] := by
  rw [List.eraseDups_append]
  by_cases h : name ∈ names
  · simp [List.removeAll, h]
  · simp [List.removeAll, h, List.eraseDups_cons]

namespace Table

variable {α β : Type}

@[simp] theorem get?_nil (name : String) : get? ([] : Table α) name = none := rfl

theorem get?_cons (k : String) (v : α) (t : Table α) (name : String) :
    get? ((k, v) :: t) name = if k = name then some v else get? t name := rfl

@[simp] theorem names_nil : names ([] : Table α) = [] := rfl

@[simp] theorem names_cons (k : String) (v : α) (t : Table α) :
    names ((k, v) :: t) = k :: names t := rfl

@[simp] theorem names_append (t u : Table α) : names (t ++ u) = names t ++ names u :=
  List.map_append

theorem get?_eq_none_iff (t : Table α) (name : String) : get? t name = none ↔ name ∉ names t := by
  induction t with
  | nil => simp
  | cons e t ih =>
    obtain ⟨k, v⟩ := e
    by_cases h : k = name
    · simp [get?_cons, h]
    · simp [get?_cons, h, ih, Ne.symm h]

theorem has_iff (t : Table α) (name : String) : has t name = true ↔ name ∈ names t := by
  rw [has, Option.isSome_iff_ne_none, ne_eq, get?_eq_none_iff, not_not]

theorem has_eq_false_iff (t : Table α) (name : String) : has t name = false ↔ name ∉ names t := by
  rw [← has_iff, Bool.not_eq_true]

theorem mem_of_get? {t : Table α} {name : String} {v : α} (h : get? t name = some v) :
    (name, v) ∈ t := by
  induction t with
  | nil => simp at h
  | cons e t ih =>
    obtain ⟨k, w⟩ := e
    rw [get?_cons] at h
    split_ifs at h with hk
    · obtain rfl := Option.some.inj h
      simp [hk]
    · exact List.mem_cons_of_mem _ (ih h)

theorem mem_names_of_get? {t : Table α} {name : String} {v : α} (h : get? t name = some v) :
    name ∈ names t :=
  List.mem_map_of_mem (mem_of_get? h)

theorem get?_of_mem {t : Table α} (ht : (names t).Nodup) {name : String} {v : α}
    (h : (name, v) ∈ t) : get? t name = some v := by
  induction t with
  | nil => simp at h
  | cons e t ih =>
    obtain ⟨k, w⟩ := e
    rw [names_cons, List.nodup_cons] at ht
    rw [get?_cons]
    rcases List.mem_cons.mp h with h | h
    · obtain ⟨rfl, rfl⟩ := Prod.mk.inj h
      simp
    · have hk : k ≠ name := fun hk => ht.1 (hk ▸ List.mem_map_of_mem h)
      rw [if_neg hk, ih ht.2 h]

theorem get?_append (t u : Table α) (name : String) :
    get? (t ++ u) name = (get? t name).or (get? u name) := by
  induction t with
  | nil => simp
  | cons e t ih =>
    obtain ⟨k, v⟩ := e
    by_cases h : k = name <;> simp [get?_cons, h, ih]

theorem get?_put (t : Table α) (name : String) (v : α) (other : String) :
    get? (put t name v) other = if name = other then some v else get? t other := by
  induction t with
  | nil => rfl
  | cons e t ih =>
    obtain ⟨k, w⟩ := e
    rw [put]
    by_cases hk : k = name
    · subst hk
      by_cases ho : k = other <;> simp [get?_cons, ho]
    · rw [if_neg hk, get?_cons, ih, get?_cons]
      by_cases ho : k = other
      · subst ho
        simp [Ne.symm hk]
      · simp [ho]

@[simp] theorem get?_put_self (t : Table α) (name : String) (v : α) :
    get? (put t name v) name = some v := by
  rw [get?_put, if_pos rfl]

theorem put_put (t : Table α) (name : String) (v w : α) : put (put t name v) name w = put t name w := by
  induction t with
  | nil => simp [put]
  | cons e t ih =>
    obtain ⟨k, x⟩ := e
    by_cases h : k = name
    · simp [put, h]
    · simp [put, h, ih]

theorem put_of_get? {t : Table α} {name : String} {v : α} (h : get? t name = some v) :
    put t name v = t := by
  induction t with
  | nil => cases h
  | cons e t ih =>
    obtain ⟨k, x⟩ := e
    rw [get?_cons] at h
    by_cases hk : k = name
    · rw [if_pos hk] at h
      obtain rfl := Option.some.inj h
      rw [put, if_pos hk]
    · rw [if_neg hk] at h
      rw [put, if_neg hk, ih h]

theorem put_of_absent {t : Table α} {name : String} (h : get? t name = none) (v : α) :
    put t name v = t ++ [(name, v)] := by
  induction t with
  | nil => rfl
  | cons e t ih =>
    obtain ⟨k, x⟩ := e
    rw [get?_cons] at h
    split_ifs at h with hk
    rw [put, if_neg hk, ih h, List.cons_append]

theorem names_put (t : Table α) (name : String) (v : α) :
    names (put t name v) = if name ∈ names t then names t else names t ++ [name] := by
  induction t with
  | nil => rfl
  | cons e t ih =>
    obtain ⟨k, x⟩ := e
    rw [put]
    by_cases hk : k = name
    · simp [hk]
    · rw [if_neg hk, names_cons, ih, names_cons]
      by_cases hname : name ∈ names t <;> simp [hname, Ne.symm hk]

theorem mem_names_put (t : Table α) (name : String) (v : α) (other : String) :
    other ∈ names (put t name v) ↔ other = name ∨ other ∈ names t := by
  rw [names_put]
  split_ifs with hname
  · exact ⟨.inr, fun h => h.elim (fun heq => heq ▸ hname) id⟩
  · rw [List.mem_append, List.mem_singleton, or_comm]

theorem nodup_names_put {t : Table α} (ht : (names t).Nodup) (name : String) (v : α) :
    (names (put t name v)).Nodup := by
  rw [names_put]
  split_ifs with hname
  · exact ht
  · rw [← List.concat_eq_append]
    exact ht.concat hname

theorem get?_remove_of_ne (t : Table α) {name other : String} (h : name ≠ other) :
    get? (remove t name) other = get? t other := by
  induction t with
  | nil => rfl
  | cons e t ih =>
    obtain ⟨k, v⟩ := e
    rw [remove]
    by_cases hk : k = name
    · simp [hk, get?_cons, h]
    · simp [hk, get?_cons, ih]

theorem sublist_remove (t : Table α) (name : String) : (remove t name).Sublist t := by
  induction t with
  | nil => simp [remove]
  | cons e t ih =>
    obtain ⟨k, v⟩ := e
    rw [remove]
    split_ifs with hk
    · exact List.sublist_cons_self _ _
    · exact ih.cons_cons _

theorem nodup_names_remove {t : Table α} (ht : (names t).Nodup) (name : String) :
    (names (remove t name)).Nodup :=
  ht.sublist ((sublist_remove t name).map _)

theorem get?_remove_self {t : Table α} (ht : (names t).Nodup) (name : String) :
    get? (remove t name) name = none := by
  induction t with
  | nil => rfl
  | cons e t ih =>
    obtain ⟨k, v⟩ := e
    rw [names_cons, List.nodup_cons] at ht
    rw [remove]
    split_ifs with hk
    · rw [get?_eq_none_iff]
      exact hk ▸ ht.1
    · rw [get?_cons, if_neg hk, ih ht.2]

/-- What stands under a name once an entry is moved to another name. -/
theorem get?_put_remove {t : Table α} (ht : (names t).Nodup) (old new : String) (v : α)
    (name : String) : get? (put (remove t old) new v) name =
      if new = name then some v else if old = name then none else get? t name := by
  rw [get?_put]
  by_cases hold : old = name
  · subst hold
    rw [get?_remove_self ht, if_pos rfl]
  · rw [get?_remove_of_ne t hold, if_neg hold]

/-- Entries chosen by their names alone keep what stands under the names that are chosen. -/
theorem get?_filter_names (p : String → Bool) (t : Table α) (name : String) :
    get? (t.filter fun e => p e.1) name = if p name then get? t name else none := by
  induction t with
  | nil => simp
  | cons e t ih =>
    obtain ⟨k, v⟩ := e
    by_cases hk : k = name
    · subst hk
      by_cases hp : p k <;> simp [hp, get?_cons, ih]
    · by_cases hp : p k <;> simp [hp, get?_cons, hk, ih]

/-- Entries chosen by name and value: the one entry of a name is kept if it is chosen. -/
theorem get?_filter {t : Table α} (ht : (names t).Nodup) (p : String × α → Bool) (name : String) :
    get? (t.filter p) name = (get? t name).filter fun v => p (name, v) := by
  induction t with
  | nil => simp
  | cons e t ih =>
    obtain ⟨k, v⟩ := e
    rw [names_cons, List.nodup_cons] at ht
    by_cases hk : k = name
    · subst hk
      have hrest : get? t k = none := (get?_eq_none_iff t k).mpr ht.1
      by_cases hp : p (k, v) = true
      · simp [hp, get?_cons, Option.filter_some]
      · simp [hp, get?_cons, ih ht.2, hrest, Option.filter_some]
    · by_cases hp : p (k, v) = true <;> simp [hp, get?_cons, hk, ih ht.2]

theorem names_filterMap_sublist (items : List β) (key : β → String) (value? : β → Option α) :
    (names (items.filterMap fun y => (value? y).map (key y, ·))).Sublist (items.map key) := by
  induction items with
  | nil => exact List.Sublist.slnil
  | cons y items ih =>
    cases hv : value? y with
    | none =>
      rw [List.filterMap_cons_none (by rw [hv]; rfl)]
      exact ih.cons _
    | some v =>
      rw [List.filterMap_cons_some (by rw [hv]; rfl)]
      exact ih.cons_cons _

/-- A table made of at most one entry for each item, under names that differ. -/
theorem get?_filterMap {items : List β} (key : β → String) (value? : β → Option α)
    (hn : (items.map key).Nodup) {x : β} (hx : x ∈ items) :
    get? (items.filterMap fun y => (value? y).map (key y, ·)) (key x) = value? x := by
  induction items with
  | nil => simp at hx
  | cons y items ih =>
    rw [List.map_cons, List.nodup_cons] at hn
    rcases List.mem_cons.mp hx with rfl | hx
    · have hrest : get? (items.filterMap fun y => (value? y).map (key y, ·)) (key x) = none := by
        rw [get?_eq_none_iff]
        intro hmem
        obtain ⟨e, he, hek⟩ := List.mem_map.mp hmem
        obtain ⟨z, hz, hze⟩ := List.mem_filterMap.mp he
        obtain ⟨v, -, rfl⟩ := Option.map_eq_some_iff.mp hze
        exact hn.1 (hek ▸ List.mem_map_of_mem hz)
      cases hv : value? x with
      | none => simp [hv, hrest]
      | some v => simp [hv, get?_cons]
    · have hne : key y ≠ key x := fun h => hn.1 (h ▸ List.mem_map_of_mem hx)
      cases hv : value? y with
      | none => simp [hv, ih hn.2 hx]
      | some v => simp [hv, get?_cons, hne, ih hn.2 hx]

theorem get?_map {items : List β} (key : β → String) (value : β → α)
    (hn : (items.map key).Nodup) {x : β} (hx : x ∈ items) :
    get? (items.map fun y => (key y, value y)) (key x) = some (value x) := by
  have h := get?_filterMap key (fun y => some (value y)) hn hx
  simpa only [Option.map_some, List.filterMap_eq_map'] using h

/-- A table to which at most one entry was put for each item, under names that differ. -/
theorem get?_foldl_put {items : List β} (key : β → String) (value? : β → Option α)
    (hn : (items.map key).Nodup) (t : Table α) :
    (∀ x ∈ items, get? (items.foldl (fun t x => (value? x).elim t (put t (key x))) t) (key x) =
      (value? x).or (get? t (key x))) ∧
      ∀ name, name ∉ items.map key →
        get? (items.foldl (fun t x => (value? x).elim t (put t (key x))) t) name = get? t name := by
  induction items generalizing t with
  | nil => simp
  | cons y items ih =>
    rw [List.map_cons, List.nodup_cons] at hn
    obtain ⟨hin, hout⟩ := ih hn.2 ((value? y).elim t (put t (key y)))
    have hstep : ∀ name, get? ((value? y).elim t (put t (key y))) name =
        if key y = name then (value? y).or (get? t name) else get? t name := by
      intro name
      cases value? y with
      | none => simp
      | some v => simp [get?_put]
    constructor
    · intro x hx
      rw [List.foldl_cons]
      rcases List.mem_cons.mp hx with rfl | hx
      · rw [hout _ hn.1, hstep, if_pos rfl]
      · have hne : key y ≠ key x := fun h => hn.1 (h ▸ List.mem_map_of_mem hx)
        rw [hin x hx, hstep, if_neg hne]
    · intro name hname
      rw [List.map_cons, List.mem_cons, not_or] at hname
      rw [List.foldl_cons, hout name hname.2, hstep, if_neg (Ne.symm hname.1)]

theorem nodup_names_foldl_put {items : List β} (key : β → String) (value? : β → Option α)
    {t : Table α} (ht : (names t).Nodup) :
    (names (items.foldl (fun t x => (value? x).elim t (put t (key x))) t)).Nodup := by
  induction items generalizing t with
  | nil => exact ht
  | cons y items ih =>
    rw [List.foldl_cons]
    apply ih
    cases value? y with
    | none => exact ht
    | some v => exact nodup_names_put ht (key y) v

/-- What stands under a name comes first once its entry is taken out and put in front. -/
theorem perm_cons_remove {t : Table α} {name : String} {v : α} (h : get? t name = some v) :
    t.Perm ((name, v) :: remove t name) := by
  induction t with
  | nil => cases h
  | cons e t ih =>
    obtain ⟨k, w⟩ := e
    rw [get?_cons] at h
    by_cases hk : k = name
    · rw [if_pos hk] at h
      rw [remove, if_pos hk, hk, Option.some.inj h]
    · rw [if_neg hk] at h
      rw [remove, if_neg hk]
      exact ((ih h).cons (k, w)).trans (List.Perm.swap _ _ _)

theorem remove_eq_filter {t : Table α} (ht : (names t).Nodup) (name : String) :
    remove t name = t.filter fun e => e.1 ≠ name := by
  induction t with
  | nil => rfl
  | cons e t ih =>
    obtain ⟨k, v⟩ := e
    rw [names_cons, List.nodup_cons] at ht
    by_cases hk : k = name
    · have hrest : t.filter (fun e => e.1 ≠ name) = t := by
        rw [List.filter_eq_self]
        intro e he
        have hne : e.1 ≠ name := fun heq => ht.1 (hk ▸ heq ▸ List.mem_map_of_mem he)
        simpa using hne
      rw [remove, if_pos hk, List.filter_cons_of_neg (by simp [hk]), hrest]
    · rw [remove, if_neg hk, List.filter_cons_of_pos (by simp [hk]), ih ht.2]

/-- What is put under a name makes no difference to entries of other names. -/
theorem filter_put {p : String → Bool} {name : String} (h : p name = false) (t : Table α) (v : α) :
    (put t name v).filter (fun e => p e.1) = t.filter fun e => p e.1 := by
  induction t with
  | nil => simp [put, h]
  | cons e t ih =>
    obtain ⟨k, w⟩ := e
    by_cases hk : k = name
    · simp [put, hk, h]
    · by_cases hp : p k = true <;> simp [put, hk, hp, ih]

/-- Among the entries of some names, one of those is put as it is among all entries. -/
theorem filter_put_of_kept {p : String → Bool} {name : String} (h : p name = true) (t : Table α)
    (v : α) : (put t name v).filter (fun e => p e.1) = put (t.filter fun e => p e.1) name v := by
  induction t with
  | nil => simp [put, h]
  | cons e t ih =>
    obtain ⟨k, w⟩ := e
    by_cases hk : k = name
    · simp [put, hk, h]
    · by_cases hp : p k = true <;> simp [put, hk, hp, ih]

theorem filter_remove_of_kept {p : String → Bool} {name : String} (h : p name = true)
    (t : Table α) :
    (remove t name).filter (fun e => p e.1) = remove (t.filter fun e => p e.1) name := by
  induction t with
  | nil => rfl
  | cons e t ih =>
    obtain ⟨k, w⟩ := e
    by_cases hk : k = name
    · simp [remove, hk, h]
    · by_cases hp : p k = true <;> simp [remove, hk, hp, ih]

theorem get?_of_perm {t u : Table α} (ht : (names t).Nodup) (h : t.Perm u) (name : String) :
    get? u name = get? t name := by
  have hu : (names u).Nodup := (h.map Prod.fst).nodup_iff.mp ht
  cases hv : get? t name with
  | none =>
    rw [get?_eq_none_iff] at hv ⊢
    exact fun hmem => hv ((h.map Prod.fst).mem_iff.mpr hmem)
  | some v => exact get?_of_mem hu (h.mem_iff.mp (mem_of_get? hv))

/-- Tables of the same entries under names that differ are permutations of each other. -/
theorem perm_of_get?_eq {t u : Table α} (ht : (names t).Nodup) (hu : (names u).Nodup)
    (h : ∀ name, get? u name = get? t name) : t.Perm u := by
  rw [List.perm_ext_iff_of_nodup (List.Nodup.of_map _ ht) (List.Nodup.of_map _ hu)]
  rintro ⟨name, v⟩
  constructor
  · intro hmem
    exact mem_of_get? ((h name).trans (get?_of_mem ht hmem))
  · intro hmem
    exact mem_of_get? ((h name).symm.trans (get?_of_mem hu hmem))

section Groups

variable (key : β → String) (items : List β) (x : β)

theorem groupBy_concat : groupBy key (items ++ [x]) =
    put (groupBy key items) (key x) ((get? (groupBy key items) (key x)).getD [] ++ [x]) := by
  rw [groupBy, List.foldl_append]
  rfl

/-- Names of groups stand in the order in which they first come up. -/
theorem names_groupBy : names (groupBy key items) = (items.map key).eraseDups := by
  induction items using List.reverseRecOn with
  | nil => rfl
  | append_singleton items x ih =>
    rw [groupBy_concat, names_put, ih, List.map_append, List.map_singleton, eraseDups_concat]
    simp only [List.mem_eraseDups]

theorem nodup_names_groupBy : (names (groupBy key items)).Nodup := by
  induction items using List.reverseRecOn with
  | nil => exact List.nodup_nil
  | append_singleton items x ih =>
    rw [groupBy_concat]
    exact nodup_names_put ih _ _

/-- A group holds the items of its name in their order. -/
theorem getD_get?_groupBy (name : String) :
    (get? (groupBy key items) name).getD [] = items.filter (key · = name) := by
  induction items using List.reverseRecOn with
  | nil => rfl
  | append_singleton items x ih =>
    rw [groupBy_concat, get?_put, List.filter_append, ← ih]
    by_cases hname : key x = name
    · simp [hname]
    · simp [hname]

/-- One more item in the group of its name. -/
theorem perm_put_concat (t : Table (List β)) (name : String) :
    ((put t name ((get? t name).getD [] ++ [x])).flatMap Prod.snd).Perm (t.flatMap Prod.snd ++ [x]) := by
  induction t with
  | nil => rfl
  | cons g t ih =>
    obtain ⟨k, members⟩ := g
    rw [put, get?_cons]
    by_cases hk : k = name
    · rw [if_pos hk, if_pos hk, List.flatMap_cons, List.flatMap_cons]
      simp only [Option.getD_some, List.append_assoc]
      exact (List.perm_append_comm).append_left members
    · rw [if_neg hk, if_neg hk, List.flatMap_cons, List.flatMap_cons, List.append_assoc]
      exact ih.append_left members

/-- Every item is in one group, once. -/
theorem perm_groupBy : ((groupBy key items).flatMap Prod.snd).Perm items := by
  induction items using List.reverseRecOn with
  | nil => rfl
  | append_singleton items x ih =>
    rw [groupBy_concat]
    exact (perm_put_concat x _ _).trans (ih.append_right [x])

theorem mem_groupBy {g : String × List β} (hg : g ∈ groupBy key items) :
    g.2 = items.filter (key · = g.1) := by
  rw [← getD_get?_groupBy, get?_of_mem (nodup_names_groupBy key items) hg, Option.getD_some]

end Groups

end Table

end Intake
