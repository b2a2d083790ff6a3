import Intake.Form.Nested
import Intake.Proofs.Table

namespace Intake.Form

/-- A map with a value stored at a path, or the name at which the path meets a value of another shape. -/
def storeAt : List String → Bool → Value → Table Value → Except String (Table Value)
  | [], _, _, _ => .error ""
  | [last], append, v, t =>
    match joined append (Table.get? t last) v with
    | some w => .ok (Table.put t last w)
    | none => .error last
  | part :: rest, append, v, t =>
    match (Table.get? t part).getD .null with
    | .null => (storeAt rest append v []).map fun m => Table.put t part (.map m)
    | .map m => (storeAt rest append v m).map fun m => Table.put t part (.map m)
    | _ => .error part

/-- An attempt that either succeeds as a whole or leaves the map as it was. -/
def Descent.ofAttempt (t : Table Value) : Except String (Table Value) → Descent
  | .ok t' => ⟨t', none⟩
  | .error name => ⟨t, some name⟩

variable {path rest : List String} {append isRetyped : Bool} {t t' m : Table Value}
  {key last part segment : String} {v w : Value} {before after : List (String × Value)}

theorem storeAt_singleton : storeAt [last] append v t =
    match joined append (Table.get? t last) v with
    | some w => .ok (Table.put t last w)
    | none => .error last := by
  rw [storeAt]

theorem storeAt_under (hne : rest ≠ []) (append : Bool) (v : Value)
    (h : Table.get? t part = some (.map m)) :
    storeAt (part :: rest) append v t =
      (storeAt rest append v m).map fun m => Table.put t part (.map m) := by
  cases rest with
  | nil => exact absurd rfl hne
  | cons next rest =>
    rw [storeAt.eq_def]
    simp only [h]
    rfl

/-- Null makes way for a map as an absent entry does. -/
theorem storeAt_under_null (hne : rest ≠ []) (append : Bool) (v : Value)
    (h : (Table.get? t part).getD .null = .null) :
    storeAt (part :: rest) append v t =
      (storeAt rest append v []).map fun m => Table.put t part (.map m) := by
  cases rest with
  | nil => exact absurd rfl hne
  | cons next rest =>
    rw [storeAt.eq_def]
    simp only [h]

theorem storeAt_under_other (hne : rest ≠ []) (append : Bool) (v : Value)
    (h : Table.get? t part = some w) (hnull : w ≠ .null) (hmap : ∀ m, w ≠ .map m) :
    storeAt (part :: rest) append v t = .error part := by
  cases rest with
  | nil => exact absurd rfl hne
  | cons next rest =>
    rw [storeAt.eq_def]
    simp only [h, Option.getD_some]

/-- What can stand under a name on the way down a path. -/
theorem standing_cases (t : Table Value) (part : String) :
    (Table.get? t part).getD .null = .null ∨ (∃ m, Table.get? t part = some (.map m)) ∨
      ∃ w, Table.get? t part = some w ∧ w ≠ .null ∧ ∀ m, w ≠ .map m := by
  cases h : Table.get? t part with
  | none => exact .inl rfl
  | some w =>
    cases w with
    | null => exact .inl rfl
    | map m => exact .inr (.inl ⟨m, rfl⟩)
    | _ => exact .inr (.inr ⟨_, rfl, nofun, nofun⟩)

/-- In a map without entries nothing stands in the way of a path. -/
theorem exists_storeAt_empty (hne : path ≠ []) (append : Bool) (v : Value) :
    ∃ m, storeAt path append v [] = .ok m := by
  induction path with
  | nil => exact absurd rfl hne
  | cons part rest ih =>
    cases rest with
    | nil => exact ⟨_, storeAt_singleton⟩
    | cons next rest =>
      obtain ⟨m, hm⟩ := ih (List.cons_ne_nil _ _)
      rw [storeAt_under_null (List.cons_ne_nil _ _) append v rfl, hm]
      exact ⟨_, rfl⟩

theorem descend_singleton : descend [last] append v t =
    match joined append (Table.get? t last) v with
    | some w => ⟨Table.put t last w, none⟩
    | none => ⟨t, some last⟩ :=
  rfl

theorem descend_under (hne : rest ≠ []) (h : Table.get? t part = some (.map m)) :
    descend (part :: rest) append v t = (descend rest append v m).inside part t := by
  cases rest with
  | nil => exact absurd rfl hne
  | cons next rest =>
    rw [descend.eq_def]
    simp only [h]
    rfl

theorem descend_under_null (hne : rest ≠ []) (h : (Table.get? t part).getD .null = .null) :
    descend (part :: rest) append v t =
      (descend rest append v []).inside part (Table.put t part (.map [])) := by
  cases rest with
  | nil => exact absurd rfl hne
  | cons next rest =>
    rw [descend.eq_def]
    simp only [h]

theorem descend_under_other (hne : rest ≠ []) (h : Table.get? t part = some w) (hnull : w ≠ .null)
    (hmap : ∀ m, w ≠ .map m) : descend (part :: rest) append v t = ⟨t, some part⟩ := by
  cases rest with
  | nil => exact absurd rfl hne
  | cons next rest =>
    rw [descend.eq_def]
    simp only [h, Option.getD_some]

/-- A way down either stores its value or changes nothing: once it has put in a map, it goes on through
maps without entries, where it meets no value. -/
theorem descend_eq (hne : path ≠ []) (append : Bool) (v : Value) (t : Table Value) :
    descend path append v t = .ofAttempt t (storeAt path append v t) := by
  induction path generalizing t with
  | nil => exact absurd rfl hne
  | cons part rest ih =>
    by_cases hrest : rest = []
    · subst hrest
      rw [descend_singleton, storeAt_singleton]
      cases joined append (Table.get? t part) v <;> rfl
    · rcases standing_cases t part with h | ⟨m, h⟩ | ⟨w, h, hnull, hmap⟩
      · obtain ⟨m, hm⟩ := exists_storeAt_empty hrest append v
        rw [descend_under_null hrest h, ih hrest, storeAt_under_null hrest append v h, hm]
        simp only [Descent.inside, Descent.ofAttempt, Table.put_put, Except.map]
      · rw [descend_under hrest h, ih hrest, storeAt_under hrest append v h]
        cases storeAt rest append v m with
        | ok m' => rfl
        | error name =>
          -- The inner map is written back as it was.
          simp only [Descent.inside, Descent.ofAttempt, Except.map, Table.put_of_get? h]
      · rw [descend_under_other hrest h hnull hmap, storeAt_under_other hrest append v h hnull hmap]
        rfl

/-- What storing a value at a path does to a map, one case for each way down. -/
inductive Stores (append : Bool) (v : Value) : List String → Table Value → Table Value → Prop where
  | last {t : Table Value} {name : String} {w : Value}
      (h : joined append (Table.get? t name) v = some w) : Stores append v [name] t (Table.put t name w)
  | fresh {t m : Table Value} {name : String} {rest : List String}
      (hnull : (Table.get? t name).getD .null = .null) (h : Stores append v rest [] m) :
      Stores append v (name :: rest) t (Table.put t name (.map m))
  | under {t m m' : Table Value} {name : String} {rest : List String}
      (hmap : Table.get? t name = some (.map m)) (h : Stores append v rest m m') :
      Stores append v (name :: rest) t (Table.put t name (.map m'))

theorem Stores.path_ne (h : Stores append v path t t') : path ≠ [] := by
  cases h <;> exact List.cons_ne_nil _ _

theorem storeAt_of_stores (h : Stores append v path t t') : storeAt path append v t = .ok t' := by
  induction h with
  | last h => rw [storeAt_singleton, h]
  | fresh hnull h ih =>
    rw [storeAt_under_null h.path_ne append v hnull, ih]
    rfl
  | under hmap h ih =>
    rw [storeAt_under h.path_ne append v hmap, ih]
    rfl

theorem stores_of_storeAt (hne : path ≠ []) (h : storeAt path append v t = .ok t') :
    Stores append v path t t' := by
  induction path generalizing t t' with
  | nil => exact absurd rfl hne
  | cons part rest ih =>
    by_cases hrest : rest = []
    · subst hrest
      rw [storeAt_singleton] at h
      cases hjoined : joined append (Table.get? t part) v with
      | none =>
        rw [hjoined] at h
        cases h
      | some w =>
        rw [hjoined] at h
        obtain rfl := Except.ok.inj h
        exact .last hjoined
    · rcases standing_cases t part with hnull | ⟨m, hmap⟩ | ⟨w, hw, hnull, hmap⟩
      · obtain ⟨m, hm⟩ := exists_storeAt_empty hrest append v
        rw [storeAt_under_null hrest append v hnull, hm] at h
        obtain rfl := Except.ok.inj h
        exact .fresh hnull (ih hrest hm)
      · rw [storeAt_under hrest append v hmap] at h
        cases hm : storeAt rest append v m with
        | error name =>
          rw [hm] at h
          cases h
        | ok m' =>
          rw [hm] at h
          obtain rfl := Except.ok.inj h
          exact .under hmap (ih hrest hm)
      · rw [storeAt_under_other hrest append v hw hnull hmap] at h
        cases h

/-- The line in the log about a pair that is dropped. -/
def conflictAt (key segment : String) : Event :=
  ⟨.debug, "key_conflict", [("key", .text key), ("segment", .text segment)]⟩

theorem store_of_nil (h : (Key.ofText key).path = []) (t : Table Value) (v : Value) :
    store t key v = ⟨t, false, []⟩ := by
  simp only [store, h, List.isEmpty_nil, if_true]

theorem store_of_ok (hne : (Key.ofText key).path ≠ [])
    (h : storeAt (Key.ofText key).path (Key.ofText key).append v t = .ok t') :
    store t key v = ⟨t', true, []⟩ := by
  have hpath : ¬(Key.ofText key).path.isEmpty = true := by simpa using hne
  simp only [store, if_neg hpath, descend_eq hne, h, Descent.ofAttempt]

theorem store_of_error (hne : (Key.ofText key).path ≠ [])
    (h : storeAt (Key.ofText key).path (Key.ofText key).append v t = .error segment) :
    store t key v = ⟨t, false, [conflictAt key segment]⟩ := by
  have hpath : ¬(Key.ofText key).path.isEmpty = true := by simpa using hne
  simp only [store, if_neg hpath, descend_eq hne, h, Descent.ofAttempt, conflictAt]

/-- A pair is stored as a whole where its path can be gone down, and else dropped. -/
theorem store_cases (t : Table Value) (key : String) (v : Value) :
    (∃ t', Stores (Key.ofText key).append v (Key.ofText key).path t t' ∧
      store t key v = ⟨t', true, []⟩) ∨
      (store t key v).accepted = false ∧ (store t key v).table = t := by
  by_cases hne : (Key.ofText key).path = []
  · rw [store_of_nil hne]
    exact .inr ⟨rfl, rfl⟩
  · cases h : storeAt (Key.ofText key).path (Key.ofText key).append v t with
    | ok t' => exact .inl ⟨t', stores_of_storeAt hne h, store_of_ok hne h⟩
    | error segment =>
      rw [store_of_error hne h]
      exact .inr ⟨rfl, rfl⟩

theorem store_of_stores (h : Stores (Key.ofText key).append v (Key.ofText key).path t t') :
    store t key v = ⟨t', true, []⟩ :=
  store_of_ok h.path_ne (storeAt_of_stores h)

theorem stores_of_accepted (h : (store t key v).accepted = true) :
    Stores (Key.ofText key).append v (Key.ofText key).path t (store t key v).table := by
  rcases store_cases t key v with ⟨t', hstores, hstore⟩ | ⟨hno, -⟩
  · rw [hstore]
    exact hstores
  · rw [h] at hno
    cases hno

theorem table_of_rejected (h : (store t key v).accepted = false) : (store t key v).table = t := by
  rcases store_cases t key v with ⟨t', -, hstore⟩ | ⟨-, htable⟩
  · rw [hstore] at h
    cases h
  · exact htable

/-- A map after pairs were stored in it one after another. -/
def storeAll (t : Table Value) (pairs : List (String × Value)) : Table Value :=
  pairs.foldl (fun t pair => (store t pair.1 pair.2).table) t

theorem storeAll_cons (t : Table Value) (key : String) (v : Value) (pairs : List (String × Value)) :
    storeAll t ((key, v) :: pairs) = storeAll (store t key v).table pairs := rfl

/-- An attempt to store a value under a key in a map. -/
structure Attempt where
  table : Table Value
  key : String
  value : Value

def Attempt.stored (a : Attempt) : Stored := store a.table a.key a.value

/-- The attempts that storing pairs one after another comes to. -/
def attempts (t : Table Value) : List (String × Value) → List Attempt
  | [] => []
  | (key, v) :: pairs => ⟨t, key, v⟩ :: attempts (store t key v).table pairs

theorem result_build (t : Table Value) (pairs : List (String × Value)) :
    (build t pairs).result = .ok (storeAll t pairs) := by
  induction pairs generalizing t with
  | nil => rfl
  | cons pair pairs ih => exact ih _

/-- The value of a pair as it is stored. -/
def received (isRetyped : Bool) (v : Value) : Except Fault Value :=
  if isRetyped then retypeValue v else .ok v

/-- Pairs stored one after another in a map, their texts retyped or not. -/
def fill (isRetyped : Bool) (t : Table Value) (pairs : List (String × Value)) : Reading :=
  if isRetyped then buildRetyped t pairs else build t pairs

theorem fill_nil (isRetyped : Bool) (t : Table Value) : fill isRetyped t [] = .silent (.ok t) := by
  cases isRetyped <;> rfl

theorem fill_cons_of_ok (h : received isRetyped v = .ok w) (t : Table Value) (key : String)
    (pairs : List (String × Value)) :
    fill isRetyped t ((key, v) :: pairs) =
      (fill isRetyped (store t key w).table pairs).after (store t key w).events := by
  cases isRetyped with
  | false =>
    obtain rfl := Except.ok.inj h
    rfl
  | true =>
    have hv : retypeValue v = .ok w := h
    simp only [fill, if_true, buildRetyped, hv]

theorem fill_cons_of_error {f : Fault} (h : received isRetyped v = .error f) (t : Table Value)
    (key : String) (pairs : List (String × Value)) :
    fill isRetyped t ((key, v) :: pairs) = .silent (.error f) := by
  cases isRetyped with
  | false => cases h
  | true =>
    have hv : retypeValue v = .error f := h
    simp only [fill, if_true, buildRetyped, hv]

theorem Reading.after_after (r : Reading) (later earlier : List Event) :
    (r.after later).after earlier = r.after (earlier ++ later) := by
  simp only [Reading.after, List.append_assoc]

/-- What is stored after some pairs goes into the map that they make. -/
theorem fill_append (h : (fill isRetyped t before).result = .ok t') (after : List (String × Value)) :
    fill isRetyped t (before ++ after) =
      (fill isRetyped t' after).after (fill isRetyped t before).events := by
  induction before generalizing t with
  | nil =>
    rw [fill_nil] at h ⊢
    obtain rfl := Except.ok.inj h
    rfl
  | cons pair before ih =>
    obtain ⟨key, v⟩ := pair
    cases hv : received isRetyped v with
    | error f =>
      rw [fill_cons_of_error hv] at h
      cases h
    | ok w =>
      rw [fill_cons_of_ok hv] at h ⊢
      rw [List.cons_append, fill_cons_of_ok hv, ih h, Reading.after_after]
      rfl

/-- A pair that is rejected changes nothing in the map, at any depth, and the pairs after it are stored as
if it had not been there; only the log tells of it. -/
theorem rejected_pair_changes_nothing (h : (store t key v).accepted = false) :
    (store t key v).table = t ∧
      ∀ (isRetyped : Bool) (before after : List (String × Value)) (sent : Value),
        (ofPairs isRetyped before).result = .ok t → received isRetyped sent = .ok v →
          (ofPairs isRetyped (before ++ (key, sent) :: after)).result =
              (ofPairs isRetyped (before ++ after)).result ∧
            ∃ later,
              (ofPairs isRetyped (before ++ after)).events =
                  (ofPairs isRetyped before).events ++ later ∧
                (ofPairs isRetyped (before ++ (key, sent) :: after)).events =
                  (ofPairs isRetyped before).events ++ ((store t key v).events ++ later) := by
  have htable := table_of_rejected h
  refine ⟨htable, fun isRetyped before after sent hbefore hsent => ?_⟩
  have hwithout : ofPairs isRetyped (before ++ after) =
      (fill isRetyped t after).after (ofPairs isRetyped before).events := fill_append hbefore after
  have hwith : ofPairs isRetyped (before ++ (key, sent) :: after) =
      ((fill isRetyped t after).after (store t key v).events).after
        (ofPairs isRetyped before).events := by
    have hpair := fill_cons_of_ok hsent t key after
    rw [htable] at hpair
    rw [← hpair]
    exact fill_append hbefore _
  rw [hwith, hwithout]
  exact ⟨rfl, _, rfl, rfl⟩

/-- A list inside a map. -/
def cart : Table Value := [("cart", .map [("items", .list [.int 1])])]

theorem rejected_pair_changes_nothing_cart :
    (store cart "cart[items][0][size]" .null).accepted = false ∧
      (store cart "cart[items][0][size]" .null).table = cart ∧
      (ofPairs true [("cart.items[]", .text "1"), ("cart[items][0][size]", .text "null"),
          ("cart.paid", .text "false")]).result =
        (ofPairs true [("cart.items[]", .text "1"), ("cart.paid", .text "false")]).result := by
  have hrejected : (store cart "cart[items][0][size]" .null).accepted = false := by
    decide +kernel
  have hbefore : (ofPairs true [("cart.items[]", .text "1")]).result = .ok cart := rfl
  have hsent : received true (.text "null") = .ok .null := rfl
  obtain ⟨htable, hbuild⟩ := rejected_pair_changes_nothing hrejected
  exact ⟨hrejected, htable, (hbuild true _ [("cart.paid", .text "false")] _ hbefore hsent).1⟩

end Intake.Form
