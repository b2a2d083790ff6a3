import Intake.Proofs.Reading.Leaves
import Intake.Proofs.Reading.Queries
import Intake.Proofs.Reading.Texts

namespace Intake

/-- A text is somewhere in a value. -/
inductive Value.Holds (s : String) : Value → Prop where
  | text : Holds s (.text s)
  | item {items : List Value} {v : Value} (hv : v ∈ items) (h : Holds s v) : Holds s (.list items)
  | entry {es : Table Value} {e : String × Value} (he : e ∈ es) (h : Holds s e.2) : Holds s (.map es)

namespace Form

/-- Scalars whose texts stand for them. -/
inductive IsPlainScalar : Value → Prop where
  | null : IsPlainScalar .null
  | bool (b : Bool) : IsPlainScalar (.bool b)
  | int {n : Int} (h : (Value.natText n.natAbs).length ≤ maxDigits) : IsPlainScalar (.int n)
  | text {s : String} (h : retype s = .ok (.text s)) : IsPlainScalar (.text s)

/-- Values that a query can name: scalars, lists of scalars that are not empty, maps that are not empty. -/
inductive IsNameable : Value → Prop where
  | scalar {v : Value} (h : IsPlainScalar v) : IsNameable v
  | list {items : List Value} (hne : items ≠ []) (h : ∀ v ∈ items, IsPlainScalar v) :
      IsNameable (.list items)
  | map {es : Table Value} (hne : es ≠ []) (hn : (Table.names es).Nodup)
      (hkeys : ∀ e ∈ es, IsKey e.1) (h : ∀ e ∈ es, IsNameable e.2) : IsNameable (.map es)

/-- Data that a query can name entry by entry. -/
structure Nameable (data : Table Value) : Prop where
  nodup : (Table.names data).Nodup
  keys : ∀ e ∈ data, IsKey e.1
  values : ∀ e ∈ data, IsNameable e.2

/-- A scalar with a way to it that can be written. -/
structure Leaf.IsSound (l : Leaf) : Prop where
  path_ne : l.path ≠ []
  keys : ∀ k ∈ l.path, IsKey k
  scalar : IsPlainScalar l.value

variable {v : Value} {s k : String} {es data t t' : Table Value} {l : Leaf} {ls : List Leaf}

theorem scalarText_text (s : String) : scalarText (.text s) = s := by
  simp [scalarText, Value.display, Value.displayChars]

theorem retype_scalarText (h : IsPlainScalar v) : retype (scalarText v) = .ok v := by
  cases h with
  | null => rfl
  | bool b => cases b <;> rfl
  | int h => exact retype_intText h
  | text h =>
    rw [scalarText_text]
    exact h

theorem leaves_of_scalar (h : IsPlainScalar v) (k : String) : leaves k v = [⟨[k], false, v⟩] := by
  cases h <;> simp [leaves]

theorem joined_of_scalar (h : IsPlainScalar v) : joined false none v = some v := by
  cases h <;> rfl

theorem leaves_ne_nil (h : IsNameable v) (k : String) : leaves k v ≠ [] := by
  induction h generalizing k with
  | scalar h =>
    rw [leaves_of_scalar h]
    exact List.cons_ne_nil _ _
  | list hne _ => simpa [leaves] using hne
  | @map es hne _ _ _ ih =>
    cases es with
    | nil => exact absurd rfl hne
    | cons e es =>
      obtain ⟨k', v⟩ := e
      have hv := ih _ List.mem_cons_self k'
      simp [leaves, entryLeaves, hv]

theorem mem_entryLeaves : l ∈ entryLeaves es ↔ ∃ e ∈ es, l ∈ leaves e.1 e.2 := by
  induction es with
  | nil => simp [entryLeaves]
  | cons e es ih =>
    obtain ⟨k, v⟩ := e
    rw [entryLeaves, List.mem_append, ih]
    simp only [List.mem_cons, exists_eq_or_imp]

theorem isSound_of_mem_leaves (h : IsNameable v) (hk : IsKey k) : ∀ l ∈ leaves k v, l.IsSound := by
  have hone : ∀ k' ∈ [k], IsKey k' := by simpa using hk
  induction h generalizing k with
  | scalar h =>
    intro l hl
    rw [leaves_of_scalar h] at hl
    obtain rfl := List.mem_singleton.mp hl
    exact ⟨List.cons_ne_nil _ _, hone, h⟩
  | list _ h =>
    intro l hl
    rw [leaves] at hl
    obtain ⟨v, hv, rfl⟩ := List.mem_map.mp hl
    exact ⟨List.cons_ne_nil _ _, hone, h v hv⟩
  | map _ _ hkeys _ ih =>
    intro l hl
    rw [leaves] at hl
    obtain ⟨inner, hinner, rfl⟩ := List.mem_map.mp hl
    obtain ⟨e, he, hle⟩ := mem_entryLeaves.mp hinner
    have hsound := ih e he (hkeys e he) (by simpa using hkeys e he) inner hle
    refine ⟨List.cons_ne_nil _ _, fun k' hk' => ?_, hsound.scalar⟩
    rcases List.mem_cons.mp hk' with rfl | hk'
    · exact hk
    · exact hsound.keys k' hk'

theorem isSound_of_mem_entryLeaves (h : Nameable data) : ∀ l ∈ entryLeaves data, l.IsSound := by
  intro l hl
  obtain ⟨e, he, hle⟩ := mem_entryLeaves.mp hl
  exact isSound_of_mem_leaves (h.values e he) (h.keys e he) l hle

/-- Entries under new names are put behind those that are there. -/
theorem storeLeaves_entryLeaves (hn : (Table.names (t ++ es)).Nodup)
    (h : ∀ e ∈ es, ∀ t, Table.get? t e.1 = none →
      storeLeaves (leaves e.1 e.2) t = .ok (Table.put t e.1 e.2)) :
    storeLeaves (entryLeaves es) t = .ok (t ++ es) := by
  induction es generalizing t with
  | nil => rw [entryLeaves, List.append_nil]; rfl
  | cons e es ih =>
    obtain ⟨k, v⟩ := e
    have hk : Table.get? t k = none := by
      rw [Table.get?_eq_none_iff]
      rw [Table.names_append, List.nodup_append] at hn
      exact fun hmem => hn.2.2 k hmem k List.mem_cons_self rfl
    have hfirst := h (k, v) List.mem_cons_self t hk
    rw [Table.put_of_absent hk] at hfirst
    have hn' : (Table.names (t ++ [(k, v)] ++ es)).Nodup := by rwa [List.append_assoc]
    rw [entryLeaves, storeLeaves_append hfirst, ih hn' fun e he => h e (List.mem_cons_of_mem _ he),
      List.append_assoc, List.singleton_append]

/-- The scalars of a value, stored one after another, make the value again. -/
theorem storeLeaves_leaves (h : IsNameable v) (hk : IsKey k) (ht : Table.get? t k = none) :
    storeLeaves (leaves k v) t = .ok (Table.put t k v) := by
  induction h generalizing k t with
  | scalar h =>
    rw [leaves_of_scalar h, storeLeaves, storeAt, ht, joined_of_scalar h]
    rfl
  | list hne _ =>
    rw [leaves]
    exact storeLeaves_items_absent hne ht
  | @map es hne hn hkeys h ih =>
    have hls : entryLeaves es ≠ [] := by
      cases es with
      | nil => exact absurd rfl hne
      | cons e es =>
        obtain ⟨k', v⟩ := e
        have hv := leaves_ne_nil (h _ List.mem_cons_self) k'
        simp [entryLeaves, hv]
    have hpaths : ∀ l ∈ entryLeaves es, l.path ≠ [] :=
      fun l hl => (isSound_of_mem_entryLeaves ⟨hn, hkeys, h⟩ l hl).path_ne
    have hrun := @storeLeaves_entryLeaves es [] hn fun e he t ht => ih e he (hkeys e he) ht
    rw [leaves]
    exact storeLeaves_under_absent hls hpaths ht hrun

/-- Pairs that write scalars are built up as these are stored. -/
theorem buildRetyped_pairs (hls : ∀ l ∈ ls, l.IsSound) (h : storeLeaves ls t = .ok t') :
    (buildRetyped t (ls.map fun l => (l.key "", .text (scalarText l.value)))).result = .ok t' := by
  induction ls generalizing t with
  | nil =>
    obtain rfl := Except.ok.inj h
    rfl
  | cons l ls ih =>
    have hl := hls l List.mem_cons_self
    rw [storeLeaves] at h
    cases hstore : storeAt l.path l.append l.value t with
    | error e =>
      rw [hstore] at h
      cases h
    | ok u =>
      rw [hstore] at h
      have hkey := Key.ofText_key hl.path_ne hl.keys
      have htable : (store t (l.key "") l.value).table = u := by
        rw [store_of_ok (by rw [hkey]; exact hl.path_ne) (by rw [hkey]; exact hstore)]
      rw [List.map_cons, buildRetyped, retypeValue, retype_scalarText hl.scalar]
      dsimp only
      rw [htable]
      exact ih (fun l hm => hls l (List.mem_cons_of_mem _ hm)) h

theorem hasSurrogate_append (s t : List Char) :
    Text.hasSurrogate (s ++ t) = (Text.hasSurrogate s || Text.hasSurrogate t) := List.any_append

theorem hasSurrogate_pathText {name : String} {path : List String}
    (hname : Text.hasSurrogate name.toList = false) (h : ∀ k ∈ path, IsKey k) :
    Text.hasSurrogate (pathText name path).toList = false := by
  induction path generalizing name with
  | nil => exact hname
  | cons k path ih =>
    have hk := (h k List.mem_cons_self).whole
    rw [pathText, List.foldl_cons, ← pathText]
    refine ih ?_ fun k hk => h k (List.mem_cons_of_mem _ hk)
    rw [inside]
    split_ifs
    · exact hk
    · simp only [String.toList_append, hasSurrogate_append, hname, hk]
      rfl

theorem hasSurrogate_key (hl : l.IsSound) : Text.hasSurrogate (l.key "").toList = false := by
  rw [Leaf.key, String.toList_append, hasSurrogate_append, hasSurrogate_pathText rfl hl.keys]
  split_ifs <;> rfl

theorem surrogate?_of_lt {c : Char} (h : c.toNat < 128) : Text.surrogate? c = none := by
  have hlow : ¬Text.surrogateBase ≤ c.toNat := by
    rw [Text.surrogateBase]
    omega
  simp [Text.surrogate?, hlow]

theorem hasSurrogate_scalarText (h : IsPlainScalar v)
    (hs : ∀ s, v = .text s → Text.hasSurrogate s.toList = false) :
    Text.hasSurrogate (scalarText v).toList = false := by
  cases h with
  | null => rfl
  | bool b => cases b <;> rfl
  | @int n h =>
    have htext : (scalarText (.int n)).toList = Value.intText n := String.toList_ofList
    rw [htext, Text.hasSurrogate, List.any_eq_false]
    intro c hc
    have hascii := Nat.lt_of_le_of_lt (Value.toNat_of_mem_intText hc).2 (by decide : 57 < 128)
    simp [surrogate?_of_lt hascii]
  | text h =>
    rw [scalarText_text]
    exact hs _ rfl

/-- The texts in a value that a query can name are among its scalars. -/
theorem holds_iff_of_isNameable (h : IsNameable v) (k : String) :
    v.Holds s ↔ ∃ l ∈ leaves k v, l.value = .text s := by
  have hscalar {w : Value} (hw : IsPlainScalar w) : w.Holds s ↔ w = .text s := by
    constructor
    · intro hs
      cases hs with
      | text => rfl
      | item => cases hw
      | entry => cases hw
    · rintro rfl
      exact .text
  induction h generalizing k with
  | scalar h =>
    rw [leaves_of_scalar h, hscalar h]
    simp
  | list _ h =>
    rw [leaves]
    constructor
    · intro hs
      cases hs with
      | item hv hs => exact ⟨_, List.mem_map_of_mem hv, (hscalar (h _ hv)).mp hs⟩
    · rintro ⟨l, hl, hs⟩
      obtain ⟨w, hw, rfl⟩ := List.mem_map.mp hl
      exact .item hw ((hscalar (h w hw)).mpr hs)
  | map _ _ _ _ ih =>
    rw [leaves]
    constructor
    · intro hs
      cases hs with
      | @entry _ e he hs =>
        obtain ⟨l, hl, hs⟩ := (ih e he e.1).mp hs
        exact ⟨_, List.mem_map_of_mem (mem_entryLeaves.mpr ⟨e, he, hl⟩), hs⟩
    · rintro ⟨l, hl, hs⟩
      obtain ⟨inner, hinner, rfl⟩ := List.mem_map.mp hl
      obtain ⟨e, he, hle⟩ := mem_entryLeaves.mp hinner
      exact .entry he ((ih e he e.1).mpr ⟨inner, hle, hs⟩)

theorem holds_iff_of_nameable (h : Nameable data) :
    (Value.map data).Holds s ↔ ∃ l ∈ entryLeaves data, l.value = .text s := by
  constructor
  · intro hs
    cases hs with
    | @entry _ e he hs =>
      obtain ⟨l, hl, hs⟩ := (holds_iff_of_isNameable (h.values e he) e.1).mp hs
      exact ⟨l, mem_entryLeaves.mpr ⟨e, he, hl⟩, hs⟩
  · rintro ⟨l, hl, hs⟩
    obtain ⟨e, he, hl⟩ := mem_entryLeaves.mp hl
    exact .entry he ((holds_iff_of_isNameable (h.values e he) e.1).mpr ⟨l, hl, hs⟩)

theorem readBody_text (isRetyped : Bool) (text : String) (contentType : Option String) :
    (readBody isRetyped (.text text) contentType).result =
      (ofPairs isRetyped ((readQuery (Text.trim text.toList)).map
        fun (name, v) => (name, .text v))).result := by
  rw [readBody_result]
  rfl

/-- Data that a query can name comes back from its query, in the same order, when no text in it holds half
of a surrogate pair; else it has no query. -/
theorem query_inverse_iff (h : Nameable data) (contentType : Option String) :
    (∃ text, toQuery "" data = .ok text ∧
      (readBody true (.text text) contentType).result = .ok data) ↔
      ∀ s, (Value.map data).Holds s → Text.hasSurrogate s.toList = false := by
  have hsound := isSound_of_mem_entryLeaves h
  have hpairs : toQuery "" data = writeQuery ((entryLeaves data).map (Leaf.pair "")) := by
    rw [toQuery, flattenEntries_eq]
  constructor
  · rintro ⟨text, hwrite, -⟩ s hs
    obtain ⟨l, hl, hvalue⟩ := (holds_iff_of_nameable h).mp hs
    obtain ⟨hwhole, -⟩ := writeQuery_eq_ok_iff.mp (hpairs.symm.trans hwrite)
    have hl := (hwhole _ (List.mem_map_of_mem hl)).2
    rwa [Leaf.pair, hvalue, scalarText_text] at hl
  · intro hs
    have hwhole : ∀ p ∈ (entryLeaves data).map (Leaf.pair ""),
        Text.hasSurrogate p.1.toList = false ∧ Text.hasSurrogate p.2.toList = false := by
      intro p hp
      obtain ⟨l, hl, rfl⟩ := List.mem_map.mp hp
      refine ⟨hasSurrogate_key (hsound l hl), hasSurrogate_scalarText (hsound l hl).scalar ?_⟩
      exact fun s hvalue => hs s ((holds_iff_of_nameable h).mpr ⟨l, hl, hvalue⟩)
    have hstore : storeLeaves (entryLeaves data) [] = .ok data :=
      @storeLeaves_entryLeaves data [] h.nodup fun e he t ht =>
        storeLeaves_leaves (h.values e he) (h.keys e he) ht
    refine ⟨_, hpairs.trans (writeQuery_eq_ok_iff.mpr ⟨hwhole, rfl⟩), ?_⟩
    have hbuild := buildRetyped_pairs hsound hstore
    rw [readBody_text, String.toList_ofList, readQuery_intercalate, List.map_map, ofPairs, if_pos rfl]
    exact hbuild

/-- A text that is no word, number or bracket stands for itself. -/
theorem isPlainScalar_text {s : String}
    (hword : String.ofList (Text.lower s.toList) ∉ ["true", "false", "null"])
    (hinteger : isIntegerText s.toList = false) (hfraction : isFractionText s.toList = false)
    (hbracket : s.toList.head? ∉ [some '\x7b', some '[']) : IsPlainScalar (.text s) := by
  simp only [List.mem_cons, List.not_mem_nil, or_false, not_or] at hword hbracket
  obtain ⟨htrue, hfalse, hnull⟩ := hword
  refine .text ?_
  unfold retype
  simp only [htrue, hfalse, hnull, hinteger, hfraction, hbracket, if_false, decide_false, Bool.or_self,
    Bool.false_eq_true]

/-- A text of nothing but the first half of a surrogate pair. -/
def halfPair : String := String.ofList [Text.ofSurrogate 0xD800]

theorem not_query_inverse_halfPair :
    Nameable [("a", .text halfPair)] ∧
      ¬∃ text, toQuery "" [("a", .text halfPair)] = .ok text ∧
        (readBody true (.text text) none).result = .ok [("a", .text halfPair)] := by
  have hscalar : IsPlainScalar (.text halfPair) :=
    isPlainScalar_text (by decide +kernel) (by decide +kernel) (by decide +kernel) (by decide +kernel)
  have hkey : IsKey "a" := by decide +kernel
  have hquery : toQuery "" [("a", .text halfPair)] = .error .notEncodable := by decide +kernel
  refine ⟨⟨List.nodup_singleton _, by simpa using hkey, by simpa using .scalar hscalar⟩, ?_⟩
  rintro ⟨text, hwrite, -⟩
  rw [hquery] at hwrite
  cases hwrite

/-- A map, a list and scalars of each kind. -/
def profile : Table Value :=
  [("user", .map [("name", .text "Ada L."), ("born", .int (-1815))]),
    ("tags", .list [.text "a&b", .null]), ("ok", .bool true)]

theorem nameable_profile : Nameable profile := by
  have hname : IsPlainScalar (.text "Ada L.") :=
    isPlainScalar_text (by decide +kernel) (by decide +kernel) (by decide +kernel) (by decide +kernel)
  have htag : IsPlainScalar (.text "a&b") :=
    isPlainScalar_text (by decide +kernel) (by decide +kernel) (by decide +kernel) (by decide +kernel)
  have hborn : IsPlainScalar (.int (-1815)) := .int (by decide)
  have huser : IsNameable (.map [("name", .text "Ada L."), ("born", .int (-1815))]) := by
    refine .map (List.cons_ne_nil _ _) (by decide +kernel) ?_ ?_
    · simp only [List.forall_mem_cons]
      exact ⟨by decide +kernel, by decide +kernel, nofun⟩
    · simp only [List.forall_mem_cons]
      exact ⟨.scalar hname, .scalar hborn, nofun⟩
  have htags : IsNameable (.list [.text "a&b", .null]) := by
    refine .list (List.cons_ne_nil _ _) ?_
    simp only [List.forall_mem_cons]
    exact ⟨htag, .null, nofun⟩
  refine ⟨by decide +kernel, ?_, ?_⟩
  · simp only [profile, List.forall_mem_cons]
    exact ⟨by decide +kernel, by decide +kernel, by decide +kernel, nofun⟩
  · simp only [profile, List.forall_mem_cons]
    exact ⟨huser, htags, .scalar (.bool true), nofun⟩

example : toQuery "" profile =
    .ok "user%5Bname%5D=Ada+L.&user%5Bborn%5D=-1815&tags%5B%5D=a%26b&tags%5B%5D=null&ok=true" := by
  decide +kernel

theorem query_inverse_iff_profile :
    Nameable profile ∧
      ((∃ text, toQuery "" profile = .ok text ∧
        (readBody true (.text text) none).result = .ok profile) ↔
        ∀ s, (Value.map profile).Holds s → Text.hasSurrogate s.toList = false) :=
  ⟨nameable_profile, query_inverse_iff nameable_profile none⟩

end Form

end Intake
