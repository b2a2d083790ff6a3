import Intake.Proofs.Form.Paths
import Intake.Proofs.Reading.Scalars

namespace Intake.Form

/-- A scalar somewhere in a map: the names on the way to it from outside in, and whether it stands in a
list there. -/
structure Leaf where
  path : List String
  append : Bool
  value : Value

def Leaf.under (k : String) (l : Leaf) : Leaf := { l with path := k :: l.path }

mutual

/-- The scalars of a value under a name, from left to right. -/
def leaves (k : String) : Value → List Leaf
  | .map es => (entryLeaves es).map (Leaf.under k)
  | .list items => items.map fun v => ⟨[k], true, v⟩
  | .tuple items => items.map fun v => ⟨[k], true, v⟩
  | v => [⟨[k], false, v⟩]

def entryLeaves : Table Value → List Leaf
  | [] => []
  | (k, v) :: rest => leaves k v ++ entryLeaves rest

end

/-- A name inside another one as it is written. -/
def inside (name k : String) : String := if name = "" then k else name ++ "[" ++ k ++ "]"

/-- A row of names as it is written. -/
def pathText (name : String) (path : List String) : String := path.foldl inside name

namespace Leaf

def key (name : String) (l : Leaf) : String := pathText name l.path ++ if l.append then "[]" else ""

def pair (name : String) (l : Leaf) : String × String := (l.key name, scalarText l.value)

end Leaf

mutual

theorem flatten_eq (name k : String) (v : Value) :
    flatten (inside name k) v = (leaves k v).map (Leaf.pair name) := by
  cases v with
  | map es =>
    rw [flatten, leaves, flattenEntries_eq, List.map_map]
    rfl
  | list items | tuple items =>
    rw [flatten, leaves, List.map_map]
    rfl
  | _ => simp [flatten, leaves, Leaf.pair, Leaf.key, pathText]

theorem flattenEntries_eq (name : String) (es : Table Value) :
    flattenEntries name es = (entryLeaves es).map (Leaf.pair name) := by
  cases es with
  | nil => rfl
  | cons e es =>
    obtain ⟨k, v⟩ := e
    rw [flattenEntries, entryLeaves, List.map_append, flattenEntries_eq name es, ← flatten_eq name k v]
    rfl

end

/-- Names that brackets and points cannot be taken for parts of, and that can be written as octets. -/
structure IsKey (k : String) : Prop where
  not_empty : k ≠ ""
  inner : ∀ c ∈ k.toList, Key.isSeparator c = false
  whole : Text.hasSurrogate k.toList = false

instance (k : String) : Decidable (IsKey k) :=
  decidable_of_iff
    (k ≠ "" ∧ k.toList.all (fun c => !Key.isSeparator c) = true ∧ Text.hasSurrogate k.toList = false)
    ⟨fun ⟨hne, hinner, hwhole⟩ => ⟨hne, by simpa using hinner, hwhole⟩,
      fun h => ⟨h.not_empty, by simpa using h.inner, h.whole⟩⟩

namespace Key

theorem isName_of_isKey {k : String} (h : IsKey k) : IsName k := ⟨h.not_empty, h.inner⟩

theorem inside_eq {name : String} (h : name ≠ "") (k : String) : inside name k = name ++ Mark.brackets.set k := by
  rw [inside, if_neg h, String.append_assoc, String.append_assoc]
  rfl

theorem pathText_eq_written {name : String} (hname : name ≠ "") (path : List String) :
    pathText name path = written name (path.map fun k => (.brackets, k)) := by
  induction path generalizing name with
  | nil => rfl
  | cons k path ih =>
    have hne : inside name k ≠ "" := by
      rw [inside_eq hname]
      exact fun h => hname (String.append_eq_empty_iff.mp h).1
    rw [pathText, List.foldl_cons, ← pathText, ih hne, inside_eq hname]
    rfl

/-- A path is read again from the way it is written. -/
theorem ofText_key {l : Leaf} (hne : l.path ≠ []) (hpath : ∀ k ∈ l.path, IsKey k) :
    ofText (l.key "") = ⟨l.path, l.append⟩ := by
  obtain ⟨path, append, v⟩ := l
  cases path with
  | nil => exact absurd rfl hne
  | cons first path =>
    obtain ⟨hfirst, hfurther⟩ := List.forall_mem_cons.mp hpath
    have hname := isName_of_isKey hfirst
    have hnames : ∀ part ∈ path.map fun k => (Mark.brackets, k), IsName part.2 := by
      simpa using fun k hk => isName_of_isKey (hfurther k hk)
    have htext : pathText "" (first :: path) = written first (path.map fun k => (.brackets, k)) :=
      pathText_eq_written hname.not_empty path
    have hsegments := path_written hname hnames
    have hplain := not_endsInBrackets_written hname hnames
    have hback : (path.map fun k => (Mark.brackets, k)).map Prod.snd = path := by simp [Function.comp_def]
    rw [← htext, hback] at hsegments
    rw [← htext] at hplain
    cases append with
    | true => exact (ofText_append_brackets _).trans (congrArg (Key.mk · true) hsegments)
    | false =>
      rw [Leaf.key]
      simp only [Bool.false_eq_true, if_false, String.append_empty]
      exact (ofText_of_plain hplain).trans (congrArg (Key.mk · false) hsegments)

end Key

variable {ls ms : List Leaf} {t m m' : Table Value} {k : String}

/-- Scalars stored one after another where they belong. -/
def storeLeaves : List Leaf → Table Value → Except String (Table Value)
  | [], t => .ok t
  | l :: ls, t => (storeAt l.path l.append l.value t).bind (storeLeaves ls)

theorem storeLeaves_append {t' : Table Value} (h : storeLeaves ls t = .ok t') :
    storeLeaves (ls ++ ms) t = storeLeaves ms t' := by
  induction ls generalizing t with
  | nil => rw [List.nil_append, Except.ok.inj h]
  | cons l ls ih =>
    rw [List.cons_append, storeLeaves]
    rw [storeLeaves] at h
    cases hl : storeAt l.path l.append l.value t with
    | error e =>
      rw [hl] at h
      cases h
    | ok u =>
      rw [hl] at h
      exact ih h

/-- Scalars of a map inside another one are stored in the inner map. -/
theorem storeLeaves_under (hne : ∀ l ∈ ls, l.path ≠ []) (h : Table.get? t k = some (.map m))
    (hrun : storeLeaves ls m = .ok m') :
    storeLeaves (ls.map (Leaf.under k)) t = .ok (Table.put t k (.map m')) := by
  induction ls generalizing t m with
  | nil =>
    obtain rfl := Except.ok.inj hrun
    rw [Table.put_of_get? h]
    rfl
  | cons l ls ih =>
    rw [storeLeaves] at hrun
    cases hl : storeAt l.path l.append l.value m with
    | error e =>
      rw [hl] at hrun
      cases hrun
    | ok u =>
      rw [hl] at hrun
      have hput : Table.get? (Table.put t k (.map u)) k = some (.map u) := Table.get?_put_self _ _ _
      have hrest := ih (fun l hm => hne l (List.mem_cons_of_mem _ hm)) hput hrun
      rw [Table.put_put] at hrest
      rw [List.map_cons, storeLeaves, Leaf.under, storeAt_under (hne l List.mem_cons_self) _ _ h, hl]
      exact hrest

/-- The first of the scalars of an inner map makes that map. -/
theorem storeLeaves_under_absent (hls : ls ≠ []) (hne : ∀ l ∈ ls, l.path ≠ [])
    (h : Table.get? t k = none) (hrun : storeLeaves ls [] = .ok m') :
    storeLeaves (ls.map (Leaf.under k)) t = .ok (Table.put t k (.map m')) := by
  cases ls with
  | nil => exact absurd rfl hls
  | cons l ls =>
    rw [storeLeaves] at hrun
    cases hl : storeAt l.path l.append l.value [] with
    | error e =>
      rw [hl] at hrun
      cases hrun
    | ok u =>
      rw [hl] at hrun
      have hput : Table.get? (Table.put t k (.map u)) k = some (.map u) := Table.get?_put_self _ _ _
      have hrest := storeLeaves_under (fun l hm => hne l (List.mem_cons_of_mem _ hm)) hput hrun
      rw [Table.put_put] at hrest
      rw [List.map_cons, storeLeaves, Leaf.under, storeAt_under_null (hne l List.mem_cons_self) _ _ (by rw [h]; rfl), hl]
      exact hrest

theorem storeLeaves_items {items before : List Value} (h : Table.get? t k = some (.list before)) :
    storeLeaves (items.map fun v => ⟨[k], true, v⟩) t =
      .ok (Table.put t k (.list (before ++ items))) := by
  induction items generalizing t before with
  | nil =>
    rw [List.append_nil, Table.put_of_get? h]
    rfl
  | cons v items ih =>
    have hstore : storeAt [k] true v t = .ok (Table.put t k (.list (before ++ [v]))) := by
      rw [storeAt, h]
      rfl
    have hput : Table.get? (Table.put t k (.list (before ++ [v]))) k = some (.list (before ++ [v])) :=
      Table.get?_put_self _ _ _
    rw [List.map_cons, storeLeaves, hstore]
    refine (ih hput).trans ?_
    rw [Table.put_put, List.append_assoc, List.singleton_append]

theorem storeLeaves_items_absent {items : List Value} (hne : items ≠ []) (h : Table.get? t k = none) :
    storeLeaves (items.map fun v => ⟨[k], true, v⟩) t = .ok (Table.put t k (.list items)) := by
  cases items with
  | nil => exact absurd rfl hne
  | cons v items =>
    have hstore : storeAt [k] true v t = .ok (Table.put t k (.list [v])) := by
      rw [storeAt, h]
      rfl
    have hput : Table.get? (Table.put t k (.list [v])) k = some (.list [v]) := Table.get?_put_self _ _ _
    rw [List.map_cons, storeLeaves, hstore]
    refine (storeLeaves_items hput).trans ?_
    rw [Table.put_put, List.singleton_append]

end Intake.Form
