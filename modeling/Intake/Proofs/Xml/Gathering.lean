import Intake.Proofs.Table
import Intake.Xml.Element

namespace Intake

theorem Table.ofPairs_concat {α : Type} (pairs : List (String × α)) (name : String) (v : α) :
    Table.ofPairs (pairs ++ [(name, v)]) = Table.put (Table.ofPairs pairs) name v := by
  rw [Table.ofPairs, List.foldl_append]
  rfl

theorem Table.names_ofPairs {α : Type} (pairs : List (String × α)) :
    Table.names (Table.ofPairs pairs) = (pairs.map Prod.fst).eraseDups := by
  induction pairs using List.reverseRecOn with
  | nil => rfl
  | append_singleton pairs p ih =>
    obtain ⟨name, v⟩ := p
    rw [Table.ofPairs_concat, Table.names_put, ih, List.map_append, List.map_singleton,
      eraseDups_concat]
    simp only [List.mem_eraseDups]

namespace Xml.Element

variable {named done : List (String × Value)} {t node : Table Value} {repeated : List String}
  {name : String} {v : Value}

/-- The values under a name, in their order. -/
def valuesOf (name : String) (named : List (String × Value)) : List Value :=
  (named.filter fun p => p.1 = name).map Prod.snd

/-- What the values under one name come to: one value stands for itself, and several make a list. -/
def bundled : List Value → Option Value
  | [] => none
  | [v] => some v
  | vs => some (.list vs)

theorem valuesOf_concat_self (done : List (String × Value)) (name : String) (v : Value) :
    valuesOf name (done ++ [(name, v)]) = valuesOf name done ++ [v] := by
  simp [valuesOf]

theorem valuesOf_concat_of_ne {other : String} (h : name ≠ other) (done : List (String × Value))
    (v : Value) :
    valuesOf other (done ++ [(name, v)]) = valuesOf other done := by
  simp [valuesOf, h]

theorem addChild_of_absent (h : Table.get? node name = none) (repeated : List String) (v : Value) :
    addChild repeated node name v = (repeated, Table.put node name v) := by
  rw [addChild, h]

theorem addChild_of_single {w : Value} (h : Table.get? node name = some w) (hname : name ∉ repeated)
    (v : Value) :
    addChild repeated node name v = (name :: repeated, Table.put node name (.list [w, v])) := by
  have hcontains : repeated.contains name = false := by simpa using hname
  rw [addChild, h, hcontains]
  cases w <;> rfl

theorem addChild_of_several {items : List Value} (h : Table.get? node name = some (.list items))
    (hname : name ∈ repeated) (v : Value) :
    addChild repeated node name v = (repeated, Table.put node name (.list (items ++ [v]))) := by
  have hcontains : repeated.contains name = true := by simpa using hname
  rw [addChild, h, hcontains]

/-- How far the values under names have been gathered in a table, and which of its entries are lists made
for several values. -/
structure Gathered (t : Table Value) (done : List (String × Value)) (repeated : List String)
    (node : Table Value) : Prop where
  entry : ∀ name, name ∉ Table.names t → Table.get? node name = bundled (valuesOf name done)
  kept : ∀ name ∈ Table.names t, Table.get? node name = Table.get? t name
  order : Table.names node = Table.names t ++ (done.map Prod.fst).eraseDups
  several : ∀ name, name ∈ repeated ↔ 2 ≤ (valuesOf name done).length

namespace Gathered

theorem nil (t : Table Value) : Gathered t [] [] t where
  entry := fun name hname => (Table.get?_eq_none_iff t name).mpr hname
  kept := fun _ _ => rfl
  order := (List.append_nil _).symm
  several := by simp [valuesOf]

/-- The table that an entry is put in, if the entry is what one more value under a name leads to. -/
theorem put (h : Gathered t done repeated node) (hname : name ∉ Table.names t) {w : Value}
    {repeated' : List String} (hw : bundled (valuesOf name done ++ [v]) = some w)
    (hrepeated : ∀ other, other ∈ repeated' ↔
      other ∈ repeated ∨ other = name ∧ 1 ≤ (valuesOf name done).length) :
    Gathered t (done ++ [(name, v)]) repeated' (Table.put node name w) where
  entry := by
    intro other hother
    rw [Table.get?_put]
    by_cases hsame : name = other
    · subst hsame
      rw [if_pos rfl, valuesOf_concat_self, hw]
    · rw [if_neg hsame, valuesOf_concat_of_ne hsame, h.entry other hother]
  kept := by
    intro other hother
    have hsame : name ≠ other := fun heq => hname (heq ▸ hother)
    rw [Table.get?_put, if_neg hsame, h.kept other hother]
  order := by
    rw [Table.names_put, h.order, List.map_append, List.map_singleton, eraseDups_concat]
    simp only [List.mem_append, List.mem_eraseDups, hname, false_or]
    split
    · rfl
    · exact List.append_assoc _ _ _
  several := by
    intro other
    rw [hrepeated, h.several]
    by_cases hsame : name = other
    · subst hsame
      rw [valuesOf_concat_self, List.length_append, List.length_singleton, eq_self_iff_true, true_and]
      omega
    · rw [valuesOf_concat_of_ne hsame]
      exact or_iff_left fun heq => hsame heq.1.symm

/-- One more value is kept beside those gathered before, whatever they look like. -/
theorem addChild (h : Gathered t done repeated node) (hname : name ∉ Table.names t) (v : Value) :
    Gathered t (done ++ [(name, v)]) (Element.addChild repeated node name v).1
      (Element.addChild repeated node name v).2 := by
  have hentry := h.entry name hname
  have hseveral := h.several name
  -- What a name stands for already depends on how many values it has had.
  rcases hvalues : valuesOf name done with _ | ⟨first, _ | ⟨second, more⟩⟩ <;>
    rw [hvalues] at hentry hseveral
  · rw [addChild_of_absent hentry]
    refine h.put hname (by rw [hvalues]; rfl) fun other => ?_
    simp [hvalues]
  · rw [addChild_of_single hentry (by rw [hseveral]; simp)]
    refine h.put hname (by rw [hvalues]; rfl) fun other => ?_
    simp [hvalues, or_comm]
  · have hlist : name ∈ repeated := hseveral.mpr (by simp)
    rw [addChild_of_several hentry hlist]
    refine h.put hname (by rw [hvalues]; rfl) fun other => ?_
    constructor
    · exact .inl
    · rintro (hother | ⟨rfl, -⟩)
      · exact hother
      · exact hlist

/-- All values are gathered, one after another. -/
theorem addChildren (h : Gathered t done repeated node) (hnames : ∀ p ∈ named, p.1 ∉ Table.names t) :
    ∃ repeated', Gathered t (done ++ named) repeated' (Element.addChildren repeated node named) := by
  induction named generalizing done repeated node with
  | nil => exact ⟨repeated, by rwa [List.append_nil]⟩
  | cons p named ih =>
    obtain ⟨name, v⟩ := p
    obtain ⟨hname, hrest⟩ := List.forall_mem_cons.mp hnames
    obtain ⟨repeated', hall⟩ := ih (h.addChild hname v) hrest
    rw [List.append_assoc, List.singleton_append] at hall
    exact ⟨repeated', hall⟩

end Gathered

theorem gathered_addChildren (hnames : ∀ p ∈ named, p.1 ∉ Table.names t) :
    ∃ repeated, Gathered t named repeated (addChildren [] t named) :=
  (Gathered.nil t).addChildren hnames

/-- A map keeps values under names: one value as it is and several as their list, the names in the order
in which they first come up. -/
structure Keeps (named : List (String × Value)) (node : Table Value) : Prop where
  entry : ∀ name ∈ named.map Prod.fst, Table.get? node name = bundled (valuesOf name named)
  order : (Table.names node).filter (· ∈ named.map Prod.fst) = (named.map Prod.fst).eraseDups

theorem Gathered.keeps (h : Gathered t named repeated node)
    (hnames : ∀ p ∈ named, p.1 ∉ Table.names t) : Keeps named node where
  entry := by
    intro name hname
    obtain ⟨p, hp, rfl⟩ := List.mem_map.mp hname
    exact h.entry p.1 (hnames p hp)
  order := by
    have hbefore : (Table.names t).filter (· ∈ named.map Prod.fst) = [] := by
      rw [List.filter_eq_nil_iff]
      intro name hname hmem
      obtain ⟨p, hp, rfl⟩ := List.mem_map.mp (of_decide_eq_true hmem)
      exact hnames p hp hname
    have hafter : (named.map Prod.fst).eraseDups.filter (· ∈ named.map Prod.fst) =
        (named.map Prod.fst).eraseDups := by
      rw [List.filter_eq_self]
      intro name hname
      exact decide_eq_true (List.mem_eraseDups.mp hname)
    rw [h.order, List.filter_append, hbefore, hafter, List.nil_append]

/-- An entry under a name of its own does not stand in the way of the others. -/
theorem Keeps.put (h : Keeps named node) (hname : name ∉ named.map Prod.fst) (v : Value) :
    Keeps named (Table.put node name v) where
  entry := by
    intro other hother
    have hne : name ≠ other := fun heq => hname (heq ▸ hother)
    rw [Table.get?_put, if_neg hne, h.entry other hother]
  order := by
    rw [Table.names_put]
    split
    · exact h.order
    · rw [List.filter_append, h.order, List.filter_singleton, decide_eq_false hname]
      exact List.append_nil _

end Xml.Element

end Intake
