import Intake.Proofs.Xml.Children

namespace Intake

/-- Of pairs with one name the last gives the entry. -/
theorem Table.get?_ofPairs_of_last {α : Type} {name : String} {after : List (String × α)}
    (h : name ∉ after.map Prod.fst) (before : List (String × α)) (v : α) :
    Table.get? (Table.ofPairs (before ++ (name, v) :: after)) name = some v := by
  induction after using List.reverseRecOn with
  | nil => rw [Table.ofPairs_concat, Table.get?_put_self]
  | append_singleton after p ih =>
    obtain ⟨other, w⟩ := p
    rw [List.map_append, List.mem_append, not_or] at h
    have hne : other ≠ name := fun heq => h.2 (by rw [heq]; exact List.mem_singleton_self name)
    rw [← List.cons_append, ← List.append_assoc, Table.ofPairs_concat, Table.get?_put, if_neg hne, ih h.1]

namespace Xml.Element

variable {elementName key s text : String} {attributes before after : List (String × String)} {v : Value}
  {children others : List (Element × String)} {entries : List (String × Value)} {depth : Nat}

theorem exists_entry_of_attribute
    (h : attributeEntries (before ++ (key, s) :: after) = .ok entries) :
    ∃ former v later, entries = former ++ ("@" ++ key, v) :: later ∧ Form.retype s = .ok v ∧
      later.map Prod.fst = after.map fun a => "@" ++ a.1 := by
  induction before generalizing entries with
  | nil =>
    rw [List.nil_append, attributeEntries] at h
    obtain ⟨v, hv, h⟩ := exists_of_bind_eq_ok h
    obtain ⟨later, hlater, h⟩ := exists_of_bind_eq_ok h
    cases h
    exact ⟨[], v, later, rfl, hv, names_of_attributeEntries hlater⟩
  | cons a before ih =>
    rw [List.cons_append, attributeEntries] at h
    obtain ⟨w, -, h⟩ := exists_of_bind_eq_ok h
    obtain ⟨more, hmore, h⟩ := exists_of_bind_eq_ok h
    cases h
    obtain ⟨former, v, later, rfl, hv, hlater⟩ := ih hmore
    exact ⟨("@" ++ a.1, w) :: former, v, later, rfl, hv, hlater⟩

/-- The last attribute of a name is kept, retyped, among the entries of the attributes. -/
theorem get?_of_attribute (h : attributeEntries (before ++ (key, s) :: after) = .ok entries)
    (hlast : key ∉ after.map Prod.fst) :
    ∃ v, Form.retype s = .ok v ∧ Table.get? (Table.ofPairs entries) ("@" ++ key) = some v := by
  obtain ⟨former, v, later, rfl, hv, hlater⟩ := exists_entry_of_attribute h
  refine ⟨v, hv, Table.get?_ofPairs_of_last ?_ former v⟩
  rw [hlater]
  intro hmem
  obtain ⟨a, ha, heq⟩ := List.mem_map.mp hmem
  have hkey : a.1 = key := (String.append_right_inj "@").mp heq
  exact hlast (hkey ▸ List.mem_map_of_mem ha)

/-- What is written behind a child makes no difference to its value. -/
theorem childValues_congr (h : others.map Prod.fst = children.map Prod.fst) :
    childValues depth others = childValues depth children := by
  induction children generalizing others with
  | nil =>
    rw [List.map_nil, List.map_eq_nil_iff] at h
    rw [h]
  | cons c children ih =>
    obtain ⟨child, tail⟩ := c
    rw [List.map_cons, List.map_eq_cons_iff] at h
    obtain ⟨⟨other, tail'⟩, rest, rfl, rfl, hrest⟩ := h
    rw [childValues, childValues, ih hrest]

theorem toValue_congr (h : others.map Prod.fst = children.map Prod.fst) :
    toValue depth (.mk elementName attributes text others) =
      toValue depth (.mk elementName attributes text children) := by
  have hempty : others.isEmpty = children.isEmpty := by
    rw [← List.isEmpty_map (f := Prod.fst), h, List.isEmpty_map]
  cases depth with
  | zero => rw [toValue, toValue]
  | succ depth => rw [toValue, toValue, childValues_congr h, hempty]

/-- What a map holds of an element: its attributes, the last one of each name, its children, and its text
before the first child unless that is blank, in this order. -/
structure Holds (attributes : List (String × String)) (text : String) (children : List (Element × String))
    (node : Table Value) : Prop where
  entry : ∀ before key s after, attributes = before ++ (key, s) :: after → key ∉ after.map Prod.fst →
    ∃ v, Form.retype s = .ok v ∧ Table.get? node ("@" ++ key) = some v
  content : trimmed text ≠ "" →
    ∃ v, Form.retype (trimmed text) = .ok v ∧ Table.get? node "#text" = some v
  names : Table.names node = (attributes.map fun a => "@" ++ a.1).eraseDups ++
    (children.map fun child => child.1.name).eraseDups ++ if trimmed text = "" then [] else ["#text"]

theorem attribute_ne_text (key : String) : "@" ++ key ≠ "#text" := by
  intro heq
  have htexts := congrArg String.toList heq
  rw [String.toList_append] at htexts
  cases htexts

namespace Composed

variable {named : List (String × Value)} {gathered node : Table Value}

theorem get?_attribute
    (h : Composed depth (before ++ (key, s) :: after) text children entries named gathered node)
    (hlast : key ∉ after.map Prod.fst) :
    ∃ v, Form.retype s = .ok v ∧ Table.get? gathered ("@" ++ key) = some v := by
  obtain ⟨repeated, hgathered⟩ := h.beside
  obtain ⟨v, hv, hget⟩ := get?_of_attribute h.attributes hlast
  exact ⟨v, hv, (hgathered.kept _ (Table.mem_names_of_get? hget)).trans hget⟩

variable {attributes : List (String × String)}

theorem names_gathered (h : Composed depth attributes text children entries named gathered node) :
    Table.names gathered = (attributes.map fun a => "@" ++ a.1).eraseDups ++
      (children.map fun child => child.1.name).eraseDups := by
  obtain ⟨repeated, hgathered⟩ := h.beside
  rw [hgathered.order, Table.names_ofPairs, names_of_attributeEntries h.attributes, h.children.names]

theorem text_not_mem_names (h : Composed depth attributes text children entries named gathered node) :
    "#text" ∉ Table.names gathered := by
  rw [h.names_gathered, List.mem_append, List.mem_eraseDups, List.mem_eraseDups, ← h.children.names,
    not_or]
  refine ⟨fun hmem => ?_, h.textless⟩
  obtain ⟨a, -, heq⟩ := List.mem_map.mp hmem
  exact attribute_ne_text a.1 heq

theorem holds (h : Composed depth attributes text children entries named gathered node) :
    Holds attributes text children node := by
  have hnode := h.text
  unfold withText at hnode
  split at hnode
  · next hblank =>
    cases hnode
    refine ⟨?_, fun hne => absurd hblank hne, ?_⟩
    · rintro before key s after rfl hlast
      exact h.get?_attribute hlast
    · rw [h.names_gathered, if_pos hblank, List.append_nil]
  · next hblank =>
    obtain ⟨w, hw, hnode⟩ := exists_of_bind_eq_ok hnode
    cases hnode
    refine ⟨?_, fun _ => ⟨w, hw, Table.get?_put_self _ _ _⟩, ?_⟩
    · rintro before key s after rfl hlast
      obtain ⟨v, hv, hget⟩ := h.get?_attribute hlast
      exact ⟨v, hv, by rw [Table.get?_put, if_neg (attribute_ne_text key).symm, hget]⟩
    · rw [Table.names_put, if_neg h.text_not_mem_names, h.names_gathered, if_neg hblank]

end Composed

/-- Of an element that has attributes or children, named as the elements of documents are, the attributes
are kept, the last one of each name, and the text before the first child, unless it is nested too deeply;
what is written between and behind the children makes no difference. -/
theorem attributes_and_first_text_kept (h : IsNamed (.mk elementName attributes text children))
    (hbranch : attributes ≠ [] ∨ children ≠ []) (depth : Nat) :
    (IsTooDeep depth (.mk elementName attributes text children) →
      toValue depth (.mk elementName attributes text children) = .error .tooDeep) ∧
    (¬IsTooDeep depth (.mk elementName attributes text children) →
      ∃ node, Holds attributes text children node ∧
        ∀ others : List (Element × String), others.map Prod.fst = children.map Prod.fst →
          toValue depth (.mk elementName attributes text others) = .ok (.map node)) := by
  refine ⟨toValue_of_isTooDeep, fun hdeep => ?_⟩
  obtain ⟨v, hv⟩ := exists_of_not_isTooDeep hdeep
  cases depth with
  | zero => exact absurd .here hdeep
  | succ depth =>
    obtain ⟨entries, named, gathered, node, hcomposed, rfl⟩ := composed_of_toValue h hbranch hv
    exact ⟨node, hcomposed.holds, fun others hothers => (toValue_congr hothers).trans hv⟩

/-- A greeting with a text in front of its one child and another one behind it. -/
def greeting : Element := .mk "p" [("lang", "en")] "hello " [(.mk "b" [] "x" [], "bye")]

theorem attributes_and_first_text_kept_greeting :
    IsNamed greeting ∧ ¬IsTooDeep 2 greeting ∧
      ∃ node, Holds [("lang", "en")] "hello " [(.mk "b" [] "x" [], "bye")] node ∧
        toValue 2 greeting = .ok (.map node) := by
  have hnamed : IsNamed greeting := by
    refine .mk ⟨'p', rfl, rfl⟩ fun child hchild => ?_
    rw [List.mem_singleton.mp hchild]
    exact .mk ⟨'b', rfl, rfl⟩ nofun
  have hbranch : [("lang", "en")] ≠ [] ∨ [(mk "b" [] "x" [], "bye")] ≠ [] := .inl (List.cons_ne_nil _ _)
  have hvalue : toValue 2 greeting =
      .ok (.map [("@lang", .text "en"), ("b", .text "x"), ("#text", .text "hello")]) := rfl
  have hdeep : ¬IsTooDeep 2 greeting := by
    intro hdeep
    cases (toValue_of_isTooDeep hdeep).symm.trans hvalue
  obtain ⟨node, hnode, hothers⟩ := (attributes_and_first_text_kept hnamed hbranch 2).2 hdeep
  exact ⟨hnamed, hdeep, node, hnode, hothers _ rfl⟩

end Xml.Element

end Intake
