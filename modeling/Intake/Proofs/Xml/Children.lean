import Intake.Proofs.Reading.Documents
import Intake.Proofs.Xml.Gathering
import Intake.Proofs.Xml.Names

namespace Intake

/-- A reading that goes on gives a result if both of its parts do. -/
theorem exists_of_bind_eq_ok {α β : Type} {x : Except Fault α} {k : α → Except Fault β} {b : β}
    (h : x >>= k = .ok b) : ∃ a, x = .ok a ∧ k a = .ok b := by
  cases x with
  | error f => cases h
  | ok a => exact ⟨a, rfl, h⟩

namespace Xml.Element

section Branch

variable {elementName text : String} {attributes : List (String × String)} {v : Value}
  {children : List (Element × String)} {entries named : List (String × Value)} {depth : Nat} {e : Element}

/-- A text without the blanks around it. -/
def trimmed (text : String) : String := String.ofList (Text.trim text.toList)

/-- The children of an element under their names, each with the value that it is converted to. -/
def Converted (depth : Nat) : List (Element × String) → List (String × Value) → Prop :=
  List.Forall₂ fun child p => p.1 = child.1.name ∧ toValue depth child.1 = .ok p.2

theorem converted_of_childValues (h : childValues depth children = .ok named) :
    Converted depth children named := by
  induction children generalizing named with
  | nil =>
    rw [childValues] at h
    cases h
    exact .nil
  | cons c rest ih =>
    obtain ⟨child, tail⟩ := c
    rw [childValues] at h
    obtain ⟨v, hv, h⟩ := exists_of_bind_eq_ok h
    obtain ⟨values, hvalues, h⟩ := exists_of_bind_eq_ok h
    cases h
    exact .cons ⟨rfl, hv⟩ (ih hvalues)

theorem Converted.names (h : Converted depth children named) :
    named.map Prod.fst = children.map fun child => child.1.name := by
  induction h with
  | nil => rfl
  | cons hfirst _ ih => rw [List.map_cons, List.map_cons, hfirst.1, ih]

theorem names_of_attributeEntries (h : attributeEntries attributes = .ok entries) :
    entries.map Prod.fst = attributes.map fun a => "@" ++ a.1 := by
  induction attributes generalizing entries with
  | nil =>
    cases h
    rfl
  | cons a rest ih =>
    obtain ⟨key, s⟩ := a
    rw [attributeEntries] at h
    obtain ⟨v, -, h⟩ := exists_of_bind_eq_ok h
    obtain ⟨more, hmore, h⟩ := exists_of_bind_eq_ok h
    cases h
    rw [List.map_cons, List.map_cons, ih hmore]

/-- A map with the text of an element, unless it is blank. -/
def withText (text : String) (node : Table Value) : Except Fault (Table Value) :=
  if trimmed text = "" then .ok node
  else Form.retype (trimmed text) >>= fun v => .ok (Table.put node "#text" v)

theorem toValue_of_leaf :
    toValue (depth + 1) (.mk elementName [] text []) = Form.retype (trimmed text) := by
  rw [toValue]
  exact if_pos rfl

theorem toValue_of_branch (hbranch : attributes ≠ [] ∨ children ≠ []) :
    toValue (depth + 1) (.mk elementName attributes text children) =
      attributeEntries attributes >>= fun entries => childValues depth children >>= fun named =>
        withText text (addChildren [] (Table.ofPairs entries) named) >>= fun node => .ok (.map node) := by
  have hleaf : ¬(children.isEmpty && attributes.isEmpty) = true := by
    rw [Bool.and_eq_true, List.isEmpty_iff, List.isEmpty_iff, not_and_or, or_comm]
    exact hbranch
  rw [toValue]
  dsimp only
  rw [if_neg hleaf]
  congr with entries
  congr with named
  unfold withText trimmed
  split
  · rfl
  · cases Form.retype (String.ofList (Text.trim text.toList)) <;> rfl

/-- A value keeps an element: alone its text is retyped, and the map of an element that has attributes or
children keeps the values of its children, each of which keeps its child. -/
inductive Represents : Nat → Element → Value → Prop where
  | leaf {depth : Nat} {name text : String} {v : Value} (h : Form.retype (trimmed text) = .ok v) :
      Represents (depth + 1) (.mk name [] text []) v
  | branch {depth : Nat} {name text : String} {attributes : List (String × String)}
      {children : List (Element × String)} {named : List (String × Value)} {node : Table Value}
      (hbranch : attributes ≠ [] ∨ children ≠ []) (hnamed : Converted depth children named)
      (hkeeps : Keeps named node)
      (hchildren : ∀ child ∈ children, ∀ v, toValue depth child.1 = .ok v → Represents depth child.1 v) :
      Represents (depth + 1) (.mk name attributes text children) (.map node)

theorem IsNamed.startsAsName (h : IsNamed e) : StartsAsName e.name.toList := by
  obtain ⟨hname, -⟩ := h
  exact hname

/-- The names of children are neither those of attributes nor that of a text. -/
theorem apart_of_isNamed (h : IsNamed (.mk elementName attributes text children))
    (hentries : attributeEntries attributes = .ok entries) (hnamed : Converted depth children named) :
    (∀ p ∈ named, p.1 ∉ Table.names (Table.ofPairs entries)) ∧ "#text" ∉ named.map Prod.fst := by
  obtain ⟨-, hchildren⟩ := h
  have hstarts {name : String} (hname : name ∈ named.map Prod.fst) : StartsAsName name.toList := by
    rw [hnamed.names] at hname
    obtain ⟨child, hchild, rfl⟩ := List.mem_map.mp hname
    exact (hchildren child hchild).startsAsName
  constructor
  · intro p hp hmem
    rw [Table.names_ofPairs, List.mem_eraseDups, names_of_attributeEntries hentries] at hmem
    obtain ⟨a, -, hkey⟩ := List.mem_map.mp hmem
    have hhead : ("@" ++ a.1).toList.head?.any isNameStart = false := by
      rw [String.toList_append]
      rfl
    exact (hstarts (List.mem_map_of_mem hp)).ne hhead (by rw [hkey])
  · exact fun hmem => (hstarts hmem).ne (t := "#text".toList) rfl rfl

/-- What the map of an element is made of: the entries of its attributes, the values of its children gathered
beside them, and its text put last. -/
structure Composed (depth : Nat) (attributes : List (String × String)) (text : String)
    (children : List (Element × String)) (entries named : List (String × Value))
    (gathered node : Table Value) : Prop where
  attributes : attributeEntries attributes = .ok entries
  children : Converted depth children named
  apart : ∀ p ∈ named, p.1 ∉ Table.names (Table.ofPairs entries)
  beside : ∃ repeated, Gathered (Table.ofPairs entries) named repeated gathered
  textless : "#text" ∉ named.map Prod.fst
  text : withText text gathered = .ok node

theorem composed_of_toValue (h : IsNamed (.mk elementName attributes text children))
    (hbranch : attributes ≠ [] ∨ children ≠ [])
    (hv : toValue (depth + 1) (.mk elementName attributes text children) = .ok v) :
    ∃ entries named gathered node,
      Composed depth attributes text children entries named gathered node ∧ v = .map node := by
  rw [toValue_of_branch hbranch] at hv
  obtain ⟨entries, hentries, hv⟩ := exists_of_bind_eq_ok hv
  obtain ⟨named, hvalues, hv⟩ := exists_of_bind_eq_ok hv
  obtain ⟨node, hnode, hv⟩ := exists_of_bind_eq_ok hv
  cases hv
  have hnamed := converted_of_childValues hvalues
  obtain ⟨hapart, htext⟩ := apart_of_isNamed h hentries hnamed
  have hgathered := gathered_addChildren hapart
  exact ⟨entries, named, _, node, ⟨hentries, hnamed, hapart, hgathered, htext, hnode⟩, rfl⟩

/-- The map of an element keeps the values of its children. -/
theorem Composed.keeps {gathered node : Table Value}
    (h : Composed depth attributes text children entries named gathered node) : Keeps named node := by
  obtain ⟨repeated, hgathered⟩ := h.beside
  have hkeeps := hgathered.keeps h.apart
  have hnode := h.text
  unfold withText at hnode
  split at hnode
  · cases hnode
    exact hkeeps
  · obtain ⟨w, -, hnode⟩ := exists_of_bind_eq_ok hnode
    cases hnode
    exact hkeeps.put h.textless w

theorem represents_of_toValue (h : IsNamed e) (hv : toValue depth e = .ok v) : Represents depth e v := by
  -- The induction is on the depth that is left: children are converted with one less.
  induction depth generalizing e v with
  | zero =>
    rw [toValue] at hv
    cases hv
  | succ depth ih =>
    obtain ⟨name, attributes, text, children⟩ := e
    by_cases hbranch : attributes ≠ [] ∨ children ≠ []
    · obtain ⟨entries, named, gathered, node, hcomposed, rfl⟩ := composed_of_toValue h hbranch hv
      obtain ⟨-, hchildren⟩ := h
      refine .branch hbranch hcomposed.children hcomposed.keeps fun child hchild w hw => ?_
      exact ih (hchildren child hchild) hw
    · rw [not_or, not_not, not_not] at hbranch
      obtain ⟨rfl, rfl⟩ := hbranch
      exact .leaf (toValue_of_leaf.symm.trans hv)

theorem toValue_of_isTooDeep (h : IsTooDeep depth e) : toValue depth e = .error .tooDeep :=
  (tooDeepIff_toValue depth e _).mpr ⟨rfl, h⟩

theorem exists_of_not_isTooDeep (h : ¬IsTooDeep depth e) : ∃ v, toValue depth e = .ok v := by
  cases hv : toValue depth e with
  | error f => exact absurd ((tooDeepIff_toValue depth e f).mp hv).2 h
  | ok v => exact ⟨v, rfl⟩

end Branch

/-- The elements of a document are named as names are, and of an element that is, the children are all kept
unless it is nested too deeply, in its elements or in a text: its value holds under each name the one child
of that name or the list of all of them, in their order and whatever their values look like, and the values
of the children hold theirs. -/
theorem children_all_kept (depth : Nat) (e : Element) :
    ((∃ data, (readDocument data).result = .ok e) → IsNamed e) ∧
      (IsNamed e → (IsTooDeep depth e → toValue depth e = .error .tooDeep) ∧
        (¬IsTooDeep depth e → ∃ v, toValue depth e = .ok v ∧ Represents depth e v)) := by
  refine ⟨fun ⟨data, h⟩ => isNamed_of_readDocument h, fun he => ⟨toValue_of_isTooDeep, fun hdeep => ?_⟩⟩
  obtain ⟨v, hv⟩ := exists_of_not_isTooDeep hdeep
  exact ⟨v, hv, represents_of_toValue he hv⟩

/-- Two items, one of which looks like a list, and a note between them. -/
def basket : Element :=
  .mk "basket" [("id", "7")] "" [(.mk "item" [] "[1]" [], ""), (.mk "note" [] " " [], ""),
    (.mk "item" [] "null" [], "")]

theorem children_all_kept_basket :
    IsNamed basket ∧ Represents 2 basket (.map [("@id", .int 7), ("item", .list [.list [.int 1], .null]),
      ("note", .text "")]) := by
  have hname {s : String} (hs : StartsAsName s.toList) (text : String) : IsNamed (.mk s [] text []) :=
    .mk hs nofun
  have hnamed : IsNamed basket := by
    refine .mk ⟨'b', rfl, rfl⟩ ?_
    simp only [List.forall_mem_cons, List.not_mem_nil, false_implies, implies_true, and_true]
    exact ⟨hname ⟨'i', rfl, rfl⟩ _, hname ⟨'n', rfl, rfl⟩ _, hname ⟨'i', rfl, rfl⟩ _⟩
  refine ⟨hnamed, ?_⟩
  have hvalue : toValue 2 basket = .ok (.map [("@id", .int 7),
      ("item", .list [.list [.int 1], .null]), ("note", .text "")]) := rfl
  have hdeep : ¬IsTooDeep 2 basket := by
    intro hdeep
    cases (toValue_of_isTooDeep hdeep).symm.trans hvalue
  obtain ⟨v, hv, h⟩ := ((children_all_kept 2 basket).2 hnamed).2 hdeep
  cases hvalue.symm.trans hv
  exact h

end Xml.Element

end Intake
