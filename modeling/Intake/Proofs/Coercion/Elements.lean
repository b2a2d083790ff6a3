import Intake.Proofs.Coercion.Soundness

namespace Intake

namespace Text

variable {s : List Char}

/-- Lower case takes up no more room unless it makes a dot above. -/
theorem length_lowerAfter {before : List Char} (h : Char.ofNat 775 ∉ lowerAfter before s) :
    (lowerAfter before s).length = s.length := by
  induction s generalizing before with
  | nil => rfl
  | cons c s ih =>
    rw [lowerAfter, List.mem_append, not_or] at h
    have hone : (if c.toNat = 931 then
        [if meetsCased before && !meetsCased s then Char.ofNat 962 else Char.ofNat 963]
      else lowerChar c).length = 1 := by
      by_cases hsigma : c.toNat = 931
      · rw [if_pos hsigma, List.length_singleton]
      · have hchar := h.1
        rw [if_neg hsigma, lowerChar] at hchar
        rw [if_neg hsigma, lowerChar]
        split_ifs at hchar ⊢
        · rfl
        · exact absurd (by simp) hchar
        · rfl
    rw [lowerAfter, List.length_append, hone, ih h.2, List.length_cons, Nat.add_comm]

end Text

namespace TypeName

variable {s name word inner rest : List Char}

/-- The canonical spelling of a type without an argument is at most five characters longer. -/
theorem length_of_alias? {a : String} (h : alias? name = some a) : a.toList.length ≤ name.length + 5 := by
  have hall : ∀ e ∈ aliases, e.2.toList.length ≤ e.1.toList.length + 5 ∧ Char.ofNat 775 ∉ e.1.toList := by
    decide
  obtain ⟨before, after, haliases, -⟩ := List.lookup_eq_some_iff.mp h
  have hmem : (String.ofList (Text.lower name), a) ∈ aliases :=
    haliases ▸ List.mem_append_right _ List.mem_cons_self
  obtain ⟨hlen, hdot⟩ := hall _ hmem
  rw [String.toList_ofList] at hlen hdot
  rwa [Text.lower, Text.length_lowerAfter hdot] at hlen

theorem length_dropWord? (h : dropWord? word s = some rest) : rest.length + word.length = s.length := by
  induction word generalizing s with
  | nil =>
    obtain rfl : s = rest := Option.some.inj h
    rfl
  | cons w word ih =>
    cases s with
    | nil => cases h
    | cons c s =>
      rw [dropWord?] at h
      split_ifs at h
      exact congrArg Nat.succ (ih h)

theorem length_argument? (h : argument? s = some inner) : inner.length + 2 = s.length := by
  cases s with
  | nil => cases h
  | cons c rest =>
    simp only [argument?] at h
    split_ifs at h with hclosed
    obtain rfl := Option.some.inj h
    have hne : rest ≠ [] := by
      rintro rfl
      simp at hclosed
    have hpos := List.length_pos_iff.mpr hne
    rw [List.length_dropLast, List.length_cons]
    omega

/-- Around the argument of a container stand a word of four letters at least and two brackets. -/
theorem length_container? (h : container? name = some (word, inner)) : inner.length + 6 ≤ name.length := by
  obtain ⟨w, hw, hfind⟩ := List.exists_of_findSome?_eq_some h
  obtain ⟨rest, hrest, hmap⟩ := Option.bind_eq_some_iff.mp hfind
  obtain ⟨i, hi, heq⟩ := Option.map_eq_some_iff.mp hmap
  obtain rfl : i = inner := (Prod.mk.inj heq).2
  have hword : ∀ w ∈ containerWords, 4 ≤ w.toList.length := by decide
  have hfour := hword w hw
  have hdrop := length_dropWord? hrest
  have hargument := length_argument? hi
  have htrim : (Text.trimStart rest).length ≤ rest.length := (List.dropWhile_sublist _).length_le
  omega

theorem length_enclosed {head inner s : List Char} (hhead : head.length = 5)
    (h : s.length ≤ inner.length + 5) (isEmpty : Bool) :
    (head ++ (if isEmpty then "any".toList else s) ++ [']']).length ≤ inner.length + 11 := by
  have hany : "any".toList.length = 3 := rfl
  have hargument : (if isEmpty then "any".toList else s).length ≤ inner.length + 5 := by
    split_ifs
    · omega
    · exact h
  rw [List.length_append, List.length_append, List.length_singleton, hhead]
  omega

/-- A canonical name is at most five characters longer than its spelling. -/
theorem length_canonicalChars_le (s : List Char) : (canonicalChars s).length ≤ s.length + 5 := by
  have hroom {s word inner : List Char} (h : container? (Text.trim s) = some (word, inner)) :
      inner.length + 11 ≤ s.length + 5 :=
    Nat.add_le_add_right ((length_container? h).trans (length_trim_le s)) 5
  fun_induction canonicalChars s with
  | case1 s a h => exact (length_of_alias? h).trans (Nat.add_le_add_right (length_trim_le s) 5)
  | case2 s h h' => exact (length_trim_le s).trans (Nat.le_add_right _ 5)
  | case3 s h word inner h' isEmpty hlist ih => exact (length_enclosed rfl ih isEmpty).trans (hroom h')
  | case4 s h word inner h' isEmpty hdict ih =>
    have hpart := ih.trans (Nat.add_le_add_right (length_lastPart_le inner) 5)
    exact (length_enclosed rfl hpart isEmpty).trans (hroom h')

/-- An element type is named between brackets. -/
theorem eq_enclosed_of_elementChars? (h : elementChars? name = some inner) :
    name = "list[".toList ++ (inner ++ [']']) ∨ name = "dict[".toList ++ (inner ++ [']']) := by
  unfold elementChars? at h
  split_ifs at h with hform
  obtain rfl := Option.some.inj h
  rw [Bool.and_eq_true, Bool.or_eq_true, List.isPrefixOf_iff_prefix, List.isPrefixOf_iff_prefix,
    decide_eq_true_iff] at hform
  have hrest {head rest : List Char} (hhead : head.length = 5) (hopen : head.getLast? = some '[')
      (hlast : (head ++ rest).getLast? = some ']') :
      head ++ rest = head ++ (((head ++ rest).drop 5).dropLast ++ [']']) := by
    have hne : rest ≠ [] := by
      -- The opening bracket is not the closing one.
      rintro rfl
      rw [List.append_nil, hopen] at hlast
      exact absurd hlast (by decide)
    rw [List.getLast?_append_of_ne_nil _ hne] at hlast
    rw [← hhead, List.drop_left, List.dropLast_append_getLast? _ hlast]
  obtain ⟨⟨rest, rfl⟩ | ⟨rest, rfl⟩, hlast⟩ := hform
  · exact .inl (hrest rfl rfl hlast)
  · exact .inr (hrest rfl rfl hlast)

theorem toList_of_element? {name e : String} (h : element? name = some e) :
    name.toList = "list[".toList ++ (e.toList ++ [']']) ∨ name.toList = "dict[".toList ++ (e.toList ++ [']']) := by
  obtain ⟨inner, hinner, rfl⟩ := Option.map_eq_some_iff.mp h
  have htext : (String.ofList inner).toList = inner := String.toList_ofList
  rw [htext]
  exact eq_enclosed_of_elementChars? hinner

theorem length_element? {name e : String} (h : element? name = some e) : e.length + 6 = name.length := by
  rw [← String.length_toList, ← String.length_toList]
  rcases toList_of_element? h with hname | hname <;>
  · rw [hname]
    simp

theorem length_canonical_le (s : String) : (canonical s).length ≤ s.length + 5 := by
  rw [canonical, String.length_ofList, ← String.length_toList]
  exact length_canonicalChars_le s.toList

end TypeName

namespace Target

/-- Fuel beyond the length of a spelling makes no difference. -/
theorem ofCanonical_stable {s : String} {n m : Nat} (hn : s.length + 2 ≤ n) (hm : s.length + 2 ≤ m) :
    ofCanonical n (TypeName.canonical s) = ofCanonical m (TypeName.canonical s) := by
  induction hlen : s.length using Nat.strongRecOn generalizing s n m with
  | ind k ih =>
    obtain ⟨n, rfl⟩ := Nat.exists_eq_add_of_le' (by omega : 1 ≤ n)
    obtain ⟨m, rfl⟩ := Nat.exists_eq_add_of_le' (by omega : 1 ≤ m)
    have helement {e : String} (he : TypeName.element? (TypeName.canonical s) = some e) :
        ofCanonical n (TypeName.canonical e) = ofCanonical m (TypeName.canonical e) := by
      have hshort := TypeName.length_element? he
      have hcanonical := TypeName.length_canonical_le s
      exact ih e.length (by omega) (by omega) (by omega) rfl
    rw [ofCanonical, ofCanonical]
    cases hscalar : scalars.find? (·.name = TypeName.canonical s) with
    | some t => rfl
    | none =>
      dsimp only
      cases he : TypeName.element? (TypeName.canonical s) with
      | none => rfl
      | some e =>
        dsimp only
        rw [helement he]

variable {type t head : String}

theorem length_of_canonical (hhead : head.length = 5)
    (h : TypeName.canonical type = head ++ t ++ "]") : t.length + 1 ≤ type.length := by
  have hlen := TypeName.length_canonical_le type
  have hclose : "]".length = 1 := rfl
  rw [h, String.length_append, String.length_append, hhead, hclose] at hlen
  omega

/-- Members of a list are brought to the type between the brackets. -/
theorem ofName_listed (h : TypeName.canonical type = "list[" ++ t ++ "]") :
    ofName type = .list ("list[" ++ t ++ "]") (splittable.contains t) (ofName t) := by
  have hlen := length_of_canonical rfl h
  have hshape : "list[" ++ t ++ "]" = String.ofList ("list[".toList ++ (t.toList ++ [']'])) := by
    rw [← String.toList_inj]
    simp
  rw [ofName, h, hshape, TypeTerm.ofCanonical_listed, String.ofList_toList, ofName,
    ofCanonical_stable (by omega : t.length + 2 ≤ _) (by omega : t.length + 2 ≤ t.length + 3)]

/-- Entries of a map are brought to the type between the brackets. -/
theorem ofName_mapped (h : TypeName.canonical type = "dict[" ++ t ++ "]") :
    ofName type = .dict ("dict[" ++ t ++ "]") (ofName t) := by
  have hlen := length_of_canonical rfl h
  have hshape : "dict[" ++ t ++ "]" = String.ofList ("dict[".toList ++ (t.toList ++ [']'])) := by
    rw [← String.toList_inj]
    simp
  rw [ofName, h, hshape, TypeTerm.ofCanonical_mapped, String.ofList_toList, ofName,
    ofCanonical_stable (by omega : t.length + 2 ≤ _) (by omega : t.length + 2 ≤ t.length + 3)]

end Target

end Intake
