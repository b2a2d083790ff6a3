import Intake.Proofs.Sanitizer.Repeated

namespace Intake

variable {v : Value} {text : String}

/-- A text stands somewhere in a value. Texts are nested in lists and in maps, where they are not the
names of entries. -/
inductive Value.HasText (text : String) : Value → Prop where
  | here : HasText text (.text text)
  | item {v : Value} {items : List Value} (hv : v ∈ items) (h : HasText text v) :
      HasText text (.list items)
  | entry {name : String} {v : Value} {entries : List (String × Value)} (hv : (name, v) ∈ entries)
      (h : HasText text v) : HasText text (.map entries)

namespace Sanitizer

open Value (HasText)

variable {s : Sanitizer} {t : List Char} {c : Char}

theorem mem_withCase (h : c ∈ s.withCase t) : c ∈ t ∨ 63 ≤ c.toNat := by
  unfold withCase step at h
  split_ifs at h
  · exact Text.mem_lower h
  · exact Text.mem_upper h
  · exact .inl h

/-- A change of case brings in no sign of markup. -/
theorem unmarked_withCase (h : Text.Unmarked t) : Text.Unmarked (s.withCase t) := by
  intro c hc hmark
  have hlow : ∀ m ∈ Text.marks, m.toNat < 63 := by simp [Text.marks]
  rcases mem_withCase hc with hc | hc
  · exact h c hc hmark
  · have := hlow c hmark
    omega

/-- No sign of markup is left where markup is escaped, whatever else is done. -/
theorem unmarked_cleanChars (h : .escapeMarkup ∈ s.options) (t : List Char) :
    Text.Unmarked (s.cleanChars t) := by
  refine unmarked_withCase ?_
  refine step_preserves (P := Text.Unmarked) ?_ fun ht => ht.sublist (Text.isInfix_trim _).sublist
  refine step_preserves (P := Text.Unmarked) ?_ Cleaning.unmarked_collapsed
  rw [step_of_mem h]
  exact Text.unmarked_escaped _

theorem cleanItems_eq_map (s : Sanitizer) (items : List Value) :
    s.cleanItems items = items.map s.cleanValue := by
  induction items with
  | nil => rfl
  | cons v items ih => rw [cleanItems, ih, List.map_cons]

theorem cleanEntries_eq_map (s : Sanitizer) (entries : List (String × Value)) :
    s.cleanEntries entries = entries.map fun e => (e.1, s.cleanValue e.2) := by
  induction entries with
  | nil => rfl
  | cons e entries ih => rw [cleanEntries, ih, List.map_cons]

/-- The texts of a cleaned value are the texts of the value, cleaned. -/
theorem hasText_cleanValue (h : HasText text (s.cleanValue v)) :
    ∃ original, HasText original v ∧ text = s.cleanText original := by
  generalize hw : s.cleanValue v = w at h
  induction h generalizing v with
  | here =>
    cases v with
    | text original =>
      rw [cleanValue] at hw
      exact ⟨original, .here, (Value.text.inj hw).symm⟩
    | _ => simp [cleanValue] at hw
  | item hitem h ih =>
    cases v with
    | list items =>
      rw [cleanValue, cleanItems_eq_map] at hw
      obtain rfl := Value.list.inj hw
      obtain ⟨v, hv, rfl⟩ := List.mem_map.mp hitem
      obtain ⟨original, horiginal, htext⟩ := ih rfl
      exact ⟨original, .item hv horiginal, htext⟩
    | _ => simp [cleanValue] at hw
  | entry hentry h ih =>
    cases v with
    | map entries =>
      rw [cleanValue, cleanEntries_eq_map] at hw
      obtain rfl := Value.map.inj hw
      obtain ⟨e, he, heq⟩ := List.mem_map.mp hentry
      obtain ⟨rfl, rfl⟩ := Prod.mk.inj heq
      obtain ⟨original, horiginal, htext⟩ := ih rfl
      exact ⟨original, .entry he horiginal, htext⟩
    | _ => simp [cleanValue] at hw

/-- A text stands where cleaning reaches: under a key that is named if there are names and the payload is a
map, and else anywhere. -/
def Reaches (s : Sanitizer) (text : String) : Value → Prop
  | .map entries => ∃ e ∈ entries, (s.fields = [] ∨ e.1 ∈ s.fields) ∧ HasText text e.2
  | v => HasText text v

theorem clean_map_eq (s : Sanitizer) (entries : List (String × Value)) :
    s.clean (.map entries) = .map (entries.map fun e =>
      (e.1, if s.fields = [] ∨ e.1 ∈ s.fields then s.cleanValue e.2 else e.2)) := by
  by_cases hfields : s.fields = []
  · rw [clean_of_isEmpty (by simpa using hfields), cleanValue, cleanEntries_eq_map]
    simp [hfields]
  · rw [clean_map (by simpa using hfields)]
    simp [hfields]

/-- What cleaning reaches in a cleaned payload is what it reaches in the payload, cleaned. -/
theorem reaches_clean (h : s.Reaches text (s.clean v)) :
    ∃ original, s.Reaches original v ∧ text = s.cleanText original := by
  cases v with
  | map entries =>
    rw [clean_map_eq] at h
    obtain ⟨cleaned, hcleaned, hnamed, htext⟩ := h
    obtain ⟨e, he, rfl⟩ := List.mem_map.mp hcleaned
    rw [if_pos hnamed] at htext
    obtain ⟨original, horiginal, heq⟩ := hasText_cleanValue htext
    exact ⟨original, ⟨e, he, hnamed, horiginal⟩, heq⟩
  | _ => exact hasText_cleanValue h

/-- Where cleaning reaches there is no tag if tags are taken out, and no sign of markup at all if markup is
escaped, whichever other steps are asked for. -/
theorem cleaned_texts_unmarked (h : s.Reaches text (s.clean v)) :
    (.removeMarkup ∈ s.options → Cleaning.Untagged text.toList) ∧
      (.escapeMarkup ∈ s.options → Text.Unmarked text.toList) := by
  obtain ⟨original, -, rfl⟩ := reaches_clean h
  rw [cleanText, String.toList_ofList]
  exact ⟨fun hremove => untagged_cleanChars hremove _, fun hescape => unmarked_cleanChars hescape _⟩

/-- For texts that are shown in capitals on a page. -/
def forPages : Sanitizer := ⟨[.uppercase, .escapeMarkup, .removeMarkup, .trim], ["tags"]⟩

def page : Value := .map [("tags", .list [.text " <<b>>'o</b'>' "]), ("note", .text "<i>")]

theorem cleaned_texts_unmarked_page :
    forPages.Reaches "&GT;&#X27;O&#X27;" (forPages.clean page) ∧
      Cleaning.Untagged "&GT;&#X27;O&#X27;".toList ∧ Text.Unmarked "&GT;&#X27;O&#X27;".toList := by
  have hclean : forPages.clean page =
      .map [("tags", .list [.text "&GT;&#X27;O&#X27;"]), ("note", .text "<i>")] := by cbv
  have hreaches : forPages.Reaches "&GT;&#X27;O&#X27;" (forPages.clean page) := by
    rw [hclean]
    exact ⟨_, List.mem_cons_self, .inr List.mem_cons_self, .item List.mem_cons_self .here⟩
  obtain ⟨huntagged, hunmarked⟩ := cleaned_texts_unmarked hreaches
  exact ⟨hreaches, huntagged (by decide), hunmarked (by decide)⟩

end Sanitizer

end Intake
