import Intake.Proofs.Coercion.Dates
import Intake.Proofs.Coercion.Types

namespace Intake

/-- The built-in types, as their canonical names spell them. -/
inductive TypeTerm where
  | str
  | int
  | int32
  | float
  | bool
  | date
  | datetime
  | uuid
  | any
  | list (element : TypeTerm)
  | dict (element : TypeTerm)
  deriving DecidableEq

namespace TypeName

variable {s : List Char}

theorem ne_comma_of_mem_reverse (h : ',' ∉ s) : ∀ c ∈ s.reverse, decide (c ≠ ',') = true := by
  intro c hc
  refine decide_eq_true ?_
  rintro rfl
  exact h (List.mem_reverse.mp hc)

theorem lastPart_of_not_mem (h : ',' ∉ s) : lastPart s = s := by
  rw [lastPart, List.takeWhile_eq_self_iff.mpr (ne_comma_of_mem_reverse h), List.reverse_reverse]

theorem lastPart_append (h : ',' ∉ s) (before : List Char) : lastPart (before ++ ',' :: s) = s := by
  rw [lastPart, List.reverse_append, List.reverse_cons, List.append_assoc,
    List.takeWhile_append_of_pos (ne_comma_of_mem_reverse h), List.singleton_append,
    List.takeWhile_cons_of_neg (by simp), List.append_nil, List.reverse_reverse]

theorem canonicalChars_of_trim {s' : List Char} (h : Text.trim s = Text.trim s') :
    canonicalChars s = canonicalChars s' := by
  rw [canonicalChars.eq_def s, canonicalChars.eq_def s', h]

theorem canonical_ofList (s : List Char) :
    canonical (String.ofList s) = String.ofList (canonicalChars s) := by
  rw [canonical, String.toList_ofList]

end TypeName

namespace TypeTerm

def name : TypeTerm → String
  | .str => "str"
  | .int => "int"
  | .int32 => "int32"
  | .float => "float"
  | .bool => "bool"
  | .date => "date"
  | .datetime => "datetime"
  | .uuid => "uuid"
  | .any => "any"
  | .list t => "list[" ++ t.name ++ "]"
  | .dict t => "dict[" ++ t.name ++ "]"

/-- A text `YYYY-MM-DD` of a day that the calendar has. -/
def IsDay (s : List Char) : Prop :=
  ∃ (d : Date) (year month day : List Char), s = year ++ '-' :: (month ++ '-' :: day) ∧
    (year.length = 4 ∧ month.length = 2 ∧ day.length = 2) ∧
    (∀ c ∈ year ++ month ++ day, c.isDigit = true) ∧
    Nat.ofDigitChars 10 year 0 = d.year ∧ Nat.ofDigitChars 10 month 0 = d.month ∧
    Nat.ofDigitChars 10 day 0 = d.day

/-- A text of 32 hexadecimal digits without capitals, with dashes between its five groups. -/
def IsDashedHex (s : List Char) : Prop :=
  ∃ groups : List (List Char), groups.map List.length = [8, 4, 4, 4, 12] ∧
    (∀ group ∈ groups, ∀ c ∈ group, c.isDigit = true ∨ ('a' ≤ c ∧ c ≤ 'f')) ∧
    s = List.intercalate ['-'] groups

/-- The values of a type. -/
def Inhabits : TypeTerm → Value → Prop
  | .str, v => ∃ s, v = .text s
  | .int, v => ∃ n : Int, v = .int n ∧ -2 ^ 63 ≤ n ∧ n < 2 ^ 63
  | .int32, v => ∃ n : Int, v = .int n ∧ -2 ^ 31 ≤ n ∧ n < 2 ^ 31
  | .float, v => ∃ x, v = .float x
  | .bool, v => ∃ b, v = .bool b
  | .date, v => ∃ s, v = .text s ∧ IsDay s.toList
  | .datetime, v => ∃ s, v = .text s
  | .uuid, v => ∃ s, v = .text s ∧ IsDashedHex s.toList
  | .any, v => v ≠ .null
  | .list t, v => ∃ vs, v = .list vs ∧ ∀ x ∈ vs, t.Inhabits x
  | .dict t, v => ∃ es, v = .map es ∧ ∀ e ∈ es, t.Inhabits e.2

/-- The target that a type's name stands for. -/
def target : TypeTerm → Target
  | .str => .str
  | .int => .int
  | .int32 => .int32
  | .float => .float
  | .bool => .bool
  | .date => .date
  | .datetime => .datetime
  | .uuid => .uuid
  | .any => .any
  | .list t => .list (TypeTerm.list t).name (Target.splittable.contains t.name) t.target
  | .dict t => .dict (TypeTerm.dict t).name t.target

def chars (t : TypeTerm) : List Char := t.name.toList

theorem chars_list (t : TypeTerm) : (list t).chars = "list[".toList ++ (t.chars ++ [']']) := by
  simp [chars, name]

theorem chars_dict (t : TypeTerm) : (dict t).chars = "dict[".toList ++ (t.chars ++ [']']) := by
  simp [chars, name]

theorem chars_ne_nil (t : TypeTerm) : t.chars ≠ [] := by
  cases t <;> simp [chars, name]

/-- Whether a character is visible, is no capital letter and does not part two names. -/
def isPlain (c : Char) : Bool := 33 ≤ c.toNat ∧ c.toNat ≤ 126 ∧ c.toLower = c ∧ c ≠ ','

theorem all_isPlain_chars (t : TypeTerm) : t.chars.all isPlain = true := by
  have hlist : "list[".toList.all isPlain = true := by decide
  have hdict : "dict[".toList.all isPlain = true := by decide
  have hclose : [']'].all isPlain = true := by decide
  induction t with
  | list t ih => rw [chars_list, List.all_append, List.all_append, hlist, ih, hclose]; rfl
  | dict t ih => rw [chars_dict, List.all_append, List.all_append, hdict, ih, hclose]; rfl
  | _ => decide

theorem plain_of_mem_chars {t : TypeTerm} {c : Char} (h : c ∈ t.chars) :
    33 ≤ c.toNat ∧ c.toNat ≤ 126 ∧ c.toLower = c ∧ c ≠ ',' :=
  of_decide_eq_true (List.all_eq_true.mp t.all_isPlain_chars c h)

theorem trim_chars (t : TypeTerm) : Text.trim t.chars = t.chars := by
  refine Text.trim_of_not_isBlank fun c hc => ?_
  obtain ⟨hlow, hhigh, -⟩ := plain_of_mem_chars hc
  exact Text.not_isBlank_of_visible hlow hhigh

theorem lastPart_chars (t : TypeTerm) : TypeName.lastPart t.chars = t.chars :=
  TypeName.lastPart_of_not_mem fun h => (plain_of_mem_chars h).2.2.2 rfl

theorem lineBreak_not_mem_chars (t : TypeTerm) : '\n' ∉ t.chars :=
  fun h => absurd (plain_of_mem_chars h).1 (by decide)

variable {s : List Char}

/-- No spelling of a type without an argument has a bracket. -/
theorem alias?_of_bracket {bracket : Char} (hbracket : bracket ∈ ['[', ']', '(']) (h : bracket ∈ s) :
    TypeName.alias? s = none := by
  have hbrackets : ∀ b ∈ ['[', ']', '('],
      b.toNat < 128 ∧ b.toLower = b ∧ ∀ e ∈ TypeName.aliases, b ∉ e.1.toList := by
    simp only [List.forall_mem_cons]
    exact ⟨by decide, by decide, by decide, nofun⟩
  obtain ⟨hascii, hsame, hall⟩ := hbrackets bracket hbracket
  have hlower : bracket ∈ Text.lower s := Text.mem_lowerAfter_of_toLower hascii hsame h
  rw [TypeName.alias?, List.lookup_eq_none_iff]
  intro e he
  rw [bne_iff_ne]
  rintro heq
  have hmem := hall e he
  rw [← heq, String.toList_ofList] at hmem
  exact hmem hlower

theorem trimStart_bracket (s : List Char) : Text.trimStart ('[' :: s) = '[' :: s :=
  List.dropWhile_cons_of_neg (by decide)

/-- An argument stands on one line. -/
theorem argument?_enclosed (s : List Char) :
    TypeName.argument? ('[' :: (s ++ [']'])) = if '\n' ∈ s then none else some s := by
  by_cases hline : '\n' ∈ s <;> simp [TypeName.argument?, hline]

theorem container?_listed (s : List Char) :
    TypeName.container? ("list[".toList ++ (s ++ [']'])) =
      if '\n' ∈ s then none else some ("list".toList, s) := by
  have hlist : TypeName.dropWord? "list".toList ("list[".toList ++ (s ++ [']'])) =
      some ('[' :: (s ++ [']'])) := rfl
  have hothers : ∀ word ∈ ["array", "dict", "hash"],
      TypeName.dropWord? word.toList ("list[".toList ++ (s ++ [']'])) = none := by
    simp only [List.forall_mem_cons]
    exact ⟨rfl, rfl, rfl, nofun⟩
  have htake : ("list[".toList ++ (s ++ [']'])).take 4 = "list".toList := rfl
  rw [TypeName.container?, TypeName.containerWords, List.findSome?_cons, hlist, Option.bind_some,
    trimStart_bracket, argument?_enclosed]
  split_ifs
  · rw [Option.map_none, List.findSome?_eq_none_iff]
    exact fun word hword => by rw [hothers word hword, Option.bind_none]
  · exact congrArg (fun word => some (word, s)) htake

theorem container?_mapped (s : List Char) :
    TypeName.container? ("dict[".toList ++ (s ++ [']'])) =
      if '\n' ∈ s then none else some ("dict".toList, s) := by
  have hlist : TypeName.dropWord? "list".toList ("dict[".toList ++ (s ++ [']'])) = none := rfl
  have harray : TypeName.dropWord? "array".toList ("dict[".toList ++ (s ++ [']'])) = none := rfl
  have hdict : TypeName.dropWord? "dict".toList ("dict[".toList ++ (s ++ [']'])) =
      some ('[' :: (s ++ [']'])) := rfl
  have hhash : TypeName.dropWord? "hash".toList ("dict[".toList ++ (s ++ [']'])) = none := rfl
  have htake : ("dict[".toList ++ (s ++ [']'])).take 4 = "dict".toList := rfl
  rw [TypeName.container?, TypeName.containerWords, List.findSome?_cons, hlist, Option.bind_none,
    List.findSome?_cons, harray, Option.bind_none, List.findSome?_cons, hdict, Option.bind_some,
    trimStart_bracket, argument?_enclosed, List.findSome?_singleton, hhash, Option.bind_none]
  split_ifs
  · rfl
  · exact congrArg (fun word => some (word, s)) htake

theorem suffix_of_dropWord? {word rest : List Char} (h : TypeName.dropWord? word s = some rest) :
    rest <:+ s := by
  induction word generalizing s with
  | nil =>
    obtain rfl : s = rest := Option.some.inj h
    exact List.suffix_rfl
  | cons w word ih =>
    cases s with
    | nil => cases h
    | cons c s =>
      rw [TypeName.dropWord?] at h
      split_ifs at h
      exact (ih h).trans (List.suffix_cons c s)

/-- A container is spelled with an opening bracket, and its argument stands on one line. -/
theorem of_container? {word inner : List Char} (h : TypeName.container? s = some (word, inner)) :
    ('[' ∈ s ∨ '(' ∈ s) ∧ inner ⊆ s ∧ '\n' ∉ inner := by
  obtain ⟨w, -, hfind⟩ := List.exists_of_findSome?_eq_some h
  obtain ⟨rest, hrest, hmap⟩ := Option.bind_eq_some_iff.mp hfind
  obtain ⟨i, hargument, heq⟩ := Option.map_eq_some_iff.mp hmap
  obtain rfl : i = inner := (Prod.mk.inj heq).2
  have hsub : Text.trimStart rest ⊆ s :=
    ((List.dropWhile_suffix _).trans (suffix_of_dropWord? hrest)).subset
  cases hstart : Text.trimStart rest with
  | nil =>
    rw [hstart] at hargument
    cases hargument
  | cons c inside =>
    rw [hstart] at hargument hsub
    simp only [TypeName.argument?] at hargument
    split_ifs at hargument with hform
    obtain rfl := Option.some.inj hargument
    simp only [Bool.and_eq_true, Bool.or_eq_true, decide_eq_true_eq, Bool.not_eq_true'] at hform
    obtain ⟨⟨hopen, -⟩, hline⟩ := hform
    have hc : c ∈ s := hsub List.mem_cons_self
    refine ⟨?_, fun d hd => hsub (List.mem_cons_of_mem c (List.mem_of_mem_dropLast hd)), by simpa using hline⟩
    rcases hopen with rfl | rfl
    · exact .inl hc
    · exact .inr hc

theorem alias?_of_container? {word inner : List Char} (h : TypeName.container? s = some (word, inner)) :
    TypeName.alias? s = none := by
  rcases (of_container? h).1 with hopen | hopen
  · exact alias?_of_bracket (by decide) hopen
  · exact alias?_of_bracket (by decide) hopen

theorem canonicalChars_of_container? {word inner : List Char}
    (h : TypeName.container? (Text.trim s) = some (word, inner)) :
    TypeName.canonicalChars s =
      if TypeName.isListWord word then
        "list[".toList ++
          (if (Text.trim inner).isEmpty then "any".toList else TypeName.canonicalChars inner) ++ [']']
      else
        "dict[".toList ++ (if (Text.trim inner).isEmpty then "any".toList
          else TypeName.canonicalChars (TypeName.lastPart inner)) ++ [']'] := by
  rw [TypeName.canonicalChars, alias?_of_container? h]
  dsimp only
  split
  · next hnone => exact absurd (hnone.symm.trans h) (by simp)
  · next word' inner' hsome =>
    obtain ⟨rfl, rfl⟩ := Prod.mk.inj (Option.some.inj (hsome.symm.trans h))
    rfl

/-- The canonical form of a container's name, the argument brought to its own. -/
theorem canonicalChars_container {word inner : List Char} (hinner : Text.trim inner ≠ [])
    (h : TypeName.container? (Text.trim s) = some (word, inner)) :
    TypeName.canonicalChars s =
      if TypeName.isListWord word then "list[".toList ++ TypeName.canonicalChars inner ++ [']']
      else "dict[".toList ++ TypeName.canonicalChars (TypeName.lastPart inner) ++ [']'] := by
  have hfull : ¬(Text.trim inner).isEmpty = true := by rwa [List.isEmpty_iff]
  rw [canonicalChars_of_container? h, if_neg hfull, if_neg hfull]

theorem enclosed_inj {head s s' : List Char} : head ++ (s ++ [']']) = head ++ (s' ++ [']']) ↔ s = s' := by
  rw [List.append_cancel_left_eq, List.append_cancel_right_eq]

theorem trim_enclosed {head : List Char} (h : head = "list[".toList ∨ head = "dict[".toList) :
    Text.trim (head ++ (s ++ [']'])) = head ++ (s ++ [']']) := by
  refine Text.trim_of_ends (fun c hc => ?_) fun c hc => ?_
  · rcases h with rfl | rfl <;>
    · obtain rfl := Option.some.inj hc
      decide
  · rw [← List.append_assoc, List.getLast?_concat] at hc
    obtain rfl := Option.some.inj hc
    decide

theorem lineBreak_not_mem_enclosed {head : List Char} (h : head = "list[".toList ∨ head = "dict[".toList)
    (hs : '\n' ∉ s) : '\n' ∉ head ++ (s ++ [']']) := by
  rcases h with rfl | rfl <;> simp [hs]

theorem alias?_enclosed {head : List Char} : TypeName.alias? (head ++ (s ++ [']'])) = none := by
  have hclose : ']' ∈ head ++ (s ++ [']']) := by simp
  exact alias?_of_bracket (by decide) hclose

theorem container?_trim_listed (hs : '\n' ∉ s) :
    TypeName.container? (Text.trim ("list[".toList ++ (s ++ [']']))) = some ("list".toList, s) := by
  rw [trim_enclosed (.inl rfl), container?_listed, if_neg hs]

theorem container?_trim_mapped (hs : '\n' ∉ s) :
    TypeName.container? (Text.trim ("dict[".toList ++ (s ++ [']']))) = some ("dict".toList, s) := by
  rw [trim_enclosed (.inr rfl), container?_mapped, if_neg hs]

theorem canonicalChars_listed (hs : '\n' ∉ s) (hne : Text.trim s ≠ []) :
    TypeName.canonicalChars ("list[".toList ++ (s ++ [']'])) =
      "list[".toList ++ (TypeName.canonicalChars s ++ [']']) := by
  have hword : TypeName.isListWord "list".toList = true := by decide
  rw [canonicalChars_container hne (container?_trim_listed hs), if_pos hword, List.append_assoc]

theorem canonicalChars_mapped (hs : '\n' ∉ s) (hne : Text.trim s ≠ []) :
    TypeName.canonicalChars ("dict[".toList ++ (s ++ [']'])) =
      "dict[".toList ++ (TypeName.canonicalChars (TypeName.lastPart s) ++ [']']) := by
  have hword : ¬TypeName.isListWord "dict".toList = true := by decide
  rw [canonicalChars_container hne (container?_trim_mapped hs), if_neg hword, List.append_assoc]

/-- A canonical name is its own canonical form. -/
theorem canonicalChars_chars (t : TypeTerm) : TypeName.canonicalChars t.chars = t.chars := by
  have hne (t : TypeTerm) : Text.trim t.chars ≠ [] := by
    rw [trim_chars]
    exact t.chars_ne_nil
  induction t with
  | list t ih => rw [chars_list, canonicalChars_listed t.lineBreak_not_mem_chars (hne t), ih]
  | dict t ih => rw [chars_dict, canonicalChars_mapped t.lineBreak_not_mem_chars (hne t), lastPart_chars, ih]
  | _ =>
    rw [TypeName.canonicalChars, trim_chars]
    rfl

theorem canonical_name (t : TypeTerm) : TypeName.canonical t.name = t.name := by
  rw [TypeName.canonical, ← chars, canonicalChars_chars, chars, String.ofList_toList]

theorem elementChars?_enclosed {head : List Char} (h : head = "list[".toList ∨ head = "dict[".toList)
    (s : List Char) : TypeName.elementChars? (head ++ (s ++ [']'])) = some s := by
  have hlast : ('[' :: (s ++ [']'])).getLast? = some ']' := by
    rw [← List.cons_append, List.getLast?_concat]
  rcases h with rfl | rfl <;> simp [TypeName.elementChars?, hlast]

theorem find?_scalars_of_bracket {bracket : Char} (hbracket : bracket = '[' ∨ bracket = ']')
    {name : String} (h : bracket ∈ name.toList) : Target.scalars.find? (·.name = name) = none := by
  have hall : ∀ x ∈ Target.scalars, bracket ∉ x.name.toList := by
    rcases hbracket with rfl | rfl <;> decide
  rw [List.find?_eq_none]
  intro x hx heq
  obtain rfl := of_decide_eq_true heq
  exact hall x hx h

theorem ofCanonical_listed (fuel : Nat) (s : List Char) :
    Target.ofCanonical (fuel + 1) (String.ofList ("list[".toList ++ (s ++ [']']))) =
      .list (String.ofList ("list[".toList ++ (s ++ [']']))) (Target.splittable.contains (String.ofList s))
        (Target.ofCanonical fuel (TypeName.canonical (String.ofList s))) := by
  have htext : (String.ofList ("list[".toList ++ (s ++ [']']))).toList = "list[".toList ++ (s ++ [']']) :=
    String.toList_ofList
  have helement : TypeName.element? (String.ofList ("list[".toList ++ (s ++ [']']))) =
      some (String.ofList s) := by
    rw [TypeName.element?, htext, elementChars?_enclosed (.inl rfl), Option.map_some]
  have hlist : "list[".toList.isPrefixOf (String.ofList ("list[".toList ++ (s ++ [']']))).toList = true := by
    rw [htext]
    rfl
  rw [Target.ofCanonical, find?_scalars_of_bracket (.inr rfl) (by simp)]
  simp only [hlist, Bool.true_or, if_true, helement]

theorem ofCanonical_mapped (fuel : Nat) (s : List Char) :
    Target.ofCanonical (fuel + 1) (String.ofList ("dict[".toList ++ (s ++ [']']))) =
      .dict (String.ofList ("dict[".toList ++ (s ++ [']'])))
        (Target.ofCanonical fuel (TypeName.canonical (String.ofList s))) := by
  have htext : (String.ofList ("dict[".toList ++ (s ++ [']']))).toList = "dict[".toList ++ (s ++ [']']) :=
    String.toList_ofList
  have helement : TypeName.element? (String.ofList ("dict[".toList ++ (s ++ [']']))) =
      some (String.ofList s) := by
    rw [TypeName.element?, htext, elementChars?_enclosed (.inr rfl), Option.map_some]
  have hlist : "list[".toList.isPrefixOf (String.ofList ("dict[".toList ++ (s ++ [']']))).toList = false := by
    rw [htext]
    rfl
  have hdict : "dict[".toList.isPrefixOf (String.ofList ("dict[".toList ++ (s ++ [']']))).toList = true := by
    rw [htext]
    rfl
  rw [Target.ofCanonical, find?_scalars_of_bracket (.inr rfl) (by simp)]
  simp only [hlist, hdict, Bool.false_or, if_true, Bool.false_eq_true, if_false, helement]

theorem ofList_chars (t : TypeTerm) : String.ofList t.chars = t.name := by
  rw [chars, String.ofList_toList]

/-- A canonical name is taken apart as it was put together. -/
theorem ofCanonical_name (t : TypeTerm) {fuel : Nat} (h : t.chars.length ≤ fuel) :
    Target.ofCanonical (fuel + 1) t.name = t.target := by
  induction t generalizing fuel with
  | list t ih =>
    have hlen : (list t).chars.length = t.chars.length + 6 := by simp [chars_list]
    obtain ⟨fuel, rfl⟩ := Nat.exists_eq_add_of_le' (by omega : 1 ≤ fuel)
    rw [← ofList_chars, chars_list, ofCanonical_listed, ← chars_list, ofList_chars, ofList_chars,
      canonical_name, ih (by omega), target]
  | dict t ih =>
    have hlen : (dict t).chars.length = t.chars.length + 6 := by simp [chars_dict]
    obtain ⟨fuel, rfl⟩ := Nat.exists_eq_add_of_le' (by omega : 1 ≤ fuel)
    rw [← ofList_chars, chars_dict, ofCanonical_mapped, ← chars_dict, ofList_chars, ofList_chars,
      canonical_name, ih (by omega), target]
  | _ => rfl

theorem ofName_name (t : TypeTerm) : Target.ofName t.name = t.target := by
  have hlen : t.chars.length ≤ t.name.length + 2 := by rw [chars, String.length_toList]; omega
  rw [Target.ofName, canonical_name, ofCanonical_name t hlen]

theorem isDay_iso (d : Date) : IsDay d.iso.toList := by
  have hvalue (n w : Nat) : Nat.ofDigitChars 10 (Date.padded w n) 0 = n := by
    rw [← Text.digitsValue_eq_ofDigitChars fun c => Date.isDigit_of_mem_padded, Date.digitsValue_padded]
  refine ⟨d, Date.padded 4 d.year, Date.padded 2 d.month, Date.padded 2 d.day, ?_,
    ⟨Date.length_padded (by decide) d.year_lt, Date.length_padded (by decide) d.month_lt,
      Date.length_padded (by decide) d.day_lt⟩, ?_, hvalue _ _, hvalue _ _, hvalue _ _⟩
  · rw [Date.iso, String.toList_ofList, Date.isoChars]
  · have hdigit (w n : Nat) : ∀ c ∈ Date.padded w n, c.isDigit = true :=
      fun c => Date.isDigit_of_mem_padded
    exact List.forall_mem_append.mpr
      ⟨List.forall_mem_append.mpr ⟨hdigit _ _, hdigit _ _⟩, hdigit _ _⟩

theorem exists_groups_of_isHexGroups {sizes : List Nat} {s : List Char} (hne : sizes ≠ [])
    (h : Coercion.isHexGroups sizes s = true) :
    ∃ groups : List (List Char), groups.map List.length = sizes ∧
      (∀ group ∈ groups, ∀ c ∈ group, c ∈ s ∧ Coercion.isHexDigit c = true) ∧
      s = List.intercalate ['-'] groups := by
  induction sizes generalizing s with
  | nil => exact absurd rfl hne
  | cons n sizes ih =>
    cases sizes with
    | nil =>
      obtain ⟨hlen, hdigits⟩ := Coercion.isHexGroups_singleton_iff.mp h
      refine ⟨[s], by rw [List.map_singleton, hlen], fun g hg c hc => ?_,
        List.intercalate_singleton.symm⟩
      obtain rfl := List.mem_singleton.mp hg
      exact ⟨hc, hdigits c hc⟩
    | cons m sizes =>
      obtain ⟨group, rest, rfl, hlen, hdigits, hrest⟩ := Coercion.isHexGroups_cons_iff.mp h
      obtain ⟨groups, hlens, hgroups, rfl⟩ := ih (List.cons_ne_nil m sizes) hrest
      have hsome : groups ≠ [] := by
        rintro rfl
        cases hlens
      refine ⟨group :: groups, by rw [List.map_cons, hlen, hlens], ?_, ?_⟩
      · intro g hg c hc
        rcases List.mem_cons.mp hg with rfl | hg
        · exact ⟨List.mem_append_left _ hc, hdigits c hc⟩
        · obtain ⟨hmem, hdigit⟩ := hgroups g hg c hc
          exact ⟨List.mem_append_right _ (List.mem_cons_of_mem _ hmem), hdigit⟩
      · rw [List.intercalate_cons_of_ne_nil hsome, List.append_assoc, List.singleton_append]

theorem isLowerHex_of_isHexDigit {c : Char} (h : Coercion.isHexDigit c = true) (hlower : c.toLower = c) :
    c.isDigit = true ∨ ('a' ≤ c ∧ c ≤ 'f') := by
  have hall : ∀ n < 128, Coercion.isHexDigit (Char.ofNat n) = true →
      (Char.ofNat n).toLower = Char.ofNat n →
      (Char.ofNat n).isDigit = true ∨ ('a' ≤ Char.ofNat n ∧ Char.ofNat n ≤ 'f') := by decide
  have hlt : c.toNat < 128 := by
    have hrange := Coercion.toNat_of_isHexDigit h
    omega
  have hc := hall c.toNat hlt
  rw [Char.ofNat_toNat] at hc
  exact hc h hlower

theorem isDashedHex_of_isIdentifier {s : List Char} (h : Coercion.IsIdentifier s) : IsDashedHex s := by
  obtain ⟨groups, hlens, hgroups, rfl⟩ := exists_groups_of_isHexGroups (by decide) h.text
  refine ⟨groups, hlens, fun g hg c hc => ?_, rfl⟩
  obtain ⟨hmem, hdigit⟩ := hgroups g hg c hc
  have hlower := List.map_inj_left.mp (h.lower.trans (List.map_id _).symm) c hmem
  exact isLowerHex_of_isHexDigit hdigit hlower

theorem inhabits_of_fits {t : TypeTerm} {v : Value} (h : t.target.Fits v) : t.Inhabits v := by
  induction t generalizing v with
  | str => cases h with | str s => exact ⟨s, rfl⟩
  | int =>
    cases h with
    | @int n h =>
      unfold Coercion.int64Low Coercion.int64High at h
      exact ⟨n, rfl, by omega, by omega⟩
  | int32 =>
    cases h with
    | @int32 n h =>
      unfold Coercion.int32Low Coercion.int32High at h
      exact ⟨n, rfl, by omega, by omega⟩
  | float => cases h with | float x => exact ⟨x, rfl⟩
  | bool => cases h with | bool b => exact ⟨b, rfl⟩
  | date => cases h with | date d => exact ⟨_, rfl, isDay_iso d⟩
  | datetime => cases h
  | uuid => cases h with | uuid h => exact ⟨_, rfl, isDashedHex_of_isIdentifier h⟩
  | any => cases h with | any hn => exact hn
  | list t ih => cases h with | list h => exact ⟨_, rfl, fun x hx => ih (h x hx)⟩
  | dict t ih => cases h with | dict h => exact ⟨_, rfl, fun e he => ih (h e he)⟩

theorem inhabits_of_writes {P : Moment → Prop} {t : TypeTerm} {v : Value} (h : t.target.Writes P v) :
    t.Inhabits v := by
  induction t generalizing v with
  | list t ih =>
    cases h with
    | list h => exact ⟨_, rfl, fun x hx => ih (h x hx)⟩
    | fits h => exact inhabits_of_fits h
  | dict t ih =>
    cases h with
    | dict h => exact ⟨_, rfl, fun e he => ih (h e he)⟩
    | fits h => exact inhabits_of_fits h
  | datetime =>
    cases h with
    | moment => exact ⟨_, rfl⟩
    | fits h => cases h
  | _ => exact inhabits_of_fits (h.fits_of_timeless rfl)

end TypeTerm

/-- Without conversions of its own, a registry brings values to a type only if it has them. -/
theorem Conversions.inhabits_of_coerce {r : Conversions} (hr : r.functions = []) {t : TypeTerm}
    {v w : Value} {dropped : List Position} (h : r.coerce t.name v = .accepted w dropped) :
    t.Inhabits w := by
  rw [Conversions.coerce, hr, t.ofName_name] at h
  exact TypeTerm.inhabits_of_writes (Coercion.writes_of_run h)

theorem Conversions.inhabits_of_coerce_sizes :
    ∃ dropped, Conversions.empty.coerce (TypeTerm.dict (.list .int32)).name
        (.map [("sizes", .text "[7, true, \" 12\", 3000000000]")]) =
          .accepted (.map [("sizes", .list [.int 7, .int 12])]) dropped ∧
      (TypeTerm.dict (.list .int32)).Inhabits (.map [("sizes", .list [.int 7, .int 12])]) := by
  have hrun : Conversions.empty.coerce (TypeTerm.dict (.list .int32)).name
      (.map [("sizes", .text "[7, true, \" 12\", 3000000000]")]) =
        .accepted (.map [("sizes", .list [.int 7, .int 12])]) [] := by
    rw [Conversions.coerce, TypeTerm.ofName_name]
    cbv
  exact ⟨[], hrun, inhabits_of_coerce rfl hrun⟩

end Intake
