import Intake.Parser.Registry
import Intake.Proofs.Sanitizer.Steps
import Intake.Proofs.Table

namespace Intake

theorem not_mem_mediaType (contentType : Option String) : ';' ∉ (mediaType contentType).toList := by
  intro hmem
  rw [mediaType, String.toList_ofList] at hmem
  rcases Text.mem_lower hmem with hmem | hhigh
  · have htaken : ';' ∈ (contentType.getD "").toList.takeWhile (· ≠ ';') :=
      (Text.isInfix_trim _).subset hmem
    have hother := List.mem_takeWhile_imp htaken
    exact of_decide_eq_true hother rfl
  · exact absurd hhigh (by decide)

theorem trim_lower_trim (t : List Char) :
    Text.trim (Text.lower (Text.trim t)) = Text.lower (Text.trim t) :=
  (Text.recased_lower _).trim (Text.trim_trim t)

theorem mediaType_eq (contentType : Option String) : mediaType contentType =
    String.ofList (Text.lower (Text.trim ((contentType.getD "").toList.takeWhile (· ≠ ';')))) := rfl

/-- The media type of a media type is that type itself. -/
theorem mediaType_mediaType (contentType : Option String) :
    mediaType (some (mediaType contentType)) = mediaType contentType := by
  have hbare : (mediaType contentType).toList.takeWhile (· ≠ ';') = (mediaType contentType).toList := by
    refine List.takeWhile_eq_self_iff.mpr fun c hc => decide_eq_true ?_
    rintro rfl
    exact not_mem_mediaType contentType hc
  rw [mediaType_eq, Option.getD_some, hbare, mediaType_eq, String.toList_ofList, trim_lower_trim,
    Text.lower_lower]

namespace Parsers

/-- What can be done with a registry before it is read from. -/
inductive Move where
  | register (contentType : String) (parser : Parser) (replaces : Bool)
  | registerAll (parser : Parser) (contentTypes : List String) (replaces : Bool)
  | freeze

/-- A registry after a move, and the fault if the move fails. -/
def step (r : Parsers) : Move → Parsers × Option DefinitionFault
  | .register contentType parser replaces =>
    match r.add contentType parser replaces with
    | .error fault => (r, some fault)
    | .ok r => (r, none)
  | .registerAll parser contentTypes replaces => r.addAll parser replaces contentTypes
  | .freeze => (r.freeze, none)

/-- A registry after moves, whichever of them fail. -/
def afterMoves (ms : List Move) (r : Parsers) : Parsers := ms.foldl (fun r m => (r.step m).1) r

/-- A registry with a parser put in the place of each of some content types. -/
def filled (r : Parsers) (parser : Parser) (contentTypes : List String) : Parsers :=
  { r with byType :=
      contentTypes.foldl (fun t type => Table.put t (mediaType (some type)) parser) r.byType }

variable {r r' : Parsers} {parser : Parser} {replaces : Bool} {contentType : Option String}
  {type plain : String} {types : List String} {fault : DefinitionFault} {m : Move} {ms : List Move}

theorem step_register (r : Parsers) (type : String) (parser : Parser) (replaces : Bool) :
    r.step (.register type parser replaces) = r.addAll parser replaces [type] := by
  cases hadd : r.add type parser replaces <;> simp only [step, addAll, hadd]

theorem afterMoves_cons (m : Move) (ms : List Move) (r : Parsers) :
    afterMoves (m :: ms) r = afterMoves ms (r.step m).1 := rfl

theorem afterMoves_append (ms ms' : List Move) (r : Parsers) :
    afterMoves (ms ++ ms') r = afterMoves ms' (afterMoves ms r) := List.foldl_append

/-- A registration is refused, or it puts the parser in the place of a media type. -/
theorem add_cases (r : Parsers) (type : String) (parser : Parser) (replaces : Bool) :
    (∃ fault, r.add type parser replaces = .error fault) ∨
      mediaType (some type) ≠ "" ∧
        (replaces = false → Table.get? r.byType (mediaType (some type)) = none) ∧
        r.add type parser replaces = .ok (r.filled parser [type]) := by
  unfold add
  dsimp only
  split_ifs with hfrozen hempty htaken
  · exact .inl ⟨_, rfl⟩
  · exact .inl ⟨_, rfl⟩
  · exact .inl ⟨_, rfl⟩
  · refine .inr ⟨hempty, fun hkeeps => ?_, rfl⟩
    rw [hkeeps, Bool.not_false, Bool.and_true, Table.has_iff] at htaken
    exact (Table.get?_eq_none_iff _ _).mpr htaken

theorem add_of_frozen (h : r.frozen = true) (type : String) (parser : Parser) (replaces : Bool) :
    r.add type parser replaces = .error (.parsersFrozen (mediaType (some type))) :=
  if_pos h

theorem addAll_of_ok (h : r.add type parser replaces = .ok r') :
    r.addAll parser replaces (type :: types) = r'.addAll parser replaces types := by
  rw [addAll, h]

/-- Content types are registered until one is refused; those before it are filled in. -/
theorem addAll_cases (r : Parsers) (parser : Parser) (replaces : Bool) (types : List String) :
    r.addAll parser replaces types = (r.filled parser types, none) ∨
      ∃ before type after fault, types = before ++ type :: after ∧
        (r.filled parser before).add type parser replaces = .error fault ∧
        r.addAll parser replaces types = (r.filled parser before, some fault) := by
  induction types generalizing r with
  | nil => exact .inl rfl
  | cons type types ih =>
    rcases add_cases r type parser replaces with ⟨fault, hadd⟩ | ⟨-, -, hadd⟩
    · exact .inr ⟨[], type, types, fault, rfl, hadd, by rw [addAll, hadd]; rfl⟩
    · rw [addAll_of_ok hadd]
      rcases ih (r.filled parser [type]) with hdone | ⟨before, t, after, fault, rfl, hrefused, hstop⟩
      · exact .inl hdone
      · exact .inr ⟨type :: before, t, after, fault, rfl, hrefused, hstop⟩

theorem get?_filled (r : Parsers) (parser : Parser) (types : List String) (name : String) :
    Table.get? (r.filled parser types).byType name =
      if ∃ type ∈ types, mediaType (some type) = name then some parser
      else Table.get? r.byType name := by
  induction types generalizing r with
  | nil => simp [filled]
  | cons type types ih =>
    have hcons : r.filled parser (type :: types) = (r.filled parser [type]).filled parser types := rfl
    have hone : (r.filled parser [type]).byType =
        Table.put r.byType (mediaType (some type)) parser := rfl
    rw [hcons, ih, hone, Table.get?_put]
    by_cases hrest : ∃ type ∈ types, mediaType (some type) = name
    · rw [if_pos hrest, if_pos (List.exists_mem_cons_of_exists hrest)]
    · simp only [List.exists_mem_cons_iff, hrest, or_false, if_false]

theorem find?_congr (h : mediaType (some type) = mediaType contentType) :
    r.find? (some type) = r.find? contentType := by
  rw [find?, find?, h]

theorem find?_of_get? (h : Table.get? r.byType (mediaType contentType) = some parser) :
    r.find? contentType = some parser := by
  rw [find?, h]

theorem find?_of_plain (hjson : "+json".toList.isSuffixOf plain.toList = false)
    (hxml : "+xml".toList.isSuffixOf plain.toList = false) (h : mediaType contentType = plain) :
    r.find? contentType = Table.get? r.byType plain := by
  rw [find?, h]
  split
  · next hget => rw [hget]
  · next hget => rw [if_neg (ne_true_of_eq_false hjson), if_neg (ne_true_of_eq_false hxml), hget]

/-- What stands under a type without a suffix stays if all that is filled in was found before. -/
theorem get?_filled_of_plain (hfound : ∀ type ∈ types, r.find? (some type) = some parser)
    (hjson : "+json".toList.isSuffixOf plain.toList = false)
    (hxml : "+xml".toList.isSuffixOf plain.toList = false) :
    Table.get? (r.filled parser types).byType plain = Table.get? r.byType plain := by
  rw [get?_filled]
  split_ifs with h
  · obtain ⟨type, hmem, htype⟩ := h
    rw [← find?_of_plain hjson hxml htype, hfound type hmem]
  · rfl

/-- A parser filled in for content types makes no difference exactly if they had this parser before. -/
theorem find?_filled_iff :
    (∀ contentType, (r.filled parser types).find? contentType = r.find? contentType) ↔
      ∀ type ∈ types, r.find? (some type) = some parser := by
  constructor
  · intro hsame type hmem
    rw [← hsame]
    apply find?_of_get?
    rw [get?_filled, if_pos ⟨type, hmem, rfl⟩]
  · intro hfound contentType
    by_cases h : ∃ type ∈ types, mediaType (some type) = mediaType contentType
    · obtain ⟨type, hmem, htype⟩ := h
      rw [← find?_congr htype, ← find?_congr htype, hfound type hmem]
      apply find?_of_get?
      rw [get?_filled, if_pos ⟨type, hmem, rfl⟩]
    · have hjson : Table.get? (r.filled parser types).byType "application/json" = _ :=
        get?_filled_of_plain hfound (by decide) (by decide)
      have hxml : Table.get? (r.filled parser types).byType "application/xml" = _ :=
        get?_filled_of_plain hfound (by decide) (by decide)
      rw [find?, find?, get?_filled, if_neg h, hjson, hxml]

/-- All names in a registry are media types as they are looked up, none twice. -/
structure IsKeyed (r : Parsers) : Prop where
  normal : ∀ type ∈ Table.names r.byType, type ≠ "" ∧ mediaType (some type) = type
  nodup : (Table.names r.byType).Nodup

theorem isKeyed_empty : IsKeyed empty := ⟨nofun, List.nodup_nil⟩

theorem IsKeyed.filled_one (h : IsKeyed r) (hne : mediaType (some type) ≠ "") :
    IsKeyed (r.filled parser [type]) where
  normal name hname := by
    rcases (Table.mem_names_put _ _ parser name).mp hname with rfl | hold
    · exact ⟨hne, mediaType_mediaType _⟩
    · exact h.normal name hold
  nodup := Table.nodup_names_put h.nodup _ _

theorem IsKeyed.addAll (h : IsKeyed r) (parser : Parser) (replaces : Bool) (types : List String) :
    IsKeyed (r.addAll parser replaces types).1 := by
  induction types generalizing r with
  | nil => exact h
  | cons type types ih =>
    rw [Parsers.addAll]
    rcases add_cases r type parser replaces with ⟨fault, hadd⟩ | ⟨hne, -, hadd⟩
    · rw [hadd]
      exact h
    · rw [hadd]
      exact ih (h.filled_one hne)

theorem IsKeyed.step (h : IsKeyed r) (m : Move) : IsKeyed (r.step m).1 := by
  cases m with
  | register type parser replaces =>
    rw [step_register]
    exact h.addAll parser replaces [type]
  | registerAll parser types replaces => exact h.addAll parser replaces types
  | freeze => exact ⟨h.normal, h.nodup⟩

theorem IsKeyed.afterMoves (h : IsKeyed r) (ms : List Move) : IsKeyed (afterMoves ms r) := by
  induction ms generalizing r with
  | nil => exact h
  | cons m ms ih => exact ih (h.step m)

theorem addAll_of_frozen (h : r.frozen = true) (parser : Parser) (replaces : Bool)
    (types : List String) : (r.addAll parser replaces types).1 = r := by
  cases types with
  | nil => rfl
  | cons type types => rw [addAll, add_of_frozen h]

theorem step_of_frozen (h : r.frozen = true) (m : Move) : (r.step m).1 = r := by
  cases m with
  | register type parser replaces =>
    rw [step_register]
    exact addAll_of_frozen h parser replaces [type]
  | registerAll parser types replaces => exact addAll_of_frozen h parser replaces types
  | freeze =>
    obtain ⟨byType, frozen⟩ := r
    exact congrArg (Parsers.mk byType) h.symm

theorem afterMoves_of_frozen (h : r.frozen = true) (ms : List Move) : afterMoves ms r = r := by
  induction ms with
  | nil => rfl
  | cons m ms ih => rw [afterMoves_cons, step_of_frozen h, ih]

theorem frozen_afterMoves (h : .freeze ∈ ms) (r : Parsers) : (afterMoves ms r).frozen = true := by
  obtain ⟨before, after, rfl⟩ := List.append_of_mem h
  have hfrozen : ((afterMoves before r).step .freeze).1.frozen = true := rfl
  rw [afterMoves_append, afterMoves_cons, afterMoves_of_frozen hfrozen, hfrozen]

/-- A registration of several content types that fails has filled in those before the one that is refused,
and nothing else. -/
theorem addAll_of_fault (h : (r.addAll parser replaces types).2 = some fault) :
    ∃ before type after, types = before ++ type :: after ∧
      (r.filled parser before).add type parser replaces = .error fault ∧
      (r.addAll parser replaces types).1 = r.filled parser before := by
  rcases addAll_cases r parser replaces types with
    hdone | ⟨before, type, after, fault', htypes, hrefused, hstop⟩
  · cases h.symm.trans (congrArg Prod.snd hdone)
  · obtain rfl : fault' = fault := Option.some.inj ((congrArg Prod.snd hstop).symm.trans h)
    exact ⟨before, type, after, htypes, hrefused, congrArg Prod.fst hstop⟩

theorem step_of_refused (h : (r.step (.register type parser replaces)).2 ≠ none) :
    (r.step (.register type parser replaces)).1 = r := by
  cases hadd : r.add type parser replaces with
  | error fault => simp only [step, hadd]
  | ok r' =>
    simp only [step, hadd] at h
    exact absurd rfl h

/-- The media types that some parser is for. -/
def knownTypes : List String :=
  ["application/json", "text/json", "application/x-www-form-urlencoded", "multipart/form-data",
    "application/xml", "text/xml"]

theorem mediaTypes_subset (parser : Parser) : parser.mediaTypes ⊆ knownTypes := by
  cases parser <;> simp [Parser.mediaTypes, knownTypes]

theorem plain_of_mem_knownTypes : ∀ type ∈ knownTypes, mediaType (some type) = type ∧
    "+json".toList.isSuffixOf type.toList = false ∧ "+xml".toList.isSuffixOf type.toList = false := by
  decide +kernel

theorem find?_addAll_of_ok (h : r.add type parser replaces = .ok (r.filled parser [type])) :
    (r.addAll parser replaces (type :: types)).1.find? (some type) = some parser := by
  apply find?_of_get?
  rw [addAll_of_ok h]
  have hhere : ∀ ts, Table.get? ((r.filled parser [type]).filled parser ts).byType
      (mediaType (some type)) = some parser := by
    intro ts
    have hcons : (r.filled parser [type]).filled parser ts = r.filled parser (type :: ts) := rfl
    rw [hcons, get?_filled, if_pos ⟨type, List.mem_cons_self, rfl⟩]
  rcases addAll_cases (r.filled parser [type]) parser replaces types with
    hdone | ⟨before, t, after, fault, -, -, hstop⟩
  · rw [hdone]
    exact hhere types
  · rw [hstop]
    exact hhere before

/-- A parser that is refused for one of its types, where it replaces no other, leaves every content type to
its parser exactly if that type is the first. -/
theorem addParser_same_iff (h : (r.addParser parser false).2 = some fault) :
    (∀ contentType, (r.addParser parser false).1.find? contentType = r.find? contentType) ↔
      ∃ type ∈ parser.mediaTypes.head?, r.add type parser false = .error fault := by
  obtain ⟨first, rest, htypes⟩ : ∃ first rest, parser.mediaTypes = first :: rest := by
    cases parser <;> exact ⟨_, _, rfl⟩
  have hfirst : first ∈ parser.mediaTypes := htypes ▸ List.mem_cons_self
  rw [addParser, htypes] at h ⊢
  rcases add_cases r first parser false with ⟨fault', hadd⟩ | ⟨-, hfree, hadd⟩
  · have hall : r.addAll parser false (first :: rest) = (r, some fault') := by rw [addAll, hadd]
    rw [hall] at h ⊢
    exact iff_of_true (fun _ => rfl) ⟨first, rfl, hadd.trans (congrArg _ (Option.some.inj h))⟩
  · -- The first type is free: no parser is found under it before, and this one afterwards.
    refine iff_of_false (fun hsame => ?_) ?_
    · obtain ⟨hname, hjson, hxml⟩ := plain_of_mem_knownTypes first (mediaTypes_subset parser hfirst)
      have hfound := (hsame (some first)).symm.trans (find?_addAll_of_ok hadd)
      rw [find?_of_plain hjson hxml hname, ← hname, hfree rfl] at hfound
      cases hfound
    · rintro ⟨type, htype, hrefused⟩
      obtain rfl := Option.some.inj htype
      cases hadd.symm.trans hrefused

/-- How a registry stands after moves. It holds each media type at most once, as it is looked up. A
registration of one content type that fails changes nothing; one of several has filled in those before the
one that is refused, which is no change exactly if they were found under the parser before. Nothing changes
and nothing is registered behind the end of registration. -/
structure Keeps (ms : List Move) (r : Parsers) : Prop where
  keyed : IsKeyed r
  single : ∀ type parser replaces, (r.step (.register type parser replaces)).2 ≠ none →
    (r.step (.register type parser replaces)).1 = r
  several : ∀ parser types replaces fault,
    (r.step (.registerAll parser types replaces)).2 = some fault →
    ∃ before type after, types = before ++ type :: after ∧
      (r.filled parser before).add type parser replaces = .error fault ∧
      (r.step (.registerAll parser types replaces)).1 = r.filled parser before ∧
      ((∀ contentType, (r.step (.registerAll parser types replaces)).1.find? contentType =
        r.find? contentType) ↔ ∀ type ∈ before, r.find? (some type) = some parser)
  own : ∀ parser fault, (r.addParser parser false).2 = some fault →
    ((∀ contentType, (r.addParser parser false).1.find? contentType = r.find? contentType) ↔
      ∃ type ∈ parser.mediaTypes.head?, r.add type parser false = .error fault)
  final : .freeze ∈ ms → (∀ ms', afterMoves ms' r = r) ∧
    ∀ type parser replaces, (r.step (.register type parser replaces)).2 ≠ none

/-- Whatever is done with a registry, a failing registration of one content type changes nothing, one of
several changes what it got to, and the end of registration is final. -/
theorem registry_keeps (ms : List Move) : Keeps ms (afterMoves ms empty) where
  keyed := isKeyed_empty.afterMoves ms
  single type parser replaces := step_of_refused
  several parser types replaces fault h := by
    obtain ⟨before, type, after, htypes, hrefused, hleaves⟩ := addAll_of_fault h
    have hleaves : ((afterMoves ms empty).step (.registerAll parser types replaces)).1 = _ := hleaves
    refine ⟨before, type, after, htypes, hrefused, hleaves, ?_⟩
    rw [hleaves]
    exact find?_filled_iff
  own parser fault := addParser_same_iff
  final h := by
    have hfrozen := frozen_afterMoves h empty
    refine ⟨afterMoves_of_frozen hfrozen, fun type parser replaces => ?_⟩
    rw [step, add_of_frozen hfrozen]
    exact Option.some_ne_none _

/-- Markup under one of its types is registered before all of them are. -/
def markupMoves : List Move := [.register "Text/XML; charset=utf-8" .xml false]

/-- The second type of a parser is taken, and its first is found from then on. -/
theorem registry_keeps_markup :
    ((afterMoves markupMoves empty).addParser .xml false).2 = some (.parserTaken "text/xml") ∧
      ¬∀ contentType, ((afterMoves markupMoves empty).addParser .xml false).1.find? contentType =
        (afterMoves markupMoves empty).find? contentType := by
  have hfault : ((afterMoves markupMoves empty).addParser .xml false).2 =
      some (.parserTaken "text/xml") := by decide +kernel
  refine ⟨hfault, fun hsame => ?_⟩
  obtain ⟨type, hfirst, hrefused⟩ := ((registry_keeps markupMoves).own _ _ hfault).mp hsame
  obtain rfl := Option.some.inj hfirst
  have htaken : ((afterMoves markupMoves empty).add "application/xml" .xml false).isOk = true := by
    decide +kernel
  rw [hrefused] at htaken
  cases htaken

end Parsers

end Intake
