import Intake.Proofs.Coercion.Containers
import Intake.Proofs.Run.Looks
import Intake.Proofs.Schema.Bindings
import Intake.Proofs.Schema.Inactive
import Intake.Proofs.Schema.Resolution

namespace Intake

open Context

/-- The same fault stopped both runs, or they found the same and came to the same payload. What failures
carry of what was sent is not compared. -/
def Verdict.Alike (r r' : Verdict) : Prop :=
  (∃ f, r.result = .error f ∧ r'.result = .error f) ∨
    ∃ o o', r.result = .ok o ∧ r'.result = .ok o' ∧ o'.remarks = o.remarks ∧ o'.value? = o.value?

namespace Outline

variable {o : Outline} {f : Field} {nf : Table Bool} {nested : Step} {c : Context}
  {sent sent' data data' : Table Value} {k t : String} {v w : Value}

/-- Neither the triggers of groups nor what compares the values that were sent looks at a field. -/
structure Unread (o : Outline) (k : String) : Prop where
  fields : ∀ f ∈ o.everyField, .sent k ∉ Validator.looksAll f.validators
  rules : .sent k ∉ Validator.looksAll o.rules
  triggers : ∀ g ∈ o.groups, g.trigger ≠ k

/-- Nothing in a schema looks at a field as it was sent, not even the validators of the fields before it,
which come to it before it has been brought to its type. -/
structure ReadsTyped (o : Outline) (k : String) : Prop extends o.Unread k where
  early : ∀ f ∈ fieldsBefore k o.fields, .value k ∉ Validator.looksAll f.validators

/-- Some field of a schema has the name, and each that does brings both values to its type alike. -/
structure TakesAlike (o : Outline) (nf : Table Bool) (k : String) (v w : Value) : Prop where
  declared : ∃ f ∈ o.fields, f.name = k
  alike : ∀ f ∈ o.fields, f.name = k → o.TypesAlike (Table.get? nf f.name) f v w

section

variable (hr : o.ReadsTyped k) (ht : o.TakesAlike nf k v w)
include hr ht

theorem allReady_fields (c : Context) :
    o.AllReady (fun f => Table.get? nf f.name) k v w o.fields c :=
  ⟨fun f hf => hr.fields f (List.mem_append_left _ hf), ht.alike, .inr ⟨ht.declared, hr.early⟩⟩

theorem ignores_firstPart : (o.firstPart nf).Ignores k v w fun _ => True := by
  have hpresence : (Step.all (o.fields.map checkPresence)).Ignores k v w fun _ => True :=
    Step.ignores_all_map (fun _ _ => True) growing_checkPresence
      (fun f _ => ignores_checkPresence f _) (fun _ _ _ _ _ _ _ _ => trivial) o.fields
  have hrules : Step.Ignores k v w (·.IsTyped k) (Validator.runAll o.rules) :=
    fun c data hs hc => Validator.runAll_swapped o.rules hs ⟨hr.rules, fun _ => hc⟩
  have hgrow := Step.growing_all_map (fun f => growing_checkField o (Table.get? nf f.name) f) o.fields
  have hfields := ignores_checkFields (k := k) (v := v) (w := w) o
    (fun f => Table.get? nf f.name) o.fields
  -- Checks of fields need to know where the field stands among them, and rules that it has its type.
  apply hpresence.andThen (Step.growing_all_map growing_checkPresence o.fields) _
    (hfields.andThen hgrow (fun c d data hs hc hrun => isTyped_of_checkFields hs hc hrun) hrules)
  exact fun c d data hs _ _ => allReady_fields hr ht d

theorem isTyped_of_firstPart (hs : Table.Swaps k v w data data')
    (h : o.firstPart nf (Context.start data) = (c, none)) : c.IsTyped k := by
  obtain ⟨d, hpresence, hrest⟩ := Step.andThen_eq_none_iff.mp h
  obtain ⟨e, hfields, hrules⟩ := Step.andThen_eq_none_iff.mp hrest
  have hdata : d.data = data :=
    (Step.grows_of_eq (Step.growing_all_map growing_checkPresence o.fields) hpresence).data
  have he : e.IsTyped k := isTyped_of_checkFields (hdata ▸ hs) (allReady_fields hr ht d) hfields
  have hreports := Validator.runAll_reports o.rules e
  rw [hrules] at hreports
  exact he.of_reports hreports

/-- A run up to undeclared keys comes to the same with either value. -/
theorem declaredPart_swapped (ho : o.WellNamed) (hn : Context.LooksUp [] nested)
    (hs : Table.Swaps k v w data data') :
    o.declaredPart nf nested data' =
      (o.declaredPart nf nested data).map fun (active, c) => (active, c.given data') := by
  apply declaredPart_of_parts (ignores_firstPart hr ht (Context.start data) data' hs trivial)
  intro c hc
  have hdata : c.data = data := data_of_firstPart hc
  have htyped : c.IsTyped k := isTyped_of_firstPart hr ht hs hc
  rw [← hdata] at hs
  refine ⟨activeGroups_given fun n hn => ?_, ?_⟩
  · obtain ⟨g, hg, rfl⟩ := List.mem_map.mp hn
    exact hs.others _ (hr.triggers g hg)
  have hgroups : ∀ f ∈ groupFields (o.activeGroups c), ¬f.name = k ∧
      .sent k ∉ Validator.looksAll f.validators := by
    intro f hf
    obtain ⟨g, hg, hfg⟩ := mem_of_mem_groupFields hf
    have hg := mem_activeGroups hg
    refine ⟨?_, hr.fields f (List.mem_append_right _ (List.mem_flatMap_of_mem hg hfg))⟩
    rintro rfl
    obtain ⟨f', hf', hname⟩ := ht.declared
    exact ho.apart g hg f hfg (hname ▸ List.mem_map_of_mem hf')
  have hfields := ignores_checkGroupFields (k := k) (v := v) (w := w) o (fun f hf => (hgroups f hf).1)
    fun f hf => (hgroups f hf).2
  have hnested : nested.Ignores k v w fun _ => True := fun c data _ _ => hn c data nofun
  exact hfields.andThen (Step.growing_all_map (growing_checkGroupField o) _)
    (fun _ _ _ _ _ _ => trivial) hnested c data' hs htyped

end

/-- One value in the place of another under a name, and the same entries in the same order besides. -/
structure Replaces (k : String) (v w : Value) (t u : Table Value) : Prop extends
    Table.Swaps k v w t u where
  apart : apartFrom [k] t = apartFrom [k] u

theorem replaces_put (hv : v.isBlank = false) (hw : w.isBlank = false) (data : Table Value) :
    Replaces k v w (Table.put data k v) (Table.put data k w) := by
  refine ⟨⟨fun n hn => ?_, Table.get?_put_self _ _ _, Table.get?_put_self _ _ _, hv, hw⟩, ?_⟩
  · rw [Table.get?_put, Table.get?_put, if_neg hn.symm, if_neg hn.symm]
  · rw [← Table.put_put data k v w]
    exact (Table.filter_put (p := fun n => !([k].contains n)) (by simp) _ _).symm

theorem Replaces.has (h : Replaces k v w data data') (n : String) :
    Table.has data' n = Table.has data n :=
  hasField_swapped (c := Context.start data) h.toSwaps n

/-- A move between other names leaves both values where they are. -/
theorem Replaces.move {m : String × String} (h : Replaces k v w data data') (hn : m.1 ≠ k)
    (ha : m.2 ≠ k) (x : Value) :
    Replaces k v w (Table.put (Table.remove data m.2) m.1 x)
      (Table.put (Table.remove data' m.2) m.1 x) := by
  have hname : m.1 ∉ [k] := by simpa using hn
  have halias : m.2 ∉ [k] := by simpa using ha
  have hkept (t : Table Value) :
      Table.get? (Table.put (Table.remove t m.2) m.1 x) k = Table.get? t k := by
    rw [Table.get?_put, if_neg hn, Table.get?_remove_of_ne t ha]
  have hapart : apartFrom [k] (Table.put (Table.remove data m.2) m.1 x) =
      apartFrom [k] (Table.put (Table.remove data' m.2) m.1 x) := by
    rw [apartFrom_put hname, apartFrom_put hname, apartFrom_remove halias, apartFrom_remove halias,
      h.apart]
  refine ⟨⟨fun n hne => ?_, ?_, ?_, h.filled, h.filled'⟩, hapart⟩
  · exact get?_of_apartFrom hapart (by simpa using hne)
  · rw [hkept, h.before]
  · rw [hkept, h.after]

/-- Aliases are resolved alike with either value, unless its name is taken as an alias itself. -/
theorem resolveAliases_replaced (hfree : ∀ g ∈ o.allFields, ¬g.SentAs k sent)
    (h : Replaces k v w sent sent') :
    (∃ f, o.resolveAliases sent = .error f ∧ o.resolveAliases sent' = .error f) ∨
      ∃ data data', o.resolveAliases sent = .ok data ∧ o.resolveAliases sent' = .ok data' ∧
        Replaces k v w data data' := by
  have hmoves : o.moves sent' = o.moves sent := by
    apply moves_of_sentAs?
    intro f _
    simp only [sentAs?, h.has]
  -- No value is moved to the name, since one was sent under it, and none from it.
  have hends : ∀ m ∈ o.moves sent, m.1 ≠ k ∧ m.2 ≠ k := by
    intro m hm
    obtain ⟨g, hg, hsent, hname⟩ := mem_moves.mp hm
    have hsent := sentAs?_iff.mp hsent
    refine ⟨?_, fun ha => hfree g hg (ha ▸ hsent)⟩
    rintro rfl
    exact hsent.absent (hname ▸ Table.mem_names_of_get? h.before)
  rw [resolveAliases_eq, resolveAliases_eq, hmoves]
  apply foldlM_move_related (R := Replaces k v w) _ _ h
  · exact fun m hm d d' h => h.others m.2 (hends m hm).2
  · exact fun m hm d d' x h => h.move (hends m hm).1 (hends m hm).2 x

end Outline

namespace Schema

open Outline

variable {s : Schema} {f : Field} {b : Binding} {x : Value} {t : String} {data : Table Value}

/-- The containers that a field stands for, by its type, for which no conversion is registered, or by its
nested schema. -/
inductive Takes (s : Schema) (f : Field) : Value → Prop where
  | list {name : String} {splits : Bool} {element : Target}
      (type : Target.ofName f.type = .list name splits element)
      (free : s.outline.conversions.find? name = none) (xs : List Value) : Takes s f (.list xs)
  | dict {name : String} {element : Target} (type : Target.ofName f.type = .dict name element)
      (free : s.outline.conversions.find? name = none) (es : Table Value) : Takes s f (.map es)
  | nested {b : Binding} (bound : b ∈ s.nested) (name : b.name = f.name) (one : b.many = false)
      (es : Table Value) : Takes s f (.map es)
  | nestedList {b : Binding} (bound : b ∈ s.nested) (name : b.name = f.name) (many : b.many = true)
      (xs : List Value) : Takes s f (.list xs)

theorem many_unique {b' : Binding} (hs : s.WellNamed) (hb : b ∈ s.nested) (hb' : b' ∈ s.nested)
    (hname : b.name = b'.name) : b.many = b'.many := by
  have hmany := get?_nestedFields hs.bindings hb
  rw [hname, get?_nestedFields hs.bindings hb'] at hmany
  exact (Option.some.inj hmany).symm

/-- What a field with a nested schema takes has the shape for that schema. -/
theorem Takes.shaped (h : s.Takes f x) (hs : s.Built) (hf : f ∈ s.outline.fields) (hb : b ∈ s.nested)
    (hname : b.name = f.name) : Shaped b.many x x := by
  have htype := (Binding.type b.many).ofName_name
  rw [← hs.housed.typed b hb f hf hname.symm] at htype
  cases h with
  | list type _ xs =>
    rw [type] at htype
    cases hmany : b.many with
    | true => exact .list xs
    | false =>
      rw [hmany] at htype
      cases htype
  | dict type _ es =>
    rw [type] at htype
    cases hmany : b.many with
    | true =>
      rw [hmany] at htype
      cases htype
    | false => exact .map es
  | nested bound name one es =>
    rw [many_unique hs.wellNamed hb bound (hname.trans name.symm), one]
    exact .map es
  | nestedList bound name many xs =>
    rw [many_unique hs.wellNamed hb bound (hname.trans name.symm), many]
    exact .list xs

theorem typesAlike_of_shaped {o : Outline} {many : Bool} (h : Shaped many x x)
    (ht : Json.read t = .ok x) : o.TypesAlike (some many) f (.text t) x := by
  have hplain : ∀ s, x ≠ .text s := by cases h <;> simp
  have hshape : shape many x = .accepted x [] := shape_eq_accepted_iff.mpr ⟨h, rfl⟩
  have htext : o.typed (some many) f (.text t) = shape many x := by
    rw [typed, nestedContainer_text, ht]
  have hvalue : o.typed (some many) f x = shape many x := nestedContainer_of_not_text hplain many
  refine ⟨hvalue.trans htext.symm, rfl, ?_⟩
  rw [htext, hshape]
  exact Coerced.noConfusion

theorem typesAlike_of_run {o : Outline} {v w : Value}
    (hrun : Coercion.run o.conversions.functions (Target.ofName f.type) w =
      Coercion.run o.conversions.functions (Target.ofName f.type) v)
    (hfailures : Coercion.failures o.conversions.functions (Target.ofName f.type) w =
      Coercion.failures o.conversions.functions (Target.ofName f.type) v)
    (htaken : Coercion.run o.conversions.functions (Target.ofName f.type) v ≠ .refused) :
    o.TypesAlike none f v w :=
  ⟨hrun, congrArg (List.map _) hfailures, htaken⟩

/-- A field brings a container to its type as it does the text of that container in JSON. -/
theorem Takes.typesAlike (h : s.Takes f x) (hs : s.Built) (hf : f ∈ s.outline.fields)
    (ht : Json.read t = .ok x) :
    s.outline.TypesAlike (Table.get? (nestedFields s.nested) f.name) f (.text t) x := by
  by_cases hb : f.name ∈ s.nested.map Binding.name
  · obtain ⟨b, hb, hname⟩ := List.mem_map.mp hb
    rw [← hname, get?_nestedFields hs.wellNamed.bindings hb]
    exact typesAlike_of_shaped (h.shaped hs hf hb hname) ht
  rw [get?_nestedFields_of_not_mem hb]
  cases h with
  | list type free xs =>
    apply typesAlike_of_run
    · rw [type, Coercion.run_list_of_spread free rfl (Coercion.spread_of_read ht _)]
      exact Coercion.run_list_of_spread free rfl rfl
    · rw [type, Coercion.failures_list_of_spread free rfl (Coercion.spread_of_read ht _)]
      exact Coercion.failures_list_of_spread free rfl rfl
    · rw [type, Coercion.run_list_of_spread free rfl (Coercion.spread_of_read ht _)]
      exact Coercion.gatherList_ne_refused _
  | dict type free es =>
    apply typesAlike_of_run
    · rw [type, Coercion.run_dict_of_spread free rfl (Coercion.spreadEntries_of_read ht)]
      exact Coercion.run_dict_of_spread free rfl rfl
    · rw [type, Coercion.failures_dict_of_spread free rfl (Coercion.spreadEntries_of_read ht)]
      exact Coercion.failures_dict_of_spread free rfl rfl
    · rw [type, Coercion.run_dict_of_spread free rfl (Coercion.spreadEntries_of_read ht)]
      exact Coercion.gatherMap_ne_refused _
  | nested bound name _ _ => exact absurd (List.mem_map.mpr ⟨_, bound, name⟩) hb
  | nestedList bound name _ _ => exact absurd (List.mem_map.mpr ⟨_, bound, name⟩) hb

theorem isBlank_of_read (h : Json.read t = .ok x) : (Value.text t).isBlank = false := by
  have hne : t ≠ "" := by
    rintro rfl
    rw [Json.read_eq_ok_iff] at h
    cases h
  exact decide_eq_false hne

theorem Takes.isBlank (h : s.Takes f x) : x.isBlank = false := by
  cases h <;> rfl

theorem not_sentAs {o : Outline} {k : String} (h : ∀ g ∈ o.allFields, g.alias? = none) :
    ∀ g ∈ o.allFields, ¬g.SentAs k data := by
  intro g hg hsent
  cases (h g hg).symm.trans hsent.aliased

/-- The buyers of an order, as text. -/
def buyersText : String := " [\x7b\"name\": \"Ada\"\x7d, \x7b\x7d]\n"

def buyers : Value := .list [.map [("name", .text "Ada")], .map []]

/-- Tags, and a label that may be sent as tags. -/
def shelfBlueprint : Blueprint :=
  .mk (.plain "Shelf")
    [.field (.plain "tags" "list[str]"),
      .field { FieldDecl.plain "label" "str" with otherName := some "tags" }]

def shelf : Schema :=
  .mk (.plain "Shelf"
    [.plain "tags" "list[str]", { Field.plain "label" "str" with otherName := some "tags" }]) []

theorem built_shelf : shelf.Built :=
  Blueprint.built_of_build (show shelfBlueprint.build.1 = .ok shelf by cbv)

/-- The tags go to the label, where a text is taken and a list is not. -/
theorem not_alike_shelf :
    ¬(shelf.validate (.map (Table.put [] "tags" (.text "[\"a\"]")))).Alike
      (shelf.validate (.map (Table.put [] "tags" (.list [.text "a"])))) := by
  have htext : (shelf.validate (.map (Table.put [] "tags" (.text "[\"a\"]")))).result =
      .ok (.success [("label", .text "[\"a\"]")] []) := by cbv
  have hlist : (shelf.validate (.map (Table.put [] "tags" (.list [.text "a"])))).result =
      .ok (.failure (.ofIssue (.notCoercible "label" (.list [.text "a"]) "str")
        (.map [("label", .list [.text "a"])]))) := by cbv
  unfold Verdict.Alike
  rw [htext, hlist]
  rintro (⟨e, he, -⟩ | ⟨o, o', ho, ho', -, hv⟩)
  · cases he
  · obtain rfl := Except.ok.inj ho
    obtain rfl := Except.ok.inj ho'
    cases hv

/-- A note whose validator bounds the tags, which are declared after it. -/
def ledgerBlueprint : Blueprint :=
  .mk (.plain "Ledger")
    [.field { FieldDecl.plain "note" "str" with validators := [.length "tags" .null (.int 2)] },
      .field (.plain "tags" "list[str]")]

def ledger : Schema :=
  .mk (.plain "Ledger"
    [{ Field.plain "note" "str" with validators := [.constraint "tags" (.length none (some (.int 2)))] },
      .plain "tags" "list[str]"]) []

theorem built_ledger : ledger.Built :=
  Blueprint.built_of_build (show ledgerBlueprint.build.1 = .ok ledger by cbv)

def noted : Table Value := [("note", .text "x")]

/-- The tags are one text when the note is checked, and that text is too long. -/
theorem not_alike_ledger :
    ¬(ledger.validate (.map (Table.put noted "tags" (.text "[\"a\"]")))).Alike
      (ledger.validate (.map (Table.put noted "tags" (.list [.text "a"])))) := by
  have htext : (ledger.validate (.map (Table.put noted "tags" (.text "[\"a\"]")))).result =
      .ok (.failure (.ofIssue (.length "tags" .null (.int 2) (.int 5))
        (.map [("note", .text "x"), ("tags", .text "[\"a\"]")]))) := by cbv
  have hlist : (ledger.validate (.map (Table.put noted "tags" (.list [.text "a"])))).result =
      .ok (.success [("note", .text "x"), ("tags", .list [.text "a"])] []) := by cbv
  unfold Verdict.Alike
  rw [htext, hlist]
  rintro (⟨e, he, -⟩ | ⟨o, o', ho, ho', -, hv⟩)
  · cases he
  · obtain rfl := Except.ok.inj ho
    obtain rfl := Except.ok.inj ho'
    cases hv

end Schema

end Intake
