import Intake.Proofs.Coercion.Types
import Intake.Proofs.Schema.Acceptance

namespace Intake

/-- A field of one name and no default, of a type without moments, of whose value only keywords ask
something. -/
structure Field.IsBare (f : Field) : Prop extends f.IsPlain where
  undefaulted : f.default = none
  timeless : (Target.ofName f.type).isTimeless = true

/-- Bare fields and nothing else: no groups, no rules and no conversions, and empty lists are kept. -/
structure Outline.IsBare (o : Outline) : Prop where
  fields : ∀ f ∈ o.fields, f.IsBare
  groups : o.groups = []
  rules : o.rules = []
  conversions : o.conversions.functions = []
  lists : o.stripEmptyLists = false

theorem Outline.IsBare.fits {o : Outline} {f : Field} {v w : Value} {ps : List Position} (ho : o.IsBare)
    (hf : f ∈ o.fields) (h : o.conversions.coerce f.type v = .accepted w ps) :
    (Target.ofName f.type).Fits w := by
  rw [Conversions.coerce, ho.conversions] at h
  exact Coercion.fits_of_run (ho.fields f hf).timeless h

/-- What is in a bare field's type is brought to it unchanged. -/
theorem Outline.IsBare.coerce_of_fits {o : Outline} {type : String} {w : Value} (ho : o.IsBare)
    (h : (Target.ofName type).Fits w) : o.conversions.coerce type w = .accepted w [] := by
  rw [Conversions.coerce, ho.conversions]
  exact Coercion.run_of_fits h

theorem Outline.IsBare.allFields {o : Outline} (ho : o.IsBare) : o.allFields = o.fields := by
  rw [Outline.allFields, ho.groups, List.flatMap_nil, List.foldl_nil]

namespace Schema

/-- A schema with nothing but bare fields, which offers no choices where a nested schema looks at the
value, and so on inside. -/
inductive IsBare : Schema → Prop where
  | mk {s : Schema} (outline : s.outline.IsBare)
      (choices : ∀ f ∈ s.outline.fields, f.name ∈ s.nested.map Binding.name →
        ∀ allowed, Validator.constraint f.name (.enum allowed) ∉ f.validators)
      (nested : ∀ b ∈ s.nested, IsBare b.schema) : IsBare s

variable {s : Schema} {f : Field} {b : Binding} {many : Bool} {v u w : Value}
  {data es out : Table Value}

theorem IsBare.outline (h : s.IsBare) : s.outline.IsBare := by
  obtain ⟨h, -, -⟩ := h
  exact h

theorem IsBare.choices (h : s.IsBare) : ∀ f ∈ s.outline.fields, f.name ∈ s.nested.map Binding.name →
    ∀ allowed, Validator.constraint f.name (.enum allowed) ∉ f.validators := by
  obtain ⟨-, h, -⟩ := h
  exact h

theorem IsBare.nested (h : s.IsBare) : ∀ b ∈ s.nested, b.schema.IsBare := by
  obtain ⟨-, -, h⟩ := h
  exact h

theorem IsBare.isPlain (h : s.IsBare) : s.IsPlain := by
  induction h with
  | mk outline _ _ ih =>
    refine .mk outline.rules (fun f hf => (outline.fields f hf).toIsPlain) ?_ ?_ ih
    · rw [outline.groups]
      exact fun g hg => absurd hg List.not_mem_nil
    · rw [outline.groups]
      exact .nil

/-- Payloads of a schema are again payloads of the schema, and stay what they are. -/
def Settles (s : Schema) : Prop :=
  ∀ sent out, (s.validate (.map sent)).Yields out → (s.validate (.map out)).Yields out

theorem Settles.yields (hs : s.Settles) (h : (s.validate v).Yields out) :
    (s.validate (.map out)).Yields out := by
  by_cases hv : ∃ sent, v = .map sent
  · obtain ⟨sent, rfl⟩ := hv
    exact hs sent out h
  · exact absurd h (not_yields_of_not_map (not_exists.mp hv))

theorem Cleans.contains (h : s.Cleans many u w) : Outline.Contains many w w := by
  cases h with
  | one => exact .plain (.map _)
  | many => exact .plain (.list _)

theorem Settles.yields_all {vs : List Value} {outs : List (Table Value)} (hs : s.Settles)
    (h : List.Forall₂ (fun v out => (s.validate v).Yields out) vs outs) :
    List.Forall₂ (fun v out => (s.validate v).Yields out) (outs.map .map) outs := by
  induction h with
  | nil => exact .nil
  | cons hv _ ih => exact .cons (hs.yields hv) ih

/-- What a nested schema makes of a container it makes of that again. -/
theorem Cleans.again (hs : s.Settles) (h : s.Cleans many u w) : s.Cleans many w w := by
  cases h with
  | one h => exact .one (hs.yields h)
  | many h => exact .many (hs.yields_all h)

/-- What a nested schema makes of a container is a container of the same size. -/
theorem Cleans.admits {k : Constraint} (h : s.Cleans many u w) (hk : ∀ allowed, k ≠ .enum allowed)
    (hu : k.Admits u) : k.Admits w := by
  cases k with
  | length min max =>
    intro n hn
    cases h with
    | one => cases hn
    | @many vs outs h =>
      have hlen : (outs.map Value.map).length = vs.length := by rw [List.length_map, h.length_eq]
      rw [Constraint.size?, hlen] at hn
      exact hu n hn
  | range min max => cases h <;> exact ⟨nofun, nofun⟩
  | format name source message check => cases h <;> exact nofun
  | enum allowed => exact absurd rfl (hk allowed)
  | pattern regex message p =>
    cases h with
    | one => exact fun _ hmap => absurd rfl (hmap _)
    | many => exact fun _ _ hlist => absurd rfl (hlist _)
  | upload rules => exact absurd hu id

theorem Becomes.again (hp : s.IsBare) (hn : ∀ b ∈ s.nested, b.schema.Settles)
    (hf : f ∈ s.outline.fields) (h : s.Becomes f v w) : s.Becomes f w w := by
  cases h with
  | null => exact .null
  | typed _ hb h =>
    have hfits := hp.outline.fits hf h
    exact .typed hfits.ne_null hb (hp.outline.coerce_of_fits hfits)
  | nested _ hb hname _ hw =>
    exact .nested hw.contains.ne_null hb hname hw.contains (hw.again (hn _ hb))

/-- What a value became is admitted if what its field brought it to is. -/
theorem Becomes.brings (hs : s.WellNamed) (hp : s.IsBare) (hf : f ∈ s.outline.fields)
    (h : s.Becomes f v w) (hne : w ≠ .null) (hu : s.Brings f v u) (hadmits : f.Admits u) :
    s.Brings f w w ∧ f.Admits w := by
  cases h with
  | null => exact absurd rfl hne
  | typed _ hb h =>
    cases hu with
    | typed _ hu =>
      obtain ⟨rfl, -⟩ := Coerced.accepted.inj (h.symm.trans hu)
      exact ⟨.typed hb (hp.outline.coerce_of_fits (hp.outline.fits hf h)), hadmits⟩
    | container hmem hname => exact absurd (hname ▸ List.mem_map_of_mem hmem) hb
  | @nested _ _ _ b _ hb hname h hw =>
    have hmem : f.name ∈ s.nested.map Binding.name := hname ▸ List.mem_map_of_mem hb
    cases hu with
    | typed hb' => exact absurd hmem hb'
    | @container b' hb' hname' h' =>
      obtain rfl : b = b' := List.inj_on_of_nodup_map hs.bindings hb hb' (hname.trans hname'.symm)
      obtain rfl := h.unique h'
      refine ⟨.container hb hname hw.contains, fun k hk => hw.admits ?_ (hadmits k hk)⟩
      rintro allowed rfl
      exact hp.choices f hf hmem allowed hk

/-- What counts as something becomes something. -/
theorem Becomes.not_isBlank (hp : s.IsBare) (hf : f ∈ s.outline.fields) (h : s.Becomes f v w)
    (hv : v.isBlank = false) : w.isBlank = false := by
  cases h with
  | null => cases hv
  | typed _ _ h =>
    rw [Conversions.coerce, hp.outline.conversions] at h
    exact Coercion.not_isBlank_of_run (hp.outline.fields f hf).timeless h hv
  | nested _ _ _ _ hw => exact hw.contains.not_isBlank

theorem IsBare.groupsFor (hp : s.IsBare) (data : Table Value) : s.groupsFor data = [] := by
  rw [Schema.groupsFor, Outline.activeGroups, hp.outline.groups, List.filter_nil]

theorem IsBare.fieldsFor (hp : s.IsBare) (data : Table Value) :
    s.fieldsFor data = s.outline.fields := by
  rw [Schema.fieldsFor, hp.groupsFor, List.flatMap_nil, Outline.firstNamed, List.append_nil]

/-- The entries that are not stripped. -/
def kept (s : Schema) (es : Table Value) : Table Value := es.filter fun e => s.keepsValue e.2

/-- What is left of the entries of declared fields, then of those that are passed on. -/
def payload (s : Schema) (es sent : Table Value) : Table Value :=
  s.kept es ++ s.kept (s.passedOn sent)

/-- The payload of a bare schema: what became of the values of its fields, then undeclared keys. -/
theorem IsBare.entries_of_yields {sent : Table Value} (hs : s.WellNamed) (hp : s.IsBare)
    (h : (s.validate (.map sent)).Yields out) :
    ∃ es, s.Fills sent s.outline.fields es ∧ out = s.payload es sent := by
  obtain ⟨data, es, hdata, hfill, hout⟩ := Schema.entries_of_yields hs h
  have hsent : s.outline.resolveAliases sent = .ok sent := by
    apply Outline.resolveAliases_of_no_alias
    intro f hf
    rw [hp.outline.allFields] at hf
    exact (hp.outline.fields f hf).unaliased
  obtain rfl : sent = data := Except.ok.inj (hsent.symm.trans hdata)
  rw [hp.fieldsFor] at hfill
  rw [List.filter_append] at hout
  exact ⟨es, hfill, hout⟩

theorem kept_cons (name : String) (w : Value) (es : Table Value) :
    s.kept ((name, w) :: es) = if s.keepsValue w then (name, w) :: s.kept es else s.kept es :=
  List.filter_cons

theorem kept_kept (s : Schema) (es : Table Value) : s.kept (s.kept es) = s.kept es := by
  rw [kept, kept, List.filter_filter]
  simp only [Bool.and_self]

theorem declared_of_mem_kept {sent : Table Value} {k : String} (h : s.Fills sent s.outline.fields es)
    (hk : k ∈ Table.names (s.kept es)) : k ∈ s.outline.allNames := by
  have hmem : k ∈ Table.names es := (List.filter_sublist.map _).subset hk
  obtain ⟨f, hf, rfl⟩ := List.mem_map.mp (h.names_sublist.subset hmem)
  exact (Outline.mem_allNames _ _).mpr (.inl ⟨f, hf, rfl⟩)

/-- The keys that are passed on are not declared, and each has its first value. -/
theorem mem_passedOn {e : String × Value} (h : e ∈ s.passedOn data) :
    e.1 ∉ s.outline.allNames ∧ e.2 = (Table.get? data e.1).getD .null := by
  unfold passedOn at h
  split_ifs at h
  · obtain ⟨k, hk, rfl⟩ := List.mem_map.mp h
    refine ⟨fun hmem => ?_, rfl⟩
    have hnot := List.of_mem_filter hk
    rw [List.contains_iff_mem.mpr hmem] at hnot
    cases hnot
  · cases h

theorem undeclared_of_mem_kept {k : String} (hk : k ∈ Table.names (s.kept (s.passedOn data))) :
    k ∉ s.outline.allNames := by
  obtain ⟨e, he, rfl⟩ := List.mem_map.mp hk
  exact (mem_passedOn (List.mem_of_mem_filter he)).1

/-- The undeclared keys of a payload are those that were passed on. -/
theorem unknownKeys_payload {sent : Table Value} (h : s.Fills sent s.outline.fields es) :
    s.outline.unknownKeys (s.payload es sent) =
      Table.names (s.kept (s.passedOn sent)) := by
  have hdeclared : (Table.names (s.kept es)).filter (fun k => !s.outline.allNames.contains k) = [] := by
    rw [List.filter_eq_nil_iff]
    intro k hk
    simpa using declared_of_mem_kept h hk
  have hundeclared : (Table.names (s.kept (s.passedOn sent))).filter
      (fun k => !s.outline.allNames.contains k) = Table.names (s.kept (s.passedOn sent)) := by
    rw [List.filter_eq_self]
    intro k hk
    simpa using undeclared_of_mem_kept hk
  rw [payload, Outline.unknownKeys, Table.names_append, List.filter_append, hdeclared, hundeclared,
    List.nil_append]

theorem passedOn_payload {sent : Table Value} (h : s.Fills sent s.outline.fields es) :
    s.passedOn (s.payload es sent) = s.kept (s.passedOn sent) := by
  by_cases hkeeps : s.outline.unknown.keeps = true
  · rw [passedOn, if_pos hkeeps, unknownKeys_payload h, Table.names, List.map_map]
    refine (List.map_congr_left fun e he => ?_).trans (List.map_id _)
    have hkey : e.1 ∈ Table.names (s.kept (s.passedOn sent)) := List.mem_map_of_mem he
    have hnone : Table.get? (s.kept es) e.1 = none :=
      (Table.get?_eq_none_iff _ _).mpr fun hmem =>
        undeclared_of_mem_kept hkey (declared_of_mem_kept h hmem)
    -- All entries of one key have the value that was found first under it.
    have hvalue : Table.get? (s.kept (s.passedOn sent)) e.1 = some e.2 := by
      cases hget : Table.get? (s.kept (s.passedOn sent)) e.1 with
      | none => exact absurd hkey ((Table.get?_eq_none_iff _ _).mp hget)
      | some x =>
        have hx := (mem_passedOn (List.mem_of_mem_filter (Table.mem_of_get? hget))).2
        exact congrArg some (hx.trans (mem_passedOn (List.mem_of_mem_filter he)).2.symm)
    rw [Function.comp_apply, payload, Table.get?_append, hnone, hvalue]
    rfl
  · rw [passedOn, if_neg hkeeps, passedOn, if_neg hkeeps]
    rfl

/-- Under the name of a field a payload has what became of the value that was sent, unless it is
stripped. -/
theorem get?_payload {sent : Table Value} (hs : s.WellNamed) (h : s.Fills sent s.outline.fields es)
    (hf : f ∈ s.outline.fields) :
    Table.get? (s.payload es sent) f.name =
      (Table.get? es f.name).filter s.keepsValue := by
  have hnone : Table.get? (s.kept (s.passedOn sent)) f.name = none :=
    (Table.get?_eq_none_iff _ _).mpr fun hmem =>
      undeclared_of_mem_kept hmem ((Outline.mem_allNames _ _).mpr (.inl ⟨f, hf, rfl⟩))
  have hnodup : (Table.names es).Nodup := hs.outline.fields.sublist h.names_sublist
  rw [payload, Table.get?_append, hnone, Option.or_none, kept, Table.get?_filter hnodup]

/-- The entries of a payload fill it again. -/
theorem Fills.again {fs : List Field} (hn : (fs.map (·.name)).Nodup)
    (hdefault : ∀ f ∈ fs, f.default = none)
    (hagain : ∀ f ∈ fs, ∀ v w, s.Becomes f v w → s.Becomes f w w)
    (hout : ∀ f ∈ fs, Table.get? out f.name = (Table.get? es f.name).filter s.keepsValue)
    (h : s.Fills data fs es) : s.Fills out fs (s.kept es) := by
  induction h with
  | nil => exact .nil
  | @sent f v w fs es _ hw h ih =>
    rw [List.map_cons, List.nodup_cons] at hn
    have hrest : s.Fills out fs (s.kept es) := by
      refine ih hn.2 (fun g hg => hdefault g (List.mem_cons_of_mem _ hg))
        (fun g hg => hagain g (List.mem_cons_of_mem _ hg)) fun g hg => ?_
      have hne : f.name ≠ g.name := fun hname => hn.1 (hname ▸ List.mem_map_of_mem hg)
      rw [hout g (List.mem_cons_of_mem _ hg), Table.get?_cons, if_neg hne]
    have hf := hout f List.mem_cons_self
    rw [Table.get?_cons, if_pos rfl, Option.filter_some] at hf
    by_cases hkeeps : s.keepsValue w = true
    · rw [if_pos hkeeps] at hf
      rw [kept_cons, if_pos hkeeps]
      exact .sent hf (hagain f List.mem_cons_self v w hw) hrest
    · rw [if_neg hkeeps] at hf
      rw [kept_cons, if_neg hkeeps]
      exact .absent hf (hdefault f List.mem_cons_self) hrest
  | default _ hw =>
    rw [hdefault _ List.mem_cons_self] at hw
    cases hw
  | @absent f fs es _ hw h ih =>
    rw [List.map_cons, List.nodup_cons] at hn
    have hnone : Table.get? es f.name = none :=
      (Table.get?_eq_none_iff es f.name).mpr fun hmem => hn.1 (h.names_sublist.subset hmem)
    have hf := hout f List.mem_cons_self
    rw [hnone] at hf
    exact .absent hf hw (ih hn.2 (fun g hg => hdefault g (List.mem_cons_of_mem _ hg))
      (fun g hg => hagain g (List.mem_cons_of_mem _ hg))
      fun g hg => hout g (List.mem_cons_of_mem _ hg))

theorem Gives.of_sent {w? : Option Value} (h : s.Gives f (some v) w?) :
    ∃ w, w? = some w ∧ s.Becomes f v w := by
  cases h with
  | sent h => exact ⟨_, rfl, h⟩

theorem Gives.of_given {v? : Option Value} (hf : f.default = none) (h : s.Gives f v? (some w)) :
    ∃ v, v? = some v ∧ s.Becomes f v w := by
  generalize hw : some w = w? at h
  cases h with
  | sent h =>
    obtain rfl := Option.some.inj hw
    exact ⟨_, rfl, h⟩
  | absent =>
    rw [hf] at hw
    cases hw

section Payload

variable {sent : Table Value} (hs : s.WellNamed) (hp : s.IsBare)
  (hfill : s.Fills sent s.outline.fields es)

include hs hp hfill

theorem exists_sent_of_payload (hf : f ∈ s.outline.fields)
    (hw : Table.get? (s.payload es sent) f.name = some w) :
    ∃ v, Table.get? sent f.name = some v ∧ s.Becomes f v w := by
  rw [get?_payload hs hfill hf, Option.filter_eq_some_iff] at hw
  have hgives := hfill.gives hs.outline.fields hf
  rw [hw.1] at hgives
  exact hgives.of_given (hp.outline.fields f hf).undefaulted

/-- A field that the data meets is met by the payload. -/
theorem isMet_payload (hf : f ∈ s.outline.fields) (hmet : s.IsMet f sent) :
    s.IsMet f (s.payload es sent) := by
  constructor
  · intro hrequired
    obtain ⟨v, hv, hnull, hempty⟩ := hmet.present hrequired
    have hgives := hfill.gives hs.outline.fields hf
    rw [hv] at hgives
    obtain ⟨w, hw, hbecomes⟩ := hgives.of_sent
    obtain ⟨hwnull, hwempty⟩ := Value.isBlank_eq_false_iff.mp
      (hbecomes.not_isBlank hp hf (Value.isBlank_eq_false_iff.mpr ⟨hnull, hempty⟩))
    have hkeeps : s.keepsValue w = true := by
      rw [keepsValue, hp.outline.lists, Bool.eq_false_iff.mpr (hwnull ∘ Value.isNull_iff.mp)]
      simp
    refine ⟨w, ?_, hwnull, hwempty⟩
    rw [get?_payload hs hfill hf, hw, Option.filter_some, if_pos hkeeps]
  · intro w hw hne
    obtain ⟨v, hv, hbecomes⟩ := exists_sent_of_payload hs hp hfill hf hw
    have hv' : v ≠ .null := by
      rintro rfl
      cases hbecomes <;> contradiction
    obtain ⟨u, hu, hadmits⟩ := hmet.brings v hv hv'
    exact ⟨w, hbecomes.brings hs hp hf hne hu hadmits⟩

/-- A nested schema that settles takes what stands for it in a payload. -/
theorem takesNested_payload (hb : b ∈ s.nested) (hsettles : b.schema.Settles) :
    TakesNested b (s.payload es sent) := by
  intro w u hw hu
  obtain ⟨f, hf, hname⟩ := List.mem_map.mp (hs.declared b hb)
  have hname : f.name = b.name := hname
  rw [← hname] at hw
  obtain ⟨v, -, hbecomes⟩ := exists_sent_of_payload hs hp hfill hf hw
  have ih := exists_yields_iff_accepts (hs.nested b hb) (hp.nested b hb).isPlain
  cases hbecomes with
  | null => cases hu.not_isBlank
  | typed _ hb' => exact absurd (hname ▸ List.mem_map_of_mem hb) hb'
  | @nested _ _ _ b' _ hb' hname' _ hcleans =>
    obtain rfl : b = b' := List.inj_on_of_nodup_map hs.bindings hb hb' (hname.symm.trans hname'.symm)
    obtain rfl := hcleans.contains.unique hu
    exact (exists_cleans_iff hu ih).mp ⟨w, hcleans.again hsettles⟩

theorem accepts_payload (hn : ∀ b ∈ s.nested, b.schema.Settles) (h : s.Accepts sent) :
    s.Accepts (s.payload es sent) := by
  obtain ⟨o, bs⟩ := s
  have ho : o.WellNamed := hs.outline
  have hgroups : o.groups = [] := hp.outline.groups
  have hapart : o.groups.Pairwise fun g g' => ∀ f ∈ g.fields, ∀ f' ∈ g'.fields, f.name ≠ f'.name := by
    rw [hgroups]
    exact .nil
  rw [accepts_iff ho hapart] at h ⊢
  refine ⟨fun f hf => isMet_payload hs hp hfill hf (h.1 f hf), ?_,
    fun b hb => takesNested_payload hs hp hfill hb (hn b hb), ?_⟩
  · rw [hp.groupsFor]
    exact fun f hf => absurd hf List.not_mem_nil
  · intro hforbid
    have hkeeps : ¬o.unknown.keeps = true := by
      rw [hforbid]
      decide
    have hnone : (Schema.mk o bs).passedOn sent = [] := if_neg hkeeps
    have hunknown := unknownKeys_payload hfill
    rw [hnone] at hunknown
    exact hunknown

end Payload

/-- Bare schemas settle. -/
theorem settles_of_isBare (hs : s.WellNamed) (hp : s.IsBare) : s.Settles := by
  induction hp with
  | @mk s outline choices nested ih =>
    have hp : s.IsBare := .mk outline choices nested
    have hn : ∀ b ∈ s.nested, b.schema.Settles := fun b hb => ih b hb (hs.nested b hb)
    intro sent out h
    obtain ⟨es, hfill, rfl⟩ := hp.entries_of_yields hs h
    have haccepts := (exists_yields_iff_accepts hs hp.isPlain sent).mp ⟨_, h⟩
    obtain ⟨out', h'⟩ := (exists_yields_iff_accepts hs hp.isPlain _).mpr
      (accepts_payload hs hp hfill hn haccepts)
    obtain ⟨es', hfill', hout'⟩ := hp.entries_of_yields hs h'
    have hagain : s.Fills (s.payload es sent) s.outline.fields (s.kept es) :=
      hfill.again hs.outline.fields (fun f hf => (outline.fields f hf).undefaulted)
        (fun f hf v w hw => hw.again hp hn hf) fun f hf => get?_payload hs hfill hf
    obtain rfl := hfill'.unique hs hagain
    have hsame : out' = s.payload es sent := by
      rw [hout', payload, passedOn_payload hfill, kept_kept, kept_kept]
      rfl
    exact hsame ▸ h'

/-- The values of a payload are in the types of their fields, where no nested schema looks at them. -/
def TypesFit (s : Schema) (out : Table Value) : Prop :=
  ∀ f ∈ s.outline.fields, f.name ∉ s.nested.map Binding.name →
    ∀ w, Table.get? out f.name = some w → w ≠ .null → (Target.ofName f.type).Fits w

theorem typesFit_of_yields {sent : Table Value} (hs : s.WellNamed) (hp : s.IsBare)
    (h : (s.validate (.map sent)).Yields out) : s.TypesFit out := by
  obtain ⟨es, hfill, rfl⟩ := hp.entries_of_yields hs h
  intro f hf hb w hw hne
  obtain ⟨v, -, hbecomes⟩ := exists_sent_of_payload hs hp hfill hf hw
  cases hbecomes with
  | null => exact absurd rfl hne
  | typed _ _ h => exact hp.outline.fits hf h
  | nested _ hmem hname => exact absurd (hname ▸ List.mem_map_of_mem hmem) hb

/-- A cleaned payload holds values of its fields' types, and validating it again changes nothing: what
`conform` makes of data that is accepted it makes of that again. -/
theorem cleaned_payload_unchanged (hs : s.Built) (hp : s.IsBare) {sent : Table Value}
    {ns : List Notice} (h : (s.validate (.map sent)).result = .ok (.success out ns)) :
    s.TypesFit out ∧ (∃ ns', (s.validate (.map out)).result = .ok (.success out ns')) ∧
      s.conform (.map sent) = .ok (.map out) ∧ s.conform (.map out) = .ok (.map out) := by
  obtain ⟨ns', h'⟩ := settles_of_isBare hs.wellNamed hp sent out ⟨ns, h⟩
  refine ⟨typesFit_of_yields hs.wellNamed hp ⟨ns, h⟩, ⟨ns', h'⟩, ?_, ?_⟩
  · rw [conform, h]
    rfl
  · rw [conform, h']
    rfl

def guestSchema : Schema :=
  .mk { Outline.plain "Guest"
        [{ Field.plain "name" "str" with required := true },
          { Field.plain "age" "int" with
            validators := [.constraint "age" (.range (some (.int 18)) none)] }] with
      unknown := .allow }
    []

/-- A day, a code, seats and guests, of which there may be three. -/
def bookingSchema : Schema :=
  .mk { Outline.plain "Booking"
        [{ Field.plain "day" "date" with required := true }, .plain "code" "uuid",
          .plain "seats" "list[int]", .plain "note" "str",
          { Field.plain "guests" "list[any]" with
            validators := [.constraint "guests" (.length none (some (.int 3)))] }] with
      unknown := .warn
      stripNulls := true }
    [.mk "guests" true guestSchema]

def bookingBlueprint : Blueprint :=
  .mk { BlueprintOptions.plain "Booking" with unknown := some (.text "warn"), stripNulls := true }
    [.field { FieldDecl.plain "day" "date" with required := true }, .field (.plain "code" "uuid"),
      .field (.plain "seats" "list[int]"), .field (.plain "note" "str"),
      .nested { FieldDecl.plain "guests" "any" with maxLength := .int 3 } true
        (.blueprint (.mk { BlueprintOptions.plain "Guest" with unknown := some (.text "allow") }
          [.field { FieldDecl.plain "name" "str" with required := true },
            .field { FieldDecl.plain "age" "int" with min := .int 18 }]) true)]

theorem built_bookingSchema : bookingSchema.Built :=
  Blueprint.built_of_build (show bookingBlueprint.build.1 = .ok bookingSchema by cbv)

def booking : Table Value :=
  [("guests", .text "[\x7b\"vip\": true, \"age\": \"41\", \"name\": \"Ann\"\x7d]"), ("ref", .int 9),
    ("note", .null), ("seats", .text "4, 5, last"), ("day", .text " 05-03-2024"),
    ("code", .text "0B5C7A0E-1111-2222-3333-444455556666")]

def bookingPayload : Table Value :=
  [("day", .text "2024-03-05"), ("code", .text "0b5c7a0e-1111-2222-3333-444455556666"),
    ("seats", .list [.int 4, .int 5]),
    ("guests", .list [.map [("name", .text "Ann"), ("age", .int 41), ("vip", .bool true)]]),
    ("ref", .int 9)]

theorem isBare_bookingSchema : bookingSchema.IsBare := by
  have hguest : guestSchema.IsBare := by
    refine .mk ⟨?_, rfl, rfl, rfl, rfl⟩ (fun f _ hf => absurd hf List.not_mem_nil)
      (fun b hb => absurd hb List.not_mem_nil)
    intro f hf
    obtain rfl | rfl : f = _ ∨ f = _ := by simpa [guestSchema, outline, Outline.plain] using hf
    · exact ⟨isPlain_of_no_validators rfl rfl, rfl, by decide +kernel⟩
    · exact ⟨isPlain_of_constraint rfl trivial rfl, rfl, by decide +kernel⟩
  refine .mk ⟨?_, rfl, rfl, rfl, rfl⟩ ?_ ?_
  · intro f hf
    obtain rfl | rfl | rfl | rfl | rfl : f = _ ∨ f = _ ∨ f = _ ∨ f = _ ∨ f = _ := by
      simpa [bookingSchema, outline, Outline.plain] using hf
    · exact ⟨isPlain_of_no_validators rfl rfl, rfl, by decide +kernel⟩
    · exact ⟨isPlain_of_no_validators rfl rfl, rfl, by decide +kernel⟩
    · exact ⟨isPlain_of_no_validators rfl rfl, rfl, by decide +kernel⟩
    · exact ⟨isPlain_of_no_validators rfl rfl, rfl, by decide +kernel⟩
    · exact ⟨isPlain_of_constraint rfl trivial rfl, rfl, by decide +kernel⟩
  · intro f hf _ allowed
    obtain rfl | rfl | rfl | rfl | rfl : f = _ ∨ f = _ ∨ f = _ ∨ f = _ ∨ f = _ := by
      simpa [bookingSchema, outline, Outline.plain] using hf
    all_goals simp [Field.plain]
  · intro b hb
    obtain rfl := List.mem_singleton.mp hb
    exact hguest

theorem cleaned_payload_unchanged_booking :
    ∃ out ns, (bookingSchema.validate (.map booking)).result = .ok (.success out ns) ∧
      (Value.map out).equal (.map bookingPayload) = true ∧ bookingSchema.TypesFit out ∧
      (∃ ns', (bookingSchema.validate (.map out)).result = .ok (.success out ns')) ∧
      bookingSchema.conform (.map booking) = .ok (.map out) ∧
      bookingSchema.conform (.map out) = .ok (.map out) := by
  have hrun : ((bookingSchema.validate (.map booking)).result.toOption.map fun o =>
      o.elim (fun out => (Value.map out).equal (.map bookingPayload)) fun _ => false) = some true := by
    decide +kernel
  rcases h : (bookingSchema.validate (.map booking)).result with e | (⟨out, ns⟩ | r)
  · rw [h] at hrun
    cases hrun
  · rw [h] at hrun
    exact ⟨out, ns, rfl, Option.some.inj hrun,
      cleaned_payload_unchanged built_bookingSchema isBare_bookingSchema h⟩
  · rw [h] at hrun
    cases hrun

end Schema

end Intake
