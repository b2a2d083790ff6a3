import Intake.Proofs.Run.Effects
import Intake.Proofs.Schema.Nesting
import Intake.Proofs.Schema.Undeclared

namespace Intake

open Context

/-- What is said of everything but one entry. -/
def Remarks.apart (k : String) (r : Remarks) : Remarks :=
  ⟨r.issues.filter fun i => !IsInside k i.path, r.notices.filter fun n => !IsInside k n.path⟩

namespace Remarks

variable {k : String} {r s : Remarks}

theorem apart_append (k : String) (r s : Remarks) : (r ++ s).apart k = r.apart k ++ s.apart k := by
  ext1 <;> exact List.filter_append _ _

theorem Inside.apart (h : r.Inside k) : r.apart k = none := by
  ext1
  · exact List.filter_eq_nil_iff.mpr fun i hi => by simpa using h.issues i hi
  · exact List.filter_eq_nil_iff.mpr fun n hn => by simpa using h.notices n hn

end Remarks

/-- Two states that differ at most in what stands under one name and what is said of it. -/
structure Context.AlikeBut (k : String) (c d : Context) : Prop where
  data : ∀ n, n ≠ k → Table.get? c.data n = Table.get? d.data n
  coerced : ∀ n, n ≠ k → Table.get? c.coerced n = Table.get? d.coerced n
  remarks : c.remarks.apart k = d.remarks.apart k

/-- The state of a run over one of the entries of a payload, by the side of a run over all of them. -/
structure Context.PartOf (e : String × Value) (d c : Context) : Prop where
  data : d.data = [e]
  raw : Table.get? c.data e.1 = some e.2
  typed : Table.get? d.coerced e.1 = Table.get? c.coerced e.1
  empty : ∀ n, n ≠ e.1 → Table.get? d.coerced n = none

/-- Nothing has a typed value that was not sent. -/
def Context.TypesSent (c : Context) : Prop :=
  ∀ n, Table.get? c.data n = none → Table.get? c.coerced n = none

theorem Outcome.eq_of_value?_settle {α : Type} {is : List Issue} {v w : α} {raw : Value}
    {ns : List Notice} (h : (settle is v raw ns).value? = some w) : v = w := by
  unfold settle at h
  split_ifs at h
  · cases h
  · exact Option.some.inj h

namespace Step

variable {s : Step} {ss : List Step} {name k : String} {c d c' d' : Context} {e : String × Value}
  {f : Fault}

/-- A part of a run that has to do with one entry of a payload, and nothing to do without it. -/
structure Handles (s : Step) (name : String) : Prop where
  concerns : s.Concerns name
  idles : s.IdlesWithout name

theorem Concerns.data_eq (h : s.Concerns name) (c : Context) : (s c).1.data = c.data := by
  obtain ⟨e, -, hrun⟩ := h (Table.get? c.data name) (Table.get? c.coerced name)
  rw [hrun c rfl rfl]
  rfl

theorem Concerns.get?_of_ne (h : s.Concerns name) (c : Context) {n : String} (hn : n ≠ name) :
    Table.get? (s c).1.coerced n = Table.get? c.coerced n := by
  obtain ⟨e, -, hrun⟩ := h (Table.get? c.data name) (Table.get? c.coerced name)
  rw [hrun c rfl rfl]
  exact e.get?_coerced_apply_of_ne hn.symm

/-- Where states agree under a name, a part of a run that concerns it ends alike. -/
theorem Concerns.same (h : s.Concerns name) (hraw : Table.get? d.data name = Table.get? c.data name)
    (htyped : Table.get? d.coerced name = Table.get? c.coerced name) :
    (s d).2 = (s c).2 ∧ Table.get? (s d).1.coerced name = Table.get? (s c).1.coerced name := by
  obtain ⟨e, -, hrun⟩ := h (Table.get? c.data name) (Table.get? c.coerced name)
  rw [hrun c rfl rfl, hrun d hraw htyped, Effect.get?_coerced_apply_self,
    Effect.get?_coerced_apply_self, htyped]
  exact ⟨rfl, rfl⟩

/-- States that differ in one entry at most still do after a part of a run that concerns any one entry. -/
theorem Concerns.alikeBut (h : s.Concerns name) (hcd : c.AlikeBut k d) :
    (s c).1.AlikeBut k (s d).1 := by
  refine ⟨fun n hn => ?_, fun n hn => ?_, ?_⟩
  · rw [h.data_eq, h.data_eq, hcd.data n hn]
  · by_cases hname : n = name
    · subst hname
      exact (h.same (hcd.data n hn) (hcd.coerced n hn)).2
    · rw [h.get?_of_ne c hname, h.get?_of_ne d hname, hcd.coerced n hn]
  · obtain ⟨e, he, hrun⟩ := h (Table.get? c.data name) (Table.get? c.coerced name)
    by_cases hname : name = k
    · subst hname
      obtain ⟨e', he', hrun'⟩ := h (Table.get? d.data name) (Table.get? d.coerced name)
      rw [hrun c rfl rfl, hrun' d rfl rfl, Effect.remarks_apply, Effect.remarks_apply,
        Remarks.apart_append, Remarks.apart_append, hcd.remarks, he.apart, he'.apart]
    · rw [hrun c rfl rfl, hrun d (hcd.data name hname).symm (hcd.coerced name hname).symm,
        Effect.remarks_apply, Effect.remarks_apply, Remarks.apart_append, Remarks.apart_append,
        hcd.remarks]

theorem alikeBut_all (hs : ∀ s ∈ ss, ∃ name, s.Handles name) (hcd : c.AlikeBut k d)
    (hc : all ss c = (c', none)) (hd : all ss d = (d', none)) : c'.AlikeBut k d' := by
  induction ss generalizing c d with
  | nil =>
    rw [← (Prod.mk.inj hc).1, ← (Prod.mk.inj hd).1]
    exact hcd
  | cons s ss ih =>
    obtain ⟨c₁, hc₁, hc⟩ := andThen_eq_none_iff.mp hc
    obtain ⟨d₁, hd₁, hd⟩ := andThen_eq_none_iff.mp hd
    obtain ⟨name, h⟩ := hs s List.mem_cons_self
    have hstep := h.concerns.alikeBut hcd
    rw [hc₁, hd₁] at hstep
    exact ih (fun t ht => hs t (List.mem_cons_of_mem _ ht)) hstep hc hd

/-- A part of a run does to the state of one entry what it does to the whole if it has to do with that
entry, and else nothing. -/
theorem Handles.partOf (h : s.Handles name) (hp : Context.PartOf e d c) :
    Context.PartOf e (s d).1 (s c).1 ∧ (s d).2 = if name = e.1 then (s c).2 else none := by
  have hdata : (s d).1.data = [e] := (h.concerns.data_eq d).trans hp.data
  have hraw : Table.get? (s c).1.data e.1 = some e.2 := (h.concerns.data_eq c).symm ▸ hp.raw
  by_cases hname : name = e.1
  · subst hname
    have hown : Table.get? d.data e.1 = Table.get? c.data e.1 := by
      rw [hp.data, hp.raw]
      exact if_pos rfl
    obtain ⟨hfault, htyped⟩ := h.concerns.same hown hp.typed
    rw [if_pos rfl]
    refine ⟨⟨hdata, hraw, htyped, fun n hn => ?_⟩, hfault⟩
    rw [h.concerns.get?_of_ne d hn, hp.empty n hn]
  · have habsent : Table.get? d.data name = none := by
      rw [hp.data]
      exact if_neg (Ne.symm hname)
    obtain ⟨hfault, hkept⟩ := h.idles d habsent (hp.empty name hname)
    rw [if_neg hname]
    refine ⟨⟨hdata, hraw, ?_, fun n hn => ?_⟩, hfault⟩
    · rw [hkept, h.concerns.get?_of_ne c (Ne.symm hname), hp.typed]
    · rw [hkept, hp.empty n hn]

theorem Handles.typesSent (h : s.Handles name) (hc : c.TypesSent) : (s c).1.TypesSent := by
  intro n hn
  rw [h.concerns.data_eq] at hn
  by_cases hname : n = name
  · subst hname
    rw [(h.idles c hn (hc n hn)).2, hc n hn]
  · rw [h.concerns.get?_of_ne c hname, hc n hn]

/-- Where a run over a payload comes to its end, so does the run over each of its entries. -/
theorem exists_run_of_partOf (hs : ∀ s ∈ ss, ∃ name, s.Handles name) (hp : Context.PartOf e d c)
    (hc : all ss c = (c', none)) : ∃ d', all ss d = (d', none) := by
  induction ss generalizing c d with
  | nil => exact ⟨d, rfl⟩
  | cons s ss ih =>
    obtain ⟨c₁, hc₁, hc⟩ := andThen_eq_none_iff.mp hc
    obtain ⟨name, h⟩ := hs s List.mem_cons_self
    obtain ⟨hpart, hfault⟩ := h.partOf hp
    rw [hc₁] at hpart hfault
    rw [ite_self] at hfault
    obtain ⟨d', hd'⟩ := ih (fun t ht => hs t (List.mem_cons_of_mem _ ht)) hpart hc
    exact ⟨d', andThen_eq_none_iff.mpr ⟨_, Prod.ext rfl hfault, hd'⟩⟩

/-- Where a run over a payload is stopped, so is the run over one of its entries, and by the same
fault. -/
theorem exists_entry_of_fault (hs : ∀ s ∈ ss, ∃ name, s.Handles name) (hb : c.TypesSent)
    (hc : all ss c = (c', some f)) :
    ∃ e ∈ c.data, ∀ d, Context.PartOf e d c → ∃ d', all ss d = (d', some f) := by
  induction ss generalizing c with
  | nil => cases (Prod.mk.inj hc).2
  | cons s ss ih =>
    obtain ⟨name, h⟩ := hs s List.mem_cons_self
    rcases hsc : s c with ⟨c₁, _ | f'⟩
    · have hrest : all ss c₁ = (c', some f) := (andThen_of_none hsc).symm.trans hc
      have hb₁ : c₁.TypesSent := by simpa only [hsc] using h.typesSent hb
      have hdata : c₁.data = c.data := by simpa only [hsc] using h.concerns.data_eq c
      obtain ⟨e, he, hstop⟩ := ih (fun t ht => hs t (List.mem_cons_of_mem _ ht)) hb₁ hrest
      refine ⟨e, hdata ▸ he, fun d hp => ?_⟩
      obtain ⟨hpart, hfault⟩ := h.partOf hp
      rw [hsc] at hpart hfault
      rw [ite_self] at hfault
      obtain ⟨d', hd'⟩ := hstop _ hpart
      exact ⟨d', (andThen_of_none (Prod.ext rfl hfault)).trans hd'⟩
    · obtain rfl : f' = f := by
        have hstop := (andThen_of_some hsc).symm.trans hc
        exact Option.some.inj (Prod.mk.inj hstop).2
      -- A part of a run that idles without its entry cannot be what stops the run.
      cases hv : Table.get? c.data name with
      | none =>
        have hidle := (h.idles c hv (hb name hv)).1
        rw [hsc] at hidle
        cases hidle
      | some v =>
        refine ⟨(name, v), Table.mem_of_get? hv, fun d hp => ?_⟩
        obtain ⟨-, hfault⟩ := h.partOf hp
        rw [if_pos rfl, hsc] at hfault
        exact ⟨(s d).1, andThen_of_some (Prod.ext rfl hfault)⟩

end Step

namespace Schema

variable {s : Schema} {k : String} {data data' : Table Value}

/-- Plain fields and nothing over several of them. -/
structure IsFlat (s : Schema) : Prop where
  fields : ∀ f ∈ s.outline.fields, f.IsPlain
  groups : s.outline.groups = []
  rules : s.outline.rules = []

/-- The parts of a run that each have to do with one entry. -/
def parts (s : Schema) : List Step :=
  (s.outline.fields.map Outline.checkPresence ++
    s.outline.fields.map fun f => s.outline.checkField (Table.get? (nestedFields s.nested) f.name) f) ++
      s.nested.map Binding.check

theorem IsFlat.handles (hs : s.IsFlat) : ∀ p ∈ s.parts, ∃ name, p.Handles name := by
  intro p hp
  rcases List.mem_append.mp hp with hp | hp
  · rcases List.mem_append.mp hp with hp | hp
    · obtain ⟨f, -, rfl⟩ := List.mem_map.mp hp
      exact ⟨f.name, Outline.concerns_checkPresence f, Outline.idles_checkPresence f⟩
    · obtain ⟨f, hf, rfl⟩ := List.mem_map.mp hp
      exact ⟨f.name, Outline.concerns_checkField _ _ (hs.fields f hf).validators,
        Outline.idles_checkField _ _ f⟩
  · obtain ⟨b, -, rfl⟩ := List.mem_map.mp hp
    exact ⟨b.name, b.concerns_check, b.idles_check⟩

theorem IsFlat.declaredPart_eq (hs : s.IsFlat) (data : Table Value) :
    s.outline.declaredPart (nestedFields s.nested) (checkBindings s.nested) data =
      match Step.all s.parts (Context.start data) with
      | (_, some f) => .error f
      | (c, none) => .ok ([], c) := by
  have hfirst : s.outline.firstPart (nestedFields s.nested) =
      Step.all (s.outline.fields.map Outline.checkPresence ++ s.outline.fields.map fun f =>
        s.outline.checkField (Table.get? (nestedFields s.nested) f.name) f) := by
    have hrules : Validator.runAll s.outline.rules = Step.done := by rw [hs.rules]; rfl
    rw [Outline.firstPart, hrules, Step.andThen_done, Step.all_append]
  have hactive (c : Context) : s.outline.activeGroups c = [] := by
    rw [Outline.activeGroups, hs.groups, List.filter_nil]
  unfold Outline.declaredPart
  rw [parts, Step.all_append, hfirst, ← Binding.checkBindings_eq_all]
  rcases hc : Step.all (s.outline.fields.map Outline.checkPresence ++ s.outline.fields.map fun f =>
    s.outline.checkField (Table.get? (nestedFields s.nested) f.name) f) (Context.start data)
    with ⟨c, _ | f⟩
  · dsimp only
    rw [hactive, Step.andThen_of_none hc]
    rfl
  · rw [Step.andThen_of_some hc]

/-- What a run over a payload of plain fields comes to. -/
theorem IsFlat.result_eq (hs : s.IsFlat) (data : Table Value) :
    (s.validate (.map data)).result =
      match Step.all s.parts (Context.start data) with
      | (_, some f) => .error f
      | (c, none) =>
        .ok (.settle (c.issues ++ s.outline.unknown.issues (s.outline.unknownKeys data))
          (s.payload (s.outline.declaredEntries [] c) data) (.map data)
          (c.notices ++ s.outline.unknown.notices s.name (s.outline.unknownKeys data))) := by
  have hdata : s.outline.resolveAliases data = .ok data := by
    apply Outline.resolveAliases_of_no_alias
    intro f hf
    rw [Outline.allFields, hs.groups] at hf
    exact (hs.fields f hf).unaliased
  have hpart := hs.declaredPart_eq data
  rw [result_validate, hdata, Except.bind]
  rcases hc : Step.all s.parts (Context.start data) with ⟨c, _ | f⟩
  · rw [hc] at hpart
    obtain ⟨hkept, -⟩ := Outline.of_declaredPart (Binding.growing_checkBindings _) hpart
    rw [hpart, ← hkept]
    rfl
  · rw [hc] at hpart
    rw [hpart]
    rfl

theorem IsFlat.result_eq_error_iff (hs : s.IsFlat) {f : Fault} :
    (s.validate (.map data)).result = .error f ↔
      ∃ c, Step.all s.parts (Context.start data) = (c, some f) := by
  rw [hs.result_eq]
  rcases Step.all s.parts (Context.start data) with ⟨c, _ | f'⟩ <;> simp

theorem partOf_start (hd : (Table.names data).Nodup) {e : String × Value} (he : e ∈ data) :
    Context.PartOf e (Context.start [e]) (Context.start data) :=
  ⟨rfl, Table.get?_of_mem hd he, rfl, fun _ _ => rfl⟩

/-- A run is stopped just when the run over one of its entries alone is. -/
theorem IsFlat.stops_iff (hs : s.IsFlat) (hd : (Table.names data).Nodup) :
    (∃ f, (s.validate (.map data)).result = .error f) ↔
      ∃ e ∈ data, ∃ f, (s.validate (.map [e])).result = .error f := by
  simp only [hs.result_eq_error_iff]
  constructor
  · rintro ⟨f, c, hc⟩
    obtain ⟨e, he, hstop⟩ := Step.exists_entry_of_fault hs.handles (fun _ _ => rfl) hc
    exact ⟨e, he, f, hstop _ (partOf_start hd he)⟩
  · rintro ⟨e, he, f, d, hstop⟩
    rcases hc : Step.all s.parts (Context.start data) with ⟨c, _ | f'⟩
    · obtain ⟨d', hd'⟩ := Step.exists_run_of_partOf hs.handles (partOf_start hd he) hc
      cases (Prod.mk.inj (hstop.symm.trans hd')).2
    · exact ⟨f', c, rfl⟩

theorem get?_of_filter_eq (h : data.filter (fun e => e.1 ≠ k) = data'.filter fun e => e.1 ≠ k)
    {n : String} (hn : n ≠ k) : Table.get? data n = Table.get? data' n := by
  have hget : Table.get? (data.filter fun e => e.1 ≠ k) n = Table.get? (data'.filter fun e => e.1 ≠ k) n :=
    h ▸ rfl
  rw [Table.get?_filter_names (· ≠ k), Table.get?_filter_names (· ≠ k)] at hget
  simpa [hn] using hget

theorem unknownKeys_filter_eq (h : data.filter (fun e => e.1 ≠ k) = data'.filter fun e => e.1 ≠ k) :
    (s.outline.unknownKeys data).filter (· ≠ k) = (s.outline.unknownKeys data').filter (· ≠ k) := by
  have hnames (t : Table Value) :
      (Table.names t).filter (· ≠ k) = Table.names (t.filter fun e => e.1 ≠ k) := List.filter_map
  unfold Outline.unknownKeys
  rw [List.filter_comm, hnames, h, ← hnames, List.filter_comm]

/-- What is said of undeclared keys is said of each at its own place. -/
theorem filter_map_eq_of_path {α : Type} {g : String → α} {path : α → String} {keys keys' : List String}
    (hpath : ∀ key, path (g key) = key) (h : keys.filter (· ≠ k) = keys'.filter (· ≠ k)) :
    (keys.map g).filter (fun x => !IsInside k (path x)) =
      (keys'.map g).filter fun x => !IsInside k (path x) := by
  have hkeys (keys : List String) : (keys.map g).filter (fun x => !IsInside k (path x)) =
      ((keys.filter (· ≠ k)).filter fun key => !IsInside k key).map g := by
    rw [List.filter_map, List.filter_filter]
    congr 1
    apply List.filter_congr
    intro key _
    rw [Function.comp_apply, hpath]
    by_cases hkey : key = k
    · simp [hkey, isInside_self]
    · simp [hkey]
  rw [hkeys, hkeys, h]

theorem apart_unknown {keys keys' : List String} (p : UnknownFields) (name : String)
    (h : keys.filter (· ≠ k) = keys'.filter (· ≠ k)) :
    Remarks.apart k ⟨p.issues keys, p.notices name keys⟩ =
      Remarks.apart k ⟨p.issues keys', p.notices name keys'⟩ := by
  unfold UnknownFields.issues UnknownFields.notices
  ext1
  · dsimp only [Remarks.apart]
    split_ifs
    · exact filter_map_eq_of_path (fun _ => rfl) h
    · rfl
  · dsimp only [Remarks.apart]
    split_ifs
    · exact filter_map_eq_of_path (fun _ => rfl) h
    · rfl

theorem declaredEntries_filter_eq {c d : Context} (h : c.AlikeBut k d) :
    (s.outline.declaredEntries [] c).filter (fun e => e.1 ≠ k) =
      (s.outline.declaredEntries [] d).filter fun e => e.1 ≠ k := by
  unfold Outline.declaredEntries
  rw [List.filter_filterMap, List.filter_filterMap]
  apply List.filterMap_congr
  intro f _
  by_cases hf : f.name = k
  · simp [hf, Option.filter_map, Function.comp_def]
  · have hvalue : Outline.outputValue? c f = Outline.outputValue? d f := by
      unfold Outline.outputValue? Context.hasField Table.has
      rw [h.coerced f.name hf, h.data f.name hf]
    rw [hvalue]

theorem payload_filter_eq {c d : Context} (h : c.AlikeBut k d) (hd : (Table.names data).Nodup)
    (hd' : (Table.names data').Nodup)
    (hsame : data.filter (fun e => e.1 ≠ k) = data'.filter fun e => e.1 ≠ k) :
    (s.payload (s.outline.declaredEntries [] c) data).filter (fun e => e.1 ≠ k) =
      (s.payload (s.outline.declaredEntries [] d) data').filter fun e => e.1 ≠ k := by
  have hundeclared : (s.undeclared data).filter (fun e => e.1 ≠ k) =
      (s.undeclared data').filter fun e => e.1 ≠ k := by
    unfold undeclared
    split_ifs
    · rw [List.filter_comm, hsame, List.filter_comm]
    · rfl
  have hkept (es : Table Value) :
      (s.kept es).filter (fun e => e.1 ≠ k) = s.kept (es.filter fun e => e.1 ≠ k) :=
    List.filter_comm _ _ _
  rw [payload, payload, passedOn_eq_undeclared hd, passedOn_eq_undeclared hd', List.filter_append,
    List.filter_append, hkept, hkept, hkept, hkept, declaredEntries_filter_eq h, hundeclared]

theorem IsFlat.alike_of_results (hs : s.IsFlat) (hd : (Table.names data).Nodup)
    (hd' : (Table.names data').Nodup)
    (hsame : data.filter (fun e => e.1 ≠ k) = data'.filter fun e => e.1 ≠ k)
    {o o' : Outcome (Table Value)} (ho : (s.validate (.map data)).result = .ok o)
    (ho' : (s.validate (.map data')).result = .ok o') :
    o.remarks.apart k = o'.remarks.apart k ∧
      ∀ out out', o.value? = some out → o'.value? = some out' →
        out.filter (fun e => e.1 ≠ k) = out'.filter fun e => e.1 ≠ k := by
  rw [hs.result_eq] at ho ho'
  rcases hc : Step.all s.parts (Context.start data) with ⟨c, _ | f⟩
  swap
  · rw [hc] at ho
    cases ho
  rcases hc' : Step.all s.parts (Context.start data') with ⟨d, _ | f⟩
  swap
  · rw [hc'] at ho'
    cases ho'
  rw [hc] at ho
  rw [hc'] at ho'
  have hstart : (Context.start data).AlikeBut k (Context.start data') :=
    ⟨fun n hn => get?_of_filter_eq hsame hn, fun _ _ => rfl, rfl⟩
  have halike := Step.alikeBut_all hs.handles hstart hc hc'
  rw [← Except.ok.inj ho, ← Except.ok.inj ho']
  constructor
  · rw [Outcome.remarks_settle, Outcome.remarks_settle]
    have hunknown := apart_unknown s.outline.unknown s.name (unknownKeys_filter_eq (s := s) hsame)
    have hsplit (c : Context) (r : Remarks) :
        Remarks.mk (c.issues ++ r.issues) (c.notices ++ r.notices) = c.remarks ++ r := rfl
    rw [hsplit c ⟨_, _⟩, hsplit d ⟨_, _⟩, Remarks.apart_append, Remarks.apart_append,
      halike.remarks, hunknown]
  · intro out out' hout hout'
    rw [← Outcome.eq_of_value?_settle hout, ← Outcome.eq_of_value?_settle hout']
    exact payload_filter_eq halike hd hd' hsame

/-- Entries of a payload do not interfere. A run is stopped only by what one of the entries does when it
is sent alone; and of two runs that are not stopped, over payloads that differ in one entry, all that is
not said of this entry is the same, and so is what the payloads of successes hold under other names. -/
theorem fields_do_not_interfere (hs : s.IsFlat) (hd : (Table.names data).Nodup)
    (hd' : (Table.names data').Nodup)
    (hsame : data.filter (fun e => e.1 ≠ k) = data'.filter fun e => e.1 ≠ k) :
    ((∃ f, (s.validate (.map data)).result = .error f) ↔
      ∃ e ∈ data, ∃ f, (s.validate (.map [e])).result = .error f) ∧
    ∀ o o', (s.validate (.map data)).result = .ok o → (s.validate (.map data')).result = .ok o' →
      o.remarks.apart k = o'.remarks.apart k ∧
        ∀ out out', o.value? = some out → o'.value? = some out' →
          out.filter (fun e => e.1 ≠ k) = out'.filter fun e => e.1 ≠ k :=
  ⟨hs.stops_iff hd, fun _ _ ho ho' => hs.alike_of_results hd hd' hsame ho ho'⟩

theorem isFlat_teamSchema : teamSchema.IsFlat := by
  refine ⟨fun f hf => ?_, rfl, rfl⟩
  rcases List.mem_pair.mp hf with rfl | rfl <;>
    exact isPlain_of_no_validators rfl rfl

def leaderless : Table Value := roster.filter fun e => e.1 ≠ "lead"

theorem fields_do_not_interfere_roster :
    ((∃ f, (teamSchema.validate (.map roster)).result = .error f) ↔
      ∃ e ∈ roster, ∃ f, (teamSchema.validate (.map [e])).result = .error f) ∧
    ∃ o o', (teamSchema.validate (.map roster)).result = .ok o ∧
      (teamSchema.validate (.map leaderless)).result = .ok o' ∧
      o.remarks.apart "lead" = o'.remarks.apart "lead" ∧
      (o'.remarks.apart "lead").issues.map (·.path) =
        ["members[0].phones[1].number", "members[1]"] := by
  have hnames : (Table.names roster).Nodup := by decide
  have hnames' : (Table.names leaderless).Nodup := by decide
  have hsame : roster.filter (fun e => e.1 ≠ "lead") = leaderless.filter fun e => e.1 ≠ "lead" := rfl
  obtain ⟨hstops, halike⟩ := fields_do_not_interfere isFlat_teamSchema hnames hnames' hsame
  have hrun : (teamSchema.validate (.map roster)).result.isOk = true := by decide +kernel
  have hpaths : (teamSchema.validate (.map leaderless)).result.toOption.map (fun o =>
      (o.remarks.apart "lead").issues.map (·.path)) =
      some ["members[0].phones[1].number", "members[1]"] := by decide +kernel
  refine ⟨hstops, ?_⟩
  cases h : (teamSchema.validate (.map roster)).result with
  | error f =>
    rw [h] at hrun
    cases hrun
  | ok o =>
    cases h' : (teamSchema.validate (.map leaderless)).result with
    | error f =>
      rw [h'] at hpaths
      cases hpaths
    | ok o' =>
      rw [h'] at hpaths
      exact ⟨o, o', rfl, rfl, (halike o o' h h').1, Option.some.inj hpaths⟩

end Schema

end Intake
