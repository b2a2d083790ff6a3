import Intake.Proofs.Schema.Undeclared

namespace Intake

namespace Outline

variable {o : Outline} {sent data : Table Value} {k : String}

/-- A key that was sent, that no field declares, and under which no field was sent by another name. -/
structure Undeclared (o : Outline) (data : Table Value) (k : String) : Prop where
  sent : k ∈ Table.names data
  undeclared : k ∉ o.allNames
  unclaimed : ∀ f ∈ o.allFields, ¬f.SentAs k data

theorem name_mem_allNames_of_mem_moves {m : String × String} (hm : m ∈ o.moves sent) :
    m.1 ∈ o.allNames := by
  obtain ⟨f, hf, -, hname⟩ := mem_moves.mp hm
  rw [allNames_eq, ← hname]
  exact List.mem_map_of_mem hf

/-- Values are moved to declared names only, so all other entries stand as they were sent, but for those
that were moved. -/
theorem filter_undeclared_of_resolveAliases (hd : (Table.names sent).Nodup)
    (h : o.resolveAliases sent = .ok data) :
    data.filter (fun e => !o.allNames.contains e.1) =
      sent.filter fun e => !o.allNames.contains e.1 && !(Table.values (o.moves sent)).contains e.1 := by
  rw [resolveAliases_eq] at h
  refine filter_of_foldlM_move (p := fun k => !o.allNames.contains k) hd (fun m hm => ?_) h
  simpa using name_mem_allNames_of_mem_moves hm

theorem unknownKeys_of_resolveAliases (hd : (Table.names sent).Nodup)
    (h : o.resolveAliases sent = .ok data) :
    o.unknownKeys data = (Table.names sent).filter fun k =>
      !o.allNames.contains k && !(Table.values (o.moves sent)).contains k := by
  have hentries := congrArg Table.names (filter_undeclared_of_resolveAliases hd h)
  rw [unknownKeys, Table.names, Table.names, List.filter_map, List.filter_map]
  exact hentries

theorem mem_unknownKeys_iff (hd : (Table.names sent).Nodup) (h : o.resolveAliases sent = .ok data) :
    k ∈ o.unknownKeys data ↔ o.Undeclared sent k := by
  have hmoved : k ∉ Table.values (o.moves sent) ↔ ∀ f ∈ o.allFields, ¬f.SentAs k sent := by
    simp only [mem_values_moves, sentAs?_iff, not_exists, not_and]
  simp only [unknownKeys_of_resolveAliases hd h, List.mem_filter, Bool.and_eq_true,
    Bool.not_eq_true', List.contains_eq_mem, decide_eq_false_iff_not, hmoved]
  constructor
  · rintro ⟨hk, hdeclared, hclaimed⟩
    exact ⟨hk, hdeclared, hclaimed⟩
  · intro hk
    exact ⟨hk.sent, hk.undeclared, hk.unclaimed⟩

theorem filter_unknownKeys (hd : (Table.names sent).Nodup) (h : o.resolveAliases sent = .ok data) :
    data.filter (fun e => !o.allNames.contains e.1) =
      sent.filter fun e => (o.unknownKeys data).contains e.1 := by
  rw [filter_undeclared_of_resolveAliases hd h]
  apply List.filter_congr
  intro e he
  have hmem : e.1 ∈ Table.names sent := List.mem_map_of_mem he
  rw [unknownKeys_of_resolveAliases hd h, Bool.eq_iff_iff, List.contains_iff_mem, List.mem_filter]
  exact (and_iff_right hmem).symm

end Outline

namespace Schema

variable {s : Schema} {sent : Table Value}

/-- The schema with another policy for undeclared keys. -/
def under (s : Schema) (p : UnknownFields) : Schema :=
  .mk { s.outline with unknown := p } s.nested

theorem under_unknown (s : Schema) : s.under s.outline.unknown = s := by
  cases s
  rfl

/-- What the four policies make of one payload: they agree on what is found in declared fields and on
their entries, and differ in what becomes of the undeclared keys. -/
structure ByPolicy (s : Schema) (sent data es : Table Value) (is : List Issue) (ns : List Notice)
    (keys : List String) : Prop where
  resolved : s.outline.resolveAliases sent = .ok data
  inOrder : keys.Sublist (Table.names sent)
  undeclared : ∀ k, k ∈ keys ↔ s.outline.Undeclared sent k
  ignore : ((s.under .ignore).validate (.map sent)).result = .ok (.settle is es (.map data) ns)
  allow : ((s.under .allow).validate (.map sent)).result =
    .ok (.settle is (es ++ s.kept (sent.filter fun e => keys.contains e.1)) (.map data) ns)
  warn : ((s.under .warn).validate (.map sent)).result =
    .ok (.settle is (es ++ s.kept (sent.filter fun e => keys.contains e.1)) (.map data)
      (ns ++ keys.map (.undeclared s.name)))
  forbid : ((s.under .forbid).validate (.map sent)).result =
    .ok (.settle (is ++ keys.map .unexpected) es (.map data) ns)
  declared : ∀ e ∈ es, e.1 ∈ s.outline.allNames

/-- Without the undeclared keys a payload that passes them on is the one that does not. -/
theorem ByPolicy.filter_declared {data es : Table Value} {is : List Issue} {ns : List Notice}
    {keys : List String} (h : s.ByPolicy sent data es is ns keys) :
    (es ++ s.kept (sent.filter fun e => keys.contains e.1)).filter
      (fun e => s.outline.allNames.contains e.1) = es := by
  have hes : es.filter (fun e => s.outline.allNames.contains e.1) = es := by
    rw [List.filter_eq_self]
    intro e he
    exact List.contains_iff_mem.mpr (h.declared e he)
  have hextra : (s.kept (sent.filter fun e => keys.contains e.1)).filter
      (fun e => s.outline.allNames.contains e.1) = [] := by
    rw [List.filter_eq_nil_iff]
    intro e he
    have hkey := List.of_mem_filter (List.mem_of_mem_filter he)
    simpa using ((h.undeclared e.1).mp (List.contains_iff_mem.mp hkey)).undeclared
  rw [List.filter_append, hes, hextra, List.append_nil]

/-- Where undeclared keys are forbidden a run succeeds just when nothing is wrong with the declared
fields and there is no such key. -/
theorem ByPolicy.success_forbid_iff {data es out : Table Value} {is : List Issue}
    {ns ns' : List Notice} {keys : List String} (h : s.ByPolicy sent data es is ns keys) :
    ((s.under .forbid).validate (.map sent)).result = .ok (.success out ns') ↔
      is = [] ∧ keys = [] ∧ es = out ∧ ns = ns' := by
  rw [h.forbid, Except.ok.injEq, Outcome.settle_eq_success_iff, List.append_eq_nil_iff,
    List.map_eq_nil_iff, and_assoc]

theorem result_under (s : Schema) (p : UnknownFields) (sent : Table Value) :
    ((s.under p).validate (.map sent)).result =
      (s.outline.resolveAliases sent).bind fun data =>
        (s.outline.declaredPart (nestedFields s.nested) (checkBindings s.nested) data).map
          fun (active, c) =>
            .settle (c.issues ++ p.issues (s.outline.unknownKeys c.data))
              (s.kept (s.outline.declaredEntries active c) ++ s.kept ((s.under p).passedOn c.data))
              (.map c.data) (c.notices ++ p.notices s.name (s.outline.unknownKeys c.data)) :=
  result_validate (s.under p) sent

theorem passedOn_under {data : Table Value} {p : UnknownFields} (hd : (Table.names sent).Nodup)
    (h : s.outline.resolveAliases sent = .ok data) :
    (s.under p).passedOn data =
      if p.keeps then sent.filter fun e => (s.outline.unknownKeys data).contains e.1 else [] := by
  rw [passedOn_eq_undeclared (Outline.nodup_names_of_resolveAliases hd h),
    ← Outline.filter_unknownKeys hd h]
  rfl

theorem byPolicy_of_declaredPart {data : Table Value} {active : List Group} {c : Context}
    (hd : (Table.names sent).Nodup) (hdata : s.outline.resolveAliases sent = .ok data)
    (hpart : s.outline.declaredPart (nestedFields s.nested) (checkBindings s.nested) data =
      .ok (active, c)) :
    s.ByPolicy sent data (s.kept (s.outline.declaredEntries active c)) c.issues c.notices
      (s.outline.unknownKeys data) := by
  obtain ⟨rfl, hactive⟩ := Outline.of_declaredPart (Binding.growing_checkBindings _) hpart
  have hrun : ∀ p, ((s.under p).validate (.map sent)).result =
      .ok (.settle (c.issues ++ p.issues (s.outline.unknownKeys c.data))
        (s.kept (s.outline.declaredEntries active c) ++ s.kept ((s.under p).passedOn c.data))
        (.map c.data) (c.notices ++ p.notices s.name (s.outline.unknownKeys c.data))) := by
    intro p
    rw [result_under, hdata, Except.bind, hpart]
    rfl
  simp only [passedOn_under hd hdata] at hrun
  constructor
  case resolved => exact hdata
  case inOrder =>
    rw [Outline.unknownKeys_of_resolveAliases hd hdata]
    exact List.filter_sublist
  case undeclared => exact fun k => Outline.mem_unknownKeys_iff hd hdata
  case ignore =>
    simpa [UnknownFields.issues, UnknownFields.notices, UnknownFields.keeps, kept]
      using hrun .ignore
  case allow =>
    simpa [UnknownFields.issues, UnknownFields.notices, UnknownFields.keeps] using hrun .allow
  case warn =>
    simpa [UnknownFields.issues, UnknownFields.notices, UnknownFields.keeps] using hrun .warn
  case forbid =>
    simpa [UnknownFields.issues, UnknownFields.notices, UnknownFields.keeps, kept]
      using hrun .forbid
  case declared =>
    intro e he
    exact Outline.name_mem_declaredEntries hactive (List.mem_of_mem_filter he)

/-- A run is stopped under every policy or under none. -/
theorem stopped_or_byPolicy (s : Schema) (hd : (Table.names sent).Nodup) :
    (∃ f, ∀ p, ((s.under p).validate (.map sent)).result = .error f) ∨
      ∃ data es is ns keys, s.ByPolicy sent data es is ns keys := by
  cases hdata : s.outline.resolveAliases sent with
  | error f =>
    refine .inl ⟨f, fun p => ?_⟩
    rw [result_under, hdata]
    rfl
  | ok data =>
    cases hpart : s.outline.declaredPart (nestedFields s.nested) (checkBindings s.nested) data with
    | error f =>
      refine .inl ⟨f, fun p => ?_⟩
      rw [result_under, hdata, Except.bind, hpart]
      rfl
    | ok part => exact .inr ⟨data, _, _, _, _, byPolicy_of_declaredPart hd hdata hpart⟩

/-- The policy for undeclared keys decides what becomes of those keys and of nothing else. Unless every
run is stopped, all find the same in the declared fields and have the same entries for them. Such keys
are passed on as they were sent, each is warned about once, or each is an issue of its own. -/
theorem policies_differ_in_undeclared_keys (s : Schema) (hd : (Table.names sent).Nodup) :
    (∃ f, ∀ p, ((s.under p).validate (.map sent)).result = .error f) ∨
      ∃ data es is ns keys, s.ByPolicy sent data es is ns keys ∧
        (es ++ s.kept (sent.filter fun e => keys.contains e.1)).filter
          (fun e => s.outline.allNames.contains e.1) = es ∧
        ∀ out ns', ((s.under .forbid).validate (.map sent)).result = .ok (.success out ns') ↔
          is = [] ∧ keys = [] ∧ es = out ∧ ns = ns' := by
  apply (stopped_or_byPolicy s hd).imp_right
  rintro ⟨data, es, is, ns, keys, h⟩
  exact ⟨data, es, is, ns, keys, h, h.filter_declared, fun out ns' => h.success_forbid_iff⟩

theorem policies_differ_in_undeclared_keys_gift :
    ∃ data es is ns keys, order.ByPolicy gift data es is ns keys ∧
      (es ++ order.kept (gift.filter fun e => keys.contains e.1)).filter
        (fun e => order.outline.allNames.contains e.1) = es ∧
      ∀ out ns', ((order.under .forbid).validate (.map gift)).result = .ok (.success out ns') ↔
        is = [] ∧ keys = [] ∧ es = out ∧ ns = ns' := by
  have hnames : (Table.names gift).Nodup := by decide
  rcases policies_differ_in_undeclared_keys order hnames with ⟨f, hstopped⟩ | hruns
  · have hrun : (order.validate (.map gift)).result = .ok (.success giftPayload []) := by cbv
    have hf := hstopped order.outline.unknown
    rw [under_unknown, hrun] at hf
    cases hf
  · exact hruns

end Schema

end Intake
