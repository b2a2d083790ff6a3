import Intake.Proofs.Run.Lookups
import Intake.Proofs.Schema.Policies

namespace Intake

namespace Outline

variable {o : Outline} {f : Field} {nf : Table Bool} {nested : Step} {data data' d d' : Table Value}
  {ms : Table String}

theorem moves_of_sentAs? (h : ∀ f ∈ o.allFields, sentAs? f data' = sentAs? f data) :
    o.moves data' = o.moves data := by
  apply List.filterMap_congr
  intro f hf
  rw [h f hf]

theorem moves_congr (h : ∀ name, Table.get? data' name = Table.get? data name) :
    o.moves data' = o.moves data := by
  apply moves_of_sentAs?
  intro f _
  simp only [sentAs?, Table.has, h]

/-- Moves succeed or fail alike on two tables that every one of them leaves related. -/
theorem foldlM_move_related {R : Table Value → Table Value → Prop}
    (hget : ∀ m ∈ ms, ∀ d d', R d d' → Table.get? d' m.2 = Table.get? d m.2)
    (hstep : ∀ m ∈ ms, ∀ d d' v, R d d' → R (Table.put (Table.remove d m.2) m.1 v)
      (Table.put (Table.remove d' m.2) m.1 v)) (h : R d d') :
    (∃ f, ms.foldlM move d = .error f ∧ ms.foldlM move d' = .error f) ∨
      ∃ r r', ms.foldlM move d = .ok r ∧ ms.foldlM move d' = .ok r' ∧ R r r' := by
  induction ms generalizing d d' with
  | nil => exact .inr ⟨d, d', rfl, rfl, h⟩
  | cons m ms ih =>
    rw [List.foldlM_cons, List.foldlM_cons, move, move, hget m List.mem_cons_self d d' h]
    cases Table.get? d m.2 with
    | none => exact .inl ⟨_, rfl, rfl⟩
    | some v =>
      exact ih (fun m hm => hget m (List.mem_cons_of_mem _ hm))
        (fun m hm => hstep m (List.mem_cons_of_mem _ hm)) (hstep m List.mem_cons_self d d' v h)

/-- Moves do the same to tables of the same entries, or fail in both. -/
theorem foldlM_move_congr (hd : (Table.names d).Nodup) (hd' : (Table.names d').Nodup)
    (h : ∀ name, Table.get? d' name = Table.get? d name) :
    (∃ f, ms.foldlM move d = .error f ∧ ms.foldlM move d' = .error f) ∨
      ∃ r r', ms.foldlM move d = .ok r ∧ ms.foldlM move d' = .ok r' ∧
        ∀ name, Table.get? r' name = Table.get? r name := by
  have hruns := foldlM_move_related (R := fun d d' => (Table.names d).Nodup ∧
    (Table.names d').Nodup ∧ ∀ name, Table.get? d' name = Table.get? d name)
    (fun (m : String × String) (_ : m ∈ ms) d d' h => h.2.2 m.2)
    (fun m _ d d' v ⟨hd, hd', h⟩ => ⟨Table.nodup_names_put (Table.nodup_names_remove hd m.2) m.1 v,
      Table.nodup_names_put (Table.nodup_names_remove hd' m.2) m.1 v, fun name => by
        rw [Table.get?_put_remove hd', Table.get?_put_remove hd, h name]⟩) ⟨hd, hd', h⟩
  exact hruns.imp_right fun ⟨r, r', hr, hr', h⟩ => ⟨r, r', hr, hr', h.2.2⟩

/-- Aliases are resolved alike in whatever order keys were sent. -/
theorem resolveAliases_of_perm (hd : (Table.names data).Nodup) (hp : data.Perm data') :
    (∃ f, o.resolveAliases data = .error f ∧ o.resolveAliases data' = .error f) ∨
      ∃ r r', o.resolveAliases data = .ok r ∧ o.resolveAliases data' = .ok r' ∧
        (Table.names r).Nodup ∧ r.Perm r' := by
  have hd' : (Table.names data').Nodup := (hp.map Prod.fst).nodup_iff.mp hd
  have hget := Table.get?_of_perm hd hp
  simp only [resolveAliases_eq, moves_congr hget]
  apply (foldlM_move_congr hd hd' hget).imp_right
  rintro ⟨r, r', hr, hr', hsame⟩
  have hn := nodup_names_of_foldlM_move hd hr
  exact ⟨r, r', hr, hr', hn, Table.perm_of_get?_eq hn (nodup_names_of_foldlM_move hd' hr') hsame⟩

/-- The groups that apply once fields and rules are checked; none if a fault stops the run there. -/
def groupsAfter (o : Outline) (nf : Table Bool) (data : Table Value) : List Group :=
  match o.firstPart nf (Context.start data) with
  | (_, some _) => []
  | (c, none) => o.activeGroups c

theorem groupsAfter_of_declaredPart {active : List Group} {c : Context}
    (h : o.declaredPart nf nested data = .ok (active, c)) : o.groupsAfter nf data = active := by
  unfold declaredPart at h
  unfold groupsAfter
  rcases hfirst : o.firstPart nf (Context.start data) with ⟨d, _ | f⟩
  · rw [hfirst] at h
    dsimp only at h ⊢
    split at h
    · cases h
    · exact congrArg Prod.fst (Except.ok.inj h)
  · rw [hfirst] at h
    cases h

theorem groupsAfter_congr (hown : Table.AgreeOn o.ownReads data' data)
    (htrigger : Table.AgreeOn (o.groups.map (·.trigger)) data' data) :
    o.groupsAfter nf data' = o.groupsAfter nf data := by
  have hfirst : o.firstPart nf (Context.start data') = _ :=
    looksUp_firstPart o nf (Context.start data) data' hown
  unfold groupsAfter
  rw [hfirst]
  rcases hc : o.firstPart nf (Context.start data) with ⟨c, _ | f⟩
  · exact activeGroups_given (data_of_firstPart hc ▸ htrigger)
  · rfl

/-- A run up to the keys that are not declared comes to the same over other data when each of its parts
does. -/
theorem declaredPart_of_parts
    (hfirst : o.firstPart nf (Context.start data') =
      ((o.firstPart nf (Context.start data)).1.given data', (o.firstPart nf (Context.start data)).2))
    (hrest : ∀ c, o.firstPart nf (Context.start data) = (c, none) →
      o.activeGroups (c.given data') = o.activeGroups c ∧
        let rest := Step.andThen (Step.all ((groupFields (o.activeGroups c)).map o.checkGroupField)) nested
        rest (c.given data') = ((rest c).1.given data', (rest c).2)) :
    o.declaredPart nf nested data' =
      (o.declaredPart nf nested data).map fun (active, c) => (active, c.given data') := by
  unfold declaredPart
  rw [hfirst]
  rcases hc : o.firstPart nf (Context.start data) with ⟨c, _ | f⟩
  · obtain ⟨hactive, hrun⟩ := hrest c hc
    dsimp only at hrun ⊢
    rw [hactive, hrun]
    rcases Step.andThen (Step.all ((groupFields (o.activeGroups c)).map o.checkGroupField)) nested c
      with ⟨d, _ | f⟩ <;> rfl
  · rfl

/-- A run up to the keys that are not declared looks up what fields and rules read, the triggers of
groups, and what the fields of the groups that apply read. -/
theorem declaredPart_given (hn : Context.LooksUp [] nested)
    (hown : Table.AgreeOn o.ownReads data' data)
    (htrigger : Table.AgreeOn (o.groups.map (·.trigger)) data' data)
    (hgroups : Table.AgreeOn ((groupFields (o.groupsAfter nf data)).flatMap Field.reads) data' data) :
    o.declaredPart nf nested data' =
      (o.declaredPart nf nested data).map fun (active, c) => (active, c.given data') := by
  apply declaredPart_of_parts (looksUp_firstPart o nf (Context.start data) data' hown)
  intro c hc
  unfold groupsAfter at hgroups
  rw [hc] at hgroups
  have hdata : c.data = data := data_of_firstPart hc
  have hgroup : Context.LooksUp _ (Step.all ((groupFields (o.activeGroups c)).map o.checkGroupField)) :=
    Context.looksUp_all_map (growing_checkGroupField o) (looksUp_checkGroupField o)
  have hrest := hgroup.andThen (Step.growing_all_map (growing_checkGroupField o) _) hn
  rw [List.append_nil] at hrest
  exact ⟨activeGroups_given (hdata ▸ htrigger), hrest c data' (hdata ▸ hgroups)⟩

/-- A run up to the keys that are not declared looks entries up by their names alone. -/
theorem declaredPart_congr (hn : Context.LooksUp [] nested)
    (h : ∀ name, Table.get? data' name = Table.get? data name) :
    o.declaredPart nf nested data' =
      (o.declaredPart nf nested data).map fun (active, c) => (active, c.given data') :=
  declaredPart_given hn (fun n _ => h n) (fun n _ => h n) fun n _ => h n

theorem declaredEntries_of_hasField {active : List Group} {c : Context}
    (h : ∀ n ∈ (o.fields ++ groupFields active).map (·.name),
      (c.given data').hasField n = c.hasField n) :
    o.declaredEntries active (c.given data') = o.declaredEntries active c := by
  apply List.filterMap_congr
  intro f hf
  have hmem : f ∈ o.fields ++ groupFields active := mem_append_of_mem_foldl hf
  unfold outputValue?
  rw [h f.name (List.mem_map_of_mem hmem)]
  rfl

theorem declaredEntries_of_agree {active : List Group} {c : Context}
    (h : Table.AgreeOn ((o.fields ++ groupFields active).map (·.name)) data' c.data) :
    o.declaredEntries active (c.given data') = o.declaredEntries active c :=
  declaredEntries_of_hasField fun n hn => Context.hasField_given (h n hn)

theorem declaredEntries_given {active : List Group} {c : Context}
    (h : ∀ name, Table.get? data' name = Table.get? c.data name) :
    o.declaredEntries active (c.given data') = o.declaredEntries active c :=
  declaredEntries_of_agree fun n _ => h n

theorem not_mem_allNames : ∀ k ∈ o.unknownKeys data, k ∉ o.allNames := by
  intro k hk
  simpa using List.of_mem_filter hk

theorem unknownKeys_perm (hp : data.Perm data') : (o.unknownKeys data).Perm (o.unknownKeys data') :=
  (hp.map Prod.fst).filter _

end Outline

namespace Schema

variable {s : Schema} {sent sent' data data' es extra extra' : Table Value} {is : List Issue}
  {ns : List Notice} {keys keys' : List String}

/-- Two outcomes that differ in the order of undeclared keys and in nothing else. -/
inductive Reordered (s : Schema) : Outcome (Table Value) → Outcome (Table Value) → Prop where
  | success {es extra extra' : Table Value} {ns : List Notice} {keys keys' : List String}
      (hkeys : keys.Perm keys') (hunknown : ∀ k ∈ keys, k ∉ s.outline.allNames)
      (hextra : extra.Perm extra')
      (hsame : ∀ name, Table.get? (es ++ extra') name = Table.get? (es ++ extra) name)
      (hdeclared : ∀ e ∈ es, e.1 ∈ s.outline.allNames)
      (hundeclared : ∀ e ∈ extra, e.1 ∉ s.outline.allNames) :
      Reordered s (.success (es ++ extra) (ns ++ s.outline.unknown.notices s.name keys))
        (.success (es ++ extra') (ns ++ s.outline.unknown.notices s.name keys'))
  | failure {r r' : Rejection} {is : List Issue} {ns : List Notice} {keys keys' : List String}
      (hkeys : keys.Perm keys') (hunknown : ∀ k ∈ keys, k ∉ s.outline.allNames)
      (hissues : r.issues = is ++ s.outline.unknown.issues keys)
      (hissues' : r'.issues = is ++ s.outline.unknown.issues keys')
      (hnotices : r.notices = ns ++ s.outline.unknown.notices s.name keys)
      (hnotices' : r'.notices = ns ++ s.outline.unknown.notices s.name keys') :
      Reordered s (.failure r) (.failure r')

theorem issues_perm (p : UnknownFields) (h : keys.Perm keys') :
    (p.issues keys).Perm (p.issues keys') := by
  unfold UnknownFields.issues
  split_ifs
  · exact h.map _
  · exact List.Perm.nil

theorem reordered_settle (hkeys : keys.Perm keys') (hunknown : ∀ k ∈ keys, k ∉ s.outline.allNames)
    (hextra : extra.Perm extra')
    (hsame : ∀ name, Table.get? (es ++ extra') name = Table.get? (es ++ extra) name)
    (hdeclared : ∀ e ∈ es, e.1 ∈ s.outline.allNames)
    (hundeclared : ∀ e ∈ extra, e.1 ∉ s.outline.allNames) (raw raw' : Value) :
    s.Reordered
      (.settle (is ++ s.outline.unknown.issues keys) (es ++ extra) raw
        (ns ++ s.outline.unknown.notices s.name keys))
      (.settle (is ++ s.outline.unknown.issues keys') (es ++ extra') raw'
        (ns ++ s.outline.unknown.notices s.name keys')) := by
  have hissues := (issues_perm s.outline.unknown hkeys).append_left is
  unfold Outcome.settle
  by_cases h : is ++ s.outline.unknown.issues keys = []
  · have h' : is ++ s.outline.unknown.issues keys' = [] := (h ▸ hissues).nil_eq.symm
    rw [dif_neg (not_not.mpr h), dif_neg (not_not.mpr h')]
    exact .success hkeys hunknown hextra hsame hdeclared hundeclared
  · have h' : ¬is ++ s.outline.unknown.issues keys' = [] := fun hnil => h (hnil ▸ hissues).eq_nil
    rw [dif_pos h, dif_pos h']
    exact .failure hkeys hunknown rfl rfl rfl rfl

theorem kept_passedOn_perm (hd : (Table.names data).Nodup) (hp : data.Perm data') :
    (s.kept (s.passedOn data)).Perm (s.kept (s.passedOn data')) := by
  have hd' : (Table.names data').Nodup := (hp.map Prod.fst).nodup_iff.mp hd
  rw [passedOn_eq_undeclared hd, passedOn_eq_undeclared hd']
  apply List.Perm.filter
  unfold undeclared
  split_ifs
  · exact hp.filter _
  · exact List.Perm.nil

theorem nodup_names_kept_passedOn (hd : (Table.names data).Nodup) :
    (Table.names (s.kept (s.passedOn data))).Nodup := by
  rw [passedOn_eq_undeclared hd]
  exact hd.sublist ((List.filter_sublist.trans (undeclared_sublist s data)).map _)

/-- In whatever order the keys of a payload were sent, a run is stopped by the same fault, finds the same
or comes to the same entries; only what concerns undeclared keys follows their order. -/
theorem key_order_irrelevant (s : Schema) (hd : (Table.names sent).Nodup) (hp : sent.Perm sent') :
    (∃ f, (s.validate (.map sent)).result = .error f ∧
      (s.validate (.map sent')).result = .error f) ∨
      ∃ o o', (s.validate (.map sent)).result = .ok o ∧
        (s.validate (.map sent')).result = .ok o' ∧ s.Reordered o o' := by
  rw [result_validate, result_validate]
  rcases s.outline.resolveAliases_of_perm hd hp with
    ⟨f, hdata, hdata'⟩ | ⟨data, data', hdata, hdata', hnames, hperm⟩
  · rw [hdata, hdata']
    exact .inl ⟨f, rfl, rfl⟩
  have hget := Table.get?_of_perm hnames hperm
  rw [hdata, hdata']
  dsimp only [Except.bind]
  rw [Outline.declaredPart_congr (Binding.looksUp_checkBindings s.nested) hget]
  cases hpart : s.outline.declaredPart (nestedFields s.nested) (checkBindings s.nested) data with
  | error f => exact .inl ⟨f, rfl, rfl⟩
  | ok part =>
    obtain ⟨active, c⟩ := part
    obtain ⟨rfl, hactive⟩ := Outline.of_declaredPart (Binding.growing_checkBindings _) hpart
    refine .inr ⟨_, _, rfl, rfl, ?_⟩
    dsimp only [payload]
    rw [Outline.declaredEntries_given hget]
    have hextra := kept_passedOn_perm (s := s) hnames hperm
    apply reordered_settle (Outline.unknownKeys_perm hperm) Outline.not_mem_allNames hextra
    · intro name
      rw [Table.get?_append, Table.get?_append,
        Table.get?_of_perm (nodup_names_kept_passedOn hnames) hextra]
    · intro e he
      exact Outline.name_mem_declaredEntries hactive (List.mem_of_mem_filter he)
    · intro e he
      exact (mem_passedOn (List.mem_of_mem_filter he)).1

theorem key_order_irrelevant_gift :
    ∃ o o', (order.validate (.map gift)).result = .ok o ∧
      (order.validate (.map gift.reverse)).result = .ok o' ∧ order.Reordered o o' := by
  have hnames : (Table.names gift).Nodup := by decide
  rcases key_order_irrelevant order hnames (List.reverse_perm gift).symm with ⟨f, hf, -⟩ | hruns
  · have hrun : (order.validate (.map gift)).result = .ok (.success giftPayload []) := by cbv
    rw [hrun] at hf
    cases hf
  · exact hruns

end Schema

end Intake
