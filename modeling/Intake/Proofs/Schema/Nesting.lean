import Intake.Proofs.Run.Remarks

namespace Intake

/-- A place that names something inside a value. -/
structure IsPlace (place : String) : Prop where
  not_empty : place ≠ ""
  not_whole : place ≠ "$"

variable {p q : String}

theorem IsPlace.append (h : IsPlace q) (t : String) : IsPlace (q ++ t) := by
  have hl : q.toList ≠ [] := fun hnil => h.not_empty (String.toList_eq_nil_iff.mp hnil)
  constructor
  · intro hqt
    have hlist : q.toList ++ t.toList = [] := by rw [← String.toList_append, hqt, String.toList_empty]
    exact hl (List.append_eq_nil_iff.mp hlist).1
  · intro hqt
    have hlist : q.toList ++ t.toList = ['$'] := by rw [← String.toList_append, hqt]; rfl
    cases hs : q.toList with
    | nil => exact hl hs
    | cons c cs =>
      rw [hs, List.cons_append, List.cons_eq_cons, List.append_eq_nil_iff] at hlist
      obtain ⟨rfl, rfl, -⟩ := hlist
      exact h.not_whole (String.toList_inj.mp hs)

theorem IsPlace.elementPlace (h : IsPlace p) (i : Nat) : IsPlace (elementPlace p i) :=
  ((h.append _).append _).append _

theorem IsPlace.joinPath (h : IsPlace p) (child : String) : IsPlace (joinPath p child) := by
  unfold Intake.joinPath
  split_ifs
  · exact h
  · exact h.append _
  · exact (h.append _).append _

theorem joinPath_whole (p : String) : joinPath p "$" = p := if_pos rfl

theorem joinPath_append (hq : IsPlace q) (t : String) : joinPath p (q ++ t) = joinPath p q ++ t := by
  have hl : q.toList ≠ [] := fun hnil => hq.not_empty (String.toList_eq_nil_iff.mp hnil)
  have hhead : (q ++ t).toList.head? = q.toList.head? := by
    rw [String.toList_append, List.head?_append_of_ne_nil _ hl]
  rw [joinPath, joinPath, if_neg (hq.append t).not_whole, if_neg hq.not_whole, hhead]
  split_ifs <;> simp only [String.append_assoc]

/-- A place in a value in a value is the same place from outside, whichever step is taken first. -/
theorem joinPath_joinPath (hq : IsPlace q) (child : String) :
    joinPath p (joinPath q child) = joinPath (joinPath p q) child := by
  by_cases hc : child = "$"
  · rw [hc, joinPath_whole, joinPath_whole]
  · rw [joinPath.eq_def q, joinPath.eq_def (joinPath p q), if_neg hc, if_neg hc]
    split_ifs
    · exact joinPath_append hq child
    · rw [String.append_assoc, joinPath_append hq, String.append_assoc]

theorem Remarks.under_under (hq : IsPlace q) (r : Remarks) :
    (r.under q).under p = r.under (joinPath p q) := by
  unfold under
  rw [List.map_map, List.map_map]
  ext1
  · exact List.map_congr_left fun i _ => congrArg i.moved (joinPath_joinPath hq i.path)
  · exact List.map_congr_left fun n _ => congrArg n.moved (joinPath_joinPath hq n.path)

/-- A step from a payload to one inside it: a field, and an index where the field holds many. -/
structure Hop where
  name : String
  index : Option Nat

namespace Hop

def place (hop : Hop) : String := hop.index.elim hop.name (elementPlace hop.name)

theorem isPlace_place {hop : Hop} (h : IsPlace hop.name) : IsPlace hop.place := by
  obtain ⟨name, _ | i⟩ := hop
  · exact h
  · exact h.elementPlace i

/-- The place to which a series of steps leads. -/
def address : List Hop → String
  | [] => "$"
  | hop :: hops => joinPath hop.place (address hops)

/-- Remarks on the payload at the end of a series of steps, brought back step by step. -/
def broughtBack (hops : List Hop) (r : Remarks) : Remarks :=
  hops.foldr (fun hop r => r.under hop.place) r

variable {hops : List Hop}

theorem isPlace_address (hne : hops ≠ []) (h : ∀ hop ∈ hops, IsPlace hop.name) :
    IsPlace (address hops) := by
  cases hops with
  | nil => exact absurd rfl hne
  | cons hop hops => exact (isPlace_place (h hop List.mem_cons_self)).joinPath _

/-- Remarks that come back step by step carry the place to which the steps lead together. -/
theorem broughtBack_eq_under (hne : hops ≠ []) (h : ∀ hop ∈ hops, IsPlace hop.name) (r : Remarks) :
    broughtBack hops r = r.under (address hops) := by
  induction hops with
  | nil => exact absurd rfl hne
  | cons hop hops ih =>
    by_cases hnil : hops = []
    · subst hnil
      rw [address, address, joinPath_whole]
      rfl
    · have hrest : ∀ hop ∈ hops, IsPlace hop.name := fun hop hm => h hop (List.mem_cons_of_mem _ hm)
      have hback : broughtBack (hop :: hops) r = (broughtBack hops r).under hop.place := rfl
      rw [hback, ih hnil hrest, Remarks.under_under (isPlace_address hnil hrest), address]

theorem under_address_append {pre post : List Hop} (hpre : pre ≠ []) (hpost : post ≠ [])
    (h : ∀ hop ∈ pre ++ post, IsPlace hop.name) (r : Remarks) :
    r.under (address (pre ++ post)) = (r.under (address post)).under (address pre) := by
  have hleft : ∀ hop ∈ pre, IsPlace hop.name := fun hop hm => h hop (List.mem_append_left _ hm)
  have hright : ∀ hop ∈ post, IsPlace hop.name := fun hop hm => h hop (List.mem_append_right _ hm)
  rw [← broughtBack_eq_under (List.append_ne_nil_of_left_ne_nil hpre post) h,
    ← broughtBack_eq_under hpre hleft, ← broughtBack_eq_under hpost hright]
  exact List.foldr_append

end Hop

namespace Outline

variable {o : Outline} {nf : Table Bool} {nested : Step} {c d : Context} {data sent : Table Value}
  {outcome : Outcome (Table Value)}

/-- A run up to the checks of nested schemas. -/
def ownPart (o : Outline) (nf : Table Bool) : Step :=
  Step.andThen (o.firstPart nf) fun c =>
    Step.all ((groupFields (o.activeGroups c)).map o.checkGroupField) c

/-- What is said about keys that are not declared. -/
def unknownRemarks (o : Outline) (data : Table Value) : Remarks :=
  (o.reportUnknown (Context.start data)).1.remarks

theorem remarks_of_reportUnknown (c : Context) :
    ∃ d, o.reportUnknown c = (d, none) ∧ d.remarks = c.remarks ++ o.unknownRemarks c.data := by
  unfold unknownRemarks reportUnknown
  cases o.unknown with
  | warn => exact ⟨_, rfl, Remarks.ext (List.append_nil _).symm rfl⟩
  | forbid => exact ⟨_, rfl, Remarks.ext rfl (List.append_nil _).symm⟩
  | ignore | allow => exact ⟨c, rfl, (Remarks.append_none _).symm⟩

/-- A run that comes to an outcome: the schema's own part, the nested schemas, the keys that are not
declared. -/
theorem parts_of_check (h : (o.check nf nested (.map sent)).result = .ok outcome)
    (hn : nested.Growing) :
    ∃ data c d, o.resolveAliases sent = .ok data ∧ o.ownPart nf (Context.start data) = (c, none) ∧
      nested c = (d, none) ∧ outcome.remarks = d.remarks ++ o.unknownRemarks data := by
  rw [check_map] at h
  rcases hdata : o.resolveAliases sent with f | data
  · rw [hdata] at h
    cases h
  rw [hdata] at h
  dsimp only at h
  rcases hfirst : o.firstPart nf (Context.start data) with ⟨e, _ | f⟩
  swap
  · rw [hfirst] at h
    cases h
  rw [hfirst] at h
  dsimp only at h
  rcases hsecond : o.secondPart nested (o.activeGroups e) e with ⟨e', _ | f⟩
  swap
  · rw [hsecond] at h
    cases h
  rw [hsecond] at h
  obtain ⟨c, hgroups, hrest⟩ := Step.andThen_eq_none_iff.mp hsecond
  obtain ⟨d, hnested, hunknown⟩ := Step.andThen_eq_none_iff.mp hrest
  have hown : o.ownPart nf (Context.start data) = (c, none) :=
    Step.andThen_eq_none_iff.mpr ⟨e, hfirst, hgroups⟩
  have hc : c.data = data :=
    (Step.grows_of_eq (Step.growing_all_map (growing_checkGroupField o) _) hgroups).data.trans
      (data_of_firstPart hfirst)
  have hd : d.data = data := (Step.grows_of_eq hn hnested).data.trans hc
  obtain ⟨e'', hrun, hremarks⟩ := remarks_of_reportUnknown (o := o) d
  obtain rfl : e'' = e' := (Prod.mk.inj (hrun.symm.trans hunknown)).1
  refine ⟨data, c, d, rfl, hown, hnested, ?_⟩
  rw [← Except.ok.inj h, Outcome.remarks_settle, ← hd]
  exact hremarks

/-- Nested schemas find the values that were sent for their fields, whatever has been found before. -/
theorem coerced_of_ownPart (ho : o.WellNamed)
    (h : o.ownPart nf (Context.start data) = (c, none)) :
    ∀ f ∈ o.fields, Table.get? c.coerced f.name = o.typedValue? (Table.get? nf f.name) data f := by
  obtain ⟨e, hfirst, hgroups⟩ := Step.andThen_eq_none_iff.mp h
  obtain ⟨hin, -⟩ := coerced_of_firstPart ho hfirst
  obtain ⟨-, hkeep⟩ := coerced_of_groupFields ho (fun g hg => mem_activeGroups hg) hgroups
  intro f hf
  rw [hkeep f.name (List.mem_map_of_mem hf), hin f hf]

end Outline

namespace Schema

variable {s t : Schema} {sent es : Table Value} {outcome : Outcome (Table Value)} {hops : List Hop}

/-- What is said about a payload: what the schema's own part says, what the nested schemas say in turn,
and what there is to say about keys that are not declared. -/
theorem remarks_of_validate (hs : s.WellNamed) (h : (s.validate (.map sent)).result = .ok outcome) :
    ∃ data own rs, s.outline.resolveAliases sent = .ok data ∧
      s.outline.ownPart (nestedFields s.nested) (Context.start data) = (own, none) ∧
      List.Forall₂ (fun b r => b.Says (Table.get? data b.name) r) s.nested rs ∧
      outcome.remarks = own.remarks ++ Remarks.all rs ++ s.outline.unknownRemarks data := by
  obtain ⟨o, bs⟩ := s
  have ho : o.WellNamed := hs.outline
  have hbs : (bs.map Binding.name).Nodup := hs.bindings
  obtain ⟨data, c, d, hdata, hown, hnested, hremarks⟩ :=
    Outline.parts_of_check h (Binding.growing_checkBindings bs)
  have hcoerced := Outline.coerced_of_ownPart ho hown
  have hvalues : ∀ b ∈ bs, ∃ f : Field, f.name = b.name ∧
      Table.get? c.coerced b.name = o.typedValue? (some b.many) data f := by
    intro b hb
    obtain ⟨f, hf, hname⟩ := List.mem_map.mp (hs.declared b hb)
    refine ⟨f, hname, ?_⟩
    rw [← get?_nestedFields hbs hb, ← hname]
    exact hcoerced f hf
  obtain ⟨rs, hrs, hd⟩ := Binding.says_of_checkBindings hbs hvalues hnested
  refine ⟨data, c, rs, hdata, hown, hrs, ?_⟩
  rw [hremarks, hd]
  rfl

/-- Steps that lead from a payload to one somewhere inside it, and to the schema which that one
follows. -/
inductive Reaches : Schema → Table Value → List Hop → Schema → Table Value → Prop where
  | here (s : Schema) (sent : Table Value) : Reaches s sent [] s sent
  | field {s t : Schema} {sent data es inner : Table Value} {b : Binding} {v : Value}
      {hops : List Hop} (hdata : s.outline.resolveAliases sent = .ok data) (hb : b ∈ s.nested)
      (hv : Table.get? data b.name = some v) (hc : Outline.Contains b.many v (.map es))
      (h : Reaches b.schema es hops t inner) : Reaches s sent (⟨b.name, none⟩ :: hops) t inner
  | element {s t : Schema} {sent data es inner : Table Value} {b : Binding} {v : Value}
      {vs : List Value} {i : Nat} {hops : List Hop}
      (hdata : s.outline.resolveAliases sent = .ok data) (hb : b ∈ s.nested)
      (hv : Table.get? data b.name = some v) (hc : Outline.Contains b.many v (.list vs))
      (hi : vs[i]? = some (.map es)) (h : Reaches b.schema es hops t inner) :
      Reaches s sent (⟨b.name, some i⟩ :: hops) t inner

theorem name_ne_of_reaches (hs : s.WellNamed) (h : s.Reaches sent hops t es) :
    ∀ hop ∈ hops, hop.name ≠ "" := by
  induction h with
  | here => simp
  | field _ hb _ _ _ ih | element _ hb _ _ _ _ ih =>
    intro hop hm
    rcases List.mem_cons.mp hm with rfl | hm
    · obtain ⟨f, hf, hname⟩ := List.mem_map.mp (hs.declared _ hb)
      exact hname ▸ hs.outline.named f hf
    · exact ih (hs.nested _ hb) hop hm

/-- What a nested schema says stands among what is said outside. -/
theorem exists_among_of_mem (hs : s.WellNamed) {data : Table Value} {b : Binding}
    (h : (s.validate (.map sent)).result = .ok outcome)
    (hdata : s.outline.resolveAliases sent = .ok data) (hb : b ∈ s.nested) :
    ∃ r, b.Says (Table.get? data b.name) r ∧ r.Among outcome.remarks := by
  obtain ⟨data', own, rs, hdata', -, hrs, hremarks⟩ := remarks_of_validate hs h
  obtain rfl : data' = data := Except.ok.inj (hdata'.symm.trans hdata)
  obtain ⟨hlen, hget⟩ := List.forall₂_iff_get.mp hrs
  obtain ⟨i, hi, rfl⟩ := List.getElem_of_mem hb
  refine ⟨rs.get ⟨i, hlen ▸ hi⟩, hget i hi (hlen ▸ hi), ?_⟩
  rw [hremarks]
  exact Remarks.among_append_of_among (Remarks.among_all (List.getElem_mem _)) _ _

end Schema

namespace Binding

variable {b : Binding} {v : Value} {es : Table Value} {r : Remarks}

theorem Says.of_map (h : b.Says (some v) r) (hv : Outline.Contains b.many v (.map es)) :
    ∃ outcome, (b.schema.validate (.map es)).result = .ok outcome ∧
      r = outcome.remarks.under b.name := by
  cases h with
  | one hv' h =>
    obtain rfl := Value.map.inj (hv.unique hv')
    exact ⟨_, h, rfl⟩
  | many hv' _ => cases hv.unique hv'
  | nothing h => exact absurd hv (h v rfl _)

theorem Says.of_element {vs : List Value} {i : Nat} (h : b.Says (some v) r)
    (hv : Outline.Contains b.many v (.list vs)) (hi : vs[i]? = some (.map es)) :
    ∃ outcome, (b.schema.validate (.map es)).result = .ok outcome ∧
      (outcome.remarks.under (elementPlace b.name i)).Among r := by
  cases h with
  | one hv' _ => cases hv.unique hv'
  | many hv' h =>
    obtain rfl := Value.list.inj (hv.unique hv')
    obtain ⟨r, hr, helement⟩ := h.get hi
    cases helement with
    | map h => exact ⟨_, h, Remarks.among_all hr⟩
    | other h => exact absurd rfl (h es)
  | nothing h => exact absurd hv (h v rfl _)

end Binding

namespace Schema

variable {s t : Schema} {sent es : Table Value} {outcome : Outcome (Table Value)} {hops : List Hop}

/-- What is said at the end of some steps stands, brought back, among what is said at their start. -/
theorem broughtBack_among_of_reaches (hs : s.WellNamed) (h : s.Reaches sent hops t es)
    (hout : (s.validate (.map sent)).result = .ok outcome) :
    ∃ inner, (t.validate (.map es)).result = .ok inner ∧
      (Hop.broughtBack hops inner.remarks).Among outcome.remarks := by
  -- The induction is on the steps: a run outside that comes to an outcome has run the schema inside.
  induction h generalizing outcome with
  | here s sent => exact ⟨outcome, hout, Remarks.Among.refl _⟩
  | field hdata hb hv hc _ ih =>
    obtain ⟨r, hsays, hamong⟩ := exists_among_of_mem hs hout hdata hb
    rw [hv] at hsays
    obtain ⟨outcome', hout', rfl⟩ := hsays.of_map hc
    obtain ⟨inner, hinner, hback⟩ := ih (hs.nested _ hb) hout'
    exact ⟨inner, hinner, (hback.under _).trans hamong⟩
  | element hdata hb hv hc hi _ ih =>
    obtain ⟨r, hsays, hamong⟩ := exists_among_of_mem hs hout hdata hb
    rw [hv] at hsays
    obtain ⟨outcome', hout', hr⟩ := hsays.of_element hc hi
    obtain ⟨inner, hinner, hback⟩ := ih (hs.nested _ hb) hout'
    exact ⟨inner, hinner, ((hback.under _).trans hr).trans hamong⟩

/-- What nested schemas say about their values is said about the whole at the places of these values, all
of it, once, in order and otherwise unchanged; and what is said many levels down carries the places of
all levels, in whichever groups they are put together. -/
theorem nested_remarks_readdressed (hs : s.Built)
    (h : (s.validate (.map sent)).result = .ok outcome) :
    ∃ data own rs, s.outline.resolveAliases sent = .ok data ∧
      s.outline.ownPart (nestedFields s.nested) (Context.start data) = (own, none) ∧
      List.Forall₂ (fun b r => b.Says (Table.get? data b.name) r) s.nested rs ∧
      outcome.remarks = own.remarks ++ Remarks.all rs ++ s.outline.unknownRemarks data ∧
      ∀ hops t es, hops ≠ [] → (∀ hop ∈ hops, hop.name ≠ "$") → s.Reaches sent hops t es →
        ∃ inner, (t.validate (.map es)).result = .ok inner ∧
          (inner.remarks.under (Hop.address hops)).Among outcome.remarks ∧
          ∀ pre post, pre ≠ [] → post ≠ [] → hops = pre ++ post →
            inner.remarks.under (Hop.address hops) =
              (inner.remarks.under (Hop.address post)).under (Hop.address pre) := by
  have hs := hs.wellNamed
  obtain ⟨data, own, rs, hdata, hown, hrs, hremarks⟩ := remarks_of_validate hs h
  refine ⟨data, own, rs, hdata, hown, hrs, hremarks, fun hops t es hne hnames hreaches => ?_⟩
  have hplaces : ∀ hop ∈ hops, IsPlace hop.name :=
    fun hop hm => ⟨name_ne_of_reaches hs hreaches hop hm, hnames hop hm⟩
  obtain ⟨inner, hinner, hback⟩ := broughtBack_among_of_reaches hs hreaches h
  rw [Hop.broughtBack_eq_under hne hplaces] at hback
  refine ⟨inner, hinner, hback, ?_⟩
  rintro pre post hpre hpost rfl
  exact Hop.under_address_append hpre hpost hplaces _

def phoneSchema : Schema :=
  .mk (.plain "Phone" [{ Field.plain "number" "str" with required := true }]) []

def personSchema : Schema :=
  .mk { Outline.plain "Person" [.plain "phones" "list[any]"] with unknown := .warn }
    [.mk "phones" true phoneSchema]

/-- A lead and members, each with phones. -/
def teamSchema : Schema :=
  .mk (.plain "Team" [.plain "lead" "dict[any]", .plain "members" "list[any]"])
    [.mk "lead" false personSchema, .mk "members" true personSchema]

def teamBlueprint : Blueprint :=
  let phone : Blueprint :=
    .mk (.plain "Phone") [.field { FieldDecl.plain "number" "str" with required := true }]
  let person : Blueprint :=
    .mk { BlueprintOptions.plain "Person" with unknown := some (.text "warn") }
      [.nested (.plain "phones" "any") true (.blueprint phone true)]
  .mk (.plain "Team")
    [.nested (.plain "lead" "any") false (.blueprint person true),
      .nested (.plain "members" "any") true (.blueprint person true)]

theorem built_teamSchema : teamSchema.Built :=
  Blueprint.built_of_build (show teamBlueprint.build.1 = .ok teamSchema by cbv)

def roster : Table Value :=
  [("members", .list
      [.map [("phones", .list [.map [("number", .text "7")], .map []])], .int 4,
        .map [("role", .text "cook")]]),
    ("lead", .text "\x7b\"phones\": [\x7b\x7d]\x7d")]

theorem nested_remarks_readdressed_roster :
    ∃ outcome, (teamSchema.validate (.map roster)).result = .ok outcome ∧
      outcome.remarks.issues.map (·.path) =
        ["lead.phones[0].number", "members[0].phones[1].number", "members[1]"] ∧
      outcome.remarks.notices.map (·.path) = ["members[2].role"] ∧
      teamSchema.Reaches roster [⟨"members", some 0⟩, ⟨"phones", some 1⟩] phoneSchema [] ∧
      ∃ data own rs, teamSchema.outline.resolveAliases roster = .ok data ∧
        teamSchema.outline.ownPart (nestedFields teamSchema.nested) (Context.start data) =
          (own, none) ∧
        List.Forall₂ (fun b r => b.Says (Table.get? data b.name) r) teamSchema.nested rs ∧
        outcome.remarks =
          own.remarks ++ Remarks.all rs ++ teamSchema.outline.unknownRemarks data ∧
        ∀ hops t es, hops ≠ [] → (∀ hop ∈ hops, hop.name ≠ "$") →
          teamSchema.Reaches roster hops t es →
            ∃ inner, (t.validate (.map es)).result = .ok inner ∧
              (inner.remarks.under (Hop.address hops)).Among outcome.remarks ∧
              ∀ pre post, pre ≠ [] → post ≠ [] → hops = pre ++ post →
                inner.remarks.under (Hop.address hops) =
                  (inner.remarks.under (Hop.address post)).under (Hop.address pre) := by
  have hpaths : (teamSchema.validate (.map roster)).result.toOption.map (fun outcome =>
      (outcome.remarks.issues.map (·.path), outcome.remarks.notices.map (·.path))) =
      some (["lead.phones[0].number", "members[0].phones[1].number", "members[1]"],
        ["members[2].role"]) := by decide +kernel
  have hperson : Binding.mk "members" true personSchema ∈ teamSchema.nested :=
    List.mem_cons_of_mem _ List.mem_cons_self
  have hphone : Binding.mk "phones" true phoneSchema ∈ personSchema.nested := List.mem_cons_self
  have hreaches : teamSchema.Reaches roster [⟨"members", some 0⟩, ⟨"phones", some 1⟩] phoneSchema [] :=
    .element rfl hperson rfl (.plain (.list _)) rfl
      (.element rfl hphone rfl (.plain (.list _)) rfl (.here _ _))
  cases h : (teamSchema.validate (.map roster)).result with
  | error f =>
    rw [h] at hpaths
    cases hpaths
  | ok outcome =>
    rw [h] at hpaths
    obtain ⟨hissues, hnotices⟩ := Prod.mk.inj (Option.some.inj hpaths)
    exact ⟨outcome, rfl, hissues, hnotices, hreaches,
      nested_remarks_readdressed built_teamSchema h⟩

end Schema

end Intake
