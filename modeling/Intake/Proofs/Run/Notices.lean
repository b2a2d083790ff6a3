import Intake.Proofs.Run.Values

namespace Intake

open Context

namespace Action

mutual

/-- The notices that a step of a rule may give. -/
def notices : Action → List Notice
  | .report _ => []
  | .notify notice => [notice]
  | .raises _ => []
  | .cond _ yes no => noticesAll yes ++ noticesAll no

def noticesAll : List Action → List Notice
  | [] => []
  | a :: rest => notices a ++ noticesAll rest

end

end Action

/-- The notices that a rule may give. -/
def Rule.notices : Rule → List Notice
  | .script actions => Action.noticesAll actions
  | .together _ => []
  | .oneOf _ => []

namespace Validator

mutual

/-- The notices that a validator may give: those of its rules, as they are written there. -/
def notices : Validator → List Notice
  | .required _ => []
  | .constraint _ _ => []
  | .custom rule _ _ => rule.notices
  | .composite members => noticesAll members
  | .conditional _ member => notices member

def noticesAll : List Validator → List Notice
  | [] => []
  | v :: rest => notices v ++ noticesAll rest

end

end Validator

/-- A later state in which some of the given notices have been added, in their order, and no others. -/
def Context.Notes (ns : List Notice) (c d : Context) : Prop :=
  ∃ said, said.Sublist ns ∧ d.notices = c.notices ++ said

namespace Context

variable {c d e : Context} {ns ns' : List Notice}

theorem Notes.of_eq (h : d.notices = c.notices) (ns : List Notice) : Notes ns c d :=
  ⟨[], List.nil_sublist ns, h.trans (List.append_nil _).symm⟩

theorem Notes.mono (h : Notes ns c d) (hns : ns.Sublist ns') : Notes ns' c d := by
  obtain ⟨said, hsaid, hd⟩ := h
  exact ⟨said, hsaid.trans hns, hd⟩

theorem Notes.trans (h : Notes ns c d) (h' : Notes ns' d e) : Notes (ns ++ ns') c e := by
  obtain ⟨said, hsaid, hd⟩ := h
  obtain ⟨said', hsaid', he⟩ := h'
  exact ⟨said ++ said', hsaid.append hsaid', by rw [he, hd, List.append_assoc]⟩

end Context

mutual

theorem Action.notes_run (a : Action) (c : Context) : Notes a.notices c (a.run c).1 := by
  cases a with
  | report i => exact .of_eq (c := c) rfl _
  | notify n => exact ⟨[n], .refl _, rfl⟩
  | raises message => exact .of_eq rfl _
  | cond test yes no =>
    rw [Action.run, Action.notices]
    rcases test.eval c with message | b
    · exact .of_eq rfl _
    · cases b with
      | true => exact (Action.notes_runAll yes c).mono (List.sublist_append_left _ _)
      | false => exact (Action.notes_runAll no c).mono (List.sublist_append_right _ _)

theorem Action.notes_runAll (as : List Action) (c : Context) :
    Notes (Action.noticesAll as) c (Action.runAll as c).1 := by
  cases as with
  | nil => exact .of_eq rfl _
  | cons a rest =>
    have h := Action.notes_run a c
    rw [Action.runAll, Action.noticesAll]
    rcases hrun : a.run c with ⟨d, _ | message⟩
    · rw [hrun] at h
      exact h.trans (Action.notes_runAll rest d)
    · rw [hrun] at h
      exact h.mono (List.sublist_append_left _ _)

end

theorem Rule.notes_run (r : Rule) (c : Context) : Notes r.notices c (r.run c).1 := by
  cases r with
  | script actions => exact Action.notes_runAll actions c
  | together fields =>
    refine .of_eq ?_ _
    unfold Rule.run Rule.checkTogether
    dsimp only
    split_ifs <;> rfl
  | oneOf fields =>
    refine .of_eq ?_ _
    unfold Rule.run Rule.checkOneOf
    dsimp only
    split_ifs <;> rfl

namespace Validator

theorem notes_runRule (rule : Rule) (name field : String) (c : Context) :
    Notes rule.notices c (runRule rule name field c) := by
  have h := rule.notes_run c
  unfold runRule
  rcases hrun : rule.run c with ⟨d, _ | message⟩
  · rwa [hrun] at h
  · -- A rule that raises keeps what it has given by then.
    rw [hrun] at h
    exact h

mutual

theorem notes_run (v : Validator) (c : Context) : Notes v.notices c (v.run c).1 := by
  cases v with
  | required field =>
    refine .of_eq ?_ _
    rw [run]
    split_ifs <;> rfl
  | constraint field asked => exact .of_eq rfl _
  | custom rule name field => exact notes_runRule rule name field c
  | composite members => exact notes_runAll members c
  | conditional test member =>
    rw [run, notices]
    rcases test.eval c with message | b
    · exact .of_eq rfl _
    · cases b with
      | true => exact notes_run member c
      | false => exact .of_eq rfl _

/-- Validators give no notices but those written in their rules. -/
theorem notes_runAll (vs : List Validator) (c : Context) :
    Notes (noticesAll vs) c (runAll vs c).1 := by
  cases vs with
  | nil => exact .of_eq rfl _
  | cons v rest =>
    have h := notes_run v c
    rw [runAll, noticesAll]
    rcases hrun : v.run c with ⟨d, _ | f⟩
    · rw [hrun] at h
      exact h.trans (notes_runAll rest d)
    · rw [hrun] at h
      exact h.mono (List.sublist_append_left _ _)

end

end Validator

namespace Outline

variable {o : Outline} {nf : Table Bool} {many : Option Bool} {f : Field} {fs : List Field}
  {c d : Context} {data : Table Value}

/-- What is said while a field is gone through: which members of its value are left out, one notice for
each, and then what the rules of its validators give. -/
inductive Tells (o : Outline) (many : Option Bool) (data : Table Value) (f : Field) :
    List Notice → Prop where
  | value {v w : Value} {ps : List Position} {said : List Notice}
      (hv : Table.get? data f.name = some v) (hs : ¬isSkipped f v = true)
      (ht : o.typed many f v = .accepted w ps)
      (hsaid : said.Sublist (Validator.noticesAll f.validators)) :
      Tells o many data f (ps.map (dropped f.name f.type) ++ said)
  | nothing (h : ∀ v, Table.get? data f.name = some v → v ≠ .null → ¬isSkipped f v = true →
      o.typed many f v = .refused) : Tells o many data f []

/-- A field adds to the notices what it tells, whatever has been said before. -/
theorem tells_of_checkField (h : o.checkField many f c = (d, none)) :
    ∃ ns, o.Tells many c.data f ns ∧ d.notices = c.notices ++ ns := by
  have hnothing (hd : d.notices = c.notices)
      (ht : ∀ v, Table.get? c.data f.name = some v → v ≠ .null → ¬isSkipped f v = true →
        o.typed many f v = .refused) : ∃ ns, o.Tells many c.data f ns ∧ d.notices = c.notices ++ ns :=
    ⟨[], .nothing ht, by rw [hd, List.append_nil]⟩
  cases hv : Table.get? c.data f.name with
  | none =>
    rw [checkField_of_absent hv] at h
    refine hnothing ((Prod.mk.inj h).1 ▸ rfl) fun v hsent => ?_
    cases hv.symm.trans hsent
  | some v =>
    by_cases hn : v = .null
    · subst hn
      rw [checkField_of_null hv] at h
      refine hnothing ((Prod.mk.inj h).1 ▸ rfl) fun v hsent hn => ?_
      exact absurd (Option.some.inj (hv.symm.trans hsent)).symm hn
    by_cases hs : isSkipped f v = true
    · rw [checkField_of_skipped hv hn hs] at h
      refine hnothing ((Prod.mk.inj h).1 ▸ rfl) fun v' hsent _ hs' => ?_
      obtain rfl := Option.some.inj (hv.symm.trans hsent)
      exact absurd hs hs'
    rw [checkField_of_value hv hn hs] at h
    cases ht : o.typed many f v with
    | faulty fault =>
      rw [ht] at h
      cases (Prod.mk.inj h).2
    | refused =>
      rw [ht] at h
      refine hnothing ((Prod.mk.inj h).1 ▸ rfl) fun v' hsent _ _ => ?_
      obtain rfl := Option.some.inj (hv.symm.trans hsent)
      exact ht
    | accepted w ps =>
      rw [ht] at h
      dsimp only at h
      obtain ⟨said, hsaid, hd⟩ := Validator.notes_runAll f.validators (o.enter many f v w ps c)
      rw [h] at hd
      exact ⟨_, .value hv hs ht hsaid, by rw [hd, ← List.append_assoc]; rfl⟩

theorem notices_of_checkPresence (f : Field) (c : Context) :
    (checkPresence f c).1.notices = c.notices := by
  unfold checkPresence
  split_ifs <;> rfl

theorem tells_of_checkGroupField (h : o.checkGroupField f c = (d, none)) :
    ∃ ns, o.Tells none c.data f ns ∧ d.notices = c.notices ++ ns := by
  obtain ⟨e, hpresence, hfield⟩ := Step.andThen_eq_none_iff.mp h
  have hdata := (checkPresence_reports f c).data
  have hnotices := notices_of_checkPresence f c
  rw [hpresence] at hdata hnotices
  obtain ⟨ns, hns, hd⟩ := tells_of_checkField hfield
  exact ⟨ns, hdata ▸ hns, by rw [hd, hnotices]⟩

/-- Fields in turn: each adds what it tells, in the order of the fields. -/
theorem tells_of_all {step : Field → Step} (tells : Table Value → Field → List Notice → Prop)
    (hg : ∀ f ∈ fs, (step f).Growing)
    (hs : ∀ f ∈ fs, ∀ c d, step f c = (d, none) →
      ∃ ns, tells c.data f ns ∧ d.notices = c.notices ++ ns)
    (h : Step.all (fs.map step) c = (d, none)) :
    ∃ told, List.Forall₂ (tells c.data) fs told ∧ d.notices = c.notices ++ told.flatten := by
  induction fs generalizing c with
  | nil =>
    obtain rfl : c = d := (Prod.mk.inj h).1
    exact ⟨[], .nil, (List.append_nil _).symm⟩
  | cons f fs ih =>
    rw [List.map_cons, Step.all, Step.andThen_eq_none_iff] at h
    obtain ⟨e, hce, hed⟩ := h
    have hdata : e.data = c.data := (Step.grows_of_eq (hg f List.mem_cons_self) hce).data
    obtain ⟨ns, hns, he⟩ := hs f List.mem_cons_self c e hce
    obtain ⟨told, htold, hd⟩ := ih (fun g hm => hg g (List.mem_cons_of_mem _ hm))
      (fun g hm => hs g (List.mem_cons_of_mem _ hm)) hed
    refine ⟨ns :: told, .cons hns (hdata ▸ htold), ?_⟩
    rw [hd, he, List.flatten_cons, List.append_assoc]

theorem notices_of_checkPresences (fs : List Field) (c : Context) :
    (Step.all (fs.map checkPresence) c).1.notices = c.notices := by
  induction fs generalizing c with
  | nil => rfl
  | cons f fs ih =>
    have hf := notices_of_checkPresence f c
    rw [List.map_cons, Step.all]
    rcases hrun : checkPresence f c with ⟨d, _ | fault⟩
    · rw [Step.andThen_of_none hrun, ih d]
      rwa [hrun] at hf
    · rw [Step.andThen_of_some hrun]
      rwa [hrun] at hf

/-- Up to the groups the run says what its fields tell in turn, and what the rules of the schema give. -/
theorem tells_of_firstPart (h : o.firstPart nf (Context.start data) = (c, none)) :
    ∃ told said, List.Forall₂ (fun f ns => o.Tells (Table.get? nf f.name) data f ns) o.fields told ∧
      said.Sublist (Validator.noticesAll o.rules) ∧ c.notices = told.flatten ++ said := by
  obtain ⟨d, e, hpresence, hfields, hrules⟩ := firstPart_eq_none_iff.mp h
  have hd := notices_of_checkPresences o.fields (Context.start data)
  have hdata : d.data = data :=
    (Step.grows_of_eq (Step.growing_all_map growing_checkPresence o.fields) hpresence).data
  rw [hpresence] at hd
  obtain ⟨told, htold, he⟩ := tells_of_all
    (fun data f ns => o.Tells (Table.get? nf f.name) data f ns)
    (fun f _ => growing_checkField o (Table.get? nf f.name) f)
    (fun _ _ _ _ hf => tells_of_checkField hf) hfields
  obtain ⟨said, hsaid, hc⟩ := Validator.notes_runAll o.rules e
  rw [hrules] at hc
  refine ⟨told, said, hdata ▸ htold, hsaid, ?_⟩
  rw [hc, he, hd]
  rfl

theorem tells_of_groupFields (h : Step.all (fs.map o.checkGroupField) c = (d, none)) :
    ∃ told, List.Forall₂ (o.Tells none c.data) fs told ∧ d.notices = c.notices ++ told.flatten :=
  tells_of_all (o.Tells none) (fun f _ => growing_checkGroupField o f)
    (fun _ _ _ _ hf => tells_of_checkGroupField hf) h

end Outline

end Intake
