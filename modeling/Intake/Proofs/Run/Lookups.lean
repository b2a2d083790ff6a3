import Intake.Proofs.Run.Check

namespace Intake

open Context

/-- The same stands under these names in both tables. -/
def Table.AgreeOn {α : Type} (names : List String) (t u : Table α) : Prop :=
  ∀ n ∈ names, Table.get? t n = Table.get? u n

theorem Table.AgreeOn.mono {α : Type} {names others : List String} {t u : Table α}
    (h : AgreeOn others t u) (hsub : names ⊆ others) : AgreeOn names t u :=
  fun n hn => h n (hsub hn)

namespace Context

variable {c : Context} {data : Table Value} {n : String}

/-- The state of the run with other data. -/
def given (c : Context) (data : Table Value) : Context := { c with data := data }

theorem given_self (c : Context) : c.given c.data = c := rfl

theorem hasField_given (h : Table.get? data n = Table.get? c.data n) :
    (c.given data).hasField n = c.hasField n := by
  unfold hasField Table.has
  rw [← h]
  rfl

theorem rawValue_given (h : Table.get? data n = Table.get? c.data n) (v : Value) :
    (c.given data).rawValue n v = c.rawValue n v := by
  unfold rawValue
  rw [← h]
  rfl

theorem fieldValue_given (h : Table.get? data n = Table.get? c.data n) (v : Value) :
    (c.given data).fieldValue n v = c.fieldValue n v := by
  unfold fieldValue
  rw [rawValue_given h]
  rfl

/-- A part of a run that looks at the data under these names and nowhere else, and does not change
it. -/
def LooksUp {ε : Type} (names : List String) (run : Context → Context × Option ε) : Prop :=
  ∀ (c : Context) (data : Table Value), Table.AgreeOn names data c.data →
    run (c.given data) = ((run c).1.given data, (run c).2)

variable {ε : Type} {names others : List String} {run : Context → Context × Option ε}

theorem LooksUp.mono (h : LooksUp names run) (hsub : names ⊆ others) : LooksUp others run :=
  fun c data hdata => h c data (hdata.mono hsub)

/-- Two parts in turn, of which the second takes place where the first has not stopped. -/
theorem LooksUp.andThen {a b : Step} (ha : LooksUp names a) (hgrow : a.Growing)
    (hb : LooksUp others b) : LooksUp (names ++ others) (Step.andThen a b) := by
  intro c data hdata
  have hrun := ha c data (hdata.mono (List.subset_append_left _ _))
  have hkept := (hgrow c).data
  rcases hac : a c with ⟨d, _ | f⟩
  · rw [hac] at hrun hkept
    rw [Step.andThen_of_none hac, Step.andThen_of_none hrun]
    exact hb d data (hkept ▸ hdata.mono (List.subset_append_right _ _))
  · rw [hac] at hrun
    rw [Step.andThen_of_some hac, Step.andThen_of_some hrun]

theorem looksUp_done : LooksUp [] Step.done := fun _ _ _ => rfl

theorem looksUp_all_map {α : Type} {step : α → Step} {reads : α → List String} {xs : List α}
    (hgrow : ∀ x, (step x).Growing) (h : ∀ x, LooksUp (reads x) (step x)) :
    LooksUp (xs.flatMap reads) (Step.all (xs.map step)) := by
  induction xs with
  | nil => exact looksUp_done
  | cons x xs ih => exact (h x).andThen (hgrow x) ih

end Context

/-- The names under which a condition looks at a payload. -/
def Predicate.reads : Predicate → List String
  | .exists field => [field]
  | .value field _ => [field]
  | .raw field _ => [field]
  | .hasIssues => []
  | .hasIssueFor _ => []
  | .not p => p.reads
  | .less first second => [first, second]
  | .raises _ => []

theorem Predicate.eval_given {c : Context} {data : Table Value} (p : Predicate)
    (h : Table.AgreeOn p.reads data c.data) : p.eval (c.given data) = p.eval c := by
  induction p with
  | «exists» field => rw [eval, eval, hasField_given (h field List.mem_cons_self)]
  | value field expected => rw [eval, eval, fieldValue_given (h field List.mem_cons_self)]
  | raw field expected => rw [eval, eval, rawValue_given (h field List.mem_cons_self)]
  | hasIssues => rfl
  | hasIssueFor path => rfl
  | not p ih => rw [eval, eval, ih h]
  | less first second =>
    have hfirst := h first List.mem_cons_self
    have hsecond := h second (List.mem_cons_of_mem _ List.mem_cons_self)
    rw [eval, eval, fieldValue_given hfirst, fieldValue_given hsecond]
  | raises message => rfl

namespace Action

mutual

def reads : Action → List String
  | .report _ => []
  | .notify _ => []
  | .raises _ => []
  | .cond test yes no => test.reads ++ (readsAll yes ++ readsAll no)

def readsAll : List Action → List String
  | [] => []
  | a :: rest => reads a ++ readsAll rest

end

mutual

theorem looksUp_run (a : Action) : LooksUp a.reads a.run := by
  intro c data h
  cases a with
  | report i => rfl
  | notify n => rfl
  | raises message => rfl
  | cond test yes no =>
    rw [reads] at h
    rw [run, run, test.eval_given (h.mono (List.subset_append_left _ _))]
    have hboth := h.mono (List.subset_append_right _ _)
    rcases test.eval c with message | b
    · rfl
    · cases b with
      | true => exact looksUp_runAll yes c data (hboth.mono (List.subset_append_left _ _))
      | false => exact looksUp_runAll no c data (hboth.mono (List.subset_append_right _ _))

theorem looksUp_runAll (as : List Action) : LooksUp (readsAll as) (runAll as) := by
  intro c data h
  cases as with
  | nil => rfl
  | cons a rest =>
    rw [readsAll] at h
    have hrun := looksUp_run a c data (h.mono (List.subset_append_left _ _))
    have hkept := (run_reports a c).data
    rw [runAll, runAll, hrun]
    rcases ha : a.run c with ⟨d, _ | message⟩
    · rw [ha] at hkept
      exact looksUp_runAll rest d data (hkept ▸ h.mono (List.subset_append_right _ _))
    · rfl

end

end Action

namespace Rule

variable {fields : List String} {c : Context} {data : Table Value}

def reads : Rule → List String
  | .script actions => Action.readsAll actions
  | .together fields => fields
  | .oneOf fields => fields

theorem checkTogether_given (h : Table.AgreeOn fields data c.data) :
    checkTogether fields (c.given data) = (checkTogether fields c).given data := by
  have hpresent : fields.filter (fun f => !((c.given data).rawValue f .null).isBlank) =
      fields.filter fun f => !(c.rawValue f .null).isBlank :=
    List.filter_congr fun f hf => by rw [rawValue_given (h f hf)]
  unfold checkTogether
  simp only [hpresent]
  split_ifs <;> rfl

theorem checkOneOf_given (h : Table.AgreeOn fields data c.data) :
    checkOneOf fields (c.given data) = (checkOneOf fields c).given data := by
  have hblank : (fields.all fun f => ((c.given data).rawValue f .null).isBlank) =
      fields.all fun f => (c.rawValue f .null).isBlank := by
    rw [Bool.eq_iff_iff, List.all_eq_true, List.all_eq_true]
    exact forall₂_congr fun f hf => by rw [rawValue_given (h f hf)]
  unfold checkOneOf
  simp only [hblank]
  split_ifs <;> rfl

theorem looksUp_run (r : Rule) : LooksUp r.reads r.run := by
  intro c data h
  cases r with
  | script actions => exact Action.looksUp_runAll actions c data h
  | together fields => exact Prod.ext (checkTogether_given h) rfl
  | oneOf fields => exact Prod.ext (checkOneOf_given h) rfl

end Rule

namespace Validator

mutual

/-- The names under which a validator looks at a payload. -/
def reads : Validator → List String
  | .required field => [field]
  | .constraint field _ => [field]
  | .custom rule _ _ => rule.reads
  | .composite members => readsAll members
  | .conditional test member => test.reads ++ reads member

def readsAll : List Validator → List String
  | [] => []
  | v :: rest => reads v ++ readsAll rest

end

theorem runRule_given {rule : Rule} {c : Context} {data : Table Value}
    (h : Table.AgreeOn rule.reads data c.data) (name field : String) :
    runRule rule name field (c.given data) = (runRule rule name field c).given data := by
  have hrun : rule.run (c.given data) = ((rule.run c).1.given data, (rule.run c).2) :=
    rule.looksUp_run c data h
  unfold runRule
  rw [hrun]
  rcases rule.run c with ⟨d, _ | message⟩ <;> rfl

mutual

theorem looksUp_run (v : Validator) : LooksUp v.reads v.run := by
  intro c data h
  cases v with
  | required field =>
    rw [run, run, rawValue_given (h field List.mem_cons_self)]
    split_ifs <;> rfl
  | constraint field asked =>
    rw [run, run, fieldValue_given (h field List.mem_cons_self)]
    rfl
  | custom rule name field =>
    rw [run, run, runRule_given h]
  | composite members => exact looksUp_runAll members c data h
  | conditional test member =>
    rw [reads] at h
    rw [run, run, test.eval_given (h.mono (List.subset_append_left _ _))]
    rcases test.eval c with message | b
    · rfl
    · cases b with
      | true => exact looksUp_run member c data (h.mono (List.subset_append_right _ _))
      | false => rfl

theorem looksUp_runAll (vs : List Validator) : LooksUp (readsAll vs) (runAll vs) := by
  intro c data h
  cases vs with
  | nil => rfl
  | cons v rest =>
    rw [readsAll] at h
    have hrun := looksUp_run v c data (h.mono (List.subset_append_left _ _))
    have hkept := (run_reports v c).data
    rw [runAll, runAll, hrun]
    rcases hv : v.run c with ⟨d, _ | f⟩
    · rw [hv] at hkept
      exact looksUp_runAll rest d data (hkept ▸ h.mono (List.subset_append_right _ _))
    · rfl

end

end Validator

/-- The names under which the check of a field looks at a payload: its own and those its validators
read. -/
def Field.reads (f : Field) : List String := f.name :: Validator.readsAll f.validators

namespace Outline

variable {o : Outline} {f : Field}

theorem looksUp_checkPresence (f : Field) : LooksUp [f.name] (checkPresence f) := by
  intro c data h
  have hmissing : isMissing data f.name = isMissing c.data f.name := by
    rw [isMissing, isMissing, h f.name List.mem_cons_self]
  unfold checkPresence given
  simp only [hmissing]
  split_ifs <;> rfl

theorem looksUp_checkField (o : Outline) (many : Option Bool) (f : Field) :
    LooksUp f.reads (o.checkField many f) := by
  intro c data h
  have hval : Table.get? (c.given data).data f.name = Table.get? c.data f.name :=
    h f.name List.mem_cons_self
  cases hv : Table.get? c.data f.name with
  | none =>
    rw [checkField_of_absent hv, checkField_of_absent (hval.trans hv)]
  | some v =>
    by_cases hn : v = .null
    · subst hn
      rw [checkField_of_null hv, checkField_of_null (hval.trans hv)]
      rfl
    by_cases hs : isSkipped f v = true
    · rw [checkField_of_skipped hv hn hs, checkField_of_skipped (hval.trans hv) hn hs]
    rw [checkField_of_value hv hn hs, checkField_of_value (hval.trans hv) hn hs]
    cases o.typed many f v with
    | faulty fault => rfl
    | refused => rfl
    | accepted w ps =>
      exact Validator.looksUp_runAll f.validators (o.enter many f v w ps c) data
        (h.mono (List.subset_cons_self _ _))

theorem looksUp_checkGroupField (o : Outline) (f : Field) :
    LooksUp f.reads (o.checkGroupField f) := by
  have h := (looksUp_checkPresence f).andThen (growing_checkPresence f) (looksUp_checkField o none f)
  refine h.mono fun n hn => ?_
  rcases List.mem_append.mp hn with hn | hn
  · exact List.mem_singleton.mp hn ▸ List.mem_cons_self
  · exact hn

/-- The names under which the part of a run that is the same for every payload looks at one. -/
def ownReads (o : Outline) : List String :=
  o.fields.flatMap Field.reads ++ Validator.readsAll o.rules

theorem looksUp_firstPart (o : Outline) (nf : Table Bool) : LooksUp o.ownReads (o.firstPart nf) := by
  have hpresence : LooksUp _ (Step.all (o.fields.map checkPresence)) :=
    looksUp_all_map growing_checkPresence looksUp_checkPresence
  have hfields : LooksUp (o.fields.flatMap Field.reads) _ :=
    looksUp_all_map (fun f => growing_checkField o (Table.get? nf f.name) f)
      fun f => looksUp_checkField o _ f
  have hgrow := Step.growing_all_map (fun f => growing_checkField o (Table.get? nf f.name) f) o.fields
  have h := hpresence.andThen (Step.growing_all_map growing_checkPresence o.fields)
    (hfields.andThen hgrow (Validator.looksUp_runAll o.rules))
  refine h.mono fun n hn => ?_
  rcases List.mem_append.mp hn with hn | hn
  · obtain ⟨f, hf, hname⟩ := List.mem_flatMap.mp hn
    apply List.mem_append_left
    exact List.mem_flatMap.mpr ⟨f, hf, List.mem_singleton.mp hname ▸ List.mem_cons_self⟩
  · exact hn

theorem activeGroups_given {c : Context} {data : Table Value}
    (h : Table.AgreeOn (o.groups.map (·.trigger)) data c.data) :
    o.activeGroups (c.given data) = o.activeGroups c := by
  apply List.filter_congr
  intro g hg
  have htrigger : Table.get? (c.given data).data g.trigger = Table.get? c.data g.trigger :=
    h g.trigger (List.mem_map_of_mem hg)
  unfold Group.isActive
  rw [htrigger]
  rfl

end Outline

namespace Schema

variable {c : Context}

theorem merge_given (path : String) (r : Verdict) (c : Context) (data : Table Value) :
    merge path r (c.given data) = ((merge path r c).1.given data, (merge path r c).2) := by
  unfold merge
  rcases r with ⟨_ | (_ | _), _⟩ <;> rfl

theorem mergeElements_given (name : String) (check : Value → Verdict) (i : Nat) (vs : List Value)
    (c : Context) (data : Table Value) :
    mergeElements name check i vs (c.given data) =
      ((mergeElements name check i vs c).1.given data, (mergeElements name check i vs c).2) := by
  induction vs generalizing i c with
  | nil => rfl
  | cons v rest ih =>
    by_cases hv : ∃ entries, v = .map entries
    · obtain ⟨entries, rfl⟩ := hv
      rw [mergeElements_of_map, mergeElements_of_map, merge_given]
      rcases merge (name ++ "[" ++ toString i ++ "]") (check (.map entries)) c with ⟨d, f | w⟩
      · rfl
      · simp only [ih]
    · rw [mergeElements_of_not_map (not_exists.mp hv), mergeElements_of_not_map (not_exists.mp hv)]
      exact ih (i + 1) (c.addIssue _)

end Schema

/-- A nested check looks at the typed value of its field and not at the data. -/
theorem Binding.looksUp_check (b : Binding) : LooksUp [] b.check := by
  intro c data _
  cases hv : Table.get? c.coerced b.name with
  | none => rw [check_of_absent hv, check_of_absent (c := c.given data) hv]
  | some v =>
    by_cases hn : v = .null
    · subst hn
      rw [check_of_null hv, check_of_null (c := c.given data) hv]
    by_cases hm : b.many = true
    · by_cases hlist : ∃ vs, v = .list vs
      · obtain ⟨vs, rfl⟩ := hlist
        rw [check_of_list hv hm, check_of_list (c := c.given data) hv hm, Schema.mergeElements_given]
        rcases Schema.mergeElements b.name b.schema.validate 0 vs c with ⟨d, f | ws⟩ <;> rfl
      · have hlist := not_exists.mp hlist
        rw [check_of_not_list hv hm hlist, check_of_not_list (c := c.given data) hv hm hlist]
    · rw [check_of_one hv hn hm, check_of_one (c := c.given data) hv hn hm, Schema.merge_given]
      rcases Schema.merge b.name (b.schema.validate v) c with ⟨d, f | w⟩ <;> rfl

theorem Binding.looksUp_checkBindings (bs : List Binding) : LooksUp [] (Schema.checkBindings bs) := by
  rw [checkBindings_eq_all]
  exact (looksUp_all_map growing_check looksUp_check).mono (by simp)

end Intake
