import Intake.Proofs.Run.Scripts

namespace Intake

open Context

namespace Step

variable {a b : Step} {c : Context}

theorem reports_andThen (hb : ∀ d : Context, d.Reports (b d).1) (c : Context) :
    (a c).1.Reports (andThen a b c).1 := by
  rcases h : a c with ⟨d, _ | f⟩
  · rw [andThen_of_none h]
    exact hb d
  · rw [andThen_of_some h]
    exact Reports.refl d

end Step

/-- The constraints that take every value as it comes. References and uploads are looked into. -/
def Constraint.IsBasic : Constraint → Prop
  | .length _ _ => True
  | .range _ _ => True
  | .enum _ => True
  | .pattern _ _ _ => True
  | .format _ _ _ _ => False
  | .upload _ => False

theorem Findings.fault_when (b : Bool) (i : Issue) : (Findings.when b i).fault = none := by
  cases b <;> rfl

theorem Constraint.fault_check_of_isBasic {k : Constraint} (hk : k.IsBasic) (path : String)
    (v : Value) : (k.check path v).fault = none := by
  cases k with
  | length min max =>
    rw [check, checkLength]
    cases size? v with
    | none => rfl
    | some n => exact Findings.fault_when _ _
  | range min max =>
    rw [check, checkRange.eq_def]
    split
    · exact Findings.fault_when _ _
    · exact Findings.fault_when _ _
    · rfl
  | enum allowed =>
    rw [check, checkEnum]
    split_ifs
    · rfl
    · exact Findings.fault_when _ _
  | pattern regex message p =>
    rw [check, checkPattern.eq_def]
    split
    · rfl
    · rfl
    · rfl
    · exact Findings.fault_when _ _
  | format name source message asked => exact absurd hk id
  | upload rules => exact absurd hk id

namespace Validator

variable {v w : Validator} {vs before after : List Validator} {c d e : Context} {f : Fault}
  {p : Constraint → Prop}

mutual

/-- The constraints of a validator, at any depth, are all of one kind. -/
def Uses (p : Constraint → Prop) : Validator → Prop
  | .required _ => True
  | .constraint _ k => p k
  | .custom _ _ _ => True
  | .composite members => UsesAll p members
  | .conditional _ member => Uses p member

def UsesAll (p : Constraint → Prop) : List Validator → Prop
  | [] => True
  | v :: rest => Uses p v ∧ UsesAll p rest

end

theorem usesAll_iff : UsesAll p vs ↔ ∀ v ∈ vs, v.Uses p := by
  induction vs with
  | nil => exact iff_of_true trivial fun _ h => absurd h List.not_mem_nil
  | cons v vs ih => rw [UsesAll, ih, List.forall_mem_cons]

/-- A validator that runs from a state comes to another one, itself or a part of it, in a state of its
own. -/
inductive Reaches : Validator → Context → Validator → Context → Prop where
  | here (v : Validator) (c : Context) : Reaches v c v c
  | member {before after : List Validator} {v w : Validator} {c d e : Context}
      (hbefore : runAll before c = (d, none)) (h : Reaches v d w e) :
      Reaches (.composite (before ++ v :: after)) c w e
  | held {test : Predicate} {v w : Validator} {c d : Context} (ht : test.eval c = .ok true)
      (h : Reaches v c w d) : Reaches (.conditional test v) c w d

/-- A validator stops a run by itself: its condition raises, or its constraint does. -/
inductive Breaks : Validator → Context → Fault → Prop where
  | test {test : Predicate} {member : Validator} {c : Context} {message : String}
      (h : test.eval c = .error message) :
      Breaks (.conditional test member) c (.scriptRaised message)
  | constraint {field : String} {k : Constraint} {c : Context} {f : Fault}
      (h : (k.check field (c.fieldValue field .null)).fault = some f) :
      Breaks (.constraint field k) c f

theorem runAll_append (vs ws : List Validator) :
    runAll (vs ++ ws) = Step.andThen (runAll vs) (runAll ws) := by
  induction vs with
  | nil => rfl
  | cons v vs ih => rw [List.cons_append, runAll_cons, ih, runAll_cons, Step.andThen_assoc]

theorem run_composite_of_before (hbefore : runAll before c = (d, none)) :
    (composite (before ++ v :: after)).run c = Step.andThen v.run (runAll after) d := by
  rw [run, runAll_append, Step.andThen_of_none hbefore, runAll_cons]

theorem run_conditional_of_held {test : Predicate} (ht : test.eval c = .ok true) :
    (conditional test v).run c = v.run c := by
  rw [run, ht]

namespace Reaches

theorem trans (h : v.Reaches c w d) {x : Validator} (h' : w.Reaches d x e) : v.Reaches c x e := by
  induction h with
  | here v c => exact h'
  | member hbefore _ ih => exact .member hbefore (ih h')
  | held ht _ ih => exact .held ht (ih h')

theorem uses (h : v.Reaches c w d) (hv : v.Uses p) : w.Uses p := by
  induction h with
  | here v c => exact hv
  | member hbefore _ ih =>
    exact ih (usesAll_iff.mp hv _ (List.mem_append_right _ List.mem_cons_self))
  | held ht _ ih => exact ih hv

theorem reports (h : v.Reaches c w d) : c.Reports d := by
  induction h with
  | here v c => exact Reports.refl c
  | @member before _ _ _ c _ _ hbefore _ ih =>
    have hd := runAll_reports before c
    rw [hbefore] at hd
    exact hd.trans ih
  | held ht _ ih => exact ih

/-- What a part of a validator leaves behind is added to, up to the end. -/
theorem reports_run (h : v.Reaches c w d) : (w.run d).1.Reports (v.run c).1 := by
  induction h with
  | here v c => exact Reports.refl _
  | member hbefore _ ih =>
    rw [run_composite_of_before hbefore]
    exact ih.trans (Step.reports_andThen (runAll_reports _) _)
  | held ht _ ih => rwa [run_conditional_of_held ht]

/-- Where a part of a validator is stopped, the run ends. -/
theorem run_eq_of_stopped (h : v.Reaches c w d) (hw : w.run d = (e, some f)) :
    v.run c = (e, some f) := by
  induction h with
  | here v c => exact hw
  | member hbefore _ ih => rw [run_composite_of_before hbefore, Step.andThen_of_some (ih hw)]
  | held ht _ ih => rw [run_conditional_of_held ht, ih hw]

end Reaches

theorem Breaks.run (h : w.Breaks d f) : (w.run d).2 = some f := by
  cases h with
  | test h => rw [Validator.run, h]
  | constraint h => exact h

mutual

theorem exists_breaks_run (v : Validator) (c : Context) (h : (v.run c).2 = some f) :
    ∃ w d, v.Reaches c w d ∧ w.Breaks d f := by
  cases v with
  | required field =>
    rw [run] at h
    split_ifs at h
  | constraint field k => exact ⟨_, c, .here _ c, .constraint h⟩
  | custom rule name field => cases h
  | composite members =>
    obtain ⟨before, v, after, d, rfl, hbefore, w, e, hreaches, hbreaks⟩ :=
      exists_breaks_runAll members c h
    exact ⟨w, e, .member hbefore hreaches, hbreaks⟩
  | conditional test member =>
    rw [run] at h
    cases ht : test.eval c with
    | error message =>
      rw [ht] at h
      obtain rfl := Option.some.inj h
      exact ⟨_, c, .here _ c, .test ht⟩
    | ok b =>
      rw [ht] at h
      cases b with
      | true =>
        obtain ⟨w, d, hreaches, hbreaks⟩ := exists_breaks_run member c h
        exact ⟨w, d, .held ht hreaches, hbreaks⟩
      | false => cases h

theorem exists_breaks_runAll (vs : List Validator) (c : Context) (h : (runAll vs c).2 = some f) :
    ∃ before v after d, vs = before ++ v :: after ∧ runAll before c = (d, none) ∧
      ∃ w e, v.Reaches d w e ∧ w.Breaks e f := by
  cases vs with
  | nil => cases h
  | cons v rest =>
    rcases hrun : v.run c with ⟨d, _ | g⟩
    · rw [runAll_cons, Step.andThen_of_none hrun] at h
      obtain ⟨before, u, after, e, rfl, hbefore, hstop⟩ := exists_breaks_runAll rest d h
      refine ⟨v :: before, u, after, e, rfl, ?_, hstop⟩
      rw [runAll_cons, Step.andThen_of_none hrun, hbefore]
    · rw [runAll_cons, Step.andThen_of_some hrun] at h
      have hv : (v.run c).2 = some f := by rw [hrun]; exact h
      exact ⟨[], v, rest, c, rfl, rfl, exists_breaks_run v c hv⟩

end

/-- A run is stopped just where it comes to a validator that stops it by itself. -/
theorem stopped_iff (v : Validator) (c : Context) (f : Fault) :
    (v.run c).2 = some f ↔ ∃ w d, v.Reaches c w d ∧ w.Breaks d f := by
  refine ⟨exists_breaks_run v c, fun ⟨w, d, hreaches, hbreaks⟩ => ?_⟩
  have hw : w.run d = ((w.run d).1, some f) := Prod.ext rfl hbreaks.run
  rw [hreaches.run_eq_of_stopped hw]

/-- Validators whose constraints take every value are stopped by conditions alone: a run ends where it
comes to one that raises, in the state in which it was asked. -/
theorem run_eq_some_iff (hv : v.Uses Constraint.IsBasic) :
    v.run c = (d, some f) ↔ ∃ test member message, v.Reaches c (.conditional test member) d ∧
      test.eval d = .error message ∧ f = .scriptRaised message := by
  constructor
  · intro h
    obtain ⟨w, e, hreaches, hbreaks⟩ := (stopped_iff v c f).mp (by rw [h])
    cases hbreaks with
    | @test test member _ message ht =>
      have hrun : (conditional test member).run e = (e, some (.scriptRaised message)) := by
        rw [run, ht]
      obtain rfl : e = d :=
        (Prod.mk.inj ((hreaches.run_eq_of_stopped hrun).symm.trans h)).1
      exact ⟨test, member, message, hreaches, ht, rfl⟩
    | constraint hk =>
      cases (Constraint.fault_check_of_isBasic (hreaches.uses hv) _ _).symm.trans hk
  · rintro ⟨test, member, message, hreaches, ht, rfl⟩
    apply hreaches.run_eq_of_stopped
    rw [run, ht]

/-- A validator with several members that is not stopped comes to each, in the state that those before it
leave. -/
theorem reaches_member (hrun : ((composite (before ++ v :: after)).run c).2 = none) :
    ∃ d, runAll before c = (d, none) ∧ (composite (before ++ v :: after)).Reaches c v d := by
  rcases hbefore : runAll before c with ⟨d, _ | f⟩
  · exact ⟨d, rfl, .member hbefore (.here v d)⟩
  · rw [run, runAll_append, Step.andThen_of_some hbefore] at hrun
    cases hrun

theorem Reaches.not_stopped (h : v.Reaches c w d) (hv : (v.run c).2 = none) : (w.run d).2 = none := by
  rcases hw : w.run d with ⟨e, _ | f⟩
  · rfl
  · rw [h.run_eq_of_stopped hw] at hv
    cases hv

/-- What a rule says is found again at the end of the run, and that it raised right after it. -/
theorem Reaches.issues_rule {rule : Rule} {name field : String} {r : Remarks} {stop? : Option String}
    (h : v.Reaches c (.custom rule name field) d) (hrule : rule.Performs d r stop?) :
    d.issues ++ r.issues ++ stop?.toList.map (raised name field) <+: (v.run c).1.issues := by
  have hissues : ((custom rule name field).run d).1.issues =
      d.issues ++ r.issues ++ stop?.toList.map (raised name field) :=
    congrArg Remarks.issues (remarks_runRule hrule name field)
  rw [← hissues]
  exact h.reports_run.issues

/-- Rules that raise are kept apart from the run, conditions that raise are not: a run is stopped just
where it comes to such a condition. Otherwise all members of a composite have their turn, and every raise
of a rule is reported where it happened. -/
theorem stops_only_at_raising_test (hv : v.Uses Constraint.IsBasic) (c : Context) :
    (∀ d f, v.run c = (d, some f) ↔ ∃ test member message,
      v.Reaches c (.conditional test member) d ∧ test.eval d = .error message ∧
        f = .scriptRaised message) ∧
    ((v.run c).2 = none → ∀ before w after d, v.Reaches c (.composite (before ++ w :: after)) d →
      ∃ e, runAll before d = (e, none) ∧ v.Reaches c w e) ∧
    ∀ rule name field d r message, v.Reaches c (.custom rule name field) d →
      rule.Performs d r (some message) →
        d.issues ++ r.issues ++ [raised name field message] <+: (v.run c).1.issues := by
  refine ⟨fun d f => run_eq_some_iff hv, ?_, ?_⟩
  · intro hrun before w after d hreaches
    obtain ⟨e, hbefore, hmember⟩ := reaches_member (hreaches.not_stopped hrun)
    exact ⟨e, hbefore, hreaches.trans hmember⟩
  · intro rule name field d r message hreaches hrule
    exact hreaches.issues_rule hrule

/-- An order is looked up in stock, its rate is asked for, and there has to be an address. -/
def stockCheck : Validator := .custom (.script [.raises "no stock"]) "stock" "item"

def rateCheck : Validator := .conditional (.raises "no rates") (.required "rate")

def orderCheck : Validator := .composite [stockCheck, rateCheck, .required "email"]

/-- The stock that cannot be looked up is reported and the rate is asked for after it, but the address is
not: the condition on the rate ends the run. -/
theorem stops_only_at_raising_test_order :
    orderCheck.Uses Constraint.IsBasic ∧
      orderCheck.run (start []) = ((stockCheck.run (start [])).1, some (.scriptRaised "no rates")) ∧
      [raised "stock" "item" "no stock"] <+: (orderCheck.run (start [])).1.issues ∧
      ∃ e, runAll [stockCheck] (start []) = (e, none) ∧
        (composite [stockCheck, required "email"]).Reaches (start []) (required "email") e := by
  have hv : orderCheck.Uses Constraint.IsBasic := ⟨trivial, trivial, trivial, trivial⟩
  have hw : (composite [stockCheck, required "email"]).Uses Constraint.IsBasic :=
    ⟨trivial, trivial, trivial⟩
  obtain ⟨hstops, -, hraised⟩ := stops_only_at_raising_test hv (start [])
  obtain ⟨-, hreaches, -⟩ := stops_only_at_raising_test hw (start [])
  refine ⟨hv, ?_, ?_, ?_⟩
  · exact (hstops _ _).mpr ⟨.raises "no rates", .required "rate", "no rates",
      @Reaches.member [stockCheck] _ _ _ _ _ _ rfl (.here _ _), rfl, rfl⟩
  · exact hraised (.script [.raises "no stock"]) "stock" "item" (start []) .none "no stock"
      (@Reaches.member [] _ _ _ _ _ _ rfl (.here _ _)) (.script (.raises _ _ _))
  · exact hreaches rfl [stockCheck] (required "email") [] (start []) (.here _ _)

/-- Validators add to what has been said and leave the rest of the state alone, whether they come to
their end or are stopped. A rule of one's own, wherever it stands, adds what its steps say up to where they
stop, then one issue more exactly if they raise. -/
theorem run_adds_only (v : Validator) (c : Context) :
    c.Reports (v.run c).1 ∧
    ∀ rule name field d, v.Reaches c (.custom rule name field) d →
      (∃ r stop?, rule.Performs d r stop?) ∧
      ∀ r stop?, rule.Performs d r stop? →
        ((custom rule name field).run d).2 = none ∧
        ((custom rule name field).run d).1.remarks =
          d.remarks ++ r ++ ⟨stop?.toList.map (raised name field), []⟩ ∧
        c.Reports d ∧ ((custom rule name field).run d).1.Reports (v.run c).1 := by
  refine ⟨run_reports v c, fun rule name field d hreaches => ?_⟩
  obtain ⟨r, stop?, hrule, -⟩ := rule.performs_run d
  refine ⟨⟨r, stop?, hrule⟩, fun r stop? hrule => ?_⟩
  exact ⟨rfl, remarks_runRule hrule name field, hreaches.reports, hreaches.reports_run⟩

/-- A delivery is held back, and cannot be arranged, as long as something is wrong. -/
def holdBack : Notice := ⟨"item", "Held back", Code.warning.text⟩

def arrangement : Rule :=
  .script [.cond .hasIssues [.notify holdBack, .raises "no carrier"] [], .report (.required "date")]

def deliveryCheck : Validator :=
  .conditional (.exists "item") (.composite [.required "email", .custom arrangement "delivery" "item"])

/-- The address that is missing is reported, then the delivery that is held back, then that it cannot be
arranged, and the date is not asked for any more. -/
theorem run_adds_only_delivery :
    let c := start [("item", .text "pen")]
    let d := c.addIssue (.required "email")
    deliveryCheck.Reaches c (.custom arrangement "delivery" "item") d ∧
      arrangement.Performs d ⟨[], [holdBack]⟩ (some "no carrier") ∧
      ((custom arrangement "delivery" "item").run d).1.remarks =
        ⟨[.required "email", raised "delivery" "item" "no carrier"], [holdBack]⟩ ∧
      ((custom arrangement "delivery" "item").run d).1.Reports (deliveryCheck.run c).1 := by
  intro c d
  have hreaches : deliveryCheck.Reaches c (.custom arrangement "delivery" "item") d :=
    .held rfl (@Reaches.member [.required "email"] _ _ _ _ _ _ rfl (.here _ _))
  have hrule : arrangement.Performs d ⟨[], [holdBack]⟩ (some "no carrier") :=
    .script (.taken rfl (.notify _ (.raises _ _ _)))
  obtain ⟨-, hrun⟩ := (run_adds_only deliveryCheck c).2 arrangement "delivery" "item" d hreaches
  obtain ⟨-, hremarks, -, hreports⟩ := hrun _ _ hrule
  exact ⟨hreaches, hrule, hremarks, hreports⟩

end Validator

end Intake
