import Intake.Proofs.Run.Effects

namespace Intake

open Context

namespace Context

variable (c : Context) (r s : Remarks) (es fs : List Event)

theorem adding_none : c.adding .none [] = c := by
  simp [adding, Remarks.none]

theorem adding_adding : (c.adding r es).adding s fs = c.adding (r ++ s) (es ++ fs) := by
  simp [adding, List.append_assoc]

theorem addIssue_eq_adding (i : Issue) : c.addIssue i = c.adding ⟨[i], []⟩ [] := by
  simp [adding, addIssue]

theorem addIssues_eq_adding (is : List Issue) : c.addIssues is = c.adding ⟨is, []⟩ [] := by
  simp [adding, addIssues]

theorem addNotice_eq_adding (n : Notice) : c.addNotice n = c.adding ⟨[], [n]⟩ [] := by
  simp [adding, addNotice]

end Context

namespace Action

variable {as bs : List Action} {a : Action} {c : Context} {r s : Remarks} {message : String}
  {stop? stop'? : Option String}

/-- What the steps of a script say from a state on, and the message with which they stop before their
end if they do. The steps of a branch that is taken stand in front of those that follow it. -/
inductive Performs : List Action → Context → Remarks → Option String → Prop where
  | done (c : Context) : Performs [] c .none none
  | report {rest : List Action} {c : Context} {r : Remarks} {stop? : Option String} (i : Issue)
      (h : Performs rest (c.addIssue i) r stop?) :
      Performs (.report i :: rest) c (⟨[i], []⟩ ++ r) stop?
  | notify {rest : List Action} {c : Context} {r : Remarks} {stop? : Option String} (n : Notice)
      (h : Performs rest (c.addNotice n) r stop?) :
      Performs (.notify n :: rest) c (⟨[], [n]⟩ ++ r) stop?
  | raises (message : String) (rest : List Action) (c : Context) :
      Performs (.raises message :: rest) c .none (some message)
  | undecided {test : Predicate} {c : Context} {message : String} (yes no rest : List Action)
      (ht : test.eval c = .error message) :
      Performs (.cond test yes no :: rest) c .none (some message)
  | taken {test : Predicate} {yes no rest : List Action} {c : Context} {r : Remarks}
      {stop? : Option String} (ht : test.eval c = .ok true) (h : Performs (yes ++ rest) c r stop?) :
      Performs (.cond test yes no :: rest) c r stop?
  | passedOver {test : Predicate} {yes no rest : List Action} {c : Context} {r : Remarks}
      {stop? : Option String} (ht : test.eval c = .ok false) (h : Performs (no ++ rest) c r stop?) :
      Performs (.cond test yes no :: rest) c r stop?

/-- After a step that stops none is taken. -/
theorem Performs.append_of_some (h : Performs as c r (some message)) (bs : List Action) :
    Performs (as ++ bs) c r (some message) := by
  generalize hstop : some message = stop? at h
  induction h with
  | done c => cases hstop
  | report i _ ih => exact .report i (ih hstop)
  | notify n _ ih => exact .notify n (ih hstop)
  | raises m rest c => exact .raises m _ c
  | undecided yes no rest ht => exact .undecided yes no _ ht
  | taken ht _ ih => exact .taken ht (List.append_assoc .. ▸ ih hstop)
  | passedOver ht _ ih => exact .passedOver ht (List.append_assoc .. ▸ ih hstop)

/-- Steps that come to their end are followed by the next ones, from the state that they leave. -/
theorem Performs.append_of_none (h : Performs as c r none)
    (h' : Performs bs (c.adding r []) s stop?) : Performs (as ++ bs) c (r ++ s) stop? := by
  -- The induction is on the steps that come to their end: what they say moves into the state.
  generalize hstop : none = stop'? at h
  induction h with
  | done c => rwa [adding_none] at h'
  | report i _ ih =>
    rw [Remarks.append_assoc]
    refine .report i (ih ?_ hstop)
    rwa [addIssue_eq_adding, adding_adding, List.append_nil]
  | notify n _ ih =>
    rw [Remarks.append_assoc]
    refine .notify n (ih ?_ hstop)
    rwa [addNotice_eq_adding, adding_adding, List.append_nil]
  | raises m rest c => cases hstop
  | undecided yes no rest ht => cases hstop
  | taken ht _ ih => exact .taken ht (List.append_assoc .. ▸ ih h' hstop)
  | passedOver ht _ ih => exact .passedOver ht (List.append_assoc .. ▸ ih h' hstop)

/-- The steps of a script and the state that they start from leave nothing open. -/
theorem Performs.unique (h : Performs as c r stop?) (h' : Performs as c s stop'?) :
    s = r ∧ stop'? = stop? := by
  induction h generalizing s with
  | done c =>
    cases h'
    exact ⟨rfl, rfl⟩
  | report i _ ih =>
    cases h' with
    | report _ h' =>
      obtain ⟨rfl, rfl⟩ := ih h'
      exact ⟨rfl, rfl⟩
  | notify n _ ih =>
    cases h' with
    | notify _ h' =>
      obtain ⟨rfl, rfl⟩ := ih h'
      exact ⟨rfl, rfl⟩
  | raises m rest c =>
    cases h'
    exact ⟨rfl, rfl⟩
  | undecided yes no rest ht =>
    cases h' with
    | undecided _ _ _ ht' => exact ⟨rfl, congrArg some (Except.error.inj (ht'.symm.trans ht))⟩
    | taken ht' _ => cases ht'.symm.trans ht
    | passedOver ht' _ => cases ht'.symm.trans ht
  | taken ht _ ih =>
    cases h' with
    | undecided _ _ _ ht' => cases ht'.symm.trans ht
    | taken _ h' => exact ih h'
    | passedOver ht' _ => cases ht'.symm.trans ht
  | passedOver ht _ ih =>
    cases h' with
    | undecided _ _ _ ht' => cases ht'.symm.trans ht
    | taken ht' _ => cases ht'.symm.trans ht
    | passedOver _ h' => exact ih h'

mutual

/-- A step leaves the state with what it says added to it. -/
theorem performs_run (a : Action) (c : Context) :
    ∃ r stop?, Performs [a] c r stop? ∧ a.run c = (c.adding r [], stop?) := by
  cases a with
  | report i =>
    exact ⟨_, _, .report i (.done _), Prod.ext (addIssue_eq_adding c i) rfl⟩
  | notify n =>
    exact ⟨_, _, .notify n (.done _), Prod.ext (addNotice_eq_adding c n) rfl⟩
  | raises message =>
    exact ⟨_, _, .raises message [] c, Prod.ext (adding_none c).symm rfl⟩
  | cond test yes no =>
    rw [run]
    cases ht : test.eval c with
    | error message => exact ⟨_, _, .undecided yes no [] ht, Prod.ext (adding_none c).symm rfl⟩
    | ok b =>
      cases b with
      | true =>
        obtain ⟨r, stop?, h, hrun⟩ := performs_runAll yes c
        exact ⟨r, stop?, .taken ht (by rwa [List.append_nil]), hrun⟩
      | false =>
        obtain ⟨r, stop?, h, hrun⟩ := performs_runAll no c
        exact ⟨r, stop?, .passedOver ht (by rwa [List.append_nil]), hrun⟩

theorem performs_runAll (as : List Action) (c : Context) :
    ∃ r stop?, Performs as c r stop? ∧ runAll as c = (c.adding r [], stop?) := by
  cases as with
  | nil => exact ⟨_, _, .done c, Prod.ext (adding_none c).symm rfl⟩
  | cons a rest =>
    obtain ⟨r, stop?, h, hrun⟩ := performs_run a c
    rw [runAll, hrun]
    cases stop? with
    | none =>
      obtain ⟨s, stop?, h', hrest⟩ := performs_runAll rest (c.adding r [])
      refine ⟨r ++ s, stop?, h.append_of_none h', ?_⟩
      dsimp only
      rw [hrest, adding_adding, List.append_nil]
    | some message => exact ⟨r, some message, h.append_of_some rest, rfl⟩

end

end Action

/-- A field was sent with a value that counts as one. -/
def Context.Fills (c : Context) (field : String) : Prop := (c.rawValue field .null).isBlank = false

instance (c : Context) (field : String) : Decidable (c.Fills field) :=
  inferInstanceAs (Decidable (_ = _))

namespace Rule

variable {rule : Rule} {c : Context} {r s : Remarks} {stop? stop'? : Option String}
  {fields : List String}

/-- What is said of a field that is left open where others of its group are filled. -/
def leftOpen (fields : List String) (c : Context) (field : String) : Issue :=
  .custom field
    ("Field '" ++ field ++ "' is required when " ++
      Constraint.comma (fields.filter fun f => decide (c.Fills f)) ++ " is present")
    Code.requiresTogether.text (listed fields)

/-- What is said where none of the fields of a group is filled. -/
def noneFilled (fields : List String) : Issue :=
  .custom (fields.headD "") ("At least one of " ++ Constraint.comma fields ++ " is required")
    Code.requiresOneOf.text (listed fields)

/-- What a rule says of a state, and the message with which it stops before its end if it does. Rules on
groups of fields do not. -/
inductive Performs : Rule → Context → Remarks → Option String → Prop where
  | script {actions : List Action} {c : Context} {r : Remarks} {stop? : Option String}
      (h : Action.Performs actions c r stop?) : Performs (.script actions) c r stop?
  | allOrNone {fields : List String} {c : Context}
      (h : (∀ f ∈ fields, ¬c.Fills f) ∨ ∀ f ∈ fields, c.Fills f) :
      Performs (.together fields) c .none none
  | someOnly {fields : List String} {c : Context} {filled empty : String} (hf : filled ∈ fields)
      (hfilled : c.Fills filled) (he : empty ∈ fields) (hempty : ¬c.Fills empty) :
      Performs (.together fields) c
        ⟨(fields.filter fun f => decide ¬c.Fills f).map (leftOpen fields c), []⟩ none
  | oneFilled {fields : List String} {c : Context} {filled : String} (hf : filled ∈ fields)
      (hfilled : c.Fills filled) : Performs (.oneOf fields) c .none none
  | noneFilled {fields : List String} {c : Context} (h : ∀ f ∈ fields, ¬c.Fills f) :
      Performs (.oneOf fields) c ⟨[Rule.noneFilled fields], []⟩ none

theorem Performs.unique (h : rule.Performs c r stop?) (h' : rule.Performs c s stop'?) :
    s = r ∧ stop'? = stop? := by
  cases h with
  | script h =>
    cases h' with
    | script h' => exact h.unique h'
  | allOrNone h =>
    cases h' with
    | allOrNone _ => exact ⟨rfl, rfl⟩
    | someOnly hf hfilled he hempty =>
      rcases h with h | h
      · exact absurd hfilled (h _ hf)
      · exact absurd (h _ he) hempty
  | someOnly hf hfilled he hempty =>
    cases h' with
    | allOrNone h =>
      rcases h with h | h
      · exact absurd hfilled (h _ hf)
      · exact absurd (h _ he) hempty
    | someOnly _ _ _ _ => exact ⟨rfl, rfl⟩
  | oneFilled hf hfilled =>
    cases h' with
    | oneFilled _ _ => exact ⟨rfl, rfl⟩
    | noneFilled h => exact absurd hfilled (h _ hf)
  | noneFilled h =>
    cases h' with
    | oneFilled hf hfilled => exact absurd hfilled (h _ hf)
    | noneFilled _ => exact ⟨rfl, rfl⟩

theorem filter_filled (fields : List String) (c : Context) :
    (fields.filter fun f => !(c.rawValue f .null).isBlank) =
      fields.filter fun f => decide (c.Fills f) := by
  refine List.filter_congr fun f _ => ?_
  rw [Bool.eq_iff_iff, Bool.not_eq_true', decide_eq_true_iff, Fills]

/-- A group of fields is as it should be when as many are filled as there are, or none. -/
theorem together_iff (fields : List String) (c : Context) :
    ((fields.filter fun f => decide (c.Fills f)).isEmpty ||
        (fields.filter fun f => decide (c.Fills f)).length = fields.length) = true ↔
      (∀ f ∈ fields, ¬c.Fills f) ∨ ∀ f ∈ fields, c.Fills f := by
  simp only [Bool.or_eq_true, List.isEmpty_iff, List.filter_eq_nil_iff, decide_eq_true_iff,
    List.length_filter_eq_length_iff]

theorem performs_together (fields : List String) (c : Context) :
    ∃ r, (together fields).Performs c r none ∧ checkTogether fields c = c.adding r [] := by
  unfold checkTogether
  dsimp only
  rw [filter_filled, if_congr (together_iff fields c) rfl rfl]
  split_ifs with h
  · exact ⟨_, .allOrNone h, (adding_none c).symm⟩
  · push Not at h
    obtain ⟨⟨filled, hf, hfilled⟩, empty, he, hempty⟩ := h
    refine ⟨_, .someOnly hf hfilled he hempty, ?_⟩
    have hopen : (fields.filter fun f => !(fields.filter fun f => decide (c.Fills f)).contains f) =
        fields.filter fun f => decide ¬c.Fills f := by
      refine List.filter_congr fun f hmem => ?_
      rw [Bool.eq_iff_iff, Bool.not_eq_true', decide_eq_true_iff, ← Bool.not_eq_true,
        List.contains_iff_mem, List.mem_filter, and_iff_right hmem, decide_eq_true_iff]
    rw [hopen, addIssues_eq_adding]
    rfl

theorem performs_oneOf (fields : List String) (c : Context) :
    ∃ r, (oneOf fields).Performs c r none ∧ checkOneOf fields c = c.adding r [] := by
  unfold checkOneOf
  split_ifs with h
  · rw [List.all_eq_true] at h
    refine ⟨_, .noneFilled fun f hf => ?_, addIssue_eq_adding c _⟩
    rw [Fills, h f hf]
    exact Bool.true_eq_false_eq_False
  · rw [List.all_eq_true] at h
    push Not at h
    obtain ⟨filled, hf, hfilled⟩ := h
    exact ⟨_, .oneFilled hf (Bool.eq_false_iff.mpr hfilled), (adding_none c).symm⟩

/-- A rule leaves the state with what it says added to it. -/
theorem performs_run (rule : Rule) (c : Context) :
    ∃ r stop?, rule.Performs c r stop? ∧ rule.run c = (c.adding r [], stop?) := by
  cases rule with
  | script actions =>
    obtain ⟨r, stop?, h, hrun⟩ := Action.performs_runAll actions c
    exact ⟨r, stop?, .script h, hrun⟩
  | together fields =>
    obtain ⟨r, h, hrun⟩ := performs_together fields c
    exact ⟨r, none, h, Prod.ext hrun rfl⟩
  | oneOf fields =>
    obtain ⟨r, h, hrun⟩ := performs_oneOf fields c
    exact ⟨r, none, h, Prod.ext hrun rfl⟩

theorem run_of_performs (h : rule.Performs c r stop?) : rule.run c = (c.adding r [], stop?) := by
  obtain ⟨s, stop'?, h', hrun⟩ := performs_run rule c
  obtain ⟨rfl, rfl⟩ := h.unique h'
  exact hrun

end Rule

namespace Validator

variable {rule : Rule} {c : Context} {r : Remarks} {stop? : Option String}

/-- The issue that a rule that raises is reported as. -/
def raised (name field message : String) : Issue :=
  .custom field ("Validator '" ++ name ++ "' failed: " ++ message) Code.validatorError.text
    (some [("validator", .text name)])

/-- A rule of one's own adds what it says, and one issue more when it raises. -/
theorem remarks_runRule (h : rule.Performs c r stop?) (name field : String) :
    (runRule rule name field c).remarks =
      c.remarks ++ r ++ ⟨stop?.toList.map (raised name field), []⟩ := by
  unfold runRule
  rw [Rule.run_of_performs h]
  cases stop? with
  | none => exact (Remarks.append_none _).symm
  | some message => exact Remarks.ext rfl (List.append_nil _).symm

end Validator

end Intake
