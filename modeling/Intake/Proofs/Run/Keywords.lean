import Intake.Proofs.Run.Validators

namespace Intake

namespace FormatCheck

/-- A text is in the format, or holds a match of the pattern. -/
def Holds : FormatCheck → String → Prop
  | .named f, s => f.holds s.toList = .ok true
  | .search p, s => p.found s = true

end FormatCheck

namespace Constraint

/-- The constraints that keywords of a field stand for: all but rules for uploads. -/
def IsKeyword : Constraint → Prop
  | .upload _ => False
  | _ => True

def Within (x : Number) (min max : Option Number) : Prop :=
  (∀ m, min = some m → x.lt m = false) ∧ ∀ m, max = some m → m.lt x = false

/-- What a keyword asks of a value. A value of a kind that it does not look at is admitted. -/
def Admits : Constraint → Value → Prop
  | .length min max, v => ∀ n : Nat, size? v = some n → Within (.int n) min max
  | .range min max, v =>
    (∀ n, v = .int n → Within (.int n) min max) ∧ ∀ x, v = .float x → Within (.float x) min max
  | .format _ _ _ check, v => ∀ s, v = .text s → check.Holds s
  | .enum allowed, v => v ≠ .null → choiceText v ∈ allowed
  | .pattern _ _ p, v =>
    v ≠ .null → (∀ es, v ≠ .map es) → (∀ vs, v ≠ .list vs) → p.found (choiceText v) = true
  | .upload _, _ => False

variable {path name : String} {min max : Option Number} {v : Value}

theorem when_eq_clean_iff {b : Bool} {i : Issue} : Findings.when b i = .clean ↔ b = false := by
  cases b <;> simp [Findings.when, Findings.clean, Findings.ofIssue]

theorem within_iff (x : Number) :
    below x min = false ∧ above x max = false ↔ Within x min max := by
  rw [below, above, Within]
  cases min <;> cases max <;> simp

theorem checkLength_eq_clean_iff :
    checkLength path min max v = .clean ↔ ∀ n : Nat, size? v = some n → Within (.int n) min max := by
  unfold checkLength
  cases size? v with
  | none => simp
  | some n => simp [when_eq_clean_iff, within_iff]

theorem checkRange_eq_clean_iff :
    checkRange path min max v = .clean ↔
      (∀ n, v = .int n → Within (.int n) min max) ∧
        ∀ x, v = .float x → Within (.float x) min max := by
  cases v <;> simp [checkRange, when_eq_clean_iff, within_iff]

theorem checkFormat_eq_clean_iff {message : Option String} {check : FormatCheck} :
    checkFormat path name message check v = .clean ↔ ∀ s, v = .text s → check.Holds s := by
  cases v with
  | text s =>
    cases check with
    | named f =>
      simp only [checkFormat, FormatCheck.Holds, Value.text.injEq, forall_eq']
      cases f.holds s.toList with
      | error e => simp [Findings.stop, Findings.clean]
      | ok b => simp [when_eq_clean_iff]
    | search p => simp [checkFormat, FormatCheck.Holds, when_eq_clean_iff]
  | _ => simp [checkFormat]

theorem checkEnum_eq_clean_iff {allowed : List String} :
    checkEnum path allowed v = .clean ↔ (v ≠ .null → choiceText v ∈ allowed) := by
  cases v <;> simp [checkEnum, Value.isNull, when_eq_clean_iff]

theorem checkPattern_eq_clean_iff {regex : String} {message : Option String}
    {p : Pattern.Compiled} :
    checkPattern path regex message p v = .clean ↔
      (v ≠ .null → (∀ es, v ≠ .map es) → (∀ vs, v ≠ .list vs) → p.found (choiceText v) = true) := by
  cases v <;> simp [checkPattern, when_eq_clean_iff]

/-- A keyword finds nothing in just the values that it admits. -/
theorem check_eq_clean_iff {k : Constraint} (hk : k.IsKeyword) :
    k.check path v = .clean ↔ k.Admits v := by
  cases k with
  | length min max => exact checkLength_eq_clean_iff
  | range min max => exact checkRange_eq_clean_iff
  | format name source message check => exact checkFormat_eq_clean_iff
  | enum allowed => exact checkEnum_eq_clean_iff
  | pattern regex message p => exact checkPattern_eq_clean_iff
  | upload rules => exact absurd hk id

end Constraint

namespace Validator

variable {field : String} {k : Constraint} {c d : Context} {vs : List Validator}

theorem passes_constraint :
    Step.Passes (Validator.constraint field k).run c d ↔
      k.check field (c.fieldValue field .null) = .clean ∧ d = c := by
  have hrun : (Validator.constraint field k).run c =
      (c.addIssues (k.check field (c.fieldValue field .null)).issues,
        (k.check field (c.fieldValue field .null)).fault) := by
    rw [run, settle]
  generalize k.check field (c.fieldValue field .null) = found at hrun
  obtain ⟨issues, fault⟩ := found
  constructor
  · intro h
    obtain ⟨hd, hf⟩ := Prod.mk.inj (hrun.symm.trans h.run)
    have hi : issues = [] := by
      have hi := h.issues
      rw [← hd] at hi
      exact List.append_right_eq_self.mp hi
    dsimp only at hd hf
    subst hi hf
    refine ⟨rfl, ?_⟩
    rw [← hd, Context.addIssues, List.append_nil]
  · rintro ⟨h, rfl⟩
    obtain ⟨rfl, rfl⟩ := Findings.mk.inj h
    refine ⟨?_, rfl⟩
    rw [hrun, Context.addIssues, List.append_nil]

theorem runAll_cons (v : Validator) (vs : List Validator) :
    runAll (v :: vs) = Step.andThen v.run (runAll vs) := by
  funext c
  rcases h : v.run c with ⟨d, _ | f⟩ <;> simp [runAll, Step.andThen, h]

theorem growing_run (v : Validator) : Step.Growing v.run :=
  fun c => (run_reports v c).toGrows

/-- Keywords look at the value of their field and leave the state as it is. -/
theorem passes_runAll_keywords (h : ∀ v ∈ vs, ∃ k, v = .constraint field k ∧ k.IsKeyword) :
    Step.Passes (runAll vs) c d ↔
      (∀ k, Validator.constraint field k ∈ vs → k.Admits (c.fieldValue field .null)) ∧ d = c := by
  induction vs generalizing c with
  | nil =>
    have hrun : runAll [] = Step.done := rfl
    simp [hrun]
  | cons v vs ih =>
    obtain ⟨k, rfl, hk⟩ := h v List.mem_cons_self
    have ih := @ih c fun v hv => h v (List.mem_cons_of_mem _ hv)
    rw [runAll_cons, Step.passes_andThen (growing_run _) (growing_runAll vs)]
    simp only [passes_constraint, Constraint.check_eq_clean_iff hk]
    constructor
    · rintro ⟨e, ⟨hadmits, rfl⟩, hrest⟩
      obtain ⟨hall, hd⟩ := ih.mp hrest
      refine ⟨fun k' hk' => ?_, hd⟩
      rcases List.mem_cons.mp hk' with heq | hk'
      · cases heq
        exact hadmits
      · exact hall k' hk'
    · rintro ⟨hall, hd⟩
      exact ⟨c, ⟨hall k List.mem_cons_self, rfl⟩,
        ih.mpr ⟨fun k' hk' => hall k' (List.mem_cons_of_mem _ hk'), hd⟩⟩

end Validator

end Intake
