import Intake.Proofs.Run.Keywords

namespace Intake

namespace Number

variable {a b x : Number} {min max : Option Number}

/-- The one number that has no place on the line. -/
def nan : Number := .float .nan

/-- One number is less than another or equal to it, by exact value; NaN is neither. -/
def AtMost (a b : Number) : Prop := a.lt b = true ∨ a.equal b = true

/-- A number lies between two bounds, each of which may be missing. -/
def Between (min max : Option Number) (x : Number) : Prop :=
  (∀ m, min = some m → m.AtMost x) ∧ ∀ m, max = some m → x.AtMost m

theorem point?_eq_none_iff : a.point? = none ↔ a = nan := by
  cases a with
  | int n => simp [point?, nan]
  | float x => cases x <;> simp [point?, nan]

theorem Point.not_lt_iff {p q : Point} : q.lt p = false ↔ p.lt q = true ∨ p.eq q = true := by
  cases p <;> cases q <;> simp only [Point.lt, Point.eq] <;> try simp
  rename_i a e b f
  rw [min_comm f e]
  omega

theorem not_lt_iff (ha : a ≠ nan) (hb : b ≠ nan) : b.lt a = false ↔ a.AtMost b := by
  cases hp : a.point? with
  | none => exact absurd (point?_eq_none_iff.mp hp) ha
  | some p =>
    cases hq : b.point? with
    | none => exact absurd (point?_eq_none_iff.mp hq) hb
    | some q =>
      simp only [AtMost, lt, equal, hp, hq]
      exact Point.not_lt_iff

theorem not_atMost_nan : ¬a.AtMost nan := by
  have hnan : nan.point? = none := rfl
  simp [AtMost, lt, equal, hnan]

theorem not_nan_atMost : ¬nan.AtMost a := by
  have hnan : nan.point? = none := rfl
  simp [AtMost, lt, equal, hnan]

/-- NaN is between no bounds at all, if there are any. -/
theorem not_between_nan (h : min.isSome ∨ max.isSome) : ¬Between min max nan := by
  rintro ⟨hmin, hmax⟩
  rcases h with h | h
  · obtain ⟨m, rfl⟩ := Option.isSome_iff_exists.mp h
    exact not_atMost_nan (hmin m rfl)
  · obtain ⟨m, rfl⟩ := Option.isSome_iff_exists.mp h
    exact not_nan_atMost (hmax m rfl)

theorem within_iff_between (hmin : min ≠ some nan) (hmax : max ≠ some nan) (hx : x ≠ nan) :
    Constraint.Within x min max ↔ Between min max x := by
  refine and_congr (forall_congr' fun m => imp_congr_right fun hm => ?_)
    (forall_congr' fun m => imp_congr_right fun hm => ?_)
  · exact not_lt_iff (fun h => hmin (h ▸ hm)) hx
  · exact not_lt_iff hx fun h => hmax (h ▸ hm)

end Number

namespace Constraint

variable {min max : Option Number}

theorem bounded_of_range? {field : String} {k : Constraint} (h : range? field min max = .ok k) :
    (min.isSome ∨ max.isSome) ∧ k = .range min max := by
  unfold range? at h
  split_ifs at h with hnone
  refine ⟨?_, (Except.ok.inj h).symm⟩
  cases min <;> cases max <;> simp_all

theorem within_of_admits {x : Number} (h : (range min max).Admits (Value.ofNumber x)) : Within x min max := by
  cases x with
  | int n => exact h.1 n rfl
  | float x => exact h.2 x rfl

end Constraint

namespace Validator

variable {field : String} {k : Constraint} {c d : Context} {vs : List Validator}

/-- In a run of validators that passes, the value of a field has everything that a keyword among them
asks of it, whatever the others look at. -/
theorem admits_of_passes_runAll (h : Step.Passes (runAll vs) c d)
    (hmem : Validator.constraint field k ∈ vs) (hk : k.IsKeyword) :
    k.Admits (c.fieldValue field .null) := by
  induction vs generalizing c with
  | nil => cases hmem
  | cons v vs ih =>
    rw [runAll_cons, Step.passes_andThen (growing_run v) (growing_runAll vs)] at h
    obtain ⟨e, hv, hrest⟩ := h
    rcases List.mem_cons.mp hmem with rfl | hmem
    · exact (Constraint.check_eq_clean_iff hk).mp (passes_constraint.mp hv).1
    · have hreports : c.Reports e := by simpa only [hv.run] using run_reports v c
      have hsame : e.fieldValue field .null = c.fieldValue field .null := by
        simp only [Context.fieldValue, Context.rawValue, hreports.coerced, hreports.data]
      rw [← hsame]
      exact ih hrest hmem

end Validator

end Intake
