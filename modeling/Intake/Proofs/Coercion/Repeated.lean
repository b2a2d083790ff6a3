import Intake.Proofs.Coercion.Layouts
import Intake.Proofs.Coercion.Standard

namespace Intake

/-- A type without datetimes at any depth. -/
def TypeTerm.isTimeless : TypeTerm → Bool
  | .datetime => false
  | .list element => element.isTimeless
  | .dict element => element.isTimeless
  | _ => true

theorem TypeTerm.isTimeless_target (t : TypeTerm) : t.target.isTimeless = t.isTimeless := by
  induction t with
  | list t ih => exact ih
  | dict t ih => exact ih
  | _ => rfl

namespace Conversions

variable {r : Conversions} {v w : Value} {dropped : List Position}

/-- What a type without datetimes makes of a value, it leaves as it is. -/
theorem coerce_again (hr : r.functions = []) {t : TypeTerm} (ht : t.isTimeless = true)
    (h : r.coerce t.name v = .accepted w dropped) : r.coerce t.name w = .accepted w [] := by
  rw [coerce_name hr] at h ⊢
  have hfits := Coercion.fits_of_run (t.isTimeless_target.trans ht) h
  exact Coercion.run_of_fits hfits

theorem coerce_again_days :
    Conversions.empty.coerce (TypeTerm.dict (.list .date)).name
        (.map [("open", .list [.text "15/01/2024", .text "soon", .int 0])]) =
          .accepted (.map [("open", .list [.text "2024-01-15", .text "1970-01-01"])])
            [] ∧
      Conversions.empty.coerce (TypeTerm.dict (.list .date)).name
        (.map [("open", .list [.text "2024-01-15", .text "1970-01-01"])]) =
          .accepted (.map [("open", .list [.text "2024-01-15", .text "1970-01-01"])]) [] := by
  have hrun : Conversions.empty.coerce (TypeTerm.dict (.list .date)).name
      (.map [("open", .list [.text "15/01/2024", .text "soon", .int 0])]) =
        .accepted (.map [("open", .list [.text "2024-01-15", .text "1970-01-01"])]) [] := by
    rw [Conversions.coerce, TypeTerm.ofName_name]
    cbv
  exact ⟨hrun, coerce_again rfl rfl hrun⟩

end Conversions

namespace Coercion

variable {v w : Value} {dropped : List Position}

theorem exists_moment_of_run (h : run [] .datetime v = .accepted w dropped) :
    ∃ m, toMoment? v = some m ∧ w = .text m.canonical ∧ dropped = [] := by
  have hn := not_isNull_of_run h
  rw [run, if_neg hn] at h
  dsimp only [Table.get?_nil] at h
  cases hread : toMoment? v with
  | none =>
    rw [hread] at h
    cases h
  | some m =>
    rw [hread] at h
    obtain ⟨rfl, rfl⟩ := Coerced.accepted.inj h
    exact ⟨m, rfl, rfl, rfl⟩

theorem run_canonical (m : Moment) : run [] .datetime (.text m.canonical) =
    if m.Legible then .accepted (.text m.canonical) [] else .refused := by
  rw [run_datetime_eq]
  split_ifs with h
  · rw [toMoment?_canonical h, Option.map_some, m.canonical_wholeSeconds]
    rfl
  · rw [toMoment?_canonical_eq_none h]
    rfl

end Coercion

theorem NamedFormat.holds_canonical (m : Moment) :
    NamedFormat.datetime.holds m.canonical.toList = .ok (decide (m.Legible ∧ m.InMinutes)) := by
  have hmoment : isMoment m.canonical.toList = decide (m.Legible ∧ m.InMinutes) :=
    Bool.eq_iff_iff.mpr ((isMoment_canonical m).trans (decide_eq_true_iff).symm)
  rw [holds, hmoment]

namespace Conversions

variable {r : Conversions} {v w : Value} {dropped : List Position}

/-- The text of a moment is brought to itself again if its year has four digits, and is in the format of
datetimes if besides its offset is in minutes. -/
theorem coerce_datetime_again (hr : r.functions = []) (h : r.coerce "datetime" v = .accepted w dropped) :
    ∃ m, Coercion.toMoment? v = some m ∧ w = .text m.canonical ∧ dropped = [] ∧
      r.coerce "datetime" w = (if m.Legible then .accepted w [] else .refused) ∧
      ∀ name ∈ ["datetime", "iso8601"], (NamedFormat.ofName? name).map (·.holds m.canonical.toList) =
        some (.ok (decide (m.Legible ∧ m.InMinutes))) := by
  have hname (v : Value) : r.coerce "datetime" v = Coercion.run [] .datetime v := coerce_name hr .datetime v
  rw [hname] at h
  obtain ⟨m, hread, rfl, rfl⟩ := Coercion.exists_moment_of_run h
  have hformat := congrArg some (NamedFormat.holds_canonical m)
  refine ⟨m, hread, rfl, rfl, (hname _).trans (Coercion.run_canonical m), ?_⟩
  rw [← List.forall_iff_forall_mem]
  exact ⟨hformat, hformat⟩

/-- A datetime of the year 999, and one whose offset has seconds. -/
theorem coerce_datetime_again_refused :
    (Conversions.empty.coerce "datetime" (.date ⟨999, 1, 1, by decide⟩) =
        .accepted (.text "999-01-01T00:00:00Z") [] ∧
      Conversions.empty.coerce "datetime" (.text "999-01-01T00:00:00Z") = .refused) ∧
    Conversions.empty.coerce "datetime" (.moment
        ⟨⟨2024, 1, 15, by decide⟩, ⟨10, 30, 0, 0, by decide⟩, some ⟨3630000000, by decide⟩⟩) =
      .accepted (.text "2024-01-15T10:30:00+01:00:30") [] ∧
    (NamedFormat.ofName? "iso8601").map (·.holds "2024-01-15T10:30:00+01:00:30".toList) =
      some (.ok false) := by
  have hearly : Conversions.empty.coerce "datetime" (.date ⟨999, 1, 1, by decide⟩) =
      .accepted (.text "999-01-01T00:00:00Z") [] := by
    cbv
  have hseconds : Conversions.empty.coerce "datetime" (.moment
        ⟨⟨2024, 1, 15, by decide⟩, ⟨10, 30, 0, 0, by decide⟩, some ⟨3630000000, by decide⟩⟩) =
      .accepted (.text "2024-01-15T10:30:00+01:00:30") [] := by
    cbv
  obtain ⟨m, hm, -, -, hagain, -⟩ := coerce_datetime_again rfl hearly
  obtain ⟨m', hm', htext, -, -, hformat⟩ := coerce_datetime_again rfl hseconds
  refine ⟨⟨hearly, ?_⟩, hseconds, ?_⟩
  · rw [hagain, ← Option.some.inj hm]
    exact if_neg (by decide)
  · rw [Value.text.inj htext, hformat "iso8601" (by decide), ← Option.some.inj hm']
    decide

end Conversions

end Intake
