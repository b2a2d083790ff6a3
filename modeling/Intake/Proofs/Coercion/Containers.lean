import Intake.Proofs.Coercion.Types
import Intake.Proofs.Reading.Trimmed

namespace Intake.Coercion

variable {conversions : Table Conversion} {name : String} {splits : Bool} {element : Target}
  {v : Value} {t : String} {xs : List Value} {es : Table Value}

/-- A text that is an array in JSON is seen by a list type as its members, blanks around it or not. -/
theorem spread_of_read (h : Json.read t = .ok (.list xs)) (splits : Bool) :
    spread splits (.text t) = .members xs := by
  have htrim : Json.read (String.ofList (trimmed t)) = .ok (.list xs) := Json.read_trim h
  have hhead : (trimmed t).head? = some '[' := Json.head?_trim_of_read_list h
  rw [spread, spreadText]
  simp only [hhead, if_true, htrim]

theorem spreadEntries_of_read (h : Json.read t = .ok (.map es)) :
    spreadEntries (.text t) = .ok (some es) := by
  rw [spreadEntries, h]

theorem run_list_of_spread (hfree : Table.get? conversions name = none) (hv : v.isNull = false)
    (h : spread splits v = .members xs) :
    run conversions (.list name splits element) v = gatherList (xs.map (run conversions element)) := by
  rw [run, hv, Target.name, hfree, h]
  rfl

theorem failures_list_of_spread (hfree : Table.get? conversions name = none) (hv : v.isNull = false)
    (h : spread splits v = .members xs) :
    failures conversions (.list name splits element) v = xs.flatMap (failures conversions element) := by
  rw [failures, hv, Target.name, hfree, h]
  rfl

theorem run_dict_of_spread (hfree : Table.get? conversions name = none) (hv : v.isNull = false)
    (h : spreadEntries v = .ok (some es)) :
    run conversions (.dict name element) v =
      gatherMap (es.map fun (k, x) => (k, run conversions element x)) := by
  rw [run, hv, Target.name, hfree, h]
  rfl

theorem failures_dict_of_spread (hfree : Table.get? conversions name = none) (hv : v.isNull = false)
    (h : spreadEntries v = .ok (some es)) :
    failures conversions (.dict name element) v =
      es.flatMap fun (_, x) => failures conversions element x := by
  rw [failures, hv, Target.name, hfree, h]
  rfl

theorem gatherList_ne_refused (members : List Coerced) : gatherList members ≠ .refused := by
  unfold gatherList
  split <;> simp

theorem gatherMap_ne_refused (members : List (String × Coerced)) : gatherMap members ≠ .refused := by
  unfold gatherMap
  split <;> simp

end Intake.Coercion
