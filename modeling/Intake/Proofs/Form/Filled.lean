import Intake.Proofs.Form.Paths
import Intake.Proofs.Reading.Keyed

namespace Intake.Form

/-- A pair as it was sent and as it is stored. -/
def StoredAs (isRetyped : Bool) (sent kept : String × Value) : Prop :=
  kept.1 = sent.1 ∧ received isRetyped sent.2 = .ok kept.2

variable {isRetyped : Bool} {t : Table Value} {v w : Value} {key : String}
  {pairs pairs' kept : List (String × Value)}

theorem events_of_accepted (h : (store t key v).accepted = true) : (store t key v).events = [] := by
  rw [store_of_stores (stores_of_accepted h)]

theorem wellKeyed_of_received (hv : v.WellKeyed) (h : received isRetyped v = .ok w) : w.WellKeyed := by
  cases isRetyped with
  | false => exact Except.ok.inj h ▸ hv
  | true => exact wellKeyed_of_retypeValue hv h

/-- Pairs that can all be stored make a map, and the log holds what the attempts said. -/
theorem fill_of_kept (h : List.Forall₂ (StoredAs isRetyped) pairs kept) (t : Table Value) :
    fill isRetyped t pairs =
      ⟨.ok (storeAll t kept), (attempts t kept).flatMap fun a => a.stored.events⟩ := by
  induction h generalizing t with
  | nil => exact fill_nil isRetyped t
  | @cons sent stored _ _ hpair _ ih =>
    obtain ⟨key, v⟩ := sent
    obtain ⟨key', w⟩ := stored
    obtain ⟨rfl, hw⟩ := hpair
    rw [fill_cons_of_ok hw, ih]
    rfl

/-- Either all values of some pairs can be stored, or one of them is a text that is nested too deeply. -/
theorem exists_kept_or_tooDeep (isRetyped : Bool) (pairs : List (String × Value)) :
    (∃ kept, List.Forall₂ (StoredAs isRetyped) pairs kept) ∨
      isRetyped = true ∧ ∃ name text, (name, .text text) ∈ pairs ∧ IsTooDeep text := by
  cases isRetyped with
  | false =>
    refine .inl ⟨pairs, List.forall₂_same.mpr fun pair _ => ⟨rfl, rfl⟩⟩
  | true =>
    induction pairs with
    | nil => exact .inl ⟨[], .nil⟩
    | cons pair pairs ih =>
      obtain ⟨key, v⟩ := pair
      cases hv : retypeValue v with
      | error f =>
        obtain ⟨-, text, rfl, hdeep⟩ := (tooDeepIff_retypeValue v f).mp hv
        exact .inr ⟨rfl, key, text, List.mem_cons_self, hdeep⟩
      | ok w =>
        rcases ih with ⟨kept, hkept⟩ | ⟨-, name, text, hmem, hdeep⟩
        · exact .inl ⟨(key, w) :: kept, .cons ⟨rfl, hv⟩ hkept⟩
        · exact .inr ⟨rfl, name, text, List.mem_cons_of_mem _ hmem, hdeep⟩

theorem ofPairs_of_tooDeep {name text : String} (hmem : (name, .text text) ∈ pairs)
    (hdeep : IsTooDeep text) : (ofPairs true pairs).result = .error .tooDeep :=
  (tooDeepIff_buildRetyped [] pairs .tooDeep).mpr ⟨rfl, name, text, hmem, hdeep⟩

theorem exists_kept_of_perm (h : pairs'.Perm pairs) (hkept : List.Forall₂ (StoredAs isRetyped) pairs kept) :
    ∃ kept', List.Forall₂ (StoredAs isRetyped) pairs' kept' ∧ kept'.Perm kept :=
  List.perm_comp_forall₂ h hkept

theorem exists_sent_of_mem_kept {stored : String × Value}
    (hkept : List.Forall₂ (StoredAs isRetyped) pairs kept) (h : stored ∈ kept) :
    ∃ sent ∈ pairs, StoredAs isRetyped sent stored := by
  induction hkept with
  | nil => cases h
  | cons hpair _ ih =>
    rcases List.mem_cons.mp h with rfl | h
    · exact ⟨_, List.mem_cons_self, hpair⟩
    · obtain ⟨sent, hsent, hstored⟩ := ih h
      exact ⟨sent, List.mem_cons_of_mem _ hsent, hstored⟩

theorem map_fst_of_kept (hkept : List.Forall₂ (StoredAs isRetyped) pairs kept) :
    kept.map Prod.fst = pairs.map Prod.fst := by
  induction hkept with
  | nil => rfl
  | cons hpair _ ih => rw [List.map_cons, List.map_cons, hpair.1, ih]

end Intake.Form
