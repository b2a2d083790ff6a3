import Intake.Proofs.Coercion.Losses
import Intake.Proofs.Reading.Texts
import Intake.Proofs.Reading.Trimmed

namespace Intake

/-- In no map inside a value does a name come up twice. -/
inductive Value.WellKeyed : Value → Prop where
  | single {v : Value} (h : v.isContainer = false) : WellKeyed v
  | list {items : List Value} (h : ∀ v ∈ items, WellKeyed v) : WellKeyed (.list items)
  | tuple {items : List Value} (h : ∀ v ∈ items, WellKeyed v) : WellKeyed (.tuple items)
  | map {es : Table Value} (hn : (Table.names es).Nodup) (h : ∀ e ∈ es, WellKeyed e.2) :
      WellKeyed (.map es)

namespace Value

variable {v : Value} {items : List Value} {es fs : Table Value}

theorem sameItems_self (h : ∀ v ∈ items, v.same v = true) : sameItems items items = true := by
  induction items with
  | nil => rw [sameItems]
  | cons v items ih =>
    rw [sameItems, h v List.mem_cons_self, ih fun v hv => h v (List.mem_cons_of_mem _ hv)]
    rfl

theorem sameEntries_iff :
    sameEntries es fs = true ↔ ∀ e ∈ es, ∃ w, Table.get? fs e.1 = some w ∧ e.2.same w = true := by
  induction es with
  | nil => simp [sameEntries]
  | cons e es ih =>
    obtain ⟨name, v⟩ := e
    rw [sameEntries, Bool.and_eq_true, ih, List.forall_mem_cons]
    refine and_congr_left fun _ => ?_
    cases Table.get? fs name <;> simp

theorem WellKeyed.same_self (h : v.WellKeyed) : v.same v = true := by
  induction h with
  | @single v h =>
    cases v with
    | list | tuple | map => cases h
    | _ => simp [same]
  | list _ ih => rw [same, sameItems_self ih]
  | tuple _ ih => rw [same, sameItems_self ih]
  | map hn _ ih =>
    rw [same, Bool.and_eq_true]
    exact ⟨by simp, sameEntries_iff.mpr fun e he => ⟨e.2, Table.get?_of_mem hn he, ih e he⟩⟩

theorem WellKeyed.put (hes : (Value.map es).WellKeyed) (hv : v.WellKeyed) (name : String) :
    (Value.map (Table.put es name v)).WellKeyed := by
  cases hes with
  | single h => cases h
  | map hn h =>
    refine .map (Table.nodup_names_put hn name v) fun e he => ?_
    have hget := Table.get?_of_mem (Table.nodup_names_put hn name v) he
    rw [Table.get?_put] at hget
    split_ifs at hget
    · exact Option.some.inj hget ▸ hv
    · exact h e (Table.mem_of_get? hget)

end Value

namespace Json

open Value

variable {c d : Cursor} {v : Value}

theorem not_isContainer_of_readScalar (h : readScalar c = .ok (v, d)) : v.isContainer = false :=
  of_readScalar (P := fun v => v.isContainer = false) h (fun _ => rfl)
    (by simp [keywords, isContainer]) (fun _ => rfl) fun _ => rfl

/-- What the readers of a document make with this much fuel is well keyed, as what they start from is. -/
structure ReadsKeyed (fuel : Nat) : Prop where
  value : ∀ {depth c v d}, readValue depth fuel c = .ok (v, d) → v.WellKeyed
  items : ∀ {depth acc c vs d}, readItems depth fuel acc c = .ok (vs, d) →
    (∀ v ∈ acc, WellKeyed v) → ∀ v ∈ vs, WellKeyed v
  entries : ∀ {depth acc c es d}, readEntries depth fuel acc c = .ok (es, d) →
    (Value.map acc).WellKeyed → (Value.map es).WellKeyed

theorem of_container {α : Type} {depth : Nat} {close : Char} {wrap : α → Value} {nothing : α}
    {more : Except Stop (α × Cursor)} {P : Value → Prop}
    (h : container depth close wrap nothing c more = .ok (v, d)) (hnothing : P (wrap nothing))
    (hmore : ∀ a e, more = .ok (a, e) → P (wrap a)) : P v := by
  unfold container at h
  split_ifs at h
  · exact (Prod.mk.inj (Except.ok.inj h)).1 ▸ hnothing
  · rcases more with e | ⟨a, e⟩
    · cases h
    · exact (Prod.mk.inj (Except.ok.inj h)).1 ▸ hmore a e rfl

theorem of_continued {α : Type} {close : Char} {all a : α} {more : Except Stop (α × Cursor)}
    {P : α → Prop} (h : continued close all c more = .ok (a, d)) (hall : P all)
    (hmore : more = .ok (a, d) → P a) : P a := by
  unfold continued at h
  split_ifs at h
  · exact (Prod.mk.inj (Except.ok.inj h)).1 ▸ hall
  · exact hmore h
  · cases h

theorem wellKeyed_empty : (Value.map []).WellKeyed := .map List.nodup_nil (List.forall_mem_nil _)

theorem readsKeyed (fuel : Nat) : ReadsKeyed fuel := by
  induction fuel with
  | zero =>
    constructor
    · intro depth c v d h
      rw [readValue] at h
      cases h
    · intro depth acc c vs d h
      rw [readItems] at h
      cases h
    · intro depth acc c es d h
      rw [readEntries] at h
      cases h
  | succ fuel ih =>
    constructor
    · intro depth c v d h
      by_cases hl : c.peek? = some '['
      · rw [readValue_list depth fuel hl] at h
        have hnil : ∀ v ∈ [], WellKeyed v := List.forall_mem_nil _
        exact of_container h (.list hnil) fun vs e hmore => .list (ih.items hmore hnil)
      by_cases hm : c.peek? = some '\x7b'
      · rw [readValue_map depth fuel hm] at h
        exact of_container h wellKeyed_empty fun es e hmore => ih.entries hmore wellKeyed_empty
      rw [readValue_scalar depth fuel hl hm] at h
      exact .single (not_isContainer_of_readScalar h)
    · intro depth acc c vs d h hacc
      obtain ⟨v, e, hv⟩ := exists_of_readItems h
      have hstep : ∀ w ∈ v :: acc, w.WellKeyed := List.forall_mem_cons.mpr ⟨ih.value hv, hacc⟩
      rw [readItems_of_value hv] at h
      exact of_continued (P := fun vs => ∀ w ∈ vs, w.WellKeyed) h
        (fun w hw => hstep w (List.mem_reverse.mp hw)) fun hmore => ih.items hmore hstep
    · intro depth acc c es d h hacc
      obtain ⟨hq, name, e, hname, hcolon, v, e', hv⟩ := exists_of_readEntries h
      have hstep := hacc.put (ih.value hv) name
      rw [readEntries_of_value hq hname hcolon hv] at h
      exact of_continued (P := fun es => (Value.map es).WellKeyed) h hstep fun hmore =>
        ih.entries hmore hstep

theorem wellKeyed_of_read {s : String} (h : read s = .ok v) : v.WellKeyed := by
  obtain ⟨-, d, hread, -⟩ := document_eq_ok_iff.mp (read_eq_ok_iff.mp h)
  exact (readsKeyed _).value hread

end Json

namespace Form

variable {v w : Value}

theorem wellKeyed_of_retype {text : String} (h : retype text = .ok w) : w.WellKeyed := by
  have hintegers (s : List Char) : (integerOf s).isContainer = false := by
    unfold integerOf
    dsimp only
    split
    · rfl
    · cases Coercion.readInt? (NamedFormat.withoutFinalBreak s) <;> rfl
  have hfractions (s : List Char) : (fractionOf s).isContainer = false := by
    unfold fractionOf
    split <;> rfl
  unfold retype at h
  dsimp only at h
  split at h
  · exact Except.ok.inj h ▸ .single rfl
  split at h
  · exact Except.ok.inj h ▸ .single rfl
  split at h
  · exact Except.ok.inj h ▸ .single rfl
  split at h
  · exact Except.ok.inj h ▸ .single (hintegers _)
  split at h
  · exact Except.ok.inj h ▸ .single (hfractions _)
  split at h
  · split at h
    · next hread => exact Except.ok.inj h ▸ Json.wellKeyed_of_read hread
    · cases h
    · exact Except.ok.inj h ▸ .single rfl
  · exact Except.ok.inj h ▸ .single rfl

theorem wellKeyed_of_retypeValue (hv : v.WellKeyed) (h : retypeValue v = .ok w) : w.WellKeyed := by
  cases v with
  | text s => exact wellKeyed_of_retype h
  | _ => exact Except.ok.inj h ▸ hv

end Form

end Intake
