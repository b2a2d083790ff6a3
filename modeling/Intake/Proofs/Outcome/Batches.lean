import Intake.Proofs.Run.Remarks

namespace Intake

variable {α β : Type} {os xs ys : List (Outcome α)} {is : List Issue} {vs : List α} {t : Table (Outcome α)}

namespace Outcome

/-- What a failure was made of. -/
def raw? : Outcome α → Option Value
  | .success _ _ => none
  | .failure r => some r.raw

theorem settle_of_ne (h : is ≠ []) (value : α) (raw : Value) (ns : List Notice) :
    settle is value raw ns = .failure ⟨is, raw, ns, h⟩ := dif_pos h

theorem settle_nil (value : α) (raw : Value) (ns : List Notice) :
    settle [] value raw ns = .success value ns := dif_neg (not_not.mpr rfl)

theorem filterMap_rejection?_eq_nil_iff (os : List (Outcome α)) :
    os.filterMap rejection? = [] ↔ ∀ o ∈ os, o.isSuccess = true := by
  rw [List.filterMap_eq_nil_iff]
  refine forall₂_congr fun o _ => ?_
  cases o <;> simp [rejection?, isSuccess]

/-- A failure always has an issue, so that a batch with a failure has one too. -/
theorem issues_ne_nil (h : os.filterMap rejection? ≠ []) :
    (os.filterMap rejection?).flatMap (·.issues) ≠ [] := by
  obtain ⟨r, hr⟩ := List.exists_mem_of_ne_nil _ h
  intro hnil
  exact r.nonempty (List.flatMap_eq_nil_iff.mp hnil r hr)

theorem map_raw (os : List (Outcome α)) : (os.filterMap rejection?).map (·.raw) = os.filterMap raw? := by
  rw [List.map_filterMap]
  refine List.filterMap_congr fun o _ => ?_
  cases o <;> rfl

theorem all_remarks (os : List (Outcome α)) : Remarks.all (os.map remarks) =
    ⟨(os.filterMap rejection?).flatMap (·.issues), os.flatMap notices⟩ := by
  induction os with
  | nil => rfl
  | cons o os ih =>
    rw [List.map_cons, Remarks.all_cons, ih]
    cases o <;> rfl

/-- Without failures there is a value for each outcome. -/
theorem exists_values (h : os.filterMap rejection? = []) : ∃ vs : List α, os.map value? = vs.map some := by
  induction os with
  | nil => exact ⟨[], rfl⟩
  | cons o os ih =>
    cases o with
    | success v ns =>
      obtain ⟨vs, hvs⟩ := ih h
      exact ⟨v :: vs, congrArg (some v :: ·) hvs⟩
    | failure r => cases h

theorem filterMap_value? (h : os.map value? = vs.map some) : os.filterMap value? = vs := by
  have hmap : os.filterMap value? = (os.map value?).filterMap id := by
    rw [List.filterMap_map, Function.id_comp]
  rw [hmap, h, List.filterMap_map, Function.id_comp, List.filterMap_some]

/-- What a batch of outcomes comes to. It is a success if all of them are, with something made of their
values in order, and else a failure with something made of what the failures among them were made of. All of
their issues and notices are said, in order, and nothing else. -/
structure SumsUp (os : List (Outcome α)) (values : List α → β) (raws : List Value → Value)
    (o : Outcome β) : Prop where
  verdict : o.isSuccess = true ↔ ∀ p ∈ os, p.isSuccess = true
  value : ∀ v, o.value? = some v → ∃ vs, os.map value? = vs.map some ∧ v = values vs
  raw : ∀ w, o.raw? = some w → w = raws (os.filterMap raw?)
  remarks : o.remarks = Remarks.all (os.map remarks)

/-- The verdict can be left to the issues that were gathered. -/
theorem sumsUp_settle {values : List α → β} {raws : List Value → Value} (value : β) (raw : Value)
    (hvalue : ∀ vs, os.map value? = vs.map some → value = values vs)
    (hraw : raw = raws (os.filterMap raw?)) :
    SumsUp os values raws
      (settle ((os.filterMap rejection?).flatMap (·.issues)) value raw (os.flatMap notices)) := by
  have hverdict := filterMap_rejection?_eq_nil_iff os
  have hremarks := remarks_settle ((os.filterMap rejection?).flatMap (·.issues)) value raw
    (os.flatMap notices)
  rw [← all_remarks] at hremarks
  by_cases h : os.filterMap rejection? = []
  · obtain ⟨vs, hvs⟩ := exists_values h
    rw [h, List.flatMap_nil, settle_nil] at hremarks ⊢
    refine ⟨iff_of_true rfl (hverdict.mp h), ?_, nofun, hremarks⟩
    intro v hv
    exact ⟨vs, hvs, (Option.some.inj hv).symm.trans (hvalue vs hvs)⟩
  · rw [settle_of_ne (issues_ne_nil h)] at hremarks ⊢
    refine ⟨iff_of_false Bool.false_ne_true (mt hverdict.mpr h), nofun, ?_, hremarks⟩
    intro w hw
    exact (Option.some.inj hw).symm.trans hraw

theorem sumsUp_combine (os : List (Outcome α)) : SumsUp os id .list (combine os) := by
  refine sumsUp_settle _ _ (fun vs hvs => filterMap_value? hvs) ?_
  rw [map_raw]

theorem keyed_values (h : (Table.values t).map value? = vs.map some) :
    (t.filterMap fun (k, o) => o.value?.map (k, ·)) = (Table.names t).zip vs := by
  induction t generalizing vs with
  | nil => rfl
  | cons e t ih =>
    obtain ⟨k, o⟩ := e
    cases vs with
    | nil => cases h
    | cons v vs =>
      obtain ⟨hv, hvs⟩ := List.cons.inj h
      have hfirst : o.value? = some v := hv
      simp only [List.filterMap_cons, hfirst, Option.map_some, ih hvs]
      rfl

theorem keyed_raws (t : Table (Outcome α)) :
    (t.filterMap fun (k, o) => o.rejection?.map fun r => (k, r.raw)) =
      (Table.names (t.filter (·.2.isFailure))).zip ((Table.values t).filterMap raw?) := by
  induction t with
  | nil => rfl
  | cons e t ih =>
    obtain ⟨k, o⟩ := e
    cases o with
    | success v ns => exact ih
    | failure r => exact congrArg ((k, r.raw) :: ·) ih

theorem sumsUp_sequence (t : Table (Outcome α)) : SumsUp (Table.values t) ((Table.names t).zip ·)
    (fun raws => .map ((Table.names (t.filter (·.2.isFailure))).zip raws)) (sequence t) := by
  refine sumsUp_settle _ _ (fun vs hvs => keyed_values hvs) ?_
  rw [keyed_raws]

theorem combine_of_no_failure (h : os.filterMap rejection? = []) :
    combine os = .success (os.filterMap value?) (os.flatMap notices) := by
  rw [combine, h, List.flatMap_nil, settle_nil]

theorem combine_of_failure (h : os.filterMap rejection? ≠ []) : combine os =
    .failure ⟨(os.filterMap rejection?).flatMap (·.issues),
      .list ((os.filterMap rejection?).map (·.raw)), os.flatMap notices, issues_ne_nil h⟩ :=
  settle_of_ne (issues_ne_nil h) _ _ _

/-- The members of two lists as one list. -/
def bothRaw : Value → Value → Value
  | .list ws, .list ws' => .list (ws ++ ws')
  | w, _ => w

/-- What two batches come to when they are taken as one. A failure outweighs a success, of which nothing but
the notices is left. -/
def join : Outcome (List α) → Outcome (List α) → Outcome (List α)
  | .success vs ns, .success vs' ns' => .success (vs ++ vs') (ns ++ ns')
  | .success _ ns, .failure r => .failure { r with notices := ns ++ r.notices }
  | .failure r, .success _ ns => .failure { r with notices := r.notices ++ ns }
  | .failure r, .failure r' => .failure ⟨r.issues ++ r'.issues, bothRaw r.raw r'.raw,
      r.notices ++ r'.notices, List.append_ne_nil_of_left_ne_nil r.nonempty _⟩

/-- What two batches come to as one depends on what each of them comes to and on nothing else. -/
theorem combine_append (xs ys : List (Outcome α)) :
    combine (xs ++ ys) = (combine xs).join (combine ys) := by
  have hfailures : (xs ++ ys).filterMap rejection? =
      xs.filterMap rejection? ++ ys.filterMap rejection? := List.filterMap_append
  by_cases hx : xs.filterMap rejection? = [] <;> by_cases hy : ys.filterMap rejection? = []
  · rw [hx, hy] at hfailures
    rw [combine_of_no_failure hfailures, combine_of_no_failure hx, combine_of_no_failure hy, join,
      List.filterMap_append, List.flatMap_append]
  · have hne : (xs ++ ys).filterMap rejection? ≠ [] := by rw [hfailures]; simp [hy]
    rw [combine_of_failure hne, combine_of_no_failure hx, combine_of_failure hy, join]
    simp only [hfailures, hx, List.nil_append, List.flatMap_append]
  · have hne : (xs ++ ys).filterMap rejection? ≠ [] := by rw [hfailures]; simp [hx]
    rw [combine_of_failure hne, combine_of_failure hx, combine_of_no_failure hy, join]
    simp only [hfailures, hy, List.append_nil, List.flatMap_append]
  · have hne : (xs ++ ys).filterMap rejection? ≠ [] := by rw [hfailures]; simp [hx]
    rw [combine_of_failure hne, combine_of_failure hx, combine_of_failure hy, join]
    simp only [hfailures, bothRaw, List.map_append, List.flatMap_append]

/-- Batches lose nothing and make nothing up, with or without names, and they can be taken in parts. -/
theorem batches_sum_up (os ys : List (Outcome α)) (t : Table (Outcome α)) :
    SumsUp os id .list (combine os) ∧
      combine (os ++ ys) = (combine os).join (combine ys) ∧
      SumsUp (Table.values t) ((Table.names t).zip ·)
        (fun raws => .map ((Table.names (t.filter (·.2.isFailure))).zip raws)) (sequence t) ∧
      (sequence t).isSuccess = (combine (Table.values t)).isSuccess ∧
      (sequence t).remarks = (combine (Table.values t)).remarks := by
  have hcombine := sumsUp_combine (Table.values t)
  have hsequence := sumsUp_sequence t
  refine ⟨sumsUp_combine os, combine_append os ys, hsequence, ?_, ?_⟩
  · rw [Bool.eq_iff_iff, hsequence.verdict, hcombine.verdict]
  · rw [hsequence.remarks, hcombine.remarks]

end Outcome

end Intake
