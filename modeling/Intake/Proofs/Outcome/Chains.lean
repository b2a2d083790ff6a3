import Intake.Proofs.Outcome.Batches

namespace Intake

namespace Outcome

/-- An outcome and what is made of it: steps that follow one another, each with any function, and batches
of chains, in any nesting. -/
inductive Chain : Type → Type 1 where
  | start {α : Type} (o : Outcome α) : Chain α
  | map {α β : Type} (f : α → β) (c : Chain α) : Chain β
  | flatMap {α β : Type} (f : α → Outcome β) (c : Chain α) : Chain β
  | combine {α : Type} {n : Nat} (cs : Fin n → Chain α) : Chain (List α)
  | sequence {α : Type} {n : Nat} (names : Fin n → String) (cs : Fin n → Chain α) : Chain (Table α)

/-- The notices of a success, as one list among others. -/
def spoken {α : Type} : Outcome α → List (List Notice)
  | .success _ ns => [ns]
  | .failure _ => []

namespace Chain

/-- What a chain comes to. -/
def outcome : {α : Type} → Chain α → Outcome α
  | _, start o => o
  | _, map f c => c.outcome.map f
  | _, flatMap f c => c.outcome.flatMap f
  | _, combine cs => Outcome.combine (List.ofFn fun i => (cs i).outcome)
  | _, sequence names cs => Outcome.sequence (List.ofFn fun i => (names i, (cs i).outcome))

/-- The notices of every success that a chain passes through, its own outcome included. -/
def successes : {α : Type} → Chain α → List (List Notice)
  | _, start o => o.spoken
  | _, map f c => c.successes ++ (map f c).outcome.spoken
  | _, flatMap f c => c.successes ++ (flatMap f c).outcome.spoken
  | _, combine cs => (List.ofFn fun i => (cs i).successes).flatten ++ (combine cs).outcome.spoken
  | _, sequence names cs =>
    (List.ofFn fun i => (cs i).successes).flatten ++ (sequence names cs).outcome.spoken

/-- The notices of every success whose value was handed to a step that makes an outcome of its own. -/
def handedOn : {α : Type} → Chain α → List (List Notice)
  | _, start _ => []
  | _, map _ c => c.handedOn
  | _, flatMap _ c => c.handedOn ++ c.outcome.spoken
  | _, combine cs => (List.ofFn fun i => (cs i).handedOn).flatten
  | _, sequence _ cs => (List.ofFn fun i => (cs i).handedOn).flatten

/-- The notices that a chain starts with, in order. -/
def initial : {α : Type} → Chain α → List Notice
  | _, start o => o.notices
  | _, map _ c => c.initial
  | _, flatMap _ c => c.initial
  | _, combine cs => (List.ofFn fun i => (cs i).initial).flatten
  | _, sequence _ cs => (List.ofFn fun i => (cs i).initial).flatten

end Chain

variable {α β : Type} {ns : List Notice}

theorem notices_eq_remarks (o : Outcome α) : o.notices = o.remarks.notices := by
  cases o <;> rfl

theorem notices_map (f : α → β) (o : Outcome α) : (o.map f).notices = o.notices := by
  cases o <;> rfl

theorem notices_combine (os : List (Outcome α)) : (combine os).notices = os.flatMap notices := by
  rw [notices_eq_remarks, combine, remarks_settle]

theorem notices_sequence (t : Table (Outcome α)) :
    (sequence t).notices = (Table.values t).flatMap notices := by
  rw [notices_eq_remarks, sequence, remarks_settle]

theorem subset_of_mem_spoken {o : Outcome α} (h : ns ∈ o.spoken) : ns ⊆ o.notices := by
  cases o with
  | success v ms => exact (List.mem_singleton.mp h).symm ▸ List.Subset.refl ms
  | failure r => cases h

namespace Chain

variable {n : Nat} {cs : Fin n → Chain α}

theorem notices_outcome_combine (cs : Fin n → Chain α) :
    (combine cs).outcome.notices = (List.ofFn fun i => (cs i).outcome.notices).flatten := by
  rw [outcome, notices_combine, List.flatMap_def, List.map_ofFn]
  rfl

theorem notices_outcome_sequence (names : Fin n → String) (cs : Fin n → Chain α) :
    (sequence names cs).outcome.notices = (List.ofFn fun i => (cs i).outcome.notices).flatten := by
  rw [outcome, notices_sequence, List.flatMap_def, Table.values, List.map_ofFn, List.map_ofFn]
  rfl

theorem mem_flatten_ofFn {γ : Type} {xs : Fin n → List γ} {x : γ} :
    x ∈ (List.ofFn xs).flatten ↔ ∃ i, x ∈ xs i := by
  simp

theorem flatten_ofFn_subset {γ : Type} {xs ys : Fin n → List γ} (h : ∀ i, xs i ⊆ ys i) :
    (List.ofFn xs).flatten ⊆ (List.ofFn ys).flatten := by
  intro x hx
  obtain ⟨i, hi⟩ := mem_flatten_ofFn.mp hx
  exact mem_flatten_ofFn.mpr ⟨i, h i hi⟩

theorem spoken_subset_successes (c : Chain α) : c.outcome.spoken ⊆ c.successes := by
  cases c with
  | start o => exact List.Subset.refl _
  | map f c => exact List.subset_append_right _ _
  | flatMap f c => exact List.subset_append_right _ _
  | combine cs => exact List.subset_append_right _ _
  | sequence names cs => exact List.subset_append_right _ _

theorem handedOn_subset_successes (c : Chain α) : c.handedOn ⊆ c.successes := by
  induction c with
  | start o => exact List.nil_subset _
  | map f c ih => exact List.subset_append_of_subset_left _ ih
  | flatMap f c ih =>
    exact List.subset_append_of_subset_left _ (List.append_subset.mpr ⟨ih, spoken_subset_successes c⟩)
  | combine cs ih => exact List.subset_append_of_subset_left _ (flatten_ofFn_subset ih)
  | sequence names cs ih => exact List.subset_append_of_subset_left _ (flatten_ofFn_subset ih)

/-- Notices that are there at the end of a chain, or were when a success was handed on. -/
def Traced (c : Chain α) (ns : List Notice) : Prop :=
  ns ⊆ c.outcome.notices ∨ ∃ ms ∈ c.handedOn, ns ⊆ ms

theorem traced_of_mem_spoken {c : Chain α} (h : ns ∈ c.outcome.spoken) : c.Traced ns :=
  .inl (subset_of_mem_spoken h)

/-- A batch keeps all that its members come to. -/
theorem traced_of_member {c : Chain β} {i : Fin n}
    (hnotices : c.outcome.notices = (List.ofFn fun i => (cs i).outcome.notices).flatten)
    (hhanded : c.handedOn = (List.ofFn fun i => (cs i).handedOn).flatten) (h : (cs i).Traced ns) :
    c.Traced ns := by
  rcases h with hkept | ⟨ms, hms, hsub⟩
  · refine .inl fun x hx => ?_
    rw [hnotices]
    exact mem_flatten_ofFn.mpr ⟨i, hkept hx⟩
  · refine .inr ⟨ms, ?_, hsub⟩
    rw [hhanded]
    exact mem_flatten_ofFn.mpr ⟨i, hms⟩

theorem traced_flatMap {c : Chain α} (f : α → Outcome β) (h : c.Traced ns) :
    (flatMap f c).Traced ns := by
  rcases h with hkept | ⟨ms, hms, hsub⟩
  · -- A success hands on all that was there at the end so far; a failure stays as it is.
    rw [Traced, outcome, handedOn]
    cases hout : c.outcome with
    | success v ms =>
      rw [hout] at hkept
      exact .inr ⟨ms, List.mem_append_right _ (List.mem_singleton_self _), hkept⟩
    | failure r =>
      rw [hout] at hkept
      exact .inl hkept
  · exact .inr ⟨ms, List.mem_append_left _ hms, hsub⟩

/-- Only where a success is handed on can its notices, and those of the successes before it, be lost. -/
theorem traced_of_mem_successes (c : Chain α) (h : ns ∈ c.successes) : c.Traced ns := by
  induction c with
  | start o => exact traced_of_mem_spoken h
  | map f c ih =>
    rcases List.mem_append.mp h with h | h
    · rw [Traced, outcome, notices_map]
      exact ih h
    · exact traced_of_mem_spoken h
  | flatMap f c ih =>
    rcases List.mem_append.mp h with h | h
    · exact traced_flatMap f (ih h)
    · exact traced_of_mem_spoken h
  | combine cs ih =>
    rcases List.mem_append.mp h with h | h
    · obtain ⟨i, hi⟩ := mem_flatten_ofFn.mp h
      exact traced_of_member (notices_outcome_combine cs) rfl (ih i hi)
    · exact traced_of_mem_spoken h
  | sequence names cs ih =>
    rcases List.mem_append.mp h with h | h
    · obtain ⟨i, hi⟩ := mem_flatten_ofFn.mp h
      exact traced_of_member (notices_outcome_sequence names cs) rfl (ih i hi)
    · exact traced_of_mem_spoken h

theorem handedOn_eq_nil_of_flatten (h : (List.ofFn fun i => (cs i).handedOn).flatten = []) (i : Fin n) :
    (cs i).handedOn = [] := by
  rw [List.flatten_eq_nil_iff] at h
  exact h _ (List.mem_ofFn.mpr ⟨i, rfl⟩)

/-- Where no success is handed on, nothing is lost and nothing comes in. -/
theorem notices_of_handedOn_eq_nil (c : Chain α) (h : c.handedOn = []) : c.outcome.notices = c.initial := by
  induction c with
  | start o => rfl
  | map f c ih => rw [outcome, notices_map, ih h, initial]
  | flatMap f c ih =>
    obtain ⟨hc, hspoken⟩ := List.append_eq_nil_iff.mp h
    rw [outcome, initial, ← ih hc]
    cases hout : c.outcome with
    | success v ms =>
      rw [hout] at hspoken
      cases hspoken
    | failure r => rfl
  | combine cs ih =>
    rw [notices_outcome_combine, initial]
    exact congrArg _ (congrArg _ (funext fun i => ih i (handedOn_eq_nil_of_flatten h i)))
  | sequence names cs ih =>
    rw [notices_outcome_sequence, initial]
    exact congrArg _ (congrArg _ (funext fun i => ih i (handedOn_eq_nil_of_flatten h i)))

/-- The notices of all successes that a chain passes through are there at its end just if those are whose
success was handed to a step with an outcome of its own, which is the only place where notices are lost. A
chain in which none was ends with the notices that it started with, in their order. -/
theorem notices_survive_iff (c : Chain α) :
    ((∀ ns ∈ c.successes, ns ⊆ c.outcome.notices) ↔ ∀ ns ∈ c.handedOn, ns ⊆ c.outcome.notices) ∧
      (c.handedOn = [] → c.outcome.notices = c.initial) := by
  refine ⟨⟨fun h ns hns => h ns (handedOn_subset_successes c hns), fun h ns hns => ?_⟩,
    notices_of_handedOn_eq_nil c⟩
  rcases traced_of_mem_successes c hns with hkept | ⟨ms, hms, hsub⟩
  · exact hkept
  · exact List.Subset.trans hsub (h ms hms)

/-- A number with a notice about it. -/
def noted (n : Nat) (message : String) : Chain Nat :=
  start (.success n [⟨"amount", message, "approximate"⟩])

/-- A number that is doubled, and one that is raised by a step with an outcome of its own. -/
def raised : Chain (List Nat) :=
  combine ![map (2 * ·) (noted 1 "rounded"), flatMap (fun n => .success (n + 1) []) (noted 2 "guessed")]

/-- The same with both numbers doubled. -/
def doubled : Chain (List Nat) :=
  combine ![map (2 * ·) (noted 1 "rounded"), map (2 * ·) (noted 2 "guessed")]

theorem notices_survive_iff_raised :
    (¬∀ ns ∈ raised.successes, ns ⊆ raised.outcome.notices) ∧
      raised.outcome.notices.map (·.message) = ["rounded"] ∧
      (∀ ns ∈ doubled.successes, ns ⊆ doubled.outcome.notices) ∧
      doubled.outcome.notices.map (·.message) = ["rounded", "guessed"] := by
  obtain ⟨hraised, -⟩ := notices_survive_iff raised
  obtain ⟨hdoubled, hinitial⟩ := notices_survive_iff doubled
  refine ⟨mt hraised.mp (by decide), by decide, hdoubled.mpr (by decide), ?_⟩
  rw [hinitial (by decide)]
  decide

end Chain

end Outcome

end Intake
