import Intake.Proofs.Run.Codes
import Intake.Proofs.Run.Keywords
import Intake.Proofs.Run.Remarks

namespace Intake

open Context

/-- A place is that of an entry, or inside the value of the entry. -/
def IsInside (name path : String) : Prop :=
  path = name ∨ (name ++ ".").toList <+: path.toList ∨ (name ++ "[").toList <+: path.toList

instance (name path : String) : Decidable (IsInside name path) :=
  inferInstanceAs (Decidable (_ ∨ _ ∨ _))

theorem isInside_self (name : String) : IsInside name name := .inl rfl

theorem isInside_dot (name rest : String) : IsInside name (name ++ "." ++ rest) := by
  refine .inr (.inl ?_)
  rw [String.toList_append (s := name ++ ".")]
  exact List.prefix_append _ _

theorem isInside_bracket (name rest : String) : IsInside name (name ++ "[" ++ rest) := by
  refine .inr (.inr ?_)
  rw [String.toList_append (s := name ++ "[")]
  exact List.prefix_append _ _

theorem isInside_joinPath (name child : String) : IsInside name (joinPath name child) := by
  unfold joinPath
  split_ifs with hwhole hbracket
  · exact isInside_self name
  · obtain ⟨rest, hrest⟩ := List.head?_eq_some_iff.mp hbracket
    refine .inr (.inr ?_)
    rw [String.toList_append, String.toList_append, hrest]
    exact ⟨rest, by simp⟩
  · exact isInside_dot name child

/-- What is inside an element of a list is inside the list. -/
theorem isInside_joinPath_elementPlace (name child : String) (i : Nat) :
    IsInside name (joinPath (elementPlace name i) child) := by
  unfold joinPath elementPlace
  split_ifs <;> simp only [String.append_assoc] <;> rw [← String.append_assoc] <;>
    exact isInside_bracket name _

theorem isInside_dropped (name type : String) (p : Position) :
    IsInside name (Outline.dropped name type p).path := by
  cases p with
  | index n =>
    have hpath : (Outline.dropped name type (.index n)).path = name ++ "[" ++ (toString n ++ "]") :=
      String.append_assoc ..
    rw [hpath]
    exact isInside_bracket name _
  | key k => exact isInside_dot name k

/-- Nothing is said of anything outside one entry. -/
structure Remarks.Inside (name : String) (r : Remarks) : Prop where
  issues : ∀ i ∈ r.issues, IsInside name i.path
  notices : ∀ n ∈ r.notices, IsInside name n.path

namespace Remarks

variable {name : String} {r s : Remarks}

theorem inside_none (name : String) : none.Inside name :=
  ⟨fun _ h => absurd h List.not_mem_nil, fun _ h => absurd h List.not_mem_nil⟩

theorem Inside.append (hr : r.Inside name) (hs : s.Inside name) : (r ++ s).Inside name :=
  ⟨List.forall_mem_append.mpr ⟨hr.issues, hs.issues⟩,
    List.forall_mem_append.mpr ⟨hr.notices, hs.notices⟩⟩

theorem inside_issue {i : Issue} (h : i.path = name) : Inside name ⟨[i], []⟩ := by
  refine ⟨fun j hj => ?_, fun _ h => absurd h List.not_mem_nil⟩
  rw [List.mem_singleton.mp hj, h]
  exact isInside_self name

theorem inside_under {place : String} (h : ∀ child, IsInside name (joinPath place child))
    (r : Remarks) : (r.under place).Inside name := by
  constructor
  · intro i hi
    obtain ⟨j, -, rfl⟩ := List.mem_map.mp hi
    exact h j.path
  · intro n hn
    obtain ⟨m, -, rfl⟩ := List.mem_map.mp hn
    exact h m.path

end Remarks

/-- What a part of a run adds to a state and puts under one name, and the fault by which it stops if it
does. -/
structure Effect where
  remarks : Remarks
  events : List Event
  typed? : Option Value
  fault? : Option Fault

def Context.adding (c : Context) (r : Remarks) (es : List Event) : Context :=
  { c with issues := c.issues ++ r.issues, notices := c.notices ++ r.notices, events := c.events ++ es }

namespace Effect

variable {name : String} {c : Context}

def apply (e : Effect) (name : String) : Step := fun c =>
  ({ c.adding e.remarks e.events with
    coerced := e.typed?.elim c.coerced (Table.put c.coerced name) }, e.fault?)

def nothing : Effect := ⟨.none, [], none, none⟩

def andThen (a b : Effect) : Effect :=
  match a.fault? with
  | some _ => a
  | none => ⟨a.remarks ++ b.remarks, a.events ++ b.events, b.typed?.or a.typed?, b.fault?⟩

theorem apply_nothing (name : String) : nothing.apply name = Step.done := by
  funext c
  simp [apply, nothing, adding, Remarks.none, Step.done]

theorem apply_andThen (a b : Effect) (name : String) :
    Step.andThen (a.apply name) (b.apply name) = (a.andThen b).apply name := by
  funext c
  obtain ⟨r, es, typed?, fault | f⟩ := a
  · obtain ⟨r', es', typed?', fault?'⟩ := b
    cases typed? <;> cases typed?' <;>
      simp [Step.andThen, apply, andThen, adding, List.append_assoc, Table.put_put]
  · rfl

@[simp] theorem data_apply (e : Effect) : (e.apply name c).1.data = c.data := rfl

theorem remarks_apply (e : Effect) : (e.apply name c).1.remarks = c.remarks ++ e.remarks := rfl

theorem get?_coerced_apply_self (e : Effect) :
    Table.get? (e.apply name c).1.coerced name = e.typed?.or (Table.get? c.coerced name) := by
  obtain ⟨r, es, typed | v, fault?⟩ := e
  · rfl
  · exact Table.get?_put_self _ _ _

theorem get?_coerced_apply_of_ne {other : String} (e : Effect) (h : name ≠ other) :
    Table.get? (e.apply name c).1.coerced other = Table.get? c.coerced other := by
  obtain ⟨r, es, typed | v, fault?⟩ := e
  · rfl
  · exact (Table.get?_put _ _ _ _).trans (if_neg h)

end Effect

namespace Step

variable {s a b : Step} {name : String}

/-- A part of a run that depends on what stands under one name alone, and leaves its mark there alone. -/
def Concerns (s : Step) (name : String) : Prop :=
  ∀ raw? typed? : Option Value, ∃ e : Effect, e.remarks.Inside name ∧
    ∀ c : Context, Table.get? c.data name = raw? → Table.get? c.coerced name = typed? →
      s c = e.apply name c

theorem concerns_apply {e : Effect} (h : e.remarks.Inside name) : (e.apply name).Concerns name :=
  fun _ _ => ⟨e, h, fun _ _ _ => rfl⟩

theorem concerns_done (name : String) : done.Concerns name :=
  Effect.apply_nothing name ▸ concerns_apply (Remarks.inside_none name)

theorem Concerns.andThen (ha : a.Concerns name) (hb : b.Concerns name) :
    (andThen a b).Concerns name := by
  intro raw? typed?
  obtain ⟨e, he, hrun⟩ := ha raw? typed?
  obtain ⟨e', he', hrun'⟩ := hb raw? (e.typed?.or typed?)
  refine ⟨e.andThen e', ?_, fun c hraw htyped => ?_⟩
  · unfold Effect.andThen
    split
    · exact he
    · exact he.append he'
  · rw [← Effect.apply_andThen]
    have hafter := hrun' (e.apply name c).1 hraw (htyped ▸ e.get?_coerced_apply_self)
    unfold Step.andThen
    rw [hrun c hraw htyped]
    rcases hc : e.apply name c with ⟨d, _ | f⟩
    · rw [hc] at hafter
      exact hafter
    · rfl

/-- A part of a run that has nothing to do where nothing stands under the name. -/
def IdlesWithout (s : Step) (name : String) : Prop :=
  ∀ c : Context, Table.get? c.data name = none → Table.get? c.coerced name = none →
    (s c).2 = none ∧ (s c).1.coerced = c.coerced

end Step

namespace Validator

variable {name : String} {k : Constraint} {vs : List Validator}

theorem concerns_constraint (name : String) (k : Constraint) :
    Step.Concerns (Validator.constraint name k).run name := by
  intro raw? typed?
  let found := k.check name (typed?.getD (raw?.getD .null))
  refine ⟨⟨⟨found.issues, []⟩, [], none, found.fault⟩, ⟨fun i hi => ?_, ?_⟩, fun c hraw htyped => ?_⟩
  · exact (k.lists_check name _).path i hi ▸ isInside_self name
  · exact fun _ h => absurd h List.not_mem_nil
  · have hvalue : c.fieldValue name .null = typed?.getD (raw?.getD .null) := by
      rw [fieldValue, rawValue, hraw, htyped]
      cases typed? <;> rfl
    rw [run, hvalue]
    simp [settle, Effect.apply, adding, addIssues, found]

theorem concerns_runAll (h : ∀ v ∈ vs, ∃ k, v = .constraint name k ∧ k.IsKeyword) :
    Step.Concerns (runAll vs) name := by
  induction vs with
  | nil => exact Step.concerns_done name
  | cons v vs ih =>
    obtain ⟨k, rfl, -⟩ := h v List.mem_cons_self
    rw [runAll_cons]
    exact (concerns_constraint name k).andThen (ih fun v hv => h v (List.mem_cons_of_mem _ hv))

end Validator

namespace Outline

variable {o : Outline} {many : Option Bool} {f : Field}

theorem concerns_checkPresence (f : Field) : (checkPresence f).Concerns f.name := by
  intro raw? typed?
  by_cases h : (f.required && (raw?.getD .null).isBlank) = true
  · refine ⟨⟨⟨[.required f.name], []⟩, [], none, none⟩, Remarks.inside_issue rfl, fun c hraw _ => ?_⟩
    rw [checkPresence, isMissing, hraw, if_pos h]
    simp [Effect.apply, adding, addIssue]
  · refine ⟨.nothing, Remarks.inside_none _, fun c hraw _ => ?_⟩
    rw [checkPresence, isMissing, hraw, if_neg h, Effect.apply_nothing]
    rfl

theorem concerns_checkField (o : Outline) (many : Option Bool)
    (hf : ∀ v ∈ f.validators, ∃ k, v = .constraint f.name k ∧ k.IsKeyword) :
    (o.checkField many f).Concerns f.name := by
  intro raw? typed?
  cases raw? with
  | none =>
    refine ⟨.nothing, Remarks.inside_none _, fun c hraw _ => ?_⟩
    rw [checkField_of_absent hraw, Effect.apply_nothing]
    rfl
  | some v =>
    by_cases hn : v = .null
    · subst hn
      refine ⟨⟨.none, [], some .null, none⟩, Remarks.inside_none _, fun c hraw _ => ?_⟩
      rw [checkField_of_null hraw]
      simp [Effect.apply, adding, setCoerced, Remarks.none]
    by_cases hs : isSkipped f v = true
    · refine ⟨.nothing, Remarks.inside_none _, fun c hraw _ => ?_⟩
      rw [checkField_of_skipped hraw hn hs, Effect.apply_nothing]
      rfl
    let es := o.typingEvents many f v
    cases ht : o.typed many f v with
    | faulty fault =>
      refine ⟨⟨.none, es, none, some fault.fault⟩, Remarks.inside_none _, fun c hraw _ => ?_⟩
      rw [checkField_of_value hraw hn hs, ht]
      simp [Effect.apply, adding, log, Remarks.none, es]
    | refused =>
      refine ⟨⟨⟨[.notCoercible f.name v f.type], []⟩, es, none, none⟩, Remarks.inside_issue rfl,
        fun c hraw _ => ?_⟩
      rw [checkField_of_value hraw hn hs, ht]
      simp [Effect.apply, adding, log, addIssue, es]
    | accepted w ps =>
      let entry : Effect := ⟨⟨[], ps.map (dropped f.name f.type)⟩, es, some w, none⟩
      have hentry : entry.remarks.Inside f.name := by
        refine ⟨fun _ h => absurd h List.not_mem_nil, fun n hn => ?_⟩
        obtain ⟨p, -, rfl⟩ := List.mem_map.mp hn
        exact isInside_dropped f.name f.type p
      have hboth := (Step.concerns_apply hentry).andThen (Validator.concerns_runAll hf)
      obtain ⟨e, he, hrun⟩ := hboth (some v) typed?
      refine ⟨e, he, fun c hraw htyped => ?_⟩
      have henter : entry.apply f.name c = (o.enter many f v w ps c, none) := by
        simp [Effect.apply, adding, enter, log, setCoerced, addNotices, entry, es]
      rw [checkField_of_value hraw hn hs, ht, ← hrun c hraw htyped, Step.andThen_of_none henter]

theorem idles_checkPresence (f : Field) : (checkPresence f).IdlesWithout f.name := by
  intro c _ _
  unfold checkPresence
  split_ifs <;> exact ⟨rfl, rfl⟩

theorem idles_checkField (o : Outline) (many : Option Bool) (f : Field) :
    (o.checkField many f).IdlesWithout f.name := by
  intro c hraw _
  rw [checkField_of_absent hraw]
  exact ⟨rfl, rfl⟩

end Outline

/-- A part of a run that adds the same to every state, remarks inside one entry among them, and comes to
the same result. -/
def Context.Adds {α : Type} (name : String) (run : Context → Context × α) : Prop :=
  ∃ (r : Remarks) (es : List Event) (x : α), r.Inside name ∧ ∀ c : Context, run c = (c.adding r es, x)

namespace Schema

variable {name path : String} {r : Verdict}

theorem adds_merge (h : ∀ child, IsInside name (joinPath path child)) (r : Verdict) :
    Adds name (merge path r) := by
  obtain ⟨f | outcome, es⟩ := r
  · refine ⟨.none, es, .error f, Remarks.inside_none name, fun c => ?_⟩
    simp [merge, adding, log, Remarks.none]
  · cases outcome with
    | success out ns =>
      refine ⟨Remarks.under path ⟨[], ns⟩, es, .ok (.map out), Remarks.inside_under h _, fun c => ?_⟩
      simp [merge, adding, log, addNotices, Remarks.under, Outcome.notices]
    | failure e =>
      refine ⟨Remarks.under path ⟨e.issues, e.notices⟩, es, .ok .null, Remarks.inside_under h _,
        fun c => ?_⟩
      simp [merge, adding, log, addNotices, addIssues, Remarks.under, Outcome.notices]

theorem adds_mergeElements (name : String) (check : Value → Verdict) (i : Nat) (vs : List Value) :
    Adds name (mergeElements name check i vs) := by
  induction vs generalizing i with
  | nil =>
    refine ⟨.none, [], .ok [], Remarks.inside_none name, fun c => ?_⟩
    simp [mergeElements, adding, Remarks.none]
  | cons v rest ih =>
    obtain ⟨r, es, x, hr, hrest⟩ := ih (i + 1)
    by_cases hv : ∃ entries, v = .map entries
    · obtain ⟨entries, rfl⟩ := hv
      have helement : Adds name (merge (elementPlace name i) (check (.map entries))) :=
        adds_merge (fun child => isInside_joinPath_elementPlace name child i) _
      obtain ⟨r', es', x', hr', hmerge⟩ := helement
      cases x' with
      | error f =>
        refine ⟨r', es', .error f, hr', fun c => ?_⟩
        rw [mergeElements_of_map, ← elementPlace, hmerge c]
      | ok w =>
        refine ⟨r' ++ r, es' ++ es, x.map (w :: ·), hr'.append hr, fun c => ?_⟩
        rw [mergeElements_of_map, ← elementPlace, hmerge c]
        simp [hrest, adding]
    · let i' : Issue := .typeMismatch (elementPlace name i) "object" v.kind
      refine ⟨⟨[i'], []⟩ ++ r, es, x, ?_, fun c => ?_⟩
      · refine Remarks.Inside.append ⟨fun j hj => ?_, fun _ h => absurd h List.not_mem_nil⟩ hr
        rw [List.mem_singleton.mp hj]
        have hplace : i'.path = name ++ "[" ++ (toString i ++ "]") := String.append_assoc ..
        rw [hplace]
        exact isInside_bracket name _
      · rw [mergeElements_of_not_map (not_exists.mp hv), hrest]
        simp [adding, addIssue, i', elementPlace]

end Schema

namespace Binding

variable {b : Binding}

/-- What a part of a run has come to is put under the name, or stops the run. -/
theorem exists_effect_settle {name : String} {run : Context → Context × Except Fault Value}
    (h : Adds name run) :
    ∃ e : Effect, e.remarks.Inside name ∧ ∀ c, Schema.settle name (run c) = e.apply name c := by
  obtain ⟨r, es, x, hr, hrun⟩ := h
  cases x with
  | error f => exact ⟨⟨r, es, none, some f⟩, hr, fun c => by rw [hrun]; rfl⟩
  | ok w => exact ⟨⟨r, es, some w, none⟩, hr, fun c => by rw [hrun]; rfl⟩

theorem concerns_check (b : Binding) : b.check.Concerns b.name := by
  intro raw? typed?
  cases typed? with
  | none =>
    refine ⟨.nothing, Remarks.inside_none _, fun c _ htyped => ?_⟩
    rw [check_of_absent htyped, Effect.apply_nothing]
    rfl
  | some v =>
    by_cases hn : v = .null
    · refine ⟨.nothing, Remarks.inside_none _, fun c _ htyped => ?_⟩
      rw [check_of_null (hn ▸ htyped), Effect.apply_nothing]
      rfl
    by_cases hm : b.many = true
    · by_cases hlist : ∃ vs, v = .list vs
      · obtain ⟨vs, rfl⟩ := hlist
        obtain ⟨r, es, x, hr, hrun⟩ := Schema.adds_mergeElements b.name b.schema.validate 0 vs
        have hlists : Adds b.name fun c : Context =>
            ((Schema.mergeElements b.name b.schema.validate 0 vs c).1,
              (Schema.mergeElements b.name b.schema.validate 0 vs c).2.map Value.list) :=
          ⟨r, es, x.map .list, hr, fun c => by simp only [hrun]⟩
        obtain ⟨e, he, hsettle⟩ := exists_effect_settle hlists
        exact ⟨e, he, fun c _ htyped => (check_of_list htyped hm).trans (hsettle c)⟩
      · refine ⟨.nothing, Remarks.inside_none _, fun c _ htyped => ?_⟩
        rw [check_of_not_list htyped hm (not_exists.mp hlist), Effect.apply_nothing]
        rfl
    · have hmerge := Schema.adds_merge (isInside_joinPath b.name) (b.schema.validate v)
      obtain ⟨e, he, hsettle⟩ := exists_effect_settle hmerge
      exact ⟨e, he, fun c _ htyped => (check_of_one htyped hn hm).trans (hsettle c)⟩

theorem idles_check (b : Binding) : b.check.IdlesWithout b.name := by
  intro c _ htyped
  rw [check_of_absent htyped]
  exact ⟨rfl, rfl⟩

end Binding

end Intake
