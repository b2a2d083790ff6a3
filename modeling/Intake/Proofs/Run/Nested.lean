import Intake.Proofs.Run.Growth
import Intake.Proofs.Table

namespace Intake

open Context

/-- The verdict is a success with this payload. -/
def Verdict.Yields (r : Verdict) (out : Table Value) : Prop :=
  ∃ ns, r.result = .ok (.success out ns)

theorem Verdict.Yields.unique {r : Verdict} {out out' : Table Value} (h : r.Yields out)
    (h' : r.Yields out') : out = out' := by
  obtain ⟨ns, hr⟩ := h
  obtain ⟨ns', hr'⟩ := h'
  rw [hr] at hr'
  cases hr'
  rfl

namespace Outline

/-- What a nested schema takes: a map, or a list of values where there are many. -/
inductive Shaped : Bool → Value → Value → Prop where
  | map (es : Table Value) : Shaped false (.map es) (.map es)
  | list (vs : List Value) : Shaped true (.list vs) (.list vs)
  | tuple (vs : List Value) : Shaped true (.tuple vs) (.list vs)

/-- A value that has the shape for a nested schema, or that is the text of one in JSON. -/
inductive Contains (many : Bool) : Value → Value → Prop where
  | plain {v u : Value} (h : Shaped many v u) : Contains many v u
  | json {s : String} {w u : Value} (hw : Json.read s = .ok w) (h : Shaped many w u) :
      Contains many (.text s) u

def shape (many : Bool) : Value → Coerced
  | .list items => if many then .accepted (.list items) [] else .refused
  | .tuple items => if many then .accepted (.list items) [] else .refused
  | .map entries => if many then .refused else .accepted (.map entries) []
  | _ => .refused

theorem shape_eq_accepted_iff {many : Bool} {v u : Value} {ps : List Position} :
    shape many v = .accepted u ps ↔ Shaped many v u ∧ ps = [] := by
  constructor
  · intro h
    cases v <;> cases many <;> simp only [shape] at h <;> cases h
    · exact ⟨.list _, rfl⟩
    · exact ⟨.tuple _, rfl⟩
    · exact ⟨.map _, rfl⟩
  · rintro ⟨h, rfl⟩
    cases h <;> rfl

theorem nestedContainer_text (many : Bool) (s : String) :
    nestedContainer many (.text s) = match Json.read s with
      | .ok w => shape many w
      | .error .tooDeep => .faulty .tooDeep
      | .error _ => .refused := rfl

theorem nestedContainer_of_not_text {v : Value} (h : ∀ s, v ≠ .text s) (many : Bool) :
    nestedContainer many v = shape many v := by
  cases v with
  | text s => exact absurd rfl (h s)
  | _ => rfl

theorem nestedContainer_eq_accepted_iff {many : Bool} {v u : Value} {ps : List Position} :
    nestedContainer many v = .accepted u ps ↔ Contains many v u ∧ ps = [] := by
  by_cases hv : ∃ s, v = .text s
  · obtain ⟨s, rfl⟩ := hv
    rw [nestedContainer_text]
    constructor
    · intro h
      split at h
      · next w hw =>
        obtain ⟨hs, hp⟩ := shape_eq_accepted_iff.mp h
        exact ⟨.json hw hs, hp⟩
      · cases h
      · cases h
    · rintro ⟨h, rfl⟩
      cases h with
      | plain h => cases h
      | json hw h =>
        rw [hw]
        exact shape_eq_accepted_iff.mpr ⟨h, rfl⟩
  · rw [nestedContainer_of_not_text (not_exists.mp hv), shape_eq_accepted_iff]
    constructor
    · rintro ⟨h, hp⟩
      exact ⟨.plain h, hp⟩
    · rintro ⟨h, hp⟩
      cases h with
      | plain h => exact ⟨h, hp⟩
      | json => exact absurd ⟨_, rfl⟩ hv

theorem Contains.unique {many : Bool} {v u u' : Value} (h : Contains many v u)
    (h' : Contains many v u') : u = u' := by
  have h := nestedContainer_eq_accepted_iff.mpr ⟨h, rfl⟩
  have h' := nestedContainer_eq_accepted_iff.mpr ⟨h', rfl⟩
  rw [h] at h'
  exact (Coerced.accepted.inj h').1

theorem Contains.ne_null {many : Bool} {v u : Value} (h : Contains many v u) : u ≠ .null := by
  cases h with
  | plain h => cases h <;> simp
  | json _ h => cases h <;> simp

theorem Contains.is_list {v u : Value} (h : Contains true v u) : ∃ vs, u = .list vs := by
  cases h with
  | plain h => cases h <;> exact ⟨_, rfl⟩
  | json _ h => cases h <;> exact ⟨_, rfl⟩

theorem Contains.is_map {v u : Value} (h : Contains false v u) : ∃ es, u = .map es := by
  cases h with
  | plain h => cases h; exact ⟨_, rfl⟩
  | json _ h => cases h; exact ⟨_, rfl⟩

end Outline

namespace Schema

/-- What a schema makes of a container: the payload of a map, or the payloads of the maps in a list. -/
inductive Cleans (s : Schema) : Bool → Value → Value → Prop where
  | one {v : Value} {out : Table Value} (h : (s.validate v).Yields out) :
      Cleans s false v (.map out)
  | many {vs : List Value} {outs : List (Table Value)}
      (h : List.Forall₂ (fun v out => (s.validate v).Yields out) vs outs) :
      Cleans s true (.list vs) (.list (outs.map .map))

variable {s : Schema} {many : Bool} {v w : Value} {c d : Context} {path name : String}
  {r : Verdict} {out : Table Value}

theorem Cleans.unique {w' : Value} (h : s.Cleans many v w) (h' : s.Cleans many v w') : w = w' := by
  cases h with
  | one h =>
    cases h' with
    | one h' => rw [h.unique h']
  | many h =>
    cases h' with
    | many h' =>
      have hu : Relator.RightUnique fun v out => (s.validate v).Yields out :=
        fun _ _ _ h h' => h.unique h'
      rw [hu.forall₂ h h']

theorem not_yields_of_not_map (h : ∀ entries, v ≠ .map entries) : ¬(s.validate v).Yields out := by
  rintro ⟨ns, hr⟩
  obtain ⟨o, bs⟩ := s
  rw [validate] at hr
  cases v with
  | map entries => exact h entries rfl
  | _ => cases hr

theorem merge_reports (path : String) (r : Verdict) (c : Context) :
    c.Reports (merge path r c).1 := by
  unfold merge
  rcases r with ⟨f | outcome, es⟩
  · exact reports_log c es
  · have h := (reports_log c es).trans (reports_addNotices _
      (outcome.notices.map fun n => n.moved (joinPath path n.path)))
    cases outcome with
    | success out ns => exact h
    | failure e => exact h.trans (reports_addIssues _ _)

theorem merge_of_yields (h : r.Yields out) (path : String) (c : Context) :
    ∃ d, merge path r c = (d, .ok (.map out)) ∧ d.issues = c.issues := by
  obtain ⟨ns, hr⟩ := h
  unfold merge
  rw [hr]
  exact ⟨_, rfl, rfl⟩

/-- A verdict that adds no issue and no fault is a success. -/
theorem yields_of_merge (h : merge path r c = (d, .ok w)) (hi : d.issues = c.issues) :
    ∃ out, r.Yields out ∧ w = .map out := by
  unfold merge at h
  rcases hr : r.result with f | (⟨out, ns⟩ | e)
  · rw [hr] at h
    cases (Prod.mk.inj h).2
  · rw [hr] at h
    exact ⟨out, ⟨ns, hr⟩, (Except.ok.inj (Prod.mk.inj h).2).symm⟩
  · rw [hr] at h
    have hd : c.issues ++ e.issues.map (fun i => i.moved (joinPath path i.path)) = c.issues :=
      (congrArg Context.issues (Prod.mk.inj h).1).trans hi
    have hnil := List.append_right_eq_self.mp hd
    exact absurd (List.map_eq_nil_iff.mp hnil) e.nonempty

theorem mergeElements_of_map (name : String) (check : Value → Verdict) (i : Nat)
    (entries : Table Value) (rest : List Value) (c : Context) :
    mergeElements name check i (.map entries :: rest) c =
      match merge (name ++ "[" ++ toString i ++ "]") (check (.map entries)) c with
      | (d, .error f) => (d, .error f)
      | (d, .ok w) =>
        let (e, ws) := mergeElements name check (i + 1) rest d
        (e, ws.map (w :: ·)) := rfl

theorem mergeElements_of_not_map (h : ∀ entries, v ≠ .map entries) (name : String)
    (check : Value → Verdict) (i : Nat) (rest : List Value) (c : Context) :
    mergeElements name check i (v :: rest) c = mergeElements name check (i + 1) rest
      (c.addIssue (.typeMismatch (name ++ "[" ++ toString i ++ "]") "object" v.kind)) := by
  cases v with
  | map entries => exact absurd rfl (h entries)
  | _ => rfl

theorem mergeElements_reports (name : String) (check : Value → Verdict) (i : Nat) (vs : List Value)
    (c : Context) : c.Reports (mergeElements name check i vs c).1 := by
  induction vs generalizing i c with
  | nil => exact Reports.refl c
  | cons v rest ih =>
    by_cases hv : ∃ entries, v = .map entries
    · obtain ⟨entries, rfl⟩ := hv
      have h := merge_reports (name ++ "[" ++ toString i ++ "]") (check (.map entries)) c
      rw [mergeElements_of_map]
      rcases hm : merge (name ++ "[" ++ toString i ++ "]") (check (.map entries)) c with ⟨d, f | w⟩
      · rwa [hm] at h
      · rw [hm] at h
        exact h.trans (ih (i + 1) d)
    · rw [mergeElements_of_not_map (not_exists.mp hv)]
      exact (reports_addIssue c _).trans (ih (i + 1) _)

theorem mergeElements_of_forall₂ {vs : List Value} {outs : List (Table Value)}
    (h : List.Forall₂ (fun v out => (s.validate v).Yields out) vs outs) (name : String) (i : Nat)
    (c : Context) :
    ∃ d, mergeElements name s.validate i vs c = (d, .ok (outs.map .map)) ∧
      d.issues = c.issues := by
  induction h generalizing i c with
  | nil => exact ⟨c, rfl, rfl⟩
  | @cons v out vs outs hv hvs ih =>
    by_cases hmap : ∃ entries, v = .map entries
    · obtain ⟨entries, rfl⟩ := hmap
      obtain ⟨d, hd, hdi⟩ := merge_of_yields hv (name ++ "[" ++ toString i ++ "]") c
      obtain ⟨e, he, hei⟩ := ih (i + 1) d
      refine ⟨e, ?_, hei.trans hdi⟩
      rw [mergeElements_of_map, hd]
      simp only [he]
      rfl
    · exact absurd hv (not_yields_of_not_map (not_exists.mp hmap))

theorem forall₂_of_mergeElements {vs ws : List Value} {i : Nat}
    (h : mergeElements name s.validate i vs c = (d, .ok ws)) (hi : d.issues = c.issues) :
    ∃ outs, List.Forall₂ (fun v out => (s.validate v).Yields out) vs outs ∧ ws = outs.map .map := by
  induction vs generalizing i c d ws with
  | nil =>
    obtain ⟨-, hw⟩ := Prod.mk.inj h
    exact ⟨[], .nil, (Except.ok.inj hw).symm⟩
  | cons v rest ih =>
    by_cases hmap : ∃ entries, v = .map entries
    · obtain ⟨entries, rfl⟩ := hmap
      rw [mergeElements_of_map] at h
      have hr := merge_reports (name ++ "[" ++ toString i ++ "]") (s.validate (.map entries)) c
      rcases hm : merge (name ++ "[" ++ toString i ++ "]") (s.validate (.map entries)) c with
        ⟨e, f | w⟩
      · rw [hm] at h
        cases (Prod.mk.inj h).2
      rw [hm] at h hr
      have hrest := mergeElements_reports name s.validate (i + 1) rest e
      rcases hms : mergeElements name s.validate (i + 1) rest e with ⟨e', f | ws'⟩
      · simp only [hms] at h
        cases (Prod.mk.inj h).2
      simp only [hms] at h hrest
      obtain ⟨rfl, hw⟩ := Prod.mk.inj h
      -- Issues are never taken back: if none is left over at the end, none was added on the way.
      have he : e.issues = c.issues := hr.toGrows.issues_eq hrest.toGrows hi
      obtain ⟨out, hout, rfl⟩ := yields_of_merge hm he
      obtain ⟨outs, houts, rfl⟩ := ih hms (hi.trans he.symm)
      exact ⟨out :: outs, .cons hout houts, (Except.ok.inj hw).symm⟩
    · rw [mergeElements_of_not_map (not_exists.mp hmap)] at h
      -- The issue about an element that is no map would still be there at the end.
      have hrest := mergeElements_reports name s.validate (i + 1) rest
        (c.addIssue (.typeMismatch (name ++ "[" ++ toString i ++ "]") "object" v.kind))
      rw [h] at hrest
      have hle := hrest.issues.length_le
      rw [hi] at hle
      simp only [addIssue, List.length_append, List.length_singleton] at hle
      omega

theorem get?_nestedFields {bs : List Binding} (hn : (bs.map Binding.name).Nodup) {b : Binding}
    (hb : b ∈ bs) : Table.get? (nestedFields bs) b.name = some b.many :=
  Table.get?_map Binding.name Binding.many hn hb

theorem get?_nestedFields_of_not_mem {bs : List Binding} (h : name ∉ bs.map Binding.name) :
    Table.get? (nestedFields bs) name = none := by
  rw [Table.get?_eq_none_iff, nestedFields, Table.names, List.map_map]
  exact h

end Schema

namespace Binding

/-- What a nested schema turns the value into under which its field goes on. -/
inductive Turns (b : Binding) : Option Value → Option Value → Prop where
  | absent : Turns b none none
  | null : Turns b (some .null) (some .null)
  | other {v : Value} (hm : b.many = true) (hv : ∀ vs, v ≠ .list vs) : Turns b (some v) (some v)
  | cleaned {v w : Value} (hn : v ≠ .null) (h : b.schema.Cleans b.many v w) :
      Turns b (some v) (some w)

variable {b : Binding} {c d : Context} {v : Value} {w? : Option Value}

def check (b : Binding) : Step := Schema.checkBinding b.name b.many fun v => b.schema.validate v

theorem checkBindings_eq_all (bs : List Binding) :
    Schema.checkBindings bs = Step.all (bs.map check) := by
  induction bs with
  | nil => rfl
  | cons b bs ih =>
    obtain ⟨name, many, schema⟩ := b
    rw [Schema.checkBindings, ih]
    rfl

theorem check_of_absent (h : Table.get? c.coerced b.name = none) : b.check c = (c, none) := by
  unfold check Schema.checkBinding
  rw [h]

theorem check_of_null (h : Table.get? c.coerced b.name = some .null) : b.check c = (c, none) := by
  unfold check Schema.checkBinding
  rw [h]

theorem check_of_list {vs : List Value} (h : Table.get? c.coerced b.name = some (.list vs))
    (hm : b.many = true) :
    b.check c = Schema.settle b.name
      ((Schema.mergeElements b.name b.schema.validate 0 vs c).1,
        (Schema.mergeElements b.name b.schema.validate 0 vs c).2.map .list) := by
  unfold check Schema.checkBinding
  rw [h]
  exact if_pos hm

theorem check_of_not_list (h : Table.get? c.coerced b.name = some v) (hm : b.many = true)
    (hv : ∀ vs, v ≠ .list vs) : b.check c = (c, none) := by
  unfold check Schema.checkBinding
  rw [h]
  cases v with
  | null => rfl
  | list vs => exact absurd rfl (hv vs)
  | _ => exact if_pos hm

theorem check_of_one (h : Table.get? c.coerced b.name = some v) (hn : v ≠ .null)
    (hm : ¬b.many = true) :
    b.check c = Schema.settle b.name (Schema.merge b.name (b.schema.validate v) c) := by
  unfold check Schema.checkBinding
  rw [h]
  cases v with
  | null => exact absurd rfl hn
  | _ => exact if_neg hm

theorem grows_settle {r : Context × Except Fault Value} (name : String) (h : c.Grows r.1) :
    c.Grows (Schema.settle name r).1 := by
  obtain ⟨d, f | w⟩ := r
  · exact h
  · exact h.trans (grows_setCoerced d name w)

theorem growing_check (b : Binding) : Step.Growing b.check := by
  intro c
  cases h : Table.get? c.coerced b.name with
  | none =>
    rw [check_of_absent h]
    exact Grows.refl c
  | some v =>
    by_cases hn : v = .null
    · rw [check_of_null (hn ▸ h)]
      exact Grows.refl c
    by_cases hm : b.many = true
    · by_cases hlist : ∃ vs, v = .list vs
      · obtain ⟨vs, rfl⟩ := hlist
        rw [check_of_list h hm]
        exact grows_settle b.name (Schema.mergeElements_reports b.name _ 0 vs c).toGrows
      · rw [check_of_not_list h hm (not_exists.mp hlist)]
        exact Grows.refl c
    · rw [check_of_one h hn hm]
      exact grows_settle b.name (Schema.merge_reports _ _ c).toGrows

/-- The ways in which a nested check comes to its end. -/
inductive Ends (b : Binding) (c : Context) : Context → Prop where
  | absent (hv : Table.get? c.coerced b.name = none) : Ends b c c
  | null (hv : Table.get? c.coerced b.name = some .null) : Ends b c c
  | other {v : Value} (hv : Table.get? c.coerced b.name = some v) (hm : b.many = true)
      (hlist : ∀ vs, v ≠ .list vs) : Ends b c c
  | many {vs ws : List Value} {e : Context} (hv : Table.get? c.coerced b.name = some (.list vs))
      (hm : b.many = true)
      (h : Schema.mergeElements b.name b.schema.validate 0 vs c = (e, .ok ws)) :
      Ends b c (e.setCoerced b.name (.list ws))
  | one {v w : Value} {e : Context} (hv : Table.get? c.coerced b.name = some v) (hn : v ≠ .null)
      (hm : b.many = false) (h : Schema.merge b.name (b.schema.validate v) c = (e, .ok w)) :
      Ends b c (e.setCoerced b.name w)

theorem ends_of_check (h : b.check c = (d, none)) : b.Ends c d := by
  cases hv : Table.get? c.coerced b.name with
  | none =>
    rw [check_of_absent hv] at h
    obtain rfl : c = d := (Prod.mk.inj h).1
    exact .absent hv
  | some v =>
    by_cases hn : v = .null
    · subst hn
      rw [check_of_null hv] at h
      obtain rfl : c = d := (Prod.mk.inj h).1
      exact .null hv
    by_cases hm : b.many = true
    · by_cases hlist : ∃ vs, v = .list vs
      · obtain ⟨vs, rfl⟩ := hlist
        rw [check_of_list hv hm] at h
        rcases hrun : Schema.mergeElements b.name b.schema.validate 0 vs c with ⟨e, f | ws⟩
        · rw [hrun] at h
          cases (Prod.mk.inj h).2
        · rw [hrun] at h
          exact (Prod.mk.inj h).1 ▸ .many hv hm hrun
      · have hlist := not_exists.mp hlist
        rw [check_of_not_list hv hm hlist] at h
        obtain rfl : c = d := (Prod.mk.inj h).1
        exact .other hv hm hlist
    · rw [check_of_one hv hn hm] at h
      rcases hrun : Schema.merge b.name (b.schema.validate v) c with ⟨e, f | w⟩
      · rw [hrun] at h
        cases (Prod.mk.inj h).2
      · rw [hrun] at h
        exact (Prod.mk.inj h).1 ▸ .one hv hn (Bool.eq_false_iff.mpr hm) hrun

theorem get?_setCoerced {e : Context} (he : c.Reports e) (name : String) (w : Value)
    (other : String) : Table.get? (e.setCoerced name w).coerced other =
      if name = other then some w else Table.get? c.coerced other := by
  rw [Context.setCoerced, Table.get?_put, he.coerced]

theorem reports_of_mergeElements {name : String} {check : Value → Verdict} {i : Nat}
    {vs ws : List Value} {e : Context} (h : Schema.mergeElements name check i vs c = (e, .ok ws)) :
    c.Reports e := by
  simpa only [h] using Schema.mergeElements_reports name check i vs c

theorem reports_of_merge {path : String} {r : Verdict} {w : Value} {e : Context}
    (h : Schema.merge path r c = (e, .ok w)) : c.Reports e := by
  simpa only [h] using Schema.merge_reports path r c

/-- A nested check leaves the values of other fields as they are. -/
theorem Ends.get?_of_ne {name : String} (h : b.Ends c d) (hne : b.name ≠ name) :
    Table.get? d.coerced name = Table.get? c.coerced name := by
  cases h with
  | absent | null | other => rfl
  | many _ _ h => rw [get?_setCoerced (reports_of_mergeElements h), if_neg hne]
  | one _ _ _ h => rw [get?_setCoerced (reports_of_merge h), if_neg hne]

/-- A nested check that passes has turned the value of its field, and no other. -/
theorem turns_of_passes_check (h : b.check.Passes c d) :
    b.Turns (Table.get? c.coerced b.name) (Table.get? d.coerced b.name) ∧
      ∀ name, b.name ≠ name → Table.get? d.coerced name = Table.get? c.coerced name := by
  have hends := ends_of_check h.run
  refine ⟨?_, fun name hne => hends.get?_of_ne hne⟩
  have hi := h.issues
  cases hends with
  | absent hv =>
    rw [hv]
    exact .absent
  | null hv =>
    rw [hv]
    exact .null
  | other hv hm hlist =>
    rw [hv]
    exact .other hm hlist
  | many hv hm hrun =>
    obtain ⟨outs, houts, rfl⟩ := Schema.forall₂_of_mergeElements hrun hi
    rw [hv, get?_setCoerced (reports_of_mergeElements hrun), if_pos rfl]
    exact .cleaned (by simp) (hm ▸ .many houts)
  | one hv hn hm hrun =>
    obtain ⟨out, hout, rfl⟩ := Schema.yields_of_merge hrun hi
    rw [hv, get?_setCoerced (reports_of_merge hrun), if_pos rfl]
    exact .cleaned hn (hm ▸ .one hout)

theorem passes_check_of_turns (h : b.Turns (Table.get? c.coerced b.name) w?) :
    ∃ d, b.check.Passes c d := by
  generalize hv : Table.get? c.coerced b.name = v? at h
  cases h with
  | absent => exact ⟨c, check_of_absent hv, rfl⟩
  | null => exact ⟨c, check_of_null hv, rfl⟩
  | other hm hlist => exact ⟨c, check_of_not_list hv hm hlist, rfl⟩
  | @cleaned v w hn h =>
    by_cases hm : b.many = true
    · rw [hm] at h
      cases h with
      | many h =>
        obtain ⟨d, hd, hi⟩ := Schema.mergeElements_of_forall₂ h b.name 0 c
        have hrun := check_of_list hv hm
        rw [hd] at hrun
        exact ⟨_, hrun, hi⟩
    · rw [Bool.eq_false_iff.mpr hm] at h
      cases h with
      | one h =>
        obtain ⟨d, hd, hi⟩ := Schema.merge_of_yields h b.name c
        have hrun := check_of_one hv hn hm
        rw [hd] at hrun
        exact ⟨_, hrun, hi⟩

theorem growing_checkBindings (bs : List Binding) : Step.Growing (Schema.checkBindings bs) := by
  rw [checkBindings_eq_all]
  exact Step.growing_all_map growing_check bs

theorem passes_checkBindings_cons {bs : List Binding} :
    Step.Passes (Schema.checkBindings (b :: bs)) c d ↔
      ∃ e, b.check.Passes c e ∧ Step.Passes (Schema.checkBindings bs) e d := by
  rw [checkBindings_eq_all, List.map_cons, Step.all, ← checkBindings_eq_all,
    Step.passes_andThen (growing_check b) (growing_checkBindings bs)]

theorem turns_of_passes_checkBindings {bs : List Binding} (hn : (bs.map Binding.name).Nodup)
    (h : Step.Passes (Schema.checkBindings bs) c d) :
    (∀ b ∈ bs, b.Turns (Table.get? c.coerced b.name) (Table.get? d.coerced b.name)) ∧
      ∀ name, name ∉ bs.map Binding.name →
        Table.get? d.coerced name = Table.get? c.coerced name := by
  induction bs generalizing c with
  | nil =>
    rw [Schema.checkBindings, Step.passes_done] at h
    simp [h]
  | cons b bs ih =>
    rw [List.map_cons, List.nodup_cons] at hn
    obtain ⟨e, hce, hed⟩ := passes_checkBindings_cons.mp h
    obtain ⟨hw, he⟩ := turns_of_passes_check hce
    obtain ⟨hin, hout⟩ := ih hn.2 hed
    constructor
    · intro b' hb'
      rcases List.mem_cons.mp hb' with rfl | hb'
      · rw [hout _ hn.1]
        exact hw
      · have hne : b.name ≠ b'.name := fun h => hn.1 (h ▸ List.mem_map_of_mem hb')
        rw [← he _ hne]
        exact hin b' hb'
    · intro name hname
      rw [List.map_cons, List.mem_cons, not_or] at hname
      rw [hout name hname.2, he _ (Ne.symm hname.1)]

theorem passes_checkBindings_of_turns {bs : List Binding} (hn : (bs.map Binding.name).Nodup)
    (h : ∀ b ∈ bs, ∃ w?, b.Turns (Table.get? c.coerced b.name) w?) :
    ∃ d, Step.Passes (Schema.checkBindings bs) c d := by
  induction bs generalizing c with
  | nil => exact ⟨c, Step.passes_done.mpr rfl⟩
  | cons b bs ih =>
    rw [List.map_cons, List.nodup_cons] at hn
    obtain ⟨w?, hw⟩ := h b List.mem_cons_self
    obtain ⟨e, hce⟩ := passes_check_of_turns hw
    obtain ⟨-, he⟩ := turns_of_passes_check hce
    have hrest : ∀ b' ∈ bs, ∃ w?, b'.Turns (Table.get? e.coerced b'.name) w? := by
      intro b' hb'
      have hne : b.name ≠ b'.name := fun h => hn.1 (h ▸ List.mem_map_of_mem hb')
      rw [he _ hne]
      exact h b' (List.mem_cons_of_mem _ hb')
    obtain ⟨d, hed⟩ := ih hn.2 hrest
    exact ⟨d, passes_checkBindings_cons.mpr ⟨e, hce, hed⟩⟩

end Binding

end Intake
