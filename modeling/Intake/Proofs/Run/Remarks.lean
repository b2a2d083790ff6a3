import Intake.Proofs.Run.Values

namespace Intake

open Context

/-- What is said about a payload, issues and notices each in the order in which they were found. -/
@[ext]
structure Remarks where
  issues : List Issue
  notices : List Notice

namespace Remarks

def none : Remarks := ⟨[], []⟩

instance : Append Remarks := ⟨fun r s => ⟨r.issues ++ s.issues, r.notices ++ s.notices⟩⟩

def all (rs : List Remarks) : Remarks := ⟨rs.flatMap issues, rs.flatMap notices⟩

/-- Remarks on something inside a value, the value's own place given. Nothing but the places changes. -/
def under (place : String) (r : Remarks) : Remarks :=
  ⟨r.issues.map fun i => i.moved (joinPath place i.path),
    r.notices.map fun n => n.moved (joinPath place n.path)⟩

/-- Remarks that stand together, unbroken and in their order, among others. -/
def Among (r s : Remarks) : Prop := ∃ before after, s = before ++ r ++ after

variable (r s t : Remarks) (rs : List Remarks) (place : String)

@[simp] theorem issues_append : (r ++ s).issues = r.issues ++ s.issues := rfl

@[simp] theorem notices_append : (r ++ s).notices = r.notices ++ s.notices := rfl

@[simp] theorem append_none : r ++ none = r := by
  ext1 <;> exact List.append_nil _

@[simp] theorem none_append : none ++ r = r := rfl

theorem append_assoc : r ++ s ++ t = r ++ (s ++ t) := by
  ext1 <;> exact List.append_assoc _ _ _

@[simp] theorem all_nil : all [] = none := rfl

@[simp] theorem all_cons : all (r :: rs) = r ++ all rs := rfl

theorem under_append : (r ++ s).under place = r.under place ++ s.under place := by
  ext1 <;> exact List.map_append

theorem Among.refl : r.Among r := ⟨none, none, by simp⟩

variable {r s t rs}

theorem Among.trans (h : r.Among s) (h' : s.Among t) : r.Among t := by
  obtain ⟨before, after, rfl⟩ := h
  obtain ⟨before', after', rfl⟩ := h'
  exact ⟨before' ++ before, after ++ after', by simp only [append_assoc]⟩

theorem Among.under (h : r.Among s) (place : String) : (r.under place).Among (s.under place) := by
  obtain ⟨before, after, rfl⟩ := h
  exact ⟨before.under place, after.under place, by simp only [under_append]⟩

theorem among_append_of_among (h : r.Among s) (before after : Remarks) :
    r.Among (before ++ s ++ after) := h.trans ⟨before, after, rfl⟩

theorem among_all (h : r ∈ rs) : r.Among (all rs) := by
  induction rs with
  | nil => exact absurd h List.not_mem_nil
  | cons s rs ih =>
    rw [all_cons]
    rcases List.mem_cons.mp h with rfl | h
    · exact ⟨none, all rs, rfl⟩
    · obtain ⟨before, after, hrs⟩ := ih h
      exact ⟨s ++ before, after, by simp only [hrs, append_assoc]⟩

end Remarks

def Context.remarks (c : Context) : Remarks := ⟨c.issues, c.notices⟩

def Outcome.remarks {α : Type} : Outcome α → Remarks
  | .success _ ns => ⟨[], ns⟩
  | .failure r => ⟨r.issues, r.notices⟩

theorem Outcome.remarks_settle {α : Type} (is : List Issue) (value : α) (raw : Value)
    (ns : List Notice) : (settle is value raw ns).remarks = ⟨is, ns⟩ := by
  unfold settle
  split_ifs with h
  · rfl
  · rw [not_not.mp h]
    rfl

def elementPlace (name : String) (i : Nat) : String := name ++ "[" ++ toString i ++ "]"

namespace Schema

variable {s : Schema} {v w : Value} {vs ws : List Value} {c d : Context} {path name : String}
  {r : Verdict} {i : Nat}

/-- What is said about an element of a list at its place: what the schema says about a map, else that it
is none. -/
inductive OnElement (s : Schema) (place : String) : Value → Remarks → Prop where
  | map {es : Table Value} {outcome : Outcome (Table Value)}
      (h : (s.validate (.map es)).result = .ok outcome) :
      OnElement s place (.map es) (outcome.remarks.under place)
  | other {v : Value} (h : ∀ es, v ≠ .map es) :
      OnElement s place v ⟨[.typeMismatch place "object" v.kind], []⟩

/-- What is said about the elements of a list, element for element in the order of their indices. -/
def OnElements (s : Schema) (name : String) (i : Nat) (vs : List Value) (rs : List Remarks) : Prop :=
  List.Forall₂ (fun p r => s.OnElement (elementPlace name p.2) p.1 r) (vs.zipIdx i) rs

theorem remarks_of_merge (h : merge path r c = (d, .ok w)) :
    ∃ outcome, r.result = .ok outcome ∧ d.remarks = c.remarks ++ outcome.remarks.under path := by
  unfold merge at h
  rcases hr : r.result with f | outcome
  · rw [hr] at h
    cases (Prod.mk.inj h).2
  rw [hr] at h
  refine ⟨outcome, rfl, ?_⟩
  cases outcome with
  | success out ns =>
    rw [← (Prod.mk.inj h).1]
    exact Remarks.ext (List.append_nil _).symm rfl
  | failure e =>
    rw [← (Prod.mk.inj h).1]
    rfl

theorem remarks_of_mergeElements (h : mergeElements name s.validate i vs c = (d, .ok ws)) :
    ∃ rs, s.OnElements name i vs rs ∧ d.remarks = c.remarks ++ Remarks.all rs := by
  induction vs generalizing i c ws with
  | nil =>
    obtain rfl : c = d := (Prod.mk.inj h).1
    exact ⟨[], .nil, (Remarks.append_none _).symm⟩
  | cons v vs ih =>
    by_cases hv : ∃ es, v = .map es
    · obtain ⟨es, rfl⟩ := hv
      rw [mergeElements_of_map] at h
      rcases hm : merge (name ++ "[" ++ toString i ++ "]") (s.validate (.map es)) c with ⟨e, f | w⟩
      · rw [hm] at h
        cases (Prod.mk.inj h).2
      rw [hm] at h
      rcases hms : mergeElements name s.validate (i + 1) vs e with ⟨e', f | ws'⟩
      · simp only [hms] at h
        cases (Prod.mk.inj h).2
      simp only [hms] at h
      obtain rfl : e' = d := (Prod.mk.inj h).1
      obtain ⟨outcome, hout, he⟩ := remarks_of_merge hm
      obtain ⟨rs, hrs, hd⟩ := ih hms
      refine ⟨outcome.remarks.under (elementPlace name i) :: rs, .cons (.map hout) hrs, ?_⟩
      rw [hd, he, Remarks.all_cons, Remarks.append_assoc]
      rfl
    · have hv := not_exists.mp hv
      rw [mergeElements_of_not_map hv] at h
      obtain ⟨rs, hrs, hd⟩ := ih h
      refine ⟨_, .cons (.other hv) hrs, ?_⟩
      rw [hd, Remarks.all_cons, ← Remarks.append_assoc]
      exact Remarks.ext rfl (congrArg (· ++ _) (List.append_nil _).symm)

theorem OnElements.get {rs : List Remarks} {j : Nat} (h : s.OnElements name 0 vs rs)
    (hj : vs[j]? = some v) : ∃ r ∈ rs, s.OnElement (elementPlace name j) v r := by
  obtain ⟨hlen, hget⟩ := List.forall₂_iff_get.mp h
  obtain ⟨hlt, hv⟩ := List.getElem?_eq_some_iff.mp hj
  have hlt' : j < (vs.zipIdx 0).length := by rwa [List.length_zipIdx]
  have hr := hget j hlt' (hlen ▸ hlt')
  simp only [List.get_eq_getElem, List.getElem_zipIdx, hv, Nat.zero_add] at hr
  exact ⟨_, List.getElem_mem _, hr⟩

end Schema

namespace Binding

variable {o : Outline} {b : Binding} {bs : List Binding} {f : Field} {v : Value} {v? : Option Value}
  {data : Table Value} {c d : Context}

/-- What a nested schema says about what was sent for its field: nothing unless that is a container of
the right shape. -/
inductive Says (b : Binding) : Option Value → Remarks → Prop where
  | one {v : Value} {es : Table Value} {outcome : Outcome (Table Value)}
      (hv : Outline.Contains b.many v (.map es))
      (h : (b.schema.validate (.map es)).result = .ok outcome) :
      Says b (some v) (outcome.remarks.under b.name)
  | many {v : Value} {vs : List Value} {rs : List Remarks}
      (hv : Outline.Contains b.many v (.list vs)) (h : b.schema.OnElements b.name 0 vs rs) :
      Says b (some v) (Remarks.all rs)
  | nothing {v? : Option Value} (h : ∀ v, v? = some v → ∀ u, ¬Outline.Contains b.many v u) :
      Says b v? .none

theorem says_of_check (hname : f.name = b.name)
    (hc : Table.get? c.coerced b.name = o.typedValue? (some b.many) data f)
    (h : b.check c = (d, none)) :
    ∃ r, b.Says (Table.get? data b.name) r ∧ d.remarks = c.remarks ++ r := by
  have hsent (u : Value) (hu : Table.get? c.coerced b.name = some u) (hn : u ≠ .null) :
      ∃ v, Table.get? data b.name = some v ∧ Outline.Contains b.many v u :=
    hname ▸ Outline.exists_contains_iff.mp ⟨hc ▸ hu, hn⟩
  have hnothing (hu : ∀ u, Table.get? c.coerced b.name = some u → ∀ v, ¬Outline.Contains b.many v u) :
      b.Says (Table.get? data b.name) .none := by
    refine .nothing fun v hv u hvu => hu u ?_ v hvu
    rw [hc]
    exact (Outline.exists_contains_iff.mpr ⟨v, hname ▸ hv, hvu⟩).1
  cases ends_of_check h with
  | absent hv =>
    refine ⟨.none, hnothing fun u hu => ?_, (Remarks.append_none _).symm⟩
    rw [hv] at hu
    cases hu
  | null hv =>
    refine ⟨.none, hnothing fun u hu v hvu => hvu.ne_null ?_, (Remarks.append_none _).symm⟩
    exact (Option.some.inj (hv.symm.trans hu)).symm
  | other hv hm hlist =>
    refine ⟨.none, hnothing fun u hu v hvu => ?_, (Remarks.append_none _).symm⟩
    obtain ⟨vs, rfl⟩ := (hm ▸ hvu).is_list
    exact hlist vs (Option.some.inj (hv.symm.trans hu))
  | many hv hm hrun =>
    obtain ⟨v, hsent, hvu⟩ := hsent _ hv (by simp)
    obtain ⟨rs, hrs, he⟩ := Schema.remarks_of_mergeElements hrun
    exact ⟨Remarks.all rs, hsent ▸ .many hvu hrs, he⟩
  | one hv hn hm hrun =>
    obtain ⟨v, hsent, hvu⟩ := hsent _ hv hn
    obtain ⟨es, rfl⟩ := (hm ▸ hvu).is_map
    obtain ⟨outcome, hout, he⟩ := Schema.remarks_of_merge hrun
    exact ⟨outcome.remarks.under b.name, hsent ▸ .one hvu hout, he⟩

/-- Nested checks in turn: what each says, in the order of their fields. -/
theorem says_of_checkBindings (hn : (bs.map Binding.name).Nodup)
    (hc : ∀ b ∈ bs, ∃ f : Field, f.name = b.name ∧
      Table.get? c.coerced b.name = o.typedValue? (some b.many) data f)
    (h : Schema.checkBindings bs c = (d, none)) :
    ∃ rs, List.Forall₂ (fun b r => b.Says (Table.get? data b.name) r) bs rs ∧
      d.remarks = c.remarks ++ Remarks.all rs := by
  induction bs generalizing c with
  | nil =>
    obtain rfl : c = d := (Prod.mk.inj h).1
    exact ⟨[], .nil, (Remarks.append_none _).symm⟩
  | cons b bs ih =>
    rw [List.map_cons, List.nodup_cons] at hn
    rw [checkBindings_eq_all, List.map_cons, Step.all, ← checkBindings_eq_all,
      Step.andThen_eq_none_iff] at h
    obtain ⟨e, hce, hed⟩ := h
    obtain ⟨f, hname, hb⟩ := hc b List.mem_cons_self
    obtain ⟨r, hr, he⟩ := says_of_check hname hb hce
    have hrest : ∀ b' ∈ bs, ∃ f : Field, f.name = b'.name ∧
        Table.get? e.coerced b'.name = o.typedValue? (some b'.many) data f := by
      intro b' hb'
      have hne : b.name ≠ b'.name := fun h => hn.1 (h ▸ List.mem_map_of_mem hb')
      rw [(ends_of_check hce).get?_of_ne hne]
      exact hc b' (List.mem_cons_of_mem _ hb')
    obtain ⟨rs, hrs, hd⟩ := ih hn.2 hrest hed
    exact ⟨r :: rs, .cons hr hrs, by rw [hd, he, Remarks.all_cons, Remarks.append_assoc]⟩

end Binding

end Intake
