import Mathlib
import Intake.Schema.Check

namespace Intake

/-- A later state of a run: it looks at the same data, and what was found before is still there. -/
structure Context.Grows (c d : Context) : Prop where
  data : d.data = c.data
  issues : c.issues <+: d.issues
  notices : c.notices <+: d.notices
  events : c.events <+: d.events

/-- A later state in which no field has been brought to its type in between. -/
structure Context.Reports (c d : Context) : Prop extends c.Grows d where
  coerced : d.coerced = c.coerced

namespace Context

theorem Grows.refl (c : Context) : c.Grows c :=
  ⟨rfl, List.prefix_rfl, List.prefix_rfl, List.prefix_rfl⟩

theorem Grows.trans {c d e : Context} (h : c.Grows d) (h' : d.Grows e) : c.Grows e :=
  ⟨h'.data.trans h.data, h.issues.trans h'.issues, h.notices.trans h'.notices,
    h.events.trans h'.events⟩

theorem Reports.refl (c : Context) : c.Reports c := ⟨Grows.refl c, rfl⟩

theorem Reports.trans {c d e : Context} (h : c.Reports d) (h' : d.Reports e) : c.Reports e :=
  ⟨h.toGrows.trans h'.toGrows, h'.coerced.trans h.coerced⟩

/-- Between two states with the same issues no state of the run has others. -/
theorem Grows.issues_eq {c d e : Context} (h : c.Grows d) (h' : d.Grows e)
    (he : e.issues = c.issues) : d.issues = c.issues := by
  have hle : d.issues.length ≤ c.issues.length := he ▸ h'.issues.length_le
  exact (h.issues.eq_of_length_le hle).symm

theorem reports_addIssues (c : Context) (is : List Issue) : c.Reports (c.addIssues is) :=
  ⟨⟨rfl, List.prefix_append _ _, List.prefix_rfl, List.prefix_rfl⟩, rfl⟩

theorem reports_addIssue (c : Context) (i : Issue) : c.Reports (c.addIssue i) :=
  reports_addIssues c [i]

theorem reports_addNotices (c : Context) (ns : List Notice) : c.Reports (c.addNotices ns) :=
  ⟨⟨rfl, List.prefix_rfl, List.prefix_append _ _, List.prefix_rfl⟩, rfl⟩

theorem reports_addNotice (c : Context) (n : Notice) : c.Reports (c.addNotice n) :=
  reports_addNotices c [n]

theorem reports_log (c : Context) (es : List Event) : c.Reports (c.log es) :=
  ⟨⟨rfl, List.prefix_rfl, List.prefix_rfl, List.prefix_append _ _⟩, rfl⟩

theorem grows_setCoerced (c : Context) (name : String) (v : Value) : c.Grows (c.setCoerced name v) :=
  ⟨rfl, List.prefix_rfl, List.prefix_rfl, List.prefix_rfl⟩

end Context

namespace Step

/-- A part of a run that goes on from the state it finds. -/
def Growing (s : Step) : Prop := ∀ c : Context, c.Grows (s c).1

/-- A part of a run comes to its end without a fault and without an issue. -/
structure Passes (s : Step) (c d : Context) : Prop where
  run : s c = (d, none)
  issues : d.issues = c.issues

theorem growing_done : Growing done := Context.Grows.refl

theorem andThen_of_none {a b : Step} {c d : Context} (h : a c = (d, none)) :
    andThen a b c = b d := by
  unfold andThen
  rw [h]

theorem andThen_of_some {a b : Step} {c d : Context} {f : Fault} (h : a c = (d, some f)) :
    andThen a b c = (d, some f) := by
  unfold andThen
  rw [h]

/-- Two parts in turn come to an end when the second does, from where the first one ended. -/
theorem andThen_eq_none_iff {a b : Step} {c e : Context} :
    andThen a b c = (e, none) ↔ ∃ d, a c = (d, none) ∧ b d = (e, none) := by
  constructor
  · intro h
    rcases ha : a c with ⟨d, _ | f⟩
    · exact ⟨d, rfl, by rw [← h, andThen_of_none ha]⟩
    · rw [andThen_of_some ha] at h
      cases (Prod.mk.inj h).2
  · rintro ⟨d, ha, hb⟩
    rw [andThen_of_none ha, hb]

theorem andThen_assoc (a b c : Step) : andThen (andThen a b) c = andThen a (andThen b c) := by
  funext x
  rcases ha : a x with ⟨y, _ | f⟩
  · rw [andThen_of_none ha]
    rcases hb : b y with ⟨z, _ | f⟩
    · rw [andThen_of_none hb, andThen_of_none (andThen_of_none ha |>.trans hb)]
    · rw [andThen_of_some hb, andThen_of_some (andThen_of_none ha |>.trans hb)]
  · rw [andThen_of_some ha, andThen_of_some (andThen_of_some ha)]

theorem all_append (ss ts : List Step) : all (ss ++ ts) = andThen (all ss) (all ts) := by
  induction ss with
  | nil => rfl
  | cons s ss ih => rw [List.cons_append, all, ih, all, andThen_assoc]

theorem andThen_done (s : Step) : andThen s done = s := by
  funext c
  rcases h : s c with ⟨d, _ | f⟩
  · exact andThen_of_none h
  · exact andThen_of_some h

theorem Growing.andThen {a b : Step} (ha : a.Growing) (hb : b.Growing) :
    Growing (andThen a b) := by
  intro c
  rcases h : a c with ⟨d, _ | f⟩
  · rw [andThen_of_none h]
    have hd : c.Grows d := by simpa only [h] using ha c
    exact hd.trans (hb d)
  · rw [andThen_of_some h]
    simpa only [h] using ha c

theorem growing_all {ss : List Step} (h : ∀ s ∈ ss, s.Growing) : Growing (all ss) := by
  induction ss with
  | nil => exact growing_done
  | cons s ss ih =>
    exact (h s List.mem_cons_self).andThen (ih fun t ht => h t (List.mem_cons_of_mem _ ht))

theorem growing_all_map {α : Type} {step : α → Step} (h : ∀ x, (step x).Growing) (xs : List α) :
    Growing (all (xs.map step)) := by
  apply growing_all
  intro s hs
  obtain ⟨x, -, rfl⟩ := List.mem_map.mp hs
  exact h x

theorem reports_all {ss : List Step} (h : ∀ s ∈ ss, ∀ c : Context, c.Reports (s c).1) (c : Context) :
    c.Reports (all ss c).1 := by
  induction ss generalizing c with
  | nil => exact Context.Reports.refl c
  | cons s ss ih =>
    have hs := h s List.mem_cons_self c
    rw [all]
    rcases hrun : s c with ⟨d, _ | f⟩
    · rw [andThen_of_none hrun]
      rw [hrun] at hs
      exact hs.trans (ih (fun t ht => h t (List.mem_cons_of_mem _ ht)) d)
    · rw [andThen_of_some hrun]
      rwa [hrun] at hs

theorem grows_of_eq {s : Step} (hs : s.Growing) {c d : Context} {f? : Option Fault}
    (h : s c = (d, f?)) : c.Grows d := by
  simpa only [h] using hs c

theorem Passes.grows {s : Step} (hs : s.Growing) {c d : Context} (h : s.Passes c d) :
    c.Grows d :=
  grows_of_eq hs h.run

theorem not_passes_of_fault {s : Step} {c d e : Context} {f : Fault} (h : s c = (e, some f)) :
    ¬s.Passes c d := by
  intro hp
  cases (Prod.mk.inj (h.symm.trans hp.run)).2

theorem not_passes_of_issue {s : Step} {c d e : Context} {i : Issue}
    (h : s c = (e.addIssue i, none)) (he : c.Grows e) : ¬s.Passes c d := by
  intro hp
  have hd : e.addIssue i = d := (Prod.mk.inj (h.symm.trans hp.run)).1
  have hi : (e.addIssue i).issues = c.issues := hd ▸ hp.issues
  have hlen : (e.issues ++ [i]).length = c.issues.length := congrArg List.length hi
  have hle := he.issues.length_le
  rw [List.length_append, List.length_singleton] at hlen
  omega

theorem passes_congr {s t : Step} {c c' d : Context} (h : s c = t c')
    (hi : c'.issues = c.issues) : s.Passes c d ↔ t.Passes c' d :=
  ⟨fun hp => ⟨h ▸ hp.run, hp.issues.trans hi.symm⟩, fun hp => ⟨h.trans hp.run, hp.issues.trans hi⟩⟩

@[simp] theorem passes_done {c d : Context} : Passes done c d ↔ d = c :=
  ⟨fun h => (Prod.mk.inj h.run).1.symm, fun h => ⟨by rw [h]; rfl, by rw [h]⟩⟩

/-- Two parts in turn pass when each does: the issues of the first are never taken back. -/
theorem passes_andThen {a b : Step} (ha : a.Growing) (hb : b.Growing) {c e : Context} :
    Passes (andThen a b) c e ↔ ∃ d, a.Passes c d ∧ b.Passes d e := by
  constructor
  · intro h
    rcases hac : a c with ⟨d, _ | f⟩
    · have hbd : b d = (e, none) := by rw [← h.run, andThen_of_none hac]
      have hcd : c.Grows d := by simpa only [hac] using ha c
      have hde : d.Grows e := by simpa only [hbd] using hb d
      have hd : d.issues = c.issues := hcd.issues_eq hde h.issues
      exact ⟨d, ⟨hac, hd⟩, ⟨hbd, h.issues.trans hd.symm⟩⟩
    · have hrun := h.run
      rw [andThen_of_some hac] at hrun
      cases (Prod.mk.inj hrun).2
  · rintro ⟨d, h, h'⟩
    exact ⟨(andThen_of_none h.run).trans h'.run, h'.issues.trans h.issues⟩

/-- When parts in turn pass, each passes in some state on the way. -/
theorem Passes.of_mem_all {ss : List Step} (hg : ∀ s ∈ ss, s.Growing) {c d : Context}
    (h : (all ss).Passes c d) {s : Step} (hs : s ∈ ss) :
    ∃ c' d', c.Grows c' ∧ s.Passes c' d' := by
  induction ss generalizing c with
  | nil => simp at hs
  | cons t ss ih =>
    have hgt := hg t List.mem_cons_self
    have hgs : ∀ s ∈ ss, s.Growing := fun s hs => hg s (List.mem_cons_of_mem _ hs)
    obtain ⟨e, hce, hed⟩ := (passes_andThen hgt (growing_all hgs)).mp h
    rcases List.mem_cons.mp hs with rfl | hs
    · exact ⟨c, e, Context.Grows.refl c, hce⟩
    · obtain ⟨c', d', hc', hp⟩ := ih hgs hed hs
      exact ⟨c', d', (hce.grows hgt).trans hc', hp⟩

/-- Parts that look at the data alone, one for each item: the whole passes when each part does. -/
theorem exists_passes_all_map {α : Type} {step : α → Step} (holds : α → Table Value → Prop)
    {xs : List α} (hg : ∀ x ∈ xs, (step x).Growing)
    (h : ∀ x ∈ xs, ∀ c, (∃ d, (step x).Passes c d) ↔ holds x c.data) (c : Context) :
    (∃ d, (all (xs.map step)).Passes c d) ↔ ∀ x ∈ xs, holds x c.data := by
  induction xs generalizing c with
  | nil => simp [all]
  | cons x xs ih =>
    have hgx := hg x List.mem_cons_self
    have hgs : ∀ y ∈ xs, (step y).Growing := fun y hy => hg y (List.mem_cons_of_mem _ hy)
    have hga : Growing (all (xs.map step)) := growing_all (by simpa using hgs)
    have ih := ih hgs fun y hy => h y (List.mem_cons_of_mem _ hy)
    have hx := h x List.mem_cons_self c
    rw [List.forall_mem_cons, ← hx, List.map_cons]
    simp only [all, passes_andThen hgx hga]
    constructor
    · rintro ⟨e, d, hd, he⟩
      refine ⟨⟨d, hd⟩, ?_⟩
      have hdata : d.data = c.data := (hd.grows hgx).data
      exact hdata ▸ (ih d).mp ⟨e, he⟩
    · rintro ⟨⟨d, hd⟩, hall⟩
      have hdata : d.data = c.data := (hd.grows hgx).data
      obtain ⟨e, he⟩ := (ih d).mpr (hdata.symm ▸ hall)
      exact ⟨e, d, hd, he⟩

end Step

end Intake
