import Intake.Coercion.Registry
import Intake.Proofs.Coercion.Identifiers
import Intake.Proofs.Coercion.Moments
import Intake.Proofs.Table

namespace Intake

/-- Whether a type has nothing to do with moments. -/
def Target.isTimeless : Target → Bool
  | .datetime => false
  | .list _ _ element => element.isTimeless
  | .dict _ element => element.isTimeless
  | _ => true

/-- The values that stand for themselves in a type. -/
inductive Target.Fits : Target → Value → Prop where
  | any {v : Value} (hn : v ≠ .null) : Fits .any v
  | str (s : String) : Fits .str (.text s)
  | int {n : Int} (h : Coercion.int64Low ≤ n ∧ n ≤ Coercion.int64High) : Fits .int (.int n)
  | int32 {n : Int} (h : Coercion.int32Low ≤ n ∧ n ≤ Coercion.int32High) : Fits .int32 (.int n)
  | float (x : Binary64) : Fits .float (.float x)
  | bool (b : Bool) : Fits .bool (.bool b)
  | date (d : Date) : Fits .date (.text d.iso)
  | uuid {s : String} (h : Coercion.IsIdentifier s.toList) : Fits .uuid (.text s)
  | list {name : String} {splits : Bool} {element : Target} {vs : List Value}
      (h : ∀ v ∈ vs, Fits element v) : Fits (.list name splits element) (.list vs)
  | dict {name : String} {element : Target} {es : List (String × Value)}
      (h : ∀ e ∈ es, Fits element e.2) : Fits (.dict name element) (.map es)
  | noMembers (name : String) : Fits (.unclosed name true) (.list [])
  | noEntries (name : String) : Fits (.unclosed name false) (.map [])
  | other (name : String) {v : Value} (hn : v ≠ .null) : Fits (.other name) v

theorem Target.Fits.ne_null {t : Target} {v : Value} (h : t.Fits v) : v ≠ .null := by
  cases h with
  | any hn => exact hn
  | other _ hn => exact hn
  | _ => simp

/-- The values that a type makes of others: those that stand for themselves in it and texts of
moments. All of the moments have a property in common. -/
inductive Target.Writes (P : Moment → Prop) : Target → Value → Prop where
  | fits {t : Target} {v : Value} (h : t.Fits v) : Writes P t v
  | moment {m : Moment} (h : P m) : Writes P .datetime (.text m.canonical)
  | list {name : String} {splits : Bool} {element : Target} {vs : List Value}
      (h : ∀ v ∈ vs, Writes P element v) : Writes P (.list name splits element) (.list vs)
  | dict {name : String} {element : Target} {es : List (String × Value)}
      (h : ∀ e ∈ es, Writes P element e.2) : Writes P (.dict name element) (.map es)

theorem Target.Writes.fits_of_timeless {P : Moment → Prop} {t : Target} {v : Value} (h : t.Writes P v)
    (ht : t.isTimeless = true) : t.Fits v := by
  induction h with
  | fits h => exact h
  | moment => cases ht
  | list _ ih => exact .list fun v hv => ih v hv ht
  | dict _ ih => exact .dict fun e he => ih e he ht

theorem Value.isNull_iff {v : Value} : v.isNull = true ↔ v = .null := by
  cases v <;> simp [isNull]

theorem Value.isBlank_eq_false_iff {v : Value} : v.isBlank = false ↔ v ≠ .null ∧ v ≠ .text "" := by
  cases v <;> simp [isBlank]

theorem exists_ok_of_map {ε α β : Type} {g : α → β} {r : Except ε α} {y : β}
    (h : r.map g = .ok y) : ∃ x, r = .ok x ∧ y = g x := by
  cases r with
  | error e => cases h
  | ok x => exact ⟨x, rfl, (Except.ok.inj h).symm⟩

theorem Binary64.text_ne_empty (x : Binary64) : x.text ≠ "" := by
  cases x with
  | nan => decide
  | infinite negative => cases negative <;> decide
  | finite negative m e =>
    have hlayout : Binary64.layout (Binary64.shortest m e) ≠ [] := by
      unfold Binary64.layout
      dsimp only
      split_ifs
      · simp
      · simp
      · simp
      · split <;> simp
    rw [text, ne_eq, String.ofList_eq_empty_iff]
    split_ifs <;> simp [hlayout]

namespace Coercion

variable {t : Target} {v w : Value} {ps dropped : List Position} {s : String} {n low high : Int}
  {kept : List (Position × Value)}

theorem not_isNull_of_run {conversions : Table Conversion} (h : run conversions t v = .accepted w ps) :
    ¬v.isNull = true := by
  intro hn
  unfold run at h
  rw [if_pos hn] at h
  cases h

theorem exists_of_ofOption {α : Type} {f : α → Value} {x? : Option α}
    (h : Coerced.ofOption (x?.map f) = .accepted w ps) : ∃ x, x? = some x ∧ f x = w := by
  cases x? with
  | none => cases h
  | some x => exact ⟨x, rfl, (Coerced.accepted.inj h).1⟩

theorem within_of_within? {m : Int} (h : within? low high m = some n) : low ≤ n ∧ n ≤ high := by
  unfold within? at h
  split_ifs at h with hm
  obtain rfl := Option.some.inj h
  exact hm

theorem within_of_toInt? (h : toInt? low high v = some n) : low ≤ n ∧ n ≤ high := by
  unfold toInt? at h
  split at h
  · exact within_of_within? h
  · obtain ⟨m, -, hm⟩ := Option.bind_eq_some_iff.mp h
    exact within_of_within? hm
  · dsimp only at h
    split_ifs at h
    obtain ⟨m, -, hm⟩ := Option.bind_eq_some_iff.mp h
    exact within_of_within? hm
  · cases h

/-- What is gathered from members are values that members were accepted with, under their positions. -/
theorem mem_of_gather {ms : List (Position × Coerced)} (h : gather ms = .ok (kept, dropped)) :
    ∀ e ∈ kept, ∃ qs, (e.1, Coerced.accepted e.2 qs) ∈ ms := by
  induction ms generalizing kept dropped with
  | nil =>
    obtain rfl : [] = kept := (Prod.mk.inj (Except.ok.inj h)).1
    simp
  | cons m ms ih =>
    obtain ⟨p, c⟩ := m
    have hrest {kept' : List (Position × Value)} {dropped' : List Position}
        (hg : gather ms = .ok (kept', dropped')) (e : Position × Value) (he : e ∈ kept') :
        ∃ qs, (e.1, Coerced.accepted e.2 qs) ∈ (p, c) :: ms := by
      obtain ⟨qs, hqs⟩ := ih hg e he
      exact ⟨qs, List.mem_cons_of_mem _ hqs⟩
    cases c with
    | faulty f => cases h
    | refused =>
      rw [gather] at h
      obtain ⟨⟨kept', dropped'⟩, hg, heq⟩ := exists_ok_of_map h
      obtain ⟨rfl, -⟩ := Prod.mk.inj heq
      exact hrest hg
    | accepted x qs =>
      rw [gather] at h
      obtain ⟨⟨kept', dropped'⟩, hg, heq⟩ := exists_ok_of_map h
      obtain ⟨rfl, -⟩ := Prod.mk.inj heq
      intro e he
      rcases List.mem_cons.mp he with rfl | he
      · exact ⟨qs, List.mem_cons_self⟩
      · exact hrest hg e he

/-- Members that are all accepted are all kept. -/
theorem gather_accepted (kept : List (Position × Value)) :
    gather (kept.map fun e => (e.1, .accepted e.2 [])) = .ok (kept, []) := by
  induction kept with
  | nil => rfl
  | cons e kept ih =>
    rw [List.map_cons, gather, ih]
    rfl

theorem length_kept_le {ms : List (Position × Coerced)} (h : gather ms = .ok (kept, dropped)) :
    kept.length ≤ ms.length := by
  induction ms generalizing kept dropped with
  | nil =>
    obtain rfl : [] = kept := (Prod.mk.inj (Except.ok.inj h)).1
    exact Nat.le_refl 0
  | cons m ms ih =>
    obtain ⟨p, c⟩ := m
    cases c with
    | faulty f => cases h
    | refused =>
      rw [gather] at h
      obtain ⟨⟨kept', dropped'⟩, hg, heq⟩ := exists_ok_of_map h
      obtain ⟨rfl, -⟩ := Prod.mk.inj heq
      exact (ih hg).trans (Nat.le_succ _)
    | accepted x qs =>
      rw [gather] at h
      obtain ⟨⟨kept', dropped'⟩, hg, heq⟩ := exists_ok_of_map h
      obtain ⟨rfl, -⟩ := Prod.mk.inj heq
      exact Nat.succ_le_succ (ih hg)

/-- Where the values that are kept are those that were there, every one of them is accepted as it is. -/
theorem accepted_of_gather {f : Value → Coerced} {xs : List (Position × Value)}
    (h : gather (xs.map fun e => (e.1, f e.2)) = .ok (kept, dropped))
    (hsame : kept.map Prod.snd = xs.map Prod.snd) :
    ∀ e ∈ xs, ∃ qs, f e.2 = .accepted e.2 qs := by
  induction xs generalizing kept dropped with
  | nil => exact fun e he => absurd he List.not_mem_nil
  | cons e xs ih =>
    rw [List.map_cons] at h
    cases hcoerce : f e.2 with
    | faulty fault =>
      rw [hcoerce] at h
      cases h
    | refused =>
      rw [hcoerce, gather] at h
      obtain ⟨⟨kept', dropped'⟩, hg, heq⟩ := exists_ok_of_map h
      obtain ⟨rfl, -⟩ := Prod.mk.inj heq
      -- One value fewer is kept than was there.
      have hfew := length_kept_le hg
      have hlen := congrArg List.length hsame
      simp only [List.length_map, List.length_cons] at hfew hlen
      omega
    | accepted v qs =>
      rw [hcoerce, gather] at h
      obtain ⟨⟨kept', dropped'⟩, hg, heq⟩ := exists_ok_of_map h
      obtain ⟨rfl, -⟩ := Prod.mk.inj heq
      obtain ⟨hv, hrest⟩ := List.cons.inj hsame
      intro e' he'
      rcases List.mem_cons.mp he' with rfl | he'
      · exact ⟨qs, hcoerce.trans (congrArg (Coerced.accepted · qs) hv)⟩
      · exact ih hg hrest e' he'

theorem mapIdx_index (f : Value → Coerced) (vs : List Value) :
    ((vs.map f).mapIdx fun i c => (Position.index i, c)) =
      (vs.mapIdx fun i v => (Position.index i, v)).map fun e => (e.1, f e.2) := by
  apply List.ext_getElem <;> simp

theorem snd_mapIdx_index (vs : List Value) :
    (vs.mapIdx fun i v => (Position.index i, v)).map Prod.snd = vs := by
  apply List.ext_getElem <;> simp

theorem accepted_of_gatherList {f : Value → Coerced} {vs : List Value}
    (h : gatherList (vs.map f) = .accepted (.list vs) ps) : ∀ v ∈ vs, ∃ qs, f v = .accepted v qs := by
  rw [gatherList, mapIdx_index] at h
  split at h
  · next kept dropped hg =>
    have hkept := Value.list.inj (Coerced.accepted.inj h).1
    have haccepted := accepted_of_gather hg (hkept.trans (snd_mapIdx_index vs).symm)
    intro v hv
    rw [← snd_mapIdx_index vs] at hv
    obtain ⟨e, he, rfl⟩ := List.mem_map.mp hv
    exact haccepted e he
  · cases h

theorem accepted_of_gatherMap {f : Value → Coerced} {es : List (String × Value)}
    (h : gatherMap (es.map fun e => (e.1, f e.2)) = .accepted (.map es) ps) :
    ∀ e ∈ es, ∃ qs, f e.2 = .accepted e.2 qs := by
  have hmembers : (es.map fun e => (Position.key e.1, f e.2)) =
      (es.map fun e => (Position.key e.1, e.2)).map fun e => (e.1, f e.2) := by
    simp [Function.comp_def]
  unfold gatherMap at h
  simp only [List.map_map, Function.comp_def] at h
  rw [hmembers] at h
  split at h
  · next kept dropped hg =>
    have hkept := congrArg (List.map Prod.snd) (Value.map.inj (Coerced.accepted.inj h).1)
    rw [List.map_map] at hkept
    have haccepted := accepted_of_gather hg (hkept.trans (by simp [Function.comp_def]))
    intro e he
    exact haccepted (.key e.1, e.2) (List.mem_map_of_mem he)
  · cases h

theorem members_of_gatherList {ms : List Coerced} (h : gatherList ms = .accepted w ps) :
    ∃ vs, w = .list vs ∧ ∀ v ∈ vs, ∃ qs, Coerced.accepted v qs ∈ ms := by
  unfold gatherList at h
  split at h
  · next kept dropped hg =>
    obtain ⟨rfl, -⟩ := Coerced.accepted.inj h
    refine ⟨_, rfl, fun v hv => ?_⟩
    obtain ⟨e, he, rfl⟩ := List.mem_map.mp hv
    obtain ⟨qs, hqs⟩ := mem_of_gather hg e he
    obtain ⟨i, hi, heq⟩ := List.mem_mapIdx.mp hqs
    exact ⟨qs, (Prod.mk.inj heq).2 ▸ List.getElem_mem hi⟩
  · cases h

theorem gatherList_accepted (vs : List Value) :
    gatherList (vs.map fun v => .accepted v []) = .accepted (.list vs) [] := by
  rw [gatherList, mapIdx_index, gather_accepted]
  dsimp only
  rw [snd_mapIdx_index]

theorem entries_of_gatherMap {ms : List (String × Coerced)} (h : gatherMap ms = .accepted w ps) :
    ∃ es, w = .map es ∧ ∀ e ∈ es, ∃ qs, (e.1, Coerced.accepted e.2 qs) ∈ ms := by
  unfold gatherMap at h
  split at h
  · next kept dropped hg =>
    obtain ⟨rfl, -⟩ := Coerced.accepted.inj h
    refine ⟨_, rfl, fun e he => ?_⟩
    obtain ⟨⟨p, v⟩, hmem, rfl⟩ := List.mem_map.mp he
    obtain ⟨qs, hqs⟩ := mem_of_gather hg _ hmem
    obtain ⟨⟨k, c⟩, hk, heq⟩ := List.mem_map.mp hqs
    obtain ⟨rfl, rfl⟩ := Prod.mk.inj heq
    exact ⟨qs, hk⟩
  · cases h

theorem gatherMap_accepted (es : List (String × Value)) :
    gatherMap (es.map fun e => (e.1, .accepted e.2 [])) = .accepted (.map es) [] := by
  have hmembers : (es.map fun e => (Position.key e.1, Coerced.accepted e.2 [])) =
      (es.map fun e => (Position.key e.1, e.2)).map fun e => (e.1, .accepted e.2 []) := by
    simp [Function.comp_def]
  unfold gatherMap
  simp only [List.map_map, Function.comp_def]
  rw [hmembers, gather_accepted]
  simp [Function.comp_def, keyOf]

/-- What a value is brought to is a text of a moment, or stands for itself in the type, or is made of
such values. -/
theorem writes_of_run (h : run [] t v = .accepted w ps) : t.Writes (fun _ => True) w := by
  have hn := not_isNull_of_run h
  induction t generalizing v w ps with
    (rw [run, if_neg hn] at h; dsimp only [Table.get?_nil] at h)
  | any =>
    obtain ⟨rfl, -⟩ := Coerced.accepted.inj h
    exact .fits (.any (hn ∘ Value.isNull_iff.mpr))
  | str =>
    obtain ⟨s, -, rfl⟩ := exists_of_ofOption h
    exact .fits (.str s)
  | int =>
    obtain ⟨n, hread, rfl⟩ := exists_of_ofOption h
    exact .fits (.int (within_of_toInt? hread))
  | int32 =>
    obtain ⟨n, hread, rfl⟩ := exists_of_ofOption h
    exact .fits (.int32 (within_of_toInt? hread))
  | float =>
    obtain ⟨x, -, rfl⟩ := exists_of_ofOption h
    exact .fits (.float x)
  | bool =>
    obtain ⟨b, -, rfl⟩ := exists_of_ofOption h
    exact .fits (.bool b)
  | datetime =>
    obtain ⟨m, -, rfl⟩ := exists_of_ofOption h
    exact .moment trivial
  | date =>
    obtain ⟨m, -, rfl⟩ := exists_of_ofOption h
    exact .fits (.date m.date)
  | uuid =>
    obtain ⟨s, hread, rfl⟩ := exists_of_ofOption h
    exact .fits (.uuid (isIdentifier_of_toUuidText? hread))
  | list name splits element ih =>
    split at h
    · next items _ =>
      obtain ⟨vs, rfl, hvs⟩ := members_of_gatherList h
      refine .list fun x hx => ?_
      obtain ⟨qs, hqs⟩ := hvs x hx
      obtain ⟨item, -, hitem⟩ := List.mem_map.mp hqs
      exact ih hitem (not_isNull_of_run hitem)
    · next hspread =>
      cases hitem : run [] element v with
      | accepted x qs =>
        rw [hitem] at h
        obtain ⟨rfl, -⟩ := Coerced.accepted.inj h
        exact .list fun y hy => List.mem_singleton.mp hy ▸ ih hitem hn
      | _ =>
        rw [hitem] at h
        cases h
    · cases h
    · cases h
  | dict name element ih =>
    split at h
    · next entries _ =>
      obtain ⟨es, rfl, hes⟩ := entries_of_gatherMap h
      refine .dict fun e he => ?_
      obtain ⟨qs, hqs⟩ := hes e he
      obtain ⟨⟨k, x⟩, -, hentry⟩ := List.mem_map.mp hqs
      have hentry := (Prod.mk.inj hentry).2
      exact ih hentry (not_isNull_of_run hentry)
    · cases h
    · cases h
  | unclosed name isList =>
    unfold toUnclosed at h
    split_ifs at h with hlist
    · subst hlist
      split at h
      · obtain ⟨rfl, -⟩ := Coerced.accepted.inj h
        exact .fits (.noMembers name)
      all_goals cases h
    · obtain rfl := Bool.eq_false_iff.mpr hlist
      split at h
      · obtain ⟨rfl, -⟩ := Coerced.accepted.inj h
        exact .fits (.noEntries name)
      all_goals cases h
  | other name =>
    obtain ⟨rfl, -⟩ := Coerced.accepted.inj h
    exact .fits (.other name (hn ∘ Value.isNull_iff.mpr))

/-- What a value is brought to stands for itself in a type without moments. -/
theorem fits_of_run (ht : t.isTimeless = true) (h : run [] t v = .accepted w ps) : t.Fits w :=
  (writes_of_run h).fits_of_timeless ht

theorem run_datetime_eq (s : String) : run [] .datetime (.text s) =
    .ofOption ((toMoment? (.text s)).map fun m => .text m.canonical) := by
  rw [run]
  rfl

theorem run_list_eq (name : String) (splits : Bool) (t : Target) (vs : List Value) :
    run [] (.list name splits t) (.list vs) = gatherList (vs.map (run [] t)) := by
  rw [run]
  rfl

theorem run_dict_eq (name : String) (t : Target) (es : List (String × Value)) :
    run [] (.dict name t) (.map es) = gatherMap (es.map fun e => (e.1, run [] t e.2)) := by
  rw [run]
  rfl

/-- A list whose members are left as they are is left as it is. -/
theorem run_list_of_members {vs : List Value} (h : ∀ v ∈ vs, run [] t v = .accepted v [])
    (name : String) (splits : Bool) : run [] (.list name splits t) (.list vs) = .accepted (.list vs) [] := by
  rw [run_list_eq, List.map_congr_left h, gatherList_accepted]

theorem run_dict_of_entries {es : List (String × Value)}
    (h : ∀ e ∈ es, run [] t e.2 = .accepted e.2 []) (name : String) :
    run [] (.dict name t) (.map es) = .accepted (.map es) [] := by
  have hentries : (es.map fun e => (e.1, run [] t e.2)) = es.map fun e => (e.1, .accepted e.2 []) :=
    List.map_congr_left fun e he => congrArg (e.1, ·) (h e he)
  rw [run_dict_eq, hentries, gatherMap_accepted]

/-- What stands for itself in a type is brought to it unchanged. -/
theorem run_of_fits (h : t.Fits v) : run [] t v = .accepted v [] := by
  have hn : ¬v.isNull = true := h.ne_null ∘ Value.isNull_iff.mp
  induction h with
  | int hrange | int32 hrange =>
    rw [run, toInt?, within?, if_pos hrange]
    rfl
  | date d =>
    rw [run, toMoment?_iso]
    rfl
  | uuid hs =>
    rw [run, toUuidText?_of_isIdentifier hs]
    rfl
  | list hvs ih =>
    exact run_list_of_members (fun v hv => ih v hv ((hvs v hv).ne_null ∘ Value.isNull_iff.mp)) _ _
  | dict hes ih =>
    exact run_dict_of_entries (fun e he => ih e he ((hes e he).ne_null ∘ Value.isNull_iff.mp)) _
  | _ =>
    rw [run, if_neg hn]
    rfl

/-- What a type makes of others is left as it is where every moment in it is written in a way that is
read again. -/
theorem run_of_writes (h : t.Writes Moment.Legible v) : run [] t v = .accepted v [] := by
  induction h with
  | fits h => exact run_of_fits h
  | @moment m h =>
    rw [run_datetime_eq, toMoment?_canonical h, Option.map_some, m.canonical_wholeSeconds,
      Coerced.ofOption]
  | list _ ih => exact run_list_of_members ih _ _
  | dict _ ih => exact run_dict_of_entries ih _

theorem legible_of_run {P : Moment → Prop} (h : t.Writes P v) (hrun : run [] t v = .accepted v ps) :
    t.Writes Moment.Legible v := by
  induction h generalizing ps with
  | fits h => exact .fits h
  | @moment m =>
    rw [run_datetime_eq] at hrun
    obtain ⟨m', hread, -⟩ := exists_of_ofOption hrun
    exact .moment ((toMoment?_canonical_iff m).mp ⟨m', hread⟩)
  | list _ ih =>
    rw [run_list_eq] at hrun
    refine .list fun v hv => ?_
    obtain ⟨qs, hv'⟩ := accepted_of_gatherList hrun v hv
    exact ih v hv hv'
  | dict _ ih =>
    rw [run_dict_eq] at hrun
    refine .dict fun e he => ?_
    obtain ⟨qs, he'⟩ := accepted_of_gatherMap hrun e he
    exact ih e he he'

theorem run_iff_legible {P : Moment → Prop} (h : t.Writes P v) :
    run [] t v = .accepted v [] ↔ t.Writes Moment.Legible v :=
  ⟨legible_of_run h, run_of_writes⟩

/-- A scalar has a text that is not empty, unless it is the empty text. -/
theorem ne_empty_of_toText? (hv : v.isBlank = false) (h : toText? v = some s) : s ≠ "" := by
  cases v with
  | text t =>
    obtain rfl := Option.some.inj h
    simpa [Value.isBlank] using hv
  | bool b =>
    obtain rfl := Option.some.inj h
    cases b <;> decide
  | int n =>
    obtain rfl := Option.some.inj h
    rw [ne_eq, String.ofList_eq_empty_iff]
    unfold Value.intText
    split_ifs
    · simp
    · exact Nat.toDigits_ne_nil
  | float x =>
    obtain rfl := Option.some.inj h
    exact x.text_ne_empty
  | uuid u =>
    obtain rfl := Option.some.inj h
    simp [Uuid.text, Uuid.chars]
  | moment m =>
    obtain rfl := Option.some.inj h
    simp [Moment.iso, Moment.isoWith]
  | date d =>
    obtain rfl := Option.some.inj h
    simpa [Date.iso] using d.isoChars_ne_nil
  | _ => cases h

/-- Only what counts as nothing is brought to something that does. -/
theorem not_isBlank_of_run (ht : t.isTimeless = true) (h : run [] t v = .accepted w ps)
    (hv : v.isBlank = false) : w.isBlank = false := by
  have hn := not_isNull_of_run h
  cases fits_of_run ht h with
  | any | other =>
    rw [run, if_neg hn] at h
    obtain ⟨rfl, -⟩ := Coerced.accepted.inj h
    exact hv
  | str s =>
    rw [run, if_neg hn] at h
    obtain ⟨s', hs, heq⟩ := exists_of_ofOption h
    obtain rfl := Value.text.inj heq
    simpa [Value.isBlank] using ne_empty_of_toText? hv hs
  | date d =>
    simpa [Value.isBlank, Date.iso] using d.isoChars_ne_nil
  | @uuid s hs =>
    have hne : s ≠ "" := by
      rintro rfl
      exact absurd hs.text (by decide)
    simpa [Value.isBlank] using hne
  | _ => rfl

end Coercion

end Intake
