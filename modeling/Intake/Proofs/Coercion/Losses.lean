import Intake.Proofs.Coercion.Members

namespace Intake

/-- Whether a value holds others. -/
def Value.isContainer : Value → Bool
  | .list _ => true
  | .tuple _ => true
  | .map _ => true
  | _ => false

theorem Value.not_isBlank_of_isContainer {v : Value} (h : v.isContainer = true) : v.isBlank = false := by
  cases v with
  | list | tuple | map => rfl
  | _ => cases h

namespace Coercion

/-- The members that a list type sees in a value, which is its own only member where it is not read as
several. -/
def membersOf (splits : Bool) (v : Value) : List Value :=
  match spread splits v with
  | .members xs => xs
  | .single => [v]
  | _ => []

/-- The entries that a map type sees in a value. -/
def entriesOf (v : Value) : Table Value :=
  match spreadEntries v with
  | .ok (some es) => es
  | _ => []

/-- The places of what is left out of a member: its own if it is not accepted, else those inside. -/
def placesLost (f : Value → Coerced) (inside : Value → List (List Position)) (m : Position × Value) :
    List (List Position) :=
  match (f m.2).value? with
  | some _ => (inside m.2).map (m.1 :: ·)
  | none => [[m.1]]

end Coercion

namespace Target

open Coercion

/-- How many containers stand in each other. -/
def depth : Target → Nat
  | .list _ _ e => e.depth + 1
  | .dict _ e => e.depth + 1
  | _ => 0

/-- Nothing of a value is missing from another, at any depth: lists have as many members, and maps have
the same keys. -/
def Keeps : Target → Value → Value → Prop
  | .list _ splits e, v, w => ∃ ws, w = .list ws ∧ List.Forall₂ e.Keeps (membersOf splits v) ws
  | .dict _ e, v, w =>
    ∃ es, w = .map es ∧ List.Forall₂ (fun a b => b.1 = a.1 ∧ e.Keeps a.2 b.2) (entriesOf v) es
  | _, _, _ => True

/-- The places, each from outside inwards, of all that is left out of a value at whatever depth. -/
def lost : Target → Value → List (List Position)
  | .list _ splits e, v => (indexed (membersOf splits v)).flatMap (placesLost (run [] e) e.lost)
  | .dict _ e, v => (keyed (entriesOf v)).flatMap (placesLost (run [] e) e.lost)
  | _, _ => []

end Target

namespace Coercion

variable {f : Value → Coerced} {inside : Value → List (List Position)} {R : Value → Value → Prop}
  {ms kept : List (Position × Value)} {m : Position × Value} {v w : Value}
  {ps : List Position} {name : String} {splits : Bool} {e : Target}

theorem placesLost_of_some {x : Value} (h : (f m.2).value? = some x) :
    placesLost f inside m = (inside m.2).map (m.1 :: ·) := by
  rw [placesLost, h]

theorem placesLost_of_none (h : (f m.2).value? = none) : placesLost f inside m = [[m.1]] := by
  rw [placesLost, h]

theorem exists_of_mem_placesLost {place : List Position} (h : place ∈ ms.flatMap (placesLost f inside)) :
    ∃ m ∈ ms, ∃ rest, place = m.1 :: rest ∧ (rest = [] ∨ rest ∈ inside m.2) := by
  obtain ⟨m, hm, hplace⟩ := List.mem_flatMap.mp h
  unfold placesLost at hplace
  split at hplace
  · obtain ⟨rest, hrest, rfl⟩ := List.mem_map.mp hplace
    exact ⟨m, hm, rest, rfl, .inr hrest⟩
  · exact ⟨m, hm, [], List.mem_singleton.mp hplace, .inl rfl⟩

/-- Members that are left out themselves are lost in a place one step deep, all else deeper. -/
theorem filter_placesLost (h : ∀ m ∈ ms, ∀ place ∈ inside m.2, place ≠ []) :
    (ms.flatMap (placesLost f inside)).filter (·.length = 1) = (leftOut f ms).map fun p => [p] := by
  induction ms with
  | nil => rfl
  | cons m ms ih =>
    have ih := ih fun m' hm => h m' (List.mem_cons_of_mem _ hm)
    rw [List.flatMap_cons, List.filter_append, ih]
    cases hm : (f m.2).value? with
    | none =>
      rw [placesLost_of_none hm, leftOut_of_none hm]
      rfl
    | some x =>
      have hdeep : ((inside m.2).map (m.1 :: ·)).filter (·.length = 1) = [] := by
        rw [List.filter_eq_nil_iff, List.forall_mem_map]
        intro place hplace
        have hne := h m List.mem_cons_self place hplace
        simpa using hne
      rw [placesLost_of_some hm, leftOut_of_some hm, hdeep]
      rfl

/-- The members are kept one for one just when no member is lost, nor anything inside one. -/
theorem forall₂_taken_iff {Q : Position × Value → Position × Value → Prop}
    (h : ∀ m ∈ ms, ∀ x, (f m.2).value? = some x → (Q m (m.1, x) ↔ inside m.2 = [])) :
    List.Forall₂ Q ms (taken f ms) ↔ ms.flatMap (placesLost f inside) = [] := by
  induction ms with
  | nil => simp [taken]
  | cons m ms ih =>
    have ih := ih fun m' hm => h m' (List.mem_cons_of_mem _ hm)
    cases hm : (f m.2).value? with
    | none =>
      -- A member is left out, so that fewer are taken than there are.
      rw [taken_of_none hm, List.flatMap_cons, placesLost_of_none hm]
      refine iff_of_false (fun hall => ?_) (by simp)
      have hlen := hall.length_eq
      have hle := length_taken_le f ms
      rw [List.length_cons] at hlen
      omega
    | some x =>
      rw [taken_of_some hm, List.flatMap_cons, placesLost_of_some hm, List.forall₂_cons,
        List.append_eq_nil_iff, List.map_eq_nil_iff, ih, h m List.mem_cons_self x hm]

/-- What is accepted as a list is made of the members that the list type sees. -/
theorem list_of_run (h : run [] (.list name splits e) v = .accepted w ps) :
    w = ofItems (taken (run [] e) (indexed (membersOf splits v))) ∧
      ps = leftOut (run [] e) (indexed (membersOf splits v)) := by
  have hn : ¬v.isNull = true := not_isNull_of_run h
  rw [run, if_neg hn] at h
  dsimp only [Table.get?_nil] at h
  unfold membersOf
  cases hspread : spread splits v with
  | members xs =>
    rw [hspread] at h
    dsimp only at h
    rw [gatherList_eq_collect] at h
    exact (collect_eq_accepted_iff.mp h).2
  | single =>
    -- The value is its own only member, and refused with it.
    rw [hspread] at h
    dsimp only at h
    cases hv : run [] e v with
    | accepted x qs =>
      rw [hv] at h
      obtain ⟨rfl, rfl⟩ := Coerced.accepted.inj h
      have hsome : (run [] e ((.index 0, v) : Position × Value).2).value? = some x := by rw [hv]; rfl
      exact ⟨by rw [indexed, List.mapIdx_singleton, taken_of_some hsome]; rfl,
        by rw [indexed, List.mapIdx_singleton, leftOut_of_some hsome]; rfl⟩
    | refused | faulty =>
      rw [hv] at h
      cases h
  | refused | tooDeep =>
    rw [hspread] at h
    cases h

theorem dict_of_run (h : run [] (.dict name e) v = .accepted w ps) :
    w = ofEntries (taken (run [] e) (keyed (entriesOf v))) ∧
      ps = leftOut (run [] e) (keyed (entriesOf v)) := by
  have hn : ¬v.isNull = true := not_isNull_of_run h
  rw [run, if_neg hn] at h
  dsimp only [Table.get?_nil] at h
  unfold entriesOf
  rcases hspread : spreadEntries v with fault | (_ | es)
  · rw [hspread] at h
    cases h
  · rw [hspread] at h
    cases h
  · rw [hspread] at h
    dsimp only at h
    rw [gatherMap_eq_collect] at h
    exact (collect_eq_accepted_iff.mp h).2

theorem dropped_of_ofOption {v? : Option Value} (h : Coerced.ofOption v? = .accepted w ps) : ps = [] := by
  cases v? with
  | none => cases h
  | some x => exact (Coerced.accepted.inj h).2.symm

theorem dropped_of_toUnclosed {isList : Bool} (h : toUnclosed isList v = .accepted w ps) : ps = [] := by
  unfold toUnclosed at h
  split_ifs at h
  · split at h <;> cases h
    rfl
  · split at h <;> cases h
    rfl

/-- Null is refused by every target. -/
theorem run_null (conversions : Table Conversion) (t : Target) : run conversions t .null = .refused := by
  rw [run.eq_def]
  rfl

theorem exists_of_value? {c : Coerced} {x : Value} (h : c.value? = some x) : ∃ qs, c = .accepted x qs := by
  cases c with
  | accepted y qs =>
    obtain rfl := Option.some.inj h
    exact ⟨qs, rfl⟩
  | refused | faulty => cases h

theorem forall₂_ofItems {xs : List Value} :
    (∃ ws, ofItems kept = .list ws ∧ List.Forall₂ R xs ws) ↔
      List.Forall₂ (fun m m' => R m.2 m'.2) (indexed xs) kept := by
  have hitems : (∃ ws, ofItems kept = .list ws ∧ List.Forall₂ R xs ws) ↔
      List.Forall₂ R xs (kept.map Prod.snd) := by
    constructor
    · rintro ⟨ws, hws, h⟩
      exact Value.list.inj hws ▸ h
    · exact fun h => ⟨_, rfl, h⟩
  have hseen : (indexed xs).map Prod.snd = xs := snd_mapIdx_index xs
  rw [hitems, List.forall₂_map_right_iff]
  conv_lhs => rw [← hseen]
  rw [List.forall₂_map_left_iff]

theorem forall₂_ofEntries {es : Table Value} :
    (∃ es', ofEntries kept = .map es' ∧
        List.Forall₂ (fun a b : String × Value => b.1 = a.1 ∧ R a.2 b.2) es es') ↔
      List.Forall₂ (fun m m' => keyOf m'.1 = keyOf m.1 ∧ R m.2 m'.2) (keyed es) kept := by
  have hentries : (∃ es', ofEntries kept = .map es' ∧
      List.Forall₂ (fun a b : String × Value => b.1 = a.1 ∧ R a.2 b.2) es es') ↔
      List.Forall₂ (fun a b : String × Value => b.1 = a.1 ∧ R a.2 b.2) es
        (kept.map fun m => (keyOf m.1, m.2)) := by
    constructor
    · rintro ⟨es', hes', h⟩
      exact Value.map.inj hes' ▸ h
    · exact fun h => ⟨_, rfl, h⟩
  rw [hentries, List.forall₂_map_right_iff, keyed, List.forall₂_map_left_iff]
  rfl

end Coercion

namespace Target

open Coercion

variable {t e : Target} {v w : Value} {ps place : List Position}

theorem ne_nil_of_mem_lost (h : place ∈ t.lost v) : place ≠ [] := by
  cases t with
  | list | dict =>
    obtain ⟨m, -, rest, rfl, -⟩ := exists_of_mem_placesLost h
    exact List.cons_ne_nil _ _
  | _ => cases h

/-- Nothing is lost deeper than containers stand in each other. -/
theorem length_le_depth (h : place ∈ t.lost v) : place.length ≤ t.depth := by
  induction t generalizing v place with
  | list name splits e ih | dict name e ih =>
    obtain ⟨m, -, rest, rfl, rfl | hrest⟩ := exists_of_mem_placesLost h
    · exact Nat.succ_le_succ (Nat.zero_le _)
    · exact Nat.succ_le_succ (ih hrest)
  | _ => cases h

/-- What is reported as left out are the places that are lost one step deep, and no others. -/
theorem places_of_run (h : run [] t v = .accepted w ps) :
    ps.map (fun p => [p]) = (t.lost v).filter (·.length = 1) := by
  have hscalar (hps : ps = []) (hlost : t.lost v = []) :
      ps.map (fun p => [p]) = (t.lost v).filter (·.length = 1) := by
    rw [hps, hlost]
    rfl
  have hn : ¬v.isNull = true := not_isNull_of_run h
  cases t with
  | list name splits e =>
    rw [(list_of_run h).2, lost, filter_placesLost fun _ _ _ => ne_nil_of_mem_lost]
  | dict name e =>
    rw [(dict_of_run h).2, lost, filter_placesLost fun _ _ _ => ne_nil_of_mem_lost]
  | any | other =>
    rw [run, if_neg hn] at h
    exact hscalar (Coerced.accepted.inj h).2.symm rfl
  | unclosed =>
    rw [run, if_neg hn] at h
    exact hscalar (dropped_of_toUnclosed h) rfl
  | _ =>
    rw [run, if_neg hn] at h
    exact hscalar (dropped_of_ofOption h) rfl

/-- A value that is accepted is kept whole just when nothing is lost of it at any depth. -/
theorem keeps_iff (h : (run [] t v).value? = some w) : t.Keeps v w ↔ t.lost v = [] := by
  induction t generalizing v w with
  | list name splits e ih =>
    obtain ⟨ps, hrun⟩ := exists_of_value? h
    rw [(list_of_run hrun).1, Keeps, forall₂_ofItems, lost]
    exact forall₂_taken_iff fun m _ x hx => ih hx
  | dict name e ih =>
    obtain ⟨ps, hrun⟩ := exists_of_value? h
    rw [(dict_of_run hrun).1, Keeps, forall₂_ofEntries, lost]
    exact forall₂_taken_iff fun m _ x hx => (and_iff_right rfl).trans (ih hx)
  | _ => exact iff_of_true trivial rfl

theorem keeps_iff_of_run (h : run [] t v = .accepted w ps) : t.Keeps v w ↔ t.lost v = [] :=
  keeps_iff (by rw [h]; rfl)

/-- A container of the kind of a target that holds one value. -/
def around : Target → Value → Value
  | .list _ _ _, v => .list [v]
  | .dict _ _, v => .map [("", v)]
  | _, v => v

theorem run_list_singleton (name : String) (splits : Bool) (e : Target) (v : Value) :
    run [] (list name splits e) (.list [v]) = gatherList [run [] e v] := by
  rw [run_list_of_spread rfl rfl rfl, List.map_singleton]

theorem run_dict_singleton (name key : String) (e : Target) (v : Value) :
    run [] (dict name e) (.map [(key, v)]) = gatherMap [(key, run [] e v)] := by
  rw [run_dict_of_spread rfl rfl rfl, List.map_singleton]

theorem lost_list_singleton (name : String) (splits : Bool) (e : Target) (v : Value) :
    (list name splits e).lost (.list [v]) = placesLost (run [] e) e.lost (.index 0, v) :=
  List.flatMap_singleton _ _

theorem lost_dict_singleton (name key : String) (e : Target) (v : Value) :
    (dict name e).lost (.map [(key, v)]) = placesLost (run [] e) e.lost (.key key, v) :=
  List.flatMap_singleton _ _

/-- A container that holds null is accepted, and null is lost. -/
theorem lost_around_null (h : t.depth ≠ 0) :
    (∃ w ps, run [] t (t.around .null) = .accepted w ps) ∧ t.lost (t.around .null) ≠ [] := by
  have hnull (e : Target) (p : Position) : placesLost (run [] e) e.lost (p, .null) ≠ [] := by
    rw [placesLost_of_none (by rw [run_null]; rfl)]
    exact List.cons_ne_nil _ _
  cases t with
  | list name splits e =>
    refine ⟨⟨.list [], [.index 0], ?_⟩, by rw [around, lost_list_singleton]; exact hnull e _⟩
    rw [around, run_list_singleton, run_null]
    rfl
  | dict name e =>
    refine ⟨⟨.map [], [.key ""], ?_⟩, by rw [around, lost_dict_singleton]; exact hnull e _⟩
    rw [around, run_dict_singleton, run_null]
    rfl
  | _ => exact absurd rfl h

/-- Where containers stand in containers, something can be lost and nothing reported. -/
theorem exists_silent_loss (h : 1 < t.depth) :
    ∃ v w, v.isContainer = true ∧ run [] t v = .accepted w [] ∧ ¬t.Keeps v w := by
  cases t with
  | list name splits e =>
    obtain ⟨⟨w, ps, hrun⟩, hlost⟩ := lost_around_null (Nat.ne_of_gt (Nat.lt_of_succ_lt_succ h))
    have hrun' : run [] (list name splits e) (.list [e.around .null]) = .accepted (.list [w]) [] := by
      rw [run_list_singleton, hrun]
      rfl
    refine ⟨_, _, rfl, hrun', ?_⟩
    rw [keeps_iff_of_run hrun', lost_list_singleton, placesLost_of_some (by rw [hrun]; rfl),
      List.map_eq_nil_iff]
    exact hlost
  | dict name e =>
    obtain ⟨⟨w, ps, hrun⟩, hlost⟩ := lost_around_null (Nat.ne_of_gt (Nat.lt_of_succ_lt_succ h))
    have hrun' : run [] (dict name e) (.map [("", e.around .null)]) = .accepted (.map [("", w)]) [] := by
      rw [run_dict_singleton, hrun]
      rfl
    refine ⟨_, _, rfl, hrun', ?_⟩
    rw [keeps_iff_of_run hrun', lost_dict_singleton, placesLost_of_some (by rw [hrun]; rfl),
      List.map_eq_nil_iff]
    exact hlost
  | _ => exact absurd h (Nat.not_lt_zero _)

/-- Where no container stands in another, nothing is lost that is not reported. -/
theorem keeps_of_run (ht : t.depth ≤ 1) (h : run [] t v = .accepted w []) : t.Keeps v w := by
  rw [keeps_iff_of_run h, List.eq_nil_iff_forall_not_mem]
  intro place hplace
  have hone : place.length = 1 :=
    Nat.le_antisymm ((length_le_depth hplace).trans ht) (List.length_pos_iff.mpr (ne_nil_of_mem_lost hplace))
  have hreported : place ∈ (t.lost v).filter (·.length = 1) :=
    List.mem_filter.mpr ⟨hplace, decide_eq_true hone⟩
  rw [← places_of_run h] at hreported
  cases hreported

end Target

end Intake
