import Intake.Proofs.Schema.Undeclared

namespace Intake

namespace Outline

variable {o : Outline} {data d r : Table Value} {ms : Table String}

/-- A map with its aliases resolved: what is left where it was sent, then what was sent under the other
names of fields, in the order of those fields. -/
def resolved (o : Outline) (data : Table Value) : Table Value :=
  data.filter (fun e => !(Table.values (o.moves data)).contains e.1) ++
    (o.moves data).filterMap fun m => (Table.get? data m.2).map (m.1, ·)

/-- Moves to names that are free leave the other entries in their order and put the values that are moved
behind them. -/
theorem eq_of_foldlM_move (hd : (Table.names d).Nodup) (hms : (Table.names ms).Nodup)
    (hapart : ∀ m ∈ ms, ∀ m' ∈ ms, m.1 ≠ m'.2) (hfree : ∀ m ∈ ms, m.1 ∉ Table.names d)
    (h : ms.foldlM move d = .ok r) :
    r = d.filter (fun e => !(Table.values ms).contains e.1) ++
      ms.filterMap fun m => (Table.get? d m.2).map (m.1, ·) := by
  induction ms generalizing d with
  | nil => simp [← Except.ok.inj h, Table.values]
  | cons m ms ih =>
    obtain ⟨n, a⟩ := m
    obtain ⟨v, hv, h⟩ := foldlM_move_cons.mp h
    dsimp only at hv h
    rw [Table.names_cons, List.nodup_cons] at hms
    have hrest : ∀ m ∈ ms, ∀ m' ∈ ms, m.1 ≠ m'.2 := fun m hm m' hm' =>
      hapart m (List.mem_cons_of_mem _ hm) m' (List.mem_cons_of_mem _ hm')
    have hn : ∀ m ∈ ms, n ≠ m.2 := fun m hm => hapart _ List.mem_cons_self m (List.mem_cons_of_mem _ hm)
    have hd' := Table.nodup_names_put (Table.nodup_names_remove hd a) n v
    have hremoved : ∀ name, name ∉ Table.names d → name ∉ Table.names (Table.remove d a) :=
      fun name hname hmem => hname (((Table.sublist_remove d a).map _).subset hmem)
    have hput : Table.put (Table.remove d a) n v = Table.remove d a ++ [(n, v)] :=
      Table.put_of_absent
        ((Table.get?_eq_none_iff _ _).mpr (hremoved n (hfree _ List.mem_cons_self))) v
    have hfree' : ∀ m ∈ ms, m.1 ∉ Table.names (Table.put (Table.remove d a) n v) := by
      intro m hm hmem
      rcases (Table.mem_names_put _ _ _ _).mp hmem with heq | hmem
      · exact hms.1 (heq ▸ List.mem_map_of_mem hm)
      · exact hremoved _ (hfree m (List.mem_cons_of_mem _ hm)) hmem
    -- Every later move finds a value, so it finds the one that was there at first.
    have hsame : ∀ m ∈ ms, Table.get? (Table.put (Table.remove d a) n v) m.2 = Table.get? d m.2 := by
      intro m hm
      have hfound := (get?_of_foldlM_move hd' hms.2 hrest h).1 m hm
      rw [Table.get?_put_remove hd, if_neg (hn m hm)] at hfound ⊢
      split_ifs at hfound ⊢ with ha
      · exact absurd rfl hfound
      · rfl
    have hkept : (Table.remove d a).filter (fun e => !(Table.values ms).contains e.1) =
        d.filter fun e => !(Table.values ((n, a) :: ms)).contains e.1 := by
      rw [Table.remove_eq_filter hd, List.filter_filter]
      apply List.filter_congr
      intro e _
      have hvalues : Table.values ((n, a) :: ms) = a :: Table.values ms := rfl
      rw [hvalues]
      by_cases he : e.1 = a <;> simp [he]
    have hnew : [(n, v)].filter (fun e => !(Table.values ms).contains e.1) = [(n, v)] := by
      have hnot : n ∉ Table.values ms := by
        intro hmem
        obtain ⟨m, hm, heq⟩ := List.mem_map.mp hmem
        exact hn m hm heq.symm
      simpa [List.filter_eq_self] using hnot
    have hmoved : ((n, a) :: ms).filterMap (fun m => (Table.get? d m.2).map (m.1, ·)) =
        (n, v) :: ms.filterMap fun m => (Table.get? d m.2).map (m.1, ·) := by simp [hv]
    rw [ih hd' hms.2 hrest hfree' h, List.filterMap_congr fun m hm => by rw [hsame m hm], hput,
      List.filter_append, hkept, hnew, hmoved, List.append_assoc,
      List.singleton_append]

theorem eq_resolved_of_resolveAliases (ho : o.WellNamed) (hd : (Table.names data).Nodup)
    (h : o.resolveAliases data = .ok r) : r = o.resolved data :=
  eq_of_foldlM_move hd (nodup_names_moves ho.nodup_allNames) (fun _ hm _ hm' => moves_apart hm hm')
    (fun _ hm => moves_free hm) (resolveAliases_eq o data ▸ h)

/-- Nothing changes just when no value was sent under the other name of its field. -/
theorem resolved_eq_self_iff :
    o.resolved data = data ↔ ∀ f ∈ o.allFields, ∀ a, ¬f.SentAs a data := by
  constructor
  · intro h f hf a hsent
    have hmove : (f.name, a) ∈ o.moves data := mem_moves.mpr ⟨f, hf, sentAs?_iff.mpr hsent, rfl⟩
    obtain ⟨v, hv⟩ := Option.isSome_iff_exists.mp ((Table.has_iff data a).mpr hsent.sent)
    have hmem : (f.name, v) ∈ o.resolved data :=
      List.mem_append_right _ (List.mem_filterMap.mpr ⟨(f.name, a), hmove, by rw [hv]; rfl⟩)
    rw [h] at hmem
    exact hsent.absent (List.mem_map_of_mem hmem)
  · intro h
    have hnone : o.moves data = [] := by
      rw [List.eq_nil_iff_forall_not_mem]
      intro m hm
      obtain ⟨f, hf, ha, -⟩ := mem_moves.mp hm
      exact h f hf m.2 (sentAs?_iff.mp ha)
    simp [resolved, hnone, Table.values]

end Outline

theorem Outcome.raw_of_settle {α : Type} {is : List Issue} {v : α} {raw : Value} {ns : List Notice}
    {r : Rejection} (h : settle is v raw ns = .failure r) : r.raw = raw := by
  unfold settle at h
  split_ifs at h
  obtain rfl := Outcome.failure.inj h
  rfl

namespace Schema

variable {s : Schema} {v : Value} {r : Rejection} {sent : Table Value}

theorem raw_of_validate_map (hs : s.Built) (hd : (Table.names sent).Nodup)
    (h : (s.validate (.map sent)).result = .ok (.failure r)) :
    r.raw = .map (s.outline.resolved sent) := by
  rw [result_validate] at h
  cases hr : s.outline.resolveAliases sent with
  | error e =>
    rw [hr] at h
    cases h
  | ok data =>
    rw [hr, Except.bind] at h
    dsimp only at h
    obtain ⟨⟨active, c⟩, hpart, hsettle⟩ := exists_ok_of_map h
    obtain ⟨hdata, -⟩ := Outline.of_declaredPart (Binding.growing_checkBindings s.nested) hpart
    rw [Outcome.raw_of_settle hsettle.symm, hdata,
      Outline.eq_resolved_of_resolveAliases hs.wellNamed.outline hd hr]

theorem raw_of_validate_other (hv : ∀ sent, v ≠ .map sent)
    (h : (s.validate v).result = .ok (.failure r)) : r.raw = v := by
  obtain ⟨o, bs⟩ := s
  cases v with
  | map sent => exact absurd rfl (hv sent)
  | _ =>
    obtain rfl := Outcome.failure.inj (Except.ok.inj h)
    rfl

/-- A failure carries what is no map as it was received, and a map with its aliases resolved. So it
carries the map as it was received just when nothing was sent under the other name of its field. -/
theorem failure_carries_resolved (hs : s.Built) (h : (s.validate v).result = .ok (.failure r)) :
    ((∀ sent, v ≠ .map sent) → r.raw = v) ∧
      ∀ sent, v = .map sent → (Table.names sent).Nodup →
        r.raw = .map (s.outline.resolved sent) ∧
          (r.raw = v ↔ ∀ f ∈ s.outline.allFields, ∀ a, ¬f.SentAs a sent) := by
  refine ⟨fun hv => raw_of_validate_other hv h, ?_⟩
  rintro sent rfl hd
  have hraw := raw_of_validate_map hs hd h
  refine ⟨hraw, ?_⟩
  rw [hraw, Value.map.injEq]
  exact Outline.resolved_eq_self_iff

/-- A person whose age also goes by another name. -/
def personBlueprint : Blueprint :=
  .mk (.plain "Person")
    [.field { FieldDecl.plain "name" "str" with required := true },
      .field { FieldDecl.plain "age" "int" with otherName := some "years" },
      .field (.plain "city" "str")]

def person : Schema :=
  .mk
    (.plain "Person"
      [{ Field.plain "name" "str" with required := true },
        { Field.plain "age" "int" with otherName := some "years" }, .plain "city" "str"])
    []

theorem built_person : person.Built :=
  Blueprint.built_of_build (show personBlueprint.build.1 = .ok person by cbv)

def unnamed : Table Value := [("years", .text "x"), ("city", .text "Bern")]

/-- What was sent under another name comes back under the name of its field, behind what stayed. -/
theorem failure_carries_resolved_person :
    ∃ r, (person.validate (.map unnamed)).result = .ok (.failure r) ∧
      r.raw = .map [("city", .text "Bern"), ("age", .text "x")] ∧ r.raw ≠ .map unnamed := by
  have hrun : (person.validate (.map unnamed)).result =
      .ok (.failure ⟨[.required "name", .notCoercible "age" (.text "x") "int"],
        .map [("city", .text "Bern"), ("age", .text "x")], [], List.cons_ne_nil _ _⟩) := by cbv
  have hage : { Field.plain "age" "int" with otherName := some "years" } ∈ person.outline.allFields :=
    List.mem_of_getElem? (show person.outline.allFields[1]? = _ by cbv)
  have hd : (Table.names unnamed).Nodup := by decide
  obtain ⟨hraw, hiff⟩ := (failure_carries_resolved built_person hrun).2 unnamed rfl hd
  refine ⟨_, hrun, hraw, fun h => ?_⟩
  exact hiff.mp h _ hage "years" ⟨rfl, by decide, by decide⟩

end Schema

end Intake
