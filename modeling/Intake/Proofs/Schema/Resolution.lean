import Intake.Proofs.Schema.Alias

namespace Intake

/-- A value was sent for a field under the field's other name, and none under its own. -/
structure Field.SentAs (f : Field) (a : String) (data : Table Value) : Prop where
  aliased : f.alias? = some a
  sent : a ∈ Table.names data
  absent : f.name ∉ Table.names data

namespace Outline

variable {o : Outline} {f g : Field} {data d r : Table Value} {ms : Table String} {a name : String}

/-- Two declared fields lay claim to one value: it was sent under the other name of both. -/
def Contested (o : Outline) (data : Table Value) : Prop :=
  ∃ f ∈ o.allFields, ∃ g ∈ o.allFields, f.name ≠ g.name ∧ ∃ a, f.SentAs a data ∧ g.SentAs a data

theorem sentAs?_iff : sentAs? f data = some a ↔ f.SentAs a data := by
  rw [sentAs?_eq_some_iff]
  exact ⟨fun ⟨h, hs, ha⟩ => ⟨h, hs, ha⟩, fun ⟨h, hs, ha⟩ => ⟨h, hs, ha⟩⟩

/-- Moves can be carried out one after the other when no two of them start from the same name. -/
theorem exists_foldlM_move_iff (hd : (Table.names d).Nodup) (hms : (Table.names ms).Nodup)
    (hapart : ∀ m ∈ ms, ∀ m' ∈ ms, m.1 ≠ m'.2) (hsent : ∀ m ∈ ms, m.2 ∈ Table.names d) :
    (∃ r, ms.foldlM move d = .ok r) ↔ (Table.values ms).Nodup := by
  induction ms generalizing d with
  | nil => simp [Table.values, pure, Except.pure]
  | cons m ms ih =>
    obtain ⟨n, a⟩ := m
    rw [Table.names_cons, List.nodup_cons] at hms
    obtain ⟨v, hv⟩ : ∃ v, Table.get? d a = some v := by
      rw [← Option.isSome_iff_exists]
      exact (Table.has_iff d a).mpr (hsent _ List.mem_cons_self)
    have hd' := Table.nodup_names_put (Table.nodup_names_remove hd a) n v
    have hrest : ∀ m ∈ ms, ∀ m' ∈ ms, m.1 ≠ m'.2 := fun m hm m' hm' =>
      hapart m (List.mem_cons_of_mem _ hm) m' (List.mem_cons_of_mem _ hm')
    -- After the first move its start is empty, so no later move may start there.
    have hleft : ∀ m ∈ ms, m.2 ≠ a → m.2 ∈ Table.names (Table.put (Table.remove d a) n v) := by
      intro m hm hne
      have hmem := hsent m (List.mem_cons_of_mem _ hm)
      rw [← Table.has_iff, Table.has] at hmem ⊢
      have hn : n ≠ m.2 := hapart _ List.mem_cons_self m (List.mem_cons_of_mem _ hm)
      rwa [Table.get?_put_remove hd, if_neg hn, if_neg (Ne.symm hne)]
    have hvalues : Table.values ((n, a) :: ms) = a :: Table.values ms := rfl
    rw [hvalues, List.nodup_cons]
    constructor
    · rintro ⟨r, h⟩
      obtain ⟨w, hw, h⟩ := foldlM_move_cons.mp h
      dsimp only at hw h
      obtain rfl : v = w := Option.some.inj (hv.symm.trans hw)
      obtain ⟨hfound, -⟩ := get?_of_foldlM_move hd' hms.2 hrest h
      have hfree : ∀ m ∈ ms, m.2 ≠ a := by
        intro m hm heq
        have hn : n ≠ a := hapart _ List.mem_cons_self _ List.mem_cons_self
        apply hfound m hm
        rw [heq, Table.get?_put_remove hd, if_neg hn, if_pos rfl]
      refine ⟨fun hmem => ?_, (ih hd' hms.2 hrest fun m hm => hleft m hm (hfree m hm)).mp ⟨r, h⟩⟩
      obtain ⟨m, hm, hma⟩ := List.mem_map.mp hmem
      exact hfree m hm hma
    · rintro ⟨hfree, hnodup⟩
      have hne : ∀ m ∈ ms, m.2 ≠ a := fun m hm heq => hfree (heq ▸ List.mem_map_of_mem hm)
      obtain ⟨r, hr⟩ := (ih hd' hms.2 hrest fun m hm => hleft m hm (hne m hm)).mpr hnodup
      exact ⟨r, foldlM_move_cons.mpr ⟨v, hv, hr⟩⟩

/-- Moves to names that are free keep every value. -/
theorem values_perm_of_foldlM_move (hms : (Table.names ms).Nodup)
    (hfree : ∀ m ∈ ms, m.1 ∉ Table.names d) (h : ms.foldlM move d = .ok r) :
    (Table.values r).Perm (Table.values d) := by
  induction ms generalizing d with
  | nil => rw [← Except.ok.inj h]
  | cons m ms ih =>
    obtain ⟨n, a⟩ := m
    obtain ⟨v, hv, h⟩ := foldlM_move_cons.mp h
    dsimp only at hv h
    rw [Table.names_cons, List.nodup_cons] at hms
    have hremoved : ∀ name, name ∉ Table.names d → name ∉ Table.names (Table.remove d a) :=
      fun name hname hmem => hname (((Table.sublist_remove d a).map _).subset hmem)
    have hn : Table.get? (Table.remove d a) n = none :=
      (Table.get?_eq_none_iff _ _).mpr (hremoved n (hfree _ List.mem_cons_self))
    have hstep : (Table.put (Table.remove d a) n v).Perm ((n, v) :: Table.remove d a) := by
      rw [Table.put_of_absent hn]
      exact List.perm_append_singleton _ _
    have hrest : ∀ m ∈ ms, m.1 ∉ Table.names (Table.put (Table.remove d a) n v) := by
      intro m hm hmem
      rcases (Table.mem_names_put _ _ _ _).mp hmem with heq | hmem
      · exact hms.1 (heq ▸ List.mem_map_of_mem hm)
      · exact hremoved _ (hfree m (List.mem_cons_of_mem _ hm)) hmem
    calc (Table.values r).Perm (Table.values (Table.put (Table.remove d a) n v)) := ih hms.2 hrest h
      _ = _ := rfl
      List.Perm _ (Table.values ((n, v) :: Table.remove d a)) := hstep.map _
      _ = Table.values ((a, v) :: Table.remove d a) := rfl
      List.Perm _ (Table.values d) := ((Table.perm_cons_remove hv).map _).symm

/-- Entries that nothing is moved to are left as they are, in their order, but for those that are moved
away. -/
theorem filter_of_foldlM_move {p : String → Bool} (hd : (Table.names d).Nodup)
    (hp : ∀ m ∈ ms, p m.1 = false) (h : ms.foldlM move d = .ok r) :
    r.filter (fun e => p e.1) = d.filter fun e => p e.1 && !(Table.values ms).contains e.1 := by
  induction ms generalizing d with
  | nil => simp [← Except.ok.inj h, Table.values]
  | cons m ms ih =>
    obtain ⟨n, a⟩ := m
    obtain ⟨v, -, h⟩ := foldlM_move_cons.mp h
    have hn : (p n && !(Table.values ms).contains n) = false := by
      rw [hp (n, a) List.mem_cons_self, Bool.false_and]
    rw [ih (Table.nodup_names_put (Table.nodup_names_remove hd a) n v)
      (fun m hm => hp m (List.mem_cons_of_mem _ hm)) h,
      Table.filter_put (p := fun k => p k && !(Table.values ms).contains k) hn,
      Table.remove_eq_filter hd, List.filter_filter]
    apply List.filter_congr
    intro e _
    have hvalues : Table.values ((n, a) :: ms) = a :: Table.values ms := rfl
    rw [hvalues]
    by_cases he : e.1 = a <;> simp [he]

theorem eq_missingKey_of_foldlM_move {e : Fault} (h : ms.foldlM move d = .error e) :
    e = .missingKey := by
  induction ms generalizing d with
  | nil => cases h
  | cons m ms ih =>
    rw [List.foldlM_cons, move] at h
    cases hv : Table.get? d m.2 with
    | none =>
      rw [hv] at h
      exact (Except.error.inj h).symm
    | some v =>
      rw [hv] at h
      exact ih h

theorem moves_free {m : String × String} (hm : m ∈ o.moves data) : m.1 ∉ Table.names data := by
  obtain ⟨f, -, hf, hname⟩ := mem_moves.mp hm
  exact hname ▸ (sentAs?_iff.mp hf).absent

theorem moves_sent {m : String × String} (hm : m ∈ o.moves data) : m.2 ∈ Table.names data := by
  obtain ⟨f, -, hf, -⟩ := mem_moves.mp hm
  exact (sentAs?_iff.mp hf).sent

theorem nodup_values_moves_iff (h : o.allNames.Nodup) :
    (Table.values (o.moves data)).Nodup ↔ ¬o.Contested data := by
  have hnames : (Table.names (o.moves data)).Nodup := nodup_names_moves h
  constructor
  · rintro hvalues ⟨f, hf, g, hg, hne, a, hfa, hga⟩
    have hfm : (f.name, a) ∈ o.moves data := mem_moves.mpr ⟨f, hf, sentAs?_iff.mpr hfa, rfl⟩
    have hgm : (g.name, a) ∈ o.moves data := mem_moves.mpr ⟨g, hg, sentAs?_iff.mpr hga, rfl⟩
    exact hne (congrArg Prod.fst (List.inj_on_of_nodup_map hvalues hfm hgm rfl))
  · intro hfree
    apply (List.Nodup.of_map _ hnames).map_on
    intro m hm m' hm' heq
    obtain ⟨f, hf, hfa, hname⟩ := mem_moves.mp hm
    obtain ⟨g, hg, hga, hname'⟩ := mem_moves.mp hm'
    rw [← heq] at hga
    by_contra hne
    refine hfree ⟨f, hf, g, hg, fun h => ?_, m.2, sentAs?_iff.mp hfa, sentAs?_iff.mp hga⟩
    exact hne (Prod.ext (hname.symm.trans (h.trans hname')) heq)

/-- Aliases cannot be resolved just when two fields lay claim to one value. -/
theorem exists_resolveAliases_iff (ho : o.WellNamed) (hd : (Table.names data).Nodup) :
    (∃ r, o.resolveAliases data = .ok r) ↔ ¬o.Contested data := by
  rw [resolveAliases_eq, ← nodup_values_moves_iff ho.nodup_allNames]
  exact exists_foldlM_move_iff hd (nodup_names_moves ho.nodup_allNames)
    (fun m hm m' hm' => moves_apart hm hm') fun m hm => moves_sent hm

theorem resolveAliases_of_contested (ho : o.WellNamed) (hd : (Table.names data).Nodup)
    (h : o.Contested data) : o.resolveAliases data = .error .missingKey := by
  cases hr : o.resolveAliases data with
  | error e =>
    have he : e = .missingKey := eq_missingKey_of_foldlM_move (resolveAliases_eq o data ▸ hr)
    rw [he]
  | ok r => exact absurd h ((exists_resolveAliases_iff ho hd).mp ⟨r, hr⟩)

/-- No value that was sent is lost. -/
theorem values_perm_of_resolveAliases (ho : o.WellNamed) (h : o.resolveAliases data = .ok r) :
    (Table.values r).Perm (Table.values data) :=
  values_perm_of_foldlM_move (nodup_names_moves ho.nodup_allNames) (fun _ hm => moves_free hm)
    (resolveAliases_eq o data ▸ h)

/-- A field that was not sent under its name has what was sent under its other name. -/
theorem get?_resolveAliases_of_absent (ho : o.WellNamed) (hd : (Table.names data).Nodup)
    (h : o.resolveAliases data = .ok r) (hf : f ∈ o.allFields) (hn : f.name ∉ Table.names data) :
    Table.get? r f.name = f.alias?.bind (Table.get? data) := by
  have hget := get?_of_resolveAliases ho hd h hf
  cases ha : sentAs? f data with
  | some a =>
    rw [ha] at hget
    rw [hget, (sentAs?_iff.mp ha).aliased]
    rfl
  | none =>
    rw [ha] at hget
    dsimp only at hget
    rw [hget, (Table.get?_eq_none_iff data f.name).mpr hn, ite_self]
    cases halias : f.alias? with
    | none => rfl
    | some a =>
      symm
      rw [Option.bind_some, Table.get?_eq_none_iff]
      intro hmem
      rw [sentAs?_iff.mpr ⟨halias, hmem, hn⟩] at ha
      cases ha

/-- What was sent under a name stays there, unless it was sent for a field of another name. -/
theorem get?_resolveAliases_of_sent (ho : o.WellNamed) (hd : (Table.names data).Nodup)
    (h : o.resolveAliases data = .ok r) (hn : name ∈ Table.names data) :
    ((∃ f ∈ o.allFields, f.SentAs name data) → Table.get? r name = none) ∧
      ((∀ f ∈ o.allFields, ¬f.SentAs name data) → Table.get? r name = Table.get? data name) := by
  rw [resolveAliases_eq] at h
  have hget := (get?_of_foldlM_move hd (nodup_names_moves ho.nodup_allNames)
    (fun m hm m' hm' => moves_apart hm hm') h).2 name
  -- Values are moved to names that were not sent, so nothing has come to this one.
  have hown : Table.get? (o.moves data) name = none := by
    rw [Table.get?_eq_none_iff]
    intro hmem
    obtain ⟨m, hm, rfl⟩ := List.mem_map.mp hmem
    exact moves_free hm hn
  rw [hown] at hget
  dsimp only at hget
  have htaken : name ∈ Table.values (o.moves data) ↔ ∃ f ∈ o.allFields, f.SentAs name data := by
    simp only [mem_values_moves, sentAs?_iff]
  constructor
  · intro h
    rw [hget, if_pos (htaken.mpr h)]
  · intro h
    rw [hget, if_neg fun hmem => ?_]
    obtain ⟨f, hf, hsent⟩ := htaken.mp hmem
    exact h f hf hsent

end Outline

namespace Schema

variable {s : Schema} {data : Table Value}

/-- Aliases are resolved unless two fields lay claim to one value, in which case the whole run is
stopped. No value is lost on the way: a field that was not sent under its name has what was sent under
its other name, where the first field of a name speaks for the later ones; and what was sent under a
name stays there unless it is moved to such a field. -/
theorem aliases_resolved_exactly (hs : s.Built) (hd : (Table.names data).Nodup) :
    (s.outline.Contested data → s.outline.resolveAliases data = .error .missingKey ∧
      (s.validate (.map data)).result = .error .missingKey) ∧
    (¬s.outline.Contested data → ∃ r, s.outline.resolveAliases data = .ok r ∧
      (Table.names r).Nodup ∧ (Table.values r).Perm (Table.values data) ∧
      (∀ f ∈ s.outline.allFields, f.name ∉ Table.names data →
        Table.get? r f.name = f.alias?.bind (Table.get? data)) ∧
      ∀ name ∈ Table.names data,
        ((∃ f ∈ s.outline.allFields, f.SentAs name data) → Table.get? r name = none) ∧
        ((∀ f ∈ s.outline.allFields, ¬f.SentAs name data) →
          Table.get? r name = Table.get? data name)) := by
  have ho : s.outline.WellNamed := hs.wellNamed.outline
  constructor
  · intro h
    have hstop := Outline.resolveAliases_of_contested ho hd h
    refine ⟨hstop, ?_⟩
    obtain ⟨o, bs⟩ := s
    have hstop : o.resolveAliases data = .error .missingKey := hstop
    rw [validate, Outline.check, hstop]
  · intro h
    obtain ⟨r, hr⟩ := (Outline.exists_resolveAliases_iff ho hd).mpr h
    exact ⟨r, hr, Outline.nodup_names_of_resolveAliases hd hr,
      Outline.values_perm_of_resolveAliases ho hr,
      fun f hf hn => Outline.get?_resolveAliases_of_absent ho hd hr hf hn,
      fun name hn => Outline.get?_resolveAliases_of_sent ho hd hr hn⟩

/-- A work with a heading and a caption that both go by the name of a third field, and numbers of which
each kind of work calls its own one by another name. -/
def workBlueprint : Blueprint :=
  .mk (.plain "Work")
    [.field { FieldDecl.plain "heading" "str" with otherName := some "title" },
      .field { FieldDecl.plain "caption" "str" with otherName := some "title" },
      .field (.plain "title" "str"), .field (.plain "kind" "str"),
      .group "kind" (some (.text "book"))
        [{ FieldDecl.plain "number" "str" with otherName := some "isbn" }],
      .group "kind" (some (.text "journal"))
        [{ FieldDecl.plain "number" "str" with otherName := some "issn" }]]

def workSchema : Schema :=
  .mk
    { Outline.plain "Work"
        [{ Field.plain "heading" "str" with otherName := some "title" },
          { Field.plain "caption" "str" with otherName := some "title" }, .plain "title" "str",
          .plain "kind" "str"] with
      groups :=
        [⟨"kind", some (.text "book"),
            [{ Field.plain "number" "str" with otherName := some "isbn" }]⟩,
          ⟨"kind", some (.text "journal"),
            [{ Field.plain "number" "str" with otherName := some "issn" }]⟩] }
    []

theorem built_workSchema : workSchema.Built :=
  Blueprint.built_of_build (show workBlueprint.build.1 = .ok workSchema by cbv)

def untitled : Table Value := [("title", .text "Plants")]

def journal : Table Value :=
  [("kind", .text "journal"), ("issn", .text "1234-5679"), ("caption", .text "Ferns"),
    ("title", .text "Plants")]

/-- What one more field would take stops the run; a field may lose what was sent under its own name; and
the other name that only a later field has for a name is not looked at. -/
theorem aliases_resolved_exactly_work :
    (workSchema.validate (.map untitled)).result = .error .missingKey ∧
    ∃ r, workSchema.outline.resolveAliases journal = .ok r ∧
      Table.get? r "heading" = some (.text "Plants") ∧ Table.get? r "title" = none ∧
      Table.get? r "number" = none ∧ (Table.values r).Perm (Table.values journal) := by
  have hnames : workSchema.outline.allNames.Nodup := by decide
  have hmoves (data : Table Value) : (Table.values (workSchema.outline.moves data)).Nodup ↔
      ¬workSchema.outline.Contested data := Outline.nodup_values_moves_iff hnames
  have huntitled : (Table.names untitled).Nodup := by decide
  have hjournal : (Table.names journal).Nodup := by decide
  have hcontested : workSchema.outline.Contested untitled :=
    not_not.mp fun hfree => absurd ((hmoves untitled).mpr hfree) (by decide)
  have hfree : ¬workSchema.outline.Contested journal := (hmoves journal).mp (by decide)
  have hstop := ((aliases_resolved_exactly built_workSchema huntitled).1 hcontested).2
  obtain ⟨r, hr, -, hvalues, habsent, hsent⟩ :=
    (aliases_resolved_exactly built_workSchema hjournal).2 hfree
  have heading : { Field.plain "heading" "str" with otherName := some "title" } ∈
      workSchema.outline.allFields :=
    Outline.mem_allFields_of_mem_fields List.mem_cons_self
  have number : { Field.plain "number" "str" with otherName := some "isbn" } ∈
      workSchema.outline.allFields :=
    List.mem_of_getElem? (show workSchema.outline.allFields[4]? = _ by cbv)
  have htaken : ∃ f ∈ workSchema.outline.allFields, f.SentAs "title" journal :=
    ⟨_, heading, rfl, by decide, by decide⟩
  exact ⟨hstop, r, hr, habsent _ heading (by decide), (hsent "title" (by decide)).1 htaken,
    habsent _ number (by decide), hvalues⟩

end Schema

end Intake
