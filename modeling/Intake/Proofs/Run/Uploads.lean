import Intake.Proofs.Coercion.Types
import Intake.Proofs.Run.Isolation
import Intake.Validation.ValidatorSpec

namespace Intake

open Context

namespace Findings

variable {a b : Findings}

def Stops (a : Findings) : Prop := ∃ f, a.fault = some f

theorem not_stops_clean : ¬clean.Stops := fun ⟨_, h⟩ => nomatch h

theorem not_stops_when (b : Bool) (i : Issue) : ¬(when b i).Stops := fun ⟨_, h⟩ => by
  rw [fault_when] at h
  cases h

theorem stops_stop (f : Fault) : (stop f).Stops := ⟨f, rfl⟩

theorem stops_andThen_iff : (a.andThen b).Stops ↔ a.Stops ∨ b.Stops := by
  obtain ⟨is, _ | f⟩ := a
  · simp [Stops, andThen]
  · simp [Stops, andThen]

theorem andThen_eq_clean_iff : a.andThen b = .clean ↔ a = .clean ∧ b = .clean := by
  obtain ⟨is, _ | f⟩ := a
  · obtain ⟨js, f?⟩ := b
    simp [andThen, clean, and_assoc]
  · simp [andThen, clean]

end Findings

namespace Constraint

open Findings

variable {path filename : String} {r : UploadRules} {v : Value}

/-- The record of an upload holds something in the place of its size that is no number, or in the place of
its content type that is no text, and that place is looked at. -/
inductive Misfits (sized typed : Prop) (entries : Table Value) : Prop where
  | size {v : Value} (h : sized) (hv : Table.get? entries "size" = some v)
      (htruthy : v.isTruthy = true) (hnumber : v.number? = none) : Misfits sized typed entries
  | contentType {v : Value} (h : typed) (hv : Table.get? entries "content_type" = some v)
      (htruthy : v.isTruthy = true) (htext : ∀ t, v ≠ .text t) : Misfits sized typed entries

/-- The size that a record gives, nothing if it gives none. -/
def givenSize (entries : Table Value) : Value := orElse ((Table.get? entries "size").getD .null) (.int 0)

/-- The name that a record gives to its file, as a text. -/
def givenName (name : Value) : String := (orElse name (.text "")).display

/-- The record of an upload keeps to the rules: its size is within the bounds, its content type and the end
of its name are among those allowed, and its name holds a match of the pattern. -/
structure Keeps (r : UploadRules) (entries : Table Value) (name : Value) : Prop where
  max : ∀ m, r.maxSize = some m → ∃ n, (givenSize entries).number? = some n ∧ m.lt n = false
  min : ∀ m, r.minSize = some m → ∃ n, (givenSize entries).number? = some n ∧ n.lt m = false
  type : r.types ≠ [] → ∃ t, Table.get? entries "content_type" = some (.text t) ∧ t ≠ "" ∧
    mediaTypeOf t ∈ r.types
  extension : r.extensions ≠ [] → extensionOf (givenName name) ∈ r.extensions
  pattern : ∀ source p, r.filenamePattern = some (source, p) → p.found (givenName name) = true

theorem stops_checkSize_iff (bound : Option Number) (fails : Number → Number → Bool)
    (issue : Value → Issue) :
    (checkSize v bound fails issue).Stops ↔ bound ≠ none ∧ v.number? = none := by
  unfold checkSize
  cases bound with
  | none => simp [not_stops_clean]
  | some b =>
    cases v.number? with
    | none => simp [stops_stop]
    | some n => simp [not_stops_when]

/-- What is compared in the place of a size is no number if the entry counts as something and is none. -/
theorem number?_orElse_eq_none_iff (v? : Option Value) :
    (orElse (v?.getD .null) (.int 0)).number? = none ↔
      ∃ v, v? = some v ∧ v.isTruthy = true ∧ v.number? = none := by
  cases v? with
  | none => simp [orElse, Value.isTruthy, Value.number?]
  | some v => cases h : v.isTruthy <;> simp [orElse, h, Value.number?]

theorem checkUploadType_nil (path filename : String) (v : Value) :
    checkUploadType path filename [] v = .clean := rfl

/-- With types to compare it with, a content type is missed, compared or tripped over. -/
theorem checkUploadType_cases (path filename : String) {types : List String} (hne : types ≠ [])
    (v? : Option Value) :
    (∃ i, (v?.getD .null).isTruthy = false ∧
      checkUploadType path filename types (v?.getD .null) = .ofIssue i) ∨
    (∃ t i, v? = some (.text t) ∧ t ≠ "" ∧ checkUploadType path filename types (v?.getD .null) =
      .when (!types.contains (mediaTypeOf t)) i) ∨
    ∃ v f, v? = some v ∧ v.isTruthy = true ∧ (∀ t, v ≠ .text t) ∧
      checkUploadType path filename types (v?.getD .null) = .stop f := by
  unfold checkUploadType
  rw [if_neg (by simpa using hne)]
  cases htruthy : (v?.getD .null).isTruthy with
  | false => exact .inl ⟨_, rfl, rfl⟩
  | true =>
    refine .inr ?_
    cases v? with
    | none => cases htruthy
    | some v =>
      cases v with
      | text t =>
        have ht : t ≠ "" := by simpa [Value.isTruthy] using htruthy
        exact .inl ⟨t, _, rfl, ht, rfl⟩
      | _ => exact .inr ⟨_, _, rfl, htruthy, nofun, rfl⟩

/-- A content type is taken apart when there are types to compare it with and it counts as something. -/
theorem stops_checkUploadType_iff (types : List String) (v? : Option Value) :
    (checkUploadType path filename types (v?.getD .null)).Stops ↔
      types ≠ [] ∧ ∃ v, v? = some v ∧ v.isTruthy = true ∧ ∀ t, v ≠ .text t := by
  by_cases hne : types = []
  · simp [hne, checkUploadType_nil, not_stops_clean]
  · rcases checkUploadType_cases path filename hne v? with
      ⟨i, hfalse, h⟩ | ⟨t, i, rfl, -, h⟩ | ⟨v, f, rfl, htruthy, htext, h⟩
    · rw [h]
      refine iff_of_false (not_stops_when true i) ?_
      rintro ⟨-, v, rfl, htruthy, -⟩
      cases hfalse.symm.trans htruthy
    · rw [h]
      exact iff_of_false (not_stops_when _ i) fun ⟨_, v, hv, _, htext⟩ =>
        htext t (Option.some.inj hv).symm
    · rw [h]
      exact iff_of_true (stops_stop f) ⟨hne, v, rfl, htruthy, htext⟩

theorem not_stops_checkUploadName (path filename : String) (r : UploadRules) :
    ¬(checkUploadName path filename r).Stops := by
  rw [checkUploadName, stops_andThen_iff]
  rintro (h | h)
  · exact not_stops_when _ _ h
  · split at h
    · exact not_stops_clean h
    · exact not_stops_when _ _ h

theorem not_stops_notAFile (path : String) : ¬(checkUpload.notAFile path).Stops :=
  not_stops_when true _

/-- An upload is looked at to the end unless its record holds a misfit. -/
theorem stops_checkUpload_iff :
    (checkUpload path r v).Stops ↔ ∃ entries, v = .map entries ∧
      Table.has entries "filename" = true ∧
        Misfits (r.maxSize ≠ none ∨ r.minSize ≠ none) (r.types ≠ []) entries := by
  cases v with
  | null => simp [checkUpload, not_stops_clean]
  | map entries =>
    simp only [checkUpload, Value.map.injEq, exists_eq_left', Table.has]
    cases Table.get? entries "filename" with
    | none => simp [not_stops_notAFile]
    | some name =>
      simp only [stops_andThen_iff, stops_checkSize_iff, number?_orElse_eq_none_iff,
        stops_checkUploadType_iff, not_stops_checkUploadName, or_false, Option.isSome_some, true_and]
      constructor
      · rintro (⟨hmax, v, hv, htruthy, hnumber⟩ | ⟨hmin, v, hv, htruthy, hnumber⟩ |
          ⟨htypes, v, hv, htruthy, htext⟩)
        · exact .size (.inl hmax) hv htruthy hnumber
        · exact .size (.inr hmin) hv htruthy hnumber
        · exact .contentType htypes hv htruthy htext
      · rintro (⟨hmax | hmin, hv, htruthy, hnumber⟩ | ⟨htypes, hv, htruthy, htext⟩)
        · exact .inl ⟨hmax, _, hv, htruthy, hnumber⟩
        · exact .inr (.inl ⟨hmin, _, hv, htruthy, hnumber⟩)
        · exact .inr (.inr ⟨htypes, _, hv, htruthy, htext⟩)
  | _ => simp [checkUpload, not_stops_notAFile]

theorem checkSize_eq_clean_iff (bound : Option Number) (fails : Number → Number → Bool)
    (issue : Value → Issue) :
    checkSize v bound fails issue = .clean ↔
      ∀ b, bound = some b → ∃ n, v.number? = some n ∧ fails n b = false := by
  unfold checkSize
  cases bound with
  | none => simp
  | some b =>
    cases v.number? with
    | none => simp [Findings.stop, Findings.clean]
    | some n => simp [when_eq_clean_iff]

theorem checkUploadType_eq_clean_iff (types : List String) (v? : Option Value) :
    checkUploadType path filename types (v?.getD .null) = .clean ↔
      (types ≠ [] → ∃ t, v? = some (.text t) ∧ t ≠ "" ∧ mediaTypeOf t ∈ types) := by
  by_cases hne : types = []
  · simp [hne, checkUploadType_nil]
  · rw [imp_iff_right hne]
    rcases checkUploadType_cases path filename hne v? with
      ⟨i, hfalse, h⟩ | ⟨t, i, rfl, ht, h⟩ | ⟨v, f, rfl, -, htext, h⟩
    · rw [h]
      refine iff_of_false (fun h => nomatch congrArg Findings.issues h) ?_
      rintro ⟨t, rfl, ht, -⟩
      exact ht (by simpa [Value.isTruthy] using hfalse)
    · rw [h, when_eq_clean_iff]
      simp [ht]
    · rw [h]
      exact iff_of_false (fun h => nomatch congrArg Findings.fault h) fun ⟨t, hv, _⟩ =>
        htext t (Option.some.inj hv)

theorem checkUploadName_eq_clean_iff :
    checkUploadName path filename r = .clean ↔
      (r.extensions ≠ [] → extensionOf filename ∈ r.extensions) ∧
        ∀ source p, r.filenamePattern = some (source, p) → p.found filename = true := by
  rw [checkUploadName, andThen_eq_clean_iff, when_eq_clean_iff]
  refine and_congr (by simp) ?_
  cases r.filenamePattern with
  | none => simp
  | some named =>
    obtain ⟨source, p⟩ := named
    simp [when_eq_clean_iff]

/-- Nothing is found in an upload that is left out, or of which the record keeps to the rules. -/
theorem checkUpload_eq_clean_iff :
    checkUpload path r v = .clean ↔ v = .null ∨ ∃ entries name, v = .map entries ∧
      Table.get? entries "filename" = some name ∧ Keeps r entries name := by
  have hnotAFile : checkUpload.notAFile path ≠ .clean := fun h => nomatch congrArg Findings.issues h
  cases v with
  | null => simp [checkUpload]
  | map entries =>
    simp only [checkUpload, Value.map.injEq, exists_and_left, exists_eq_left', reduceCtorEq, false_or]
    cases Table.get? entries "filename" with
    | none => simp [hnotAFile]
    | some name =>
      simp only [andThen_eq_clean_iff, checkSize_eq_clean_iff, checkUploadType_eq_clean_iff,
        checkUploadName_eq_clean_iff, Option.some.injEq, exists_eq_left']
      exact ⟨fun ⟨hmax, hmin, htype, hextension, hpattern⟩ =>
          ⟨hmax, hmin, htype, hextension, hpattern⟩,
        fun h => ⟨h.max, h.min, h.type, h.extension, h.pattern⟩⟩
  | _ => simp [checkUpload, hnotAFile]

end Constraint

namespace Validator

open Constraint

variable {field : String} {max min : Option Number} {maxSize minSize : Option Int}
  {types extensions : List String} {filenamePattern : Option String} {v : Validator}

/-- Rules for uploads are those asked for: types and extensions in lower case, extensions without points in
front, and the pattern compiled. -/
structure Asks (max min : Option Number) (types extensions : List String)
    (filenamePattern : Option String) (r : UploadRules) : Prop where
  maxSize : r.maxSize = max
  minSize : r.minSize = min
  types : r.types = types.map lowerText
  extensions : r.extensions =
    extensions.map fun e => String.ofList ((Text.lower e.toList).dropWhile (· = '.'))
  source : r.filenamePattern.map Prod.fst = filenamePattern
  compiled : ∀ source p, r.filenamePattern = some (source, p) → Pattern.compile source = .ok p

theorem bound?_ofBound (b : Option Number) : ValidatorSpec.bound? (Value.ofBound b) = .ok b := by
  rcases b with _ | n | x <;> rfl

theorem compile_of_compiled? {source : String} {malformed : String → DefinitionFault}
    {p : Pattern.Compiled} (h : compiled? source malformed = .ok p) : Pattern.compile source = .ok p := by
  unfold compiled? at h
  split at h
  · next hp => rwa [Except.ok.inj h] at hp
  all_goals cases h

theorem exists_asks_of_upload? {k : Constraint}
    (h : upload? field max min types extensions filenamePattern = .ok k) :
    ∃ r, k = .upload r ∧ Asks max min types extensions filenamePattern r := by
  cases filenamePattern with
  | none => exact ⟨_, (Except.ok.inj h).symm, rfl, rfl, rfl, rfl, rfl, fun _ _ h => nomatch h⟩
  | some source =>
    obtain ⟨p, hcompiled, rfl⟩ := exists_ok_of_map h
    refine ⟨_, rfl, rfl, rfl, rfl, rfl, rfl, fun source' p' hp => ?_⟩
    obtain ⟨rfl, rfl⟩ := Prod.mk.inj (Option.some.inj hp)
    exact compile_of_compiled? hcompiled

theorem build_upload (max min : Option Number) :
    ValidatorSpec.build (.upload field (Value.ofBound max) (Value.ofBound min) types extensions
      filenamePattern) =
      (upload? field max min types extensions filenamePattern).map (constraint field) := by
  rw [ValidatorSpec.build, ValidatorSpec.bounds?, bound?_ofBound, bound?_ofBound]
  change (upload? field max min types extensions filenamePattern >>= fun k =>
    pure (constraint field k)) = _
  cases upload? field max min types extensions filenamePattern <;> rfl

/-- An upload is reported under its own codes, each once at most, and what was there before is left as it
was. Its record is looked at to the end, unless a bound meets a size that is no number or a list of types
meets a content type that is no text: that stops the run. Nothing happens where there is no upload, or where
its record keeps to the rules. -/
theorem upload_stopped_iff
    (hbuild : ValidatorSpec.build (.upload field (Value.ofBound (maxSize.map .int))
      (Value.ofBound (minSize.map .int)) types extensions filenamePattern) = .ok v) (c : Context) :
    (∃ found : List Issue, (v.run c).1 = c.addIssues found ∧ (∀ i ∈ found, i.path = field) ∧
      (found.map Issue.code).Sublist (uploadCodes.map Code.text)) ∧
    ((∃ fault, (v.run c).2 = some fault) ↔
      ∃ entries, c.fieldValue field .null = .map entries ∧ Table.has entries "filename" = true ∧
        Misfits (maxSize ≠ none ∨ minSize ≠ none) (types ≠ []) entries) ∧
    ∃ r, Asks (maxSize.map .int) (minSize.map .int) types extensions filenamePattern r ∧
      (v.run c = (c, none) ↔ c.fieldValue field .null = .null ∨
        ∃ entries name, c.fieldValue field .null = .map entries ∧
          Table.get? entries "filename" = some name ∧ Keeps r entries name) := by
  rw [build_upload] at hbuild
  obtain ⟨k, hupload, rfl⟩ := exists_ok_of_map hbuild
  obtain ⟨r, rfl, hr⟩ := exists_asks_of_upload? hupload
  have hlists := lists_checkUpload field r (c.fieldValue field .null)
  have hstopped : (∃ fault, ((constraint field (.upload r)).run c).2 = some fault) ↔
      (checkUpload field r (c.fieldValue field .null)).Stops := Iff.rfl
  have hpasses : (constraint field (.upload r)).run c = (c, none) ↔
      checkUpload field r (c.fieldValue field .null) = .clean := by
    have h : Step.Passes (constraint field (.upload r)).run c c ↔ _ := passes_constraint
    rw [and_iff_left rfl] at h
    exact ⟨fun hrun => h.mp ⟨hrun, rfl⟩, fun hclean => (h.mpr hclean).run⟩
  refine ⟨⟨_, rfl, hlists.path, hlists.codes⟩, ?_, r, hr, ?_⟩
  · simp only [hstopped, stops_checkUpload_iff, hr.maxSize, hr.minSize, hr.types, ne_eq,
      Option.map_eq_none_iff, List.map_eq_nil_iff]
  · rw [hpasses, checkUpload_eq_clean_iff]

/-- The rules for an avatar: 4096 bytes at most, and a picture. -/
def avatarRules : ValidatorSpec :=
  .upload "avatar" (Value.ofBound ((some 4096).map .int)) (Value.ofBound ((none : Option Int).map .int))
    ["image/png"] [] none

/-- An avatar of which the content type is a number stops the run. -/
theorem upload_stopped_iff_avatar :
    let c := start [("avatar", .map [("filename", .text "avatar.png"), ("content_type", .int 5),
      ("size", .int 2048)])]
    ∃ v, avatarRules.build = .ok v ∧ ∃ fault, (v.run c).2 = some fault := by
  intro c
  have hbuild : avatarRules.build = .ok (.constraint "avatar"
      (.upload ⟨some (.int 4096), none, ["image/png"].map lowerText, [], none⟩)) := rfl
  obtain ⟨-, hstopped, -⟩ := upload_stopped_iff hbuild c
  have hmisfit : Misfits ((some 4096 : Option Int) ≠ none ∨ (none : Option Int) ≠ none)
      (["image/png"] ≠ []) [("filename", .text "avatar.png"), ("content_type", .int 5),
        ("size", .int 2048)] :=
    .contentType (List.cons_ne_nil _ _) rfl rfl fun _ => Value.noConfusion
  exact ⟨_, hbuild, hstopped.mpr ⟨_, rfl, rfl, hmisfit⟩⟩

end Validator

end Intake
