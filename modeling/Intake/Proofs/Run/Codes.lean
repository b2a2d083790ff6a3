import Mathlib
import Intake.Validation.Constraint

namespace Intake

namespace Findings

variable {a b : Findings} {path : String} {ks ls : List Code} {k : Code} {i : Issue}

/-- All that is found lies at one path and has one of some codes, each code once at most and in their
order. -/
structure Lists (a : Findings) (path : String) (ks : List Code) : Prop where
  path : ∀ i ∈ a.issues, i.path = path
  codes : (a.issues.map Issue.code).Sublist (ks.map Code.text)

theorem lists_clean (path : String) (ks : List Code) : clean.Lists path ks :=
  ⟨fun _ h => absurd h List.not_mem_nil, List.nil_sublist _⟩

theorem lists_stop (f : Fault) (path : String) (ks : List Code) : (stop f).Lists path ks :=
  ⟨fun _ h => absurd h List.not_mem_nil, List.nil_sublist _⟩

theorem lists_ofIssue (hpath : i.path = path) (hcode : i.code = k.text) : (ofIssue i).Lists path [k] := by
  refine ⟨fun j hj => ?_, ?_⟩
  · rw [List.mem_singleton.mp hj, hpath]
  · rw [ofIssue, List.map_singleton, List.map_singleton, hcode]

theorem lists_when (b : Bool) (hpath : i.path = path) (hcode : i.code = k.text) :
    (when b i).Lists path [k] := by
  cases b with
  | true => exact lists_ofIssue hpath hcode
  | false => exact lists_clean path [k]

theorem Lists.of_sublist (h : a.Lists path ks) (hs : ks.Sublist ls) : a.Lists path ls :=
  ⟨h.path, h.codes.trans (hs.map _)⟩

theorem Lists.andThen (ha : a.Lists path ks) (hb : b.Lists path ls) :
    (a.andThen b).Lists path (ks ++ ls) := by
  obtain ⟨is, _ | f⟩ := a
  · refine ⟨fun i hi => ?_, ?_⟩
    · exact (List.mem_append.mp hi).elim (ha.path i) (hb.path i)
    · rw [Findings.andThen, List.map_append, List.map_append]
      exact ha.codes.append hb.codes
  · exact ha.of_sublist (List.sublist_append_left ks ls)

end Findings

namespace Constraint

open Findings

variable {filename : String} {v : Value}

/-- The codes under which an upload is reported, in the order in which it is looked at. -/
def uploadCodes : List Code := [.notAFile, .fileTooLarge, .fileTooSmall, .missingContentType,
  .invalidContentType, .invalidFileExtension, .invalidFilenamePattern]

theorem lists_checkSize {k : Code} {issue : Value → Issue} (path : String) (bound : Option Number)
    (fails : Number → Number → Bool) (hpath : ∀ b, (issue b).path = path)
    (hcode : ∀ b, (issue b).code = k.text) :
    (checkSize v bound fails issue).Lists path [k] := by
  unfold checkSize
  split
  · exact lists_clean path [k]
  · split
    · exact lists_when _ (hpath _) (hcode _)
    · exact lists_stop _ path [k]

theorem lists_checkUploadType (types : List String) (v : Value) :
    (checkUploadType path filename types v).Lists path
      [.missingContentType, .invalidContentType] := by
  unfold checkUploadType
  split_ifs
  · exact lists_clean path _
  · exact (lists_ofIssue (k := .missingContentType) rfl rfl).of_sublist
      (List.sublist_append_left _ [Code.invalidContentType])
  · split
    · exact (lists_when (k := .invalidContentType) _ rfl rfl).of_sublist (List.sublist_cons_self _ _)
    · exact lists_stop _ path _
    · exact lists_stop _ path _

theorem lists_checkUploadName (path filename : String) (r : UploadRules) :
    (checkUploadName path filename r).Lists path
      [.invalidFileExtension, .invalidFilenamePattern] := by
  refine (lists_when (k := .invalidFileExtension) _ rfl rfl).andThen ?_
  split
  · exact lists_clean path _
  · exact lists_when _ rfl rfl

theorem lists_notAFile (path : String) : (checkUpload.notAFile path).Lists path uploadCodes :=
  (lists_ofIssue (k := .notAFile) rfl rfl).of_sublist (by simp [uploadCodes])

theorem lists_checkUpload (path : String) (r : UploadRules) (v : Value) :
    (checkUpload path r v).Lists path uploadCodes := by
  unfold checkUpload
  split
  · exact lists_clean path _
  · split
    · exact lists_notAFile path
    · refine Lists.of_sublist ?_ (List.sublist_cons_self Code.notAFile _)
      exact (lists_checkSize (k := .fileTooLarge) path _ _ (fun _ => rfl) fun _ => rfl).andThen
        ((lists_checkSize (k := .fileTooSmall) path _ _ (fun _ => rfl) fun _ => rfl).andThen
          ((lists_checkUploadType _ _).andThen (lists_checkUploadName path _ r)))
  · exact lists_notAFile path

/-- The codes under which a constraint reports. -/
def codes : Constraint → List Code
  | .length _ _ => [.invalidLength]
  | .range _ _ => [.outOfRange]
  | .format _ _ _ _ => [.invalidFormat]
  | .enum _ => [.invalidEnumValue]
  | .pattern _ _ _ => [.patternMismatch]
  | .upload _ => uploadCodes

/-- A constraint reports at the place of its field, under its codes. -/
theorem lists_check (k : Constraint) (path : String) (v : Value) : (k.check path v).Lists path k.codes := by
  cases k with
  | length min max =>
    rw [check, checkLength]
    split
    · exact lists_clean path _
    · exact lists_when (k := .invalidLength) _ rfl rfl
  | range min max =>
    rw [check, checkRange.eq_def]
    split
    · exact lists_when (k := .outOfRange) _ rfl rfl
    · exact lists_when (k := .outOfRange) _ rfl rfl
    · exact lists_clean path _
  | format name source message asked =>
    rw [check, checkFormat.eq_def]
    split
    · dsimp only
      split
      · exact lists_when (k := .invalidFormat) _ rfl rfl
      · exact lists_stop _ path _
    · exact lists_clean path _
  | enum allowed =>
    rw [check, checkEnum]
    split_ifs
    · exact lists_clean path _
    · exact lists_when (k := .invalidEnumValue) _ rfl rfl
  | pattern regex message p =>
    rw [check, checkPattern.eq_def]
    split
    · exact lists_clean path _
    · exact lists_clean path _
    · exact lists_clean path _
    · exact lists_when (k := .patternMismatch) _ rfl rfl
  | upload rules => exact lists_checkUpload path rules v

end Constraint

end Intake
