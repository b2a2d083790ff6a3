import Intake.Proofs.Reading.References
import Intake.Proofs.Run.Keywords
import Intake.Validation.ValidatorSpec

namespace Intake

open Context Network

namespace NamedFormat

variable {name : String} {f : NamedFormat} {s : List Char}

theorem ofName?_of_mem (h : (name, f) ∈ names) : ofName? name = some f := by
  have hall : ∀ p ∈ names, ofName? p.1 = some p.2 := by decide
  exact hall _ h

/-- Of all formats only that of references can fail to be looked at, and only for the host. -/
theorem holds_eq_error_iff :
    (∃ e, f.holds s = .error e) ↔
      f = .url ∧ ∃ scheme host, Refers (cleaned s) scheme host ∧ ¬IsReadable host := by
  cases f with
  | url =>
    rw [and_iff_right rfl, ← splitUrl_eq_error_iff, holds, isUrl]
    cases splitUrl s <;> simp [Except.map]
  | _ => simp [holds]

end NamedFormat

namespace Validator

variable {c : Context} {f : NamedFormat} {field name : String} {message : Option String} {s : String}

/-- A named format leaves a text be or reports it, unless it fails to look at it. -/
theorem run_named (hs : c.fieldValue field .null = .text s) :
    (constraint field (.format name none message (.named f))).run c =
      match f.holds s.toList with
      | .ok true => (c, none)
      | .ok false => (c.addIssue (.format field name (.text s) message), none)
      | .error e => (c, some (.badArgument e.message)) := by
  rw [run, hs, Constraint.check, Constraint.checkFormat]
  rcases f.holds s.toList with e | _ | _
  · exact Prod.ext (by simp [settle, addIssues, Findings.stop]) rfl
  · rfl
  · exact Prod.ext (by simp [settle, addIssues, Findings.when, Findings.clean]) rfl

theorem addIssue_ne (c : Context) (i : Issue) : c.addIssue i ≠ c := fun h => by
  have hlen := congrArg (fun d => d.issues.length) h
  simp [addIssue] at hlen

/-- A named format leaves a text be or reports one issue, with one exception: it is stopped by a reference
to a host that cannot be read. Such a reference is not let pass either. -/
theorem named_format_stopped_iff (hname : (name, f) ∈ NamedFormat.names) (field : String)
    (message : Option String) (c : Context) (s : String)
    (hs : c.fieldValue field .null = .text s) :
    ∃ v, ValidatorSpec.build (.format field name none message) = .ok v ∧
      ((∃ fault, (v.run c).2 = some fault) ↔
        f = .url ∧ ∃ scheme host, Refers (cleaned s.toList) scheme host ∧ ¬IsReadable host) ∧
      (v.run c = (c, none) ∨ v.run c = (c.addIssue (.format field name (.text s) message), none) ∨
        ∃ reason, v.run c = (c, some (.badArgument reason))) ∧
      (f = .url → (v.run c = (c, none) ↔ ∃ scheme host, Refers (cleaned s.toList) scheme host ∧
        scheme ≠ [] ∧ host ≠ [] ∧ IsReadable host)) := by
  have hbuild : ValidatorSpec.build (.format field name none message) =
      .ok (.constraint field (.format name none message (.named f))) := by
    unfold ValidatorSpec.build Constraint.format?
    rw [NamedFormat.ofName?_of_mem hname]
    rfl
  refine ⟨_, hbuild, ?_, ?_, ?_⟩
  · rw [run_named hs, ← NamedFormat.holds_eq_error_iff]
    rcases f.holds s.toList with e | _ | _ <;> simp
  · rw [run_named hs]
    rcases f.holds s.toList with e | _ | _
    · exact .inr (.inr ⟨e.message, rfl⟩)
    · exact .inr (.inl rfl)
    · exact .inl rfl
  · rintro rfl
    rw [run_named hs, ← isUrl_eq_true_iff, NamedFormat.holds]
    rcases isUrl s.toList with e | _ | _ <;> simp [addIssue_ne]

/-- A link to an address in a bracket that is never closed stops the run. -/
theorem named_format_stopped_iff_link :
    let c := start [("link", .text "http://[::1")]
    ("url", NamedFormat.url) ∈ NamedFormat.names ∧ c.fieldValue "link" .null = .text "http://[::1" ∧
      ∃ v, ValidatorSpec.build (.format "link" "url" none none) = .ok v ∧
        ∃ fault, (v.run c).2 = some fault := by
  intro c
  have hname : ("url", NamedFormat.url) ∈ NamedFormat.names := by decide
  have hs : c.fieldValue "link" .null = .text "http://[::1" := rfl
  obtain ⟨v, hv, hstopped, -⟩ := named_format_stopped_iff hname "link" none c _ hs
  have hrefers : Refers (cleaned "http://[::1".toList) "http".toList "[::1".toList := by
    have hcleaned : cleaned "http://[::1".toList =
        "http".toList ++ ':' :: '/' :: '/' :: ("[::1".toList ++ []) := rfl
    rw [hcleaned]
    exact .absolute ⟨⟨'h', rfl, by decide⟩, by simp [isSchemeChar]⟩ (by simp [EndsHost]) (by simp)
  have hunreadable : ¬IsReadable "[::1".toList := fun h => absurd h.paired (by decide)
  exact ⟨hname, hs, v, hv, hstopped.mpr ⟨rfl, _, _, hrefers, hunreadable⟩⟩

end Validator

end Intake
