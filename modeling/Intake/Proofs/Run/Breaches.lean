import Intake.Proofs.Coercion.Types
import Intake.Proofs.Run.Bounds
import Intake.Proofs.Run.Places
import Intake.Schema.Builder

namespace Intake

open Context

namespace Constraint

variable {k : Constraint} {ks : List Constraint} {path field : String} {v : Value} {is js : List Issue}

/-- The codes of keywords in the order in which these are gone through. -/
def keywordCodes : List Code :=
  [.invalidLength, .outOfRange, .invalidFormat, .invalidEnumValue, .patternMismatch]

/-- What keywords find in a value: one issue for each that does not admit it, at the place of the field and
under the code of the keyword, in the order of the keywords. -/
inductive Breaches (path : String) (v : Value) : List Constraint → List Issue → Prop where
  | nil : Breaches path v [] []
  | kept {k : Constraint} {ks : List Constraint} {is : List Issue} (h : k.Admits v)
      (hrest : Breaches path v ks is) : Breaches path v (k :: ks) is
  | broken {k : Constraint} {ks : List Constraint} {i : Issue} {is : List Issue} {code : Code}
      (h : ¬k.Admits v) (hi : k.check path v = .ofIssue i) (hpath : i.path = path)
      (hcodes : k.codes = [code]) (hcode : i.code = code.text) (hrest : Breaches path v ks is) :
      Breaches path v (k :: ks) (i :: is)

theorem Breaches.unique (h : Breaches path v ks is) (h' : Breaches path v ks js) : is = js := by
  induction h generalizing js with
  | nil =>
    cases h'
    rfl
  | kept h _ ih =>
    cases h' with
    | kept _ hrest => exact ih hrest
    | broken hnot => exact absurd h hnot
  | broken hnot hi _ _ _ _ ih =>
    cases h' with
    | kept h => exact absurd h hnot
    | broken _ hi' _ _ _ hrest =>
      obtain rfl := List.singleton_inj.mp (congrArg Findings.issues (hi.symm.trans hi'))
      rw [ih hrest]

theorem Breaches.path_eq (h : Breaches path v ks is) : ∀ i ∈ is, i.path = path := by
  induction h with
  | nil => exact fun _ h => absurd h List.not_mem_nil
  | kept _ _ ih => exact ih
  | broken _ _ hpath _ _ _ ih => exact List.forall_mem_cons.mpr ⟨hpath, ih⟩

theorem exists_codes_eq (hk : k.IsKeyword) : ∃ code, k.codes = [code] := by
  cases k with
  | upload rules => exact absurd hk id
  | _ => exact ⟨_, rfl⟩

/-- A keyword that is not stopped finds nothing in a value that it admits, and one issue in any other. -/
theorem issues_check (hk : k.IsKeyword) (hstop : (k.check path v).fault = none) :
    k.Admits v ∧ (k.check path v).issues = [] ∨
      ∃ i code, ¬k.Admits v ∧ k.check path v = .ofIssue i ∧ k.codes = [code] ∧ i.code = code.text := by
  obtain ⟨code, hcodes⟩ := exists_codes_eq hk
  have hclean : k.check path v = .clean ↔ k.Admits v := check_eq_clean_iff hk
  have hlists := (k.lists_check path v).codes
  rw [hcodes] at hlists
  generalize k.check path v = found at *
  obtain ⟨issues, fault⟩ := found
  obtain rfl : fault = none := hstop
  cases issues with
  | nil => exact .inl ⟨hclean.mp rfl, rfl⟩
  | cons i is =>
    have hnot : ¬k.Admits v := fun h => by cases hclean.mpr h
    obtain ⟨hcode, htail⟩ := List.cons_sublist_cons'.mp hlists |>.resolve_left (by simp)
    obtain rfl : is = [] := List.map_eq_nil_iff.mp (List.sublist_nil.mp htail)
    exact .inr ⟨i, code, hnot, rfl, hcodes, hcode⟩

end Constraint

namespace Validator

variable {field : String} {ks : List Constraint} {c d : Context}

theorem breaches_of_runAll (hks : ∀ k ∈ ks, k.IsKeyword)
    (h : runAll (ks.map (.constraint field)) c = (d, none)) :
    ∃ is, Constraint.Breaches field (c.fieldValue field .null) ks is ∧ d.issues = c.issues ++ is := by
  induction ks generalizing c with
  | nil =>
    obtain rfl : c = d := (Prod.mk.inj h).1
    exact ⟨[], .nil, (List.append_nil _).symm⟩
  | cons k ks ih =>
    rw [List.map_cons, runAll_cons, Step.andThen_eq_none_iff] at h
    obtain ⟨e, hk, hrest⟩ := h
    obtain ⟨he, hstop⟩ := Prod.mk.inj hk
    -- A constraint only reports, so the others look at the same value.
    have hvalue : e.fieldValue field .null = c.fieldValue field .null := he ▸ rfl
    obtain ⟨is, his, hd⟩ := ih (fun k hk => hks k (List.mem_cons_of_mem _ hk)) hrest
    rw [hvalue] at his
    rcases Constraint.issues_check (hks k List.mem_cons_self) hstop with
      ⟨hadmits, hnone⟩ | ⟨i, code, hnot, hi, hcodes, hcode⟩
    · refine ⟨is, .kept hadmits his, ?_⟩
      rw [hd, ← he, addIssues, hnone, List.append_nil]
    · have hpath : i.path = field :=
        (k.lists_check field (c.fieldValue field .null)).path i (hi ▸ List.mem_singleton_self i)
      refine ⟨i :: is, .broken hnot hi hpath hcodes hcode his, ?_⟩
      rw [hd, ← he, addIssues, hi, Findings.ofIssue, List.append_assoc, List.singleton_append]

end Validator

theorem exists_ok_of_bind {ε α β : Type} {x : Except ε α} {g : α → Except ε β} {y : β}
    (h : x >>= g = .ok y) : ∃ a, x = .ok a ∧ g a = .ok y := by
  cases x with
  | error e => cases h
  | ok a => exact ⟨a, rfl, h⟩

namespace ValidatorSpec

variable {field : String} {ss ts : List ValidatorSpec} {s : ValidatorSpec} {v : Validator}
  {cs ds : List Code} {code : Code}

/-- What is asked for are keywords of one field with codes among the given ones, in their order. -/
def AsksKeywords (ss : List ValidatorSpec) (field : String) (cs : List Code) : Prop :=
  ∀ vs, buildAll ss = .ok vs → ∃ ks : List Constraint, vs = ks.map (.constraint field) ∧
    (∀ k ∈ ks, k.IsKeyword) ∧ (ks.flatMap Constraint.codes).Sublist cs

theorem buildAll_cons_eq_ok {us : List Validator} (h : buildAll (s :: ss) = .ok us) :
    ∃ v vs, s.build = .ok v ∧ buildAll ss = .ok vs ∧ us = v :: vs := by
  rw [buildAll] at h
  obtain ⟨v, hv, h⟩ := exists_ok_of_bind h
  obtain ⟨vs, hvs, h⟩ := exists_ok_of_bind h
  exact ⟨v, vs, hv, hvs, (Except.ok.inj h).symm⟩

theorem buildAll_append {us : List Validator} (h : buildAll (ss ++ ts) = .ok us) :
    ∃ vs ws, buildAll ss = .ok vs ∧ buildAll ts = .ok ws ∧ us = vs ++ ws := by
  induction ss generalizing us with
  | nil => exact ⟨[], us, rfl, h, rfl⟩
  | cons s ss ih =>
    obtain ⟨v, us, hv, hus, rfl⟩ := buildAll_cons_eq_ok h
    obtain ⟨vs, ws, hvs, hws, rfl⟩ := ih hus
    refine ⟨v :: vs, ws, ?_, hws, rfl⟩
    rw [buildAll, hv, hvs]
    rfl

theorem asksKeywords_nil (field : String) (cs : List Code) : AsksKeywords [] field cs := by
  intro vs h
  obtain rfl := Except.ok.inj h
  exact ⟨[], rfl, fun _ h => absurd h List.not_mem_nil, List.nil_sublist cs⟩

theorem AsksKeywords.append (h : AsksKeywords ss field cs) (h' : AsksKeywords ts field ds) :
    AsksKeywords (ss ++ ts) field (cs ++ ds) := by
  intro us hus
  obtain ⟨vs, ws, hvs, hws, rfl⟩ := buildAll_append hus
  obtain ⟨ks, rfl, hks, hcs⟩ := h vs hvs
  obtain ⟨ls, rfl, hls, hds⟩ := h' ws hws
  refine ⟨ks ++ ls, List.map_append.symm, List.forall_mem_append.mpr ⟨hks, hls⟩, ?_⟩
  rw [List.flatMap_append]
  exact hcs.append hds

theorem asksKeywords_singleton
    (h : ∀ v, s.build = .ok v → ∃ k : Constraint, v = .constraint field k ∧ k.IsKeyword ∧ k.codes = [code]) :
    AsksKeywords [s] field [code] := by
  intro vs hvs
  obtain ⟨v, us, hv, hus, rfl⟩ := buildAll_cons_eq_ok hvs
  obtain rfl := Except.ok.inj hus
  obtain ⟨k, rfl, hk, hcodes⟩ := h v hv
  refine ⟨[k], rfl, by simpa using hk, ?_⟩
  rw [List.flatMap_singleton, hcodes]

theorem exists_ok_of_defined {α : Type} {x : Except DefinitionFault α} {y : α} (h : defined x = .ok y) :
    x = .ok y := by
  cases x with
  | error e => cases h
  | ok a => exact congrArg Except.ok (Except.ok.inj h)

theorem asksKeywords_length (field : String) (min max : Value) :
    AsksKeywords [.length field min max] field [.invalidLength] := by
  refine asksKeywords_singleton fun v hv => ?_
  rw [build] at hv
  obtain ⟨⟨a, b⟩, -, hv⟩ := exists_ok_of_bind hv
  obtain ⟨k, hk, hv⟩ := exists_ok_of_bind hv
  replace hk := exists_ok_of_defined hk
  unfold Constraint.length? at hk
  split_ifs at hk
  obtain rfl := Except.ok.inj hk
  exact ⟨.length a b, (Except.ok.inj hv).symm, trivial, rfl⟩

theorem asksKeywords_range (field : String) (min max : Value) :
    AsksKeywords [.range field min max] field [.outOfRange] := by
  refine asksKeywords_singleton fun v hv => ?_
  rw [build] at hv
  obtain ⟨⟨a, b⟩, -, hv⟩ := exists_ok_of_bind hv
  obtain ⟨k, hk, hv⟩ := exists_ok_of_bind hv
  obtain ⟨-, rfl⟩ := Constraint.bounded_of_range? (exists_ok_of_defined hk)
  exact ⟨.range a b, (Except.ok.inj hv).symm, trivial, rfl⟩

theorem asksKeywords_format (field name : String) (source message : Option String) :
    AsksKeywords [.format field name source message] field [.invalidFormat] := by
  refine asksKeywords_singleton fun v hv => ?_
  rw [build] at hv
  obtain ⟨k, hk, rfl⟩ := exists_ok_of_map hv
  unfold Constraint.format? at hk
  split at hk
  · obtain rfl := Except.ok.inj hk
    exact ⟨_, rfl, trivial, rfl⟩
  · split_ifs at hk
    obtain ⟨p, -, rfl⟩ := exists_ok_of_map hk
    exact ⟨_, rfl, trivial, rfl⟩

theorem asksKeywords_enum (field : String) (allowed : List Value) :
    AsksKeywords [.enum field allowed] field [.invalidEnumValue] := by
  refine asksKeywords_singleton fun v hv => ?_
  rw [build] at hv
  obtain ⟨k, hk, rfl⟩ := exists_ok_of_map hv
  replace hk := exists_ok_of_defined hk
  unfold Constraint.enum? at hk
  split_ifs at hk
  obtain rfl := Except.ok.inj hk
  exact ⟨_, rfl, trivial, rfl⟩

theorem asksKeywords_pattern (field regex : String) (message : Option String) :
    AsksKeywords [.pattern field regex message] field [.patternMismatch] := by
  refine asksKeywords_singleton fun v hv => ?_
  rw [build] at hv
  obtain ⟨k, hk, rfl⟩ := exists_ok_of_map hv
  obtain ⟨p, -, rfl⟩ := exists_ok_of_map hk
  exact ⟨_, rfl, trivial, rfl⟩

end ValidatorSpec

namespace FieldDecl

open ValidatorSpec

/-- The keywords of a declaration, at most one of a kind, in the order in which they are gone through. -/
theorem asksKeywords_constraints (d : FieldDecl) :
    AsksKeywords d.constraints d.name Constraint.keywordCodes := by
  have hlength : AsksKeywords (if d.minLength.isNull && d.maxLength.isNull then []
      else [.length d.name d.minLength d.maxLength]) d.name [.invalidLength] := by
    split_ifs
    · exact asksKeywords_nil d.name _
    · exact asksKeywords_length d.name _ _
  have hrange : AsksKeywords (if d.min.isNull && d.max.isNull then [] else [.range d.name d.min d.max])
      d.name [.outOfRange] := by
    split_ifs
    · exact asksKeywords_nil d.name _
    · exact asksKeywords_range d.name _ _
  have hformat : AsksKeywords (d.format.elim [] fun name => [.format d.name name none none]) d.name
      [.invalidFormat] := by
    cases d.format with
    | none => exact asksKeywords_nil d.name _
    | some name => exact asksKeywords_format d.name name none none
  have henum : AsksKeywords (d.enum.elim [] fun allowed => [.enum d.name allowed]) d.name
      [.invalidEnumValue] := by
    cases d.enum with
    | none => exact asksKeywords_nil d.name _
    | some allowed => exact asksKeywords_enum d.name allowed
  have hpattern : AsksKeywords (d.pattern.elim [] fun regex => [.pattern d.name regex none]) d.name
      [.patternMismatch] := by
    cases d.pattern with
    | none => exact asksKeywords_nil d.name _
    | some regex => exact asksKeywords_pattern d.name regex none
  exact (((hlength.append hrange).append hformat).append henum).append hpattern

end FieldDecl

end Intake
