import Intake.Admission
import Intake.Proofs.Reading.Documents
import Intake.Proofs.Reading.Parts
import Intake.Proofs.Schema.Built

namespace Intake

variable {p : Payload} {payload : Option Payload} {contentType : Option String} {f : Fault}

/-- What makes a payload fail with a fault of another kind under the parser that reads it. -/
def Parser.Trap (parser : Parser) (p : Payload) (contentType : Option String) (f : Fault) : Prop :=
  match parser with
  | .json => Json.Trap p contentType f
  | .form isRetyped => Form.Trap isRetyped p contentType f
  | .multipart => Multipart.Trap p contentType f
  | .xml => Xml.Trap p f

theorem Parser.escapes_read_iff (parser : Parser) :
    f.Escapes (parser.read p contentType).result ↔ parser.Trap p contentType f := by
  cases parser with
  | json => exact Json.escapes_readBody_iff
  | form isRetyped => exact Form.escapes_readBody_iff
  | multipart => exact Multipart.escapes_readBody_iff
  | xml => exact Xml.escapes_readBody_iff

namespace Parsers

variable {r : Parsers}

/-- The parser that reads a payload: the one for its content type, or else the one that its first mark
asks for. -/
def chosen? (r : Parsers) (p : Payload) (contentType : Option String) : Option Parser :=
  (r.find? contentType).or ((r.sniff? p).map Prod.snd)

/-- What makes a payload fail with a fault of another kind. -/
def Trap (r : Parsers) (payload : Option Payload) (contentType : Option String) (f : Fault) : Prop :=
  ∃ p parser, payload = some p ∧ r.chosen? p contentType = some parser ∧
    parser.Trap p contentType f

theorem read_some (r : Parsers) (p : Payload) (contentType : Option String) :
    (r.read (some p) contentType).result = match r.chosen? p contentType with
      | some parser => (parser.read p contentType).result
      | none => .ok [] := by
  unfold read chosen?
  dsimp only
  cases r.find? contentType with
  | some parser => rfl
  | none => cases r.sniff? p <;> rfl

/-- A fault that is not the payload's comes out of a reading just when there is a trap for it. -/
theorem escapes_read_iff : f.Escapes (r.read payload contentType).result ↔ r.Trap payload contentType f := by
  cases payload with
  | none =>
    refine iff_of_false Fault.not_escapes_ok ?_
    rintro ⟨p, parser, ⟨⟩, -⟩
  | some p =>
    rw [read_some]
    cases hchosen : r.chosen? p contentType with
    | none =>
      refine iff_of_false Fault.not_escapes_ok ?_
      rintro ⟨q, parser, heq, h, -⟩
      cases heq
      cases hchosen.symm.trans h
    | some parser =>
      dsimp only
      rw [parser.escapes_read_iff]
      constructor
      · exact fun h => ⟨p, parser, rfl, hchosen, h⟩
      · rintro ⟨q, parser', heq, h, htrap⟩
        cases heq
        cases hchosen.symm.trans h
        exact htrap

end Parsers

namespace Admission

variable {a : Admission}

theorem check_of_read {data : Table Value} (h : (a.parsers.read payload contentType).result = .ok data) :
    (a.check payload contentType).result = (a.checkData data).result := by
  unfold check
  dsimp only
  rw [h]

theorem check_of_payload {fault : PayloadFault}
    (h : (a.parsers.read payload contentType).result = .error (.payload fault)) :
    (a.check payload contentType).result =
      .ok (.failure (unreadable fault ((payload.map Payload.shown).getD .null))) := by
  unfold check
  dsimp only
  rw [h]

theorem check_of_escapes (h : f.Escapes (a.parsers.read payload contentType).result) :
    (a.check payload contentType).result = .error f := by
  obtain ⟨h, hf⟩ := h
  unfold check
  dsimp only
  rw [h]
  cases f with
  | payload fault => exact absurd trivial hf
  | _ => rfl

/-- A schema that asks for nothing, with the parsers for all formats. -/
def anything : Admission := ⟨.mk (.plain "Anything" []) [], Parsers.standard, none⟩

end Admission

end Intake
