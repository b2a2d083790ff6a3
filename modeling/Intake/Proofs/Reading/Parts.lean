import Intake.Multipart.Body
import Intake.Proofs.Reading.Texts

namespace Intake.Multipart

variable {p : Payload} {contentType : Option String} {f : Fault}

namespace Part

variable {part : Part}

/-- The name under which a part is sent. -/
def name (part : Part) : String :=
  textOf (((HeaderValue.ofOctets (part.header "content-disposition")).get? "name").getD [])

/-- Whether a part is a file. -/
def isFile (part : Part) : Bool :=
  ((HeaderValue.ofOctets (part.header "content-disposition")).get? "filename").isSome

/-- The name of the charset that a part's content is read in. -/
def charset (part : Part) : String :=
  (((HeaderValue.ofOctets (part.header "content-type")).get? "charset").map
    fun c => String.ofList (Text.ofLatin1 c)).getD "utf-8"

/-- What makes a part fail with a fault of another kind. It has a name and is no file, and its charset
lets a fault through or its text is nested too deeply. -/
inductive Trap (part : Part) : Fault → Prop where
  | charset {f : Fault} (hname : part.name ≠ "") (hfile : part.isFile = false)
      (h : Charset.Trap part.charset part.content f) : Trap part f
  | depth {text : String} (hname : part.name ≠ "") (hfile : part.isFile = false)
      (htext : Charset.decodeNamed part.charset part.content = .ok text)
      (hdeep : Form.IsTooDeep text) : Trap part .tooDeep

theorem entry?_of_no_name (h : part.name = "") : part.entry? contentType = .ok none := by
  rw [name] at h
  unfold entry?
  dsimp only
  rw [if_pos h]
  rfl

theorem entry?_of_isFile (contentType : Option String) (hname : part.name ≠ "") (hfile : part.isFile = true) :
    ∃ e, part.entry? contentType = .ok (some e) := by
  rw [name] at hname
  obtain ⟨filename, hfilename⟩ := Option.isSome_iff_exists.mp hfile
  unfold entry?
  dsimp only
  rw [if_neg hname, hfilename]
  exact ⟨_, rfl⟩

/-- A part with a name that is no file is read in its charset and then retyped. -/
theorem entry?_of_text (hname : part.name ≠ "") (hfile : part.isFile = false) :
    part.entry? contentType =
      ((Charset.decodeNamed part.charset part.content).mapError (Payload.charsetFault fun _ =>
          ⟨"Part '" ++ part.name ++ "' is not valid " ++ part.charset ++ " text", contentType⟩) >>=
        fun text => (Form.retype text).map fun v => some (part.name, v)) := by
  have hnone : (HeaderValue.ofOctets (part.header "content-disposition")).get? "filename" = none := by
    simpa [isFile] using hfile
  rw [name] at hname
  unfold entry?
  dsimp only
  rw [if_neg hname, hnone, charset]
  generalize Charset.decodeNamed _ part.content = decoded
  cases decoded with
  | error problem => rfl
  | ok text =>
    change (Form.retype text >>= fun v => _) = (Form.retype text).map _
    cases Form.retype text <;> rfl

theorem escapes_entry?_iff : f.Escapes (part.entry? contentType) ↔ part.Trap f := by
  by_cases hname : part.name = ""
  · rw [entry?_of_no_name hname]
    refine iff_of_false Fault.not_escapes_ok ?_
    rintro (⟨h, -⟩ | ⟨h, -⟩) <;> exact h hname
  · cases hfile : part.isFile with
    | true =>
      obtain ⟨e, he⟩ := entry?_of_isFile contentType hname hfile
      rw [he]
      refine iff_of_false Fault.not_escapes_ok ?_
      rintro (⟨-, h, -⟩ | ⟨-, h, -⟩) <;> cases hfile.symm.trans h
    | false =>
      rw [entry?_of_text hname hfile, Fault.escapes_bind_iff, Charset.escapes_decodeNamed_iff]
      constructor
      · rintro (h | ⟨text, htext, h⟩)
        · exact .charset hname hfile h
        · rw [Fault.escapes_map_iff] at h
          obtain ⟨rfl, hdeep⟩ := Form.retype_eq_error_iff.mp h.1
          exact .depth hname hfile (Fault.mapError_eq_ok_iff.mp htext) hdeep
      · rintro (⟨-, -, h⟩ | ⟨-, -, htext, hdeep⟩)
        · exact .inl h
        · refine .inr ⟨_, Fault.mapError_eq_ok_iff.mpr htext, Fault.escapes_map_iff.mpr ?_⟩
          exact ⟨Form.retype_of_isTooDeep hdeep, id⟩

end Part

/-- The boundary that a content type gives. -/
def IsBoundary (contentType : Option String) (boundary : List UInt8) : Prop :=
  boundary ≠ [] ∧ ∃ h, HeaderValue.ofText? (contentType.getD "").toList = some h ∧
    h.get? "boundary" = some boundary

/-- What makes a payload in several parts fail with a fault of another kind: a content type that cannot
stand in a header, a text that cannot be written, a boundary that is too long, or the first part that is
not read. -/
inductive Trap (p : Payload) (contentType : Option String) : Fault → Prop where
  | header (h : HeaderValue.ofText? (contentType.getD "").toList = none) :
      Trap p contentType .notEncodable
  | octets {boundary : List UInt8} (hboundary : IsBoundary contentType boundary)
      (h : p.HasSurrogate) : Trap p contentType .notEncodable
  | boundary {boundary data : List UInt8} (hboundary : IsBoundary contentType boundary)
      (hdata : p.octets = .ok data) (h : maxBoundary < boundary.length) :
      Trap p contentType .badParserSetup
  | part {boundary data : List UInt8} {before after : List Part} {part : Part} {f : Fault}
      (hboundary : IsBoundary contentType boundary) (hdata : p.octets = .ok data)
      (hlength : boundary.length ≤ maxBoundary)
      (hclosed : Message.read boundary data = ⟨before ++ part :: after, .closed⟩)
      (hbefore : ∀ q ∈ before, ∃ e, q.entry? contentType = .ok e) (h : part.Trap f) :
      Trap p contentType f

theorem escapes_entries_iff {m : Message} :
    f.Escapes (m.entries contentType) ↔ ∃ before part after,
      m = ⟨before ++ part :: after, .closed⟩ ∧
        (∀ q ∈ before, ∃ e, q.entry? contentType = .ok e) ∧ part.Trap f := by
  obtain ⟨parts, ending⟩ := m
  cases ending with
  | closed =>
    change f.Escapes ((parts.mapM (Part.entry? contentType)).map _) ↔ _
    rw [Fault.escapes_map_iff, Fault.escapes_mapM_iff]
    simp [Part.escapes_entry?_iff]
  | cut unfinished =>
    -- A message that is not closed is malformed, which is a fault of the payload.
    refine iff_of_false (fun h => h.2 ?_) (by simp)
    cases h.1
    trivial
  | malformed problem =>
    refine iff_of_false (fun h => h.2 ?_) (by simp)
    cases h.1
    trivial

theorem readEntries_of_no_header (h : HeaderValue.ofText? (contentType.getD "").toList = none) :
    readEntries p contentType = .error .notEncodable := by
  unfold readEntries contentTypeValue
  rw [h]
  rfl

theorem readEntries_of_no_boundary {header : HeaderValue}
    (hheader : HeaderValue.ofText? (contentType.getD "").toList = some header)
    (h : ∀ boundary, ¬IsBoundary contentType boundary) :
    readEntries p contentType = .error (boundaryMissing contentType) := by
  have hnil : (header.get? "boundary").getD [] = [] := by
    cases hget : header.get? "boundary" with
    | none => rfl
    | some boundary =>
      cases boundary with
      | nil => rfl
      | cons b rest => exact absurd ⟨List.cons_ne_nil b rest, header, hheader, hget⟩ (h _)
  unfold readEntries contentTypeValue
  rw [hheader]
  change (if ((header.get? "boundary").getD []).isEmpty = true then _ else _) = _
  rw [hnil]
  rfl

theorem readEntries_of_boundary {boundary : List UInt8} (h : IsBoundary contentType boundary) :
    readEntries p contentType = (p.octets >>= fun data =>
      if maxBoundary < boundary.length then .error .badParserSetup
      else (Message.read boundary data).entries contentType) := by
  obtain ⟨hne, header, hheader, hget⟩ := h
  unfold readEntries contentTypeValue
  rw [hheader]
  change (if ((header.get? "boundary").getD []).isEmpty = true then _ else _) = _
  rw [hget, Option.getD_some, if_neg (by simpa using hne)]
  rfl

theorem IsBoundary.unique {b b' : List UInt8} (h : IsBoundary contentType b)
    (h' : IsBoundary contentType b') : b = b' := by
  obtain ⟨-, header, hheader, hget⟩ := h
  obtain ⟨-, header', hheader', hget'⟩ := h'
  cases hheader.symm.trans hheader'
  cases hget.symm.trans hget'
  rfl

theorem escapes_of_boundary_iff {boundary : List UInt8} (hb : IsBoundary contentType boundary) :
    f.Escapes (readEntries p contentType) ↔ Trap p contentType f := by
  rw [readEntries_of_boundary hb, Fault.escapes_bind_iff]
  constructor
  · rintro (⟨h, -⟩ | ⟨data, hdata, h⟩)
    · obtain ⟨rfl, hsurrogate⟩ := Payload.octets_eq_error_iff.mp h
      exact .octets hb hsurrogate
    · split at h
      · next hlength =>
        obtain ⟨rfl, -⟩ := Fault.escapes_error_iff.mp h
        exact .boundary hb hdata hlength
      · next hlength =>
        obtain ⟨before, part, after, hclosed, hbefore, h⟩ := escapes_entries_iff.mp h
        exact .part hb hdata (Nat.not_lt.mp hlength) hclosed hbefore h
  · rintro (h | ⟨-, h⟩ | ⟨hb', hdata, hlength⟩ | ⟨hb', hdata, hlength, hclosed, hbefore, h⟩)
    · obtain ⟨-, header, hheader, -⟩ := hb
      cases h.symm.trans hheader
    · exact .inl ⟨Payload.octets_eq_error_iff.mpr ⟨rfl, h⟩, id⟩
    · cases hb'.unique hb
      refine .inr ⟨_, hdata, ?_⟩
      rw [if_pos hlength]
      exact ⟨rfl, id⟩
    · cases hb'.unique hb
      refine .inr ⟨_, hdata, ?_⟩
      rw [if_neg (Nat.not_lt.mpr hlength)]
      exact escapes_entries_iff.mpr ⟨_, _, _, hclosed, hbefore, h⟩

theorem escapes_readEntries_iff :
    f.Escapes (readEntries p contentType) ↔ Trap p contentType f := by
  cases hheader : HeaderValue.ofText? (contentType.getD "").toList with
  | none =>
    rw [readEntries_of_no_header hheader, Fault.escapes_error_iff]
    constructor
    · rintro ⟨rfl, -⟩
      exact .header hheader
    · rintro (- | ⟨⟨-, header, h, -⟩, -⟩ | ⟨⟨-, header, h, -⟩, -⟩ | ⟨⟨-, header, h, -⟩, -⟩)
      · exact ⟨rfl, id⟩
      all_goals cases hheader.symm.trans h
  | some header =>
    by_cases hb : ∃ boundary, IsBoundary contentType boundary
    · obtain ⟨boundary, hb⟩ := hb
      exact escapes_of_boundary_iff hb
    · rw [not_exists] at hb
      rw [readEntries_of_no_boundary hheader hb]
      refine iff_of_false ?_ ?_
      · rintro ⟨h, hf⟩
        cases h
        exact hf trivial
      · rintro (h | ⟨h, -⟩ | ⟨h, -⟩ | ⟨h, -⟩)
        · cases hheader.symm.trans h
        all_goals exact hb _ h

theorem escapes_readBody_iff :
    f.Escapes (readBody p contentType).result ↔ Trap p contentType f := by
  rw [← escapes_readEntries_iff, readBody]
  cases readEntries p contentType with
  | error e => rfl
  | ok entries =>
    obtain ⟨t, ht⟩ := Form.build_eq_ok [] entries
    refine iff_of_false (fun h => ?_) Fault.not_escapes_ok
    cases ht.symm.trans h.1

end Intake.Multipart
