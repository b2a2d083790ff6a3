import Intake.Proofs.Reading.Places
import Intake.Proofs.Reading.Texts
import Intake.Xml.Body

namespace Intake.Xml

variable {f : Failure} {name : List Char} {offset : Nat}

/-- A reading fails, and at no place of the document. -/
def Failure.Strays {α : Type} (f : Failure) (x : Except Failure α) : Prop :=
  x = .error f ∧ ¬f.IsPlaced

namespace FailsInPlace

variable {α β : Type}

theorem not_strays {x : Except Failure α} (h : FailsInPlace x) : ¬f.Strays x :=
  fun hs => hs.2 (h f hs.1)

theorem strays_bind_iff {x : Except Failure α} {k : α → Except Failure β}
    (hk : ∀ a, FailsInPlace (k a)) : f.Strays (x >>= k) ↔ f.Strays x := by
  cases x with
  | error e => simp [Failure.Strays, Bind.bind, Except.bind]
  | ok a => exact iff_of_false (hk a).not_strays (ok a).not_strays

end FailsInPlace

open FailsInPlace

namespace Encoding

/-- The charsets that take several octets for a character. -/
def isSeveralOctets : Charset → Bool
  | .utf16 _ => true
  | .utf32 _ => true
  | .foreign _ => true
  | _ => false

/-- Why an encoding that a document names cannot be used: it has no name of its own, and it is either no
charset or one of several octets a character. -/
inductive Unusable (name : List Char) : Failure → Prop where
  | encoding {problem : Charset.Problem}
      (hname : byName? (String.ofList (name.map Char.toLower)) = none)
      (h : Charset.ofName (String.ofList name) = .error problem) : Unusable name (.encoding problem)
  | severalOctets {charset : Charset}
      (hname : byName? (String.ofList (name.map Char.toLower)) = none)
      (h : Charset.ofName (String.ofList name) = .ok charset)
      (hseveral : isSeveralOctets charset = true) : Unusable name .severalOctets

theorem octetTable_eq_error_iff {c : Charset} :
    octetTable c = .error f ↔ isSeveralOctets c = true ∧ f = .severalOctets := by
  cases c <;> simp [octetTable, isSeveralOctets, eq_comm]

theorem failsInPlace_declared {now e : Encoding}
    (hname : byName? (String.ofList (name.map Char.toLower)) = some e) :
    FailsInPlace (declared now name offset) := by
  unfold declared
  rw [hname]
  split
  · split
    · exact ok _
    · exact place _ _
  · split
    · exact place _ _
    · exact ok _
  · next heq => cases heq

theorem declared_of_no_name (now : Encoding)
    (hname : byName? (String.ofList (name.map Char.toLower)) = none) :
    declared now name offset =
      match Charset.ofName (String.ofList name) with
      | .error problem => .error (.encoding problem)
      | .ok charset => octetTable charset >>= fun characters =>
        if isCompatible characters then .ok (.table characters)
        else .error (.at .unknownEncoding offset) := by
  unfold declared
  rw [hname]
  cases now <;> rfl

/-- An encoding that a document names fails at no place only if it cannot be used. -/
theorem strays_declared_iff {now : Encoding} :
    f.Strays (declared now name offset) ↔ Unusable name f := by
  cases hname : byName? (String.ofList (name.map Char.toLower)) with
  | some e =>
    refine iff_of_false (failsInPlace_declared hname).not_strays ?_
    rintro (⟨h, -⟩ | ⟨h, -⟩) <;> cases hname.symm.trans h
  | none =>
    -- Only a name that is not among the reader's own is looked up as that of a charset.
    rw [declared_of_no_name now hname]
    cases hcharset : Charset.ofName (String.ofList name) with
    | error problem =>
      constructor
      · rintro ⟨⟨⟩, -⟩
        exact .encoding hname hcharset
      · rintro (⟨-, h⟩ | ⟨-, h, -⟩)
        · cases hcharset.symm.trans h
          exact ⟨rfl, id⟩
        · cases hcharset.symm.trans h
    | ok charset =>
      have hrest (characters : List (Option Char)) : FailsInPlace
          (if isCompatible characters then .ok (Encoding.table characters)
            else .error (.at .unknownEncoding offset)) := by
        split
        · exact ok _
        · exact place _ _
      dsimp only
      rw [strays_bind_iff hrest, Failure.Strays, octetTable_eq_error_iff]
      constructor
      · rintro ⟨⟨hseveral, rfl⟩, -⟩
        exact .severalOctets hname hcharset hseveral
      · rintro (⟨-, h⟩ | ⟨-, h, hseveral⟩)
        · cases hcharset.symm.trans h
        · cases hcharset.symm.trans h
          exact ⟨⟨hseveral, rfl⟩, id⟩

end Encoding

namespace Opening

variable {data : List UInt8}

/-- A declaration at a place of a document names an encoding. -/
def Names (characters : List Char) (start : Nat) (name : List Char) (offset : Nat) : Prop :=
  ∃ after declaration, Placed.next ⟨characters.drop start, start⟩ = .ok (⟨.xmlDeclaration, start⟩, after) ∧
    Declaration.read ⟨(characters.drop (start + 5)).take (after.offset - start - 7), start + 5⟩ =
      .ok declaration ∧ declaration.encoding = some (name, offset)

theorem failsInPlace_read (data : List UInt8) (fuel : Nat) (o : Opening) (c : Cursor) :
    FailsInPlace (read data false fuel o c).2 := by
  induction fuel generalizing o c with
  | zero => exact place _ _
  | succ fuel ih =>
    unfold read
    have hnext := Placed.failsInPlace_next c
    split
    · next e hc => exact error (hnext e hc)
    · split
      · exact ok _
      · exact ih _ _
      · exact ih _ _
      · exact error (Placed.unexpected_isPlaced _)
      · split
        · have hread := Doctype.failsInPlace_read o.isStandalone
          split
          · next e hc => exact error (hread _ e hc)
          · exact ih _ _
        · exact error (Placed.unexpected_isPlaced _)
      · exact error (Placed.unexpected_isPlaced _)

theorem strays_declare_iff {o : Opening} {start : Nat} {c : Cursor} :
    f.Strays (o.declare data start c) ↔ ∃ declaration name offset,
      Declaration.read ⟨(o.characters.drop (start + 5)).take (c.offset - start - 7), start + 5⟩ =
        .ok declaration ∧ declaration.encoding = some (name, offset) ∧
        Encoding.Unusable name f := by
  unfold declare
  dsimp only
  split
  · next offset hread =>
    refine iff_of_false (place _ _).not_strays ?_
    rintro ⟨declaration, -, -, h, -⟩
    cases hread.symm.trans h
  · next declaration hread =>
    split
    · next hnone =>
      refine iff_of_false (ok _).not_strays ?_
      rintro ⟨declaration', name, offset, h, hname, -⟩
      cases hread.symm.trans h
      cases hnone.symm.trans hname
    · next name offset hsome =>
      refine (strays_bind_iff fun e => ok _).trans ?_
      rw [Encoding.strays_declared_iff]
      constructor
      · exact fun h => ⟨declaration, name, offset, hread, hsome, h⟩
      · rintro ⟨declaration', name', offset', h, hname, hunusable⟩
        cases hread.symm.trans h
        cases hsome.symm.trans hname
        exact hunusable

/-- The declaration of a document stands nowhere but at its start. -/
theorem read_of_not_first {o : Opening} {c after : Cursor} {t : Placed} {fuel : Nat}
    (hc : Placed.next c = .ok (t, after))
    (h : ¬(t.token = .xmlDeclaration ∧ t.offset = c.offset)) :
    read data true (fuel + 1) o c = read data false (fuel + 1) o c := by
  unfold read
  rw [hc]
  obtain ⟨token, place⟩ := t
  cases token with
  | xmlDeclaration =>
    have hplace : place ≠ c.offset := fun heq => h ⟨rfl, heq⟩
    simp [hplace]
  | _ => rfl

theorem strays_read_of_first {o : Opening} {c after : Cursor} {fuel : Nat}
    (hc : Placed.next c = .ok (⟨.xmlDeclaration, c.offset⟩, after)) :
    f.Strays (read data true (fuel + 1) o c).2 ↔ f.Strays (o.declare data c.offset after) := by
  unfold read
  rw [hc]
  dsimp only
  rw [if_pos (by simp)]
  cases o.declare data c.offset after with
  | error e => simp [Failure.Strays]
  | ok found => exact iff_of_false (failsInPlace_read _ _ _ _).not_strays (ok _).not_strays

/-- What stands before the element of a document fails at no place only if the document names an encoding
that cannot be used. -/
theorem strays_read_iff {o : Opening} {fuel start : Nat} :
    f.Strays (read data true (fuel + 1) o ⟨o.characters.drop start, start⟩).2 ↔
      ∃ name offset, Names o.characters start name offset ∧ Encoding.Unusable name f := by
  have hnext := Placed.failsInPlace_next ⟨o.characters.drop start, start⟩
  cases hc : Placed.next ⟨o.characters.drop start, start⟩ with
  | error e =>
    unfold read
    rw [hc]
    refine iff_of_false (error (hnext e hc)).not_strays ?_
    rintro ⟨name, offset, ⟨after, declaration, h, -⟩, -⟩
    cases hc.symm.trans h
  | ok found =>
    obtain ⟨⟨token, place⟩, after⟩ := found
    by_cases hfirst : token = .xmlDeclaration ∧ place = start
    · obtain ⟨rfl, rfl⟩ := hfirst
      rw [strays_read_of_first hc, strays_declare_iff]
      constructor
      · rintro ⟨declaration, name, offset, hread, hname, h⟩
        exact ⟨name, offset, ⟨after, declaration, hc, hread, hname⟩, h⟩
      · rintro ⟨name, offset, ⟨after', declaration, hc', hread, hname⟩, h⟩
        cases hc.symm.trans hc'
        exact ⟨declaration, name, offset, hread, hname, h⟩
    -- A document that starts with anything else is read without a declaration from here on.
    · rw [read_of_not_first hc hfirst]
      refine iff_of_false (failsInPlace_read _ _ _ _).not_strays ?_
      rintro ⟨name, offset, ⟨after, declaration, h, -⟩, -⟩
      cases hc.symm.trans h
      exact hfirst ⟨rfl, rfl⟩

end Opening

/-- A document names an encoding in the declaration that it starts with. -/
def NamesEncoding (data : List UInt8) (name : List Char) : Prop :=
  let characters := (Encoding.detect data).decode data
  Encoding.isUndecided data = false ∧ ∃ offset,
    Opening.Names characters (if characters.head? = some byteOrderMark then 1 else 0) name offset

theorem strays_readDocument_iff {data : List UInt8} :
    f.Strays (readDocument data).result ↔
      ∃ name, NamesEncoding data name ∧ Encoding.Unusable name f := by
  unfold readDocument NamesEncoding
  dsimp only
  cases hundecided : Encoding.isUndecided data with
  | true =>
    rw [if_pos rfl]
    refine iff_of_false (place _ _).not_strays ?_
    rintro ⟨name, ⟨h, -⟩, -⟩
    cases h
  | false =>
    rw [if_neg (by simp)]
    dsimp only
    rw [strays_bind_iff]
    · refine Opening.strays_read_iff.trans ?_
      constructor
      · rintro ⟨name, offset, hnames, h⟩
        exact ⟨name, ⟨rfl, offset, hnames⟩, h⟩
      · rintro ⟨name, ⟨-, offset, hnames⟩, h⟩
        exact ⟨name, offset, hnames, h⟩
    · intro c
      refine bind (Content.failsInPlace_read _ _ _ _ _ _ _ _) ?_
      rintro ⟨p, c⟩
      refine bind (failsInPlace_readEnd _ _) fun _ => ?_
      split
      · exact ok _
      · exact place _ _

namespace Declaration

theorem isValueChar_of_setting? {c c' : Cursor} {s : Setting} (h : setting? c = .ok (some s, c'))
    {d : Char} (hd : d ∈ s.value) : isValueChar d = true := by
  unfold setting? at h
  dsimp only at h
  split at h
  · cases h
  · split at h
    · cases h
    · split at h
      · cases h
      · split at h
        · cases h
        · split at h
          · split at h
            · split at h
              · cases h
                exact List.all_eq_true.mp List.all_takeWhile d hd
              · cases h
            · cases h
          · cases h

theorem isValueChar_of_afterVersion {c : Cursor} {declaration : Declaration}
    (h : afterVersion c = .ok declaration) (hname : declaration.encoding = some (name, offset))
    {d : Char} (hd : d ∈ name) : isValueChar d = true := by
  unfold afterVersion at h
  cases hfirst : setting? c with
  | error n =>
    rw [hfirst] at h
    cases h
  | ok found =>
    rw [hfirst] at h
    obtain ⟨_ | s, c⟩ := found
    · cases h
      cases hname
    · dsimp only [Bind.bind, Except.bind] at h
      split at h
      · split at h
        · cases h
        · split at h
          · cases h
          · split at h
            · cases h
              cases hname
              exact isValueChar_of_setting? hfirst hd
            · split at h
              · cases h
              · cases h
                cases hname
                exact isValueChar_of_setting? hfirst hd
      · split at h
        · cases h
        · cases h
          cases hname

theorem isValueChar_of_read {c : Cursor} {declaration : Declaration}
    (h : read c = .ok declaration) (hname : declaration.encoding = some (name, offset)) {d : Char}
    (hd : d ∈ name) : isValueChar d = true := by
  unfold read at h
  cases hfirst : setting? c with
  | error n =>
    rw [hfirst] at h
    cases h
  | ok found =>
    rw [hfirst] at h
    obtain ⟨_ | s, c⟩ := found
    · cases h
    · dsimp only [Bind.bind, Except.bind] at h
      split at h
      · exact isValueChar_of_afterVersion h hname hd
      · cases h

end Declaration

theorem isValueChar_of_namesEncoding {data : List UInt8} (h : NamesEncoding data name) {d : Char}
    (hd : d ∈ name) : Declaration.isValueChar d = true := by
  obtain ⟨-, offset, after, declaration, -, hread, hname⟩ := h
  exact Declaration.isValueChar_of_read hread hname hd

namespace Element

/-- An element that is not converted: it is nested too deeply, or one of the texts that it holds is. -/
inductive IsTooDeep : Nat → Element → Prop where
  | here {e : Element} : IsTooDeep 0 e
  | attribute {depth : Nat} {name key value text : String} {attributes : List (String × String)}
      {children : List (Element × String)} (hmem : (key, value) ∈ attributes)
      (h : Form.IsTooDeep value) : IsTooDeep (depth + 1) (.mk name attributes text children)
  | child {depth : Nat} {name text tail : String} {attributes : List (String × String)}
      {children : List (Element × String)} {child : Element} (hmem : (child, tail) ∈ children)
      (h : IsTooDeep depth child) : IsTooDeep (depth + 1) (.mk name attributes text children)
  | text {depth : Nat} {name text : String} {attributes : List (String × String)}
      {children : List (Element × String)}
      (h : Form.IsTooDeep (String.ofList (Text.trim text.toList))) :
      IsTooDeep (depth + 1) (.mk name attributes text children)

theorem tooDeepIff_attributeEntries (attributes : List (String × String)) :
    Form.TooDeepIff (attributeEntries attributes)
      (∃ key value, (key, value) ∈ attributes ∧ Form.IsTooDeep value) := by
  induction attributes with
  | nil => exact (Form.tooDeepIff_ok []).congr (by simp)
  | cons a rest ih =>
    obtain ⟨key, value⟩ := a
    have hrest (v : Value) := ih.bind fun entries => Form.tooDeepIff_ok (("@" ++ key, v) :: entries)
    refine ((Form.tooDeepIff_retype value).bind hrest).congr ?_
    simp [or_and_right, exists_or, and_assoc]

theorem tooDeepIff_childValues {depth : Nat}
    (ih : ∀ e, Form.TooDeepIff (toValue depth e) (IsTooDeep depth e))
    (children : List (Element × String)) :
    Form.TooDeepIff (childValues depth children)
      (∃ child tail, (child, tail) ∈ children ∧ IsTooDeep depth child) := by
  induction children with
  | nil =>
    rw [childValues]
    exact (Form.tooDeepIff_ok []).congr (by simp)
  | cons c rest ihrest =>
    obtain ⟨child, tail⟩ := c
    have hrest (v : Value) := ihrest.bind fun values => Form.tooDeepIff_ok ((child.name, v) :: values)
    rw [childValues]
    refine ((ih child).bind hrest).congr ?_
    simp [or_and_right, exists_or, and_assoc]

theorem isTooDeep_succ_iff {depth : Nat} {name text : String} {attributes : List (String × String)}
    {children : List (Element × String)} :
    IsTooDeep (depth + 1) (.mk name attributes text children) ↔
      (∃ key value, (key, value) ∈ attributes ∧ Form.IsTooDeep value) ∨
        (∃ child tail, (child, tail) ∈ children ∧ IsTooDeep depth child) ∨
          Form.IsTooDeep (String.ofList (Text.trim text.toList)) := by
  constructor
  · rintro (_ | ⟨hmem, h⟩ | ⟨hmem, h⟩ | h)
    · exact .inl ⟨_, _, hmem, h⟩
    · exact .inr (.inl ⟨_, _, hmem, h⟩)
    · exact .inr (.inr h)
  · rintro (⟨key, value, hmem, h⟩ | ⟨child, tail, hmem, h⟩ | h)
    · exact .attribute hmem h
    · exact .child hmem h
    · exact .text h

/-- An element has a value unless it is nested too deeply. -/
theorem tooDeepIff_toValue (depth : Nat) (e : Element) :
    Form.TooDeepIff (toValue depth e) (IsTooDeep depth e) := by
  -- The induction is on the depth that is left, so that children are met with one less.
  induction depth generalizing e with
  | zero =>
    rw [toValue]
    intro f
    rw [Except.error.injEq, eq_comm]
    exact (and_iff_left .here).symm
  | succ depth ih =>
    obtain ⟨name, attributes, text, children⟩ := e
    rw [toValue]
    dsimp only
    split
    · next hleaf =>
      rw [Bool.and_eq_true, List.isEmpty_iff, List.isEmpty_iff] at hleaf
      obtain ⟨rfl, rfl⟩ := hleaf
      refine (Form.tooDeepIff_retype _).congr ?_
      rw [isTooDeep_succ_iff]
      simp
    · refine Form.TooDeepIff.congr ?_ isTooDeep_succ_iff.symm
      refine (tooDeepIff_attributeEntries attributes).bind fun entries => ?_
      refine (tooDeepIff_childValues ih children).bind fun values => ?_
      split
      · next hempty =>
        rw [hempty]
        exact (Form.tooDeepIff_ok _).congr (by simp [Form.IsTooDeep])
      · refine Form.TooDeepIff.congr ((Form.tooDeepIff_retype _).bind fun v => ?_) (iff_of_eq (or_false _))
        exact Form.tooDeepIff_ok _

end Element

variable {p : Payload} {contentType : Option String} {fault : Fault}

/-- The octets of a payload that is no blank. -/
def Octets (p : Payload) (data : List UInt8) : Prop :=
  p.octets = .ok data ∧ data.all Text.isBlankOctet = false

/-- What makes a document fail with a fault of another kind: a text that cannot be written, an encoding
that cannot be used, or an element that is nested too deeply. -/
inductive Trap (p : Payload) : Fault → Prop where
  | octets (h : p.HasSurrogate) : Trap p .notEncodable
  | undefinedEncoding {data : List UInt8} {name : List Char} (hdata : Octets p data)
      (hname : NamesEncoding data name)
      (hown : Encoding.byName? (String.ofList (name.map Char.toLower)) = none)
      (h : Charset.ofName (String.ofList name) = .error .undefined) : Trap p .badCharset
  | unknownEncoding {data : List UInt8} {name : List Char} {problem : Charset.Problem}
      (hdata : Octets p data) (hname : NamesEncoding data name)
      (hown : Encoding.byName? (String.ofList (name.map Char.toLower)) = none)
      (h : Charset.ofName (String.ofList name) = .error problem) (hproblem : problem ≠ .undefined) :
      Trap p .unknownCharset
  | severalOctets {data : List UInt8} {name : List Char} {charset : Charset}
      (hdata : Octets p data) (hname : NamesEncoding data name)
      (hown : Encoding.byName? (String.ofList (name.map Char.toLower)) = none)
      (h : Charset.ofName (String.ofList name) = .ok charset)
      (hseveral : Encoding.isSeveralOctets charset = true) :
      Trap p (.badArgument "multi-byte encodings are not supported")
  | depth {data : List UInt8} {e : Element} (hdata : Octets p data)
      (hread : (readDocument data).result = .ok e) (hdeep : e.IsTooDeep depthLimit) :
      Trap p .tooDeep

theorem isPayload_fault_iff {document : List Char} :
    (f.fault document contentType).IsPayload ↔ f.IsPlaced := by
  cases f with
  | encoding problem => cases problem <;> exact Iff.rfl
  | _ => exact Iff.rfl

theorem ofName_ne_hasNull {data : List UInt8} (hname : NamesEncoding data name) :
    Charset.ofName (String.ofList name) ≠ .error .hasNull := by
  intro h
  have hnull := Charset.null_mem_of_ofName h
  rw [String.toList_ofList] at hnull
  exact absurd (isValueChar_of_namesEncoding hname hnull) (by decide)

/-- A failure at no place of the document as the fault that it is. -/
theorem trap_of_unusable {data : List UInt8} {document : List Char} (hdata : Octets p data)
    (hname : NamesEncoding data name) (h : Encoding.Unusable name f) :
    Trap p (f.fault document contentType) := by
  obtain ⟨hown, h⟩ | ⟨hown, h, hseveral⟩ := h
  · next problem =>
    cases problem with
    | undefined => exact .undefinedEncoding hdata hname hown h
    | hasNull => exact absurd h (ofName_ne_hasNull hname)
    | _ => exact .unknownEncoding hdata hname hown h nofun
  · exact .severalOctets hdata hname hown h hseveral

theorem readBody_eq (p : Payload) (contentType : Option String) :
    readBody p contentType = (p.octets >>= fun data =>
      if data.all Text.isBlankOctet then .ok []
      else match (readDocument data).result with
        | .error f => .error (f.fault (readDocument data).characters contentType)
        | .ok e => e.toValue depthLimit >>= fun v => .ok (toTable v)) := by
  rfl

theorem readBody_of_octets {data : List UInt8} (hdata : Octets p data) :
    readBody p contentType = match (readDocument data).result with
      | .error f => .error (f.fault (readDocument data).characters contentType)
      | .ok e => e.toValue depthLimit >>= fun v => .ok (toTable v) := by
  rw [readBody_eq, hdata.1]
  exact if_neg (Bool.eq_false_iff.mp hdata.2)

theorem escapes_of_unusable (contentType : Option String) {data : List UInt8} (hdata : Octets p data)
    (hname : NamesEncoding data name) (h : Encoding.Unusable name f) :
    (f.fault (readDocument data).characters contentType).Escapes (readBody p contentType) := by
  have hstrays := strays_readDocument_iff.mpr ⟨name, hname, h⟩
  rw [readBody_of_octets hdata, hstrays.1]
  exact ⟨rfl, fun hp => hstrays.2 (isPayload_fault_iff.mp hp)⟩

theorem trap_of_escapes {data : List UInt8} (hdata : Octets p data)
    (h : fault.Escapes (readBody p contentType)) : Trap p fault := by
  rw [readBody_of_octets hdata] at h
  cases hread : (readDocument data).result with
  | error f =>
    rw [hread] at h
    obtain ⟨rfl, hp⟩ := Fault.escapes_error_iff.mp h
    have hplaced : ¬f.IsPlaced := fun hf => hp (isPayload_fault_iff.mpr hf)
    obtain ⟨name, hname, hunusable⟩ := strays_readDocument_iff.mp ⟨hread, hplaced⟩
    exact trap_of_unusable hdata hname hunusable
  | ok e =>
    rw [hread] at h
    rcases Fault.escapes_bind_iff.mp h with h | ⟨v, -, h⟩
    · obtain ⟨rfl, hdeep⟩ := (Element.tooDeepIff_toValue depthLimit e _).mp h.1
      exact .depth hdata hread hdeep
    · exact absurd h Fault.not_escapes_ok

theorem escapes_readBody_iff : fault.Escapes (readBody p contentType) ↔ Trap p fault := by
  constructor
  · intro h
    have hbody := h
    rw [readBody_eq, Fault.escapes_bind_iff] at hbody
    obtain ⟨hoctets, -⟩ | ⟨data, hdata, hrest⟩ := hbody
    · obtain ⟨rfl, hsurrogate⟩ := Payload.octets_eq_error_iff.mp hoctets
      exact .octets hsurrogate
    · cases hblank : data.all Text.isBlankOctet with
      | true =>
        rw [if_pos hblank] at hrest
        exact absurd hrest Fault.not_escapes_ok
      | false => exact trap_of_escapes ⟨hdata, hblank⟩ h
  · rintro (h | ⟨hdata, hname, hown, h⟩ | ⟨hdata, hname, hown, h, hproblem⟩ |
      ⟨hdata, hname, hown, h, hseveral⟩ | ⟨hdata, hread, hdeep⟩)
    · rw [readBody_eq, Payload.octets_eq_error_iff.mpr ⟨rfl, h⟩]
      exact ⟨rfl, id⟩
    · exact escapes_of_unusable contentType hdata hname (.encoding hown h)
    · next problem =>
      have hescapes := escapes_of_unusable contentType hdata hname (.encoding hown h)
      cases problem with
      | undefined => exact absurd rfl hproblem
      | hasNull => exact absurd h (ofName_ne_hasNull hname)
      | _ => exact hescapes
    · exact escapes_of_unusable contentType hdata hname (.severalOctets hown h hseveral)
    · rw [readBody_of_octets hdata, hread]
      dsimp only
      rw [Fault.escapes_bind_iff]
      exact .inl ⟨(Element.tooDeepIff_toValue depthLimit _ _).mpr ⟨rfl, hdeep⟩, id⟩

end Intake.Xml
