import Intake.Parser.Registry
import Intake.Proofs.Characters
import Intake.Proofs.Reading.Blanks
import Intake.Proofs.Reading.Texts

namespace Intake

namespace Charset

theorem readAll_utf8Encode (codec : String) (position : Nat) (s : List Char) :
    readAll codec Text.utf8Step position (s.flatMap String.utf8EncodeChar) = .ok s := by
  induction s generalizing position with
  | nil => rw [List.flatMap_nil, readAll]
  | cons c s ih =>
    obtain ⟨lead, rest, hc, hstep⟩ := Text.utf8Step_utf8EncodeChar c
    rw [List.flatMap_cons, hc, List.cons_append, readAll, hstep]
    simp only [List.drop_left, ih]
    rfl

theorem ofName_utf8 : ofName "utf-8" = .ok .utf8 := by
  have hkey : String.ofList ((normalized "utf-8").toList.map fun c => if c = '.' then '_' else c) =
      "utf_8" := by decide +kernel
  have hfound : byName? "utf_8" = some .utf8 := rfl
  unfold ofName
  dsimp only
  rw [hkey, hfound, if_neg (by decide), if_neg (by decide), if_neg (by decide), if_neg (by decide)]

/-- Octets that write a text in UTF-8 are read as that text. -/
theorem decodeNamed_utf8Encode (s : List Char) :
    decodeNamed "utf-8" (s.flatMap String.utf8EncodeChar) = .ok (String.ofList s) := by
  rw [decodeNamed_eq, if_neg (by decide), if_neg (by decide), ofName_utf8]
  split_ifs with h
  · cases s with
    | nil => rfl
    | cons c s =>
      obtain ⟨lead, rest, hc, -⟩ := Text.utf8Step_utf8EncodeChar c
      simp [hc] at h
  · rw [Except.bind, decode, readAll_utf8Encode]
    rfl

end Charset

theorem Text.utf8?_eq_some_iff  {s : String} {data : List UInt8} :
    utf8? s = some data ↔
      hasSurrogate s.toList = false ∧ data = s.toList.flatMap String.utf8EncodeChar := by
  have h := toUTF8_ofList s.toList
  rw [String.ofList_toList] at h
  rw [utf8?, h]
  cases hasSurrogate s.toList <;> simp [eq_comm]

namespace Payload

variable {s : String} {data : List UInt8} {contentType : Option String}

theorem decode_text_eq (h : Text.utf8? s = some data) (hc : charsetOf contentType = none) :
    (Payload.text s).decode (charsetOf contentType) =
      (Payload.bytes data).decode (charsetOf contentType) := by
  obtain ⟨-, rfl⟩ := Text.utf8?_eq_some_iff.mp h
  have hname : charsetName contentType = "utf-8" := by rw [charsetName, hc, Option.getD_none]
  rw [decode_bytes, hname, Charset.decodeNamed_utf8Encode, String.ofList_toList]
  rfl

theorem octets_text_eq (h : Text.utf8? s = some data) :
    (Payload.text s).octets = (Payload.bytes data).octets := by
  rw [octets, h]
  rfl

end Payload

/-- No parser can tell a text from its octets. -/
theorem Parser.read_text_eq {s : String} {data : List UInt8} {contentType : Option String}
    (h : Text.utf8? s = some data) (hc : Payload.charsetOf contentType = none) (parser : Parser) :
    parser.read (.text s) contentType = parser.read (.bytes data) contentType := by
  have hdecode := Payload.decode_text_eq h hc
  have hoctets := Payload.octets_text_eq h
  cases parser with
  | json => rw [read, read, Json.readBody, Json.readBody, hdecode]
  | form isRetyped => rw [read, read, Form.readBody, Form.readBody, hdecode]
  | multipart =>
    rw [read, read, Multipart.readBody, Multipart.readBody, Multipart.readEntries, Multipart.readEntries,
      hoctets]
  | xml => rw [read, read, Xml.readBody, Xml.readBody, hoctets]

namespace Parsers

variable {r : Parsers} {p q : Payload} {s : String} {l : List Char} {data : List UInt8} {m : Char}
  {contentType : Option String}

/-- What a document starts with that shows its form. -/
def marks : List Char := ['\x7b', '[', '<']

/-- A text whose mark stands behind blanks, one of which is no white space of ASCII. -/
structure Masked (l : List Char) : Prop where
  blank : ∃ c, (l.dropWhile Text.isPlainBlank).head? = some c ∧ Text.isBlank c = true
  mark : ∃ m ∈ marks, (Text.trimStart l).head? = some m

theorem plain_of_mem_marks (hm : m ∈ marks) : Text.isBlank m = false ∧ m.toNat < 128 := by
  simp only [marks, List.mem_cons, List.not_mem_nil, or_false] at hm
  rcases hm with rfl | rfl | rfl <;> decide

/-- A mark of ASCII comes first among octets where it comes first among characters, white space of ASCII
aside. -/
theorem firstMark?_bytes_iff (hm : m.toNat < 128) :
    firstMark? (.bytes (l.flatMap String.utf8EncodeChar)) = some m ↔
      (l.dropWhile Text.isPlainBlank).head? = some m := by
  rw [firstMark?, Text.dropWhile_isBlankOctet]
  cases l.dropWhile Text.isPlainBlank with
  | nil => simp [Text.ofLatin1]
  | cons c t =>
    obtain ⟨lead, rest, hc, -⟩ := Text.utf8Step_utf8EncodeChar c
    rw [List.flatMap_cons, hc, List.cons_append, Text.ofLatin1, List.map_cons, List.head?_cons,
      List.head?_cons, Option.some.injEq, Option.some.injEq]
    by_cases hlt : c.toNat < 128
    · rw [Text.utf8EncodeChar_of_lt hlt] at hc
      obtain ⟨rfl, -⟩ := List.cons.inj hc
      have hsame : c.toNat.toUInt8.toNat = c.toNat := by
        rw [Nat.toUInt8, UInt8.toNat_ofNat']
        omega
      rw [hsame, Char.ofNat_toNat]
    · have hlead := Text.le_lead (Nat.le_of_not_lt hlt) hc
      have hvalid : (Char.ofNat lead.toNat).toNat = lead.toNat := by
        have hsize := lead.toNat_lt
        exact (Char.toNat_ofNat _).trans (if_pos (.inl (by omega)))
      refine iff_of_false ?_ ?_
      · rintro rfl
        rw [hvalid] at hm
        omega
      · rintro rfl
        exact hlt hm

theorem firstMark?_text_eq : firstMark? (.text s) =
    ((s.toList.dropWhile Text.isPlainBlank).dropWhile Text.isBlank).head? := by
  rw [Text.dropWhile_of_imp fun _ => Text.isBlank_of_isPlainBlank]
  rfl

/-- A mark is seen in a text just when it is seen in its octets, unless it is masked. -/
theorem firstMark?_text_iff (h : ¬Masked s.toList) (hm : m ∈ marks) :
    firstMark? (.text s) = some m ↔
      firstMark? (.bytes (s.toList.flatMap String.utf8EncodeChar)) = some m := by
  rw [firstMark?_bytes_iff (plain_of_mem_marks hm).2, firstMark?_text_eq]
  cases hrest : s.toList.dropWhile Text.isPlainBlank with
  | nil => rfl
  | cons c t =>
    cases hc : Text.isBlank c with
    | false => rw [List.dropWhile_cons_of_neg (Bool.eq_false_iff.mp hc)]
    | true =>
      refine iff_of_false (fun htext => h ⟨⟨c, by rw [hrest, List.head?_cons], hc⟩, m, hm, ?_⟩) ?_
      · rw [← hrest, ← firstMark?_text_eq] at htext
        exact htext
      · rw [List.head?_cons, Option.some.injEq]
        rintro rfl
        exact Bool.noConfusion (hc.symm.trans (plain_of_mem_marks hm).1)

theorem firstMark?_of_masked (h : Masked l) (hm : m ∈ marks) :
    firstMark? (.bytes (l.flatMap String.utf8EncodeChar)) ≠ some m := by
  obtain ⟨c, hc, hblank⟩ := h.blank
  rw [ne_eq, firstMark?_bytes_iff (plain_of_mem_marks hm).2, hc, Option.some.injEq]
  rintro rfl
  exact Bool.noConfusion (hblank.symm.trans (plain_of_mem_marks hm).1)

theorem sniff?_congr (h : ∀ m ∈ marks, firstMark? p = some m ↔ firstMark? q = some m) :
    r.sniff? p = r.sniff? q := by
  have hbrace := h '\x7b' (by decide)
  have hbracket := h '[' (by decide)
  have hangle := h '<' (by decide)
  simp only [sniff?, hbrace, hbracket, hangle]

theorem sniff?_eq_none (h : ∀ m ∈ marks, firstMark? p ≠ some m) : r.sniff? p = none := by
  have hbrace := h '\x7b' (by decide)
  have hbracket := h '[' (by decide)
  have hangle := h '<' (by decide)
  simp [sniff?, hbrace, hbracket, hangle]

/-- Behind the white space of its documents a reader comes upon a blank. -/
theorem Masked.exists_blank (h : Masked l) {p : Char → Bool}
    (hp : ∀ c, p c = true → Text.isPlainBlank c = true) :
    ∃ d, (l.dropWhile p).head? = some d ∧ Text.isBlank d = true := by
  obtain ⟨c, hc, hblank⟩ := h.blank
  obtain ⟨d, hd, -, hkind⟩ := Text.head?_dropWhile_of_imp hc hp
  refine ⟨d, hd, ?_⟩
  rcases hkind with hplain | rfl
  · exact Text.isBlank_of_isPlainBlank hplain
  · exact hblank

/-- A mask is a blank in front of something else. -/
theorem Masked.exists_cons (h : Masked l) :
    ∃ c c' t, l = c :: c' :: t ∧ Text.isBlank c = true ∧ c' ≠ '\x00' := by
  obtain ⟨m, hm, hmark⟩ := h.mark
  obtain ⟨d, hd, hblank⟩ := h.exists_blank (p := fun _ => false) (by simp)
  have hm' := (plain_of_mem_marks hm).1
  cases l with
  | nil => cases hd
  | cons c l =>
    obtain rfl : c = d := Option.some.inj hd
    rw [Text.trimStart, List.dropWhile_cons_of_pos hblank] at hmark
    cases l with
    | nil => cases hmark
    | cons c' t =>
      refine ⟨c, c', t, rfl, hblank, ?_⟩
      rintro rfl
      obtain rfl : '\x00' = m := Option.some.inj hmark
      revert hm
      decide

theorem Masked.trim_ne_nil (h : Masked l) : Text.trim l ≠ [] := by
  obtain ⟨m, hm, hmark⟩ := h.mark
  exact Text.trim_ne_nil hmark (plain_of_mem_marks hm).1

theorem isPlainBlank_of_isSpace {c : Char} (h : Json.isSpace c = true) : Text.isPlainBlank c = true := by
  simp only [Json.isSpace, Bool.or_eq_true, decide_eq_true_eq] at h
  rcases h with ((rfl | rfl) | rfl) | rfl <;> decide

theorem json_of_masked (h : Masked s.toList) (contentType : Option String) :
    ∃ fault, Parser.json.read (.text s) contentType = .silent (.error (.payload fault)) := by
  obtain ⟨d, hd, hblank⟩ := h.exists_blank fun _ => isPlainBlank_of_isSpace
  obtain ⟨offset, hdocument⟩ := Json.document_of_isBlank hd hblank
  have hread : Json.read s = .error (.at s.toList .noValue offset) := by rw [Json.read, hdocument]; rfl
  have hsome : ¬(Text.trim s.toList).isEmpty = true := h.trim_ne_nil ∘ List.isEmpty_iff.mp
  refine ⟨⟨"Invalid JSON: " ++ (Json.Problem.at s.toList .noValue offset).message, contentType⟩, ?_⟩
  rw [Parser.read, Json.readBody, Payload.decode]
  simp only [bind, Except.bind, if_neg hsome, hread]
  rfl

theorem xml_of_masked (h : Masked s.toList) (hs : Text.utf8? s = some data)
    (contentType : Option String) :
    ∃ fault, Parser.xml.read (.text s) contentType = .silent (.error (.payload fault)) := by
  obtain ⟨d, hd, hblank⟩ := h.exists_blank fun _ => isPlainBlank_of_isSpace
  obtain ⟨c, c', t, hl, hc, hc'⟩ := h.exists_cons
  obtain ⟨-, rfl⟩ := Text.utf8?_eq_some_iff.mp hs
  have hsome : ¬(s.toList.flatMap String.utf8EncodeChar).all Text.isBlankOctet = true := by
    obtain ⟨x, hx, -⟩ := h.blank
    obtain ⟨u, hu⟩ := List.head?_eq_some_iff.mp hx
    obtain ⟨lead, rest, hlead, -⟩ := Text.utf8Step_utf8EncodeChar x
    intro hall
    have hnil := List.dropWhile_eq_nil_iff.mpr (List.all_eq_true.mp hall)
    rw [Text.dropWhile_isBlankOctet, hu, List.flatMap_cons, hlead] at hnil
    cases hnil
  obtain ⟨offset, hread⟩ : ∃ offset, (Xml.readDocument (s.toList.flatMap String.utf8EncodeChar)).result =
      .error (.at .invalidToken offset) := by
    rw [hl] at hd ⊢
    exact Xml.readDocument_of_isBlank hc hc' hblank hd
  refine ⟨⟨Xml.Failure.located (Xml.readDocument (s.toList.flatMap String.utf8EncodeChar)).characters
    Xml.Cause.invalidToken.text offset, contentType⟩, ?_⟩
  rw [Parser.read, Xml.readBody, Payload.octets, hs]
  simp only [bind, Except.bind, if_neg hsome, hread]
  rfl

/-- Where the content type says how to read, or nothing is masked, a text is read as its octets are. -/
theorem read_text_eq (hs : Text.utf8? s = some data) (hc : Payload.charsetOf contentType = none)
    (h : r.find? contentType = none → ¬Masked s.toList) :
    r.read (some (.text s)) contentType = r.read (some (.bytes data)) contentType := by
  cases hfind : r.find? contentType with
  | some parser =>
    rw [read, read]
    simp only [hfind]
    exact Parser.read_text_eq hs hc parser
  | none =>
    have hsniff : r.sniff? (.text s) = r.sniff? (.bytes data) := by
      rw [(Text.utf8?_eq_some_iff.mp hs).2]
      exact sniff?_congr fun m hm => firstMark?_text_iff (h hfind) hm
    rw [read, read]
    simp only [hfind, hsniff]
    cases r.sniff? (.bytes data) with
    | none => rfl
    | some found =>
      dsimp only
      rw [Parser.read_text_eq hs hc found.2]

/-- A masked mark is not seen in octets. -/
theorem read_bytes_of_masked (hs : Text.utf8? s = some data) (hfind : r.find? contentType = none)
    (h : Masked s.toList) :
    r.read (some (.bytes data)) contentType = ⟨.ok [], [fellBack contentType none]⟩ := by
  have hsniff : r.sniff? (.bytes data) = none := by
    rw [(Text.utf8?_eq_some_iff.mp hs).2]
    exact sniff?_eq_none fun m hm => firstMark?_of_masked h hm
  rw [read]
  simp only [hfind, hsniff]

/-- A masked mark is seen in a text, and what stands behind it is refused for the blanks in front. -/
theorem read_text_of_masked (hs : Text.utf8? s = some data) (hfind : standard.find? contentType = none)
    (h : Masked s.toList) :
    ∃ fault, (standard.read (some (.text s)) contentType).result = .error (.payload fault) := by
  obtain ⟨m, hm, hmark⟩ := h.mark
  have hmark : firstMark? (.text s) = some m := hmark
  obtain ⟨fault, hjson⟩ := json_of_masked h contentType
  obtain ⟨fault', hxml⟩ := xml_of_masked h hs contentType
  have hread (name : String) (parser : Parser)
      (hsniff : standard.sniff? (.text s) = some (name, parser)) :
      (standard.read (some (.text s)) contentType).result =
        (parser.read (.text s) contentType).result := by
    rw [read]
    simp only [hfind, hsniff]
    rfl
  simp only [marks, List.mem_cons, List.not_mem_nil, or_false] at hm
  rcases hm with rfl | rfl | rfl
  · exact ⟨fault, by rw [hread "json" .json (by rw [sniff?, hmark]; decide), hjson]; rfl⟩
  · exact ⟨fault, by rw [hread "json" .json (by rw [sniff?, hmark]; decide), hjson]; rfl⟩
  · exact ⟨fault', by rw [hread "xml" .xml (by rw [sniff?, hmark]; decide), hxml]; rfl⟩

/-- A text and its octets are read alike, unless the content type names no parser and blanks beyond the
white space of ASCII mask what the text looks like. Then the text is refused, and its octets stand for
an empty map. -/
theorem text_and_octets_read_alike (hs : Text.utf8? s = some data)
    (hc : Payload.charsetOf contentType = none) :
    ((standard.find? contentType = none → ¬Masked s.toList) →
      standard.read (some (.text s)) contentType = standard.read (some (.bytes data)) contentType) ∧
    (standard.find? contentType = none → Masked s.toList →
      (∃ fault, (standard.read (some (.text s)) contentType).result = .error (.payload fault)) ∧
        (standard.read (some (.bytes data)) contentType).result = .ok []) := by
  refine ⟨read_text_eq hs hc, fun hfind h => ⟨read_text_of_masked hs hfind h, ?_⟩⟩
  rw [read_bytes_of_masked hs hfind h]

/-- An object behind a space that does not break, in a text and in octets. -/
theorem text_and_octets_read_alike_unbroken :
    (∃ fault, (standard.read (some (.text "\u00a0\x7b\"a\": 1\x7d")) (some "text/plain")).result =
        .error (.payload fault)) ∧
      (standard.read (some (.bytes [0xC2, 0xA0, 0x7B, 0x22, 0x61, 0x22, 0x3A, 0x20, 0x31, 0x7D]))
        (some "text/plain")).result = .ok [] := by
  have hs : Text.utf8? "\u00a0\x7b\"a\": 1\x7d" =
      some [0xC2, 0xA0, 0x7B, 0x22, 0x61, 0x22, 0x3A, 0x20, 0x31, 0x7D] :=
    Text.utf8?_eq_some_iff.mpr ⟨by decide, by decide⟩
  have hc : Payload.charsetOf (some "text/plain") = none := by decide
  have hfind : standard.find? (some "text/plain") = none := by decide
  have hmasked : Masked "\u00a0\x7b\"a\": 1\x7d".toList :=
    ⟨⟨'\u00a0', by decide, by decide⟩, '\x7b', by decide, by decide⟩
  exact (text_and_octets_read_alike hs hc).2 hfind hmasked

end Parsers

end Intake
