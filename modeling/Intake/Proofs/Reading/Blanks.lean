import Intake.Json.Body
import Intake.Proofs.Reading.Octets
import Intake.Xml.Body

namespace Intake

namespace Text

variable {c : Char}

/-- The scalar values in some ranges, one by one. -/
def spread (ranges : List (Nat × Nat)) : List Nat :=
  ranges.flatMap fun r => List.range' r.1 (r.2 + 1 - r.1)

theorem mem_spread {n : Nat} {ranges : List (Nat × Nat)} (h : inRanges n ranges = true) :
    n ∈ spread ranges := by
  induction ranges with
  | nil => cases h
  | cons r ranges ih =>
    obtain ⟨low, high⟩ := r
    rw [inRanges] at h
    rw [spread, List.flatMap_cons, List.mem_append, List.mem_range'_1]
    split_ifs at h with hlow hhigh
    · exact .inl (by dsimp only; omega)
    · exact .inr (ih h)

/-- What can be seen of every blank by looking at each. -/
theorem of_isBlank {p : Char → Bool} (hp : (spread blankRanges).all (fun n => p (Char.ofNat n)) = true)
    {c : Char} (h : isBlank c = true) : p c = true := by
  have hc := List.all_eq_true.mp hp c.toNat (mem_spread h)
  rwa [Char.ofNat_toNat] at hc

theorem drop_length_takeWhile (p : Char → Bool) (s : List Char) :
    s.drop (s.takeWhile p).length = s.dropWhile p := by
  induction s with
  | nil => rfl
  | cons c s ih => cases h : p c <;> simp [h, ih]

/-- White space of ASCII. -/
def isPlainBlank (c : Char) : Bool := c = ' ' || (9 ≤ c.toNat && c.toNat ≤ 13)

theorem range_of_isPlainBlank (h : isPlainBlank c = true) :
    c.toNat = 32 ∨ 9 ≤ c.toNat ∧ c.toNat ≤ 13 := by
  simp only [isPlainBlank, Bool.or_eq_true, Bool.and_eq_true, decide_eq_true_eq] at h
  exact h.imp_left (congrArg Char.toNat)

theorem isBlank_of_isPlainBlank (h : isPlainBlank c = true) : isBlank c = true := by
  have hrange := range_of_isPlainBlank h
  rw [isBlank, blankRanges, inRanges, inRanges]
  split_ifs <;> first | rfl | omega

/-- The first octet of a character is white space just when the character is white space of ASCII. -/
theorem isBlankOctet_lead {lead : UInt8} {rest : List UInt8}
    (h : String.utf8EncodeChar c = lead :: rest) : isBlankOctet lead = isPlainBlank c := by
  by_cases hc : c.toNat < 128
  · rw [utf8EncodeChar_of_lt hc] at h
    obtain ⟨rfl, -⟩ := List.cons.inj h
    have hall : ∀ n < 128, isBlankOctet n.toUInt8 = isPlainBlank (Char.ofNat n) := by decide
    rw [hall c.toNat hc, Char.ofNat_toNat]
  · have hlead := le_lead (Nat.le_of_not_lt hc) h
    have hoctet : isBlankOctet lead = false := by
      simp only [isBlankOctet, ← UInt8.toNat_inj, UInt8.le_iff_toNat_le, UInt8.reduceToNat,
        Bool.or_eq_false_iff, Bool.and_eq_false_iff, decide_eq_false_iff_not]
      omega
    have hplain : isPlainBlank c = false := by
      have hspace : c ≠ ' ' := by
        rintro rfl
        exact hc (by decide)
      simp only [isPlainBlank, Bool.or_eq_false_iff, Bool.and_eq_false_iff, decide_eq_false_iff_not]
      exact ⟨hspace, .inr (by omega)⟩
    rw [hoctet, hplain]

theorem dropWhile_isBlankOctet (s : List Char) :
    (s.flatMap String.utf8EncodeChar).dropWhile isBlankOctet =
      (s.dropWhile isPlainBlank).flatMap String.utf8EncodeChar := by
  induction s with
  | nil => rfl
  | cons c s ih =>
    obtain ⟨lead, rest, hc, -⟩ := utf8Step_utf8EncodeChar c
    have hlead := isBlankOctet_lead hc
    rw [List.flatMap_cons, hc, List.cons_append]
    cases hblank : isPlainBlank c with
    | true =>
      rw [hblank] at hlead
      have hrange := range_of_isPlainBlank hblank
      rw [utf8EncodeChar_of_lt (by omega)] at hc
      obtain ⟨-, rfl⟩ := List.cons.inj hc
      rw [List.dropWhile_cons_of_pos hlead, List.dropWhile_cons_of_pos hblank, List.nil_append, ih]
    | false =>
      rw [hblank] at hlead
      rw [List.dropWhile_cons_of_neg (Bool.eq_false_iff.mp hlead),
        List.dropWhile_cons_of_neg (Bool.eq_false_iff.mp hblank), List.flatMap_cons, hc,
        List.cons_append]

theorem dropWhile_of_imp {p q : Char → Bool} (h : ∀ c, p c = true → q c = true) (s : List Char) :
    (s.dropWhile p).dropWhile q = s.dropWhile q := by
  induction s with
  | nil => rfl
  | cons c s ih =>
    cases hp : p c with
    | true => rw [List.dropWhile_cons_of_pos hp, List.dropWhile_cons_of_pos (h c hp), ih]
    | false => rw [List.dropWhile_cons_of_neg (Bool.eq_false_iff.mp hp)]

/-- Of two kinds of characters the narrower one ends at a character of the wider one, or where the wider
one ends too. -/
theorem head?_dropWhile_of_imp {p q : Char → Bool} {s : List Char}
    (h : (s.dropWhile q).head? = some c) (hp : ∀ c, p c = true → q c = true) :
    ∃ d, (s.dropWhile p).head? = some d ∧ p d = false ∧ (q d = true ∨ d = c) := by
  induction s with
  | nil => cases h
  | cons d s ih =>
    cases hd : p d with
    | true =>
      rw [List.dropWhile_cons_of_pos (hp d hd)] at h
      rw [List.dropWhile_cons_of_pos hd]
      exact ih h
    | false =>
      refine ⟨d, by rw [List.dropWhile_cons_of_neg (Bool.eq_false_iff.mp hd), List.head?_cons], hd, ?_⟩
      cases hq : q d with
      | true => exact .inl rfl
      | false =>
        rw [List.dropWhile_cons_of_neg (Bool.eq_false_iff.mp hq)] at h
        exact .inr (Option.some.inj h)

end Text

namespace Json

variable {d : Char} {t : List Char} {offset : Nat}

/-- The digits before the point of a number. A zero stands alone. -/
def wholeOf (s : List Char) : List Char :=
  match s with
  | '0' :: _ => ['0']
  | _ => s.takeWhile isDigit

theorem readNumber_of_wholeOf_eq_nil {c : Cursor} (hsign : ¬c.rest.head? = some '-')
    (h : wholeOf c.rest = []) : readNumber c = c.fail .noValue := by
  have hempty :
      (wholeOf (if c.rest.head? = some '-' then c.rest.drop 1 else c.rest)).isEmpty = true := by
    rw [if_neg hsign, h]
    rfl
  rw [readNumber]
  exact if_pos hempty

/-- The characters that a value may start with. -/
def isStart (c : Char) : Bool := isDigit c || "[\x7b\"-ntfNI".toList.contains c

theorem isStart_of_isBlank (hd : Text.isBlank d = true) : isStart d = false := by
  have h := Text.of_isBlank (p := fun c => !isStart c) (by decide) hd
  simpa using h

theorem readScalar_of_not_isStart (hd : isStart d = false) :
    readScalar ⟨d :: t, offset⟩ = .error (.at .noValue offset) := by
  have hne (x : Char) (hx : isStart x = true) : d ≠ x := by
    rintro rfl
    exact Bool.noConfusion (hd.symm.trans hx)
  have hdigit : isDigit d = false := (Bool.or_eq_false_iff.mp hd).1
  have hword : (keywords.find? fun e => e.1.isPrefixOf (d :: t)) = none := by
    rw [List.find?_eq_none]
    simp [keywords, (hne 'n' (by decide)).symm, (hne 't' (by decide)).symm,
      (hne 'f' (by decide)).symm, (hne 'N' (by decide)).symm, (hne 'I' (by decide)).symm,
      (hne '-' (by decide)).symm]
  have hwhole : wholeOf (d :: t) = [] := by
    unfold wholeOf
    split
    · next heq => exact absurd (List.cons.inj heq).1 (hne '0' (by decide))
    · rw [List.takeWhile_cons_of_neg (Bool.eq_false_iff.mp hdigit)]
  have hnumber : readNumber ⟨d :: t, offset⟩ = .error (.at .noValue offset) :=
    readNumber_of_wholeOf_eq_nil (by simpa using hne '-' (by decide)) hwhole
  rw [readScalar]
  split
  · next heq => exact absurd (List.cons.inj heq).1 (hne '"' (by decide))
  · rw [hword, hnumber]

theorem readValue_of_not_isStart (depth fuel : Nat) (hd : isStart d = false) :
    readValue depth (fuel + 1) ⟨d :: t, offset⟩ = .error (.at .noValue offset) := by
  rw [readValue]
  split
  · next heq =>
    obtain ⟨rfl, -⟩ := List.cons.inj heq
    exact absurd hd (by decide)
  · next heq =>
    obtain ⟨rfl, -⟩ := List.cons.inj heq
    exact absurd hd (by decide)
  · exact readScalar_of_not_isStart hd

theorem rest_skipSpace (c : Cursor) : (skipSpace c).rest = c.rest.dropWhile isSpace :=
  Text.drop_length_takeWhile isSpace c.rest

/-- No document starts with a blank that is not white space in JSON. -/
theorem document_of_isBlank {l : List Char} (hl : (l.dropWhile isSpace).head? = some d)
    (hd : Text.isBlank d = true) : ∃ offset, document l = .error (.at .noValue offset) := by
  have hmark : ¬l.head? = some '\ufeff' := by
    intro hhead
    obtain ⟨t, rfl⟩ := List.head?_eq_some_iff.mp hhead
    rw [List.dropWhile_cons_of_neg (by decide), List.head?_cons] at hl
    obtain rfl := Option.some.inj hl
    exact absurd hd (by decide)
  obtain ⟨t, ht⟩ := List.head?_eq_some_iff.mp hl
  have hstart : skipSpace ⟨l, 0⟩ = ⟨d :: t, (skipSpace ⟨l, 0⟩).offset⟩ := by
    rw [← ht, ← rest_skipSpace ⟨l, 0⟩]
  refine ⟨(skipSpace ⟨l, 0⟩).offset, ?_⟩
  have hread : readValue depthLimit (2 * l.length + 2) ⟨d :: t, (skipSpace ⟨l, 0⟩).offset⟩ = _ :=
    readValue_of_not_isStart depthLimit (2 * l.length + 1) (isStart_of_isBlank hd)
  rw [document, if_neg hmark, hstart]
  simp only [hread]
  rfl

end Json

namespace Xml

variable {d : Char}

/-- No token starts with a blank. -/
theorem scan_of_isBlank (hd : Text.isBlank d = true) (t : List Char) (offset : Nat) :
    PrologToken.scan ⟨d :: t, offset⟩ = .error (.invalid offset) := by
  have hne (x : Char) (hx : Text.isBlank x = false) : d ≠ x := by
    rintro rfl
    exact Bool.noConfusion (hd.symm.trans hx)
  have hname : (isNameChar d || d = ':') = false := by
    have h := Text.of_isBlank (p := fun c => !(isNameChar c || c = ':')) (by decide +kernel) hd
    simpa using h
  have hword : PrologToken.scanWord ⟨d :: t, offset⟩ = .error (.invalid offset) := by
    have hcut : ¬(Cursor.mk (d :: t) offset).peek? = some cutMark := by
      simpa [Cursor.peek?] using hne cutMark (by decide)
    have hrefuse : refuseText (α := Unit) ⟨d :: t, offset⟩ = .error (.invalid offset) := by
      rw [refuseText, if_neg hcut, refuse]
      exact if_neg (hne halfMark (by decide))
    have hempty : ((d :: t).takeWhile fun d => isNameChar d || d = ':').isEmpty = true := by
      rw [List.takeWhile_cons_of_neg (by rw [hname]; exact Bool.false_ne_true)]
      rfl
    rw [PrologToken.scanWord]
    simp only [hempty, if_true, hrefuse]
    rfl
  unfold PrologToken.scan
  dsimp only [Cursor.peek?, List.head?_cons]
  split
  all_goals first
    | exact hword
    | next heq => exact absurd (Option.some.inj heq) (hne _ (by decide))

theorem rest_skipSpace (c : Cursor) : c.skipSpace.rest = c.rest.dropWhile isSpace :=
  Text.drop_length_takeWhile isSpace c.rest

theorem next_of_isBlank {c : Cursor} (hc : (c.rest.dropWhile isSpace).head? = some d)
    (hd : Text.isBlank d = true) :
    Placed.next c = .error (.at .invalidToken c.skipSpace.offset) := by
  obtain ⟨t, ht⟩ := List.head?_eq_some_iff.mp hc
  have hstart : c.skipSpace = ⟨d :: t, c.skipSpace.offset⟩ := by rw [← ht, ← rest_skipSpace c]
  have hscan : PrologToken.scan c.skipSpace = .error (.invalid c.skipSpace.offset) := by
    rw [hstart, scan_of_isBlank hd]
  have hsome : ¬c.skipSpace.rest.isEmpty = true := by
    rw [rest_skipSpace, ht]
    exact Bool.false_ne_true
  rw [Placed.next, Placed.next?]
  simp only [if_neg hsome, hscan]
  rfl

namespace Encoding

variable {lead : UInt8} {rest data : List UInt8}

theorem sequenceLength_lead {c : Char} (h : String.utf8EncodeChar c = lead :: rest) :
    sequenceLength lead ≤ rest.length + 1 ∧ rest.length ≤ 3 := by
  rw [String.utf8EncodeChar] at h
  simp only [sequenceLength, UInt8.lt_iff_toNat_lt, UInt8.reduceToNat]
  split_ifs at h <;>
  · obtain ⟨rfl, rfl⟩ := List.cons.inj h
    simp only [UInt8.toNat_ofNat', List.length_cons, List.length_nil]
    split_ifs <;> omega

theorem ofUtf8_utf8Encode (l : List Char) : ofUtf8 (l.flatMap String.utf8EncodeChar) = l.map textOr := by
  induction l with
  | nil => rw [List.flatMap_nil, ofUtf8]; rfl
  | cons c l ih =>
    obtain ⟨lead, rest, hc, hstep⟩ := Text.utf8Step_utf8EncodeChar c
    obtain ⟨hlen, hrest⟩ := sequenceLength_lead hc
    have hwhole :
        ¬((rest ++ l.flatMap String.utf8EncodeChar).take 3).length + 1 < sequenceLength lead := by
      rw [List.length_take, List.length_append]
      omega
    rw [List.flatMap_cons, hc, List.cons_append, ofUtf8, if_neg hwhole, hstep]
    simp only [List.drop_left, ih, List.map_cons]

theorem lead_ne_zero {c : Char} (hc : c ≠ '\x00') (h : String.utf8EncodeChar c = lead :: rest) :
    lead ≠ 0 := by
  rintro rfl
  by_cases hlt : c.toNat < 128
  · rw [Text.utf8EncodeChar_of_lt hlt] at h
    have hzero : c.toNat.toUInt8.toNat = (0 : UInt8).toNat := congrArg UInt8.toNat (List.cons.inj h).1
    rw [Nat.toUInt8, UInt8.toNat_ofNat', Nat.mod_eq_of_lt (by omega)] at hzero
    exact hc (Char.toNat_inj.mp hzero)
  · exact absurd (Text.le_lead (Nat.le_of_not_lt hlt) h) (by decide)

/-- Octets of a text that starts with a blank are read in UTF-8. -/
theorem detect_of_isBlank {c c' : Char} {t : List Char} (hc : Text.isBlank c = true)
    (hc' : c' ≠ '\x00') :
    detect ((c :: c' :: t).flatMap String.utf8EncodeChar) = .utf8 ∧
      isUndecided ((c :: c' :: t).flatMap String.utf8EncodeChar) = false := by
  have hoctets := Text.of_isBlank (p := fun c => (String.utf8EncodeChar c).all
    fun a => a ≠ 0 && a ≠ 0xFE && a ≠ 0xFF && a ≠ 0xEF) (by decide) hc
  obtain ⟨a, rest, hlead, -⟩ := Text.utf8Step_utf8EncodeChar c
  obtain ⟨a', rest', hlead', -⟩ := Text.utf8Step_utf8EncodeChar c'
  obtain ⟨b, more, hmore, hb⟩ : ∃ b more, rest ++ a' :: rest' ++ t.flatMap String.utf8EncodeChar =
      b :: more ∧ b ≠ 0 := by
    cases rest with
    | nil => exact ⟨a', _, rfl, lead_ne_zero hc' hlead'⟩
    | cons b rest => exact ⟨b, _, rfl, by simp [hlead] at hoctets; exact hoctets.2.1.1.1.1⟩
  have hdata : (c :: c' :: t).flatMap String.utf8EncodeChar = a :: b :: more := by
    rw [List.flatMap_cons, List.flatMap_cons, hlead, hlead', ← hmore]
    simp
  obtain ⟨⟨⟨⟨hzero, hfe⟩, hff⟩, hef⟩, -⟩ : ((((a ≠ 0) ∧ a ≠ 0xFE) ∧ a ≠ 0xFF) ∧ a ≠ 0xEF) ∧
      rest.all (fun a => a ≠ 0 && a ≠ 0xFE && a ≠ 0xFF && a ≠ 0xEF) = true := by
    simpa [hlead] using hoctets
  rw [hdata]
  constructor
  · simp [detect, hzero, hfe, hff, hb]
  · cases more <;> simp [isUndecided, hef]

end Encoding

/-- No document starts with a blank that is not white space in markup. -/
theorem readDocument_of_isBlank {c c' d : Char} {t : List Char} (hc : Text.isBlank c = true)
    (hc' : c' ≠ '\x00') (hd : Text.isBlank d = true)
    (h : ((c :: c' :: t).dropWhile isSpace).head? = some d) :
    ∃ offset, (readDocument ((c :: c' :: t).flatMap String.utf8EncodeChar)).result =
      .error (.at .invalidToken offset) := by
  have htext (x : Char) (hx : Text.isBlank x = true) : Encoding.textOr x = x := by
    have hx := Text.of_isBlank (p := fun x => !(x = cutMark || x = halfMark)) (by decide) hx
    rw [Encoding.textOr, if_neg (by simpa using hx)]
  have hspace : (isSpace ∘ Encoding.textOr) = isSpace := by
    funext x
    rw [Function.comp_apply, Encoding.textOr]
    split_ifs with hx
    · rw [Bool.or_eq_true, decide_eq_true_eq, decide_eq_true_eq] at hx
      rcases hx with rfl | rfl <;> rfl
    · rfl
  have hrest : (((c :: c' :: t).map Encoding.textOr).dropWhile isSpace).head? = some d := by
    rw [List.dropWhile_map, hspace, List.head?_map, h, Option.map_some, htext d hd]
  obtain ⟨hdetect, hundecided⟩ := Encoding.detect_of_isBlank (t := t) hc hc'
  have hmark : ¬((c :: c' :: t).map Encoding.textOr).head? = some byteOrderMark := by
    rw [List.map_cons, List.head?_cons, htext c hc, Option.some.injEq]
    rintro rfl
    exact absurd hc (by decide)
  have hnext := next_of_isBlank (c := ⟨(c :: c' :: t).map Encoding.textOr, 0⟩) hrest hd
  refine ⟨(Cursor.skipSpace ⟨(c :: c' :: t).map Encoding.textOr, 0⟩).offset, ?_⟩
  rw [readDocument, hdetect, Encoding.decode, Encoding.ofUtf8_utf8Encode,
    if_neg (Bool.eq_false_iff.mp hundecided)]
  simp only [if_neg hmark, List.drop_zero]
  rw [Opening.read, hnext]
  rfl

end Xml
end Intake
