import Mathlib
import Intake.Text.Utf8

namespace Intake.Text

theorem toList_loop (bs : ByteArray) (i : Nat) (acc : List UInt8) :
    ByteArray.toList.loop bs i acc = acc.reverse ++ bs.data.toList.drop i := by
  fun_induction ByteArray.toList.loop bs i acc with
  | case1 i acc hlt ih =>
    have hi : i < bs.data.toList.length := hlt
    have hget : bs.get! i = bs.data.toList[i] := by
      simp [ByteArray.get!, getElem!_pos bs.data i hlt]
    rw [ih, List.reverse_cons, List.append_assoc, List.drop_eq_getElem_cons hi, hget]
    rfl
  | case2 i acc hge =>
    rw [List.drop_eq_nil_of_le (Nat.not_lt.mp hge), List.append_nil]

theorem toUTF8_ofList (s : List Char) :
    (String.ofList s).toUTF8.toList = s.flatMap String.utf8EncodeChar := by
  rw [String.toUTF8_eq_toByteArray, String.toByteArray_ofList, ByteArray.toList, toList_loop]
  simp [List.utf8Encode]

theorem toUTF8_toString (c : Char) : c.toString.toUTF8.toList = String.utf8EncodeChar c := by
  have h := toUTF8_ofList [c]
  rwa [List.flatMap_singleton] at h

theorem utf8EncodeChar_of_lt {c : Char} (h : c.toNat < 128) :
    String.utf8EncodeChar c = [c.toNat.toUInt8] := by
  have hle : c.val.toNat ≤ 127 := Nat.le_of_lt_succ h
  rw [String.utf8EncodeChar, if_pos hle]
  rfl

/-- The octets of a text that has only characters of ASCII. -/
def octets (s : List Char) : List UInt8 := s.map fun c => c.toNat.toUInt8

theorem octets_append (s t : List Char) : octets (s ++ t) = octets s ++ octets t := List.map_append

theorem octets_cons (c : Char) (s : List Char) : octets (c :: s) = c.toNat.toUInt8 :: octets s := rfl

theorem length_octets (s : List Char) : (octets s).length = s.length := List.length_map _

theorem utf8_of_isAscii {s : List Char} (h : ∀ c ∈ s, c.toNat < 128) :
    s.flatMap String.utf8EncodeChar = octets s := by
  rw [octets, List.map_eq_flatMap]
  exact List.flatMap_congr fun c hc => utf8EncodeChar_of_lt (h c hc)

/-- The first octet of a character beyond ASCII is no character of ASCII. -/
theorem le_lead {c : Char} {lead : UInt8} {rest : List UInt8} (hc : 128 ≤ c.toNat)
    (h : String.utf8EncodeChar c = lead :: rest) : 128 ≤ lead.toNat := by
  have hc : ¬c.val.toNat ≤ 127 := Nat.not_le.mpr hc
  rw [String.utf8EncodeChar, if_neg hc] at h
  split_ifs at h <;>
  · obtain ⟨rfl, -⟩ := List.cons.inj h
    rw [UInt8.toNat_ofNat']
    omega

variable {lead low high : UInt8} {v n seen value : Nat} {rest : List UInt8}

theorem readContinuations_cons (hlow : low.toNat ≤ v % 64 + 128)
    (hhigh : v % 64 + 128 ≤ high.toNat) :
    readContinuations (n + 1) seen (low, high) value (UInt8.ofNat (v % 64 + 128) :: rest) =
      readContinuations n (seen + 1) (0x80, 0xBF) (value * 64 + v % 64) rest := by
  have hb : (UInt8.ofNat (v % 64 + 128)).toNat = v % 64 + 128 := by
    rw [UInt8.toNat_ofNat']
    omega
  have hrange :
      (low ≤ UInt8.ofNat (v % 64 + 128) && UInt8.ofNat (v % 64 + 128) ≤ high) = true := by
    rw [Bool.and_eq_true, decide_eq_true_eq, decide_eq_true_eq, UInt8.le_iff_toNat_le,
      UInt8.le_iff_toNat_le, hb]
    exact ⟨hlow, hhigh⟩
  have hbits : low6 (UInt8.ofNat (v % 64 + 128)) = v % 64 := by
    rw [low6, hb]
    omega
  rw [readContinuations, if_pos hrange, hbits]

theorem readContinuations_next :
    readContinuations (n + 1) seen (0x80, 0xBF) value (UInt8.ofNat (v % 64 + 128) :: rest) =
      readContinuations n (seen + 1) (0x80, 0xBF) (value * 64 + v % 64) rest := by
  have hlow : (0x80 : UInt8).toNat ≤ v % 64 + 128 := Nat.le_add_left _ _
  have hhigh : v % 64 + 128 ≤ (0xBF : UInt8).toNat :=
    Nat.add_le_add_right (Nat.le_of_lt_succ (Nat.mod_lt v (by decide))) 128
  exact readContinuations_cons hlow hhigh

theorem utf8Step_of_following (h : following? lead = some n) (rest : List UInt8) :
    utf8Step lead rest =
      (readContinuations n 1 (secondRange lead)
        (lead.toNat % (if n = 1 then 32 else if n = 2 then 16 else 8)) rest).map fun v =>
          (charOf v, n) := by
  have hlead : ¬lead < 0x80 := by
    intro hlt
    have hlt : lead.toNat < 128 := UInt8.lt_iff_toNat_lt.mp hlt
    have hnone : following? lead = none := by
      simp only [following?, UInt8.le_iff_toNat_le, UInt8.reduceToNat, Bool.and_eq_true,
        decide_eq_true_eq]
      rw [if_neg (by omega), if_neg (by omega), if_neg (by omega)]
    rw [hnone] at h
    cases h
  rw [utf8Step, if_neg hlead, h]

theorem utf8Step_one (h : v ≤ 127) (rest : List UInt8) :
    utf8Step (UInt8.ofNat v) rest = .ok (charOf v, 0) := by
  have hl : (UInt8.ofNat v).toNat = v := by
    rw [UInt8.toNat_ofNat']
    omega
  have hlead : UInt8.ofNat v < 0x80 := by
    rw [UInt8.lt_iff_toNat_lt, hl]
    exact Nat.lt_of_le_of_lt h (by decide)
  rw [utf8Step, if_pos hlead, hl]

theorem utf8Step_two (h : 127 < v) (h' : v ≤ 2047) (rest : List UInt8) :
    utf8Step (UInt8.ofNat (v / 64 % 32 + 192)) (UInt8.ofNat (v % 64 + 128) :: rest) =
      .ok (charOf v, 1) := by
  have hl : (UInt8.ofNat (v / 64 % 32 + 192)).toNat = v / 64 + 192 := by
    rw [UInt8.toNat_ofNat']
    omega
  generalize UInt8.ofNat (v / 64 % 32 + 192) = lead at hl
  have hfollowing : following? lead = some 1 := by
    simp only [following?, UInt8.le_iff_toNat_le, UInt8.reduceToNat, hl, Bool.and_eq_true,
      decide_eq_true_eq]
    rw [if_pos (by omega)]
  have hrange : secondRange lead = (0x80, 0xBF) := by
    simp only [secondRange, ← UInt8.toNat_inj, hl, UInt8.reduceToNat]
    rw [if_neg (by omega), if_neg (by omega), if_neg (by omega), if_neg (by omega)]
  have hv : (v / 64 + 192) % 32 * 64 + v % 64 = v := by omega
  rw [utf8Step_of_following hfollowing, hrange, readContinuations_next, readContinuations]
  simp only [if_pos, hl, hv]
  rfl

theorem utf8Step_three (h : 2047 < v) (h' : v ≤ 65535) (hv : v < 0xD800 ∨ 0xDFFF < v)
    (rest : List UInt8) :
    utf8Step (UInt8.ofNat (v / 4096 % 16 + 224))
        (UInt8.ofNat (v / 64 % 64 + 128) :: UInt8.ofNat (v % 64 + 128) :: rest) =
      .ok (charOf v, 2) := by
  have hl : (UInt8.ofNat (v / 4096 % 16 + 224)).toNat = v / 4096 + 224 := by
    rw [UInt8.toNat_ofNat']
    omega
  generalize UInt8.ofNat (v / 4096 % 16 + 224) = lead at hl
  have hfollowing : following? lead = some 2 := by
    simp only [following?, UInt8.le_iff_toNat_le, UInt8.reduceToNat, hl, Bool.and_eq_true,
      decide_eq_true_eq]
    rw [if_neg (by omega), if_pos (by omega)]
  -- Octets of surrogates, and longer forms than needed, are what the second octet may not lead to.
  have hrange : (secondRange lead).1.toNat ≤ v / 64 % 64 + 128 ∧
      v / 64 % 64 + 128 ≤ (secondRange lead).2.toNat := by
    simp only [secondRange, ← UInt8.toNat_inj, hl, UInt8.reduceToNat]
    split_ifs <;> simp only [UInt8.reduceToNat] <;> omega
  have hv : ((v / 4096 + 224) % 16 * 64 + v / 64 % 64) * 64 + v % 64 = v := by omega
  rw [utf8Step_of_following hfollowing, readContinuations_cons hrange.1 hrange.2,
    readContinuations_next, readContinuations]
  simp only [if_pos, OfNat.ofNat_ne_one, if_false, hl, hv]
  rfl

theorem utf8Step_four (h : 65535 < v) (h' : v < 0x110000) (rest : List UInt8) :
    utf8Step (UInt8.ofNat (v / 262144 % 8 + 240))
        (UInt8.ofNat (v / 4096 % 64 + 128) :: UInt8.ofNat (v / 64 % 64 + 128) ::
          UInt8.ofNat (v % 64 + 128) :: rest) = .ok (charOf v, 3) := by
  have hl : (UInt8.ofNat (v / 262144 % 8 + 240)).toNat = v / 262144 + 240 := by
    rw [UInt8.toNat_ofNat']
    omega
  generalize UInt8.ofNat (v / 262144 % 8 + 240) = lead at hl
  have hfollowing : following? lead = some 3 := by
    simp only [following?, UInt8.le_iff_toNat_le, UInt8.reduceToNat, hl, Bool.and_eq_true,
      decide_eq_true_eq]
    rw [if_neg (by omega), if_neg (by omega), if_pos (by omega)]
  have hrange : (secondRange lead).1.toNat ≤ v / 4096 % 64 + 128 ∧
      v / 4096 % 64 + 128 ≤ (secondRange lead).2.toNat := by
    simp only [secondRange, ← UInt8.toNat_inj, hl, UInt8.reduceToNat]
    split_ifs <;> simp only [UInt8.reduceToNat] <;> omega
  have hv : (((v / 262144 + 240) % 8 * 64 + v / 4096 % 64) * 64 + v / 64 % 64) * 64 + v % 64 = v := by
    omega
  rw [utf8Step_of_following hfollowing, readContinuations_cons hrange.1 hrange.2,
    readContinuations_next, readContinuations_next, readContinuations]
  simp only [OfNat.ofNat_ne_one, if_false, Nat.reduceEqDiff, hl, hv]
  rfl

/-- The octets of a character are read back as that character, whatever follows them. -/
theorem utf8Step_utf8EncodeChar (c : Char) :
    ∃ lead rest, String.utf8EncodeChar c = lead :: rest ∧
      ∀ more, utf8Step lead (rest ++ more) = .ok (c, rest.length) := by
  have hchar : charOf c.val.toNat = c := Char.ofNat_toNat c
  have hvalid : c.val.toNat < 0xD800 ∨ 0xDFFF < c.val.toNat ∧ c.val.toNat < 0x110000 := c.valid
  rw [String.utf8EncodeChar]
  split_ifs with h₁ h₂ h₃
  · exact ⟨_, _, rfl, fun more => by rw [List.nil_append, utf8Step_one h₁, hchar]; rfl⟩
  · exact ⟨_, _, rfl, fun more =>
      (utf8Step_two (Nat.lt_of_not_le h₁) h₂ more).trans (by rw [hchar]; rfl)⟩
  · have hv : c.val.toNat < 0xD800 ∨ 0xDFFF < c.val.toNat := hvalid.imp_right And.left
    exact ⟨_, _, rfl, fun more =>
      (utf8Step_three (Nat.lt_of_not_le h₂) h₃ hv more).trans (by rw [hchar]; rfl)⟩
  · exact ⟨_, _, rfl, fun more =>
      (utf8Step_four (Nat.lt_of_not_le h₃) (by omega) more).trans (by rw [hchar]; rfl)⟩

/-- Octets that write a text are read as that text, with nothing to replace. -/
theorem utf8Replacing_utf8Encode (s : List Char) :
    utf8Replacing (s.flatMap String.utf8EncodeChar) = s := by
  induction s with
  | nil => rw [List.flatMap_nil, utf8Replacing]
  | cons c s ih =>
    obtain ⟨lead, rest, hc, hstep⟩ := utf8Step_utf8EncodeChar c
    rw [List.flatMap_cons, hc, List.cons_append, utf8Replacing, hstep]
    simp only [List.drop_left, ih]

end Intake.Text
