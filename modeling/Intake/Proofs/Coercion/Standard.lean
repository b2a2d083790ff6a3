import Intake.NamedFormat
import Intake.Proofs.Coercion.Moments

namespace Intake

/-- An offset of hours and minutes alone. -/
def Offset.InMinutes (o : Offset) : Prop := 60000000 ∣ o.micros

instance (o : Offset) : Decidable o.InMinutes := inferInstanceAs (Decidable (_ ∣ _))

theorem Offset.tail_eq_nil_iff (o : Offset) : o.tail = [] ↔ o.InMinutes := by
  unfold tail InMinutes
  split_ifs with hfraction hsecond
  · refine iff_of_false id ?_
    omega
  · refine iff_of_false id ?_
    omega
  · refine iff_of_true rfl ?_
    omega

namespace Calendar.Iso

open Text (octets octets_append octets_cons length_octets)

variable {width n : Nat} {bs : List UInt8} {b : UInt8}

theorem toNat_octet {c : Char} (h : c.isDigit = true) : c.toNat.toUInt8.toNat = c.toNat := by
  have hrange := Text.toNat_of_isDigit h
  rw [UInt8.toNat_ofNat']
  omega

theorem isDigit_octet {c : Char} (h : c.isDigit = true) : isDigit c.toNat.toUInt8 = true := by
  have hrange := Text.toNat_of_isDigit h
  have hoctet := toNat_octet h
  simp only [isDigit, Bool.and_eq_true, decide_eq_true_eq, UInt8.le_iff_toNat_le, hoctet]
  exact hrange

theorem isDigit_of_mem_padded (h : b ∈ octets (Date.padded width n)) : isDigit b = true := by
  obtain ⟨c, hc, rfl⟩ := List.mem_map.mp h
  exact isDigit_octet (Date.isDigit_of_mem_padded hc)

theorem length_octets_padded (hw : 0 < width) (h : n < 10 ^ width) :
    (octets (Date.padded width n)).length = width := by
  rw [length_octets, Date.length_padded hw h]

/-- A number written in so many digits is read as that number. -/
theorem digits?_padded (hw : 0 < width) (h : n < 10 ^ width) (bs : List UInt8) :
    digits? width (octets (Date.padded width n) ++ bs) = some (n, bs) := by
  have hlen := length_octets_padded hw h
  have hdigits : (octets (Date.padded width n)).all isDigit = true :=
    List.all_eq_true.mpr fun b hb => isDigit_of_mem_padded hb
  have hvalue : (octets (Date.padded width n)).foldl (fun n b => 10 * n + (b.toNat - 48)) 0 = n := by
    have hsame := Date.digitsValue_padded width n
    rw [Text.digitsValue] at hsame
    rw [octets, List.foldl_map]
    refine Eq.trans (List.foldl_ext _ _ _ fun k c hc => ?_) hsame
    have hc := Date.isDigit_of_mem_padded hc
    rw [Text.digitValue?_of_isDigit hc, toNat_octet hc, Option.getD_some]
  rw [digits?, List.take_left' hlen, List.drop_left' hlen, if_pos (by simp [hlen, hdigits]), hvalue]

theorem ne_of_isDigit {x : UInt8} (h : isDigit b = true) (hx : isDigit x = false) : b ≠ x := by
  rintro rfl
  exact Bool.noConfusion (hx.symm.trans h)

theorem isDigit_peek (hw : 0 < width) (h : n < 10 ^ width) (bs : List UInt8) :
    isDigit (peek (octets (Date.padded width n) ++ bs)) = true := by
  obtain ⟨c, ds, hds⟩ := List.exists_cons_of_length_pos (by
    rw [Date.length_padded hw h]
    exact hw : 0 < (Date.padded width n).length)
  rw [hds]
  exact isDigit_octet (Date.isDigit_of_mem_padded (hds ▸ List.mem_cons_self))

variable (d : Date) (t : TimeOfDay)

theorem octets_isoChars : octets d.isoChars ++ bs = octets (Date.padded 4 d.year) ++
    45 :: (octets (Date.padded 2 d.month) ++ 45 :: (octets (Date.padded 2 d.day) ++ bs)) := by
  simp [Date.isoChars, octets]

theorem length_octets_isoChars : (octets d.isoChars).length = 10 := by
  rw [← List.append_nil (octets d.isoChars), octets_isoChars]
  simp only [List.length_append, List.length_cons, length_octets_padded (by decide : 0 < 4) d.year_lt,
    length_octets_padded (by decide : 0 < 2) d.month_lt, length_octets_padded (by decide : 0 < 2) d.day_lt,
    List.length_nil]

/-- Ten octets belong to a date with dashes. -/
theorem dateLength_isoChars (bs : List UInt8) : dateLength (octets d.isoChars ++ bs) = 10 := by
  have hyear := length_octets_padded (by decide : 0 < 4) d.year_lt
  have hdash : peek ((octets d.isoChars ++ bs).drop 4) = 45 := by
    rw [octets_isoChars, List.drop_left' hyear]
    rfl
  have hweek : peek ((octets d.isoChars ++ bs).drop 5) ≠ 87 := by
    rw [octets_isoChars, List.drop_append, hyear, List.drop_eq_nil_of_le (by omega)]
    exact ne_of_isDigit (isDigit_peek (by decide) d.month_lt _) rfl
  have hlen : (octets d.isoChars ++ bs).length = 10 + bs.length := by
    rw [List.length_append, length_octets_isoChars]
  unfold dateLength
  simp only [hdash, hweek, if_true, if_false]
  rw [if_neg (by omega)]

theorem date?_isoChars (bs : List UInt8) (length : Nat) :
    date? (octets d.isoChars ++ bs) length = some d := by
  have hweek : peek (octets (Date.padded 2 d.month) ++
      45 :: (octets (Date.padded 2 d.day) ++ bs)) ≠ 87 :=
    ne_of_isDigit (isDigit_peek (by decide) d.month_lt _) rfl
  have hdash (bs : List UInt8) : peek (45 :: bs) = 45 := rfl
  have hreal : Date.of? d.year d.month d.day = some d := dif_pos d.real
  rw [octets_isoChars, date?, digits?_padded (by decide) d.year_lt]
  simp [hdash, hweek, digits?_padded (by decide : 0 < 2) d.month_lt,
    digits?_padded (by decide : 0 < 2) d.day_lt, hreal]

/-- Hours, minutes and seconds are read up to the end of the room for them, whatever follows. -/
theorem clock?_clock (bs : List UInt8) :
    clock? (octets t.clock ++ bs) 8 = some ⟨t.hour, t.minute, t.second, 0, peek bs = 0⟩ := by
  obtain ⟨hhour, hminute, hsecond, -⟩ := t.inDay
  have hchars : octets t.clock ++ bs = octets (Date.padded 2 t.hour) ++
      58 :: (octets (Date.padded 2 t.minute) ++ 58 :: (octets (Date.padded 2 t.second) ++ bs)) := by
    simp [TimeOfDay.clock, octets]
  have hcolon (bs : List UInt8) : peek (58 :: bs) = 58 := rfl
  have h2 {n : Nat} (hn : n < 60) : n < 10 ^ 2 := by omega
  rw [hchars, clock?]
  simp [clockFrom?, digits?_padded (by decide : 0 < 2) (h2 (by omega : t.hour < 60)),
    digits?_padded (by decide : 0 < 2) (h2 hminute), digits?_padded (by decide : 0 < 2) (h2 hsecond), hcolon,
    Clock.with]

theorem length_octets_two (h : n < 60) : (octets (Date.padded 2 n)).length = 2 :=
  length_octets_padded (by decide) (by omega)

theorem length_octets_clock : (octets t.clock).length = 8 := by
  obtain ⟨hhour, hminute, hsecond, -⟩ := t.inDay
  simp only [TimeOfDay.clock, octets_append, octets_cons, List.length_append, List.length_cons,
    length_octets_two (by omega : t.hour < 60), length_octets_two hminute, length_octets_two hsecond]

theorem not_isOffsetMark_of_mem_clock (h : b ∈ octets t.clock) : isOffsetMark b = false := by
  have hdigit {n : Nat} : ∀ b ∈ octets (Date.padded 2 n), isOffsetMark b = false := by
    intro b hb
    have hb := isDigit_of_mem_padded hb
    simp [isOffsetMark, ne_of_isDigit hb (x := 43) rfl, ne_of_isDigit hb (x := 45) rfl,
      ne_of_isDigit hb (x := 90) rfl]
  revert b
  simp only [TimeOfDay.clock, octets_append, octets_cons, List.forall_mem_append, List.forall_mem_cons]
  exact ⟨hdigit, by decide, hdigit, by decide, hdigit⟩

/-- The room for a time of day ends where an offset starts. -/
theorem takeWhile_clock (h : isOffsetMark b = true) (bs : List UInt8) :
    (octets t.clock ++ b :: bs).takeWhile (fun b => !isOffsetMark b) = octets t.clock := by
  have hclock : ∀ b ∈ octets t.clock, (!isOffsetMark b) = true := by
    intro b hb
    rw [not_isOffsetMark_of_mem_clock t hb]
    rfl
  rw [List.takeWhile_append_of_pos hclock, List.takeWhile_cons_of_neg (by simp [h]), List.append_nil]

/-- Hours and minutes are read to the end of the text. -/
theorem clock?_minutes {hour minute : Nat} (hhour : hour < 24) (hminute : minute < 60) :
    clock? (octets (Date.padded 2 hour ++ ':' :: Date.padded 2 minute)) 5 =
      some ⟨hour, minute, 0, 0, true⟩ := by
  have hh := digits?_padded (by decide : 0 < 2) (by omega : hour < 10 ^ 2)
    (58 :: octets (Date.padded 2 minute))
  have hm := digits?_padded (by decide : 0 < 2) (by omega : minute < 10 ^ 2) []
  rw [List.append_nil] at hm
  have hchars : octets (Date.padded 2 hour ++ ':' :: Date.padded 2 minute) =
      octets (Date.padded 2 hour) ++ 58 :: octets (Date.padded 2 minute) := by simp [octets]
  rw [hchars, clock?]
  simp [clockFrom?, hh, hm, Clock.with, peek]

variable {o : Offset}

/-- An offset in minutes is written as a sign, hours and minutes. -/
theorem exists_minutes (h : o.InMinutes) :
    ∃ hour minute, hour < 24 ∧ minute < 60 ∧ (hour * 3600 + minute * 60) * 1000000 = o.micros.natAbs ∧
      o.chars = o.sign :: (Date.padded 2 hour ++ ':' :: Date.padded 2 minute) := by
  have hbounded := o.bounded
  refine ⟨o.micros.natAbs / 1000000 / 3600, o.micros.natAbs / 1000000 / 60 % 60, by omega, by omega, ?_, ?_⟩
  · unfold Offset.InMinutes at h
    omega
  · rw [Offset.chars_eq, o.tail_eq_nil_iff.mpr h, List.append_nil]

theorem of?_octet (o : Offset) {n : Nat} (h : n = o.micros.natAbs) :
    Offset.of? (if o.sign.toNat.toUInt8 = 45 then -(n : Int) else (n : Int)) = some o := by
  have hsigned : (if o.sign.toNat.toUInt8 = 45 then -(n : Int) else (n : Int)) = Offset.signed o.sign n := by
    rcases o.sign_eq with hsign | hsign <;> rw [hsign] <;> rfl
  rw [hsigned, h, o.of?_signed]

/-- A time of day and an offset in minutes are read again, but for the fraction of the second. -/
theorem time?_clock (h : o.InMinutes) :
    time? (octets t.clock ++ octets o.chars) = some (t.whole, some o) := by
  obtain ⟨hour, minute, hhour, hminute, hmicros, hchars⟩ := exists_minutes h
  have hlen : (octets (Date.padded 2 hour ++ ':' :: Date.padded 2 minute)).length = 5 := by
    simp only [octets_append, octets_cons, List.length_append, List.length_cons,
      length_octets_two (by omega : hour < 60), length_octets_two hminute]
  have hmark : isOffsetMark o.sign.toNat.toUInt8 = true ∧ o.sign.toNat.toUInt8 ≠ 90 := by
    rcases o.sign_eq with hsign | hsign <;> rw [hsign] <;> decide
  have hoffset := clock?_minutes hhour hminute
  have htime : TimeOfDay.of? t.hour t.minute t.second 0 = some t.whole := dif_pos t.whole.inDay
  rw [hchars, octets_cons]
  unfold time?
  simp only [takeWhile_clock t hmark.1, length_octets_clock, clock?_clock,
    List.drop_left' (length_octets_clock t), hlen, hoffset, Option.bind_eq_bind, Option.bind_some, if_neg hmark.2, htime]
  by_cases hzero : hour * 3600 + minute * 60 + 0 = 0
  · have hutc : o = Offset.utc := by
      obtain ⟨micros, hbounded⟩ := o
      obtain rfl : micros = 0 := by
        have hmicros : (hour * 3600 + minute * 60) * 1000000 = micros.natAbs := hmicros
        omega
      rfl
    rw [if_neg (by decide), if_pos hzero, hutc]
  · have hof := of?_octet o (by rw [Nat.add_zero, Nat.add_zero, hmicros] :
      (hour * 3600 + minute * 60 + 0) * 1000000 + 0 = o.micros.natAbs)
    rw [if_neg (by decide), if_neg hzero, hof]
    rfl

/-- A date with dashes, a time of day and an offset in minutes are read again. -/
theorem moment?_joined (h : o.InMinutes) :
    moment? (String.ofList (d.isoChars ++ 'T' :: (t.clock ++ o.chars))) = some ⟨d, t.whole, some o⟩ := by
  have hascii : ∀ c ∈ d.isoChars ++ 'T' :: (t.clock ++ o.chars), c.toNat < 128 := by
    have hwritten : ∀ c ∈ d.isoChars ++ 'T' :: (t.clock ++ o.chars), Moment.isWritten c = true := by
      simp only [List.forall_mem_append, List.forall_mem_cons]
      exact ⟨Moment.isWritten_of_mem_isoChars d, by decide, Moment.isWritten_of_mem_clock t,
        Moment.isWritten_of_mem_chars o⟩
    exact fun c hc => (Moment.visible_of_isWritten (hwritten c hc)).2.trans_lt (by decide)
  have hbytes : (String.ofList (d.isoChars ++ 'T' :: (t.clock ++ o.chars))).toUTF8.toList =
      octets d.isoChars ++ 84 :: (octets t.clock ++ octets o.chars) := by
    rw [Text.toUTF8_ofList, Text.utf8_of_isAscii hascii, octets_append, octets_cons, octets_append]
    rfl
  have hlen : 10 < (octets d.isoChars ++ 84 :: (octets t.clock ++ octets o.chars)).length := by
    rw [List.length_append, length_octets_isoChars, List.length_cons]
    omega
  have hdrop : dropChar ((octets d.isoChars ++ 84 :: (octets t.clock ++ octets o.chars)).drop 10) =
      octets t.clock ++ octets o.chars := by
    rw [List.drop_left' (length_octets_isoChars d)]
    rfl
  unfold moment?
  simp only [hbytes, dateLength_isoChars, date?_isoChars, hdrop, time?_clock t h, Option.bind_eq_bind,
    Option.bind_some]
  rw [if_neg (by omega), if_neg (by omega)]

end Calendar.Iso

namespace Coercion

theorem spellUtc_padded (width n : Nat) : spellUtc (Date.padded width n) = Date.padded width n :=
  spellUtc_of_isDigit fun _ hd => Date.isDigit_of_mem_padded hd

theorem spellUtc_isoChars (d : Date) : spellUtc d.isoChars = d.isoChars := by
  simp [Date.isoChars, spellUtc_append, spellUtc_cons, spellUtc_padded]

theorem spellUtc_clock (t : TimeOfDay) : spellUtc t.clock = t.clock := by
  simp [TimeOfDay.clock, spellUtc_append, spellUtc_cons, spellUtc_padded]

theorem spellUtc_chars (o : Offset) : spellUtc o.chars = o.chars := by
  have htail : spellUtc o.tail = o.tail := by
    unfold Offset.tail
    split_ifs
    · simp [spellUtc_append, spellUtc_cons, spellUtc_padded]
    · simp [spellUtc_cons, spellUtc_padded]
    · rfl
  have hsign : o.sign ≠ 'Z' := by
    rcases o.sign_eq with h | h <;> rw [h] <;> decide
  simp [o.chars_eq, spellUtc_append, spellUtc_cons, spellUtc_padded, hsign, htail]

/-- Of a canonical text, the letter for universal time becomes an offset and nothing else changes. -/
theorem spellUtc_paddedChars (m : Moment) : spellUtc m.paddedChars =
    m.date.isoChars ++ 'T' :: (m.time.clock ++ (m.offset.getD Offset.utc).chars) := by
  have hzone : spellUtc m.zone = (m.offset.getD Offset.utc).chars := by
    unfold Moment.zone
    split_ifs with hutc
    · rw [Moment.getD_offset_of_isUniversal hutc]
      decide
    · obtain ⟨o, ho, hchars⟩ := Moment.exists_offset_of_not_isUniversal hutc
      rw [hchars, ho, spellUtc_chars, Option.getD_some]
  rw [Moment.paddedChars, spellUtc_append, spellUtc_cons (by decide), spellUtc_append, spellUtc_isoChars,
    spellUtc_clock, hzone]

end Coercion

/-- An offset in whole minutes. A moment without an offset is in universal time. -/
def Moment.InMinutes (m : Moment) : Prop := (m.offset.getD Offset.utc).InMinutes

instance (m : Moment) : Decidable m.InMinutes := inferInstanceAs (Decidable (Offset.InMinutes _))

instance (m : Moment) : Decidable m.Legible := inferInstanceAs (Decidable (_ → _))

namespace NamedFormat

open Calendar (mem_take_append)

variable {s : List Char} {n k : Nat} {c : Char}

theorem digitGroups_nil (hlen : s.length = n) (hs : ∀ c ∈ s, Text.isDigit c = true) (t : List Char) :
    digitGroups n [] (s ++ t) = some t := by
  have hgroup : (s.length = n && s.all Text.isDigit) = true := by simpa [hlen] using hs
  rw [digitGroups.eq_def]
  dsimp only
  rw [List.take_left' hlen, List.drop_left' hlen, if_pos hgroup]

theorem digitGroups_cons (hlen : s.length = n) (hs : ∀ c ∈ s, Text.isDigit c = true)
    (more : List (Char × Nat)) (t : List Char) :
    digitGroups n ((c, k) :: more) (s ++ c :: t) = digitGroups k more t := by
  have hgroup : (s.length = n && s.all Text.isDigit) = true := by simpa [hlen] using hs
  rw [digitGroups.eq_def]
  dsimp only
  rw [List.take_left' hlen, List.drop_left' hlen, if_pos hgroup]
  exact if_pos rfl

theorem digitGroups_eq_none (hc : c ∈ s.take n) (hdigit : Text.isDigit c = false)
    (more : List (Char × Nat)) : digitGroups n more s = none := by
  rw [digitGroups.eq_def]
  refine if_neg fun hgroup => ?_
  rw [Bool.and_eq_true] at hgroup
  have h := List.all_eq_true.mp hgroup.2 c hc
  rw [hdigit] at h
  cases h

theorem isDigit_of_mem_padded {width : Nat} : ∀ c ∈ Date.padded width n, Text.isDigit c = true :=
  fun _ hc => Text.isDigit_of_isDigit (Date.isDigit_of_mem_padded hc)

theorem digitGroups_padded (hk : n < 10 ^ 2) (more : List (Char × Nat)) (t : List Char) :
    digitGroups 2 ((c, k) :: more) (Date.padded 2 n ++ c :: t) = digitGroups k more t :=
  digitGroups_cons (Date.length_padded (by decide) hk) isDigit_of_mem_padded more t

theorem digitGroups_padded_nil (hk : n < 10 ^ 2) (t : List Char) :
    digitGroups 2 [] (Date.padded 2 n ++ t) = some t :=
  digitGroups_nil (Date.length_padded (by decide) hk) isDigit_of_mem_padded t

theorem digitGroups_isoChars (d : Date) (t : List Char) :
    digitGroups 4 [('-', 2), ('-', 2)] (d.isoChars ++ t) = some t := by
  have hchars : d.isoChars ++ t = Date.padded 4 d.year ++
      '-' :: (Date.padded 2 d.month ++ '-' :: (Date.padded 2 d.day ++ t)) := by simp [Date.isoChars]
  rw [hchars, digitGroups_cons (Date.length_padded (by decide) d.year_lt) isDigit_of_mem_padded,
    digitGroups_padded d.month_lt, digitGroups_padded_nil d.day_lt]

theorem digitGroups_clock (clock : TimeOfDay) (t : List Char) :
    digitGroups 2 [(':', 2), (':', 2)] (clock.clock ++ t) = some t := by
  obtain ⟨hhour, hminute, hsecond, -⟩ := clock.inDay
  have hchars : clock.clock ++ t = Date.padded 2 clock.hour ++
      ':' :: (Date.padded 2 clock.minute ++ ':' :: (Date.padded 2 clock.second ++ t)) := by
    simp [TimeOfDay.clock]
  rw [hchars, digitGroups_padded (by omega), digitGroups_padded (by omega),
    digitGroups_padded_nil (by omega)]

/-- Of an offset, hours and minutes belong to a zone, and nothing after them. -/
theorem isZoneShape_chars (o : Offset) : isZoneShape o.chars = true ↔ o.InMinutes := by
  have hbounded := o.bounded
  have hmark : o.sign ≠ 'Z' ∧ (o.sign = '+' || o.sign = '-') = true := by
    rcases o.sign_eq with h | h <;> rw [h] <;> decide
  have hhour : o.micros.natAbs / 1000000 / 3600 < 10 ^ 2 := by omega
  have hminute : o.micros.natAbs / 1000000 / 60 % 60 < 10 ^ 2 := by omega
  have hcolons : digitGroups 2 [(':', 2)] (Date.padded 2 (o.micros.natAbs / 1000000 / 3600) ++
      ':' :: (Date.padded 2 (o.micros.natAbs / 1000000 / 60 % 60) ++ o.tail)) = some o.tail := by
    rw [digitGroups_padded hhour, digitGroups_padded_nil hminute]
  have hplain : digitGroups 4 [] (Date.padded 2 (o.micros.natAbs / 1000000 / 3600) ++
      ':' :: (Date.padded 2 (o.micros.natAbs / 1000000 / 60 % 60) ++ o.tail)) = none := by
    have hlen := Date.length_padded (by decide : 0 < 2) hhour
    exact digitGroups_eq_none (mem_take_append (by omega) _ _) (by decide : Text.isDigit ':' = false) _
  rw [o.chars_eq, isZoneShape]
  · simp [hmark.2, hcolons, hplain, o.tail_eq_nil_iff]
  · rintro h -
    exact hmark.1 h

theorem isZoneShape_zone (m : Moment) : isZoneShape m.zone = true ↔ m.InMinutes := by
  unfold Moment.zone Moment.InMinutes
  split_ifs with hutc
  · rw [Moment.getD_offset_of_isUniversal hutc]
    decide
  · obtain ⟨o, ho, hchars⟩ := Moment.exists_offset_of_not_isUniversal hutc
    rw [hchars, ho, isZoneShape_chars, Option.getD_some]

/-- Canonical texts have no fraction of a second. -/
theorem isFractionShape_zone (m : Moment) : isFractionShape m.zone = isZoneShape m.zone := by
  have hpoint : ∀ s, m.zone ≠ '.' :: s := by
    unfold Moment.zone
    split_ifs with hutc
    · exact fun s h => absurd (List.cons.inj h).1 (by decide)
    · obtain ⟨o, -, hchars⟩ := Moment.exists_offset_of_not_isUniversal hutc
      rw [hchars, o.chars_eq]
      rcases o.sign_eq with h | h <;> rw [h] <;> exact fun s h => absurd (List.cons.inj h).1 (by decide)
  unfold isFractionShape
  split
  · next s heq => exact absurd heq (hpoint s)
  · rfl

theorem isMomentShape_paddedChars (m : Moment) : isMomentShape m.paddedChars = true ↔ m.InMinutes := by
  rw [isMomentShape, Moment.paddedChars, digitGroups_isoChars]
  change isClockShape (m.time.clock ++ m.zone) = true ↔ _
  rw [isClockShape, digitGroups_clock]
  change isFractionShape m.zone = true ↔ _
  rw [isFractionShape_zone, isZoneShape_zone]

/-- A year of fewer than four digits does not start a date. -/
theorem isMomentShape_eq_false {m : Moment} (h : ¬m.Legible) : isMomentShape m.canonical.toList = false := by
  obtain ⟨hutc, hlen⟩ := Moment.of_not_legible h
  rw [Moment.canonical_of_isUniversal hutc, String.toList_ofList, isMomentShape,
    digitGroups_eq_none (mem_take_append hlen '-' _) (by decide)]

theorem withoutFinalBreak_canonical (m : Moment) :
    withoutFinalBreak m.canonical.toList = m.canonical.toList := by
  refine if_neg fun hlast => ?_
  have hwritten := m.isWritten_of_mem_canonical '\n' (List.mem_of_getLast? hlast)
  exact absurd hwritten (by decide)

/-- The standard's format takes the canonical texts with a year of four digits and an offset in minutes. -/
theorem isMoment_canonical (m : Moment) :
    isMoment m.canonical.toList = true ↔ m.Legible ∧ m.InMinutes := by
  by_cases hlegible : m.Legible
  · have hchars : m.canonical.toList = m.paddedChars := by
      rw [Moment.canonical_of_legible hlegible, String.toList_ofList]
    rw [isMoment, withoutFinalBreak_canonical, hchars, Bool.and_eq_true, isMomentShape_paddedChars,
      Coercion.spellUtc_paddedChars]
    refine ⟨fun h => ⟨hlegible, h.1⟩, fun h => ⟨h.2, ?_⟩⟩
    rw [Calendar.Iso.moment?_joined _ _ h.2, Option.isSome_some]
  · rw [isMoment, withoutFinalBreak_canonical, isMomentShape_eq_false hlegible]
    exact iff_of_false Bool.false_ne_true fun h => hlegible h.1

end NamedFormat

end Intake
