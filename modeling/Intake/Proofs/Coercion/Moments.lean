import Intake.Proofs.Coercion.Dates
import Intake.Proofs.Reading.Octets

namespace Intake

namespace Date

/-- A year of four digits is written alike with and without padding. -/
theorem padded_four_of_le {n : Nat} (h : 1000 ≤ n) : padded 4 n = Nat.toDigits 10 n := by
  have hlen : 4 ≤ (Nat.toDigits 10 n).length := by
    by_contra hlt
    have hle := (Nat.length_toDigits_le_iff (by decide : 1 < 10) (by decide : 0 < 3)).mp
      (Nat.le_of_lt_succ (Nat.lt_of_not_ge hlt))
    omega
  rw [padded, Nat.sub_eq_zero_of_le hlen, List.replicate_zero, List.nil_append]

end Date

namespace Offset

/-- The seconds of an offset and their fraction, as far as they are written. -/
def tail (o : Offset) : List Char :=
  if o.micros.natAbs % 1000000 ≠ 0 then
    ':' :: (Date.padded 2 (o.micros.natAbs / 1000000 % 60) ++
      '.' :: Date.padded 6 (o.micros.natAbs % 1000000))
  else if o.micros.natAbs / 1000000 % 60 ≠ 0 then
    ':' :: Date.padded 2 (o.micros.natAbs / 1000000 % 60)
  else []

def sign (o : Offset) : Char := if o.micros < 0 then '-' else '+'

theorem chars_eq (o : Offset) :
    o.chars = o.sign :: (Date.padded 2 (o.micros.natAbs / 1000000 / 3600) ++
      ':' :: (Date.padded 2 (o.micros.natAbs / 1000000 / 60 % 60) ++ o.tail)) := rfl

theorem sign_eq (o : Offset) : o.sign = '+' ∨ o.sign = '-' := by
  unfold sign
  split_ifs
  · exact .inr rfl
  · exact .inl rfl

/-- The microseconds that a sign and a number of them make. -/
def signed (sign : Char) (n : Nat) : Int := if sign = '-' then -(n : Int) else (n : Int)

theorem of?_signed (o : Offset) : of? (signed o.sign o.micros.natAbs) = some o := by
  have hsigned : signed o.sign o.micros.natAbs = o.micros := by
    unfold signed sign
    by_cases hneg : o.micros < 0
    · rw [if_pos hneg, if_pos rfl]
      omega
    · rw [if_neg hneg, if_neg (by decide)]
      omega
  rw [hsigned]
  exact dif_pos o.bounded

end Offset

/-- A time of day without the fraction of its second. -/
def TimeOfDay.whole (t : TimeOfDay) : TimeOfDay :=
  ⟨t.hour, t.minute, t.second, 0, t.inDay.1, t.inDay.2.1, t.inDay.2.2.1, by decide⟩

namespace Moment

/-- Whether a moment is in universal time, as one without an offset is taken to be. -/
def isUniversal (m : Moment) : Bool :=
  match m.offset with
  | none => true
  | some o => o.micros = 0

/-- What stands for the offset in the canonical text of a moment. -/
def zone (m : Moment) : List Char := if m.isUniversal then ['Z'] else m.offsetChars

/-- What follows the year in the text of a moment in universal time. -/
def afterYear (m : Moment) : List Char :=
  Date.padded 2 m.date.month ++ '-' :: (Date.padded 2 m.date.day ++ 'T' :: (m.time.clock ++ ['Z']))

/-- Date, whole seconds and offset of a moment, with the year in four digits. -/
def paddedChars (m : Moment) : List Char := m.date.isoChars ++ 'T' :: (m.time.clock ++ m.zone)

/-- A moment whose canonical text has a year of four digits. In universal time the year is not padded. -/
def Legible (m : Moment) : Prop := m.isUniversal = true → 1000 ≤ m.date.year

/-- A moment with what its canonical text says of it. -/
def wholeSeconds (m : Moment) : Moment :=
  ⟨m.date, ⟨m.time.hour, m.time.minute, m.time.second, 0,
    ⟨m.time.inDay.1, m.time.inDay.2.1, m.time.inDay.2.2.1, by decide⟩⟩,
    some (m.offset.getD Offset.utc)⟩

variable {m : Moment}

theorem canonical_of_isUniversal (h : m.isUniversal = true) :
    m.canonical = String.ofList (Nat.toDigits 10 m.date.year ++ '-' :: m.afterYear) := if_pos h

theorem canonical_of_not_isUniversal (h : ¬m.isUniversal = true) :
    m.canonical = String.ofList (m.date.isoChars ++ 'T' :: (m.time.clock ++ m.offsetChars)) := if_neg h

theorem canonical_of_legible (h : m.Legible) :
    m.canonical = String.ofList m.paddedChars := by
  unfold paddedChars zone
  split_ifs with hutc
  · rw [canonical_of_isUniversal hutc, ← Date.padded_four_of_le (h hutc), afterYear, Date.isoChars,
      List.append_assoc, List.cons_append, List.append_assoc, List.cons_append]
  · exact canonical_of_not_isUniversal hutc

theorem of_not_legible (h : ¬m.Legible) :
    m.isUniversal = true ∧ (Nat.toDigits 10 m.date.year).length < 4 := by
  obtain ⟨hutc, hyear⟩ := Classical.not_imp.mp h
  have hlen := (Nat.length_toDigits_le_iff (by decide : 1 < 10) (by decide : 0 < 3)).mpr
    (by omega : m.date.year < 10 ^ 3)
  exact ⟨hutc, Nat.lt_succ_of_le hlen⟩

theorem exists_offset_of_not_isUniversal (h : ¬m.isUniversal = true) :
    ∃ o, m.offset = some o ∧ m.offsetChars = o.chars := by
  unfold isUniversal at h
  split at h
  · exact absurd rfl h
  · next o ho => exact ⟨o, ho, by rw [offsetChars, ho]⟩

theorem getD_offset_of_isUniversal (h : m.isUniversal = true) : m.offset.getD Offset.utc = Offset.utc := by
  unfold isUniversal at h
  split at h
  · next ho => rw [ho, Option.getD_none]
  · next o ho =>
    obtain ⟨micros, hbounded⟩ := o
    obtain rfl : micros = 0 := of_decide_eq_true h
    rw [ho, Option.getD_some, Offset.utc]

/-- The canonical text says nothing else. -/
theorem canonical_wholeSeconds (m : Moment) : m.wholeSeconds.canonical = m.canonical := by
  by_cases h : m.isUniversal = true
  · have hwhole : m.wholeSeconds.isUniversal = true := by
      rw [isUniversal, wholeSeconds, getD_offset_of_isUniversal h]
      rfl
    rw [canonical_of_isUniversal h, canonical_of_isUniversal hwhole]
    rfl
  · obtain ⟨o, ho, -⟩ := exists_offset_of_not_isUniversal h
    have hoffset : m.wholeSeconds.offset = m.offset := by rw [wholeSeconds, ho, Option.getD_some]
    have hwhole : ¬m.wholeSeconds.isUniversal = true := by rwa [isUniversal, hoffset]
    rw [canonical_of_not_isUniversal h, canonical_of_not_isUniversal hwhole, offsetChars, hoffset]
    rfl

end Moment

namespace Calendar

variable {n : Nat} {r r' : Reading} {s s' : List Char} {p q : Piece} {ps : List Piece}
  {more : List (Reading × List Char)} {seconds : List (List Char × List Char)}

theorem readings_hour (h : n < 24) (r : Reading) (s : List Char) :
    ∃ more, Piece.hour.readings r (Date.padded 2 n ++ s) = ({ r with hour := n }, s) :: more ∧
      LeaveDigit more :=
  readings_padded (f := fun n => { r with hour := n }) rfl (by omega) (by decide +revert)

theorem readings_minute (h : n < 60) (r : Reading) (s : List Char) :
    ∃ more, Piece.minute.readings r (Date.padded 2 n ++ s) = ({ r with minute := n }, s) :: more ∧
      LeaveDigit more :=
  readings_padded (f := fun n => { r with minute := n }) rfl (by omega) (by decide +revert)

theorem readings_second (h : n < 60) (r : Reading) (s : List Char) :
    ∃ more, Piece.second.readings r (Date.padded 2 n ++ s) = ({ r with second := n }, s) :: more ∧
      LeaveDigit more :=
  readings_padded (f := fun n => { r with second := n }) rfl (by omega) (by decide +revert)

/-- Where the other readings leave a digit, a piece that no digit starts goes on from the first. -/
theorem firstReading_of_leaveDigit (h : p.readings r s = (r', s') :: more) (hmore : LeaveDigit more)
    (hq : q.Halts) (ps : List Piece) :
    firstReading (p :: q :: ps) r s = firstReading (q :: ps) r' s' := by
  rw [firstReading_cons h, findSome?_of_halts hq ps hmore, Option.or_none]

theorem firstReading_letter_of_toLower {c x : Char} (h : x.toLower = c) :
    firstReading (.letter c :: ps) r (x :: s) = firstReading ps r s := by
  have hreadings : (Piece.letter c).readings r (x :: s) = [(r, s)] := if_pos h
  rw [firstReading_cons hreadings, List.findSome?_nil, Option.or_none]

theorem halts_offset : Piece.offset.Halts := by
  refine fun r => ⟨rfl, fun c s hc => ?_⟩
  have hmark (x : Char) (hx : x.isDigit = false) : c ≠ x := by
    rintro rfl
    exact Bool.noConfusion (hc.symm.trans hx)
  have hnone : offsets (c :: s) = [] := by
    unfold offsets
    dsimp only
    split
    · next heq => exact absurd (List.cons.inj heq).1 (hmark 'Z' rfl)
    · next heq =>
      obtain ⟨rfl, -⟩ := List.cons.inj heq
      rw [if_neg]
      simp [hmark '+' rfl, hmark '-' rfl]
    · rfl
  rw [Piece.readings, hnone]
  rfl

/-- Hours, minutes and seconds with colons between. -/
def clocked : List Piece := [.hour, .mark ':', .minute, .mark ':', .second]

/-- A piece that no digit starts takes up where a written time of day ends. -/
theorem firstReading_clocked (t : TimeOfDay) (hq : q.Halts) (ps : List Piece) (r : Reading)
    (s : List Char) :
    firstReading (clocked ++ q :: ps) r (t.clock ++ s) =
      firstReading (q :: ps) { r with hour := t.hour, minute := t.minute, second := t.second } s := by
  obtain ⟨hhour, hminute, hsecond, -⟩ := t.inDay
  obtain ⟨hours, hh, hhours⟩ := readings_hour hhour r
    (':' :: (Date.padded 2 t.minute ++ ':' :: (Date.padded 2 t.second ++ s)))
  obtain ⟨minutes, hm, hminutes⟩ := readings_minute hminute { r with hour := t.hour }
    (':' :: (Date.padded 2 t.second ++ s))
  obtain ⟨seconds, hs, hseconds⟩ := readings_second hsecond
    { r with hour := t.hour, minute := t.minute } s
  have hcolon : (Piece.mark ':').Halts := halts_mark rfl
  have hchars : t.clock ++ s = Date.padded 2 t.hour ++
      ':' :: (Date.padded 2 t.minute ++ ':' :: (Date.padded 2 t.second ++ s)) := by
    simp [TimeOfDay.clock]
  change firstReading (.hour :: .mark ':' :: .minute :: .mark ':' :: .second :: q :: ps) r _ = _
  rw [hchars, firstReading_of_leaveDigit hh hhours hcolon, firstReading_mark_self,
    firstReading_of_leaveDigit hm hminutes hcolon, firstReading_mark_self,
    firstReading_of_leaveDigit hs hseconds hq]

/-- The reading of a date and a time of day. -/
def Reading.ofTime (d : Date) (t : TimeOfDay) : Reading :=
  { Reading.ofDate d with hour := t.hour, minute := t.minute, second := t.second }

/-- Date and time joined by a letter, and what follows them. -/
def joined (ps : List Piece) : List Piece := dashed ++ Piece.letter 't' :: (clocked ++ ps)

theorem firstReading_joined (d : Date) (t : TimeOfDay) (hq : q.Halts) (ps : List Piece)
    (s : List Char) :
    firstReading (joined (q :: ps)) {} (d.isoChars ++ 'T' :: (t.clock ++ s)) =
      firstReading (q :: ps) (.ofTime d t) s := by
  rw [joined, firstReading_dashed_of_halts d (halts_letter rfl),
    firstReading_letter_of_toLower (c := 't') rfl, firstReading_clocked t hq]
  rfl

theorem between_digitChar : ∀ n < 6, between '0' '5' n.digitChar = true := by decide

theorem isDigit_digitChar (h : n < 10) : Text.isDigit n.digitChar = true :=
  Text.isDigit_of_isDigit (Date.isDigit_digitChar n h)

/-- Two digits of a number below sixty are taken for minutes and seconds of an offset. -/
theorem taken_of_lt (h : n < 60) :
    (between '0' '5' (n / 10).digitChar && Text.isDigit (n % 10).digitChar) = true := by
  rw [Bool.and_eq_true]
  exact ⟨between_digitChar _ (by omega), isDigit_digitChar (by omega)⟩

theorem digitRuns_of_length {count : Nat} (hlen : s.length = count + 1)
    (hs : ∀ c ∈ s, Text.isDigit c = true) : ∃ more, digitRuns s (count + 1) = (s, []) :: more := by
  have htake : s.take (count + 1) = s := List.take_of_length_le hlen.le
  have hdrop : s.drop (count + 1) = [] := List.drop_eq_nil_of_le hlen.le
  have hdigits : (decide (s.length = count + 1) && s.all Text.isDigit) = true := by
    simpa [hlen] using hs
  refine ⟨digitRuns s count, ?_⟩
  rw [digitRuns, htake, hdrop]
  exact if_pos hdigits

theorem offsetSeconds_whole {a b : Char} (h : (between '0' '5' a && Text.isDigit b) = true) :
    ∃ more, offsetSeconds [':', a, b] = ([':', a, b], []) :: more :=
  ⟨_, congrArg (· ++ _ ++ _) (if_pos h)⟩

theorem offsetSeconds_fraction {a b : Char} (h : (between '0' '5' a && Text.isDigit b) = true)
    {ds : List Char} (hlen : ds.length = 6) (hds : ∀ c ∈ ds, Text.isDigit c = true) :
    ∃ more, offsetSeconds (':' :: a :: b :: '.' :: ds) = (':' :: a :: b :: '.' :: ds, []) :: more := by
  obtain ⟨more, hruns⟩ := digitRuns_of_length hlen hds
  have hlonger : (digitRuns ds 6).map (fun e => ([':', a, b] ++ '.' :: e.1, e.2)) =
      (':' :: a :: b :: '.' :: ds, []) :: more.map fun e => ([':', a, b] ++ '.' :: e.1, e.2) := by
    rw [hruns]
    rfl
  exact ⟨_, congrArg (· ++ _ ++ _) ((if_pos h).trans (congrArg (· ++ _) hlonger))⟩

/-- What is written of the seconds of an offset is taken whole first. -/
theorem offsetSeconds_tail (o : Offset) : ∃ more, offsetSeconds o.tail = (o.tail, []) :: more := by
  have htaken := taken_of_lt (Nat.mod_lt (o.micros.natAbs / 1000000) (by decide : 0 < 60))
  have hmicros : o.micros.natAbs % 1000000 < 10 ^ 6 := Nat.mod_lt _ (by decide)
  unfold Offset.tail
  rw [Date.padded_two _ (by omega)]
  split_ifs with hfraction hsecond
  · exact offsetSeconds_fraction htaken (Date.length_padded (by decide) hmicros)
      fun c hc => Text.isDigit_of_isDigit (Date.isDigit_of_mem_padded hc)
  · exact offsetSeconds_whole htaken
  · exact ⟨[], rfl⟩

theorem offsets_minutes {sign a b c d : Char} {taken : List Char} (hsign : sign = '+' ∨ sign = '-')
    (hhours : (Text.isDigit a && Text.isDigit b) = true)
    (hminutes : (between '0' '5' c && Text.isDigit d) = true)
    (htaken : offsetSeconds s = (taken, s') :: seconds) :
    ∃ more, offsets (sign :: a :: b :: ':' :: c :: d :: s) =
      (sign :: a :: b :: ':' :: c :: d :: taken, s') :: more := by
  have hwhole : (if (between '0' '5' c && Text.isDigit d) = true then
        (offsetSeconds s).map fun e => ([sign, a, b, ':'] ++ [c, d] ++ e.1, e.2) else []) =
      (sign :: a :: b :: ':' :: c :: d :: taken, s') ::
        seconds.map fun e => ([sign, a, b, ':'] ++ [c, d] ++ e.1, e.2) := by
    rw [if_pos hminutes, htaken]
    rfl
  have hstart : ((sign = '+' || sign = '-') && Text.isDigit a && Text.isDigit b) = true := by
    simpa [hsign] using hhours
  rcases hsign with rfl | rfl
  all_goals exact ⟨_, (if_pos hstart).trans (congrArg (· ++ _) hwhole)⟩

/-- A written offset is taken whole first. -/
theorem offsets_chars (o : Offset) : ∃ more, offsets o.chars = (o.chars, []) :: more := by
  have hbounded := o.bounded
  have hhours : o.micros.natAbs / 1000000 / 3600 < 24 := by omega
  have htaken := taken_of_lt (Nat.mod_lt (o.micros.natAbs / 1000000 / 60) (by decide : 0 < 60))
  have hdigits : (Text.isDigit (o.micros.natAbs / 1000000 / 3600 / 10).digitChar &&
      Text.isDigit (o.micros.natAbs / 1000000 / 3600 % 10).digitChar) = true := by
    rw [isDigit_digitChar (by omega), isDigit_digitChar (by omega)]
    rfl
  obtain ⟨more, htail⟩ := offsetSeconds_tail o
  rw [Offset.chars_eq, Date.padded_two _ (by omega), Date.padded_two _ (by omega)]
  exact offsets_minutes o.sign_eq hdigits htaken htail

section

variable (sign a b c d : Char) {x y : Char}

theorem offsetOf?_minutes :
    offsetOf? [sign, a, b, ':', c, d] = Offset.of? (Offset.signed sign
      ((Text.digitsValue [a, b] * 3600 + Text.digitsValue [c, d] * 60) * 1000000)) := by
  simp [offsetOf?, Offset.signed, Text.digitsValue]

theorem offsetOf?_seconds (hx : x ≠ ':') :
    offsetOf? [sign, a, b, ':', c, d, ':', x, y] = Offset.of? (Offset.signed sign
      ((Text.digitsValue [a, b] * 3600 + Text.digitsValue [c, d] * 60 + Text.digitsValue [x, y]) *
        1000000)) := by
  simp [offsetOf?, Offset.signed, hx, Text.digitsValue]

theorem offsetOf?_fraction (hx : x ≠ ':') {ds : List Char} (hlen : ds.length = 6) :
    offsetOf? (sign :: a :: b :: ':' :: c :: d :: ':' :: x :: y :: '.' :: ds) = Offset.of? (Offset.signed sign
      ((Text.digitsValue [a, b] * 3600 + Text.digitsValue [c, d] * 60 + Text.digitsValue [x, y]) *
        1000000 + Text.digitsValue ds)) := by
  simp [offsetOf?, Offset.signed, hx, hlen]

end

/-- What an offset says is found in its text again. -/
theorem offsetOf?_chars (o : Offset) : offsetOf? o.chars = some o := by
  have hbounded := o.bounded
  have hhours := Date.digitsValue_padded 2 (o.micros.natAbs / 1000000 / 3600)
  have hminutes := Date.digitsValue_padded 2 (o.micros.natAbs / 1000000 / 60 % 60)
  have hseconds := Date.digitsValue_padded 2 (o.micros.natAbs / 1000000 % 60)
  have hmicros := Date.digitsValue_padded 6 (o.micros.natAbs % 1000000)
  have hsix := Date.length_padded (by decide : 0 < 6)
    (Nat.mod_lt _ (by decide) : o.micros.natAbs % 1000000 < 10 ^ 6)
  have hwhole (n : Nat) (hn : n = o.micros.natAbs) : Offset.of? (Offset.signed o.sign n) = some o :=
    hn ▸ o.of?_signed
  have hcolon : (o.micros.natAbs / 1000000 % 60 / 10).digitChar ≠ ':' := by simp
  rw [Date.padded_two _ (by omega)] at hhours hminutes hseconds
  rw [Offset.chars_eq, Date.padded_two _ (by omega), Date.padded_two _ (by omega)]
  unfold Offset.tail
  rw [Date.padded_two _ (by omega)]
  simp only [List.cons_append, List.nil_append]
  split_ifs with hfraction hsecond
  · rw [offsetOf?_fraction _ _ _ _ _ hcolon hsix]
    exact hwhole _ (by omega)
  · rw [offsetOf?_seconds _ _ _ _ _ hcolon]
    exact hwhole _ (by omega)
  · rw [offsetOf?_minutes]
    exact hwhole _ (by omega)

theorem offsets_zone (m : Moment) : ∃ more, offsets m.zone = (m.zone, []) :: more := by
  unfold Moment.zone
  split_ifs with h
  · exact ⟨[], rfl⟩
  · obtain ⟨o, -, hchars⟩ := Moment.exists_offset_of_not_isUniversal h
    exact hchars ▸ offsets_chars o

theorem offsetOf?_zone (m : Moment) : offsetOf? m.zone = some (m.offset.getD Offset.utc) := by
  unfold Moment.zone
  split_ifs with h
  · rw [Moment.getD_offset_of_isUniversal h]
    rfl
  · obtain ⟨o, ho, hchars⟩ := Moment.exists_offset_of_not_isUniversal h
    rw [hchars, offsetOf?_chars, ho, Option.getD_some]

theorem firstReading_zone (m : Moment) (r : Reading) :
    firstReading [.offset] r m.zone = some ({ r with offset := some m.zone }, []) := by
  obtain ⟨more, hoffsets⟩ := offsets_zone m
  rw [firstReading, Piece.readings, hoffsets]
  rfl

/-- No fraction stands before an offset in a canonical text. -/
theorem firstReading_point_zone (m : Moment) (ps : List Piece) (r : Reading) :
    firstReading (.mark '.' :: ps) r m.zone = none := by
  have hhead : ∃ c s, m.zone = c :: s ∧ c ≠ '.' := by
    unfold Moment.zone
    split_ifs with h
    · exact ⟨'Z', [], rfl, by decide⟩
    · obtain ⟨o, -, hchars⟩ := Moment.exists_offset_of_not_isUniversal h
      refine ⟨o.sign, _, hchars.trans o.chars_eq, ?_⟩
      rcases o.sign_eq with h | h <;> rw [h] <;> decide
  obtain ⟨c, s, hzone, hc⟩ := hhead
  have hreadings : (Piece.mark '.').readings r (c :: s) = [] := if_neg hc
  rw [hzone, firstReading, hreadings, List.findSome?_nil]

theorem Reading.moment?_of_offset {text : List Char} {d : Date} {t : TimeOfDay} {o : Offset}
    (hr : r.offset = some text) (ho : offsetOf? text = some o)
    (hd : Date.of? r.year r.month r.day = some d)
    (ht : TimeOfDay.of? r.hour r.minute r.second r.micro = some t) :
    r.moment? = some ⟨d, t, some o⟩ := by
  simp [moment?, hr, ho, hd, ht]

/-- The first two layouts ask for a fraction, and the third is that of a canonical text. -/
theorem readMomentLayouts?_paddedChars (m : Moment) :
    Coercion.readMomentLayouts? m.paddedChars = some m.wholeSeconds := by
  have hfraction (ps : List Piece) : readLayout? (joined (.mark '.' :: ps)) m.paddedChars = none := by
    apply readLayout?_eq_none
    rw [Moment.paddedChars, firstReading_joined m.date m.time (halts_mark rfl), firstReading_point_zone]
  have hoffset : readLayout? (joined [.offset]) m.paddedChars = some m.wholeSeconds := by
    rw [readLayout?, Moment.paddedChars, firstReading_joined m.date m.time halts_offset,
      firstReading_zone]
    exact Reading.moment?_of_offset rfl (offsetOf?_zone m) (dif_pos m.date.real)
      (dif_pos m.wholeSeconds.time.inDay)
  have hbefore : ∀ e ∈ Coercion.momentLayouts.take 2, readLayout? e.1 m.paddedChars = none := by
    rw [← List.forall_iff_forall_mem]
    exact ⟨hfraction _, hfraction _⟩
  exact readMomentLayouts?_of_drop hbefore rfl hoffset

end Calendar

namespace Moment

/-- The characters that dates, times of day and offsets are written with. -/
def isWritten (c : Char) : Bool := c.isDigit || ['-', ':', '.', '+', 'T', 'Z'].contains c

theorem isWritten_of_isDigit {c : Char} (h : c.isDigit = true) : isWritten c = true := by
  rw [isWritten, h, Bool.true_or]

/-- They are visible characters of ASCII. -/
theorem visible_of_isWritten {c : Char} (h : isWritten c = true) : 33 ≤ c.toNat ∧ c.toNat ≤ 126 := by
  rcases (Bool.or_eq_true _ _).mp h with h | h
  · have hrange := Text.toNat_of_isDigit h
    omega
  · have hmarks : ∀ c ∈ ['-', ':', '.', '+', 'T', 'Z'], 33 ≤ c.toNat ∧ c.toNat ≤ 126 := by
      simp only [List.forall_mem_cons]
      exact ⟨by decide, by decide, by decide, by decide, by decide, by decide, List.forall_mem_nil _⟩
    exact hmarks c (List.contains_iff_mem.mp h)

theorem not_isBlank_of_isWritten {c : Char} (h : isWritten c = true) : Text.isBlank c = false :=
  Text.not_isBlank_of_visible (visible_of_isWritten h).1 (visible_of_isWritten h).2

theorem isWritten_of_mem_padded {width n : Nat} : ∀ c ∈ Date.padded width n, isWritten c = true :=
  fun _ hc => isWritten_of_isDigit (Date.isDigit_of_mem_padded hc)

theorem isWritten_of_mem_isoChars (d : Date) : ∀ c ∈ d.isoChars, isWritten c = true := by
  simp only [Date.isoChars, List.forall_mem_cons, List.forall_mem_append]
  exact ⟨isWritten_of_mem_padded, by decide, isWritten_of_mem_padded, by decide, isWritten_of_mem_padded⟩

theorem isWritten_of_mem_clock (t : TimeOfDay) : ∀ c ∈ t.clock, isWritten c = true := by
  simp only [TimeOfDay.clock, List.forall_mem_cons, List.forall_mem_append]
  exact ⟨isWritten_of_mem_padded, by decide, isWritten_of_mem_padded, by decide, isWritten_of_mem_padded⟩

theorem isWritten_of_mem_afterYear (m : Moment) : ∀ c ∈ m.afterYear, isWritten c = true := by
  simp only [afterYear, List.forall_mem_cons, List.forall_mem_append]
  exact ⟨isWritten_of_mem_padded, by decide, isWritten_of_mem_padded, by decide,
    isWritten_of_mem_clock m.time, by decide, List.forall_mem_nil _⟩

theorem isWritten_of_mem_chars (o : Offset) : ∀ c ∈ o.chars, isWritten c = true := by
  have hsign : isWritten o.sign = true := by
    rcases o.sign_eq with h | h <;> rw [h] <;> decide
  have htail : ∀ c ∈ o.tail, isWritten c = true := by
    unfold Offset.tail
    split_ifs
    · simp only [List.forall_mem_cons, List.forall_mem_append]
      exact ⟨by decide, isWritten_of_mem_padded, by decide, isWritten_of_mem_padded⟩
    · rw [List.forall_mem_cons]
      exact ⟨by decide, isWritten_of_mem_padded⟩
    · exact List.forall_mem_nil _
  rw [Offset.chars_eq]
  simp only [List.forall_mem_cons, List.forall_mem_append]
  exact ⟨hsign, isWritten_of_mem_padded, by decide, isWritten_of_mem_padded, htail⟩

theorem isWritten_of_mem_paddedChars (m : Moment) : ∀ c ∈ m.paddedChars, isWritten c = true := by
  have hzone : ∀ c ∈ m.zone, isWritten c = true := by
    unfold zone
    split_ifs with h
    · rw [List.forall_mem_singleton]
      decide
    · obtain ⟨o, -, hchars⟩ := exists_offset_of_not_isUniversal h
      exact hchars ▸ isWritten_of_mem_chars o
  simp only [paddedChars, List.forall_mem_cons, List.forall_mem_append]
  exact ⟨isWritten_of_mem_isoChars m.date, by decide, isWritten_of_mem_clock m.time, hzone⟩

theorem isWritten_of_mem_universal (m : Moment) :
    ∀ c ∈ Nat.toDigits 10 m.date.year ++ '-' :: m.afterYear, isWritten c = true := by
  simp only [List.forall_mem_cons, List.forall_mem_append]
  exact ⟨fun _ hc => isWritten_of_isDigit (Text.isDigit_of_mem_toDigits hc), by decide,
    isWritten_of_mem_afterYear m⟩

theorem isWritten_of_mem_canonical (m : Moment) : ∀ c ∈ m.canonical.toList, isWritten c = true := by
  by_cases h : m.isUniversal = true
  · rw [canonical_of_isUniversal h, String.toList_ofList]
    exact m.isWritten_of_mem_universal
  · have hlegible : m.Legible := fun hutc => absurd hutc h
    rw [canonical_of_legible hlegible, String.toList_ofList]
    exact m.isWritten_of_mem_paddedChars

theorem trim_canonical (m : Moment) : Text.trim m.canonical.toList = m.canonical.toList :=
  Text.trim_of_not_isBlank fun c hc => not_isBlank_of_isWritten (m.isWritten_of_mem_canonical c hc)

end Moment

namespace Coercion

/-- A canonical text with a year of four digits is read as the moment that it was written for, but for
fractions of a second. -/
theorem toMoment?_canonical {m : Moment} (h : m.Legible) :
    toMoment? (.text m.canonical) = some m.wholeSeconds := by
  have hread : readMoment? m.paddedChars = some m.wholeSeconds := by
    have hempty : ¬m.paddedChars.isEmpty = true := by simp [Moment.paddedChars]
    rw [readMoment?, if_neg hempty, Calendar.readMomentLayouts?_paddedChars]
  have htrim : trimmed m.canonical = m.paddedChars := by
    rw [trimmed, m.trim_canonical, Moment.canonical_of_legible h, String.toList_ofList]
  rw [toMoment?, htrim, hread]
  rfl

end Coercion

namespace Calendar

/-- A text in which no four digits stand together. -/
def Yearless (s : List Char) : Prop := ∀ t, t <:+ s → ∀ r, Piece.year.readings r t = []

theorem readings_year_eq_nil {c : Char} (hc : c ∈ s.take 4) (hdigit : Text.isDigit c = false)
    (r : Reading) : Piece.year.readings r s = [] := by
  unfold Piece.readings
  dsimp only
  split
  · rw [if_neg]
    intro hall
    have h := List.all_eq_true.mp hall c hc
    rw [hdigit] at h
    cases h
  · rfl

theorem yearless_nil : Yearless [] := by
  intro t ht r
  rw [List.suffix_nil.mp ht]
  rfl

theorem mem_take_append {α : Type} {xs : List α} {count : Nat} (h : xs.length < count) (x : α)
    (ys : List α) : x ∈ (xs ++ x :: ys).take count := by
  obtain ⟨k, hk⟩ : ∃ k, count - xs.length = k + 1 := ⟨count - xs.length - 1, by omega⟩
  rw [List.take_append, hk]
  exact List.mem_append_right _ List.mem_cons_self

theorem readings_year_append {ds : List Char} {c : Char} (hlen : ds.length < 4)
    (hc : Text.isDigit c = false) (s : List Char) (r : Reading) :
    Piece.year.readings r (ds ++ c :: s) = [] :=
  readings_year_eq_nil (mem_take_append hlen c s) hc r

/-- Fewer than four digits before another character. -/
theorem yearless_append {ds : List Char} {c : Char} (hlen : ds.length < 4)
    (hc : Text.isDigit c = false) (h : Yearless s) : Yearless (ds ++ c :: s) := by
  induction ds with
  | nil =>
    intro t ht r
    rcases List.suffix_cons_iff.mp ht with rfl | ht
    · have hnone := readings_year_append hlen hc s r
      exact hnone
    · exact h t ht r
  | cons d ds ih =>
    intro t ht r
    rcases List.suffix_cons_iff.mp ht with rfl | ht
    · exact readings_year_append hlen hc s r
    · exact ih (Nat.lt_of_succ_lt hlen) t ht r

theorem yearless_afterYear (m : Moment) : Yearless m.afterYear := by
  obtain ⟨hhour, hminute, hsecond, -⟩ := m.time.inDay
  have htwo {n : Nat} (hn : n < 100) : (Date.padded 2 n).length < 4 := by
    rw [Date.length_padded (by decide) hn]
    decide
  have hclock : Yearless (m.time.clock ++ ['Z']) := by
    rw [TimeOfDay.clock, List.append_assoc, List.cons_append, List.append_assoc, List.cons_append]
    exact yearless_append (htwo (by omega)) (by decide) <| yearless_append (htwo (by omega)) (by decide) <|
      yearless_append (htwo (by omega)) (by decide) yearless_nil
  exact yearless_append (htwo m.date.month_lt) (by decide) <|
    yearless_append (htwo m.date.day_lt) (by decide) hclock

/-- A piece that leaves the end of what it reads. -/
def Piece.Consumes (p : Piece) : Prop := ∀ r s, ∀ e ∈ p.readings r s, e.2 <:+ s

theorem consumes_mark (c : Char) : (Piece.mark c).Consumes := by
  intro r s e he
  unfold Piece.readings at he
  dsimp only at he
  split at he
  · split_ifs at he
    · obtain rfl := List.mem_singleton.mp he
      exact List.suffix_cons _ _
    · cases he
  · cases he

theorem suffix_of_mem_twoDigits {leading : Char → Char → Bool} {single : Char → Bool}
    {e : Nat × List Char} (h : e ∈ twoDigits leading single s) : e.2 <:+ s := by
  rcases List.mem_append.mp h with h | h
  · split at h
    · split_ifs at h
      · obtain rfl := List.mem_singleton.mp h
        exact List.suffix_append [_, _] _
      · cases h
    · cases h
  · split at h
    · split_ifs at h
      · obtain rfl := List.mem_singleton.mp h
        exact List.suffix_cons _ _
      · cases h
    · cases h

theorem consumes_month : Piece.month.Consumes := by
  intro r s e he
  obtain ⟨taken, htaken, rfl⟩ := List.mem_map.mp he
  exact suffix_of_mem_twoDigits htaken

theorem consumes_day : Piece.day.Consumes := by
  intro r s e he
  obtain ⟨taken, htaken, rfl⟩ := List.mem_map.mp he
  rcases List.mem_append.mp htaken with h | h
  · exact suffix_of_mem_twoDigits h
  · split at h
    · split_ifs at h
      · obtain rfl := List.mem_singleton.mp h
        exact List.suffix_append [_, _] _
      · cases h
    · cases h

/-- A layout asks for each of its pieces somewhere. -/
theorem firstReading_of_absent {before : List Piece} (hbefore : ∀ p ∈ before, p.Consumes)
    (after : List Piece) (h : ∀ t, t <:+ s → ∀ r, q.readings r t = []) (r : Reading) :
    firstReading (before ++ q :: after) r s = none := by
  induction before generalizing r s with
  | nil =>
    rw [List.nil_append, firstReading, h s List.suffix_rfl r, List.findSome?_nil]
  | cons p before ih =>
    rw [List.cons_append, firstReading, List.findSome?_eq_none_iff]
    intro e he
    have hsuffix := hbefore p List.mem_cons_self r s e he
    exact ih (fun q hq => hbefore q (List.mem_cons_of_mem _ hq)) (fun t ht => h t (ht.trans hsuffix)) e.1

/-- Every layout asks for a year. -/
theorem readMomentLayouts?_of_yearless (h : Yearless s) : Coercion.readMomentLayouts? s = none := by
  have hnone (before after : List Piece) (hbefore : ∀ p ∈ before, p.Consumes) :
      readLayout? (before ++ .year :: after) s = none :=
    readLayout?_eq_none (firstReading_of_absent hbefore after h {})
  have hyear (after : List Piece) := hnone [] after (List.forall_mem_nil _)
  have hday (c : Char) (after : List Piece) := hnone [.day, .mark c, .month, .mark c] after
    (by simp [consumes_day, consumes_month, consumes_mark])
  have hmonth (c : Char) (after : List Piece) := hnone [.month, .mark c, .day, .mark c] after
    (by simp [consumes_day, consumes_month, consumes_mark])
  have hall : ∀ e ∈ Coercion.momentLayouts, readLayout? e.1 s = none := by
    rw [← List.forall_iff_forall_mem]
    exact ⟨hyear _, hyear _, hyear _, hyear _, hyear _, hyear _, hyear _, hyear _, hday '/' _,
      hmonth '/' _, hyear _, hday '-' _, hmonth '-' _, hday '/' _, hmonth '/' _⟩
  rw [Coercion.readMomentLayouts?, List.findSome?_eq_none_iff]
  intro e he
  exact congrArg (Option.map _) (hall e he)

namespace Iso

theorem digits?_eq_none {count : Nat} {bs : List UInt8} {b : UInt8} (hb : b ∈ bs.take count)
    (h : isDigit b = false) : digits? count bs = none := by
  refine if_neg fun hall => ?_
  rw [Bool.and_eq_true] at hall
  have hdigit := List.all_eq_true.mp hall.2 b hb
  rw [h] at hdigit
  cases hdigit

/-- A date starts with four digits. -/
theorem moment?_eq_none {s : String} {b : UInt8} (hb : b ∈ s.toUTF8.toList.take 4)
    (h : isDigit b = false) : moment? s = none := by
  have hdate (length : Nat) : date? s.toUTF8.toList length = none := by
    rw [date?, digits?_eq_none hb h]
    rfl
  unfold moment?
  dsimp only
  rw [hdate]
  split_ifs <;> rfl

end Iso

end Calendar

namespace Coercion

theorem spellUtc_append (s t : List Char) : spellUtc (s ++ t) = spellUtc s ++ spellUtc t :=
  List.flatMap_append

theorem spellUtc_cons {c : Char} (h : c ≠ 'Z') (s : List Char) : spellUtc (c :: s) = c :: spellUtc s := by
  rw [spellUtc, List.flatMap_cons, if_neg h]
  rfl

theorem spellUtc_of_isDigit {ds : List Char} (h : ∀ d ∈ ds, d.isDigit = true) : spellUtc ds = ds := by
  have hkeep : ∀ d ∈ ds, (if d = 'Z' then "+00:00".toList else [d]) = [d] := by
    intro d hd
    rw [if_neg]
    rintro rfl
    exact absurd (h _ hd) (by decide)
  rw [spellUtc, List.flatMap_congr hkeep, List.flatMap_singleton']

/-- The standard's forms do not know a year of fewer than four digits. -/
theorem moment?_spellUtc {ds : List Char} (hlen : ds.length < 4) (hds : ∀ d ∈ ds, d.isDigit = true)
    (t : List Char) : Calendar.Iso.moment? (String.ofList (spellUtc (ds ++ '-' :: t))) = none := by
  have hspell : spellUtc (ds ++ '-' :: t) = ds ++ '-' :: spellUtc t := by
    rw [spellUtc_append, spellUtc_of_isDigit hds, spellUtc_cons (by decide)]
  have hascii : ∀ d ∈ ds, d.toNat < 128 :=
    fun d hd => (Text.toNat_of_isDigit (hds d hd)).2.trans_lt (by decide)
  have hbytes : (String.ofList (ds ++ '-' :: spellUtc t)).toUTF8.toList =
      Text.octets ds ++ 45 :: (spellUtc t).flatMap String.utf8EncodeChar := by
    rw [Text.toUTF8_ofList, List.flatMap_append, List.flatMap_cons, Text.utf8_of_isAscii hascii]
    rfl
  have hlen' : (Text.octets ds).length < 4 := by rwa [Text.length_octets]
  have hdash := Calendar.mem_take_append hlen' 45 ((spellUtc t).flatMap String.utf8EncodeChar)
  rw [← hbytes, ← hspell] at hdash
  exact Calendar.Iso.moment?_eq_none hdash rfl

/-- A year of fewer than four digits is not read at all. -/
theorem toMoment?_canonical_eq_none {m : Moment} (h : ¬m.Legible) :
    toMoment? (.text m.canonical) = none := by
  obtain ⟨hutc, hlen⟩ := Moment.of_not_legible h
  have hdigits : ∀ d ∈ Nat.toDigits 10 m.date.year, d.isDigit = true :=
    fun d hd => Text.isDigit_of_mem_toDigits hd
  have hread : readMoment? (Nat.toDigits 10 m.date.year ++ '-' :: m.afterYear) = none := by
    have hempty : ¬(Nat.toDigits 10 m.date.year ++ '-' :: m.afterYear).isEmpty = true := by simp
    have hyearless := Calendar.yearless_append hlen (by decide : Text.isDigit '-' = false)
      (Calendar.yearless_afterYear m)
    rw [readMoment?, if_neg hempty, Calendar.readMomentLayouts?_of_yearless hyearless]
    exact moment?_spellUtc hlen hdigits m.afterYear
  have htrim : trimmed m.canonical = Nat.toDigits 10 m.date.year ++ '-' :: m.afterYear := by
    rw [trimmed, m.trim_canonical, Moment.canonical_of_isUniversal hutc, String.toList_ofList]
  rw [toMoment?, htrim, hread]
  rfl

/-- A canonical text is read again exactly if its year has four digits. -/
theorem toMoment?_canonical_iff (m : Moment) :
    (∃ m', toMoment? (.text m.canonical) = some m') ↔ m.Legible := by
  constructor
  · rintro ⟨m', hm'⟩
    by_contra h
    rw [toMoment?_canonical_eq_none h] at hm'
    cases hm'
  · intro h
    exact ⟨_, toMoment?_canonical h⟩

end Coercion

end Intake
