import Intake.Coercion.Scalar
import Intake.Proofs.Characters

namespace Intake

namespace Date

theorem isDigit_of_mem_padded {width n : Nat} {c : Char} (h : c ∈ padded width n) :
    c.isDigit = true := by
  rcases List.mem_append.mp h with h | h
  · obtain rfl := List.eq_of_mem_replicate h
    rfl
  · exact Text.isDigit_of_mem_toDigits h

theorem length_padded {width n : Nat} (hw : 0 < width) (h : n < 10 ^ width) :
    (padded width n).length = width := by
  have hle := (Nat.length_toDigits_le_iff (by decide) hw).mpr h
  rw [padded, List.length_append, List.length_replicate]
  omega

theorem digitsValue_padded (width n : Nat) : Text.digitsValue (padded width n) = n := by
  have hzeros (k : Nat) (ds : List Char) :
      Text.digitsValue (List.replicate k '0' ++ ds) = Text.digitsValue ds := by
    induction k with
    | zero => rfl
    | succ k ih => exact ih
  rw [padded, hzeros, Text.digitsValue_toDigits]

theorem padded_four {n : Nat} (h : n < 10000) :
    ∃ a b c d, padded 4 n = [a, b, c, d] ∧ ∀ x ∈ [a, b, c, d], x.isDigit = true := by
  have hlen := length_padded (by decide : 0 < 4) h
  obtain ⟨a, b, c, d, hp⟩ : ∃ a b c d, padded 4 n = [a, b, c, d] := by
    match padded 4 n, hlen with
    | [a, b, c, d], _ => exact ⟨a, b, c, d, rfl⟩
  exact ⟨a, b, c, d, hp, fun x hx => isDigit_of_mem_padded (hp ▸ hx)⟩

theorem padded_two : ∀ n < 100, padded 2 n = [(n / 10).digitChar, (n % 10).digitChar] := by
  decide +kernel

theorem isDigit_digitChar : ∀ n < 10, n.digitChar.isDigit = true := by decide

variable (d : Date)

theorem year_lt : d.year < 10000 := Nat.lt_succ_of_le d.real.1.2

theorem day_le : d.day ≤ 31 := by
  have h : monthLength d.year d.month ≤ 31 := by
    unfold monthLength
    split_ifs <;> decide
  exact d.real.2.2.2.trans h

theorem day_lt : d.day < 100 := Nat.lt_of_le_of_lt d.day_le (by decide)

theorem month_lt : d.month < 100 := Nat.lt_of_le_of_lt d.real.2.1.2 (by decide)

theorem mem_isoChars {c : Char} (h : c ∈ d.isoChars) : c.isDigit = true ∨ c = '-' := by
  simp only [isoChars, List.mem_append, List.mem_cons] at h
  rcases h with h | h | h | h | h
  · exact .inl (isDigit_of_mem_padded h)
  · exact .inr h
  · exact .inl (isDigit_of_mem_padded h)
  · exact .inr h
  · exact .inl (isDigit_of_mem_padded h)

theorem isoChars_ne_nil : d.isoChars ≠ [] := by simp [isoChars]

theorem trim_isoChars : Text.trim d.isoChars = d.isoChars := by
  refine Text.trim_of_not_isBlank fun c hc => ?_
  rcases d.mem_isoChars hc with h | rfl
  · exact Text.not_isBlank_of_isDigit h
  · decide

end Date

namespace Calendar

variable {n : Nat} {r r' : Reading} {s s' : List Char} {p q : Piece} {ps : List Piece}
  {more : List (Reading × List Char)}

theorem firstReading_cons (h : p.readings r s = (r', s') :: more) :
    firstReading (p :: ps) r s =
      (firstReading ps r' s').or (more.findSome? fun e => firstReading ps e.1 e.2) := by
  rw [firstReading, h, List.findSome?_cons]
  dsimp only
  cases firstReading ps r' s' <;> rfl

theorem firstReading_mark_self (c : Char) :
    firstReading (.mark c :: ps) r (c :: s) = firstReading ps r s := by
  have h : (Piece.mark c).readings r (c :: s) = [(r, s)] := if_pos rfl
  rw [firstReading_cons h, List.findSome?_nil, Option.or_none]

/-- A piece that neither the end of a text nor a digit starts. -/
def Piece.Halts (p : Piece) : Prop :=
  ∀ r, p.readings r [] = [] ∧ ∀ c s, c.isDigit = true → p.readings r (c :: s) = []

theorem halts_mark {c : Char} (hc : c.isDigit = false) : (Piece.mark c).Halts := by
  refine fun r => ⟨rfl, fun x s hx => if_neg ?_⟩
  rintro rfl
  exact Bool.noConfusion (hc.symm.trans hx)

theorem halts_letter {c : Char} (hc : c.isDigit = false) : (Piece.letter c).Halts := by
  refine fun r => ⟨rfl, fun x s hx => if_neg ?_⟩
  have hrange := Text.toNat_of_isDigit hx
  rw [Text.toLower_of_lt (by omega)]
  rintro rfl
  exact Bool.noConfusion (hc.symm.trans hx)

theorem halts_blanks : Piece.blanks.Halts := by
  refine fun r => ⟨rfl, fun x s hx => ?_⟩
  rw [Piece.readings, blankRuns, Text.not_isBlank_of_isDigit hx]
  rfl

theorem firstReading_nil_of_halts (hp : p.Halts) (r : Reading) (ps : List Piece) :
    firstReading (p :: ps) r [] = none := by
  rw [firstReading, (hp r).1, List.findSome?_nil]

/-- Readings that all leave a text which starts with a digit. -/
def LeaveDigit (more : List (Reading × List Char)) : Prop :=
  ∀ e ∈ more, ∃ c s, c.isDigit = true ∧ e.2 = c :: s

theorem leaveDigit_nil : LeaveDigit [] := fun _ he => absurd he List.not_mem_nil

theorem leaveDigit_singleton {c : Char} (hc : c.isDigit = true) (r : Reading) (s : List Char) :
    LeaveDigit [(r, c :: s)] :=
  fun _ he => ⟨c, s, hc, List.mem_singleton.mp he ▸ rfl⟩

/-- Where all readings leave a digit, none goes on with a piece that no digit starts. -/
theorem findSome?_of_halts (hp : p.Halts) (ps : List Piece) (hmore : LeaveDigit more) :
    (more.findSome? fun e => firstReading (p :: ps) e.1 e.2) = none := by
  rw [List.findSome?_eq_none_iff]
  intro e he
  obtain ⟨c, s, hc, hs⟩ := hmore e he
  rw [hs, firstReading, (hp e.1).2 c s hc, List.findSome?_nil]

theorem readings_year (h : n < 10000) (r : Reading) (s : List Char) :
    Piece.year.readings r (Date.padded 4 n ++ s) = [({ r with year := n }, s)] := by
  have hvalue := Date.digitsValue_padded 4 n
  obtain ⟨a, b, c, d, hp, hdigits⟩ := Date.padded_four h
  have hall : [a, b, c, d].all Text.isDigit = true :=
    List.all_eq_true.mpr fun x hx => Text.isDigit_of_isDigit (hdigits x hx)
  rw [hp] at hvalue ⊢
  change (if [a, b, c, d].all Text.isDigit = true then
    [({ r with year := Text.digitsValue [a, b, c, d] }, s)] else []) = _
  rw [if_pos hall, hvalue]

/-- Two digits that may stand together are taken together first. Alone the first of them leaves the
other. -/
theorem twoDigits_padded {leading : Char → Char → Bool} (single : Char → Bool) (hn : n < 100)
    (hl : leading (n / 10).digitChar (n % 10).digitChar = true) (s : List Char) :
    ∃ more, twoDigits leading single (Date.padded 2 n ++ s) = (n, s) :: more ∧
      ∀ e ∈ more, ∃ c t, c.isDigit = true ∧ e.2 = c :: t := by
  have hvalue := Date.digitsValue_padded 2 n
  have hdigit := Date.isDigit_digitChar (n % 10) (Nat.mod_lt n (by decide))
  rw [Date.padded_two n hn] at hvalue ⊢
  have htwo : (if leading (n / 10).digitChar (n % 10).digitChar = true then
      [(Text.digitsValue [(n / 10).digitChar, (n % 10).digitChar], s)] else []) = [(n, s)] := by
    rw [if_pos hl, hvalue]
  refine ⟨_, congrArg (· ++ _) htwo, fun e he => ?_⟩
  dsimp only [List.cons_append] at he
  split_ifs at he
  · exact ⟨_, s, hdigit, List.mem_singleton.mp he ▸ rfl⟩
  · cases he

/-- A number in two digits is read as that number first. It can also be read as its first digit alone,
and then the other digit is left. -/
theorem readings_padded {f : Nat → Reading} {leading : Char → Char → Bool} {single : Char → Bool}
    (hp : p.readings r (Date.padded 2 n ++ s) =
      (twoDigits leading single (Date.padded 2 n ++ s)).map fun e => (f e.1, e.2))
    (hn : n < 100) (hl : leading (n / 10).digitChar (n % 10).digitChar = true) :
    ∃ more, p.readings r (Date.padded 2 n ++ s) = (f n, s) :: more ∧ LeaveDigit more := by
  obtain ⟨more, htaken, hmore⟩ := twoDigits_padded single hn hl s
  refine ⟨more.map fun e => (f e.1, e.2), by rw [hp, htaken, List.map_cons], fun e he => ?_⟩
  obtain ⟨e, he', rfl⟩ := List.mem_map.mp he
  exact hmore e he'

theorem readings_month (h : 1 ≤ n) (h' : n ≤ 12) (r : Reading) (s : List Char) :
    ∃ more, Piece.month.readings r (Date.padded 2 n ++ s) = ({ r with month := n }, s) :: more ∧
      LeaveDigit more :=
  readings_padded (f := fun n => { r with month := n }) rfl (by omega) (by decide +revert)

theorem readings_day (h : 1 ≤ n) (h' : n ≤ 31) (r : Reading) (s : List Char) :
    ∃ more, Piece.day.readings r (Date.padded 2 n ++ s) = ({ r with day := n }, s) :: more ∧
      LeaveDigit more := by
  interval_cases n <;>
    first | exact ⟨_, rfl, leaveDigit_nil⟩ | exact ⟨_, rfl, leaveDigit_singleton rfl _ _⟩

/-- Year, month and day with dashes between. -/
def dashed : List Piece := [.year, .mark '-', .month, .mark '-', .day]

/-- The reading of a date alone. -/
def Reading.ofDate (d : Date) : Reading := { year := d.year, month := d.month, day := d.day }

variable (d : Date)

/-- A written date is read as that date. Other readings of it leave a digit. -/
theorem firstReading_dashed (ps : List Piece) (s : List Char) :
    ∃ more, LeaveDigit more ∧ firstReading (dashed ++ ps) {} (d.isoChars ++ s) =
      (firstReading ps (.ofDate d) s).or (more.findSome? fun e => firstReading ps e.1 e.2) := by
  have hyear := readings_year d.year_lt {}
    ('-' :: (Date.padded 2 d.month ++ '-' :: (Date.padded 2 d.day ++ s)))
  obtain ⟨months, hmonth, hmonths⟩ := readings_month d.real.2.1.1 d.real.2.1.2
    { year := d.year } ('-' :: (Date.padded 2 d.day ++ s))
  obtain ⟨days, hday, hdays⟩ := readings_day d.real.2.2.1 d.day_le
    { year := d.year, month := d.month } s
  have hdash : (months.findSome? fun e => firstReading (.mark '-' :: .day :: ps) e.1 e.2) = none :=
    findSome?_of_halts (halts_mark rfl) _ hmonths
  have hchars : d.isoChars ++ s = Date.padded 4 d.year ++
      '-' :: (Date.padded 2 d.month ++ '-' :: (Date.padded 2 d.day ++ s)) := by simp [Date.isoChars]
  refine ⟨days, hdays, ?_⟩
  change firstReading (.year :: .mark '-' :: .month :: .mark '-' :: .day :: ps) {} _ = _
  rw [hchars, firstReading_cons hyear, List.findSome?_nil, Option.or_none, firstReading_mark_self,
    firstReading_cons hmonth, hdash, Option.or_none, firstReading_mark_self, firstReading_cons hday]
  rfl

/-- A piece that no digit starts takes up where a written date ends. -/
theorem firstReading_dashed_of_halts (hp : p.Halts) (ps : List Piece) (s : List Char) :
    firstReading (dashed ++ p :: ps) {} (d.isoChars ++ s) = firstReading (p :: ps) (.ofDate d) s := by
  obtain ⟨more, hmore, hread⟩ := firstReading_dashed d (p :: ps) s
  rw [hread, findSome?_of_halts hp ps hmore, Option.or_none]

theorem readLayout?_dashed :
    readLayout? dashed d.isoChars = some ⟨d, TimeOfDay.midnight, none⟩ := by
  obtain ⟨more, -, hread⟩ := firstReading_dashed d [] []
  rw [List.append_nil, List.append_nil] at hread
  have hread : firstReading dashed {} d.isoChars = some (.ofDate d, []) := hread
  have hdate : Date.of? d.year d.month d.day = some d := dif_pos d.real
  rw [readLayout?, hread]
  change ((Date.of? d.year d.month d.day).bind fun date => _) = _
  rw [hdate]
  rfl

theorem readLayout?_eq_none {layout : List Piece} (h : firstReading layout {} s = none) :
    readLayout? layout s = none := by
  rw [readLayout?, h]

/-- A layout that goes on after the day does not fit a date alone. -/
theorem readLayout?_longer (hp : p.Halts) (ps : List Piece) :
    readLayout? (dashed ++ p :: ps) d.isoChars = none := by
  have hread := firstReading_dashed_of_halts d hp ps []
  rw [List.append_nil] at hread
  exact readLayout?_eq_none (hread.trans (firstReading_nil_of_halts hp _ ps))

theorem readLayout?_slashed (ps : List Piece) :
    readLayout? (.year :: .mark '/' :: ps) d.isoChars = none := by
  have hyear := readings_year d.year_lt {}
    ('-' :: (Date.padded 2 d.month ++ '-' :: Date.padded 2 d.day))
  apply readLayout?_eq_none
  rw [Date.isoChars, firstReading_cons hyear, List.findSome?_nil, Option.or_none, firstReading]
  rfl

theorem rest_of_twoDigits {leading : Char → Char → Bool} {single : Char → Bool} {a b : Char}
    {e : Nat × List Char} (h : e ∈ twoDigits leading single (a :: b :: s)) :
    e.2 = s ∨ e.2 = b :: s := by
  rcases List.mem_append.mp h with h | h
  · dsimp only at h
    split_ifs at h
    · obtain rfl := List.mem_singleton.mp h
      exact .inl rfl
    · cases h
  · dsimp only at h
    split_ifs at h
    · obtain rfl := List.mem_singleton.mp h
      exact .inr rfl
    · cases h

/-- A layout that starts with fewer digits than a year has does not fit a text that starts with one. -/
theorem readLayout?_of_digits_left {a b c : Char} (hb : b.isDigit = true) (hc : c.isDigit = true)
    (hp : ∀ e ∈ p.readings {} (a :: b :: c :: s), e.2 = c :: s ∨ e.2 = b :: c :: s) (hq : q.Halts)
    (ps : List Piece) : readLayout? (p :: q :: ps) (a :: b :: c :: s) = none := by
  have hleft : LeaveDigit (p.readings {} (a :: b :: c :: s)) := by
    intro e he
    rcases hp e he with h | h
    · exact ⟨c, s, hc, h⟩
    · exact ⟨b, c :: s, hb, h⟩
  exact readLayout?_eq_none (findSome?_of_halts hq ps hleft)

theorem rest_of_month {a b c : Char} {e : Reading × List Char}
    (h : e ∈ Piece.month.readings r (a :: b :: c :: s)) : e.2 = c :: s ∨ e.2 = b :: c :: s := by
  obtain ⟨e, he, rfl⟩ := List.mem_map.mp h
  exact rest_of_twoDigits he

theorem rest_of_day {a b c : Char} (ha : a.isDigit = true) {e : Reading × List Char}
    (h : e ∈ Piece.day.readings r (a :: b :: c :: s)) : e.2 = c :: s ∨ e.2 = b :: c :: s := by
  obtain ⟨e, he, rfl⟩ := List.mem_map.mp h
  rcases List.mem_append.mp he with he | he
  · exact rest_of_twoDigits he
  · -- Only a blank lets a day stand in one digit with something in front.
    split at he
    · next hspace =>
      obtain ⟨rfl, -⟩ := List.cons.inj hspace
      cases ha
    · cases he

/-- The layouts in order, where the first of them do not fit. -/
theorem readMomentLayouts?_drop {k : Nat}
    (h : ∀ e ∈ Coercion.momentLayouts.take k, readLayout? e.1 s = none) :
    Coercion.readMomentLayouts? s = (Coercion.momentLayouts.drop k).findSome? fun e =>
      (readLayout? e.1 s).map fun m => if e.2 then { m with offset := some Offset.utc } else m := by
  have hnone : ((Coercion.momentLayouts.take k).findSome? fun e =>
      (readLayout? e.1 s).map fun m => if e.2 then { m with offset := some Offset.utc } else m) =
        none := by
    rw [List.findSome?_eq_none_iff]
    intro e he
    rw [h e he]
    rfl
  rw [Coercion.readMomentLayouts?]
  nth_rewrite 1 [← List.take_append_drop k Coercion.momentLayouts]
  rw [List.findSome?_append, hnone, Option.none_or]

/-- The layout after those that do not fit decides, where it fits. -/
theorem readMomentLayouts?_of_drop {k : Nat} {layout : List Piece} {after : List (List Piece × Bool)}
    {m : Moment} (hbefore : ∀ e ∈ Coercion.momentLayouts.take k, readLayout? e.1 s = none)
    (hdrop : Coercion.momentLayouts.drop k = (layout, false) :: after)
    (h : readLayout? layout s = some m) : Coercion.readMomentLayouts? s = some m := by
  rw [readMomentLayouts?_drop hbefore, hdrop, List.findSome?_cons]
  dsimp only
  rw [h]
  rfl

/-- The layouts that come before that of a date alone all ask for something else after some number. -/
theorem readMomentLayouts?_isoChars :
    Coercion.readMomentLayouts? d.isoChars = some ⟨d, TimeOfDay.midnight, none⟩ := by
  have hjoined (ps : List Piece) : readLayout? (dashed ++ .letter 't' :: ps) d.isoChars = none :=
    readLayout?_longer d (halts_letter rfl) ps
  have hspaced (ps : List Piece) : readLayout? (dashed ++ .blanks :: ps) d.isoChars = none :=
    readLayout?_longer d halts_blanks ps
  obtain ⟨a, b, c, e, hp, hdigits⟩ := Date.padded_four d.year_lt
  have hyear : d.isoChars =
      a :: b :: c :: (e :: '-' :: (Date.padded 2 d.month ++ '-' :: Date.padded 2 d.day)) := by
    rw [Date.isoChars, hp]
    rfl
  have hday (ps : List Piece) : readLayout? (.day :: .mark '/' :: ps) d.isoChars = none := by
    rw [hyear]
    exact readLayout?_of_digits_left (hdigits b (by simp)) (hdigits c (by simp))
      (fun e he => rest_of_day (hdigits a (by simp)) he) (halts_mark rfl) ps
  have hmonth (ps : List Piece) : readLayout? (.month :: .mark '/' :: ps) d.isoChars = none := by
    rw [hyear]
    exact readLayout?_of_digits_left (hdigits b (by simp)) (hdigits c (by simp))
      (fun e he => rest_of_month he) (halts_mark rfl) ps
  have hbefore : ∀ e ∈ Coercion.momentLayouts.take 10, readLayout? e.1 d.isoChars = none := by
    rw [← List.forall_iff_forall_mem]
    exact ⟨hjoined _, hjoined _, hjoined _, hjoined _, hspaced _, hspaced _, hspaced _,
      readLayout?_slashed d _, hday _, hmonth _⟩
  exact readMomentLayouts?_of_drop hbefore rfl (readLayout?_dashed d)

end Calendar

namespace Coercion

/-- A date's own text is read as that date. -/
theorem toMoment?_iso (d : Date) :
    toMoment? (.text d.iso) = some ⟨d, TimeOfDay.midnight, some Offset.utc⟩ := by
  have hread : readMoment? d.isoChars = some ⟨d, TimeOfDay.midnight, none⟩ := by
    have hempty : ¬d.isoChars.isEmpty = true := by simpa using d.isoChars_ne_nil
    rw [readMoment?, if_neg hempty, Calendar.readMomentLayouts?_isoChars]
  have htrim : trimmed d.iso = d.isoChars := by
    rw [trimmed, Date.iso, String.toList_ofList, Date.trim_isoChars]
  rw [toMoment?, htrim, hread]
  rfl

end Coercion

end Intake
