import Intake.Proofs.Coercion.Soundness

namespace Intake

namespace Date

/-- A date as it is written with the year first. -/
def yearFirst (c : Char) (d : Date) : List Char :=
  padded 4 d.year ++ c :: (padded 2 d.month ++ c :: padded 2 d.day)

def dayFirst (c : Char) (d : Date) : List Char :=
  padded 2 d.day ++ c :: (padded 2 d.month ++ c :: padded 4 d.year)

def monthFirst (c : Char) (d : Date) : List Char :=
  padded 2 d.month ++ c :: (padded 2 d.day ++ c :: padded 4 d.year)

theorem padded_two_cons {n : Nat} (h : n < 100) (s : List Char) :
    ∃ a b, padded 2 n ++ s = a :: b :: s ∧ a.isDigit = true ∧ b.isDigit = true := by
  refine ⟨(n / 10).digitChar, (n % 10).digitChar, ?_, isDigit_digitChar _ (by omega),
    isDigit_digitChar _ (by omega)⟩
  rw [padded_two n h]
  rfl

/-- Neither a digit nor a mark between numbers is blank. -/
theorem not_isBlank_of_mem_marked {c x : Char} {v w u : Nat} {i j k : Nat} (hc : c = '-' ∨ c = '/')
    (h : x ∈ padded v i ++ c :: (padded w j ++ c :: padded u k)) : Text.isBlank x = false := by
  have hmark : Text.isBlank c = false := by rcases hc with rfl | rfl <;> decide
  have hdigits (width n : Nat) : ∀ x ∈ padded width n, Text.isBlank x = false :=
    fun x hx => Text.not_isBlank_of_isDigit (isDigit_of_mem_padded hx)
  revert x
  simp only [List.forall_mem_append, List.forall_mem_cons]
  exact ⟨hdigits _ _, hmark, hdigits _ _, hmark, hdigits _ _⟩

end Date

namespace Calendar

variable {c x : Char} {n : Nat} {r : Reading} {s : List Char} {p q : Piece} {ps : List Piece}

theorem Reading.moment?_ofTime (d : Date) (t : TimeOfDay) :
    (Reading.ofTime d t).moment? = some ⟨d, t.whole, none⟩ := by
  have hd : Date.of? d.year d.month d.day = some d := dif_pos d.real
  have ht : TimeOfDay.of? t.hour t.minute t.second 0 = some t.whole := dif_pos t.whole.inDay
  simp [moment?, ofTime, ofDate, hd, ht]

theorem readLayout?_of_firstReading {layout : List Piece} {d : Date} {t : TimeOfDay}
    (h : firstReading layout {} s = some (.ofTime d t, [])) :
    readLayout? layout s = some ⟨d, t.whole, none⟩ := by
  rw [readLayout?, h]
  exact Reading.moment?_ofTime d t

theorem firstReading_mark_ne (h : x ≠ c) : firstReading (.mark c :: ps) r (x :: s) = none := by
  have hreadings : (Piece.mark c).readings r (x :: s) = [] := if_neg h
  rw [firstReading, hreadings, List.findSome?_nil]

theorem firstReading_letter_ne (h : x.toLower ≠ c) :
    firstReading (.letter c :: ps) r (x :: s) = none := by
  have hreadings : (Piece.letter c).readings r (x :: s) = [] := if_neg h
  rw [firstReading, hreadings, List.findSome?_nil]

theorem firstReading_year (h : n < 10000) (ps : List Piece) (r : Reading) (s : List Char) :
    firstReading (.year :: ps) r (Date.padded 4 n ++ s) = firstReading ps { r with year := n } s := by
  rw [firstReading_cons (readings_year h r s), List.findSome?_nil, Option.or_none]

theorem firstReading_day (h : 1 ≤ n) (h' : n ≤ 31) (hq : q.Halts) (ps : List Piece) (r : Reading)
    (s : List Char) :
    firstReading (.day :: q :: ps) r (Date.padded 2 n ++ s) =
      firstReading (q :: ps) { r with day := n } s := by
  obtain ⟨days, hday, hdays⟩ := readings_day h h' r s
  exact firstReading_of_leaveDigit hday hdays hq ps

theorem firstReading_month (h : 1 ≤ n) (h' : n ≤ 12) (hq : q.Halts) (ps : List Piece) (r : Reading)
    (s : List Char) :
    firstReading (.month :: q :: ps) r (Date.padded 2 n ++ s) =
      firstReading (q :: ps) { r with month := n } s := by
  obtain ⟨months, hmonth, hmonths⟩ := readings_month h h' r s
  exact firstReading_of_leaveDigit hmonth hmonths hq ps

section

variable (hc : c.isDigit = false) (d : Date) (ps : List Piece) (s : List Char)
include hc

theorem firstReading_yearFirst (hq : q.Halts) :
    firstReading (.year :: .mark c :: .month :: .mark c :: .day :: q :: ps) {} (d.yearFirst c ++ s) =
      firstReading (q :: ps) (.ofDate d) s := by
  have hchars : d.yearFirst c ++ s = Date.padded 4 d.year ++
      c :: (Date.padded 2 d.month ++ c :: (Date.padded 2 d.day ++ s)) := by simp [Date.yearFirst]
  rw [hchars, firstReading_year d.year_lt, firstReading_mark_self,
    firstReading_month d.real.2.1.1 d.real.2.1.2 (halts_mark hc), firstReading_mark_self,
    firstReading_day d.real.2.2.1 d.day_le hq]
  rfl

theorem firstReading_dayFirst :
    firstReading (.day :: .mark c :: .month :: .mark c :: .year :: ps) {} (d.dayFirst c ++ s) =
      firstReading ps (.ofDate d) s := by
  have hchars : d.dayFirst c ++ s = Date.padded 2 d.day ++
      c :: (Date.padded 2 d.month ++ c :: (Date.padded 4 d.year ++ s)) := by simp [Date.dayFirst]
  rw [hchars, firstReading_day d.real.2.2.1 d.day_le (halts_mark hc), firstReading_mark_self,
    firstReading_month d.real.2.1.1 d.real.2.1.2 (halts_mark hc), firstReading_mark_self,
    firstReading_year d.year_lt]
  rfl

theorem firstReading_monthFirst :
    firstReading (.month :: .mark c :: .day :: .mark c :: .year :: ps) {} (d.monthFirst c ++ s) =
      firstReading ps (.ofDate d) s := by
  have hchars : d.monthFirst c ++ s = Date.padded 2 d.month ++
      c :: (Date.padded 2 d.day ++ c :: (Date.padded 4 d.year ++ s)) := by simp [Date.monthFirst]
  rw [hchars, firstReading_month d.real.2.1.1 d.real.2.1.2 (halts_mark hc), firstReading_mark_self,
    firstReading_day d.real.2.2.1 d.day_le (halts_mark hc), firstReading_mark_self,
    firstReading_year d.year_lt]
  rfl

end

theorem firstReading_clocked_end (t : TimeOfDay) (r : Reading) :
    firstReading clocked r t.clock =
      some ({ r with hour := t.hour, minute := t.minute, second := t.second }, []) := by
  obtain ⟨hhour, hminute, hsecond, -⟩ := t.inDay
  obtain ⟨hours, hh, hhours⟩ := readings_hour hhour r
    (':' :: (Date.padded 2 t.minute ++ ':' :: Date.padded 2 t.second))
  obtain ⟨minutes, hm, hminutes⟩ := readings_minute hminute { r with hour := t.hour }
    (':' :: Date.padded 2 t.second)
  obtain ⟨seconds, hs, -⟩ := readings_second hsecond { r with hour := t.hour, minute := t.minute } []
  have hcolon : (Piece.mark ':').Halts := halts_mark rfl
  rw [List.append_nil] at hs
  rw [clocked, TimeOfDay.clock, firstReading_of_leaveDigit hh hhours hcolon, firstReading_mark_self,
    firstReading_of_leaveDigit hm hminutes hcolon, firstReading_mark_self, firstReading_cons hs]
  rfl

theorem firstReading_blank_clocked (t : TimeOfDay) (r : Reading) :
    firstReading (.blanks :: clocked) r (' ' :: t.clock) =
      some ({ r with hour := t.hour, minute := t.minute, second := t.second }, []) := by
  obtain ⟨a, b, hclock, ha, -⟩ := Date.padded_two_cons (by have := t.inDay.1; omega : t.hour < 100)
    (':' :: (Date.padded 2 t.minute ++ ':' :: Date.padded 2 t.second))
  have hreadings : Piece.blanks.readings r (' ' :: t.clock) = [(r, t.clock)] := by
    have hstop : blankRuns t.clock = [] := by
      rw [TimeOfDay.clock, hclock, blankRuns, Text.not_isBlank_of_isDigit ha]
      rfl
    rw [Piece.readings, blankRuns, hstop]
    rfl
  rw [firstReading_cons hreadings, firstReading_clocked_end, Option.some_or]

/-- A text that starts with two digits and a mark does not start with a year. -/
theorem firstReading_year_of_two (hn : n < 100) (hx : Text.isDigit x = false) (ps : List Piece)
    (r : Reading) (s : List Char) :
    firstReading (.year :: ps) r (Date.padded 2 n ++ x :: s) = none := by
  have hlen : (Date.padded 2 n).length < 4 := by
    rw [Date.length_padded (by decide) hn]
    decide
  rw [firstReading, readings_year_append hlen hx, List.findSome?_nil]

/-- After two digits a layout goes on with the mark that stands there. -/
theorem firstReading_of_other_mark (hp : p = .day ∨ p = .month) (hn : n < 100) (hc : c.isDigit = false)
    (hx : x ≠ c) (ps : List Piece) (r : Reading) (s : List Char) :
    firstReading (p :: .mark c :: ps) r (Date.padded 2 n ++ x :: s) = none := by
  obtain ⟨a, b, hchars, ha, hb⟩ := Date.padded_two_cons hn (x :: s)
  have hne : b ≠ c := by
    rintro rfl
    exact Bool.noConfusion (hc.symm.trans hb)
  have hrest : ∀ e ∈ p.readings r (a :: b :: x :: s), e.2 = x :: s ∨ e.2 = b :: x :: s := by
    rcases hp with rfl | rfl
    · exact fun e he => rest_of_day ha he
    · exact fun e he => rest_of_month he
  rw [hchars, firstReading, List.findSome?_eq_none_iff]
  intro e he
  change firstReading (.mark c :: ps) e.1 e.2 = none
  rcases hrest e he with h | h
  · rw [h, firstReading_mark_ne hx]
  · rw [h, firstReading_mark_ne hne]

/-- Of a number beyond twelve only the first digit can be a month. -/
theorem firstReading_month_of_gt (h : 12 < n) (hn : n ≤ 31) (hq : q.Halts) (ps : List Piece)
    (r : Reading) (s : List Char) : firstReading (.month :: q :: ps) r (Date.padded 2 n ++ s) = none := by
  have hleft : LeaveDigit (Piece.month.readings r (Date.padded 2 n ++ s)) := by
    interval_cases n <;> exact leaveDigit_singleton rfl _ _
  rw [firstReading]
  exact findSome?_of_halts hq ps hleft

theorem consumes_year : Piece.year.Consumes := by
  intro r s e he
  unfold Piece.readings at he
  dsimp only at he
  split at he
  · split_ifs at he
    · obtain rfl := List.mem_singleton.mp he
      exact List.suffix_append [_, _, _, _] _
    · cases he
  · cases he

/-- A layout that asks for blanks does not fit a text without blanks. -/
theorem firstReading_of_no_blank {before : List Piece} (hbefore : ∀ p ∈ before, p.Consumes)
    (after : List Piece) (h : ∀ c ∈ s, Text.isBlank c = false) (r : Reading) :
    firstReading (before ++ .blanks :: after) r s = none := by
  refine firstReading_of_absent hbefore after (fun t ht r => ?_) r
  have hruns : blankRuns t = [] := by
    cases t with
    | nil => rfl
    | cons x t =>
      rw [blankRuns, h x (ht.subset List.mem_cons_self)]
      rfl
  rw [Piece.readings, hruns]
  rfl

def dayFirst (c : Char) : List Piece := [.day, .mark c, .month, .mark c, .year]

def monthFirst (c : Char) : List Piece := [.month, .mark c, .day, .mark c, .year]

/-- The layouts of a date alone that start with its day or its month. -/
def shortLayouts : List (List Piece) := [dayFirst '-', monthFirst '-', dayFirst '/', monthFirst '/']

/-- Only the last layouts fit a text without blanks that does not start with a year. -/
theorem readMomentLayouts?_of_two (hn : n < 100) (hx : Text.isDigit x = false)
    (hblank : ∀ c ∈ Date.padded 2 n ++ x :: s, Text.isBlank c = false) :
    Coercion.readMomentLayouts? (Date.padded 2 n ++ x :: s) =
      shortLayouts.findSome? fun layout => readLayout? layout (Date.padded 2 n ++ x :: s) := by
  have hyear (ps : List Piece) : readLayout? (.year :: ps) (Date.padded 2 n ++ x :: s) = none :=
    readLayout?_eq_none (firstReading_year_of_two hn hx ps {} s)
  have hblanks (before after : List Piece) (hbefore : ∀ p ∈ before, p.Consumes) :
      readLayout? (before ++ .blanks :: after) (Date.padded 2 n ++ x :: s) = none :=
    readLayout?_eq_none (firstReading_of_no_blank hbefore after hblank {})
  have hday := hblanks (dayFirst '/') clocked
    (by simp [dayFirst, consumes_day, consumes_month, consumes_year, consumes_mark])
  have hmonth := hblanks (monthFirst '/') clocked
    (by simp [monthFirst, consumes_day, consumes_month, consumes_year, consumes_mark])
  have hbefore : ∀ e ∈ Coercion.momentLayouts.take 11,
      readLayout? e.1 (Date.padded 2 n ++ x :: s) = none := by
    rw [← List.forall_iff_forall_mem]
    exact ⟨hyear _, hyear _, hyear _, hyear _, hyear _, hyear _, hyear _, hyear _, hday, hmonth,
      hyear _⟩
  have hlast : Coercion.momentLayouts.drop 11 = shortLayouts.map (·, false) := rfl
  rw [readMomentLayouts?_drop hbefore, hlast, List.findSome?_map]
  simp [Function.comp_def]

section

variable (hc : c.isDigit = false) (d : Date)
include hc

theorem readLayout?_dayFirst :
    readLayout? (dayFirst c) (d.dayFirst c) = some ⟨d, TimeOfDay.midnight, none⟩ := by
  have hread := firstReading_dayFirst hc d [] []
  rw [List.append_nil] at hread
  exact readLayout?_of_firstReading (t := TimeOfDay.midnight) hread

theorem readLayout?_monthFirst :
    readLayout? (monthFirst c) (d.monthFirst c) = some ⟨d, TimeOfDay.midnight, none⟩ := by
  have hread := firstReading_monthFirst hc d [] []
  rw [List.append_nil] at hread
  exact readLayout?_of_firstReading (t := TimeOfDay.midnight) hread

/-- A day beyond twelve is not taken for a month. -/
theorem readLayout?_dayFirst_of_gt (h : 12 < d.day) :
    readLayout? (dayFirst c) (d.monthFirst c) = none := by
  apply readLayout?_eq_none
  rw [dayFirst, Date.monthFirst,
    firstReading_day d.real.2.1.1 (d.real.2.1.2.trans (by decide)) (halts_mark hc), firstReading_mark_self,
    firstReading_month_of_gt h d.day_le (halts_mark hc)]

/-- A layout with another mark after the first number does not fit. -/
theorem readLayout?_of_other_mark (hn : n < 100) (hx : x ≠ c) (s : List Char) :
    readLayout? (dayFirst c) (Date.padded 2 n ++ x :: s) = none ∧
      readLayout? (monthFirst c) (Date.padded 2 n ++ x :: s) = none :=
  ⟨readLayout?_eq_none (firstReading_of_other_mark (.inl rfl) hn hc hx _ _ s),
    readLayout?_eq_none (firstReading_of_other_mark (.inr rfl) hn hc hx _ _ s)⟩

end

variable (d : Date) (t : TimeOfDay)

theorem readMomentLayouts?_dayFirst (hc : c = '-' ∨ c = '/') :
    Coercion.readMomentLayouts? (d.dayFirst c) = some ⟨d, TimeOfDay.midnight, none⟩ := by
  have hmark : Text.isDigit c = false := by rcases hc with rfl | rfl <;> decide
  have hread : Coercion.readMomentLayouts? (d.dayFirst c) =
      shortLayouts.findSome? fun layout => readLayout? layout (d.dayFirst c) :=
    readMomentLayouts?_of_two d.day_lt hmark fun _ => Date.not_isBlank_of_mem_marked hc
  rcases hc with rfl | rfl
  · have hfit := readLayout?_dayFirst (c := '-') rfl d
    simp only [hread, shortLayouts, List.findSome?_cons, hfit]
  · obtain ⟨hday, hmonth⟩ := readLayout?_of_other_mark (c := '-') rfl d.day_lt (by decide : '/' ≠ '-')
      (Date.padded 2 d.month ++ '/' :: Date.padded 4 d.year)
    rw [← Date.dayFirst] at hday hmonth
    have hfit := readLayout?_dayFirst (c := '/') rfl d
    simp only [hread, shortLayouts, List.findSome?_cons, hday, hmonth, hfit]

theorem readMomentLayouts?_monthFirst (hc : c = '-' ∨ c = '/') (h : 12 < d.day) :
    Coercion.readMomentLayouts? (d.monthFirst c) = some ⟨d, TimeOfDay.midnight, none⟩ := by
  have hmark : Text.isDigit c = false := by rcases hc with rfl | rfl <;> decide
  have hread : Coercion.readMomentLayouts? (d.monthFirst c) =
      shortLayouts.findSome? fun layout => readLayout? layout (d.monthFirst c) :=
    readMomentLayouts?_of_two d.month_lt hmark fun _ => Date.not_isBlank_of_mem_marked hc
  rcases hc with rfl | rfl
  · have hswapped := readLayout?_dayFirst_of_gt (c := '-') rfl d h
    have hfit := readLayout?_monthFirst (c := '-') rfl d
    simp only [hread, shortLayouts, List.findSome?_cons, hswapped, hfit]
  · obtain ⟨hday, hmonth⟩ := readLayout?_of_other_mark (c := '-') rfl d.month_lt (by decide : '/' ≠ '-')
      (Date.padded 2 d.day ++ '/' :: Date.padded 4 d.year)
    rw [← Date.monthFirst] at hday hmonth
    have hswapped := readLayout?_dayFirst_of_gt (c := '/') rfl d h
    have hfit := readLayout?_monthFirst (c := '/') rfl d
    simp only [hread, shortLayouts, List.findSome?_cons, hday, hmonth, hswapped, hfit]

/-- The layouts before ask for a letter between date and time of day. -/
theorem readMomentLayouts?_dashed_clock :
    Coercion.readMomentLayouts? (d.yearFirst '-' ++ ' ' :: t.clock) = some ⟨d, t.whole, none⟩ := by
  have hjoined (ps : List Piece) :
      readLayout? (joined ps) (d.yearFirst '-' ++ ' ' :: t.clock) = none := by
    apply readLayout?_eq_none
    have hread := firstReading_yearFirst (c := '-') rfl d (clocked ++ ps) (' ' :: t.clock)
      (halts_letter rfl : (Piece.letter 't').Halts)
    exact hread.trans (firstReading_letter_ne (by decide))
  have hbefore : ∀ e ∈ Coercion.momentLayouts.take 4,
      readLayout? e.1 (d.yearFirst '-' ++ ' ' :: t.clock) = none := by
    rw [← List.forall_iff_forall_mem]
    exact ⟨hjoined _, hjoined _, hjoined _, hjoined _⟩
  have hread := firstReading_yearFirst (c := '-') rfl d clocked (' ' :: t.clock) halts_blanks
  exact readMomentLayouts?_of_drop hbefore rfl
    (readLayout?_of_firstReading (hread.trans (firstReading_blank_clocked t _)))

/-- The layouts before have a dash after the year. -/
theorem readMomentLayouts?_slashed_clock :
    Coercion.readMomentLayouts? (d.yearFirst '/' ++ ' ' :: t.clock) = some ⟨d, t.whole, none⟩ := by
  have hdashed (ps : List Piece) :
      readLayout? (.year :: .mark '-' :: ps) (d.yearFirst '/' ++ ' ' :: t.clock) = none := by
    apply readLayout?_eq_none
    rw [Date.yearFirst, List.append_assoc, firstReading_year d.year_lt, List.cons_append,
      firstReading_mark_ne (by decide)]
  have hbefore : ∀ e ∈ Coercion.momentLayouts.take 7,
      readLayout? e.1 (d.yearFirst '/' ++ ' ' :: t.clock) = none := by
    rw [← List.forall_iff_forall_mem]
    exact ⟨hdashed _, hdashed _, hdashed _, hdashed _, hdashed _, hdashed _, hdashed _⟩
  have hread := firstReading_yearFirst (c := '/') rfl d clocked (' ' :: t.clock) halts_blanks
  exact readMomentLayouts?_of_drop hbefore rfl
    (readLayout?_of_firstReading (hread.trans (firstReading_blank_clocked t _)))

/-- The layouts before start with a year. -/
theorem readMomentLayouts?_dayFirst_clock :
    Coercion.readMomentLayouts? (d.dayFirst '/' ++ ' ' :: t.clock) = some ⟨d, t.whole, none⟩ := by
  have hyear (ps : List Piece) :
      readLayout? (.year :: ps) (d.dayFirst '/' ++ ' ' :: t.clock) = none := by
    apply readLayout?_eq_none
    rw [Date.dayFirst, List.append_assoc, List.cons_append,
      firstReading_year_of_two d.day_lt (by decide)]
  have hbefore : ∀ e ∈ Coercion.momentLayouts.take 8,
      readLayout? e.1 (d.dayFirst '/' ++ ' ' :: t.clock) = none := by
    rw [← List.forall_iff_forall_mem]
    exact ⟨hyear _, hyear _, hyear _, hyear _, hyear _, hyear _, hyear _, hyear _⟩
  have hread := firstReading_dayFirst (c := '/') rfl d (.blanks :: clocked) (' ' :: t.clock)
  exact readMomentLayouts?_of_drop hbefore rfl
    (readLayout?_of_firstReading (hread.trans (firstReading_blank_clocked t _)))

end Calendar

namespace Coercion

variable {s : List Char} {m : Moment} {d : Date} {t : TimeOfDay}

theorem toMoment?_of_layouts (htrim : Text.trim s = s) (h : readMomentLayouts? s = some m) :
    toMoment? (.text (String.ofList s)) = some (inUtc m) := by
  have hsome : ¬s.isEmpty = true := by
    intro hempty
    have hnone : readMomentLayouts? [] = none := by decide
    rw [List.isEmpty_iff.mp hempty, hnone] at h
    cases h
  rw [toMoment?, trimmed, String.toList_ofList, htrim, readMoment?, if_neg hsome, h]
  rfl

/-- A date read from a text is given as its own text. -/
theorem run_date_of_layouts (htrim : Text.trim s = s)
    (h : readMomentLayouts? s = some ⟨d, TimeOfDay.midnight, none⟩) :
    run [] .date (.text (String.ofList s)) = .accepted (.text d.iso) [] := by
  have hmoment := toMoment?_of_layouts htrim h
  rw [run, hmoment]
  rfl

/-- A date and a time of day without an offset are given in universal time. -/
theorem run_datetime_of_layouts (hyear : 1000 ≤ d.year) (htrim : Text.trim s = s)
    (h : readMomentLayouts? s = some ⟨d, t.whole, none⟩) :
    run [] .datetime (.text (String.ofList s)) =
      .accepted (.text (String.ofList (d.isoChars ++ 'T' :: (t.clock ++ ['Z'])))) [] := by
  have hlegible : (⟨d, t.whole, some Offset.utc⟩ : Moment).Legible := fun _ => hyear
  have hmoment := toMoment?_of_layouts htrim h
  rw [run_datetime_eq, hmoment, inUtc, Option.map_some, Moment.canonical_of_legible hlegible]
  rfl

theorem trim_dated {c : Char} {v w u i j k : Nat} (hc : c = '-' ∨ c = '/') :
    Text.trim (Date.padded v i ++ c :: (Date.padded w j ++ c :: Date.padded u k)) =
      Date.padded v i ++ c :: (Date.padded w j ++ c :: Date.padded u k) :=
  Text.trim_of_not_isBlank fun _ => Date.not_isBlank_of_mem_marked hc

/-- Between a date and a time of day the blank stays. -/
theorem trim_timed {date : List Char} (hne : date ≠ []) (hdate : ∀ c ∈ date, Text.isBlank c = false)
    (t : TimeOfDay) : Text.trim (date ++ ' ' :: t.clock) = date ++ ' ' :: t.clock := by
  have hclock : t.clock ≠ [] := by simp [TimeOfDay.clock]
  refine Text.trim_of_ends (fun c hc => ?_) fun c hc => ?_
  · rw [List.head?_append_of_ne_nil _ hne] at hc
    exact hdate c (List.mem_of_mem_head? hc)
  · rw [List.getLast?_append_of_ne_nil _ (List.cons_ne_nil _ _), List.getLast?_cons_of_ne_nil hclock] at hc
    exact Moment.not_isBlank_of_isWritten (Moment.isWritten_of_mem_clock t c (List.mem_of_getLast? hc))

end Coercion

/-- The date with day and month exchanged, as far as the calendar has it. -/
theorem Date.exists_exchanged {d : Date} (h : d.day ≤ 12) :
    ∃ e : Date, e.year = d.year ∧ e.month = d.day ∧ e.day = d.month := by
  have hlen : d.month ≤ monthLength d.year d.day := by
    have hmonth := d.real.2.1.2
    unfold monthLength
    split_ifs <;> omega
  exact ⟨⟨d.year, d.day, d.month, d.real.1, ⟨d.real.2.2.1, h⟩, d.real.2.1.1, hlen⟩, rfl, rfl, rfl⟩

namespace Conversions

variable {r : Conversions} {d : Date}

theorem coerce_name (hr : r.functions = []) (t : TypeTerm) (v : Value) :
    r.coerce t.name v = Coercion.run [] t.target v := by
  rw [coerce, hr, t.ofName_name]

theorem coerce_date_dayFirst (hr : r.functions = []) (d : Date) {c : Char} (hc : c = '-' ∨ c = '/') :
    r.coerce "date" (.text (String.ofList (d.dayFirst c))) = .accepted (.text d.iso) [] :=
  (coerce_name hr .date _).trans (Coercion.run_date_of_layouts (Coercion.trim_dated hc)
    (Calendar.readMomentLayouts?_dayFirst d hc))

/-- A text with the month first is also one with the day first where the day can be a month. -/
theorem coerce_date_monthFirst (hr : r.functions = []) (d : Date) {c : Char} (hc : c = '-' ∨ c = '/') :
    ∃ e : Date, r.coerce "date" (.text (String.ofList (d.monthFirst c))) = .accepted (.text e.iso) [] ∧
      if 12 < d.day ∨ d.day = d.month then e = d
      else e.year = d.year ∧ e.month = d.day ∧ e.day = d.month := by
  by_cases hgt : 12 < d.day
  · refine ⟨d, ?_, by rw [if_pos (.inl hgt)]⟩
    exact (coerce_name hr .date _).trans (Coercion.run_date_of_layouts (Coercion.trim_dated hc)
      (Calendar.readMomentLayouts?_monthFirst d hc hgt))
  · by_cases heq : d.day = d.month
    · have htext : d.monthFirst c = d.dayFirst c := by rw [Date.monthFirst, Date.dayFirst, heq]
      exact ⟨d, htext ▸ coerce_date_dayFirst hr d hc, by rw [if_pos (.inr heq)]⟩
    · obtain ⟨e, hyear, hmonth, hday⟩ := Date.exists_exchanged (Nat.le_of_not_lt hgt)
      have htext : d.monthFirst c = e.dayFirst c := by
        rw [Date.monthFirst, Date.dayFirst, hyear, hmonth, hday]
      refine ⟨e, htext ▸ coerce_date_dayFirst hr e hc, ?_⟩
      rw [if_neg (not_or.mpr ⟨hgt, heq⟩)]
      exact ⟨hyear, hmonth, hday⟩

/-- Dates are read back from texts with the year or the day first. With the month first they are read
back where the day cannot be a month or is that of the month, and otherwise with the two exchanged. With
a time of day they are read back in universal time. -/
theorem dates_read_back (hr : r.functions = []) (d : Date) (t : TimeOfDay) :
    (∀ s ∈ [d.yearFirst '-', d.dayFirst '-', d.dayFirst '/'],
      r.coerce "date" (.text (String.ofList s)) = .accepted (.text d.iso) []) ∧
    (∀ s ∈ [d.monthFirst '-', d.monthFirst '/'],
      ∃ e : Date, r.coerce "date" (.text (String.ofList s)) = .accepted (.text e.iso) [] ∧
        if 12 < d.day ∨ d.day = d.month then e = d
        else e.year = d.year ∧ e.month = d.day ∧ e.day = d.month) ∧
    (1000 ≤ d.year → ∀ s ∈ [d.yearFirst '-', d.yearFirst '/', d.dayFirst '/'],
      r.coerce "datetime" (.text (String.ofList (s ++ ' ' :: t.clock))) =
        .accepted (.text (String.ofList (d.isoChars ++ 'T' :: (t.clock ++ ['Z'])))) []) := by
  have hdash : '-' = '-' ∨ '-' = '/' := .inl rfl
  have hslash : '/' = '-' ∨ '/' = '/' := .inr rfl
  have hiso : r.coerce "date" (.text (String.ofList (d.yearFirst '-'))) = .accepted (.text d.iso) [] :=
    (coerce_name hr .date _).trans (Coercion.run_of_fits (.date d))
  refine ⟨?_, ?_, fun hyear => ?_⟩
  · rw [← List.forall_iff_forall_mem]
    exact ⟨hiso, coerce_date_dayFirst hr d hdash, coerce_date_dayFirst hr d hslash⟩
  · rw [← List.forall_iff_forall_mem]
    exact ⟨coerce_date_monthFirst hr d hdash, coerce_date_monthFirst hr d hslash⟩
  · have hread {date : List Char} (hne : date ≠ []) (hdate : ∀ c ∈ date, Text.isBlank c = false)
        (h : Coercion.readMomentLayouts? (date ++ ' ' :: t.clock) = some ⟨d, t.whole, none⟩) :
        r.coerce "datetime" (.text (String.ofList (date ++ ' ' :: t.clock))) =
          .accepted (.text (String.ofList (d.isoChars ++ 'T' :: (t.clock ++ ['Z'])))) [] :=
      (coerce_name hr .datetime _).trans
        (Coercion.run_datetime_of_layouts hyear (Coercion.trim_timed hne hdate t) h)
    rw [← List.forall_iff_forall_mem]
    exact ⟨hread (by simp [Date.yearFirst]) (fun _ => Date.not_isBlank_of_mem_marked hdash)
        (Calendar.readMomentLayouts?_dashed_clock d t),
      hread (by simp [Date.yearFirst]) (fun _ => Date.not_isBlank_of_mem_marked hslash)
        (Calendar.readMomentLayouts?_slashed_clock d t),
      hread (by simp [Date.dayFirst]) (fun _ => Date.not_isBlank_of_mem_marked hslash)
        (Calendar.readMomentLayouts?_dayFirst_clock d t)⟩

theorem dates_read_back_march :
    Conversions.empty.coerce "date" (.text "04-03-2024") = .accepted (.text "2024-03-04") [] ∧
    (∃ e : Date, Conversions.empty.coerce "date" (.text "03/04/2024") = .accepted (.text e.iso) [] ∧
      e.year = 2024 ∧ e.month = 4 ∧ e.day = 3) ∧
    Conversions.empty.coerce "datetime" (.text "04/03/2024 09:05:07") =
      .accepted (.text "2024-03-04T09:05:07Z") [] := by
  obtain ⟨hday, hmonth, htime⟩ := dates_read_back (r := .empty) rfl ⟨2024, 3, 4, by decide⟩
    ⟨9, 5, 7, 0, by decide⟩
  obtain ⟨e, he, hexchanged⟩ := hmonth _ (List.mem_cons_of_mem _ List.mem_cons_self)
  refine ⟨hday _ (List.mem_cons_of_mem _ List.mem_cons_self), ⟨e, he, ?_⟩, ?_⟩
  · rwa [if_neg (by decide)] at hexchanged
  · exact htime (by decide) _ (List.mem_cons_of_mem _ (List.mem_cons_of_mem _ List.mem_cons_self))

end Conversions

end Intake
