import Intake.Proofs.Coercion.Integers
import Intake.Proofs.Reading.Keyed
import Intake.Proofs.Reading.Scalars
import Intake.Proofs.Run.Lines

namespace Intake

namespace Text

variable {c : Char} {s rest ds : List Char} {n : Nat}

/-- Zero alone, or digits of which the first is one of 1 to 9. Those behind it may be of any script. -/
inductive IsWhole : List Char → Prop where
  | zero : IsWhole ['0']
  | digits {c : Char} {ds : List Char} (hlow : '1' ≤ c) (hhigh : c ≤ '9')
      (hds : ∀ d ∈ ds, isDigit d = true) : IsWhole (c :: ds)

/-- A digit of any script as the one of ASCII, and any other character as it is. -/
def inAscii (c : Char) : Char := ((digitValue? c).map Nat.digitChar).getD c

theorem toNat_of_between (hlow : '1' ≤ c) (hhigh : c ≤ '9') : 49 ≤ c.toNat ∧ c.toNat ≤ 57 := by
  rw [Char.le_def, UInt32.le_iff_toNat_le] at hlow hhigh
  exact ⟨hlow, hhigh⟩

theorem digitValue?_of_range (h : 48 ≤ c.toNat ∧ c.toNat ≤ 57) : digitValue? c = some (c.toNat - 48) := by
  rw [digitValue?, if_pos (by omega), if_pos h]

theorem inAscii_of_lt (h : c.toNat < 128) : inAscii c = c := by
  rw [inAscii, digitValue?, if_pos h]
  split_ifs with hdigit
  · refine Char.toNat_inj.mp ?_
    rw [Option.map_some, Option.getD_some, Nat.toNat_digitChar_of_lt_ten (by omega)]
    omega
  · rfl

theorem digitValue?_lt {d : Nat} (h : digitValue? c = some d) : d < 10 := by
  rw [digitValue?] at h
  split_ifs at h with hascii hdigit
  · obtain rfl := Option.some.inj h
    omega
  · obtain ⟨z, hz, rfl⟩ := Option.map_eq_some_iff.mp h
    have hbetween := List.find?_some hz
    rw [Bool.and_eq_true, decide_eq_true_eq, decide_eq_true_eq] at hbetween
    omega

theorem IsWhole.exists_cons (h : IsWhole s) : ∃ c ds, s = c :: ds ∧ 48 ≤ c.toNat ∧ c.toNat ≤ 57 := by
  cases h with
  | zero => exact ⟨'0', [], rfl, by decide, by decide⟩
  | @digits c ds hlow hhigh =>
    have hc := toNat_of_between hlow hhigh
    exact ⟨c, ds, rfl, by omega, hc.2⟩

theorem IsWhole.ne_nil (h : IsWhole s) : s ≠ [] := by
  obtain ⟨c, ds, rfl, -⟩ := h.exists_cons
  exact List.cons_ne_nil _ _

theorem IsWhole.isDigit (h : IsWhole s) : ∀ c ∈ s, isDigit c = true := by
  cases h with
  | zero => exact List.forall_mem_singleton.mpr rfl
  | digits hlow hhigh hds =>
    have hc := toNat_of_between hlow hhigh
    refine List.forall_mem_cons.mpr ⟨?_, hds⟩
    rw [Text.isDigit, digitValue?_of_range ⟨by omega, hc.2⟩, Option.isSome_some]

theorem digitsValue_concat (ds : List Char) (d : Char) :
    digitsValue (ds ++ [d]) = 10 * digitsValue ds + (digitValue? d).getD 0 := by
  rw [digitsValue, List.foldl_concat, ← digitsValue]

/-- Digits of which the first is no zero are the decimal digits of the number that they denote. -/
theorem natText_of_digits (hlow : '1' ≤ c) (hhigh : c ≤ '9') (hds : ∀ d ∈ ds, isDigit d = true) :
    0 < digitsValue (c :: ds) ∧ Value.natText (digitsValue (c :: ds)) = (c :: ds).map inAscii := by
  have hc := toNat_of_between hlow hhigh
  -- One digit after another is taken from the end, and what stands before it is not zero.
  induction ds using List.reverseRecOn with
  | nil =>
    have hvalue : digitsValue [c] = c.toNat - 48 := by
      have h := digitsValue_concat [] c
      rw [digitValue?_of_range ⟨by omega, hc.2⟩] at h
      exact h.trans (Nat.zero_add _)
    refine ⟨by omega, ?_⟩
    rw [Value.natText, hvalue, Nat.toDigits_of_lt_base (by omega), List.map_singleton, inAscii,
      digitValue?_of_range ⟨by omega, hc.2⟩]
    rfl
  | append_singleton ds d ih =>
    obtain ⟨hpos, htext⟩ := ih fun e he => hds e (List.mem_append_left _ he)
    obtain ⟨v, hv⟩ := Option.isSome_iff_exists.mp (hds d (List.mem_append_right _ List.mem_cons_self))
    have hlt := digitValue?_lt hv
    have hvalue : digitsValue (c :: (ds ++ [d])) = 10 * digitsValue (c :: ds) + v := by
      have h := digitsValue_concat (c :: ds) d
      rwa [hv] at h
    refine ⟨by omega, ?_⟩
    rw [Value.natText, hvalue, ← Nat.toDigits_append_toDigits (by decide) hpos hlt,
      Nat.toDigits_of_lt_base hlt, ← Value.natText, htext, ← List.cons_append, List.map_append,
      List.map_singleton, inAscii, hv]
    rfl

theorem natText_digitsValue (h : IsWhole s) : Value.natText (digitsValue s) = s.map inAscii := by
  cases h with
  | zero => rfl
  | digits hlow hhigh hds => exact (natText_of_digits hlow hhigh hds).2

theorem digitsValue_eq_zero_iff (h : IsWhole s) : digitsValue s = 0 ↔ s = ['0'] := by
  cases h with
  | zero => exact iff_of_true rfl rfl
  | digits hlow hhigh hds =>
    have hpos := (natText_of_digits hlow hhigh hds).1
    refine iff_of_false (by omega) fun hzero => ?_
    obtain ⟨rfl, -⟩ := List.cons.inj hzero
    exact absurd hlow (by decide)

theorem lower_cons_of_lt (h : c.toNat < 65) (s : List Char) : lower (c :: s) = c :: lowerAfter [c] s := by
  rw [lower, lowerAfter, if_neg (by omega), lowerChar, if_pos (by omega), toLower_of_lt h]
  rfl

end Text

namespace Json

open Value

/-- A document that starts with a bracket is an array or an object. -/
theorem isContainer_of_read {s : String} {v : Value}
    (hhead : s.toList.head? = some '\x7b' ∨ s.toList.head? = some '[') (h : read s = .ok v) :
    v.isContainer = true := by
  obtain ⟨-, d, hread, -⟩ := document_eq_ok_iff.mp (read_eq_ok_iff.mp h)
  have hpeek {c : Char} (hc : s.toList.head? = some c) (hspace : isSpace c = false) :
      (skipSpace ⟨s.toList, 0⟩).peek? = some c := by
    obtain ⟨t, ht⟩ := List.head?_eq_some_iff.mp hc
    rw [Cursor.peek?, rest_skipSpace, ht, List.dropWhile_cons_of_neg (by simp [hspace]), List.head?_cons]
  rcases hhead with hmap | hlist
  · rw [readValue_map _ _ (hpeek hmap rfl)] at hread
    exact of_container (P := fun v => v.isContainer = true) hread rfl fun _ _ _ => rfl
  · rw [readValue_list _ _ (hpeek hlist rfl)] at hread
    exact of_container (P := fun v => v.isContainer = true) hread rfl fun _ _ _ => rfl

end Json

namespace Form

open Text (IsWhole Denotes inAscii)

variable {s : String} {t ds rest : List Char} {n : Int}

/-- A minus sign or none, and digits that denote a number. More digits than are read make no integer. -/
inductive WritesInteger : List Char → Int → Prop where
  | plain {ds : List Char} {n : Nat} (hds : IsWhole ds) (h : Denotes ds n) (hlen : ds.length ≤ maxDigits) :
      WritesInteger ds n
  | minus {ds : List Char} {n : Nat} (hds : IsWhole ds) (h : Denotes ds n) (hlen : ds.length ≤ maxDigits) :
      WritesInteger ('-' :: ds) (-n)

theorem splitWhole_of_isWhole (h : IsWhole t) : splitWhole t = (t, []) := by
  cases h with
  | zero => rfl
  | @digits c ds hlow hhigh hds =>
    have hne : c ≠ '0' := by
      rintro rfl
      exact absurd hlow (by decide)
    have hrange : ('1' ≤ c && c ≤ '9') = true := by simp [hlow, hhigh]
    rw [splitWhole, if_neg hne, if_pos hrange, List.takeWhile_eq_self_iff.mpr hds,
      List.dropWhile_eq_nil_iff.mpr hds]

theorem isWhole_of_splitWhole {whole : List Char} (h : splitWhole t = (whole, [])) (hne : whole ≠ []) :
    IsWhole t := by
  cases t with
  | nil =>
    obtain ⟨rfl, -⟩ := Prod.mk.inj h
    exact absurd rfl hne
  | cons c rest =>
    rw [splitWhole] at h
    split_ifs at h with hzero hrange
    · obtain ⟨-, rfl⟩ := Prod.mk.inj h
      exact hzero ▸ .zero
    · obtain ⟨-, hrest⟩ := Prod.mk.inj h
      rw [Bool.and_eq_true, decide_eq_true_eq, decide_eq_true_eq] at hrange
      exact .digits hrange.1 hrange.2 (List.dropWhile_eq_nil_iff.mp hrest)
    · cases (Prod.mk.inj h).2

theorem ne_minus_of_isWhole (h : IsWhole t) (rest : List Char) : t ≠ '-' :: rest := by
  rintro rfl
  obtain ⟨c, ds, hcons, hlow, -⟩ := h.exists_cons
  obtain ⟨rfl, -⟩ := List.cons.inj hcons
  exact absurd hlow (by decide)

theorem withoutMinus_of_isWhole (h : IsWhole t) : withoutMinus t = t :=
  withoutMinus.eq_2 _ (ne_minus_of_isWhole h)

theorem isIntegerText_iff {l : List Char} :
    isIntegerText l = true ↔ IsWhole (withoutMinus (NamedFormat.withoutFinalBreak l)) := by
  unfold isIntegerText
  rcases hsplit : splitWhole (withoutMinus (NamedFormat.withoutFinalBreak l)) with ⟨whole, rest⟩
  dsimp only
  rw [Bool.and_eq_true, Bool.not_eq_true', List.isEmpty_eq_false_iff, List.isEmpty_iff]
  constructor
  · rintro ⟨hne, rfl⟩
    exact isWhole_of_splitWhole hsplit hne
  · intro h
    obtain ⟨rfl, rfl⟩ := Prod.mk.inj (hsplit.symm.trans (splitWhole_of_isWhole h))
    exact ⟨h.ne_nil, rfl⟩

theorem not_isWhole_of_lt {c : Char} (hc : c.toNat < 48) : ¬IsWhole (c :: rest) := by
  intro h
  obtain ⟨d, ds, hcons, hlow, -⟩ := h.exists_cons
  obtain ⟨rfl, -⟩ := List.cons.inj hcons
  omega

/-- The texts that write an integer are those that are read as one and have neither a plus sign, nor leading
zeros, nor too many digits. -/
theorem writesInteger_iff : WritesInteger t n ↔
    IsWhole (withoutMinus t) ∧ (withoutMinus t).length ≤ maxDigits ∧ Text.IsInteger t n := by
  constructor
  · rintro (⟨hds, h, hlen⟩ | ⟨hds, h, hlen⟩)
    · rw [withoutMinus_of_isWhole hds]
      exact ⟨hds, hlen, .unsigned h⟩
    · exact ⟨hds, hlen, .minus h⟩
  · rintro ⟨hwhole, hlen, h | h | h⟩
    · have hminus : withoutMinus t = t := by
        refine withoutMinus.eq_2 _ ?_
        rintro rest rfl
        exact absurd (h.isDigit '-' List.mem_cons_self) (by decide)
      rw [hminus] at hwhole hlen
      exact .plain hwhole h hlen
    · exact absurd hwhole (not_isWhole_of_lt (by decide))
    · exact .minus hwhole h hlen

theorem integerOf_eq_int_iff {l : List Char} (hwhole : isIntegerText l = true) :
    integerOf l = .int n ↔ WritesInteger (NamedFormat.withoutFinalBreak l) n := by
  rw [writesInteger_iff, ← isIntegerText_iff, ← Coercion.readInt?_eq_some_iff, integerOf]
  split_ifs with hlen
  · exact iff_of_false not_false fun h => absurd h.2.1 (Nat.not_le.mpr hlen)
  · cases hread : Coercion.readInt? (NamedFormat.withoutFinalBreak l) with
    | none => simp
    | some m => simp [hwhole, Nat.not_lt.mp hlen]

/-- A text that is no word, and starts with a minus sign or a digit. -/
theorem WritesInteger.exists_cons (h : WritesInteger t n) : ∃ c rest, t = c :: rest ∧ c.toNat < 65 := by
  cases h with
  | plain hds =>
    obtain ⟨c, rest, rfl, -, hhigh⟩ := hds.exists_cons
    exact ⟨c, rest, rfl, by omega⟩
  | @minus ds => exact ⟨'-', ds, rfl, by decide⟩

theorem WritesInteger.isIntegerText {l : List Char}
    (h : WritesInteger (NamedFormat.withoutFinalBreak l) n) : isIntegerText l = true :=
  isIntegerText_iff.mpr (writesInteger_iff.mp h).1

theorem WritesInteger.retype_eq (h : WritesInteger (NamedFormat.withoutFinalBreak s.toList) n) :
    retype s = .ok (.int n) := by
  obtain ⟨c, rest, hcons, hc⟩ := h.exists_cons
  have hstart : ∃ more, s.toList = c :: more := by
    rcases NamedFormat.eq_or_eq_concat s.toList with hsame | hconcat
    · exact ⟨rest, hsame.symm.trans hcons⟩
    · exact ⟨rest ++ ['\n'], by rw [hconcat, hcons, List.cons_append]⟩
  obtain ⟨more, hmore⟩ := hstart
  have hword (w : String) (hw : w.toList.head?.all (64 < ·.toNat) = true) :
      String.ofList (Text.lower s.toList) ≠ w := by
    rintro rfl
    rw [hmore, String.toList_ofList, Text.lower_cons_of_lt hc, List.head?_cons, Option.all_some,
      decide_eq_true_eq] at hw
    omega
  unfold retype
  dsimp only
  rw [if_neg (hword "true" (by decide)), if_neg (hword "false" (by decide)),
    if_neg (hword "null" (by decide)), if_pos h.isIntegerText, (integerOf_eq_int_iff h.isIntegerText).mpr h]

/-- A text stands for an integer just when it writes one, a line break at its end aside. -/
theorem retype_eq_int_iff :
    retype s = .ok (.int n) ↔ WritesInteger (NamedFormat.withoutFinalBreak s.toList) n := by
  refine ⟨fun h => ?_, WritesInteger.retype_eq⟩
  unfold retype at h
  dsimp only at h
  split at h
  · cases h
  split at h
  · cases h
  split at h
  · cases h
  split at h
  · next hinteger => exact (integerOf_eq_int_iff hinteger).mp (Except.ok.inj h)
  split at h
  · unfold fractionOf at h
    split at h <;> cases h
  split at h
  · next hhead =>
    split at h
    · next v hread =>
      obtain rfl := Except.ok.inj h
      have hcontainer := Json.isContainer_of_read (by simpa using hhead) hread
      cases hcontainer
    · cases h
    · cases h
  · cases h

/-- The decimal text of the integer that a text writes is that text with its digits in ASCII, but for the
sign of zero. -/
theorem WritesInteger.intText_eq (h : WritesInteger t n) :
    t = ['-', '0'] ∧ Value.intText n = ['0'] ∨ t ≠ ['-', '0'] ∧ Value.intText n = t.map inAscii := by
  cases h with
  | @plain ds m hds h =>
    obtain rfl := h.digitsValue
    refine .inr ⟨ne_minus_of_isWhole hds _, ?_⟩
    rw [Value.intText, if_neg (by omega), Int.natAbs_natCast, Text.natText_digitsValue hds]
  | @minus ds m hds h =>
    obtain rfl := h.digitsValue
    by_cases hzero : ds = ['0']
    · subst hzero
      exact .inl ⟨rfl, rfl⟩
    · have hne := mt (Text.digitsValue_eq_zero_iff hds).mp hzero
      refine .inr ⟨fun heq => hzero (List.cons.inj heq).2, ?_⟩
      rw [Value.intText, if_pos (by omega), Int.natAbs_neg, Int.natAbs_natCast, Text.natText_digitsValue hds]
      rfl

/-- A text is retyped to an integer just when it is a minus sign or none, digits of any script without leading
zeros, and a line feed or none. It is the decimal text of that integer just when it has no line feed, no
digits beyond ASCII and no sign of zero. -/
theorem integer_retyped_losslessly_iff (s : String) (n : Int) :
    (retype s = .ok (.int n) ↔ WritesInteger (NamedFormat.withoutFinalBreak s.toList) n) ∧
    (retype s = .ok (.int n) →
      (String.ofList (Value.intText n) = s ↔
        s.toList.getLast? ≠ some '\n' ∧ (∀ c ∈ s.toList, c.toNat < 128) ∧ s ≠ "-0")) := by
  refine ⟨retype_eq_int_iff, fun h => ?_⟩
  have htext := (retype_eq_int_iff.mp h).intText_eq
  constructor
  · intro hsame
    have hlist : s.toList = Value.intText n := by rw [← hsame, String.toList_ofList]
    rw [hlist] at htext ⊢
    rw [withoutFinalBreak_intText] at htext
    refine ⟨fun hlast => ?_, fun c hc => ?_, ?_⟩
    · exact absurd (Value.toNat_of_mem_intText (List.mem_of_getLast? hlast)) (by decide)
    · have hrange := Value.toNat_of_mem_intText hc
      omega
    · rintro rfl
      rcases htext with ⟨hzero, hvalue⟩ | ⟨hne, -⟩
      · cases hzero.symm.trans hvalue
      · exact hne hlist.symm
  · rintro ⟨hlast, hascii, hzero⟩
    have hwhole : NamedFormat.withoutFinalBreak s.toList = s.toList := if_neg hlast
    rw [hwhole] at htext
    rcases htext with ⟨hsign, -⟩ | ⟨-, hvalue⟩
    · exact absurd (String.toList_inj.mp hsign) hzero
    · rw [hvalue, (List.map_congr_left fun c hc => Text.inAscii_of_lt (hascii c hc)).trans (List.map_id _),
        String.ofList_toList]

/-- A line feed behind a number is lost. -/
example : retype "12\n" = .ok (.int 12) := rfl

/-- A number with a sign. -/
theorem integer_retyped_losslessly_iff_signed :
    retype "-402" = .ok (.int (-402)) ∧ String.ofList (Value.intText (-402)) = "-402" := by
  have hread : retype "-402" = .ok (.int (-402)) := rfl
  have hascii : ∀ c ∈ "-402".toList, c.toNat < 128 := by simp
  exact ⟨hread, ((integer_retyped_losslessly_iff "-402" (-402)).2 hread).mpr ⟨by decide, hascii, by decide⟩⟩

end Form

end Intake
