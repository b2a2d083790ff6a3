import Intake.Proofs.Coercion.Standard

namespace Intake

namespace Text

/-- Only the first of all characters has a zero among its octets. -/
theorem zero_not_mem_utf8EncodeChar {c : Char} (hc : c ≠ '\x00') : 0 ∉ String.utf8EncodeChar c := by
  have hpos : 0 < c.val.toNat := Nat.pos_of_ne_zero fun hzero => hc (Char.toNat_inj.mp hzero)
  rw [String.utf8EncodeChar]
  split_ifs <;>
  · simp only [List.mem_cons, List.not_mem_nil, or_false, ← UInt8.toNat_inj, UInt8.toNat_ofNat',
      UInt8.reduceToNat]
    omega

theorem length_le_utf8 (s : List Char) : s.length ≤ (s.flatMap String.utf8EncodeChar).length := by
  induction s with
  | nil => rfl
  | cons c s ih =>
    have hc := c.utf8Size_pos
    rw [List.flatMap_cons, List.length_append, String.length_utf8EncodeChar, List.length_cons]
    omega

end Text

namespace Calendar.Iso

/-- Octets of a text whose last character is a line feed. A zero would be taken for the end of the text. -/
structure EndsInBreak (s : List UInt8) : Prop where
  last : s.getLast? = some 10
  nonzero : 0 ∉ s

namespace EndsInBreak

variable {s rest : List UInt8} {c c' : Clock} {separated : Bool} {count n room left : Nat}

theorem drop (h : EndsInBreak s) (hn : n < s.length) : EndsInBreak (s.drop n) where
  last := by rw [List.getLast?_drop, if_neg (Nat.not_le.mpr hn), h.last]
  nonzero := fun hzero => h.nonzero (List.mem_of_mem_drop hzero)

theorem dropWhile (h : EndsInBreak s) : EndsInBreak (s.dropWhile isDigit) := by
  obtain ⟨t, rfl⟩ := List.getLast?_eq_some_iff.mp h.last
  have hkept : (t ++ [10]).dropWhile isDigit = t.dropWhile isDigit ++ [10] := by
    rw [List.dropWhile_append]
    split_ifs with hall
    · rw [List.isEmpty_iff.mp hall]
      rfl
    · rfl
  refine ⟨by rw [hkept, List.getLast?_concat], fun hzero => h.nonzero ?_⟩
  exact (List.dropWhile_sublist isDigit).subset hzero

theorem exists_cons (h : EndsInBreak s) : ∃ b t, s = b :: t ∧ b ≠ 0 := by
  cases s with
  | nil => cases h.last
  | cons b t => exact ⟨b, t, rfl, fun hzero => h.nonzero (hzero ▸ List.mem_cons_self)⟩

theorem peek_ne_zero (h : EndsInBreak s) : peek s ≠ 0 := by
  obtain ⟨b, t, rfl, hb⟩ := h.exists_cons
  exact hb

/-- What stands before the line feed can be dropped one by one. -/
theorem tail (h : EndsInBreak s) (hbreak : peek s ≠ 10) : EndsInBreak (s.drop 1) := by
  obtain ⟨b, t, rfl, -⟩ := h.exists_cons
  refine h.drop ?_
  cases t with
  | nil => exact absurd (Option.some.inj h.last) hbreak
  | cons d t => exact Nat.succ_lt_succ (Nat.succ_pos _)

/-- A number ends before the line feed. -/
theorem digits? (h : EndsInBreak s) (hread : digits? count s = some (n, rest)) : EndsInBreak rest := by
  unfold Iso.digits? at hread
  dsimp only at hread
  split_ifs at hread with hdigits
  obtain ⟨-, rfl⟩ := Prod.mk.inj (Option.some.inj hread)
  rw [Bool.and_eq_true, decide_eq_true_eq, List.all_eq_true] at hdigits
  refine h.drop (Nat.not_le.mp fun hle => ?_)
  have hlast := hdigits.2 10
  rw [List.take_of_length_le hle] at hlast
  exact absurd (hlast (List.mem_of_getLast? h.last)) (by decide)

theorem fraction? (h : EndsInBreak s) (hread : fraction? c s room = some c') : c'.complete = false := by
  unfold Iso.fraction? at hread
  rw [Option.bind_eq_bind, Option.bind_eq_some_iff] at hread
  obtain ⟨⟨n, rest⟩, hdigits, hread⟩ := hread
  rw [← Option.some.inj hread]
  exact decide_eq_false (h.digits? hdigits).dropWhile.peek_ne_zero

/-- A clock leaves a line feed over, whichever of its fields is the last. -/
theorem clockFrom? (h : EndsInBreak s) (hread : clockFrom? separated c s room left = some c') :
    c'.complete = false := by
  induction left generalizing separated c s room with
  | zero => exact h.fraction? hread
  | succ left ih =>
    rw [Iso.clockFrom?, Option.bind_eq_bind, Option.bind_eq_some_iff] at hread
    obtain ⟨⟨n, rest⟩, hdigits, hread⟩ := hread
    have hrest := h.digits? hdigits
    -- Which separator the clock has is decided here, and makes no difference to where it ends.
    dsimp only at hread
    generalize decide (if 2 - left = 0 then peek rest = 58 else separated = true) = separated at hread
    split_ifs at hread with hroom hcolon hpoint hjoined
    · rw [← Option.some.inj hread]
      exact decide_eq_false hrest.peek_ne_zero
    · have hcolon : peek rest = 58 := of_decide_eq_true (Bool.and_eq_true_iff.mp hcolon).2
      have hbreak : peek rest ≠ 10 := by
        rw [hcolon]
        decide
      exact ih (hrest.tail hbreak) hread
    · rw [Bool.or_eq_true, decide_eq_true_eq, decide_eq_true_eq] at hpoint
      have hbreak : peek rest ≠ 10 := by
        rcases hpoint with hpoint | hpoint <;>
        · rw [hpoint]
          decide
      exact (hrest.tail hbreak).fraction? hread
    · exact ih hrest hread

theorem clock? (h : EndsInBreak s) (hread : clock? s room = some c) : c.complete = false :=
  h.clockFrom? hread

/-- No time of day, with or without an offset, is read out of a text that ends in a line feed. -/
theorem time? (h : EndsInBreak s) : time? s = none := by
  rw [Option.eq_none_iff_forall_ne_some]
  intro result hread
  unfold Iso.time? at hread
  dsimp only at hread
  rw [Option.bind_eq_bind, Option.bind_eq_some_iff] at hread
  obtain ⟨c, hclock, hread⟩ := hread
  have hopen := h.clock? hclock
  split at hread
  · rw [if_neg (by simp [hopen])] at hread
    cases hread
  · rename_i mark rest hdrop
    have hlen := congrArg List.length hdrop
    rw [List.length_drop, List.length_cons] at hlen
    have hmark : EndsInBreak (mark :: rest) := hdrop ▸ h.drop (by omega)
    cases rest with
    | nil =>
      obtain rfl : mark = 10 := Option.some.inj hmark.last
      rw [if_neg (by decide)] at hread
      cases hread
    | cons b rest =>
      have hrest : EndsInBreak (b :: rest) :=
        hmark.drop (Nat.succ_lt_succ (Nat.succ_pos rest.length))
      by_cases hutc : mark = 90
      · rw [if_pos hutc, if_neg (List.cons_ne_nil b rest)] at hread
        cases hread
      · rw [if_neg hutc, Option.bind_eq_some_iff] at hread
        obtain ⟨o, ho, hread⟩ := hread
        rw [if_pos (by simp [hrest.clock? ho])] at hread
        cases hread

end EndsInBreak

theorem dateLength_le (s : List UInt8) : dateLength s ≤ 10 := by
  unfold dateLength
  dsimp only
  split_ifs <;> omega

theorem EndsInBreak.dropChar {s : List UInt8} (h : EndsInBreak s) (hlen : 4 < s.length) :
    EndsInBreak (dropChar s) := by
  unfold Iso.dropChar
  dsimp only
  split_ifs <;> exact h.drop (by omega)

/-- A text that goes on after its date and ends in a line feed is no moment in any of the standard's forms. -/
theorem moment?_of_endsInBreak {s : String} (h : EndsInBreak s.toUTF8.toList)
    (hlen : 14 < s.toUTF8.toList.length) : moment? s = none := by
  have hdate := dateLength_le s.toUTF8.toList
  have htime : EndsInBreak (dropChar (s.toUTF8.toList.drop (dateLength s.toUTF8.toList))) := by
    refine (h.drop (by omega)).dropChar ?_
    rw [List.length_drop]
    omega
  unfold moment?
  dsimp only
  rw [if_neg (by omega), htime.time?]
  cases date? s.toUTF8.toList (dateLength s.toUTF8.toList) with
  | none => rfl
  | some date => exact if_neg (by omega)

/-- A text of characters other than zero, followed by a line feed. -/
theorem endsInBreak_concat {t : List Char} (h : ∀ c ∈ t, c ≠ '\x00') :
    EndsInBreak (String.ofList (t ++ ['\n'])).toUTF8.toList := by
  have hoctets : (String.ofList (t ++ ['\n'])).toUTF8.toList = t.flatMap String.utf8EncodeChar ++ [10] := by
    rw [Text.toUTF8_ofList, List.flatMap_append]
    rfl
  rw [hoctets]
  refine ⟨List.getLast?_concat, fun hzero => ?_⟩
  rcases List.mem_append.mp hzero with hzero | hzero
  · obtain ⟨c, hc, hzero⟩ := List.mem_flatMap.mp hzero
    exact Text.zero_not_mem_utf8EncodeChar (h c hc) hzero
  · exact absurd (List.mem_singleton.mp hzero) (by decide)

end Calendar.Iso

end Intake
