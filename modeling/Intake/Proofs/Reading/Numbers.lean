import Intake.Proofs.Reading.Blanks

namespace Intake

namespace Text

variable {s p : List Char} {c : Char}

theorem takeWhile_append_of_blank {q : Char → Bool} (hq : ∀ c, isBlank c = true → q c = false)
    (hp : ∀ c ∈ p, isBlank c = true) (s : List Char) : (s ++ p).takeWhile q = s.takeWhile q := by
  induction s with
  | nil =>
    cases p with
    | nil => rfl
    | cons c p =>
      have hc : ¬q c = true := Bool.eq_false_iff.mp (hq c (hp c List.mem_cons_self))
      exact List.takeWhile_cons_of_neg hc
  | cons c s ih =>
    rw [List.cons_append, List.takeWhile_cons, List.takeWhile_cons, ih]

theorem head?_append_of_blank (hc : isBlank c = false) (hp : ∀ c ∈ p, isBlank c = true) :
    (s ++ p).head? = some c ↔ s.head? = some c := by
  cases s with
  | nil =>
    simp only [List.nil_append, List.head?_nil, reduceCtorEq, iff_false]
    intro h
    rw [hp c (List.mem_of_mem_head? h)] at hc
    cases hc
  | cons d s => rfl

theorem isPrefixOf_append_of_blank {w : List Char} (hw : ∀ c ∈ w, isBlank c = false)
    (hp : ∀ c ∈ p, isBlank c = true) (s : List Char) :
    w.isPrefixOf (s ++ p) = w.isPrefixOf s := by
  induction w generalizing s with
  | nil => rfl
  | cons c w ih =>
    have hc := hw c List.mem_cons_self
    cases s with
    | cons d s =>
      rw [List.cons_append, List.isPrefixOf, List.isPrefixOf, ih (List.forall_mem_of_forall_mem_cons hw)]
    | nil =>
      cases p with
      | nil => rfl
      | cons d p =>
        have hne : (c == d) = false := by
          rw [beq_eq_false_iff_ne]
          rintro rfl
          exact Bool.noConfusion (hc.symm.trans (hp c List.mem_cons_self))
        rw [List.nil_append, List.isPrefixOf_cons_cons, hne]
        rfl

/-- What `trimEnd` takes away is blank. -/
theorem exists_append_trimEnd (s : List Char) :
    ∃ p : List Char, (∀ c ∈ p, isBlank c = true) ∧ s = trimEnd s ++ p := by
  refine ⟨(s.reverse.takeWhile isBlank).reverse, fun c hc => ?_, ?_⟩
  · exact List.mem_takeWhile_imp (List.mem_reverse.mp hc)
  · rw [trimEnd, ← List.reverse_append, List.takeWhile_append_dropWhile, List.reverse_reverse]

theorem isBlank_of_head?_trim (h : (trim s).head? = some c) : isBlank c = false := by
  obtain ⟨p, -, hp⟩ := exists_append_trimEnd (trimStart s)
  obtain ⟨t, ht⟩ := List.head?_eq_some_iff.mp h
  have hhead : (trimStart s).head? = some c := by
    rw [hp]
    exact congrArg (fun l => (l ++ p).head?) ht
  have hc := List.head?_dropWhile_not isBlank s
  rw [← trimStart, hhead] at hc
  simpa using hc

end Text

namespace Json

variable {s p : List Char}

theorem isDigit_of_isBlank {c : Char} (h : Text.isBlank c = true) : isDigit c = false :=
  (Bool.or_eq_false_iff.mp (isStart_of_isBlank h)).1

theorem fractionOf_of_head? (h : ¬s.head? = some '.') : fractionOf s = [] := by
  unfold fractionOf
  split
  · exact absurd List.head?_cons h
  · rfl

/-- What follows the sign of an exponent, if there is one. -/
def unsigned (s : List Char) : List Char :=
  if s.head? = some '-' ∨ s.head? = some '+' then s.drop 1 else s

theorem exponentOf?_cons (e : Char) (s : List Char) :
    exponentOf? (e :: s) =
      if e = 'e' || e = 'E' then
        if ((unsigned s).takeWhile isDigit).isEmpty then none
        else
          let n : Int := natOf ((unsigned s).takeWhile isDigit)
          some (if s.head? = some '-' then -n else n,
            1 + (s.length - (unsigned s).length) + ((unsigned s).takeWhile isDigit).length)
      else none := by
  unfold exponentOf?
  by_cases hm : s.head? = some '-'
  · obtain ⟨t, rfl⟩ := List.head?_eq_some_iff.mp hm
    simp [unsigned]
  by_cases hq : s.head? = some '+'
  · obtain ⟨t, rfl⟩ := List.head?_eq_some_iff.mp hq
    simp [unsigned]
  have hsign : unsigned s = s := if_neg (not_or.mpr ⟨hm, hq⟩)
  rw [hsign, Nat.sub_self]
  dsimp only
  split
  · split
    · exact absurd List.head?_cons hm
    · exact absurd List.head?_cons hq
    · simp
  · rfl

/-- The characters that the fraction of a number takes, its point included. -/
def fractionLength (s : List Char) : Nat :=
  if (fractionOf s).isEmpty then 0 else (fractionOf s).length + 1

def magnitude (s : List Char) : List Char := if s.head? = some '-' then s.drop 1 else s

/-- What follows the digits before the point of a number. -/
def afterWhole (s : List Char) : List Char := (magnitude s).drop (wholeOf (magnitude s)).length

/-- The exponent of a number, after its fraction. -/
def exponentAfter? (s : List Char) : Option (Int × Nat) :=
  exponentOf? ((afterWhole s).drop (fractionLength (afterWhole s)))

/-- How many characters a number takes. -/
def numberLength (s : List Char) : Nat :=
  (if s.head? = some '-' then 1 else 0) + (wholeOf (magnitude s)).length +
    fractionLength (afterWhole s) + (exponentAfter? s).elim 0 Prod.snd

/-- The number that a text starts with. -/
def number (s : List Char) : Except Stop Value :=
  let whole := wholeOf (magnitude s)
  let fraction := fractionOf (afterWhole s)
  if fraction.isEmpty && (exponentAfter? s).isNone then
    if digitLimit < whole.length then .error (.tooManyDigits whole.length)
    else
      let n : Int := natOf whole
      .ok (.int (if s.head? = some '-' then -n else n))
  else
    let scale : Int := (exponentAfter? s).elim 0 Prod.fst - (fraction.length : Int)
    .ok (.float (Binary64.ofDecimal (s.head? = some '-') (natOf (whole ++ fraction)) scale))

theorem readNumber_eq (c : Cursor) :
    readNumber c =
      if (wholeOf (magnitude c.rest)).isEmpty then c.fail .noValue
      else (number c.rest).map fun v => (v, c.advance (numberLength c.rest)) := by
  unfold readNumber
  by_cases hw : (wholeOf (magnitude c.rest)).isEmpty = true
  · exact (if_pos hw).trans (if_pos hw).symm
  refine (if_neg hw).trans (Eq.trans ?_ (if_neg hw).symm)
  by_cases hi : ((fractionOf (afterWhole c.rest)).isEmpty && (exponentAfter? c.rest).isNone) = true
  · refine (if_pos hi).trans ?_
    by_cases hd : digitLimit < (wholeOf (magnitude c.rest)).length
    · rw [number, if_pos hi, if_pos hd]
      exact if_pos hd
    · rw [number, if_pos hi, if_neg hd]
      exact if_neg hd
  · refine (if_neg hi).trans ?_
    rw [number, if_neg hi]
    rfl

theorem length_wholeOf_le (s : List Char) : (wholeOf s).length ≤ s.length := by
  unfold wholeOf
  split
  · simp
  · exact (List.takeWhile_prefix _).length_le

theorem fractionLength_le (s : List Char) : fractionLength s ≤ s.length := by
  unfold fractionLength
  split_ifs with h
  · exact Nat.zero_le _
  · by_cases hpoint : s.head? = some '.'
    · obtain ⟨t, rfl⟩ := List.head?_eq_some_iff.mp hpoint
      exact Nat.succ_le_succ (List.takeWhile_prefix _).length_le
    · rw [fractionOf_of_head? hpoint] at h
      exact absurd rfl h

theorem length_of_exponentOf? {n : Int} {k : Nat} (h : exponentOf? s = some (n, k)) :
    k ≤ s.length := by
  cases s with
  | nil => cases h
  | cons e s =>
    have htake := (List.takeWhile_prefix (l := unsigned s) isDigit).length_le
    have hsign : (unsigned s).length ≤ s.length := by
      unfold unsigned
      split_ifs
      · exact (List.drop_suffix 1 s).length_le
      · exact Nat.le_refl _
    rw [exponentOf?_cons] at h
    split_ifs at h <;>
    · obtain ⟨-, rfl⟩ := Prod.mk.inj (Option.some.inj h)
      rw [List.length_cons]
      omega

/-- A number takes a character at least, and no more than there are. -/
theorem numberLength_le (h : ¬(wholeOf (magnitude s)).isEmpty = true) :
    0 < numberLength s ∧ numberLength s ≤ s.length := by
  have hwhole : 0 < (wholeOf (magnitude s)).length := by
    simpa [List.length_pos_iff] using h
  have hsign : (if s.head? = some '-' then 1 else 0) + (magnitude s).length = s.length := by
    unfold magnitude
    split_ifs with hm
    · obtain ⟨t, rfl⟩ := List.head?_eq_some_iff.mp hm
      exact Nat.add_comm 1 t.length
    · exact Nat.zero_add _
  have hle := length_wholeOf_le (magnitude s)
  have hafter : (afterWhole s).length = (magnitude s).length - (wholeOf (magnitude s)).length :=
    List.length_drop
  have hfraction := fractionLength_le (afterWhole s)
  have hexponent : (exponentAfter? s).elim 0 Prod.snd ≤
      (afterWhole s).length - fractionLength (afterWhole s) := by
    rw [← List.length_drop]
    cases he : exponentAfter? s with
    | none => exact Nat.zero_le _
    | some e => exact length_of_exponentOf? he
  unfold numberLength
  omega

section

variable (hp : ∀ c ∈ p, Text.isBlank c = true)
include hp

theorem wholeOf_append_of_blank (s : List Char) : wholeOf (s ++ p) = wholeOf s := by
  have htake := Text.takeWhile_append_of_blank (fun _ => isDigit_of_isBlank) hp s
  have hzero : (s ++ p).head? = some '0' ↔ s.head? = some '0' :=
    Text.head?_append_of_blank (by decide) hp
  unfold wholeOf
  split
  · next heq =>
    rw [heq, List.head?_cons] at hzero
    obtain ⟨t, rfl⟩ := List.head?_eq_some_iff.mp (hzero.mp rfl)
    rfl
  · next hne =>
    split
    · next heq =>
      obtain ⟨t, ht⟩ := List.head?_eq_some_iff.mp (hzero.mpr (by rw [List.head?_cons]))
      exact absurd ht (hne t)
    · exact htake

theorem fractionOf_append_of_blank (s : List Char) : fractionOf (s ++ p) = fractionOf s := by
  have hpoint : (s ++ p).head? = some '.' ↔ s.head? = some '.' :=
    Text.head?_append_of_blank (by decide) hp
  by_cases h : s.head? = some '.'
  · obtain ⟨t, rfl⟩ := List.head?_eq_some_iff.mp h
    exact Text.takeWhile_append_of_blank (fun _ => isDigit_of_isBlank) hp t
  · rw [fractionOf_of_head? h, fractionOf_of_head? (mt hpoint.mp h)]

theorem unsigned_append_of_blank (s : List Char) : unsigned (s ++ p) = unsigned s ++ p := by
  unfold unsigned
  simp only [Text.head?_append_of_blank (by decide : Text.isBlank '-' = false) hp,
    Text.head?_append_of_blank (by decide : Text.isBlank '+' = false) hp]
  split_ifs with h
  · obtain ⟨c, t, rfl⟩ := List.exists_cons_of_ne_nil (fun hnil : s = [] => by simp [hnil] at h)
    rfl
  · rfl

theorem exponentOf?_append_of_blank (s : List Char) : exponentOf? (s ++ p) = exponentOf? s := by
  cases s with
  | nil =>
    cases p with
    | nil => rfl
    | cons c p =>
      have hc (x : Char) (hx : Text.isBlank x = false) : c ≠ x := by
        rintro rfl
        exact Bool.noConfusion (hx.symm.trans (hp c List.mem_cons_self))
      have hmark : ¬(decide (c = 'e') || decide (c = 'E')) = true := by
        simp [hc 'e' (by decide), hc 'E' (by decide)]
      exact if_neg hmark
  | cons e s =>
    have htake := Text.takeWhile_append_of_blank (fun _ => isDigit_of_isBlank) hp
    have hlength : (s ++ p).length - (unsigned s ++ p).length = s.length - (unsigned s).length := by
      rw [List.length_append, List.length_append, Nat.add_sub_add_right]
    simp only [List.cons_append, exponentOf?_cons, unsigned_append_of_blank hp, htake, hlength,
      Text.head?_append_of_blank (by decide : Text.isBlank '-' = false) hp]

theorem magnitude_append_of_blank (s : List Char) : magnitude (s ++ p) = magnitude s ++ p := by
  have hsign : (s ++ p).head? = some '-' ↔ s.head? = some '-' :=
    Text.head?_append_of_blank (by decide) hp
  unfold magnitude
  simp only [hsign]
  split_ifs with h
  · obtain ⟨t, rfl⟩ := List.head?_eq_some_iff.mp h
    rfl
  · rfl

theorem afterWhole_append_of_blank (s : List Char) : afterWhole (s ++ p) = afterWhole s ++ p := by
  rw [afterWhole, magnitude_append_of_blank hp, wholeOf_append_of_blank hp,
    List.drop_append_of_le_length (length_wholeOf_le _), afterWhole]

theorem fractionLength_append_of_blank (s : List Char) :
    fractionLength (s ++ p) = fractionLength s := by
  rw [fractionLength, fractionOf_append_of_blank hp, fractionLength]

theorem exponentAfter?_append_of_blank (s : List Char) :
    exponentAfter? (s ++ p) = exponentAfter? s := by
  rw [exponentAfter?, afterWhole_append_of_blank hp, fractionLength_append_of_blank hp,
    List.drop_append_of_le_length (fractionLength_le _), exponentOf?_append_of_blank hp,
    exponentAfter?]

theorem numberLength_append_of_blank (s : List Char) : numberLength (s ++ p) = numberLength s := by
  have hsign : (s ++ p).head? = some '-' ↔ s.head? = some '-' :=
    Text.head?_append_of_blank (by decide) hp
  unfold numberLength
  simp only [hsign, magnitude_append_of_blank hp, wholeOf_append_of_blank hp,
    afterWhole_append_of_blank hp, fractionLength_append_of_blank hp,
    exponentAfter?_append_of_blank hp]

theorem number_append_of_blank (s : List Char) : number (s ++ p) = number s := by
  have hsign : (s ++ p).head? = some '-' ↔ s.head? = some '-' :=
    Text.head?_append_of_blank (by decide) hp
  unfold number
  simp only [hsign, magnitude_append_of_blank hp, wholeOf_append_of_blank hp,
    afterWhole_append_of_blank hp, fractionOf_append_of_blank hp,
    exponentAfter?_append_of_blank hp]

end

end Json

end Intake
