import Intake.Proofs.Coercion.Soundness
import Intake.Proofs.Reading.Numbers

namespace Intake

namespace Text

variable {c : Char} {core s p ds : List Char} {n : Nat}

/-- A text with blanks around it, or none. -/
def Surrounded (core s : List Char) : Prop :=
  ∃ before after : List Char, (∀ c ∈ before, isBlank c = true) ∧ (∀ c ∈ after, isBlank c = true) ∧
    s = before ++ core ++ after

/-- A row of digits of any script, and the number that it denotes in decimal notation. -/
structure Denotes (ds : List Char) (n : Nat) : Prop where
  some_digit : ds ≠ []
  value : ∃ values : List Nat, ds.map digitValue? = values.map some ∧
    n = Nat.ofDigits 10 values.reverse

/-- A sign or none, then digits, and the integer that they denote. -/
inductive IsInteger : List Char → Int → Prop where
  | unsigned {ds : List Char} {n : Nat} (h : Denotes ds n) : IsInteger ds n
  | plus {ds : List Char} {n : Nat} (h : Denotes ds n) : IsInteger ('+' :: ds) n
  | minus {ds : List Char} {n : Nat} (h : Denotes ds n) : IsInteger ('-' :: ds) (-n)

theorem trimStart_append_of_blank (hp : ∀ c ∈ p, isBlank c = true) (s : List Char) :
    trimStart (p ++ s) = trimStart s := by
  rw [trimStart, List.dropWhile_append_of_pos hp, trimStart]

theorem trimEnd_append_of_blank (hp : ∀ c ∈ p, isBlank c = true) (s : List Char) :
    trimEnd (s ++ p) = trimEnd s := by
  have hreverse : ∀ c ∈ p.reverse, isBlank c = true := fun c hc => hp c (List.mem_reverse.mp hc)
  rw [trimEnd, List.reverse_append, List.dropWhile_append_of_pos hreverse, trimEnd]

/-- Blanks around a text make no difference to what is left of it. -/
theorem trim_of_surrounded (h : Surrounded core s) : trim s = trim core := by
  obtain ⟨before, after, hbefore, hafter, rfl⟩ := h
  rw [trim, List.append_assoc, trimStart_append_of_blank hbefore, trimStart, List.dropWhile_append]
  split_ifs with hall
  · -- Nothing but blanks: there is nothing left with either.
    have hstart : trimStart core = [] := List.isEmpty_iff.mp hall
    have hend : after.dropWhile isBlank = [] := List.dropWhile_eq_nil_iff.mpr hafter
    rw [trim, hstart, hend]
  · exact trimEnd_append_of_blank hafter _

theorem Surrounded.refl (s : List Char) : Surrounded s s :=
  ⟨[], [], List.forall_mem_nil _, List.forall_mem_nil _, by simp⟩

theorem surrounded_trim (s : List Char) : Surrounded (trim s) s := by
  obtain ⟨after, hafter, hstart⟩ := exists_append_trimEnd (trimStart s)
  refine ⟨s.takeWhile isBlank, after, fun c hc => List.mem_takeWhile_imp hc, hafter, ?_⟩
  rw [List.append_assoc, trim, ← hstart, trimStart, List.takeWhile_append_dropWhile]

theorem isInfix_trim (s : List Char) : trim s <:+: s := by
  obtain ⟨before, after, -, -, h⟩ := surrounded_trim s
  exact ⟨before, after, h.symm⟩

theorem trim_trim (s : List Char) : trim (trim s) = trim s :=
  (trim_of_surrounded (surrounded_trim s)).symm

theorem trim_eq_nil_iff : trim s = [] ↔ ∀ c ∈ s, isBlank c = true := by
  constructor
  · intro h
    obtain ⟨before, after, hbefore, hafter, hs⟩ := surrounded_trim s
    rw [hs, h, List.append_nil]
    exact List.forall_mem_append.mpr ⟨hbefore, hafter⟩
  · intro h
    have hblank : Surrounded [] s := ⟨s, [], h, List.forall_mem_nil _, by simp⟩
    exact trim_of_surrounded hblank

theorem not_isBlank_of_digit (h : isDigit c = true) : isBlank c = false := by
  rw [← Bool.not_eq_true]
  intro hblank
  have hdigit : (!isDigit c) = true := of_isBlank (p := fun c => !isDigit c) (by decide +kernel) hblank
  rw [h] at hdigit
  cases hdigit

/-- Each digit adds itself to ten times what the digits before it denote. -/
theorem digitsValue_of_map {values : List Nat} (h : ds.map digitValue? = values.map some) :
    digitsValue ds = Nat.ofDigits 10 values.reverse := by
  have hvalues : ds.map (fun c => (digitValue? c).getD 0) = values := by
    have hmap := congrArg (List.map (Option.getD · 0)) h
    simpa only [List.map_map, Function.comp_def, Option.getD_some, List.map_id'] using hmap
  rw [Nat.ofDigits_eq_foldr, List.foldr_reverse, digitsValue, ← hvalues, List.foldl_map]
  exact List.foldl_ext _ _ _ fun n c _ => Nat.add_comm _ _

theorem exists_values (h : ∀ c ∈ ds, isDigit c = true) :
    ∃ values : List Nat, ds.map digitValue? = values.map some := by
  refine ⟨ds.map fun c => (digitValue? c).getD 0, ?_⟩
  rw [List.map_map]
  refine List.map_congr_left fun c hc => ?_
  obtain ⟨d, hd⟩ := Option.isSome_iff_exists.mp (h c hc)
  rw [Function.comp_apply, hd, Option.getD_some]

theorem Denotes.isDigit (h : Denotes ds n) : ∀ c ∈ ds, Text.isDigit c = true := by
  obtain ⟨values, hvalues, -⟩ := h.value
  intro c hc
  have hmem : digitValue? c ∈ values.map some := hvalues ▸ List.mem_map_of_mem hc
  obtain ⟨d, -, hd⟩ := List.mem_map.mp hmem
  rw [Text.isDigit, ← hd, Option.isSome_some]

theorem Denotes.digitsValue (h : Denotes ds n) : Text.digitsValue ds = n := by
  obtain ⟨values, hvalues, rfl⟩ := h.value
  exact digitsValue_of_map hvalues

theorem denotes_digitsValue (hne : ds ≠ []) (h : ∀ c ∈ ds, isDigit c = true) :
    Denotes ds (digitsValue ds) := by
  obtain ⟨values, hvalues⟩ := exists_values h
  exact ⟨hne, values, hvalues, digitsValue_of_map hvalues⟩

theorem IsInteger.trim {n : Int} (h : IsInteger s n) : Text.trim s = s := by
  refine trim_of_not_isBlank ?_
  cases h with
  | unsigned h => exact fun c hc => not_isBlank_of_digit (h.isDigit c hc)
  | plus h | minus h =>
    intro c hc
    rcases List.mem_cons.mp hc with rfl | hc
    · decide
    · exact not_isBlank_of_digit (h.isDigit c hc)

end Text

namespace Coercion

open Text (IsInteger Surrounded)

variable {conversions : Table Conversion} {s : List Char} {ds : List Char} {t : String} {n low high : Int}
  {v : Value}

theorem readInt?_of_splitSign {negative : Bool} (hsign : splitSign s = (negative, ds)) (hne : ds ≠ [])
    (hd : ∀ c ∈ ds, Text.isDigit c = true) :
    readInt? s = some (if negative then -(Text.digitsValue ds : Int) else Text.digitsValue ds) := by
  have hguard : ¬(ds.isEmpty || !ds.all Text.isDigit) = true := by
    simp [hne, List.all_eq_true.mpr hd]
  rw [readInt?, hsign]
  exact if_neg hguard

theorem splitSign_of_digit {c : Char} (h : Text.isDigit c = true) (s : List Char) :
    splitSign (c :: s) = (false, c :: s) := by
  have hsign : c ≠ '+' ∧ c ≠ '-' := by
    constructor <;> (rintro rfl; exact absurd h (by decide))
  exact splitSign.eq_3 _ (by simp [hsign.1]) (by simp [hsign.2])

/-- The texts that are read as an integer are those that write it. -/
theorem readInt?_eq_some_iff : readInt? s = some n ↔ IsInteger s n := by
  constructor
  · intro h
    rcases hsign : splitSign s with ⟨negative, ds⟩
    unfold readInt? at h
    rw [hsign] at h
    dsimp only at h
    split_ifs at h with hguard hneg
    all_goals
      rw [Bool.or_eq_true, not_or, List.isEmpty_iff, Bool.not_eq_true', Bool.not_eq_false,
        List.all_eq_true] at hguard
      have hds := Text.denotes_digitsValue hguard.1 hguard.2
      obtain rfl := Option.some.inj h
    all_goals
      unfold splitSign at hsign
      split at hsign
    all_goals
      obtain ⟨hn, rfl⟩ := Prod.mk.inj hsign
    · exact absurd hneg (by simp [← hn])
    · exact .minus hds
    · exact absurd hneg (by simp [← hn])
    · exact .plus hds
    · exact absurd hn.symm hneg
    · exact .unsigned hds
  · intro h
    cases h with
    | @unsigned ds n h =>
      obtain ⟨c, rest, rfl⟩ := List.exists_cons_of_ne_nil h.some_digit
      rw [readInt?_of_splitSign (splitSign_of_digit (h.isDigit c List.mem_cons_self) rest) h.some_digit
        h.isDigit, h.digitsValue]
      rfl
    | @plus ds n h =>
      rw [readInt?_of_splitSign (splitSign.eq_1 ds) h.some_digit h.isDigit, h.digitsValue]
      rfl
    | @minus ds n h =>
      rw [readInt?_of_splitSign (splitSign.eq_2 ds) h.some_digit h.isDigit, h.digitsValue]
      rfl

theorem within?_eq_some_iff {m : Int} : within? low high m = some n ↔ m = n ∧ low ≤ n ∧ n ≤ high := by
  unfold within?
  constructor
  · intro h
    split_ifs at h with hm
    obtain rfl := Option.some.inj h
    exact ⟨rfl, hm⟩
  · rintro ⟨rfl, hm⟩
    exact if_pos hm

/-- A text is taken for an integer if it writes one in range in at most twenty characters, blanks
aside. -/
theorem toInt?_text_eq_some_iff : toInt? low high (.text t) = some n ↔
    ∃ core, Surrounded core t.toList ∧ IsInteger core n ∧ core.length ≤ 20 ∧ low ≤ n ∧ n ≤ high := by
  have hread : toInt? low high (.text t) = some n ↔
      (trimmed t).length ≤ 20 ∧ IsInteger (trimmed t) n ∧ low ≤ n ∧ n ≤ high := by
    unfold toInt?
    dsimp only
    split_ifs with hlen
    · exact iff_of_false (by simp) fun h => absurd h.1 (Nat.not_le.mpr hlen)
    · rw [Option.bind_eq_some_iff]
      simp only [within?_eq_some_iff, ← readInt?_eq_some_iff]
      constructor
      · rintro ⟨m, hm, rfl, hrange⟩
        exact ⟨Nat.not_lt.mp hlen, hm, hrange⟩
      · rintro ⟨-, hm, hrange⟩
        exact ⟨n, hm, rfl, hrange⟩
  rw [hread]
  constructor
  · rintro ⟨hlen, hint, hrange⟩
    exact ⟨trimmed t, Text.surrounded_trim _, hint, hlen, hrange⟩
  · rintro ⟨core, hcore, hint, hlen, hrange⟩
    have htrim : trimmed t = core := (Text.trim_of_surrounded hcore).trans hint.trim
    rw [htrim]
    exact ⟨hlen, hint, hrange⟩

theorem run_int (hfree : Table.get? conversions "int" = none) (hv : v.isNull = false) :
    run conversions .int v = .ofOption ((toInt? int64Low int64High v).map .int) := by
  rw [run, hv, Target.name, hfree]
  rfl

theorem run_int32 (hfree : Table.get? conversions "int32" = none) (hv : v.isNull = false) :
    run conversions .int32 v = .ofOption ((toInt? int32Low int32High v).map .int) := by
  rw [run, hv, Target.name, hfree]
  rfl

end Coercion

namespace Conversions

open Text (IsInteger Surrounded)

variable {r : Conversions} {type : String} {bits : Nat}

/-- The names of the integer types, with the number of their bits besides the sign. -/
def integerTypes : List (String × Nat) := [("int", 63), ("int32", 31)]

theorem coerce_text_of_integerTypes (htype : (type, bits) ∈ integerTypes) (hfree : r.find? type = none)
    (s : String) : ∃ low high : Int, low = -2 ^ bits ∧ high = 2 ^ bits - 1 ∧
      r.coerce type (.text s) = .ofOption ((Coercion.toInt? low high (.text s)).map .int) := by
  rw [integerTypes, List.mem_cons, List.mem_singleton] at htype
  rcases htype with h | h
  · obtain ⟨rfl, rfl⟩ := Prod.mk.inj h
    refine ⟨_, _, rfl, rfl, ?_⟩
    have htarget : Target.ofName "int" = .int := TypeTerm.ofName_name .int
    rw [coerce, htarget]
    exact Coercion.run_int hfree rfl
  · obtain ⟨rfl, rfl⟩ := Prod.mk.inj h
    refine ⟨_, _, rfl, rfl, ?_⟩
    have htarget : Target.ofName "int32" = .int32 := TypeTerm.ofName_name .int32
    rw [coerce, htarget]
    exact Coercion.run_int32 hfree rfl

/-- A text is brought to an integer type if, blanks aside, it is a sign or none and digits, at most twenty
characters in all, and what it denotes is in range; every other text is refused. -/
theorem coerce_integer_text (htype : (type, bits) ∈ integerTypes) (hfree : r.find? type = none)
    (s : String) :
    (∀ n core, Surrounded core s.toList → IsInteger core n → core.length ≤ 20 →
      -2 ^ bits ≤ n → n < 2 ^ bits → r.coerce type (.text s) = .accepted (.int n) []) ∧
    ((∀ n core, Surrounded core s.toList → IsInteger core n → core.length ≤ 20 →
      ¬(-2 ^ bits ≤ n ∧ n < 2 ^ bits)) → r.coerce type (.text s) = .refused) := by
  obtain ⟨low, high, rfl, rfl, hrun⟩ := coerce_text_of_integerTypes htype hfree s
  constructor
  · intro n core hcore hint hlen hlow hhigh
    have hread : Coercion.toInt? (-2 ^ bits) (2 ^ bits - 1) (.text s) = some n :=
      Coercion.toInt?_text_eq_some_iff.mpr ⟨core, hcore, hint, hlen, hlow, Int.le_sub_one_of_lt hhigh⟩
    rw [hrun, hread]
    rfl
  · intro h
    cases hread : Coercion.toInt? (-2 ^ bits) (2 ^ bits - 1) (.text s) with
    | none =>
      rw [hrun, hread]
      rfl
    | some n =>
      obtain ⟨core, hcore, hint, hlen, hlow, hhigh⟩ := Coercion.toInt?_text_eq_some_iff.mp hread
      exact absurd ⟨hlow, Int.lt_of_le_sub_one hhigh⟩ (h n core hcore hint hlen)

/-- The smallest integer of 64 bits takes all twenty characters, one of 32 bits may be written in digits
of another script, and the one after the greatest is refused. -/
theorem coerce_integer_text_limits :
    Conversions.empty.coerce "int" (.text "\t-9223372036854775808 ") =
        .accepted (.int (-9223372036854775808)) [] ∧
      Conversions.empty.coerce "int32" (.text "+٣٤") = .accepted (.int 34) [] ∧
      Conversions.empty.coerce "int32" (.text "2147483648") = .refused := by
  have hlong : ("int", 63) ∈ integerTypes := by decide
  have hshort : ("int32", 31) ∈ integerTypes := by decide
  have hlow : IsInteger "-9223372036854775808".toList (-9223372036854775808) :=
    Coercion.readInt?_eq_some_iff.mp (by decide +kernel)
  have harabic : IsInteger "+٣٤".toList 34 := Coercion.readInt?_eq_some_iff.mp (by decide +kernel)
  have hhigh : Coercion.readInt? "2147483648".toList = some 2147483648 := by decide +kernel
  refine ⟨?_, ?_, ?_⟩
  · have hblanks : Surrounded "-9223372036854775808".toList "\t-9223372036854775808 ".toList :=
      ⟨['\t'], [' '], List.forall_mem_singleton.mpr rfl, List.forall_mem_singleton.mpr rfl, rfl⟩
    exact (coerce_integer_text hlong rfl _).1 _ _ hblanks hlow (by decide) (by norm_num) (by norm_num)
  · exact (coerce_integer_text hshort rfl _).1 _ _ (.refl _) harabic (by decide) (by norm_num)
      (by norm_num)
  · refine (coerce_integer_text hshort rfl _).2 fun n core hcore hint _ hrange => ?_
    have htrim : Text.trim "2147483648".toList = core := (Text.trim_of_surrounded hcore).trans hint.trim
    have hread := Coercion.readInt?_eq_some_iff.mpr hint
    rw [← htrim, show Text.trim "2147483648".toList = "2147483648".toList by decide, hhigh] at hread
    obtain rfl := Option.some.inj hread
    exact absurd hrange.2 (by norm_num)

/-- A one after twenty zeros denotes an integer in range and is refused for its length. -/
theorem not_coerce_integer_text_of_zeros :
    ¬∀ (type : String) (bits : Nat) (s : String) (n : Int) (core : List Char),
      (type, bits) ∈ integerTypes → Surrounded core s.toList → IsInteger core n →
        -2 ^ bits ≤ n → n < 2 ^ bits →
          Conversions.empty.coerce type (.text s) = .accepted (.int n) [] := by
  intro h
  have hone : IsInteger "000000000000000000001".toList 1 :=
    Coercion.readInt?_eq_some_iff.mp (by decide +kernel)
  have hrefused : Conversions.empty.coerce "int" (.text "000000000000000000001") = .refused := by cbv
  have haccepted := h "int" 63 _ 1 _ (by decide) (.refl _) hone (by norm_num) (by norm_num)
  exact Coerced.noConfusion (hrefused.symm.trans haccepted)

end Conversions

end Intake
