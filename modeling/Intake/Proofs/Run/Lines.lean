import Intake.Proofs.Coercion.Endings
import Intake.Proofs.Coercion.Integers
import Intake.Proofs.Run.Formats

namespace Intake

namespace Text

variable {c : Char}

/-- The characters at which a text falls into lines. -/
def lineBreakRanges : List (Nat × Nat) := [(10, 13), (28, 30), (133, 133), (8232, 8233)]

def breaksLine (c : Char) : Bool := inRanges c.toNat lineBreakRanges

/-- A decimal digit of any script, or a visible character or space of ASCII. -/
def IsPlain (c : Char) : Prop := isDigit c = true ∨ 32 ≤ c.toNat ∧ c.toNat ≤ 126

theorem IsPlain.not_breaksLine (h : IsPlain c) : breaksLine c = false := by
  rw [← Bool.not_eq_true]
  intro hbreak
  have hall : ∀ n ∈ spread lineBreakRanges, isDigit (Char.ofNat n) = false ∧ (n < 32 ∨ 126 < n) := by
    decide +kernel
  obtain ⟨hdigit, hrange⟩ := hall c.toNat (mem_spread hbreak)
  rw [Char.ofNat_toNat] at hdigit
  rcases h with h | h
  · rw [hdigit] at h
    cases h
  · omega

theorem IsPlain.ne_break (h : IsPlain c) : c ≠ '\n' := by
  rintro rfl
  exact absurd h.not_breaksLine (by decide)

theorem IsPlain.ne_zero (h : IsPlain c) : c ≠ '\x00' := by
  rintro rfl
  rcases h with h | h
  · exact absurd h (by decide)
  · exact absurd h.1 (by decide)

theorem isPlain_of_isAlphanum (h : c.isAlphanum = true) : IsPlain c := by
  simp only [Char.isAlphanum, Char.isAlpha, Char.isUpper, Char.isLower, Char.isDigit, Bool.or_eq_true,
    Bool.and_eq_true, decide_eq_true_eq, ge_iff_le, UInt32.le_iff_toNat_le, Char.reduceVal,
    UInt32.reduceToNat] at h
  right
  change 32 ≤ c.val.toNat ∧ c.val.toNat ≤ 126
  omega

end Text

theorem Coercion.length_le_spellUtc (s : List Char) : s.length ≤ (spellUtc s).length := by
  induction s with
  | nil => rfl
  | cons c s ih =>
    have hone : 1 ≤ (if c = 'Z' then "+00:00".toList else [c]).length := by
      split_ifs
      · exact Nat.succ_pos 5
      · exact le_rfl
    rw [spellUtc, List.flatMap_cons, List.length_append, ← spellUtc, List.length_cons]
    omega

open Text (IsPlain breaksLine)

namespace NamedFormat

variable {c d separator : Char} {s t rest : List Char} {n : Nat} {more : List (Char × Nat)} {f : NamedFormat}

/-- The formats of texts that stand on one line. -/
def IsOneLine (f : NamedFormat) : Prop := f ≠ .url ∧ f ≠ .ipv6

/-- The formats that are an expression alone, and nothing else reads the text. -/
def IsExpression (f : NamedFormat) : Prop :=
  f = .email ∨ f = .uuid ∨ f = .time ∨ f = .hostname ∨ f = .phone

theorem withoutFinalBreak_concat (t : List Char) : withoutFinalBreak (t ++ ['\n']) = t := by
  rw [withoutFinalBreak, if_pos List.getLast?_concat, List.dropLast_concat]

theorem withoutFinalBreak_of_isPlain (h : ∀ c ∈ s, IsPlain c) : withoutFinalBreak s = s :=
  if_neg fun hlast => (h '\n' (List.mem_of_getLast? hlast)).ne_break rfl

theorem eq_or_eq_concat (s : List Char) : withoutFinalBreak s = s ∨ s = withoutFinalBreak s ++ ['\n'] := by
  by_cases hlast : s.getLast? = some '\n'
  · obtain ⟨t, rfl⟩ := List.getLast?_eq_some_iff.mp hlast
    exact .inr (by rw [withoutFinalBreak_concat])
  · exact .inl (if_neg hlast)

/-- An expression sees no difference between texts that differ in a last line feed alone. -/
theorem holds_congr (hf : f.IsExpression) (h : withoutFinalBreak s = withoutFinalBreak t) :
    f.holds s = f.holds t := by
  rcases hf with rfl | rfl | rfl | rfl | rfl <;>
    simp only [holds, isEmail, isTime, isHostname, isPhone, h]

/-- A character of a text is one of those before the first separator, the separator, or after it. -/
theorem mem_of_mem_around (h : (s.takeWhile (· ≠ separator)).length < s.length) (hc : c ∈ s) :
    c ∈ s.takeWhile (· ≠ separator) ∨ c = separator ∨
      c ∈ s.drop ((s.takeWhile (· ≠ separator)).length + 1) := by
  have hsplit := List.takeWhile_append_dropWhile (p := (· ≠ separator)) (l := s)
  have hafter := Text.drop_length_takeWhile (· ≠ separator) s
  cases hrest : s.dropWhile (· ≠ separator) with
  | nil =>
    rw [hrest, List.append_nil] at hsplit
    rw [hsplit] at h
    exact absurd h (lt_irrefl _)
  | cons d rest =>
    have hd : d = separator := by
      have hhead := List.head?_dropWhile_not (· ≠ separator) s
      rw [hrest] at hhead
      simpa using hhead
    rw [hrest] at hsplit hafter
    rw [← hsplit, List.mem_append, List.mem_cons, hd] at hc
    rw [← List.drop_drop, hafter, List.drop_one, List.tail_cons]
    exact hc

theorem isPlain_of_digitGroups (hmore : ∀ p ∈ more, IsPlain p.1) (h : digitGroups n more s = some rest) :
    ∀ c ∈ s, IsPlain c ∨ c ∈ rest := by
  have hgroup {n : Nat} {more : List (Char × Nat)} {s rest : List Char}
      (h : digitGroups n more s = some rest) : ∀ c ∈ s, IsPlain c ∨ c ∈ s.drop n := by
    intro c hc
    rw [← List.take_append_drop n s, List.mem_append] at hc
    refine hc.imp_left fun hc => ?_
    by_contra hplain
    rw [digitGroups_eq_none hc (Bool.not_eq_true _ ▸ fun hd => hplain (.inl hd))] at h
    cases h
  induction more generalizing n s with
  | nil =>
    have hrest : s.drop n = rest := by
      rw [digitGroups.eq_def] at h
      dsimp only at h
      split_ifs at h
      exact Option.some.inj h
    exact hrest ▸ hgroup h
  | cons p more ih =>
    intro c hc
    refine (hgroup h c hc).elim .inl fun hc => ?_
    rw [digitGroups.eq_def] at h
    dsimp only at h
    split_ifs at h
    split at h
    · rename_i d tail htail
      split_ifs at h with hd
      rw [htail, List.mem_cons] at hc
      rcases hc with rfl | hc
      · exact .inl (hd ▸ hmore p List.mem_cons_self)
      · exact ih (fun q hq => hmore q (List.mem_cons_of_mem _ hq)) h c hc
    · cases h

theorem isPlain_of_isLocalChar (h : isLocalChar c = true) : IsPlain c := by
  simp only [isLocalChar, Bool.or_eq_true, decide_eq_true_eq] at h
  rcases h with ((((h | rfl) | rfl) | rfl) | rfl) | rfl
  · exact Text.isPlain_of_isAlphanum h
  all_goals exact .inr (by decide)

theorem isPlain_of_isDomainChar (h : isDomainChar c = true) : IsPlain c := by
  simp only [isDomainChar, Bool.or_eq_true, decide_eq_true_eq] at h
  rcases h with (h | rfl) | rfl
  · exact Text.isPlain_of_isAlphanum h
  all_goals exact .inr (by decide)

theorem isPlain_of_isEmail (h : isEmail s = true) : ∀ c ∈ withoutFinalBreak s, IsPlain c := by
  unfold isEmail at h
  generalize withoutFinalBreak s = s at h
  simp only [Bool.and_eq_true, decide_eq_true_eq, List.all_eq_true] at h
  obtain ⟨⟨⟨⟨⟨⟨⟨hat, -⟩, hlocal⟩, hpoint⟩, -⟩, hlabel⟩, -⟩, hbefore⟩ := h
  intro c hc
  rcases mem_of_mem_around hat hc with hc | rfl | hc
  · exact isPlain_of_isLocalChar (hlocal c hc)
  · exact .inr (by decide)
  -- The last label is looked for from the end of the domain.
  generalize s.drop ((s.takeWhile (· ≠ '@')).length + 1) = domain at hpoint hlabel hbefore hc
  rw [List.length_reverse, ← @List.length_reverse _ domain] at hpoint
  rcases mem_of_mem_around hpoint (List.mem_reverse.mpr hc) with hc | rfl | hc
  · exact Text.isPlain_of_isAlphanum (by simp [Char.isAlphanum, hlabel c (List.mem_reverse.mpr hc)])
  · exact .inr (by decide)
  · refine isPlain_of_isDomainChar (hbefore c ?_)
    rwa [List.length_reverse, Nat.sub_sub, ← List.mem_reverse, ← List.drop_reverse]

theorem isPlain_of_isTime (h : isTime s = true) : ∀ c ∈ withoutFinalBreak s, IsPlain c := by
  simp only [isTime, Bool.or_eq_true, decide_eq_true_eq] at h
  have hcolon : IsPlain ':' := .inr (by decide)
  intro c hc
  rcases h with h | h
  · exact (isPlain_of_digitGroups (by simp [hcolon]) h c hc).resolve_right List.not_mem_nil
  · exact (isPlain_of_digitGroups (by simp [hcolon]) h c hc).resolve_right List.not_mem_nil

theorem isPlain_of_date (h : digitGroups 4 [('-', 2), ('-', 2)] s = some rest) :
    ∀ c ∈ s, IsPlain c ∨ c ∈ rest :=
  have hdash : IsPlain '-' := .inr (by decide)
  isPlain_of_digitGroups (by simp [hdash]) h

theorem isPlain_of_isDateShape (h : isDateShape s = true) : ∀ c ∈ s, IsPlain c :=
  fun c hc => (isPlain_of_date (of_decide_eq_true h) c hc).resolve_right List.not_mem_nil

theorem isPlain_of_isZoneShape (h : isZoneShape s = true) : ∀ c ∈ s, IsPlain c := by
  unfold isZoneShape at h
  split at h
  · exact List.forall_mem_nil _
  · exact List.forall_mem_singleton.mpr (.inr (by decide))
  · rename_i sign rest hne
    simp only [Bool.and_eq_true, Bool.or_eq_true, decide_eq_true_eq] at h
    obtain ⟨hsign, hrest⟩ := h
    have hcolon : IsPlain ':' := .inr (by decide)
    refine List.forall_mem_cons.mpr ⟨?_, fun c hc => ?_⟩
    · rcases hsign with rfl | rfl <;> exact .inr (by decide)
    · rcases hrest with hrest | hrest
      · exact (isPlain_of_digitGroups (by simp [hcolon]) hrest c hc).resolve_right List.not_mem_nil
      · exact (isPlain_of_digitGroups (by simp) hrest c hc).resolve_right List.not_mem_nil

theorem isPlain_of_isFractionShape (h : isFractionShape s = true) : ∀ c ∈ s, IsPlain c := by
  unfold isFractionShape at h
  split at h
  · rename_i rest
    rw [Bool.and_eq_true] at h
    refine List.forall_mem_cons.mpr ⟨.inr (by decide), fun c hc => ?_⟩
    rw [← List.takeWhile_append_dropWhile (p := Text.isDigit) (l := rest), List.mem_append] at hc
    rcases hc with hc | hc
    · exact .inl (List.mem_takeWhile_imp hc)
    · exact isPlain_of_isZoneShape h.2 c (Text.drop_length_takeWhile Text.isDigit rest ▸ hc)
  · exact isPlain_of_isZoneShape h

theorem isPlain_of_isClockShape (h : isClockShape s = true) : ∀ c ∈ s, IsPlain c := by
  have hcolon : IsPlain ':' := .inr (by decide)
  unfold isClockShape at h
  intro c hc
  split at h
  · rename_i rest hread
    exact (isPlain_of_digitGroups (by simp [hcolon]) hread c hc).elim id (isPlain_of_isFractionShape h c)
  · split at h
    · rename_i rest hread
      exact (isPlain_of_digitGroups (by simp [hcolon]) hread c hc).elim id (isPlain_of_isZoneShape h c)
    · cases h

theorem isPlain_of_isMomentShape (h : isMomentShape s = true) : ∀ c ∈ s, IsPlain c := by
  unfold isMomentShape at h
  split at h
  · rename_i mark rest hread
    simp only [Bool.and_eq_true, Bool.or_eq_true, decide_eq_true_eq] at h
    have hmark : IsPlain mark := by
      rcases h.1 with rfl | rfl <;> exact .inr (by decide)
    have hafter : ∀ c ∈ mark :: rest, IsPlain c :=
      List.forall_mem_cons.mpr ⟨hmark, isPlain_of_isClockShape h.2⟩
    exact fun c hc => (isPlain_of_date hread c hc).elim id (hafter c)
  · cases h

theorem isPlain_of_isHostname (h : isHostname s = true) : ∀ c ∈ withoutFinalBreak s, IsPlain c := by
  simp only [isHostname, Bool.and_eq_true, List.all_eq_true] at h
  intro c hc
  by_cases hpoint : c = '.'
  · subst hpoint
    exact .inr (by decide)
  · obtain ⟨label, hlabel, hc⟩ := Text.exists_part_of_mem hc hpoint
    have hlabel := h.2 label hlabel
    simp only [isHostLabel, Bool.and_eq_true, List.all_eq_true, Bool.or_eq_true, decide_eq_true_eq] at hlabel
    rcases hlabel.1.1.2 c hc with hc | rfl
    · exact Text.isPlain_of_isAlphanum hc
    · exact .inr (by decide)

theorem isPlain_of_isPhone (h : isPhone s = true) : ∀ c ∈ withoutFinalBreak s, IsPlain c := by
  unfold isPhone at h
  generalize withoutFinalBreak s = s at h
  have hdigits {ds : List Char} (hhead : (ds.head?).any (fun c => '1' ≤ c && c ≤ '9') = true)
      (htail : ∀ c ∈ ds.drop 1, Text.isDigit c = true) : ∀ c ∈ ds, IsPlain c := by
    cases ds with
    | nil => exact List.forall_mem_nil _
    | cons d ds =>
      refine List.forall_mem_cons.mpr ⟨?_, fun c hc => .inl (htail c hc)⟩
      simp only [List.head?_cons, Option.any_some, Bool.and_eq_true, decide_eq_true_eq, Char.le_def,
        UInt32.le_iff_toNat_le, Char.reduceVal, UInt32.reduceToNat] at hhead
      right
      change 32 ≤ d.val.toNat ∧ d.val.toNat ≤ 126
      omega
  simp only [Bool.and_eq_true, List.all_eq_true] at h
  obtain ⟨⟨-, hhead⟩, htail⟩ := h
  split_ifs at hhead htail with hplus
  · obtain ⟨ds, rfl⟩ := List.head?_eq_some_iff.mp hplus
    exact List.forall_mem_cons.mpr ⟨.inr (by decide), hdigits hhead htail⟩
  · exact hdigits hhead htail

theorem isPlain_of_isIPv4 (h : Network.isIPv4 s = true) : ∀ c ∈ s, IsPlain c := by
  simp only [Network.isIPv4, Bool.and_eq_true, List.all_eq_true] at h
  intro c hc
  by_cases hpoint : c = '.'
  · subst hpoint
    exact .inr (by decide)
  · obtain ⟨part, hpart, hc⟩ := Text.exists_part_of_mem hc hpoint
    have hpart := h.2 part hpart
    simp only [Network.isOctet, Bool.and_eq_true, List.all_eq_true] at hpart
    exact .inl (Text.isDigit_of_isDigit (hpart.1.1.1.2 c hc))

theorem length_of_digitGroups (h : digitGroups n more s = some rest) :
    s.length = n + (more.map fun p => p.2 + 1).sum + rest.length := by
  induction more generalizing n s with
  | nil =>
    rw [digitGroups.eq_def] at h
    dsimp only at h
    split_ifs at h with hgroup
    rw [Bool.and_eq_true, decide_eq_true_eq, List.length_take] at hgroup
    rw [← Option.some.inj h, List.length_drop, List.map_nil, List.sum_nil]
    omega
  | cons p more ih =>
    rw [digitGroups.eq_def] at h
    dsimp only at h
    split_ifs at h with hgroup
    split at h
    · rename_i d tail htail
      split_ifs at h
      have hlen := congrArg List.length htail
      rw [List.length_drop, List.length_cons, ih h] at hlen
      rw [List.map_cons, List.sum_cons]
      omega
    · cases h

theorem length_of_isMomentShape (h : isMomentShape s = true) : 16 ≤ s.length := by
  unfold isMomentShape at h
  split at h
  · rename_i mark rest hdate
    rw [Bool.and_eq_true] at h
    have hclock : 5 ≤ rest.length := by
      have hshape := h.2
      unfold isClockShape at hshape
      split at hshape
      · next hread =>
        rw [length_of_digitGroups hread]
        exact Nat.le_add_right_of_le (by decide)
      · split at hshape
        · next hread =>
          rw [length_of_digitGroups hread]
          exact Nat.le_add_right_of_le (by decide)
        · cases hshape
    rw [length_of_digitGroups hdate, List.length_cons]
    simp only [List.map_cons, List.map_nil, List.sum_cons, List.sum_nil]
    omega
  · cases h

/-- The standard's dates have no form of eleven octets or more. -/
theorem isDate_concat (t : List Char) : isDate (t ++ ['\n']) = false := by
  rw [isDate, withoutFinalBreak_concat, Bool.and_eq_false_iff, ← Bool.not_eq_true,
    ← imp_iff_not_or]
  intro hshape
  have hlen := length_of_digitGroups (of_decide_eq_true hshape)
  simp only [List.map_cons, List.map_nil, List.sum_cons, List.sum_nil, List.length_nil] at hlen
  have hoctets := Text.length_le_utf8 (t ++ ['\n'])
  rw [← Text.toUTF8_ofList, List.length_append, List.length_singleton] at hoctets
  unfold Calendar.Iso.day?
  dsimp only
  rw [if_neg (by omega)]
  rfl

theorem isPlain_of_mem_spellUtc (h : ∀ c ∈ t, IsPlain c) : ∀ c ∈ Coercion.spellUtc t, IsPlain c := by
  intro c hc
  obtain ⟨d, hd, hc⟩ := List.mem_flatMap.mp hc
  split_ifs at hc
  · have hall : "+00:00".toList.all (fun c => 32 ≤ c.toNat && c.toNat ≤ 126) = true := rfl
    have hrange := List.all_eq_true.mp hall c hc
    rw [Bool.and_eq_true, decide_eq_true_eq, decide_eq_true_eq] at hrange
    exact .inr hrange
  · exact List.mem_singleton.mp hc ▸ h d hd

theorem isMoment_concat (t : List Char) : isMoment (t ++ ['\n']) = false := by
  rw [isMoment, withoutFinalBreak_concat, Bool.and_eq_false_iff, ← Bool.not_eq_true,
    ← imp_iff_not_or]
  intro hshape
  have hspell : Coercion.spellUtc (t ++ ['\n']) = Coercion.spellUtc t ++ ['\n'] := Coercion.spellUtc_append t ['\n']
  have hlen : t.length ≤ (Coercion.spellUtc t).length := Coercion.length_le_spellUtc t
  have hnonzero : ∀ c ∈ Coercion.spellUtc t, c ≠ '\x00' := fun c hc =>
    (isPlain_of_mem_spellUtc (isPlain_of_isMomentShape hshape) c hc).ne_zero
  have hoctets := Text.length_le_utf8 (Coercion.spellUtc t ++ ['\n'])
  rw [← Text.toUTF8_ofList, List.length_append, List.length_singleton] at hoctets
  have hshape := length_of_isMomentShape hshape
  rw [hspell, Calendar.Iso.moment?_of_endsInBreak (Calendar.Iso.endsInBreak_concat hnonzero) (by omega)]
  rfl

/-- But for a last line feed, a text in a format of one line holds no control character and no line break. -/
theorem isPlain_of_holds (hf : f.IsOneLine) (h : f.holds s = .ok true) :
    ∀ c ∈ withoutFinalBreak s, IsPlain c := by
  cases f with
  | email => exact isPlain_of_isEmail (Except.ok.inj h)
  | url => exact absurd rfl hf.1
  | uuid =>
    intro c hc
    have hrange := Coercion.range_of_isUuidText (Except.ok.inj h) hc
    exact .inr (by omega)
  | datetime => exact isPlain_of_isMomentShape (Bool.and_eq_true_iff.mp (Except.ok.inj h)).1
  | date => exact isPlain_of_isDateShape (Bool.and_eq_true_iff.mp (Except.ok.inj h)).1
  | time => exact isPlain_of_isTime (Except.ok.inj h)
  | ipv4 =>
    have hplain := isPlain_of_isIPv4 (Except.ok.inj h)
    rwa [withoutFinalBreak_of_isPlain hplain]
  | ipv6 => exact absurd rfl hf.2
  | hostname => exact isPlain_of_isHostname (Except.ok.inj h)
  | phone => exact isPlain_of_isPhone (Except.ok.inj h)

/-- What reads a text besides or instead of an expression refuses a last line feed. -/
theorem isExpression_of_concat (hf : f.IsOneLine) (h : f.holds (t ++ ['\n']) = .ok true) : f.IsExpression := by
  cases f with
  | email => exact .inl rfl
  | url => exact absurd rfl hf.1
  | uuid => exact .inr (.inl rfl)
  | datetime => exact absurd (Except.ok.inj h) (by simp [isMoment_concat])
  | date => exact absurd (Except.ok.inj h) (by simp [isDate_concat])
  | time => exact .inr (.inr (.inl rfl))
  | ipv4 =>
    have hplain := isPlain_of_isIPv4 (Except.ok.inj h) '\n' (by simp)
    exact absurd rfl hplain.ne_break
  | ipv6 => exact absurd rfl hf.2
  | hostname => exact .inr (.inr (.inr (.inl rfl)))
  | phone => exact .inr (.inr (.inr (.inr rfl)))

/-- The texts with a line break that a format of one line takes: in the formats that are an expression
alone, those that are a line in the format and a line feed after it. -/
theorem holds_with_break_iff (hf : f.IsOneLine) :
    f.holds s = .ok true ∧ (∃ c ∈ s, breaksLine c = true) ↔
      f.IsExpression ∧ ∃ t, s = t ++ ['\n'] ∧ f.holds t = .ok true ∧ ∀ c ∈ t, breaksLine c = false := by
  constructor
  · rintro ⟨h, c, hc, hbreak⟩
    have hplain := isPlain_of_holds hf h
    rcases eq_or_eq_concat s with hsame | hconcat
    · rw [hsame] at hplain
      rw [(hplain c hc).not_breaksLine] at hbreak
      cases hbreak
    · have hexpression : f.IsExpression := isExpression_of_concat hf (hconcat ▸ h)
      refine ⟨hexpression, withoutFinalBreak s, hconcat, ?_, fun c hc => (hplain c hc).not_breaksLine⟩
      rwa [← holds_congr hexpression (withoutFinalBreak_of_isPlain hplain).symm]
  · rintro ⟨hexpression, t, rfl, h, hline⟩
    have hlast : withoutFinalBreak t = t := by
      refine if_neg fun hlast => ?_
      exact absurd (hline '\n' (List.mem_of_getLast? hlast)) (by decide)
    refine ⟨?_, '\n', by simp, by decide⟩
    rwa [holds_congr hexpression ((withoutFinalBreak_concat t).trans hlast.symm)]

end NamedFormat

namespace Validator

open Context

variable {c : Context} {f : NamedFormat} {field name : String} {message : Option String} {s : String}

theorem build_named (hname : (name, f) ∈ NamedFormat.names) (field : String) (message : Option String) :
    ValidatorSpec.build (.format field name none message) =
      .ok (.constraint field (.format name none message (.named f))) := by
  unfold ValidatorSpec.build Constraint.format?
  rw [NamedFormat.ofName?_of_mem hname]
  rfl

theorem run_named_eq_iff (hs : c.fieldValue field .null = .text s) :
    (constraint field (.format name none message (.named f))).run c = (c, none) ↔ f.holds s.toList = .ok true := by
  rw [run_named hs]
  rcases f.holds s.toList with e | _ | _ <;> simp [addIssue_ne]

/-- A format of texts that stand on one line lets a text with a line break pass in one case: the format is
an expression alone, and the text is a line in the format with a line feed after it. -/
theorem one_line_format_passes_break_iff (hname : (name, f) ∈ NamedFormat.names) (hf : f.IsOneLine)
    (field : String) (message : Option String) (c : Context) (s : String)
    (hs : c.fieldValue field .null = .text s) :
    ∃ v, ValidatorSpec.build (.format field name none message) = .ok v ∧
      ((v.run c = (c, none) ∧ ∃ x ∈ s.toList, Text.breaksLine x = true) ↔
        f.IsExpression ∧ ∃ t, s.toList = t ++ ['\n'] ∧ f.holds t = .ok true ∧
          ∀ x ∈ t, Text.breaksLine x = false) := by
  refine ⟨_, build_named hname field message, ?_⟩
  rw [run_named_eq_iff hs, NamedFormat.holds_with_break_iff hf]

/-- An address with a line feed after it. -/
theorem one_line_format_passes_break_iff_address :
    let c := start [("to", .text "ann@example.com\n")]
    ("email", NamedFormat.email) ∈ NamedFormat.names ∧ NamedFormat.email.IsOneLine ∧
      c.fieldValue "to" .null = .text "ann@example.com\n" ∧
      ∃ v, ValidatorSpec.build (.format "to" "email" none none) = .ok v ∧ v.run c = (c, none) := by
  intro c
  have hname : ("email", NamedFormat.email) ∈ NamedFormat.names := by decide
  have hf : NamedFormat.email.IsOneLine := ⟨by decide, by decide⟩
  have hs : c.fieldValue "to" .null = .text "ann@example.com\n" := rfl
  have hline : NamedFormat.email.holds "ann@example.com".toList = .ok true ∧
      "ann@example.com".toList.all (fun x => !Text.breaksLine x) = true := by
    constructor <;> rfl
  obtain ⟨v, hv, hpasses⟩ := one_line_format_passes_break_iff hname hf "to" none c _ hs
  have hbreaks : ∀ x ∈ "ann@example.com".toList, Text.breaksLine x = false := fun x hx => by
    simpa using List.all_eq_true.mp hline.2 x hx
  exact ⟨hname, hf, hs, v, hv, (hpasses.mpr ⟨.inl rfl, _, rfl, hline.1, hbreaks⟩).1⟩

end Validator

end Intake
