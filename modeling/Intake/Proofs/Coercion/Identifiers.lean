import Intake.Coercion.Scalar
import Intake.Proofs.Characters

namespace Intake

namespace Text

theorem length_hex (width n : Nat) : (hex width n).length = width := by
  induction width generalizing n with
  | zero => rfl
  | succ width ih => rw [hex, List.length_append, ih, List.length_singleton]

theorem mem_hex {width n : Nat} {c : Char} (h : c ∈ hex width n) : ∃ k < 16, c = hexDigit k := by
  induction width generalizing n with
  | zero => cases h
  | succ width ih =>
    rcases List.mem_append.mp h with h | h
    · exact ih h
    · exact ⟨n % 16, Nat.mod_lt _ (by decide), List.mem_singleton.mp h⟩

end Text

namespace Coercion

variable {c : Char} {s rest : List Char} {sizes : List Nat} {n m : Nat}

theorem toNat_of_isHexDigit (h : isHexDigit c = true) : 48 ≤ c.toNat ∧ c.toNat ≤ 102 := by
  simp only [isHexDigit, Char.le_def, UInt32.le_iff_toNat_le, Bool.or_eq_true, Bool.and_eq_true,
    decide_eq_true_eq, Char.reduceVal, UInt32.reduceToNat] at h
  change 48 ≤ c.val.toNat ∧ c.val.toNat ≤ 102
  omega

theorem isHexDigit_toLower (h : isHexDigit c = true) : isHexDigit c.toLower = true := by
  have hall : ∀ n < 128, isHexDigit (Char.ofNat n) = true →
      isHexDigit (Char.ofNat n).toLower = true := by decide
  have hlt : c.toNat < 128 := by
    have hrange := toNat_of_isHexDigit h
    omega
  have hc := hall c.toNat hlt
  rw [Char.ofNat_toNat] at hc
  exact hc h

/-- Groups of hexadecimal digits are a first group, and after a dash the other groups. -/
theorem isHexGroups_cons_iff :
    isHexGroups (n :: m :: sizes) s = true ↔ ∃ group rest, s = group ++ '-' :: rest ∧
      group.length = n ∧ (∀ c ∈ group, isHexDigit c = true) ∧ isHexGroups (m :: sizes) rest = true := by
  rw [isHexGroups.eq_3 _ _ _ (List.cons_ne_nil m sizes), Bool.and_eq_true, Bool.and_eq_true,
    decide_eq_true_eq, List.all_eq_true]
  constructor
  · rintro ⟨⟨hlen, hdigits⟩, h⟩
    split at h
    · next rest hrest =>
      refine ⟨s.take n, rest, ?_, hlen, hdigits, h⟩
      rw [← hrest, List.take_append_drop]
    · cases h
  · rintro ⟨group, rest, rfl, rfl, hdigits, h⟩
    rw [List.take_left, List.drop_left]
    exact ⟨⟨rfl, hdigits⟩, h⟩

theorem isHexGroups_singleton_iff :
    isHexGroups [n] s = true ↔ s.length = n ∧ ∀ c ∈ s, isHexDigit c = true := by
  simp [isHexGroups]

theorem mem_of_isHexGroups (h : isHexGroups sizes s = true) :
    ∀ c ∈ s, isHexDigit c = true ∨ c = '-' := by
  induction sizes generalizing s with
  | nil =>
    rw [isHexGroups, List.isEmpty_iff] at h
    subst h
    simp
  | cons n sizes ih =>
    cases sizes with
    | nil => exact fun c hc => .inl ((isHexGroups_singleton_iff.mp h).2 c hc)
    | cons m sizes =>
      obtain ⟨group, rest, rfl, -, hgroup, hrest⟩ := isHexGroups_cons_iff.mp h
      intro c hc
      rcases List.mem_append.mp hc with hc | hc
      · exact .inl (hgroup c hc)
      · rcases List.mem_cons.mp hc with rfl | hc
        · exact .inr rfl
        · exact ih hrest c hc

theorem isHexGroups_toLower (h : isHexGroups sizes s = true) :
    isHexGroups sizes (s.map Char.toLower) = true := by
  have hlower (group : List Char) (hgroup : ∀ c ∈ group, isHexDigit c = true) :
      ∀ c ∈ group.map Char.toLower, isHexDigit c = true :=
    List.forall_mem_map.mpr fun c hc => isHexDigit_toLower (hgroup c hc)
  induction sizes generalizing s with
  | nil =>
    rw [isHexGroups, List.isEmpty_iff] at h
    subst h
    rfl
  | cons n sizes ih =>
    cases sizes with
    | nil =>
      obtain ⟨hlen, hdigits⟩ := isHexGroups_singleton_iff.mp h
      exact isHexGroups_singleton_iff.mpr ⟨by rw [List.length_map, hlen], hlower s hdigits⟩
    | cons m sizes =>
      obtain ⟨group, rest, rfl, hlen, hgroup, hrest⟩ := isHexGroups_cons_iff.mp h
      refine isHexGroups_cons_iff.mpr ⟨group.map Char.toLower, rest.map Char.toLower, ?_, ?_,
        hlower group hgroup, ih hrest⟩
      · rw [List.map_append]
        rfl
      · rw [List.length_map, hlen]

/-- The text of an identifier in the one form that has no capitals. -/
structure IsIdentifier (s : List Char) : Prop where
  text : isUuidText s = true
  lower : s.map Char.toLower = s

theorem range_of_isUuidText (h : isUuidText s = true) (hc : c ∈ s) : 45 ≤ c.toNat ∧ c.toNat ≤ 102 := by
  rcases mem_of_isHexGroups h c hc with hc | rfl
  · have hrange := toNat_of_isHexDigit hc
    omega
  · decide

theorem lower_of_isUuidText (h : isUuidText s = true) : Text.lower s = s.map Char.toLower := by
  refine Text.lower_of_isAscii fun c hc => ?_
  have hrange := range_of_isUuidText h hc
  omega

theorem isIdentifier_lower (h : isUuidText s = true) : IsIdentifier (Text.lower s) := by
  rw [lower_of_isUuidText h]
  refine ⟨isHexGroups_toLower h, ?_⟩
  rw [List.map_map]
  exact List.map_congr_left fun c _ => Char.toLower_toLower_eq_toLower c

theorem isIdentifier_chars (u : Uuid) : IsIdentifier u.chars := by
  have hlen : (Text.hex 32 u.bits.toNat).length = 32 := Text.length_hex _ _
  have hall : ∀ k < 16, isHexDigit (Text.hexDigit k) = true ∧
      (Text.hexDigit k).toLower = Text.hexDigit k := by decide
  have hdigits (c : Char) (hc : c ∈ Text.hex 32 u.bits.toNat) :
      isHexDigit c = true ∧ c.toLower = c := by
    obtain ⟨k, hk, rfl⟩ := Text.mem_hex hc
    exact hall k hk
  have hpart (i n : Nat) : ∀ c ∈ ((Text.hex 32 u.bits.toNat).drop i).take n, isHexDigit c = true :=
    fun c hc => (hdigits c (List.mem_of_mem_drop (List.mem_of_mem_take hc))).1
  constructor
  · refine isHexGroups_cons_iff.mpr ⟨_, _, rfl, by simp [hlen], hpart 0 8, ?_⟩
    refine isHexGroups_cons_iff.mpr ⟨_, _, rfl, by simp [hlen], hpart 8 4, ?_⟩
    refine isHexGroups_cons_iff.mpr ⟨_, _, rfl, by simp [hlen], hpart 12 4, ?_⟩
    refine isHexGroups_cons_iff.mpr ⟨_, _, rfl, by simp [hlen], hpart 16 4, ?_⟩
    exact isHexGroups_singleton_iff.mpr ⟨by simp [hlen],
      fun c hc => (hdigits c (List.mem_of_mem_drop hc)).1⟩
  · refine (List.map_congr_left fun c hc => ?_).trans (List.map_id _)
    simp only [Uuid.chars, List.mem_append, List.mem_cons] at hc
    rcases hc with hc | rfl | hc | rfl | hc | rfl | hc | rfl | hc
    · exact (hdigits c (List.mem_of_mem_take hc)).2
    · rfl
    · exact (hdigits c (List.mem_of_mem_drop (List.mem_of_mem_take hc))).2
    · rfl
    · exact (hdigits c (List.mem_of_mem_drop (List.mem_of_mem_take hc))).2
    · rfl
    · exact (hdigits c (List.mem_of_mem_drop (List.mem_of_mem_take hc))).2
    · rfl
    · exact (hdigits c (List.mem_of_mem_drop hc)).2

/-- What is read as an identifier is written in its one form. -/
theorem isIdentifier_of_toUuidText? {v : Value} {t : String} (h : toUuidText? v = some t) :
    IsIdentifier t.toList := by
  unfold toUuidText? at h
  split at h
  · obtain rfl := Option.some.inj h
    rw [Uuid.text, String.toList_ofList]
    exact isIdentifier_chars _
  · dsimp only at h
    split_ifs at h with htext
    obtain rfl := Option.some.inj h
    rw [String.toList_ofList]
    exact isIdentifier_lower htext
  · cases h

theorem toUuidText?_of_isIdentifier {t : String} (h : IsIdentifier t.toList) :
    toUuidText? (.text t) = some t := by
  have htrim : trimmed t = t.toList := by
    refine Text.trim_of_not_isBlank fun c hc => ?_
    have hrange := range_of_isUuidText h.text hc
    exact Text.not_isBlank_of_visible (by omega) (by omega)
  rw [toUuidText?, htrim, if_pos h.text, lower_of_isUuidText h.text, h.lower, String.ofList_toList]

end Coercion

end Intake
