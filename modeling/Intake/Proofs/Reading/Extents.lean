import Intake.Proofs.Reading.Numbers

namespace Intake.Json

variable {s p : List Char}

/-- What is left at the first cursor is what is left at the second, with blanks after it. -/
def Cursor.Trails (c c' : Cursor) : Prop :=
  ∃ p : List Char, (∀ x ∈ p, Text.isBlank x = true) ∧ c.rest = c'.rest ++ p

variable {c c' d : Cursor} {x : Char}

namespace Cursor

theorem Trails.peek? (h : c.Trails c') (hx : Text.isBlank x = false) :
    c.peek? = some x ↔ c'.peek? = some x := by
  obtain ⟨p, hp, hc⟩ := h
  rw [Cursor.peek?, Cursor.peek?, hc]
  exact Text.head?_append_of_blank hx hp

theorem Trails.advance {n : Nat} (h : c.Trails c') (hn : n ≤ c'.rest.length) :
    (c.advance n).Trails (c'.advance n) := by
  obtain ⟨p, hp, hc⟩ := h
  refine ⟨p, hp, ?_⟩
  rw [Cursor.advance, Cursor.advance, hc, List.drop_append_of_le_length hn]

theorem Trails.skipSpace (h : c.Trails c') : (skipSpace c).Trails (skipSpace c') := by
  obtain ⟨p, hp, hc⟩ := h
  by_cases hall : ∀ x ∈ c'.rest, isSpace x = true
  · refine ⟨p.dropWhile isSpace, fun x hx => hp x ((List.dropWhile_sublist _).subset hx), ?_⟩
    rw [rest_skipSpace, rest_skipSpace, hc, List.dropWhile_append_of_pos hall,
      List.dropWhile_eq_nil_iff.mpr hall, List.nil_append]
  · refine ⟨p, hp, ?_⟩
    have hne : (c'.rest.dropWhile isSpace).isEmpty = false := by
      rw [List.isEmpty_eq_false_iff]
      exact mt List.dropWhile_eq_nil_iff.mp hall
    rw [rest_skipSpace, rest_skipSpace, hc, List.dropWhile_append, hne]
    rfl

end Cursor

theorem isBlank_of_isSpace (h : isSpace x = true) : Text.isBlank x = true := by
  simp only [isSpace, Bool.or_eq_true, decide_eq_true_eq] at h
  obtain ((rfl | rfl) | rfl) | rfl := h <;> decide

/-- No text ends among blanks. -/
theorem textFrom_of_blank {start fuel : Nat} {acc : List Char}
    (h : ∀ x ∈ c.rest, Text.isBlank x = true) (r : List Char × Cursor) :
    textFrom start fuel acc c ≠ .ok r := by
  induction fuel generalizing acc c with
  | zero => exact nofun
  | succ fuel ih =>
    obtain ⟨_ | ⟨x, t⟩, offset⟩ := c
    · exact nofun
    have hx (y : Char) (hy : Text.isBlank y = false) : x ≠ y := by
      rintro rfl
      exact Bool.noConfusion (hy.symm.trans (h x List.mem_cons_self))
    have ht : textFrom start fuel (x :: acc) ⟨t, offset + 1⟩ ≠ .ok r :=
      ih (List.forall_mem_of_forall_mem_cons h)
    unfold textFrom
    split
    · exact nofun
    · next heq => exact absurd (List.cons.inj heq).1 (hx '"' (by decide))
    · next heq => exact absurd (List.cons.inj heq).1 (hx '\\' (by decide))
    · next heq => exact absurd (List.cons.inj heq).1 (hx '\\' (by decide))
    · next heq => exact absurd (List.cons.inj heq).1 (hx '\\' (by decide))
    · next heq =>
      obtain ⟨rfl, rfl⟩ := List.cons.inj heq
      split_ifs
      · exact nofun
      · exact ht

theorem hexValue?_of_isBlank (h : Text.isBlank x = true) : hexValue? x = none := by
  have hx := Text.of_isBlank (p := fun c => (hexValue? c).isNone) (by decide) h
  simpa using hx

theorem isSome_hexValue?_of_foldlM {l : List Char} {n u : Nat}
    (h : l.foldlM (fun n c => (hexValue? c).map (16 * n + ·)) n = some u) :
    ∀ x ∈ l, hexValue? x ≠ none := by
  induction l generalizing n with
  | nil => exact nofun
  | cons y l ih =>
    rw [List.foldlM_cons] at h
    obtain ⟨m, hm, h⟩ := Option.bind_eq_some_iff.mp h
    obtain ⟨v, hv, -⟩ := Option.map_eq_some_iff.mp hm
    exact List.forall_mem_cons.mpr ⟨hv ▸ Option.some_ne_none v, ih h⟩

theorem unit?_append (h : 4 ≤ s.length) (p : List Char) : unit? (s ++ p) = unit? s := by
  have hlong : ¬(s ++ p).length < 4 := by
    rw [List.length_append]
    omega
  rw [unit?, unit?, if_neg hlong, if_neg (Nat.not_lt.mpr h), List.take_append_of_le_length h]

/-- The digits of a code unit stand before the blanks. -/
theorem length_of_unit?_append {u : Nat} (hp : ∀ x ∈ p, Text.isBlank x = true)
    (h : unit? (s ++ p) = some u) : 4 ≤ s.length := by
  by_contra hs
  unfold unit? at h
  split_ifs at h with hlong
  have hpos : 0 < 4 - s.length := by omega
  rw [List.length_append] at hlong
  obtain ⟨y, q, rfl⟩ := List.exists_cons_of_ne_nil (fun hnil : p = [] => by
    rw [hnil, List.length_nil] at hlong
    omega)
  have hmem : y ∈ (s ++ y :: q).take 4 := by
    rw [List.take_append, List.mem_append]
    right
    obtain ⟨k, hk⟩ := Nat.exists_eq_add_of_lt hpos
    rw [hk, Nat.zero_add, List.take_succ_cons]
    exact List.mem_cons_self
  exact isSome_hexValue?_of_foldlM h y hmem (hexValue?_of_isBlank (hp y List.mem_cons_self))

/-- The second half of a pair is found alike without the blanks, unless it is cut off with them. -/
theorem lowHalf?_append {o : Nat} {r : Option Nat} (o' : Nat) (hp : ∀ x ∈ p, Text.isBlank x = true)
    (h : lowHalf? (s ++ p) o = .ok r) :
    (lowHalf? s o' = .ok r ∧ (r ≠ none → 6 ≤ s.length)) ∨ (s.length = 6 ∧ r ≠ none) := by
  have hblank {y : Char} {q : List Char} (hq : p = y :: q) : Text.isBlank y = true :=
    hp y (hq ▸ List.mem_cons_self)
  by_cases hs : ∃ t, s = '\\' :: 'u' :: t
  · obtain ⟨t, rfl⟩ := hs
    have hlength : ('\\' :: 'u' :: (t ++ p)).length = t.length + p.length + 2 := by
      rw [List.length_cons, List.length_cons, List.length_append]
    have hshort : ('\\' :: 'u' :: t).length = t.length + 2 := rfl
    rw [List.cons_append, List.cons_append, lowHalf?, hlength] at h
    rw [lowHalf?, hshort]
    split_ifs at h with hl
    · obtain rfl := Except.ok.inj h
      exact .inl ⟨if_pos (by omega), fun hne => absurd rfl hne⟩
    · split at h
      · cases h
      · next u hu =>
        have hdigits := length_of_unit?_append hp hu
        rw [unit?_append hdigits] at hu
        obtain rfl := Except.ok.inj h
        by_cases hcut : t.length + 2 ≤ 6
        · rw [if_pos hcut]
          by_cases hlow : (0xDC00 ≤ u && u ≤ 0xDFFF) = true
          · rw [if_pos hlow]
            exact .inr ⟨by omega, Option.some_ne_none u⟩
          · rw [if_neg hlow]
            exact .inl ⟨rfl, fun hne => absurd rfl hne⟩
        · rw [if_neg hcut, hu]
          exact .inl ⟨rfl, fun _ => by omega⟩
  · have hnone : lowHalf? s o' = .ok none := by
      unfold lowHalf?
      split
      · next t => exact absurd ⟨t, rfl⟩ hs
      · rfl
    unfold lowHalf? at h
    split at h
    · next t heq =>
      obtain _ | ⟨y, _ | ⟨z, s⟩⟩ := s
      · exact absurd (hblank heq) (by decide)
      · exact absurd (hblank (List.cons.inj heq).2) (by decide)
      · obtain ⟨rfl, htail⟩ := List.cons.inj heq
        obtain ⟨rfl, -⟩ := List.cons.inj htail
        exact absurd ⟨s, rfl⟩ hs
    · obtain rfl := Except.ok.inj h
      exact .inl ⟨hnone, fun hne => absurd rfl hne⟩

theorem textFrom_plain {start fuel offset : Nat} {acc t : List Char} (hq : x ≠ '"')
    (hs : x ≠ '\\') :
    textFrom start (fuel + 1) acc ⟨x :: t, offset⟩ =
      if x.toNat < 32 then Cursor.fail ⟨x :: t, offset⟩ .controlCharacter
      else textFrom start fuel (x :: acc) ⟨t, offset + 1⟩ := by
  rw [textFrom]
  split
  · next heq => cases heq
  · next heq => exact absurd (List.cons.inj heq).1 hq
  · next heq => exact absurd (List.cons.inj heq).1 hs
  · next heq => exact absurd (List.cons.inj heq).1 hs
  · next heq => exact absurd (List.cons.inj heq).1 hs
  · next heq =>
    obtain ⟨rfl, rfl⟩ := List.cons.inj heq
    rfl

theorem textFrom_escape {start fuel offset : Nat} {acc t : List Char} (hu : x ≠ 'u') :
    textFrom start (fuel + 1) acc ⟨'\\' :: x :: t, offset⟩ =
      match shortEscape? x with
      | none => Cursor.fail ⟨'\\' :: x :: t, offset⟩ .badEscape
      | some y => textFrom start fuel (y :: acc) ⟨t, offset + 2⟩ := by
  rw [textFrom]
  split
  · next heq => cases heq
  · next heq => exact absurd (List.cons.inj heq).1 (by decide)
  · next heq => cases heq
  · next heq => exact absurd (List.cons.inj (List.cons.inj heq).2).1 hu
  · next heq =>
    obtain ⟨rfl, rfl⟩ := List.cons.inj (List.cons.inj heq).2
    rfl
  · next hne heq =>
    obtain ⟨hx, ht⟩ := List.cons.inj heq
    exact (hne x t hx.symm ht.symm).elim

theorem textFrom_unit {start fuel offset : Nat} {acc t : List Char} :
    textFrom start (fuel + 1) acc ⟨'\\' :: 'u' :: t, offset⟩ =
      if t.length < 5 then Cursor.fail ⟨'u' :: t, offset + 1⟩ .badUnicodeEscape
      else match unit? t with
        | none => Cursor.fail ⟨'u' :: t, offset + 1⟩ .badUnicodeEscape
        | some u =>
          if 0xD800 ≤ u && u ≤ 0xDBFF then
            match lowHalf? (t.drop 4) (offset + 6) with
            | .error e => .error e
            | .ok (some low) =>
              textFrom start fuel
                (Char.ofNat (0x10000 + (u - 0xD800) * 0x400 + (low - 0xDC00)) :: acc)
                ⟨(t.drop 4).drop 6, offset + 6 + 6⟩
            | .ok none => textFrom start fuel (unitChar u :: acc) ⟨t.drop 4, offset + 6⟩
          else textFrom start fuel (unitChar u :: acc) ⟨t.drop 4, offset + 6⟩ := rfl

theorem shortEscape?_of_isBlank (h : Text.isBlank x = true) : shortEscape? x = none := by
  have hx := Text.of_isBlank (p := fun c => (shortEscape? c).isNone) (by decide) h
  simpa using hx

/-- A reading from the second cursor comes to a value and moves on. It stops where the first cursor has
blanks at most to read in addition. -/
def Cursor.Reads {α : Type} (c' d : Cursor) (v : α) (r : Except Stop (α × Cursor)) : Prop :=
  ∃ d', r = .ok (v, d') ∧ d.Trails d' ∧ d'.rest.length < c'.rest.length

theorem Cursor.Reads.mono {α : Type} {v : α} {r : Except Stop (α × Cursor)} {e : Cursor}
    (h : Cursor.Reads c' d v r) (hle : c'.rest.length ≤ e.rest.length) : Cursor.Reads e d v r := by
  obtain ⟨d', hr, ht, hlt⟩ := h
  exact ⟨d', hr, ht, hlt.trans_le hle⟩

section

variable {start start' fuel fuel' : Nat} {acc cs : List Char}

/-- The step of `textFrom_trails` for a code unit, from what holds with less fuel. -/
theorem textFrom_trails_of_unit {offset offset' : Nat}
    (ih : ∀ acc c c' fuel', textFrom start fuel acc c = .ok (cs, d) → c.Trails c' →
      c'.rest.length ≤ fuel' → Cursor.Reads c' d cs (textFrom start' fuel' acc c'))
    (hp : ∀ x ∈ p, Text.isBlank x = true)
    (h : textFrom start (fuel + 1) acc ⟨'\\' :: 'u' :: (s ++ p), offset⟩ = .ok (cs, d))
    (hfuel : s.length ≤ fuel') :
    Cursor.Reads ⟨'\\' :: 'u' :: s, offset'⟩ d cs
      (textFrom start' (fuel' + 1) acc ⟨'\\' :: 'u' :: s, offset'⟩) := by
  rw [textFrom_unit] at h ⊢
  split_ifs at h with hl
  · cases h
  split at h
  · cases h
  next u hu =>
  have hdigits := length_of_unit?_append hp hu
  rw [unit?_append hdigits] at hu
  rw [List.drop_append_of_le_length hdigits] at h
  have hlength : (s.drop 4).length = s.length - 4 := List.length_drop
  have hafter : (s.drop 4).length ≤ fuel' := by omega
  have hmore : ∀ acc, textFrom start fuel acc ⟨s.drop 4 ++ p, offset + 6⟩ = .ok (cs, d) →
      Cursor.Reads ⟨'\\' :: 'u' :: s, offset'⟩ d cs
        (textFrom start' fuel' acc ⟨s.drop 4, offset' + 6⟩) := by
    intro acc h
    apply (ih acc _ ⟨s.drop 4, offset' + 6⟩ fuel' h ⟨p, hp, rfl⟩ hafter).mono
    simp only [List.length_cons]
    omega
  -- Nothing but blanks after the digits would leave the text open.
  have hlong : ¬s.length < 5 := by
    intro hcut
    rw [List.drop_eq_nil_of_le (by omega : s.length ≤ 4), List.nil_append] at h
    split_ifs at h
    · split at h
      · cases h
      · exact textFrom_of_blank (fun x hx => hp x (List.mem_of_mem_drop hx)) _ h
      · exact textFrom_of_blank hp _ h
    · exact textFrom_of_blank hp _ h
  rw [if_neg hlong, hu]
  dsimp only
  split_ifs at h ⊢ with hhigh
  · split at h
    · cases h
    · next low hlow =>
      rcases lowHalf?_append (offset' + 6) hp hlow with ⟨hlow, hsix⟩ | ⟨hsix, -⟩
      · have hsix := hsix (Option.some_ne_none low)
        rw [List.drop_append_of_le_length hsix] at h
        rw [hlow]
        apply (ih _ _ ⟨(s.drop 4).drop 6, offset' + 6 + 6⟩ fuel' h ⟨p, hp, rfl⟩ _).mono
        all_goals simp only [List.length_cons, List.length_drop]; omega
      · rw [List.drop_left' hsix] at h
        exact absurd h (textFrom_of_blank hp _)
    · next hlow =>
      rcases lowHalf?_append (offset' + 6) hp hlow with ⟨hlow, -⟩ | ⟨-, hne⟩
      · rw [hlow]
        exact hmore _ h
      · exact absurd rfl hne
  · exact hmore _ h

/-- A text is read alike where blanks that stand after it are taken away. -/
theorem textFrom_trails (h : textFrom start fuel acc c = .ok (cs, d)) (hc : c.Trails c')
    (hfuel : c'.rest.length ≤ fuel') : Cursor.Reads c' d cs (textFrom start' fuel' acc c') := by
  induction fuel generalizing acc c c' fuel' with
  | zero => cases h
  | succ fuel ih =>
    obtain ⟨p, hp, hrest⟩ := hc
    obtain ⟨l, offset⟩ := c
    obtain ⟨_ | ⟨x, s⟩, offset'⟩ := c'
    · obtain rfl : l = p := hrest
      exact absurd h (textFrom_of_blank hp _)
    obtain rfl : l = x :: (s ++ p) := hrest
    obtain ⟨fuel', rfl⟩ : ∃ n, fuel' = n + 1 := Nat.exists_eq_succ_of_ne_zero (by
      rw [List.length_cons] at hfuel
      omega)
    have hle : s.length ≤ fuel' := Nat.le_of_succ_le_succ hfuel
    by_cases hq : x = '"'
    · subst hq
      obtain ⟨rfl, rfl⟩ := Prod.mk.inj (Except.ok.inj h)
      exact ⟨⟨s, offset' + 1⟩, rfl, ⟨p, hp, rfl⟩, Nat.lt_succ_self _⟩
    by_cases hs : x = '\\'
    · subst hs
      cases s with
      | nil =>
        cases p with
        | nil => cases h
        | cons y p =>
          have hy := hp y List.mem_cons_self
          have hu : y ≠ 'u' := by
            rintro rfl
            exact absurd hy (by decide)
          rw [List.nil_append, textFrom_escape hu, shortEscape?_of_isBlank hy] at h
          cases h
      | cons y s =>
        by_cases hu : y = 'u'
        · subst hu
          exact textFrom_trails_of_unit (fun _ _ _ _ h hc hf => ih h hc hf) hp h
            (Nat.le_of_succ_le hle)
        · rw [List.cons_append, textFrom_escape hu] at h
          rw [textFrom_escape hu]
          cases he : shortEscape? y with
          | none =>
            rw [he] at h
            cases h
          | some z =>
            rw [he] at h
            have hread : Cursor.Reads ⟨s, offset' + 2⟩ d cs _ :=
              ih h ⟨p, hp, rfl⟩ (Nat.le_of_succ_le hle)
            exact hread.mono (Nat.le_add_right _ 2)
    · rw [textFrom_plain hq hs] at h ⊢
      split_ifs at h ⊢ with hx
      · cases h
      · have hread : Cursor.Reads ⟨s, offset' + 1⟩ d cs _ := ih h ⟨p, hp, rfl⟩ hle
        exact hread.mono (Nat.le_succ _)

end

theorem readText_trails {t : String} (h : readText c = .ok (t, d)) (hc : c.Trails c')
    (hstart : c'.rest ≠ []) : Cursor.Reads c' d t (readText c') := by
  have hone : 1 ≤ c'.rest.length := List.length_pos_iff.mpr hstart
  have hrest : (c'.advance 1).rest.length = c'.rest.length - 1 := List.length_drop
  unfold readText at h ⊢
  rcases hread : textFrom c.offset c.rest.length [] (c.advance 1) with e | ⟨cs, e⟩
  · rw [hread] at h
    cases h
  · rw [hread] at h
    obtain ⟨rfl, rfl⟩ := Prod.mk.inj (Except.ok.inj h)
    have hreads : Cursor.Reads (c'.advance 1) e cs
        (textFrom c'.offset c'.rest.length [] (c'.advance 1)) :=
      textFrom_trails hread (hc.advance hone) (hrest.trans_le (Nat.sub_le _ 1))
    obtain ⟨d', hread', htrails, hlt⟩ := hreads
    rw [hread']
    exact ⟨d', rfl, htrails, by omega⟩

variable {v : Value}

theorem readNumber_trails (h : readNumber c = .ok (v, d)) (hc : c.Trails c') :
    Cursor.Reads c' d v (readNumber c') := by
  obtain ⟨p, hp, hrest⟩ := hc
  rw [readNumber_eq, hrest, magnitude_append_of_blank hp, wholeOf_append_of_blank hp,
    number_append_of_blank hp, numberLength_append_of_blank hp] at h
  rw [readNumber_eq]
  split_ifs at h ⊢ with hw
  · cases h
  · obtain ⟨hpos, hle⟩ := numberLength_le hw
    cases hn : number c'.rest with
    | error e =>
      rw [hn] at h
      cases h
    | ok w =>
      rw [hn] at h
      obtain ⟨rfl, rfl⟩ := Prod.mk.inj (Except.ok.inj h)
      refine ⟨c'.advance (numberLength c'.rest), rfl, Cursor.Trails.advance ⟨p, hp, hrest⟩ hle, ?_⟩
      rw [Cursor.advance, List.length_drop]
      omega

theorem keyword_trails (hc : c.Trails c') :
    (keywords.find? fun e => e.1.isPrefixOf c.rest) =
      keywords.find? fun e => e.1.isPrefixOf c'.rest := by
  obtain ⟨p, hp, hrest⟩ := hc
  have hword : (keywords.all fun e => e.1.all fun x => !Text.isBlank x) = true := by decide
  apply List.find?_congr
  intro e he
  have hblank (x : Char) (hx : x ∈ e.1) : Text.isBlank x = false := by
    simpa using List.all_eq_true.mp (List.all_eq_true.mp hword e he) x hx
  rw [hrest, Text.isPrefixOf_append_of_blank hblank hp]

theorem readScalar_of_quote {t : List Char} (h : c.rest = '"' :: t) :
    readScalar c = (readText c).map fun r => (.text r.1, r.2) := by
  unfold readScalar
  split
  · cases readText c <;> rfl
  · next hne => exact absurd h (hne t)

theorem readScalar_of_word (h : ¬c.peek? = some '"') :
    readScalar c =
      match keywords.find? fun e => e.1.isPrefixOf c.rest with
      | some (word, v) => .ok (v, c.advance word.length)
      | none => readNumber c := by
  unfold readScalar
  split
  · next heq =>
    rw [Cursor.peek?, heq] at h
    exact absurd List.head?_cons h
  · rfl

theorem readScalar_trails (h : readScalar c = .ok (v, d)) (hc : c.Trails c') :
    Cursor.Reads c' d v (readScalar c') := by
  have hquote : c.peek? = some '"' ↔ c'.peek? = some '"' := hc.peek? (by decide)
  by_cases hq : c'.peek? = some '"'
  · obtain ⟨t, ht⟩ := List.head?_eq_some_iff.mp hq
    obtain ⟨u, hu⟩ := List.head?_eq_some_iff.mp (hquote.mpr hq)
    rw [readScalar_of_quote hu] at h
    rw [readScalar_of_quote ht]
    cases hr : readText c with
    | error e =>
      rw [hr] at h
      cases h
    | ok r =>
      obtain ⟨w, e⟩ := r
      rw [hr] at h
      obtain ⟨rfl, rfl⟩ := Prod.mk.inj (Except.ok.inj h)
      obtain ⟨d', hread, htrails, hlt⟩ := readText_trails hr hc (ht ▸ List.cons_ne_nil _ _)
      rw [hread]
      exact ⟨d', rfl, htrails, hlt⟩
  · rw [readScalar_of_word (mt hquote.mp hq), keyword_trails hc] at h
    rw [readScalar_of_word hq]
    cases hw : keywords.find? fun e => e.1.isPrefixOf c'.rest with
    | none =>
      rw [hw] at h
      exact readNumber_trails h hc
    | some e =>
      obtain ⟨word, w⟩ := e
      rw [hw] at h
      obtain ⟨rfl, rfl⟩ := Prod.mk.inj (Except.ok.inj h)
      have hprefix := List.find?_some (p := fun e : List Char × Value => e.1.isPrefixOf c'.rest) hw
      have hle : word.length ≤ c'.rest.length := (List.isPrefixOf_iff_prefix.mp hprefix).length_le
      have hpos : 0 < word.length := by
        have hword : (keywords.all fun e => decide (0 < e.1.length)) = true := by decide
        simpa using List.all_eq_true.mp hword _ (List.mem_of_find?_eq_some hw)
      refine ⟨c'.advance word.length, rfl, hc.advance hle, ?_⟩
      rw [Cursor.advance, List.length_drop]
      omega

end Intake.Json
