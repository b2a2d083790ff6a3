import Intake.Proofs.Reading.Extents

namespace Intake.Json

variable {c c' d : Cursor} {x : Char} {v : Value}

theorem length_skipSpace_le (c : Cursor) : (skipSpace c).rest.length ≤ c.rest.length := by
  rw [rest_skipSpace]
  exact (List.dropWhile_suffix _).length_le

theorem Cursor.length_of_peek? (h : c.peek? = some x) :
    (c.advance 1).rest.length + 1 = c.rest.length := by
  obtain ⟨t, ht⟩ := List.head?_eq_some_iff.mp h
  rw [Cursor.advance, ht]
  rfl

theorem Cursor.Trails.past (h : c.Trails c') (hx : c'.peek? = some x) :
    (c.advance 1).Trails (c'.advance 1) :=
  h.advance (Cursor.length_of_peek? hx ▸ Nat.le_add_left 1 _)

section

variable {α β : Type}

/-- What comes of a container from its opening mark on: nothing is in it, or there is more to read. -/
def container (depth : Nat) (close : Char) (wrap : α → Value) (nothing : α) (inside : Cursor)
    (more : Except Stop (α × Cursor)) : Except Stop (Value × Cursor) :=
  if depth = 0 then .error .tooDeep
  else if inside.peek? = some close then .ok (wrap nothing, inside.advance 1)
  else more.map fun r => (wrap r.1, r.2)

/-- What comes of a container from the end of one of its members on. -/
def continued (close : Char) (all : α) (next : Cursor) (more : Except Stop (α × Cursor)) :
    Except Stop (α × Cursor) :=
  if next.peek? = some close then .ok (all, next.advance 1)
  else if next.peek? = some ',' then more
  else next.fail .noComma

theorem reads_map {a : α} {r : Except Stop (α × Cursor)} (h : Cursor.Reads c' d a r) (f : α → β) :
    Cursor.Reads c' d (f a) (r.map fun r => (f r.1, r.2)) := by
  obtain ⟨d', rfl, h⟩ := h
  exact ⟨d', rfl, h⟩

theorem reads_past (h : c.Trails c') (hx : c'.peek? = some x) (a : α) :
    Cursor.Reads c' (c.advance 1) a (.ok (a, c'.advance 1)) :=
  ⟨_, rfl, h.past hx, Nat.lt_of_succ_le (Cursor.length_of_peek? hx).le⟩

variable {close : Char} {more more' : Except Stop (α × Cursor)}

theorem container_trails {depth : Nat} {wrap : α → Value} {nothing : α} {v : Value}
    (hclose : Text.isBlank close = false) (hc : c.Trails c')
    (hmore : ∀ a, more = .ok (a, d) → Cursor.Reads c' d a more')
    (h : container depth close wrap nothing c more = .ok (v, d)) :
    Cursor.Reads c' d v (container depth close wrap nothing c' more') := by
  unfold container at h ⊢
  simp only [hc.peek? hclose] at h
  split_ifs at h ⊢ with hd hempty
  · obtain ⟨rfl, rfl⟩ := Prod.mk.inj (Except.ok.inj h)
    exact reads_past hc hempty _
  · rcases more with e | ⟨a, e⟩
    · cases h
    · obtain ⟨rfl, rfl⟩ := Prod.mk.inj (Except.ok.inj h)
      exact reads_map (hmore a rfl) wrap

theorem continued_trails {all a : α} (hclose : Text.isBlank close = false) (hc : c.Trails c')
    (hmore : c'.peek? = some ',' → more = .ok (a, d) → Cursor.Reads c' d a more')
    (h : continued close all c more = .ok (a, d)) :
    Cursor.Reads c' d a (continued close all c' more') := by
  unfold continued at h ⊢
  simp only [hc.peek? hclose, hc.peek? (by decide : Text.isBlank ',' = false)] at h
  split_ifs at h ⊢ with hend hcomma
  · obtain ⟨rfl, rfl⟩ := Prod.mk.inj (Except.ok.inj h)
    exact reads_past hc hend _
  · exact hmore hcomma h
  · cases h

end

theorem readValue_list (depth fuel : Nat) (h : c.peek? = some '[') :
    readValue depth (fuel + 1) c =
      container depth ']' .list [] (skipSpace (c.advance 1))
        (readItems (depth - 1) fuel [] (skipSpace (c.advance 1))) := by
  obtain ⟨t, ht⟩ := List.head?_eq_some_iff.mp h
  rw [readValue, container]
  split
  · dsimp only
    split_ifs
    · rfl
    · rfl
    · cases readItems (depth - 1) fuel [] (skipSpace (c.advance 1)) <;> rfl
  · next heq => cases ht.symm.trans heq
  · next hne _ => exact absurd ht (hne t)

theorem readValue_map (depth fuel : Nat) (h : c.peek? = some '\x7b') :
    readValue depth (fuel + 1) c =
      container depth '\x7d' .map [] (skipSpace (c.advance 1))
        (readEntries (depth - 1) fuel [] (skipSpace (c.advance 1))) := by
  obtain ⟨t, ht⟩ := List.head?_eq_some_iff.mp h
  rw [readValue, container]
  split
  · next heq => cases ht.symm.trans heq
  · dsimp only
    split_ifs
    · rfl
    · rfl
    · cases readEntries (depth - 1) fuel [] (skipSpace (c.advance 1)) <;> rfl
  · next hne => exact absurd ht (hne t)

theorem readItems_of_value {depth fuel : Nat} {acc : List Value} {v : Value} {e : Cursor}
    (h : readValue depth fuel c = .ok (v, e)) :
    readItems depth (fuel + 1) acc c =
      continued ']' (v :: acc).reverse (skipSpace e)
        (readItems depth fuel (v :: acc) (skipSpace ((skipSpace e).advance 1))) := by
  rw [readItems, h, continued]
  dsimp only [bind, Except.bind]
  split
  · next hp => rw [if_pos hp]
  · next hp => rw [hp, if_neg (by decide), if_pos rfl]
  · next hend hcomma => rw [if_neg hend, if_neg hcomma]

theorem readEntries_of_value {depth fuel : Nat} {acc : Table Value} {name : String} {v : Value}
    {e e' : Cursor} (hname : c.peek? = some '"') (h : readText c = .ok (name, e))
    (hcolon : (skipSpace e).peek? = some ':')
    (hvalue : readValue depth fuel (skipSpace ((skipSpace e).advance 1)) = .ok (v, e')) :
    readEntries depth (fuel + 1) acc c =
      continued '\x7d' (Table.put acc name v) (skipSpace e')
        (readEntries depth fuel (Table.put acc name v) (skipSpace ((skipSpace e').advance 1))) := by
  rw [readEntries, hname, h, continued]
  dsimp only [bind, Except.bind]
  rw [hcolon]
  simp only [bne_self_eq_false, Bool.false_eq_true, if_false, hvalue]
  split
  · next hp => rw [if_pos hp]
  · next hp => rw [hp, if_neg (by decide), if_pos rfl]
  · next hend hcomma => rw [if_neg hend, if_neg hcomma]

theorem readValue_scalar (depth fuel : Nat) (hl : ¬c.peek? = some '[')
    (hm : ¬c.peek? = some '\x7b') : readValue depth (fuel + 1) c = readScalar c := by
  rw [readValue]
  split
  · next heq => exact absurd (by rw [Cursor.peek?, heq, List.head?_cons]) hl
  · next heq => exact absurd (by rw [Cursor.peek?, heq, List.head?_cons]) hm
  · rfl

theorem isStart_of_readValue {depth fuel : Nat} {r : Value × Cursor}
    (h : readValue depth fuel c = .ok r) : ∃ x t, c.rest = x :: t ∧ isStart x = true := by
  obtain ⟨l, offset⟩ := c
  cases fuel with
  | zero =>
    rw [readValue] at h
    cases h
  | succ fuel =>
    cases l with
    | nil =>
      rw [readValue_scalar depth fuel (by simp [Cursor.peek?]) (by simp [Cursor.peek?])] at h
      cases h
    | cons x t =>
      refine ⟨x, t, rfl, ?_⟩
      by_contra hx
      rw [readValue_of_not_isStart depth fuel (Bool.eq_false_iff.mpr hx)] at h
      cases h

theorem exists_cons_of_readValue {depth fuel : Nat} {r : Value × Cursor}
    (h : readValue depth fuel c = .ok r) (hc : c.Trails c') :
    ∃ x t, c'.rest = x :: t ∧ isStart x = true := by
  obtain ⟨x, t, ht, hx⟩ := isStart_of_readValue h
  have hblank : Text.isBlank x = false := by
    by_contra hblank
    rw [isStart_of_isBlank (Bool.eq_true_of_not_eq_false hblank)] at hx
    cases hx
  have hhead : c'.peek? = some x := (hc.peek? hblank).mp (by rw [Cursor.peek?, ht, List.head?_cons])
  obtain ⟨t', ht'⟩ := List.head?_eq_some_iff.mp hhead
  exact ⟨x, t', ht', hx⟩

theorem exists_of_readItems {depth fuel : Nat} {acc : List Value} {r : List Value × Cursor}
    (h : readItems depth (fuel + 1) acc c = .ok r) : ∃ v e, readValue depth fuel c = .ok (v, e) := by
  rw [readItems] at h
  rcases hv : readValue depth fuel c with e | ⟨v, e⟩
  · rw [hv] at h
    cases h
  · exact ⟨v, e, rfl⟩

theorem exists_of_readEntries {depth fuel : Nat} {acc : Table Value} {r : Table Value × Cursor}
    (h : readEntries depth (fuel + 1) acc c = .ok r) :
    c.peek? = some '"' ∧ ∃ name e, readText c = .ok (name, e) ∧ (skipSpace e).peek? = some ':' ∧
      ∃ v e', readValue depth fuel (skipSpace ((skipSpace e).advance 1)) = .ok (v, e') := by
  rw [readEntries] at h
  by_cases hq : c.peek? = some '"'
  · rcases hname : readText c with e | ⟨name, e⟩
    · rw [hq, hname] at h
      cases h
    rw [hq, hname] at h
    dsimp only [bind, Except.bind] at h
    by_cases hcolon : (skipSpace e).peek? = some ':'
    · rw [hcolon] at h
      rcases hv : readValue depth fuel (skipSpace ((skipSpace e).advance 1)) with e' | ⟨v, e'⟩
      · rw [hv] at h
        cases h
      · exact ⟨hq, name, e, rfl, hcolon, v, e', hv⟩
    · rw [bne_iff_ne.mpr hcolon] at h
      cases h
  · rw [bne_iff_ne.mpr hq] at h
    cases h

/-- Values are read alike where blanks that stand after them are taken away, with this much fuel and with
what is enough for the second reading. -/
structure ReadsTrimmed (fuel : Nat) : Prop where
  value : ∀ (fuel' : Nat) {depth c c' v d}, readValue depth fuel c = .ok (v, d) → c.Trails c' →
    2 * c'.rest.length ≤ fuel' → Cursor.Reads c' d v (readValue depth fuel' c')
  items : ∀ (fuel' : Nat) {depth acc c c' vs d}, readItems depth fuel acc c = .ok (vs, d) →
    c.Trails c' → 2 * c'.rest.length < fuel' → Cursor.Reads c' d vs (readItems depth fuel' acc c')
  entries : ∀ (fuel' : Nat) {depth acc c c' es d}, readEntries depth fuel acc c = .ok (es, d) →
    c.Trails c' → 2 * c'.rest.length < fuel' →
    Cursor.Reads c' d es (readEntries depth fuel' acc c')

theorem readValue_trails {depth fuel fuel' : Nat} (ih : ReadsTrimmed fuel)
    (h : readValue depth (fuel + 1) c = .ok (v, d)) (hc : c.Trails c')
    (hfuel : 2 * c'.rest.length ≤ fuel') : Cursor.Reads c' d v (readValue depth fuel' c') := by
  obtain ⟨x, t, ht, -⟩ := exists_cons_of_readValue h hc
  have hlength : (c'.advance 1).rest.length + 1 = c'.rest.length :=
    Cursor.length_of_peek? (by rw [Cursor.peek?, ht, List.head?_cons])
  have hinside := length_skipSpace_le (c'.advance 1)
  obtain ⟨fuel', rfl⟩ : ∃ n, fuel' = n + 1 := Nat.exists_eq_succ_of_ne_zero (by omega)
  have hlist : c.peek? = some '[' ↔ c'.peek? = some '[' := hc.peek? (by decide)
  have hmap : c.peek? = some '\x7b' ↔ c'.peek? = some '\x7b' := hc.peek? (by decide)
  by_cases hl : c'.peek? = some '['
  · rw [readValue_list depth fuel (hlist.mpr hl)] at h
    rw [readValue_list depth fuel' hl]
    have hin := (hc.past hl).skipSpace
    have hread := container_trails (by decide) hin (fun a ha => ih.items fuel' ha hin (by omega)) h
    exact hread.mono (by omega)
  by_cases hm : c'.peek? = some '\x7b'
  · rw [readValue_map depth fuel (hmap.mpr hm)] at h
    rw [readValue_map depth fuel' hm]
    have hin := (hc.past hm).skipSpace
    have hread := container_trails (by decide) hin (fun a ha => ih.entries fuel' ha hin (by omega)) h
    exact hread.mono (by omega)
  · rw [readValue_scalar depth fuel (mt hlist.mp hl) (mt hmap.mp hm)] at h
    rw [readValue_scalar depth fuel' hl hm]
    exact readScalar_trails h hc

theorem readItems_trails {depth fuel fuel' : Nat} {acc vs : List Value} (ih : ReadsTrimmed fuel)
    (h : readItems depth (fuel + 1) acc c = .ok (vs, d)) (hc : c.Trails c')
    (hfuel : 2 * c'.rest.length < fuel') : Cursor.Reads c' d vs (readItems depth fuel' acc c') := by
  obtain ⟨fuel', rfl⟩ : ∃ n, fuel' = n + 1 := Nat.exists_eq_succ_of_ne_zero (by omega)
  obtain ⟨v, e, hv⟩ := exists_of_readItems h
  obtain ⟨e', hv', he, hlt⟩ := ih.value fuel' hv hc (Nat.le_of_lt_succ hfuel)
  rw [readItems_of_value hv] at h
  rw [readItems_of_value hv']
  have hnext := length_skipSpace_le e'
  refine (continued_trails (by decide) he.skipSpace (fun hcomma hmore => ?_) h).mono (by omega)
  have hlength := Cursor.length_of_peek? hcomma
  have hafter := length_skipSpace_le ((skipSpace e').advance 1)
  exact (ih.items fuel' hmore (he.skipSpace.past hcomma).skipSpace (by omega)).mono (by omega)

theorem readEntries_trails {depth fuel fuel' : Nat} {acc es : Table Value} (ih : ReadsTrimmed fuel)
    (h : readEntries depth (fuel + 1) acc c = .ok (es, d)) (hc : c.Trails c')
    (hfuel : 2 * c'.rest.length < fuel') :
    Cursor.Reads c' d es (readEntries depth fuel' acc c') := by
  obtain ⟨fuel', rfl⟩ : ∃ n, fuel' = n + 1 := Nat.exists_eq_succ_of_ne_zero (by omega)
  obtain ⟨hquote, name, e, hname, hcolon, v, f, hv⟩ := exists_of_readEntries h
  have hquote' : c'.peek? = some '"' := (hc.peek? (by decide)).mp hquote
  have hlength := Cursor.length_of_peek? hquote'
  obtain ⟨e', hname', he, hlt⟩ := readText_trails hname hc (by
    intro hnil
    rw [Cursor.peek?, hnil] at hquote'
    cases hquote')
  have hcolon' : (skipSpace e').peek? = some ':' := (he.skipSpace.peek? (by decide)).mp hcolon
  have hvalue := (he.skipSpace.past hcolon').skipSpace
  have hcolonLength := Cursor.length_of_peek? hcolon'
  have hnameLength := length_skipSpace_le e'
  have hvalueLength := length_skipSpace_le ((skipSpace e').advance 1)
  obtain ⟨f', hv', hf, hflt⟩ := ih.value fuel' hv hvalue (by omega)
  rw [readEntries_of_value hquote hname hcolon hv] at h
  rw [readEntries_of_value hquote' hname' hcolon' hv']
  have hnext := length_skipSpace_le f'
  refine (continued_trails (by decide) hf.skipSpace (fun hcomma hmore => ?_) h).mono (by omega)
  have hcommaLength := Cursor.length_of_peek? hcomma
  have hafter := length_skipSpace_le ((skipSpace f').advance 1)
  exact (ih.entries fuel' hmore (hf.skipSpace.past hcomma).skipSpace (by omega)).mono (by omega)

theorem readsTrimmed (fuel : Nat) : ReadsTrimmed fuel := by
  induction fuel with
  | zero =>
    constructor
    · intro fuel' depth c c' v d h
      rw [readValue] at h
      cases h
    · intro fuel' depth acc c c' vs d h
      rw [readItems] at h
      cases h
    · intro fuel' depth acc c c' es d h
      rw [readEntries] at h
      cases h
  | succ fuel ih =>
    exact ⟨fun _ => readValue_trails ih, fun _ => readItems_trails ih, fun _ => readEntries_trails ih⟩

theorem document_eq_ok_iff {l : List Char} :
    document l = .ok v ↔ ¬l.head? = some '\ufeff' ∧
      ∃ d, readValue depthLimit (2 * l.length + 2) (skipSpace ⟨l, 0⟩) = .ok (v, d) ∧
        (skipSpace d).rest = [] := by
  unfold document
  by_cases hmark : l.head? = some '\ufeff'
  · simp [hmark]
  rw [if_neg hmark]
  dsimp only [bind, Except.bind]
  rcases readValue depthLimit (2 * l.length + 2) (skipSpace ⟨l, 0⟩) with e | ⟨w, d⟩
  · simp
  dsimp only
  by_cases hend : (skipSpace d).rest = []
  · simp [hmark, hend]
  · simp [hmark, hend, Cursor.fail]

/-- A scalar is a text, one of the words or a number. -/
theorem of_readScalar {P : Value → Prop} (h : readScalar c = .ok (v, d)) (htext : ∀ s, P (.text s))
    (hword : ∀ e ∈ keywords, P e.2) (hint : ∀ n, P (.int n)) (hfloat : ∀ x, P (.float x)) : P v := by
  by_cases hq : c.peek? = some '"'
  · obtain ⟨t, ht⟩ := List.head?_eq_some_iff.mp hq
    rw [readScalar_of_quote ht] at h
    rcases hr : readText c with e | r <;> rw [hr] at h
    · cases h
    · exact (Prod.mk.inj (Except.ok.inj h)).1 ▸ htext r.1
  rw [readScalar_of_word hq] at h
  split at h
  · next word w hw =>
    exact (Prod.mk.inj (Except.ok.inj h)).1 ▸ hword _ (List.mem_of_find?_eq_some hw)
  · rw [readNumber_eq] at h
    split_ifs at h
    · cases h
    · rcases hn : number c.rest with e | w <;> rw [hn] at h
      · cases h
      · obtain rfl := (Prod.mk.inj (Except.ok.inj h)).1
        unfold number at hn
        dsimp only at hn
        split at hn
        · split at hn <;> cases hn
          exact hint _
        · cases hn
          exact hfloat _

theorem readScalar_ne_list {vs : List Value} : readScalar c ≠ .ok (.list vs, d) := fun h =>
  of_readScalar (P := (· ≠ .list vs)) h nofun (by simp [keywords]) nofun nofun rfl

/-- Only what starts with a bracket is read as a list. -/
theorem peek?_of_readValue_list {depth fuel : Nat} {vs : List Value}
    (h : readValue depth fuel c = .ok (.list vs, d)) : c.peek? = some '[' := by
  cases fuel with
  | zero =>
    rw [readValue] at h
    cases h
  | succ fuel =>
    by_contra hl
    by_cases hm : c.peek? = some '\x7b'
    · rw [readValue_map depth fuel hm, container] at h
      split_ifs at h
      · cases (Prod.mk.inj (Except.ok.inj h)).1
      · rcases hr : readEntries (depth - 1) fuel [] (skipSpace (c.advance 1)) with e | r <;> rw [hr] at h
        · cases h
        · cases (Prod.mk.inj (Except.ok.inj h)).1
    · rw [readValue_scalar depth fuel hl hm] at h
      exact readScalar_ne_list h

theorem skipSpace_trim (l : List Char) (offset : Nat) :
    skipSpace ⟨Text.trim l, offset⟩ = ⟨Text.trim l, offset⟩ := by
  have hnil : (Text.trim l).takeWhile isSpace = [] := by
    cases ht : Text.trim l with
    | nil => rfl
    | cons x t =>
      apply List.takeWhile_cons_of_neg
      intro hspace
      have hx := Text.isBlank_of_head?_trim (by rw [ht, List.head?_cons] : (Text.trim l).head? = some x)
      exact Bool.noConfusion (hx.symm.trans (isBlank_of_isSpace hspace))
  rw [skipSpace, hnil]
  rfl

/-- Blanks around a document make no difference, where there is a value in it. -/
theorem document_trim {l : List Char} (h : document l = .ok v) : document (Text.trim l) = .ok v := by
  obtain ⟨-, d, hread, hend⟩ := document_eq_ok_iff.mp h
  obtain ⟨x, t, ht, hx⟩ := isStart_of_readValue hread
  have hblank : ¬Text.isBlank x = true := fun hb => by simp [isStart_of_isBlank hb] at hx
  have hstart : Text.trimStart l = (skipSpace ⟨l, 0⟩).rest := by
    rw [Text.trimStart, ← Text.dropWhile_of_imp (fun _ => isBlank_of_isSpace) l]
    rw [rest_skipSpace] at ht
    rw [rest_skipSpace, ht, List.dropWhile_cons_of_neg hblank]
  have htrails : (skipSpace ⟨l, 0⟩).Trails ⟨Text.trim l, 0⟩ := by
    obtain ⟨p, hp, heq⟩ := Text.exists_append_trimEnd (Text.trimStart l)
    exact ⟨p, hp, hstart ▸ heq⟩
  have hmark : ¬(Text.trim l).head? = some '\ufeff' := by
    obtain ⟨y, u, hu, hy⟩ := exists_cons_of_readValue hread htrails
    intro hmark
    have hhead : some y = some '\ufeff' := by rw [← hmark, ← List.head?_cons, ← hu]
    obtain rfl := Option.some.inj hhead
    exact absurd hy (by decide)
  obtain ⟨d', hread', hd, -⟩ :=
    (readsTrimmed _).value (2 * (Text.trim l).length + 2) hread htrails (Nat.le_add_right _ 2)
  obtain ⟨p, -, heq⟩ := hd.skipSpace
  have hend' : (skipSpace d').rest = [] := (List.append_eq_nil_iff.mp (heq ▸ hend)).1
  exact document_eq_ok_iff.mpr ⟨hmark, d', by rwa [skipSpace_trim], hend'⟩

theorem read_eq_ok_iff {t : String} : read t = .ok v ↔ document t.toList = .ok v := by
  unfold read
  cases document t.toList <;> simp

theorem read_trim {t : String} (h : read t = .ok v) :
    read (String.ofList (Text.trim t.toList)) = .ok v := by
  rw [read_eq_ok_iff, String.toList_ofList]
  exact document_trim (read_eq_ok_iff.mp h)

theorem head?_trim_of_read_list {t : String} {vs : List Value} (h : read t = .ok (.list vs)) :
    (Text.trim t.toList).head? = some '[' := by
  obtain ⟨-, d, hread, -⟩ := document_eq_ok_iff.mp (document_trim (read_eq_ok_iff.mp h))
  rw [skipSpace_trim] at hread
  exact peek?_of_readValue_list hread

end Intake.Json
