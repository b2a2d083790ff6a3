import Intake.Proofs.Form.Filled

namespace Intake.Form

/-- What stands at the end of a path down which no value is in the way, if anything does. -/
inductive Cell : List String → Table Value → Option Value → Prop where
  | last (t : Table Value) (name : String) : Cell [name] t (Table.get? t name)
  | absent {t : Table Value} {name : String} {rest : List String} (hrest : rest ≠ [])
      (h : Table.get? t name = none) : Cell (name :: rest) t none
  | under {t m : Table Value} {name : String} {rest : List String} {x : Option Value}
      (hmap : Table.get? t name = some (.map m)) (h : Cell rest m x) : Cell (name :: rest) t x

variable {path rest q : List String} {t t' m : Table Value} {x : Option Value} {name key : String}
  {v w : Value} {append : Bool} {pairs : List (String × Value)}

theorem cell_empty (hne : path ≠ []) : Cell path [] none := by
  cases path with
  | nil => exact absurd rfl hne
  | cons name rest =>
    by_cases hrest : rest = []
    · subst hrest
      exact .last [] name
    · exact .absent hrest rfl

theorem Cell.path_ne (h : Cell path t x) : path ≠ [] := by
  cases h <;> exact List.cons_ne_nil _ _

theorem at?_of_cell (h : Cell path t x) : (Value.map t).at? path = x := by
  induction h with
  | last t name => cases h : Table.get? t name <;> simp [h]
  | absent _ h => rw [Value.at?_map_cons, h, Option.bind_none]
  | under hmap _ ih => rw [Value.at?_map_cons, hmap, Option.bind_some, ih]

/-- The way down a path depends on the entry under its first name alone. -/
theorem Cell.congr (h : Cell (name :: rest) t x) (hget : Table.get? t' name = Table.get? t name) :
    Cell (name :: rest) t' x := by
  cases h with
  | last => exact hget ▸ .last t' name
  | absent hrest h => exact .absent hrest (hget.trans h)
  | under hmap h => exact .under (hget.trans hmap) h

theorem cell_put_self (t : Table Value) (name : String) (w : Value) :
    Cell [name] (Table.put t name w) (some w) := by
  have h := Cell.last (Table.put t name w) name
  rwa [Table.get?_put_self] at h

theorem Cell.put_under (h : Cell rest m x) (t : Table Value) (name : String) :
    Cell (name :: rest) (Table.put t name (.map m)) x :=
  .under (Table.get?_put_self _ _ _) h

theorem Cell.put_of_ne {first : String} (h : Cell (first :: rest) t x) (hne : name ≠ first)
    (w : Value) : Cell (first :: rest) (Table.put t name w) x :=
  h.congr (by rw [Table.get?_put, if_neg hne])

/-- Below null no path is open, and below an absent entry nothing stands. -/
theorem Cell.eq_none (h : Cell (name :: rest) t x) (hrest : rest ≠ [])
    (hnull : (Table.get? t name).getD .null = .null) : x = none := by
  cases h with
  | last => exact absurd rfl hrest
  | absent => rfl
  | under hmap => simp [hmap] at hnull

theorem Cell.of_map (h : Cell (name :: rest) t x) (hrest : rest ≠ [])
    (hmap : Table.get? t name = some (.map m)) : Cell rest m x := by
  cases h with
  | last => exact absurd rfl hrest
  | absent _ h => cases hmap.symm.trans h
  | under hmap' h =>
    obtain rfl := Value.map.inj (Option.some.inj (hmap.symm.trans hmap'))
    exact h

/-- What is stored elsewhere makes no difference. -/
theorem Cell.of_stores_apart (h : Cell path t x) (hstores : Stores append v q t t')
    (hapart : Apart q path) : Cell path t' x := by
  obtain ⟨first, rest, rfl⟩ := hapart.symm.exists_cons
  induction hstores generalizing first rest x with
  | @last t name w _ =>
    have hne : name ≠ first := by
      rintro rfl
      exact hapart.1 (List.cons_prefix_cons.mpr ⟨rfl, List.nil_prefix⟩)
    exact h.put_of_ne hne w
  | @fresh t m name inner hnull _ ih =>
    by_cases hne : name = first
    · subst hne
      have hinner := apart_cons.mp hapart
      obtain ⟨next, more, rfl⟩ := hinner.symm.exists_cons
      have hmore : next :: more ≠ [] := List.cons_ne_nil _ _
      obtain rfl := h.eq_none hmore hnull
      exact (ih next more (cell_empty hmore) hinner).put_under t name
    · exact h.put_of_ne hne _
  | @under t m m' name inner hmap _ ih =>
    by_cases hne : name = first
    · subst hne
      have hinner := apart_cons.mp hapart
      obtain ⟨next, more, rfl⟩ := hinner.symm.exists_cons
      have hcell := h.of_map (List.cons_ne_nil _ _) hmap
      exact (ih next more hcell hinner).put_under t name
    · exact h.put_of_ne hne _

theorem exists_stores_empty (hne : path ≠ []) (hw : joined append none v = some w) :
    ∃ m, Stores append v path [] m ∧ Cell path m (some w) := by
  induction path with
  | nil => exact absurd rfl hne
  | cons name rest ih =>
    by_cases hrest : rest = []
    · subst hrest
      exact ⟨_, .last hw, cell_put_self [] name w⟩
    · obtain ⟨m, hm, hcell⟩ := ih hrest
      exact ⟨_, .fresh rfl hm, hcell.put_under [] name⟩

/-- A value is joined with what stands at the end of the path. -/
theorem Cell.exists_stores (h : Cell path t x) (hw : joined append x v = some w) :
    ∃ t', Stores append v path t t' ∧ Cell path t' (some w) := by
  induction h with
  | last t name => exact ⟨_, .last hw, cell_put_self t name w⟩
  | @absent t name rest hrest h =>
    obtain ⟨m, hm, hcell⟩ := exists_stores_empty hrest hw
    exact ⟨_, .fresh (by rw [h]; rfl) hm, hcell.put_under t name⟩
  | @under t m name rest x hmap _ ih =>
    obtain ⟨m', hm', hcell⟩ := ih hw
    exact ⟨_, .under hmap hm', hcell.put_under t name⟩

/-- A map at the end of the path takes no value. -/
theorem Cell.not_stores (h : Cell path t x) (hnone : joined append x v = none) :
    ¬Stores append v path t t' := by
  intro hstores
  induction hstores generalizing x with
  | last hw =>
    cases h with
    | last => cases hnone.symm.trans hw
    | absent hrest => exact hrest rfl
    | under _ h => exact h.path_ne rfl
  | fresh hnull hstores =>
    obtain rfl := h.eq_none hstores.path_ne hnull
    cases hnone
  | under hmap hstores ih => exact ih (h.of_map hstores.path_ne hmap) hnone

/-- What stands at the end of a path once a value was to be stored there. -/
def joinedOr (append : Bool) (x : Option Value) (v : Value) : Option Value :=
  (joined append x v).or x

theorem Cell.store (h : Cell (Key.ofText key).path t x) (v : Value) :
    Cell (Key.ofText key).path (store t key v).table (joinedOr (Key.ofText key).append x v) := by
  rw [joinedOr]
  cases hw : joined (Key.ofText key).append x v with
  | some w =>
    obtain ⟨t', hstores, hcell⟩ := h.exists_stores hw
    rw [store_of_stores hstores]
    exact hcell
  | none =>
    rcases store_cases t key v with ⟨t', hstores, -⟩ | ⟨-, htable⟩
    · exact absurd hstores (h.not_stores hw)
    · rw [htable]
      exact h

theorem Cell.store_other {other : String} (h : Cell path t x)
    (hother : (Key.ofText other).path = [] ∨ Apart (Key.ofText other).path path) (v : Value) :
    Cell path (Form.store t other v).table x := by
  rcases store_cases t other v with ⟨t', hstores, hstore⟩ | ⟨-, htable⟩
  · rw [hstore]
    exact h.of_stores_apart hstores (hother.resolve_left hstores.path_ne)
  · rw [htable]
    exact h

/-- The values under a key are joined one after another, whatever is stored elsewhere between them. -/
theorem Cell.storeAll (h : Cell (Key.ofText key).path t x)
    (hothers : ∀ pair ∈ pairs, pair.1 ≠ key →
      (Key.ofText pair.1).path = [] ∨ Apart (Key.ofText pair.1).path (Key.ofText key).path) :
    Cell (Key.ofText key).path (storeAll t pairs)
      (((pairs.filter fun pair => pair.1 = key).map Prod.snd).foldl
        (joinedOr (Key.ofText key).append) x) := by
  induction pairs generalizing t x with
  | nil => exact h
  | cons pair pairs ih =>
    obtain ⟨other, v⟩ := pair
    have hrest := fun pair hpair => hothers pair (List.mem_cons_of_mem _ hpair)
    rw [storeAll_cons]
    by_cases hkey : other = key
    · subst hkey
      rw [List.filter_cons_of_pos (by simp), List.map_cons, List.foldl_cons]
      exact ih (h.store v) hrest
    · rw [List.filter_cons_of_neg (by simpa using hkey)]
      exact ih (h.store_other (hothers _ List.mem_cons_self hkey) v) hrest

/-- What values stored one after another under a key come to. Under a plain key a first value that is a
list takes the others in, and one that is a map stays alone. -/
def collected (append : Bool) : List Value → Option Value
  | [] => none
  | first :: others =>
    if append then some (.list (first :: others))
    else
      match first, others with
      | .map es, _ => some (.map es)
      | .list items, _ => some (.list (items ++ others))
      | v, [] => some v
      | v, _ => some (.list (v :: others))

theorem foldl_joinedOr_list (append : Bool) (items vs : List Value) :
    vs.foldl (joinedOr append) (some (.list items)) = some (.list (items ++ vs)) := by
  induction vs generalizing items with
  | nil => rw [List.foldl_nil, List.append_nil]
  | cons v vs ih =>
    rw [List.foldl_cons, joinedOr]
    exact (ih (items ++ [v])).trans (by rw [List.append_assoc, List.singleton_append])

theorem foldl_joinedOr_map (append : Bool) (es : Table Value) (vs : List Value) :
    vs.foldl (joinedOr append) (some (.map es)) = some (.map es) := by
  induction vs with
  | nil => rfl
  | cons v vs ih =>
    rw [List.foldl_cons, joinedOr]
    exact ih

theorem foldl_joinedOr (append : Bool) (vs : List Value) :
    vs.foldl (joinedOr append) none = collected append vs := by
  cases vs with
  | nil => rfl
  | cons first others =>
    rw [List.foldl_cons, joinedOr]
    cases append with
    | true => exact foldl_joinedOr_list true [first] others
    | false =>
      cases first with
      | map es => exact foldl_joinedOr_map false es others
      | list items => exact foldl_joinedOr_list false items others
      | _ =>
        cases others with
        | nil => rfl
        | cons second others => exact foldl_joinedOr_list false [_, second] others

/-- A list or a map. -/
def Absorbs (v : Value) : Prop := (∃ items, v = .list items) ∨ ∃ es, v = .map es

theorem collected_append {vs : List Value} (hne : vs ≠ []) : collected true vs = some (.list vs) := by
  cases vs with
  | nil => exact absurd rfl hne
  | cons first others => rfl

theorem list_append_ne (items others : List Value) : items ++ others ≠ .list items :: others := by
  intro h
  cases items with
  | nil => exact List.cons_ne_self _ _ h.symm
  | cons item items =>
    obtain ⟨hitem, hrest⟩ := List.cons.inj h
    have hlength := congrArg List.length hrest
    obtain rfl : items = [] := List.eq_nil_of_length_eq_zero (by simpa using hlength)
    -- A list is not its own member.
    have hsize := congrArg sizeOf hitem
    simp at hsize
    omega

theorem collected_plain {first second : Value} {others : List Value} :
    collected false (first :: second :: others) = some (.list (first :: second :: others)) ↔
      ¬Absorbs first := by
  constructor
  · rintro h (⟨items, rfl⟩ | ⟨es, rfl⟩)
    · exact list_append_ne items _ (Value.list.inj (Option.some.inj h))
    · cases h
  · intro h
    cases first with
    | list items => exact absurd (.inl ⟨items, rfl⟩) h
    | map es => exact absurd (.inr ⟨es, rfl⟩) h
    | _ => rfl

/-- The form that texts under keys are read to. -/
def ofTexts (sent : List (String × String)) : Reading :=
  ofPairs true (sent.map fun pair => (pair.1, .text pair.2))

/-- The texts that were sent under a key, in their order. -/
def textsUnder (key : String) (sent : List (String × String)) : List String :=
  (sent.filter fun pair => pair.1 = key).map Prod.snd

theorem readBody_ofTexts {p : Payload} {contentType : Option String} {text : String}
    (h : p.decode (Payload.charsetOf contentType) = .ok text) :
    (readBody true p contentType).result = (ofTexts (readQuery (Text.trim text.toList))).result := by
  rw [readBody_result, h]
  rfl

theorem retyped_under {sent : List (String × String)} {kept : List (String × Value)}
    (h : List.Forall₂ (StoredAs true) (sent.map fun pair => (pair.1, .text pair.2)) kept)
    (key : String) :
    List.Forall₂ (fun text v => retype text = .ok v) (textsUnder key sent)
      ((kept.filter fun pair => pair.1 = key).map Prod.snd) := by
  induction sent generalizing kept with
  | nil =>
    cases h
    exact .nil
  | cons pair sent ih =>
    cases h with
    | @cons _ stored _ kept hpair hrest =>
      obtain ⟨other, text⟩ := pair
      obtain ⟨other', v⟩ := stored
      obtain ⟨rfl, hv⟩ := hpair
      rw [textsUnder]
      by_cases hkey : other' = key
      · rw [List.filter_cons_of_pos (by simpa using hkey), List.filter_cons_of_pos (by simpa using hkey)]
        exact .cons hv (ih hrest)
      · rw [List.filter_cons_of_neg (by simpa using hkey), List.filter_cons_of_neg (by simpa using hkey)]
        exact ih hrest

/-- Texts that are sent under one key, with nothing else on its path, come to the list of all of them
retyped, in their order, if the key ends in brackets, or if there are several and the first stands for
neither a list nor a map. Only a text that is nested too deeply stops the reading. -/
theorem repeated_texts_collected {sent : List (String × String)} {key : String}
    (hpath : (Key.ofText key).path ≠ [])
    (hothers : ∀ pair ∈ sent, pair.1 ≠ key →
      (Key.ofText pair.1).path = [] ∨ Apart (Key.ofText pair.1).path (Key.ofText key).path) :
    (∀ p contentType text, p.decode (Payload.charsetOf contentType) = .ok text →
      readQuery (Text.trim text.toList) = sent →
        (readBody true p contentType).result = (ofTexts sent).result) ∧
    ((∃ pair ∈ sent, IsTooDeep pair.2) ∧ (ofTexts sent).result = .error .tooDeep ∨
      ∃ t vs, (ofTexts sent).result = .ok t ∧
        List.Forall₂ (fun text v => retype text = .ok v) (textsUnder key sent) vs ∧
        (Value.map t).at? (Key.ofText key).path = collected (Key.ofText key).append vs ∧
        ((Key.ofText key).append = true → vs ≠ [] →
          (Value.map t).at? (Key.ofText key).path = some (.list vs)) ∧
        ((Key.ofText key).append = false → ∀ first second others, vs = first :: second :: others →
          ((Value.map t).at? (Key.ofText key).path = some (.list vs) ↔ ¬Absorbs first))) := by
  refine ⟨fun p contentType text htext hsent => hsent ▸ readBody_ofTexts htext, ?_⟩
  rcases exists_kept_or_tooDeep true (sent.map fun pair => (pair.1, .text pair.2)) with
    ⟨kept, hkept⟩ | ⟨-, name, text, hmem, hdeep⟩
  swap
  · obtain ⟨pair, hpair, heq⟩ := List.mem_map.mp hmem
    obtain ⟨-, rfl⟩ : pair.1 = name ∧ pair.2 = text := by simpa using heq
    exact .inl ⟨⟨pair, hpair, hdeep⟩, ofPairs_of_tooDeep hmem hdeep⟩
  have hcell : Cell (Key.ofText key).path (storeAll [] kept)
      (collected (Key.ofText key).append ((kept.filter fun pair => pair.1 = key).map Prod.snd)) := by
    rw [← foldl_joinedOr]
    refine (cell_empty hpath).storeAll fun stored hstored hne => ?_
    obtain ⟨pair, hpair, hsame⟩ := exists_sent_of_mem_kept hkept hstored
    obtain ⟨source, hsource, rfl⟩ := List.mem_map.mp hpair
    rw [hsame.1] at hne ⊢
    exact hothers source hsource hne
  have hat := at?_of_cell hcell
  have hfill : ofTexts sent = _ := fill_of_kept hkept []
  refine .inr ⟨storeAll [] kept, _, by rw [hfill], retyped_under hkept key, hat, ?_, ?_⟩
  · intro happend hne
    rw [hat, happend, collected_append hne]
  · intro happend first second others hvs
    rw [hat, happend, hvs]
    exact collected_plain

/-- A list that another text follows under a plain key takes that text in. -/
example : (ofTexts [("a", "[1]"), ("a", "2")]).result = .ok [("a", .list [.int 1, .int 2])] := rfl

/-- Two texts under one key with brackets, and one elsewhere. -/
def labels : List (String × String) := [("tags[]", "[1]"), ("page", "2"), ("tags[]", "new")]

theorem repeated_texts_collected_labels :
    (Key.ofText "tags[]").path ≠ [] ∧
      (∀ pair ∈ labels, pair.1 ≠ "tags[]" → (Key.ofText pair.1).path = [] ∨
        Apart (Key.ofText pair.1).path (Key.ofText "tags[]").path) ∧
      ∃ t vs, (ofTexts labels).result = .ok t ∧
        List.Forall₂ (fun text v => retype text = .ok v) ["[1]", "new"] vs ∧
        (Value.map t).at? (Key.ofText "tags[]").path = some (.list vs) := by
  have hpath : (Key.ofText "tags[]").path ≠ [] := by decide +kernel
  have hothers : ∀ pair ∈ labels, pair.1 ≠ "tags[]" → (Key.ofText pair.1).path = [] ∨
      Apart (Key.ofText pair.1).path (Key.ofText "tags[]").path := by decide +kernel
  have hrun : (ofTexts labels).result =
      .ok [("tags", .list [.list [.int 1], .text "new"]), ("page", .int 2)] := rfl
  refine ⟨hpath, hothers, ?_⟩
  rcases (repeated_texts_collected hpath hothers).2 with ⟨-, hdeep⟩ | ⟨t, vs, hok, hvs, -, hlist, -⟩
  · cases hrun.symm.trans hdeep
  · have htexts : textsUnder "tags[]" labels = ["[1]", "new"] := by decide
    rw [htexts] at hvs
    have hne : vs ≠ [] := by
      rintro rfl
      cases hvs
    exact ⟨t, vs, hok, hvs, hlist (by decide +kernel) hne⟩

end Intake.Form
