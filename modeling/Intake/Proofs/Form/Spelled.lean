import Intake.Proofs.Form.Filled

namespace Intake.Form

/-- A value is what is to be found at the end of some paths, or a map of what is to be found further on;
nothing else is in it. -/
inductive Spells : (List String → Value → Prop) → Value → Prop where
  | stop {W : List String → Value → Prop} {v : Value} (h : W [] v) : Spells W v
  | map {W : List String → Value → Prop} {es : Table Value} (hstop : ∀ v, ¬W [] v)
      (hn : (Table.names es).Nodup)
      (habsent : ∀ name, Table.get? es name = none → ∀ rest v, ¬W (name :: rest) v)
      (hpresent : ∀ name v, Table.get? es name = some v → ∃ rest w, W (name :: rest) w)
      (hinner : ∀ name v, Table.get? es name = some v → Spells (fun rest => W (name :: rest)) v) :
      Spells W (.map es)

/-- What is to be found at the end of some paths and of one more. -/
def Also (W : List String → Value → Prop) (path : List String) (v : Value) :
    List String → Value → Prop :=
  fun q w => W q w ∨ q = path ∧ w = v

variable {W : List String → Value → Prop} {t es : Table Value} {v w : Value} {name other : String}
  {path rest q : List String}

theorem spells_empty : Spells (fun _ _ => False) (.map []) :=
  .map (fun _ h => h) List.nodup_nil (fun _ _ _ _ h => h) nofun nofun

theorem also_cons_self (W : List String → Value → Prop) (name : String) (rest : List String) (v : Value) :
    (fun q => Also W (name :: rest) v (name :: q)) = Also (fun q => W (name :: q)) rest v := by
  funext q w
  simp [Also]

theorem also_cons_of_ne (hne : other ≠ name) (W : List String → Value → Prop) (rest : List String)
    (v : Value) : (fun q => Also W (name :: rest) v (other :: q)) = fun q => W (other :: q) := by
  funext q w
  simp [Also, hne]

theorem spells_map_iff (hstop : ∀ v, ¬W [] v) :
    Spells W (.map t) ↔ (Table.names t).Nodup ∧
      (∀ name, Table.get? t name = none → ∀ rest v, ¬W (name :: rest) v) ∧
      ∀ name v, Table.get? t name = some v →
        (∃ rest w, W (name :: rest) w) ∧ Spells (fun rest => W (name :: rest)) v := by
  constructor
  · intro h
    cases h with
    | stop h => exact absurd h (hstop _)
    | map _ hn habsent hpresent hinner =>
      exact ⟨hn, habsent, fun name v hget => ⟨hpresent name v hget, hinner name v hget⟩⟩
  · rintro ⟨hn, habsent, hinner⟩
    exact .map hstop hn habsent (fun name v hget => (hinner name v hget).1)
      fun name v hget => (hinner name v hget).2

/-- A map spells one thing more once that is put under the first name of its path. -/
theorem spells_put (ht : Spells W (.map t)) (hstop : ∀ v, ¬W [] v) (name : String)
    (rest : List String) (v : Value) (hw : Spells (Also (fun q => W (name :: q)) rest v) w) :
    Spells (Also W (name :: rest) v) (.map (Table.put t name w)) := by
  obtain ⟨hn, habsent, hinner⟩ := (spells_map_iff hstop).mp ht
  have hstop' (u : Value) : ¬Also W (name :: rest) v [] u := by
    rintro (h | ⟨h, -⟩)
    · exact hstop u h
    · cases h
  refine (spells_map_iff hstop').mpr ⟨Table.nodup_names_put hn name w, ?_, ?_⟩
  · intro other hget more u
    rw [Table.get?_put] at hget
    split_ifs at hget with hne
    rintro (h | ⟨h, -⟩)
    · exact habsent other hget more u h
    · exact hne (List.cons.inj h).1.symm
  · intro other u hget
    rw [Table.get?_put] at hget
    split_ifs at hget with hne
    · obtain rfl := Option.some.inj hget
      subst hne
      rw [also_cons_self]
      exact ⟨⟨rest, v, .inr ⟨rfl, rfl⟩⟩, hw⟩
    · obtain ⟨⟨more, x, hx⟩, hu⟩ := hinner other u hget
      rw [also_cons_of_ne (Ne.symm hne)]
      exact ⟨⟨more, x, .inl hx⟩, hu⟩

/-- A path that is apart from those of a map can be gone down, and the map spells one thing more then. -/
theorem exists_stores_of_spells (ht : Spells W (.map t)) (hne : path ≠ [])
    (hapart : ∀ q w, W q w → Apart q path) (v : Value) :
    ∃ t', Stores false v path t t' ∧ Spells (Also W path v) (.map t') := by
  induction path generalizing W t with
  | nil => exact absurd rfl hne
  | cons name rest ih =>
    have hstop (v : Value) : ¬W [] v := fun h => (hapart _ _ h).1 List.nil_prefix
    obtain ⟨-, habsent, hinner⟩ := (spells_map_iff hstop).mp ht
    by_cases hrest : rest = []
    · subst hrest
      have hget : Table.get? t name = none := by
        by_contra hsome
        obtain ⟨u, hu⟩ := Option.ne_none_iff_exists'.mp hsome
        obtain ⟨⟨more, w, hw⟩, -⟩ := hinner name u hu
        exact (hapart _ _ hw).2 (List.cons_prefix_cons.mpr ⟨rfl, List.nil_prefix⟩)
      have hjoined : joined false (Table.get? t name) v = some v := by rw [hget]; rfl
      exact ⟨_, .last hjoined, spells_put ht hstop name [] v (.stop (.inr ⟨rfl, rfl⟩))⟩
    · cases hget : Table.get? t name with
      | none =>
        obtain ⟨m, hm, hspells⟩ := ih spells_empty hrest fun _ _ h => h.elim
        refine ⟨_, .fresh (by rw [hget]; rfl) hm, spells_put ht hstop name rest v ?_⟩
        have hnone : (fun q => W (name :: q)) = fun _ _ => False := by
          funext q w
          exact eq_false (habsent name hget q w)
        rw [hnone]
        exact hspells
      | some u =>
        -- A value at the end of a path would stand in the way, and its path begin this one.
        obtain ⟨-, hu⟩ := hinner name u hget
        cases hu with
        | stop h => exact absurd (List.cons_prefix_cons.mpr ⟨rfl, List.nil_prefix⟩) (hapart _ _ h).1
        | @map _ m _ _ _ _ _ =>
          obtain ⟨m', hm', hspells⟩ := ih (hinner name _ hget).2 hrest
            fun q w h => apart_cons.mp (hapart _ _ h)
          exact ⟨_, .under hget hm', spells_put ht hstop name rest v hspells⟩

/-- No path at whose end something is to be found begins another one. -/
def PrefixFree (W : List String → Value → Prop) : Prop :=
  ∀ ⦃p q u w⦄, W p u → W q w → p <+: q → p = q ∧ u = w

theorem PrefixFree.tail (hW : PrefixFree W) (name : String) : PrefixFree fun rest => W (name :: rest) := by
  intro p q u w hp hq hpq
  obtain ⟨hpath, hvalue⟩ := hW hp hq (List.cons_prefix_cons.mpr ⟨rfl, hpq⟩)
  exact ⟨(List.cons.inj hpath).2, hvalue⟩

/-- At the end of each of the paths stands what is to be found there. -/
theorem at?_of_spells (h : Spells W v) (hW : PrefixFree W) (hw : W path w) (rest : List String) :
    v.at? (path ++ rest) = w.at? rest := by
  induction h generalizing path with
  | stop h =>
    obtain ⟨rfl, rfl⟩ := hW h hw List.nil_prefix
    rfl
  | @map W es hstop _ habsent _ _ ih =>
    cases path with
    | nil => exact absurd hw (hstop w)
    | cons name more =>
      rw [List.cons_append, Value.at?_map_cons]
      cases hget : Table.get? es name with
      | none => exact absurd hw (habsent name hget more w)
      | some u => exact ih name u hget (hW.tail name) hw

/-- Nothing else is to be found than what stands at the ends of the paths and the maps on the way. -/
theorem of_at?_of_spells (h : Spells W v) (hq : v.at? q = some w) :
    (∃ path u, W path u ∧ path <+: q) ∨
      (∃ es, w = .map es) ∧ (q = [] ∨ ∃ path u, W path u ∧ q <+: path) := by
  induction h generalizing q with
  | stop h => exact .inl ⟨[], _, h, List.nil_prefix⟩
  | @map W es _ _ _ hpresent _ ih =>
    cases q with
    | nil =>
      rw [Value.at?_nil] at hq
      exact .inr ⟨⟨es, (Option.some.inj hq).symm⟩, .inl rfl⟩
    | cons name more =>
      rw [Value.at?_map_cons] at hq
      obtain ⟨u, hget, hu⟩ := Option.bind_eq_some_iff.mp hq
      have hcons {p q : List String} (h : p <+: q) : name :: p <+: name :: q :=
        List.cons_prefix_cons.mpr ⟨rfl, h⟩
      rcases ih name u hget hu with ⟨path, x, hx, hpre⟩ | ⟨hmap, rfl | ⟨path, x, hx, hpre⟩⟩
      · exact .inl ⟨name :: path, x, hx, hcons hpre⟩
      · obtain ⟨rest, x, hx⟩ := hpresent name u hget
        exact .inr ⟨hmap, .inr ⟨name :: rest, x, hx, hcons List.nil_prefix⟩⟩
      · exact .inr ⟨hmap, .inr ⟨name :: path, x, hx, hcons hpre⟩⟩

theorem mem_names_iff (habsent : ∀ name, Table.get? es name = none → ∀ rest v, ¬W (name :: rest) v)
    (hpresent : ∀ name v, Table.get? es name = some v → ∃ rest w, W (name :: rest) w) :
    name ∈ Table.names es ↔ ∃ rest w, W (name :: rest) w := by
  cases hget : Table.get? es name with
  | none =>
    refine iff_of_false ((Table.get?_eq_none_iff _ _).mp hget) ?_
    rintro ⟨rest, w, hw⟩
    exact habsent name hget rest w hw
  | some v => exact iff_of_true (Table.mem_names_of_get? hget) (hpresent name v hget)

/-- Maps in which the same is to be found are the same but for the order of their entries. -/
theorem same_of_spells {v' : Value} (h : Spells W v) (h' : Spells W v') (hW : PrefixFree W)
    (hself : ∀ path u, W path u → u.same u = true) : v.same v' = true := by
  induction h generalizing v' with
  | stop h =>
    cases h' with
    | stop h' =>
      obtain ⟨-, rfl⟩ := hW h h' List.nil_prefix
      exact hself _ _ h
    | map hstop' => exact absurd h (hstop' _)
  | @map W es hstop hn habsent hpresent hinner ih =>
    cases h' with
    | stop h' => exact absurd h' (hstop _)
    | @map _ fs _ hn' habsent' hpresent' hinner' =>
      have hnames (name : String) : name ∈ Table.names es ↔ name ∈ Table.names fs :=
        (mem_names_iff habsent hpresent).trans (mem_names_iff habsent' hpresent').symm
      have hlength : es.length = fs.length := by
        simpa [Table.names] using ((List.perm_ext_iff_of_nodup hn hn').mpr hnames).length_eq
      rw [Value.same, Bool.and_eq_true]
      refine ⟨by simpa using hlength, Value.sameEntries_iff.mpr ?_⟩
      rintro ⟨name, u⟩ he
      have hget := Table.get?_of_mem hn he
      have hmem := (hnames name).mp (Table.mem_names_of_get? hget)
      cases hget' : Table.get? fs name with
      | none => exact absurd hmem ((Table.get?_eq_none_iff _ _).mp hget')
      | some u' =>
        exact ⟨u', rfl, ih name u hget (hinner' name u' hget') (hW.tail name) fun _ _ h => hself _ _ h⟩

/-- What pairs ask to be found at a path. -/
def AskFor (pairs : List (String × Value)) (path : List String) (v : Value) : Prop :=
  ∃ pair ∈ pairs, (Key.ofText pair.1).path = path ∧ pair.2 = v

/-- Keys without brackets at the end, whose paths are not empty and do not begin one another. -/
structure Independent (keys : List String) : Prop where
  plain : ∀ key ∈ keys, Key.endsInBrackets key.toList = false
  path_ne : ∀ key ∈ keys, (Key.ofText key).path ≠ []
  apart : keys.Pairwise fun a b => Apart (Key.ofText a).path (Key.ofText b).path

instance (keys : List String) : Decidable (Independent keys) :=
  decidable_of_iff
    ((∀ key ∈ keys, Key.endsInBrackets key.toList = false) ∧
      (∀ key ∈ keys, (Key.ofText key).path ≠ []) ∧
      keys.Pairwise fun a b => Apart (Key.ofText a).path (Key.ofText b).path)
    ⟨fun ⟨hplain, hne, hapart⟩ => ⟨hplain, hne, hapart⟩, fun h => ⟨h.plain, h.path_ne, h.apart⟩⟩

variable {pairs pairs' kept : List (String × Value)} {isRetyped : Bool}

theorem Independent.perm {keys keys' : List String} (h : Independent keys) (hp : keys'.Perm keys) :
    Independent keys' where
  plain key hkey := h.plain key (hp.mem_iff.mp hkey)
  path_ne key hkey := h.path_ne key (hp.mem_iff.mp hkey)
  apart := h.apart.perm hp.symm fun h => h.symm

theorem Independent.prefixFree (h : Independent (pairs.map Prod.fst)) : PrefixFree (AskFor pairs) := by
  have hpairs : pairs.Pairwise fun a b =>
      a = b ∨ Apart (Key.ofText a.1).path (Key.ofText b.1).path :=
    (List.pairwise_map.mp h.apart).imp Or.inr
  have hsymm : Std.Symm fun a b : String × Value =>
      a = b ∨ Apart (Key.ofText a.1).path (Key.ofText b.1).path :=
    ⟨fun _ _ h => h.imp Eq.symm Apart.symm⟩
  have hall := hpairs.forall_of_forall fun _ _ => .inl rfl
  rintro p q u w ⟨a, ha, rfl, rfl⟩ ⟨b, hb, rfl, rfl⟩ hpre
  rcases hall ha hb with rfl | hapart
  · exact ⟨rfl, rfl⟩
  · exact absurd hpre hapart.1

theorem independent_cons {key : String} {keys : List String} :
    Independent (key :: keys) ↔
      (Key.endsInBrackets key.toList = false ∧ (Key.ofText key).path ≠ [] ∧
        ∀ other ∈ keys, Apart (Key.ofText key).path (Key.ofText other).path) ∧ Independent keys := by
  constructor
  · rintro ⟨hplain, hne, hapart⟩
    rw [List.forall_mem_cons] at hplain hne
    rw [List.pairwise_cons] at hapart
    exact ⟨⟨hplain.1, hne.1, hapart.1⟩, hplain.2, hne.2, hapart.2⟩
  · rintro ⟨⟨hplain, hne, hapart⟩, hrest⟩
    exact ⟨List.forall_mem_cons.mpr ⟨hplain, hrest.plain⟩,
      List.forall_mem_cons.mpr ⟨hne, hrest.path_ne⟩, List.pairwise_cons.mpr ⟨hapart, hrest.apart⟩⟩

/-- A pair with a plain key whose path is apart from those of a map is accepted. -/
theorem spells_store {key : String} (ht : Spells W (.map t))
    (hplain : Key.endsInBrackets key.toList = false) (hne : (Key.ofText key).path ≠ [])
    (hapart : ∀ q w, W q w → Apart q (Key.ofText key).path) (v : Value) :
    (store t key v).accepted = true ∧
      Spells (Also W (Key.ofText key).path v) (.map (store t key v).table) := by
  obtain ⟨t', hstores, hspells⟩ := exists_stores_of_spells ht hne hapart v
  have happend : (Key.ofText key).append = false := (Key.append_ofText key).trans hplain
  rw [← happend] at hstores
  rw [store_of_stores hstores]
  exact ⟨rfl, hspells⟩

/-- Independent pairs are all accepted, and the map spells what they ask for. -/
theorem spells_storeAll (ht : Spells W (.map t)) (hkeys : Independent (pairs.map Prod.fst))
    (hapart : ∀ pair ∈ pairs, ∀ q w, W q w → Apart q (Key.ofText pair.1).path) :
    (∀ a ∈ attempts t pairs, a.stored.accepted = true) ∧
      Spells (fun q w => W q w ∨ AskFor pairs q w) (.map (storeAll t pairs)) := by
  induction pairs generalizing W t with
  | nil =>
    have hsame : (fun q w => W q w ∨ AskFor [] q w) = W := by
      funext q w
      simp [AskFor]
    rw [hsame]
    exact ⟨nofun, ht⟩
  | cons pair pairs ih =>
    obtain ⟨key, v⟩ := pair
    obtain ⟨⟨hplain, hne, hothers⟩, hrest⟩ := independent_cons.mp hkeys
    rw [List.forall_mem_cons] at hapart
    obtain ⟨hstored, hspells⟩ := spells_store ht hplain hne hapart.1 v
    obtain ⟨haccepted, hspelled⟩ := ih hspells hrest (by
      rintro pair hpair q w (hq | ⟨rfl, rfl⟩)
      · exact hapart.2 pair hpair q w hq
      · exact hothers pair.1 (List.mem_map_of_mem hpair))
    refine ⟨List.forall_mem_cons.mpr ⟨hstored, haccepted⟩, ?_⟩
    have hsame : (fun q w => W q w ∨ AskFor ((key, v) :: pairs) q w) =
        fun q w => Also W (Key.ofText key).path v q w ∨ AskFor pairs q w := by
      funext q w
      simp [Also, AskFor, or_assoc, eq_comm]
    rw [hsame]
    exact hspelled

theorem spells_kept (hkeys : Independent (kept.map Prod.fst)) :
    (∀ a ∈ attempts [] kept, a.stored.accepted = true) ∧
      Spells (AskFor kept) (.map (storeAll [] kept)) := by
  have h := spells_storeAll spells_empty hkeys fun _ _ _ _ h => h.elim
  simpa only [false_or] using h

/-- Pairs with independent keys are all accepted. Each value is found at the end of its path, nothing else
is in the map but the maps on the way, and the order of the pairs makes no difference; only a text that is
nested too deeply stops the reading. -/
theorem independent_pairs_stored_exactly (hkeys : Independent (pairs.map Prod.fst))
    (hvalues : ∀ pair ∈ pairs, pair.2.WellKeyed) (isRetyped : Bool) :
    ((∃ name text, (name, .text text) ∈ pairs ∧ IsTooDeep text) ∧ isRetyped = true ∧
      (ofPairs isRetyped pairs).result = .error .tooDeep) ∨
      ∃ kept t, List.Forall₂ (StoredAs isRetyped) pairs kept ∧
        ofPairs isRetyped pairs = .silent (.ok t) ∧
        (∀ a ∈ attempts [] kept, a.stored.accepted = true) ∧
        (∀ pair ∈ kept, ∀ rest,
          (Value.map t).at? ((Key.ofText pair.1).path ++ rest) = pair.2.at? rest) ∧
        (∀ q w, (Value.map t).at? q = some w →
          (∃ pair ∈ kept, (Key.ofText pair.1).path <+: q) ∨
            (∃ es, w = .map es) ∧ (q = [] ∨ ∃ pair ∈ kept, q <+: (Key.ofText pair.1).path)) ∧
        ∀ pairs', pairs'.Perm pairs → ∃ t', (ofPairs isRetyped pairs').result = .ok t' ∧
          (Value.map t).same (.map t') = true := by
  rcases exists_kept_or_tooDeep isRetyped pairs with ⟨kept, hkept⟩ | ⟨rfl, name, text, hmem, hdeep⟩
  swap
  · exact .inl ⟨⟨name, text, hmem, hdeep⟩, rfl, ofPairs_of_tooDeep hmem hdeep⟩
  have hkeptKeys : Independent (kept.map Prod.fst) := by rwa [map_fst_of_kept hkept]
  obtain ⟨haccepted, hspells⟩ := spells_kept hkeptKeys
  have hfree := hkeptKeys.prefixFree
  have hself (path : List String) (u : Value) (h : AskFor kept path u) : u.same u = true := by
    obtain ⟨stored, hstored, -, rfl⟩ := h
    obtain ⟨sent, hsent, hpair⟩ := exists_sent_of_mem_kept hkept hstored
    exact (wellKeyed_of_received (hvalues sent hsent) hpair.2).same_self
  refine .inr ⟨kept, storeAll [] kept, hkept, ?_, haccepted, ?_, ?_, ?_⟩
  · have hevents : ((attempts [] kept).flatMap fun a => a.stored.events) = [] :=
      List.flatMap_eq_nil_iff.mpr fun a ha => events_of_accepted (haccepted a ha)
    have hfill : ofPairs isRetyped pairs = _ := fill_of_kept hkept []
    rw [hfill, hevents]
    rfl
  · exact fun pair hpair rest => at?_of_spells hspells hfree ⟨pair, hpair, rfl, rfl⟩ rest
  · intro q w hq
    rcases of_at?_of_spells hspells hq with ⟨path, u, ⟨pair, hpair, rfl, -⟩, hpre⟩ | ⟨hmap, hway⟩
    · exact .inl ⟨pair, hpair, hpre⟩
    · refine .inr ⟨hmap, hway.imp_right ?_⟩
      rintro ⟨path, u, ⟨pair, hpair, rfl, -⟩, hpre⟩
      exact ⟨pair, hpair, hpre⟩
  · intro pairs' hperm
    obtain ⟨kept', hkept', hperm'⟩ := exists_kept_of_perm hperm hkept
    have hfill : ofPairs isRetyped pairs' = _ := fill_of_kept hkept' []
    refine ⟨storeAll [] kept', by rw [hfill], ?_⟩
    have hspells' := (spells_kept (hkeptKeys.perm (hperm'.map Prod.fst))).2
    have hasks : AskFor kept' = AskFor kept := by
      funext path v
      simp only [AskFor, hperm'.mem_iff]
    rw [hasks] at hspells'
    exact same_of_spells hspells hspells' hfree hself

/-- Pairs of a profile, two of them inside the same map. -/
def account : List (String × Value) :=
  [("user[name]", .text "Ada"), ("zip", .text "02134"), ("user.address.floor", .text "3")]

theorem independent_pairs_stored_exactly_account :
    Independent (account.map Prod.fst) ∧ (∀ pair ∈ account, pair.2.WellKeyed) ∧
      ∃ t t', (ofPairs true account).result = .ok t ∧
        (ofPairs true account.reverse).result = .ok t' ∧ (Value.map t).same (.map t') = true := by
  have hkeys : Independent (account.map Prod.fst) := by decide +kernel
  have hvalues : ∀ pair ∈ account, pair.2.WellKeyed := by
    simp only [account, List.forall_mem_cons]
    exact ⟨.single rfl, .single rfl, .single rfl, nofun⟩
  have hrun : (ofPairs true account).result = .ok [("user", .map [("name", .text "Ada"),
      ("address", .map [("floor", .int 3)])]), ("zip", .text "02134")] := rfl
  refine ⟨hkeys, hvalues, ?_⟩
  rcases independent_pairs_stored_exactly hkeys hvalues true with
    ⟨-, -, hdeep⟩ | ⟨kept, t, -, hok, -, -, -, hperm⟩
  · cases hrun.symm.trans hdeep
  · obtain ⟨t', ht', hsame⟩ := hperm account.reverse (List.reverse_perm account)
    exact ⟨t, t', by rw [hok]; rfl, ht', hsame⟩

end Intake.Form
