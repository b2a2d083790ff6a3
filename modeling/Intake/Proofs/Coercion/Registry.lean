import Intake.Proofs.Coercion.Elements

namespace Intake

namespace Coercion

/-- A value as a list type makes it of its members. -/
def listed (splits : Bool) (member : Value → Coerced) (v : Value) : Coerced :=
  match spread splits v with
  | .members items => gatherList (items.map member)
  | .single => wrapSingle (member v)
  | .refused => .refused
  | .tooDeep => .faulty .tooDeep

/-- A value as a map type makes it of its entries. -/
def mapped (member : Value → Coerced) (v : Value) : Coerced :=
  match spreadEntries v with
  | .ok (some entries) => gatherMap (entries.map fun (k, x) => (k, member x))
  | .ok none => .refused
  | .error _ => .faulty .tooDeep

/-- What the built-in type of a name makes of a value, where `member` says what becomes of a member of a
container under the name of its type. A name of no built-in type takes all values. -/
def builtIn (member : String → Value → Coerced) (name : String) (v : Value) : Coerced :=
  match Target.scalars.find? (·.name = name) with
  | some t => run [] t v
  | none =>
    if "list[".toList.isPrefixOf name.toList then
      match TypeName.element? name with
      | some e => listed (Target.splittable.contains e) (member e) v
      | none => toUnclosed true v
    else if "dict[".toList.isPrefixOf name.toList then
      match TypeName.element? name with
      | some e => mapped (member e) v
      | none => toUnclosed false v
    else .accepted v []

end Coercion

namespace Conversions

/-- What a registry makes of a value under a canonical name: the function registered for the name decides
alone, and without one the built-in type does, with members decided under the name of their own type. -/
def decided (r : Conversions) (name : String) (v : Value) : Coerced :=
  match r.find? name with
  | some f => Coercion.applyConversion f v
  | none => Coercion.builtIn r.coerce name v

variable {r : Conversions} {name : String} {fuel : Nat} {v : Value}

theorem run_eq_coerce {e : String} (hlen : e.length + 2 ≤ fuel) :
    Coercion.run r.functions (Target.ofCanonical fuel (TypeName.canonical e)) = r.coerce e := by
  funext x
  rw [coerce, Target.ofName, Target.ofCanonical_stable hlen (by omega : e.length + 2 ≤ e.length + 3)]

theorem ofCanonical_succ (fuel : Nat) (name : String) :
    Target.ofCanonical (fuel + 1) name =
      match Target.scalars.find? (·.name = name) with
      | some t => t
      | none =>
        if "list[".toList.isPrefixOf name.toList then
          match TypeName.element? name with
          | some e => .list name (Target.splittable.contains e)
            (Target.ofCanonical fuel (TypeName.canonical e))
          | none => .unclosed name true
        else if "dict[".toList.isPrefixOf name.toList then
          match TypeName.element? name with
          | some e => .dict name (Target.ofCanonical fuel (TypeName.canonical e))
          | none => .unclosed name false
        else .other name := by
  rw [Target.ofCanonical]
  generalize "list[".toList.isPrefixOf name.toList = isList
  generalize "dict[".toList.isPrefixOf name.toList = isDict
  cases Target.scalars.find? (·.name = name) with
  | some t => rfl
  | none => cases TypeName.element? name <;> cases isList <;> cases isDict <;> rfl

/-- The types without members do the same whatever is registered for other names. -/
theorem run_scalar {t : Target} (ht : t ∈ Target.scalars) (h : r.find? t.name = none) :
    Coercion.run r.functions t v = Coercion.run [] t v := by
  have hnone : Table.get? ([] : Table Conversion) t.name = none := rfl
  rw [find?] at h
  simp only [Target.scalars, List.mem_cons, List.not_mem_nil, or_false] at ht
  rcases ht with rfl | rfl | rfl | rfl | rfl | rfl | rfl | rfl | rfl <;>
    rw [Coercion.run, Coercion.run, h, hnone]

theorem name_ofCanonical (fuel : Nat) (name : String) :
    (Target.ofCanonical (fuel + 1) name).name = name := by
  rw [ofCanonical_succ]
  generalize "list[".toList.isPrefixOf name.toList = isList
  generalize "dict[".toList.isPrefixOf name.toList = isDict
  cases hscalar : Target.scalars.find? (·.name = name) with
  | some t => simpa using List.find?_some hscalar
  | none => cases TypeName.element? name <;> cases isList <;> cases isDict <;> rfl

theorem run_list {splits : Bool} {element : Target} (hv : v ≠ .null) (h : r.find? name = none) :
    Coercion.run r.functions (.list name splits element) v =
      Coercion.listed splits (Coercion.run r.functions element) v := by
  rw [find?] at h
  rw [Coercion.run, if_neg (mt Value.isNull_iff.mp hv), Target.name, h]
  rfl

theorem run_dict {element : Target} (hv : v ≠ .null) (h : r.find? name = none) :
    Coercion.run r.functions (.dict name element) v =
      Coercion.mapped (Coercion.run r.functions element) v := by
  rw [find?] at h
  rw [Coercion.run, if_neg (mt Value.isNull_iff.mp hv), Target.name, h]
  rfl

theorem run_unclosed {isList : Bool} (hv : v ≠ .null) (h : r.find? name = none) :
    Coercion.run r.functions (.unclosed name isList) v = Coercion.toUnclosed isList v := by
  rw [find?] at h
  rw [Coercion.run, if_neg (mt Value.isNull_iff.mp hv), Target.name, h]

theorem run_other (hv : v ≠ .null) (h : r.find? name = none) :
    Coercion.run r.functions (.other name) v = .accepted v [] := by
  rw [find?] at h
  rw [Coercion.run, if_neg (mt Value.isNull_iff.mp hv), Target.name, h]

/-- The built-in type that is taken out of a canonical name does what the name says. -/
theorem run_builtIn (hlen : name.length ≤ fuel + 4) (hv : v ≠ .null) (h : r.find? name = none) :
    Coercion.run r.functions (Target.ofCanonical (fuel + 1) name) v =
      Coercion.builtIn r.coerce name v := by
  have hmember {e : String} (he : TypeName.element? name = some e) :
      Coercion.run r.functions (Target.ofCanonical fuel (TypeName.canonical e)) = r.coerce e := by
    -- The name of the members' type is shorter, and so the fuel that is left is enough for it.
    have hshort := TypeName.length_element? he
    exact run_eq_coerce (by omega)
  rw [ofCanonical_succ, Coercion.builtIn]
  cases hscalar : Target.scalars.find? (·.name = name) with
  | some t =>
    have hname : t.name = name := by simpa using List.find?_some hscalar
    exact run_scalar (List.mem_of_find?_eq_some hscalar) (hname ▸ h)
  | none =>
    dsimp only
    split_ifs
    · cases he : TypeName.element? name with
      | some e => rw [run_list hv h, hmember he]
      | none => exact run_unclosed hv h
    · cases he : TypeName.element? name with
      | some e => rw [run_dict hv h, hmember he]
      | none => exact run_unclosed hv h
    · exact run_other hv h

theorem run_ofCanonical (hlen : name.length ≤ fuel + 4) (hv : v ≠ .null) :
    Coercion.run r.functions (Target.ofCanonical (fuel + 1) name) v = r.decided name v := by
  rw [decided]
  cases hf : r.find? name with
  | some f =>
    rw [find?, ← name_ofCanonical fuel name] at hf
    rw [Coercion.run.eq_def, if_neg (mt Value.isNull_iff.mp hv), hf]
  | none => exact run_builtIn hlen hv hf

theorem coerce_eq_decided (r : Conversions) (type : String) (hv : v ≠ .null) :
    r.coerce type v = r.decided (TypeName.canonical type) v := by
  have hlen := TypeName.length_canonical_le type
  exact run_ofCanonical (by omega) hv

theorem coerceTo_eq_decided {type : TypeForm} (h : type.canonical = .ok name) (hv : v ≠ .null) :
    r.coerceTo type v = .ok (r.decided name v) := by
  rw [coerceTo, h]
  exact congrArg Except.ok (run_ofCanonical (by omega) hv)

/-- What can be done with a registry: a conversion for a type, the end of registration, a conversion
looked up under a name or a type asked for. -/
inductive Move where
  | register (type : TypeForm) (f : Conversion)
  | freeze
  | get (name : String)
  | contains (type : TypeForm)

/-- A registry after a move, and the fault of the move if it fails. -/
def step : Move → Conversions → Conversions × Option DefinitionFault
  | .register type f, r =>
    match r.register type f with
    | .ok r' => (r', none)
    | .error fault => (r, some fault)
  | .freeze, r => (r.freeze, none)
  | .get _, r => (r, none)
  | .contains type, r =>
    match type.canonical with
    | .ok _ => (r, none)
    | .error shown => (r, some (.unsupportedType shown))

/-- A registry after moves, of which some may have failed. -/
def afterMoves : List Move → Conversions → Conversions
  | [], r => r
  | m :: ms, r => afterMoves ms (step m r).1

def Move.isRegistration : Move → Bool
  | .register _ _ => true
  | _ => false

/-- How many registrations there are among moves that do not fail. -/
def successes : List Move → Conversions → Nat
  | [], _ => 0
  | m :: ms, r =>
    (if m.isRegistration ∧ (step m r).2 = none then 1 else 0) + successes ms (step m r).1

/-- The moves register a conversion for a name, and that move does not fail. -/
def Registers (name : String) (f : Conversion) (ms : List Move) (r : Conversions) : Prop :=
  ∃ before type after, ms = before ++ .register type f :: after ∧ type.canonical = .ok name ∧
    (step (.register type f) (afterMoves before r)).2 = none

variable {type : TypeForm} {f : Conversion} {m : Move} {ms ms' : List Move}

/-- Registering a conversion fails and changes nothing, or puts it under a free name. -/
theorem register_cases (r : Conversions) (type : TypeForm) (f : Conversion) :
    (∃ fault, step (.register type f) r = (r, some fault)) ∨
      ∃ name, type.canonical = .ok name ∧ r.frozen = false ∧ r.find? name = none ∧
        step (.register type f) r = ({ r with functions := r.functions ++ [(name, f)] }, none) := by
  rw [step, register]
  cases htype : type.canonical with
  | error shown => exact .inl ⟨_, rfl⟩
  | ok name =>
    dsimp only
    rw [add]
    split_ifs with hfrozen htaken
    · exact .inl ⟨_, rfl⟩
    · exact .inl ⟨_, rfl⟩
    · refine .inr ⟨name, rfl, eq_false_of_ne_true hfrozen, ?_, rfl⟩
      rwa [Table.has, Bool.not_eq_true, Option.isSome_eq_false_iff, Option.isNone_iff_eq_none] at htaken

theorem register_succeeds_iff : (step (.register type f) r).2 = none ↔
    r.frozen = false ∧ ∃ name, type.canonical = .ok name ∧ r.find? name = none := by
  constructor
  · intro h
    rcases register_cases r type f with ⟨fault, heq⟩ | ⟨name, htype, hfrozen, hfree, -⟩
    · rw [heq] at h
      cases h
    · exact ⟨hfrozen, name, htype, hfree⟩
  · rintro ⟨hfrozen, name, htype, hfree⟩
    rw [find?] at hfree
    rw [step, register, htype]
    dsimp only
    rw [add, hfrozen, Table.has, hfree]
    rfl

theorem unchanged_of_fault {fault : DefinitionFault} (h : (step m r).2 = some fault) :
    (step m r).1 = r := by
  cases m with
  | register type f =>
    rcases register_cases r type f with ⟨e, heq⟩ | ⟨name, -, -, -, heq⟩
    · rw [heq]
    · rw [heq] at h
      cases h
  | freeze => cases h
  | get name => rfl
  | contains type =>
    rw [step]
    split <;> rfl

theorem find?_added (r : Conversions) (added : String) (f : Conversion) (name : String) :
    ({ r with functions := r.functions ++ [(added, f)] } : Conversions).find? name =
      (r.find? name).or (if added = name then some f else none) := by
  rw [find?, Table.get?_append, Table.get?_cons, Table.get?_nil, find?]

/-- A move puts nothing under a name but what it registers there. -/
theorem find?_step_iff : (step m r).1.find? name = some f ↔ r.find? name = some f ∨
    ∃ type, m = .register type f ∧ type.canonical = .ok name ∧ (step m r).2 = none := by
  cases m with
  | register type g =>
    rcases register_cases r type g with ⟨fault, heq⟩ | ⟨added, htype, -, hfree, heq⟩
    · rw [heq]
      simp
    · rw [heq, find?_added]
      constructor
      · intro h
        rcases Option.or_eq_some_iff.mp h with h | ⟨-, h⟩
        · exact .inl h
        · split_ifs at h with hname
          obtain rfl := Option.some.inj h
          exact .inr ⟨type, rfl, hname ▸ htype, rfl⟩
      · rintro (h | ⟨type', hm, htype', -⟩)
        · rw [h]
          rfl
        · obtain ⟨rfl, rfl⟩ := Move.register.inj hm
          obtain rfl := Except.ok.inj (htype.symm.trans htype')
          rw [hfree, if_pos rfl]
          rfl
  | freeze => simp [step, freeze, find?]
  | get name => simp [step]
  | contains type =>
    rw [step]
    split <;> simp

theorem afterMoves_append (ms ms' : List Move) (r : Conversions) :
    afterMoves (ms ++ ms') r = afterMoves ms' (afterMoves ms r) := by
  induction ms generalizing r with
  | nil => rfl
  | cons m ms ih => exact ih (step m r).1

/-- What stands under a name was there or was registered for it. -/
theorem find?_afterMoves_iff : (afterMoves ms r).find? name = some f ↔
    r.find? name = some f ∨ Registers name f ms r := by
  induction ms generalizing r with
  | nil =>
    refine (or_iff_left ?_).symm
    rintro ⟨before, type, after, h, -⟩
    cases before <;> cases h
  | cons m ms ih =>
    rw [afterMoves, ih, find?_step_iff, or_assoc]
    refine or_congr_right ⟨?_, ?_⟩
    · rintro (⟨type, rfl, htype, hok⟩ | ⟨before, type, after, rfl, htype, hok⟩)
      · exact ⟨[], type, ms, rfl, htype, hok⟩
      · exact ⟨m :: before, type, after, rfl, htype, hok⟩
    · rintro ⟨before, type, after, h, htype, hok⟩
      cases before with
      | nil =>
        obtain ⟨rfl, rfl⟩ := List.cons.inj h
        exact .inl ⟨type, rfl, htype, hok⟩
      | cons m' before =>
        obtain ⟨rfl, rfl⟩ := List.cons.inj h
        exact .inr ⟨before, type, after, rfl, htype, hok⟩

theorem frozen_step (hr : r.frozen = true) (m : Move) : (step m r).1 = r := by
  cases m with
  | register type f =>
    rcases register_cases r type f with ⟨fault, heq⟩ | ⟨name, -, hopen, -⟩
    · rw [heq]
    · rw [hr] at hopen
      cases hopen
  | freeze =>
    obtain ⟨functions, frozen⟩ := r
    obtain rfl : frozen = true := hr
    rfl
  | get name => rfl
  | contains type =>
    rw [step]
    split <;> rfl

theorem afterMoves_of_frozen (hr : r.frozen = true) (ms : List Move) : afterMoves ms r = r := by
  induction ms with
  | nil => rfl
  | cons m ms ih => rw [afterMoves, frozen_step hr m, ih]

theorem frozen_afterMoves (h : .freeze ∈ ms) (r : Conversions) : (afterMoves ms r).frozen = true := by
  obtain ⟨before, after, rfl⟩ := List.append_of_mem h
  rw [afterMoves_append, afterMoves, afterMoves_of_frozen rfl]
  rfl

theorem size_step (m : Move) (r : Conversions) : (step m r).1.size =
    r.size + if m.isRegistration ∧ (step m r).2 = none then 1 else 0 := by
  cases m with
  | register type f =>
    rcases register_cases r type f with ⟨fault, heq⟩ | ⟨name, -, -, -, heq⟩
    · rw [heq]
      rfl
    · rw [heq, size, List.length_append]
      rfl
  | freeze => rfl
  | get name => rfl
  | contains type =>
    rw [step]
    split <;> rfl

theorem size_afterMoves (ms : List Move) (r : Conversions) :
    (afterMoves ms r).size = r.size + successes ms r := by
  induction ms generalizing r with
  | nil => rfl
  | cons m ms ih => rw [afterMoves, ih, size_step, successes, Nat.add_assoc]

theorem applyConversion_eq_accepted_iff {w : Value} {ps : List Position} :
    Coercion.applyConversion f v = .accepted w ps ↔ f v = .ok w ∧ w ≠ .null ∧ ps = [] := by
  unfold Coercion.applyConversion
  split
  · next h => grind
  · next h => grind
  · next h => grind

theorem applyConversion_eq_refused_iff :
    Coercion.applyConversion f v = .refused ↔ f v = .ok .null ∨ ∃ message, f v = .error message := by
  unfold Coercion.applyConversion
  split
  · next h => grind
  · next h => grind
  · next h => grind

/-- How a registry stands after moves. What is found under a name is what was registered for it in the one
move that did not fail, and it stays; a type can be registered just once and before the end of
registration; a move that fails changes nothing; and a value is brought to a type by what is registered
under the type's canonical name, or else by the built-in types, in which the same goes for members. -/
structure Governs (ms : List Move) (r : Conversions) : Prop where
  found : ∀ name f, r.find? name = some f ↔ Registers name f ms empty
  stays : ∀ ms' name f, r.find? name = some f → (afterMoves ms' r).find? name = some f
  succeeds : ∀ type f, (step (.register type f) r).2 = none ↔
    r.frozen = false ∧ ∃ name, type.canonical = .ok name ∧ r.find? name = none
  unchanged : ∀ m fault, (step m r).2 = some fault → (step m r).1 = r
  final : .freeze ∈ ms →
    (∀ ms', afterMoves ms' r = r) ∧ ∀ type f, (step (.register type f) r).2 ≠ none
  size : r.size = successes ms empty
  accepts : ∀ type f v, v ≠ .null → r.find? (TypeName.canonical type) = some f →
    ∀ w ps, r.coerce type v = .accepted w ps ↔ f v = .ok w ∧ w ≠ .null ∧ ps = []
  refuses : ∀ type f v, v ≠ .null → r.find? (TypeName.canonical type) = some f →
    (r.coerce type v = .refused ↔ f v = .ok .null ∨ ∃ message, f v = .error message)
  spelled : ∀ type v, v ≠ .null → r.coerce type v = r.decided (TypeName.canonical type) v
  formed : ∀ type name v, type.canonical = .ok name → v ≠ .null →
    r.coerceTo type v = .ok (r.decided name v)

theorem decided_of_find? (h : r.find? name = some f) :
    r.decided name v = Coercion.applyConversion f v := by
  rw [decided, h]

/-- Whatever is done with a registry, under any spellings of types, it keeps the first conversion of each
type and nothing else, and values are brought to types accordingly. -/
theorem registry_governs (ms : List Move) : Governs ms (afterMoves ms empty) where
  found name f := find?_afterMoves_iff.trans (or_iff_right nofun)
  stays ms' name f h := find?_afterMoves_iff.mpr (.inl h)
  succeeds type f := register_succeeds_iff
  unchanged m fault h := unchanged_of_fault h
  final h := by
    have hfrozen := frozen_afterMoves h empty
    refine ⟨afterMoves_of_frozen hfrozen, fun type f hok => ?_⟩
    exact Bool.false_ne_true ((register_succeeds_iff.mp hok).1.symm.trans hfrozen)
  size := (size_afterMoves ms empty).trans (Nat.zero_add _)
  accepts type f v hv hf w ps := by
    rw [coerce_eq_decided _ type hv, decided_of_find? hf]
    exact applyConversion_eq_accepted_iff
  refuses type f v hv hf := by
    rw [coerce_eq_decided _ type hv, decided_of_find? hf]
    exact applyConversion_eq_refused_iff
  spelled type v hv := coerce_eq_decided _ type hv
  formed type name v htype hv := coerceTo_eq_decided htype hv

/-- A price in text, as a whole number of cents. -/
def cents : Conversion
  | .text s => (s.toNat?.elim (.error "no price") fun n => .ok (.int (100 * n)))
  | _ => .ok .null

/-- Prices are registered, and then once more under another spelling and when no more are taken. -/
def priceMoves : List Move :=
  [.register (.spelled " price") cents, .register (.spelled "price ") fun v => .ok v, .freeze,
    .contains (.spelled "int"), .register (.spelled "integer") cents]

theorem builtIn_prices (member : String → Value → Coerced) (vs : List Value) :
    Coercion.builtIn member "list[price]" (.list vs) = Coercion.gatherList (vs.map (member "price")) := by
  cbv

theorem registry_governs_prices :
    (afterMoves priceMoves empty).size = 1 ∧
      (afterMoves priceMoves empty).coerce "list[price]" (.list [.text "12", .text "x", .int 3]) =
        .accepted (.list [.int 1200]) [.index 1, .index 2] := by
  have hgoverns := registry_governs priceMoves
  have hlist : TypeName.canonical "list[price]" = "list[price]" := by decide +kernel
  have hfree : (afterMoves priceMoves empty).find? "list[price]" = none :=
    Option.isNone_iff_eq_none.mp (by decide +kernel)
  have hfound : (afterMoves priceMoves empty).find? (TypeName.canonical "price") = some cents := by
    refine (hgoverns.found _ _).mpr ⟨[], .spelled " price", _, rfl, ?_, ?_⟩
    · exact congrArg Except.ok (by decide +kernel)
    · exact register_succeeds_iff.mpr ⟨rfl, _, rfl, rfl⟩
  have haccepts := hgoverns.accepts "price" cents
  have hrefuses := hgoverns.refuses "price" cents
  have htwelve := (haccepts (.text "12") (by simp) hfound (.int 1200) []).mpr ⟨by cbv, by simp, rfl⟩
  have hletter := (hrefuses (.text "x") (by simp) hfound).mpr (.inr ⟨"no price", by cbv⟩)
  have hthree := (hrefuses (.int 3) (by simp) hfound).mpr (.inl rfl)
  refine ⟨hgoverns.size.trans (by decide +kernel), ?_⟩
  rw [hgoverns.spelled _ _ (by simp), hlist, decided, hfree]
  dsimp only
  rw [builtIn_prices]
  simp only [List.map_cons, List.map_nil, htwelve, hletter, hthree]
  rfl

end Conversions

end Intake
