import Intake.Proofs.Coercion.Losses
import Intake.Proofs.Schema.Precedence

namespace Intake

open Context

namespace Value

def isBool : Value → Bool
  | .bool _ => true
  | _ => false

mutual

/-- Whether true and false stand only against true and false in two values, at any depth. -/
def alignsBools : Value → Value → Bool
  | .list xs, .list ys => alignItems xs ys
  | .tuple xs, .tuple ys => alignItems xs ys
  | .map es, .map fs => alignEntries es fs
  | v, w => v.isBool = w.isBool

def alignItems : List Value → List Value → Bool
  | x :: xs, y :: ys => alignsBools x y && alignItems xs ys
  | _, _ => true

def alignEntries : List (String × Value) → List (String × Value) → Bool
  | [], _ => true
  | (k, v) :: rest, fs =>
    (match Table.get? fs k with
      | some w => alignsBools v w
      | none => true) && alignEntries rest fs

end

def items? : Value → Option (List Value)
  | .list vs => some vs
  | .tuple vs => some vs
  | _ => none

/-- Equality in which true and false never equal a number, at any depth. -/
def Agrees (v w : Value) : Prop := v.equal w = true ∧ v.alignsBools w = true

variable {v w : Value}

theorem items?_of_not_isContainer (h : w.isContainer = false) : w.items? = none := by
  cases w <;> first | rfl | cases h

theorem alignsBools_of_not_isContainer (h : w.isContainer = false) :
    v.alignsBools w = decide (v.isBool = w.isBool) := by
  cases w with
  | list ys => cases h
  | tuple ys => cases h
  | map fs => cases h
  | _ => cases v <;> simp [alignsBools]

theorem agrees_iff_of_not_isContainer (h : w.isContainer = false) :
    v.Agrees w ↔ v.equal w = true ∧ v.isBool = w.isBool := by
  rw [Agrees, alignsBools_of_not_isContainer h, decide_eq_true_eq]

end Value

namespace Group

variable {literal v : Value} {vs items : List Value} {g : Group} {c : Context}

/-- What is asked of a trigger's value: it agrees with the literal, or is a list that holds a value of
which the same can be said. -/
inductive Meets (literal : Value) : Value → Prop where
  | equal {v : Value} (h : v.Agrees literal) : Meets literal v
  | member {v x : Value} {vs : List Value} (hvs : v.items? = some vs) (hx : x ∈ vs)
      (h : Meets literal x) : Meets literal v

/-- What is looked for in a trigger's value: the literal, of which no more is compared than whether it is
a boolean itself, and where it is no list a list is searched for it. -/
inductive Finds (literal : Value) : Value → Prop where
  | equal {v : Value} (h : v.equal literal = true) (hbool : v.isBool = literal.isBool) : Finds literal v
  | member {v x : Value} {vs : List Value} (hl : literal.items? = none) (hvs : v.items? = some vs)
      (hx : x ∈ vs) (h : Finds literal x) : Finds literal v

theorem isSequence_eq (v : Value) : isSequence v = v.items?.isSome := by
  cases v <;> rfl

theorem isMatch_of_items (h : v.items? = some vs) :
    isMatch literal v = if isSequence literal then v.equal literal else anyMatch literal vs := by
  cases v with
  | list items =>
    obtain rfl := Option.some.inj h
    rw [isMatch]
  | tuple items =>
    obtain rfl := Option.some.inj h
    rw [isMatch]
  | _ => cases h

theorem isBool_of_items (h : v.items? = some vs) : v.isBool = false := by
  cases v <;> first | rfl | cases h

theorem not_equal_of_items (hv : v.items? = some vs) (hl : literal.items? = none) :
    v.equal literal = false := by
  cases v with
  | list items => cases literal <;> first | rfl | cases hl
  | tuple items => cases literal <;> first | rfl | cases hl
  | _ => cases hv

theorem finds_member (hvs : v.items? = some vs) (hl : literal.items? = none) (h : Finds literal v) :
    ∃ x ∈ vs, Finds literal x := by
  cases h with
  | equal h => cases (not_equal_of_items hvs hl).symm.trans h
  | member _ hvs' hx h =>
    obtain rfl := Option.some.inj (hvs.symm.trans hvs')
    exact ⟨_, hx, h⟩

/-- A list is compared with a list, and searched for anything else. -/
theorem isMatch_iff_of_items (hvs : v.items? = some vs)
    (hany : anyMatch literal vs = true ↔ ∃ x ∈ vs, Finds literal x) :
    isMatch literal v = true ↔ Finds literal v := by
  rw [isMatch_of_items hvs, isSequence_eq]
  cases hl : literal.items? with
  | some items =>
    constructor
    · exact fun h => .equal h ((isBool_of_items hvs).trans (isBool_of_items hl).symm)
    · intro h
      cases h with
      | equal h => exact h
      | member hl' => cases hl.symm.trans hl'
  | none =>
    exact hany.trans ⟨fun ⟨x, hx, h⟩ => .member hl hvs hx h, finds_member hvs hl⟩

theorem finds_iff_of_single (hv : v.items? = none) :
    Finds literal v ↔ v.equal literal = true ∧ v.isBool = literal.isBool := by
  constructor
  · intro h
    cases h with
    | equal h hbool => exact ⟨h, hbool⟩
    | member _ hvs => cases hv.symm.trans hvs
  · exact fun ⟨h, hbool⟩ => .equal h hbool

theorem equal_bool (a b : Bool) : (Value.bool a).equal (.bool b) = decide (a = b) := by
  cases a <;> cases b <;> rfl

theorem isMatch_iff_of_single (hv : v.items? = none) : isMatch literal v = true ↔ Finds literal v := by
  rw [finds_iff_of_single hv]
  cases v with
  | list => cases hv
  | tuple => cases hv
  | bool a => cases literal <;> simp [isMatch, Value.isBool, equal_bool]
  | _ => cases literal <;> simp [isMatch, Value.isBool]

mutual

theorem isMatch_iff (literal v : Value) : isMatch literal v = true ↔ Finds literal v := by
  cases v with
  | list vs => exact isMatch_iff_of_items rfl (anyMatch_iff literal vs)
  | tuple vs => exact isMatch_iff_of_items rfl (anyMatch_iff literal vs)
  | _ => exact isMatch_iff_of_single rfl

theorem anyMatch_iff (literal : Value) (vs : List Value) :
    anyMatch literal vs = true ↔ ∃ v ∈ vs, Finds literal v := by
  cases vs with
  | nil => simp [anyMatch]
  | cons v vs =>
    rw [anyMatch, Bool.or_eq_true, isMatch_iff literal v, anyMatch_iff literal vs, List.exists_mem_cons_iff]

end

/-- For a literal that is no container the search finds what is asked for. -/
theorem finds_iff_meets (h : literal.isContainer = false) : Finds literal v ↔ Meets literal v := by
  have hl := Value.items?_of_not_isContainer h
  constructor
  · intro hf
    induction hf with
    | equal hv hbool => exact .equal ((Value.agrees_iff_of_not_isContainer h).mpr ⟨hv, hbool⟩)
    | member _ hvs hx _ ih => exact .member hvs hx ih
  · intro hm
    induction hm with
    | equal hv =>
      obtain ⟨hv, hbool⟩ := (Value.agrees_iff_of_not_isContainer h).mp hv
      exact .equal hv hbool
    | member hvs hx _ ih => exact .member hl hvs hx ih

theorem isActive_iff_of_present (h : g.value = none) : g.isActive c = true ↔ g.trigger ∈ Table.names c.data := by
  rw [← Table.has_iff, Table.has]
  unfold isActive
  rw [h]
  cases Table.get? c.data g.trigger <;> rfl

theorem isActive_iff_of_value (h : g.value = some literal) :
    g.isActive c = true ↔ ∃ v, Table.get? c.data g.trigger = some v ∧
      (Finds literal v ∨ ∃ w, Table.get? c.coerced g.trigger = some w ∧ Finds literal w) := by
  unfold isActive
  rw [h]
  cases Table.get? c.data g.trigger with
  | none => simp
  | some v =>
    dsimp only
    rw [Bool.or_eq_true, isMatch_iff, Option.any_eq_true]
    simp only [isMatch_iff, Option.some.injEq, exists_eq_left']

end Group

namespace Coercion

variable {literal w : Value} {ps : List Position} {t : Target}

theorem spreadEntries_empty : spreadEntries (.text "") = .ok none := by
  with_unfolding_all rfl

/-- What the built-in types make of the empty text holds no scalar that the empty text is not itself. -/
theorem finds_of_run_empty (hl : literal.isContainer = false) (h : run [] t (.text "") = .accepted w ps)
    (hw : Group.Finds literal w) : Group.Finds literal (.text "") := by
  have hitems : literal.items? = none := Value.items?_of_not_isContainer hl
  induction t generalizing w ps with
  | list name splits element ih =>
    have hspread : run [] (.list name splits element) (.text "") =
        if splits then .accepted (.list []) [] else wrapSingle (run [] element (.text "")) := by
      rw [run]
      cases splits <;> rfl
    rw [hspread] at h
    split_ifs at h
    · obtain ⟨rfl, -⟩ := Coerced.accepted.inj h
      obtain ⟨x, hx, -⟩ := Group.finds_member rfl hitems hw
      exact absurd hx List.not_mem_nil
    · cases hrun : run [] element (.text "") with
      | accepted v qs =>
        rw [hrun] at h
        obtain ⟨rfl, -⟩ := Coerced.accepted.inj h
        obtain ⟨x, hx, hw⟩ := Group.finds_member rfl hitems hw
        exact ih hrun (List.mem_singleton.mp hx ▸ hw)
      | _ =>
        rw [hrun] at h
        cases h
  | dict name element ih =>
    have hrun : run [] (.dict name element) (.text "") = .refused := by
      rw [run, spreadEntries_empty]
      rfl
    cases hrun.symm.trans h
  | unclosed name isList =>
    rw [run] at h
    cases isList with
    | true => cases h
    | false =>
      change toUnclosed false (.text "") = _ at h
      rw [toUnclosed, spreadEntries_empty] at h
      cases h
  | any =>
    obtain ⟨rfl, -⟩ := Coerced.accepted.inj h
    exact hw
  | str =>
    obtain ⟨rfl, -⟩ := Coerced.accepted.inj h
    exact hw
  | other name =>
    obtain ⟨rfl, -⟩ := Coerced.accepted.inj h
    exact hw
  | _ => cases h

end Coercion

namespace Schema

variable {s : Schema} {o : Outline} {bs : List Binding} {g : Group} {data : Table Value} {name : String}
  {v w : Value}

/-- The values that are looked at to decide on a group: what was sent for the trigger, and what a field of
the schema itself makes of it, unless that is required and was sent empty. -/
inductive Sees (s : Schema) (data : Table Value) (name : String) : Value → Prop where
  | sent {v : Value} (hv : Table.get? data name = some v) : Sees s data name v
  | typed {f : Field} {v w : Value} (hv : Table.get? data name = some v) (hf : f ∈ s.outline.fields)
      (hname : f.name = name) (hfilled : ¬(f.required = true ∧ v = .text "")) (hw : s.Brings f v w) :
      Sees s data name w

/-- The values that a trigger has: what was sent for it, and what its field makes of that, wherever the
field is declared. -/
inductive Shows (s : Schema) (data : Table Value) (name : String) : Value → Prop where
  | sent {v : Value} (hv : Table.get? data name = some v) : Shows s data name v
  | typed {f : Field} {v w : Value} (hv : Table.get? data name = some v) (hf : f ∈ s.fieldsFor data)
      (hname : f.name = name) (hw : s.Brings f v w) : Shows s data name w

theorem get?_typedView (hs : (Schema.mk o bs).WellNamed) (data : Table Value) {f : Field} (hf : f ∈ o.fields) :
    Table.get? (o.typedView (nestedFields bs) data).coerced f.name =
      o.typedValue? (Table.get? (nestedFields bs) f.name) data f :=
  Table.get?_filterMap Field.name (fun f => o.typedValue? (Table.get? (nestedFields bs) f.name) data f)
    hs.outline.fields hf

theorem get?_typedView_of_not_mem (bs : List Binding) (data : Table Value) (h : name ∉ o.fields.map (·.name)) :
    Table.get? (o.typedView (nestedFields bs) data).coerced name = none := by
  rw [Table.get?_eq_none_iff]
  exact fun hmem => h ((Table.names_filterMap_sublist o.fields (·.name) _).subset hmem)

theorem isBlank_iff (hn : v ≠ .null) : v.isBlank = true ↔ v = .text "" := by
  cases v <;> simp_all [Value.isBlank]

theorem Brings.ne_null {f : Field} (h : s.Brings f v w) : v ≠ .null := by
  rintro rfl
  cases h with
  | typed _ h =>
    rw [Conversions.coerce, Coercion.run.eq_def] at h
    cases h
  | @container b _ _ h =>
    generalize b.many = many at h
    cases h with
    | plain h => cases h

/-- The typed value of a field, where it has one besides null. -/
theorem typedValue?_eq_some_iff (hn : (bs.map Binding.name).Nodup) {f : Field}
    (hv : Table.get? data f.name = some v) (hnull : v ≠ .null) :
    o.typedValue? (Table.get? (nestedFields bs) f.name) data f = some w ↔
      ¬(f.required = true ∧ v = .text "") ∧ (Schema.mk o bs).Brings f v w := by
  rw [Outline.typedValue?_of_value hv hnull, ← isBlank_iff hnull, ← Bool.and_eq_true, ← Outline.isSkipped,
    ← typed_eq_accepted_iff hn]
  split_ifs with hskip
  · simp [hskip]
  · cases o.typed (Table.get? (nestedFields bs) f.name) f v <;> simp [hskip, Coerced.value?]

theorem sees_iff (hs : (Schema.mk o bs).WellNamed) (hv : Table.get? data name = some v) :
    (Schema.mk o bs).Sees data name w ↔
      w = v ∨ Table.get? (o.typedView (nestedFields bs) data).coerced name = some w := by
  have hn : (bs.map Binding.name).Nodup := hs.bindings
  constructor
  · intro h
    cases h with
    | sent hv' => exact .inl (Option.some.inj (hv'.symm.trans hv))
    | typed hv' hf hname hfilled hw =>
      obtain rfl := Option.some.inj (hv'.symm.trans hv)
      subst hname
      rw [get?_typedView hs data hf, typedValue?_eq_some_iff hn hv hw.ne_null]
      exact .inr ⟨hfilled, hw⟩
  · rintro (rfl | hw)
    · exact .sent hv
    · by_cases hmem : name ∈ o.fields.map (·.name)
      · obtain ⟨f, hf, rfl⟩ := List.mem_map.mp hmem
        rw [get?_typedView hs data hf] at hw
        by_cases hnull : v = .null
        · subst hnull
          rw [Outline.typedValue?_of_null hv] at hw
          exact Option.some.inj hw ▸ .sent hv
        · obtain ⟨hfilled, hw⟩ := (typedValue?_eq_some_iff hn hv hnull).mp hw
          exact .typed hv hf rfl hfilled hw
      · rw [get?_typedView_of_not_mem bs data hmem] at hw
        cases hw

theorem exists_sees_iff (hs : s.WellNamed) {literal : Value} :
    (∃ v, Table.get? data name = some v ∧ (Group.Finds literal v ∨
      ∃ w, Table.get? (s.outline.typedView (nestedFields s.nested) data).coerced name = some w ∧
        Group.Finds literal w)) ↔ ∃ v, s.Sees data name v ∧ Group.Finds literal v := by
  obtain ⟨o, bs⟩ := s
  constructor
  · rintro ⟨v, hv, hfinds | ⟨w, hw, hfinds⟩⟩
    · exact ⟨v, .sent hv, hfinds⟩
    · exact ⟨w, (sees_iff hs hv).mpr (.inr hw), hfinds⟩
  · rintro ⟨w, hw, hfinds⟩
    obtain ⟨v, hv⟩ : ∃ v, Table.get? data name = some v := by
      cases hw with
      | sent hv => exact ⟨_, hv⟩
      | typed hv => exact ⟨_, hv⟩
    refine ⟨v, hv, ?_⟩
    rcases (sees_iff hs hv).mp hw with rfl | hw
    · exact .inl hfinds
    · exact .inr ⟨w, hw, hfinds⟩

theorem mem_groupsFor_iff (hg : g ∈ s.outline.groups) :
    g ∈ s.groupsFor data ↔ g.isActive (s.outline.typedView (nestedFields s.nested) data) = true := by
  rw [groupsFor, Outline.activeGroups, List.mem_filter, and_iff_right hg]

theorem Brings.finds_of_empty {f : Field} {literal : Value} (h : s.Brings f (.text "") w)
    (hr : s.outline.conversions.functions = []) (hl : literal.isContainer = false)
    (hw : Group.Finds literal w) : Group.Finds literal (.text "") := by
  cases h with
  | typed _ h =>
    rw [Conversions.coerce, hr] at h
    exact Coercion.finds_of_run_empty hl h hw
  | @container b _ _ h =>
    generalize b.many = many at h
    cases h with
    | plain h => cases h
    | json hread h =>
      have hempty : ∀ v, Json.read "" ≠ .ok v := by
        intro v hv
        have herror : (Json.read "").toOption = none := by with_unfolding_all rfl
        rw [hv] at herror
        cases herror
      exact absurd hread (hempty _)

theorem sees_iff_shows (hr : s.outline.conversions.functions = [])
    (hown : ∀ g ∈ s.outline.groups, ¬g.Declares name) {literal : Value} (hl : literal.isContainer = false) :
    (∃ v, s.Sees data name v ∧ Group.Finds literal v) ↔ ∃ v, s.Shows data name v ∧ Group.Meets literal v := by
  simp only [← Group.finds_iff_meets hl]
  constructor
  · rintro ⟨w, hw, hfinds⟩
    refine ⟨w, ?_, hfinds⟩
    cases hw with
    | sent hv => exact .sent hv
    | typed hv hf hname _ hw => exact .typed hv (List.mem_append_left _ hf) hname hw
  · rintro ⟨w, hw, hfinds⟩
    cases hw with
    | sent hv => exact ⟨w, .sent hv, hfinds⟩
    | @typed f v _ hv hf hname hw =>
      have hf : f ∈ s.outline.fields := by
        refine (List.mem_append.mp hf).resolve_right fun hf => ?_
        rw [← Outline.groupFields_eq_firstNamed] at hf
        obtain ⟨g, hg, hfg⟩ := Outline.mem_of_mem_groupFields hf
        exact hown g (mem_groups_of_mem_groupsFor hg) ⟨f, hfg, hname⟩
      by_cases hfilled : f.required = true ∧ v = .text ""
      · obtain ⟨-, rfl⟩ := hfilled
        exact ⟨_, .sent hv, hw.finds_of_empty hr hl hfinds⟩
      · exact ⟨w, .typed hv hf hname hfilled hw, hfinds⟩

/-- A group without a value applies if its trigger is there. A group with a value applies if that is found
in what was sent for the trigger or in what a field of the schema itself makes of it; for a value that is
no container and a trigger that no group declares, this is what is asked for. -/
theorem group_applies_iff (hs : s.Built) (hg : g ∈ s.outline.groups) (data : Table Value) :
    (∀ c, s.outline.firstPart (nestedFields s.nested) (Context.start data) = (c, none) →
      s.outline.activeGroups c = s.groupsFor data) ∧
    (g.value = none → (g ∈ s.groupsFor data ↔ g.trigger ∈ Table.names data)) ∧
    ∀ literal, g.value = some literal →
      (g ∈ s.groupsFor data ↔ ∃ v, s.Sees data g.trigger v ∧ Group.Finds literal v) ∧
      (literal.isContainer = false → s.outline.conversions.functions = [] →
        (∀ g' ∈ s.outline.groups, ¬g'.Declares g.trigger) →
        (g ∈ s.groupsFor data ↔ ∃ v, s.Shows data g.trigger v ∧ Group.Meets literal v)) := by
  have hsees (literal : Value) (hvalue : g.value = some literal) :
      g ∈ s.groupsFor data ↔ ∃ v, s.Sees data g.trigger v ∧ Group.Finds literal v := by
    rw [mem_groupsFor_iff hg, Group.isActive_iff_of_value hvalue]
    exact exists_sees_iff hs.wellNamed
  refine ⟨fun c hc => ?_, fun hvalue => ?_, fun literal hvalue => ⟨hsees literal hvalue, ?_⟩⟩
  · exact Outline.activeGroups_of_firstPart hs.wellNamed.outline hc
  · rw [mem_groupsFor_iff hg, Group.isActive_iff_of_present hvalue]
    rfl
  · intro hl hr hown
    rw [hsees literal hvalue, sees_iff_shows hr hown hl]

/-- Parcels have a number of pieces, and one of a single piece has a weight. -/
def deliveryBlueprint : Blueprint :=
  .mk (.plain "Delivery")
    [.field (.plain "kind" "str"),
      .group "kind" (some (.text "parcel")) [.plain "pieces" "int"],
      .group "pieces" (some (.int 1)) [{ FieldDecl.plain "weight" "str" with required := true }]]

def parcelGroup : Group := ⟨"kind", some (.text "parcel"), [.plain "pieces" "int"]⟩

def weightGroup : Group :=
  ⟨"pieces", some (.int 1), [{ Field.plain "weight" "str" with required := true }]⟩

def deliverySchema : Schema :=
  .mk { Outline.plain "Delivery" [.plain "kind" "str"] with groups := [parcelGroup, weightGroup] } []

theorem built_deliverySchema : deliverySchema.Built :=
  Blueprint.built_of_build (show deliveryBlueprint.build.1 = .ok deliverySchema by cbv)

def delivery : Table Value := [("kind", .text "parcel"), ("pieces", .text "1")]

/-- The number of pieces is one once it is brought to its type, but no weight is asked for. -/
theorem group_applies_iff_delivery :
    (deliverySchema.validate (.map delivery)).result =
      .ok (.success [("kind", .text "parcel"), ("pieces", .int 1)] []) ∧
    weightGroup ∈ deliverySchema.outline.groups ∧ weightGroup ∉ deliverySchema.groupsFor delivery := by
  have hrun : (deliverySchema.validate (.map delivery)).result =
      .ok (.success [("kind", .text "parcel"), ("pieces", .int 1)] []) := by cbv
  have hg : weightGroup ∈ deliverySchema.outline.groups := List.mem_cons_of_mem _ List.mem_cons_self
  obtain ⟨-, -, hvalue⟩ := group_applies_iff built_deliverySchema hg delivery
  obtain ⟨happlies, -⟩ := hvalue (.int 1) rfl
  refine ⟨hrun, hg, fun hmem => ?_⟩
  obtain ⟨v, hsees, hfinds⟩ := happlies.mp hmem
  cases hsees with
  | sent hv =>
    obtain rfl : Value.text "1" = v := Option.some.inj hv
    rw [← Group.isMatch_iff] at hfinds
    cases hfinds
  | typed hv hf hname =>
    obtain rfl := List.mem_singleton.mp hf
    exact absurd hname (by decide)

end Schema

end Intake
