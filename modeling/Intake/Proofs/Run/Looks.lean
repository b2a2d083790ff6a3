import Intake.Proofs.Run.Lookups

namespace Intake

open Context

/-- A look at a field: as it was sent, or in its type where it has been brought to it. Whether it is
there, or is blank, is not counted. -/
inductive Look where
  | sent (field : String)
  | value (field : String)
  deriving DecidableEq

def Predicate.looks : Predicate → List Look
  | .exists _ => []
  | .value field _ => [.value field]
  | .raw field _ => [.sent field]
  | .hasIssues => []
  | .hasIssueFor _ => []
  | .not p => p.looks
  | .less first second => [.value first, .value second]
  | .raises _ => []

namespace Action

mutual

def looks : Action → List Look
  | .report _ => []
  | .notify _ => []
  | .raises _ => []
  | .cond test yes no => test.looks ++ (looksAll yes ++ looksAll no)

def looksAll : List Action → List Look
  | [] => []
  | a :: rest => looks a ++ looksAll rest

end

end Action

def Rule.looks : Rule → List Look
  | .script actions => Action.looksAll actions
  | .together _ => []
  | .oneOf _ => []

namespace Validator

mutual

/-- The looks of a validator at the fields of a payload. -/
def looks : Validator → List Look
  | .required _ => []
  | .constraint field _ => [.value field]
  | .custom rule _ _ => rule.looks
  | .composite members => looksAll members
  | .conditional test member => test.looks ++ looks member

def looksAll : List Validator → List Look
  | [] => []
  | v :: rest => looks v ++ looksAll rest

end

end Validator

/-- The same entries but for one name, under which there is one value in the place of another. Neither of
them is blank. -/
structure Table.Swaps (k : String) (v w : Value) (t u : Table Value) : Prop where
  others : ∀ n, n ≠ k → Table.get? u n = Table.get? t n
  before : Table.get? t k = some v
  after : Table.get? u k = some w
  filled : v.isBlank = false
  filled' : w.isBlank = false

/-- A field has been brought to its type. -/
def Context.IsTyped (c : Context) (k : String) : Prop := Table.get? c.coerced k ≠ none

/-- These are looks that make no difference where one value stands in the place of another under a
name. -/
structure Context.Blind (c : Context) (k : String) (looks : List Look) : Prop where
  sent : .sent k ∉ looks
  value : .value k ∈ looks → c.IsTyped k

namespace Context

variable {c d : Context} {k : String} {v w : Value} {data : Table Value} {looks others : List Look}

theorem Blind.mono (h : c.Blind k others) (hsub : looks ⊆ others) : c.Blind k looks :=
  ⟨fun hs => h.sent (hsub hs), fun hv => h.value (hsub hv)⟩

theorem Blind.left (h : c.Blind k (looks ++ others)) : c.Blind k looks :=
  h.mono (List.subset_append_left _ _)

theorem Blind.right (h : c.Blind k (looks ++ others)) : c.Blind k others :=
  h.mono (List.subset_append_right _ _)

theorem IsTyped.of_reports (h : c.IsTyped k) (hd : c.Reports d) : d.IsTyped k := by
  rwa [IsTyped, hd.coerced]

theorem Blind.after (h : c.Blind k looks) (hd : d.coerced = c.coerced) : d.Blind k looks :=
  ⟨h.sent, fun hv => by rw [IsTyped, hd]; exact h.value hv⟩

section

variable (h : Table.Swaps k v w c.data data)
include h

theorem hasField_swapped (n : String) : (c.given data).hasField n = c.hasField n := by
  by_cases hn : n = k
  · subst hn
    rw [hasField, hasField, Table.has, Table.has, h.before, given, h.after]
    rfl
  · exact hasField_given (h.others n hn)

theorem isBlank_rawValue_swapped (n : String) :
    ((c.given data).rawValue n .null).isBlank = (c.rawValue n .null).isBlank := by
  by_cases hn : n = k
  · subst hn
    have hafter : (c.given data).rawValue n .null = w := by
      rw [rawValue, given, h.after, Option.getD_some]
    rw [hafter, rawValue, h.before, Option.getD_some, h.filled, h.filled']
  · rw [rawValue_given (h.others n hn)]

theorem rawValue_swapped {n : String} (hn : .sent k ∉ [Look.sent n]) (u : Value) :
    (c.given data).rawValue n u = c.rawValue n u :=
  rawValue_given (h.others n fun heq => hn (heq ▸ List.mem_singleton_self _)) u

theorem fieldValue_swapped {n : String} (hn : c.Blind k [.value n]) (u : Value) :
    (c.given data).fieldValue n u = c.fieldValue n u := by
  by_cases heq : n = k
  · subst heq
    obtain ⟨x, hx⟩ := Option.ne_none_iff_exists'.mp (hn.value (List.mem_singleton_self _))
    rw [fieldValue, fieldValue, given, hx]
  · exact fieldValue_given (h.others n heq) u

end

end Context

theorem Predicate.eval_swapped {c : Context} {data : Table Value} {k : String} {v w : Value}
    (p : Predicate) (h : Table.Swaps k v w c.data data) (hb : c.Blind k p.looks) :
    p.eval (c.given data) = p.eval c := by
  induction p with
  | «exists» field => rw [eval, eval, hasField_swapped h]
  | value field expected => rw [eval, eval, fieldValue_swapped h hb]
  | raw field expected => rw [eval, eval, rawValue_swapped h hb.sent]
  | hasIssues => rfl
  | hasIssueFor path => rfl
  | not p ih => rw [eval, eval, ih hb]
  | less first second =>
    have hfirst : c.Blind k [.value first] := hb.mono (by simp [looks])
    have hsecond : c.Blind k [.value second] := hb.mono (by simp [looks])
    rw [eval, eval, fieldValue_swapped h hfirst, fieldValue_swapped h hsecond]
  | raises message => rfl

section

variable {k : String} {v w : Value}

namespace Action

mutual

theorem run_swapped (a : Action) {c : Context} {data : Table Value}
    (h : Table.Swaps k v w c.data data) (hb : c.Blind k a.looks) :
    a.run (c.given data) = ((a.run c).1.given data, (a.run c).2) := by
  cases a with
  | report i => rfl
  | notify n => rfl
  | raises message => rfl
  | cond test yes no =>
    rw [looks] at hb
    rw [run, run, test.eval_swapped h hb.left]
    rcases test.eval c with message | b
    · rfl
    · cases b with
      | true => exact runAll_swapped yes h hb.right.left
      | false => exact runAll_swapped no h hb.right.right

theorem runAll_swapped (as : List Action) {c : Context} {data : Table Value}
    (h : Table.Swaps k v w c.data data) (hb : c.Blind k (looksAll as)) :
    runAll as (c.given data) = ((runAll as c).1.given data, (runAll as c).2) := by
  cases as with
  | nil => rfl
  | cons a rest =>
    rw [looksAll] at hb
    have hreports := run_reports a c
    rw [runAll, runAll, run_swapped a h hb.left]
    rcases ha : a.run c with ⟨d, _ | message⟩
    · rw [ha] at hreports
      exact runAll_swapped rest (hreports.data ▸ h) (hb.right.after hreports.coerced)
    · rfl

end

end Action

namespace Rule

variable {fields : List String} {c : Context} {data : Table Value}

theorem checkTogether_swapped (h : Table.Swaps k v w c.data data) :
    checkTogether fields (c.given data) = (checkTogether fields c).given data := by
  unfold checkTogether
  simp only [isBlank_rawValue_swapped h]
  split_ifs <;> rfl

theorem checkOneOf_swapped (h : Table.Swaps k v w c.data data) :
    checkOneOf fields (c.given data) = (checkOneOf fields c).given data := by
  unfold checkOneOf
  simp only [isBlank_rawValue_swapped h]
  split_ifs <;> rfl

theorem run_swapped (r : Rule) (h : Table.Swaps k v w c.data data) (hb : c.Blind k r.looks) :
    r.run (c.given data) = ((r.run c).1.given data, (r.run c).2) := by
  cases r with
  | script actions => exact Action.runAll_swapped actions h hb
  | together fields => exact Prod.ext (checkTogether_swapped h) rfl
  | oneOf fields => exact Prod.ext (checkOneOf_swapped h) rfl

end Rule

namespace Validator

theorem runRule_swapped {rule : Rule} {c : Context} {data : Table Value}
    (h : Table.Swaps k v w c.data data) (hb : c.Blind k rule.looks) (name field : String) :
    runRule rule name field (c.given data) = (runRule rule name field c).given data := by
  have hrun : rule.run (c.given data) = ((rule.run c).1.given data, (rule.run c).2) :=
    rule.run_swapped h hb
  unfold runRule
  rw [hrun]
  rcases rule.run c with ⟨d, _ | message⟩ <;> rfl

mutual

theorem run_swapped (r : Validator) {c : Context} {data : Table Value}
    (h : Table.Swaps k v w c.data data) (hb : c.Blind k r.looks) :
    r.run (c.given data) = ((r.run c).1.given data, (r.run c).2) := by
  cases r with
  | required field =>
    rw [run, run, isBlank_rawValue_swapped h]
    split_ifs <;> rfl
  | constraint field asked =>
    rw [run, run, fieldValue_swapped h hb]
    rfl
  | custom rule name field => rw [run, run, runRule_swapped h hb]
  | composite members => exact runAll_swapped members h hb
  | conditional test member =>
    rw [looks] at hb
    rw [run, run, test.eval_swapped h hb.left]
    rcases test.eval c with message | b
    · rfl
    · cases b with
      | true => exact run_swapped member h hb.right
      | false => rfl

/-- Validators come to the same where their looks make no difference. -/
theorem runAll_swapped (rs : List Validator) {c : Context} {data : Table Value}
    (h : Table.Swaps k v w c.data data) (hb : c.Blind k (looksAll rs)) :
    runAll rs (c.given data) = ((runAll rs c).1.given data, (runAll rs c).2) := by
  cases rs with
  | nil => rfl
  | cons r rest =>
    rw [looksAll] at hb
    have hreports := run_reports r c
    rw [runAll, runAll, run_swapped r h hb.left]
    rcases hr : r.run c with ⟨d, _ | f⟩
    · rw [hr] at hreports
      exact runAll_swapped rest (hreports.data ▸ h) (hb.right.after hreports.coerced)
    · rfl

end

end Validator

end

/-- A part of a run that comes to the same whichever of two values stands under a name, in states of
which something is known. -/
def Step.Ignores (k : String) (v w : Value) (known : Context → Prop) (s : Step) : Prop :=
  ∀ (c : Context) (data : Table Value), Table.Swaps k v w c.data data → known c →
    s (c.given data) = ((s c).1.given data, (s c).2)

namespace Step

variable {k : String} {v w : Value} {known known' : Context → Prop} {a b : Step}

theorem Ignores.andThen (ha : a.Ignores k v w known) (hgrow : a.Growing)
    (hleft : ∀ c d data, Table.Swaps k v w c.data data → known c → a c = (d, none) → known' d)
    (hb : b.Ignores k v w known') : (Step.andThen a b).Ignores k v w known := by
  intro c data h hc
  have hrun := ha c data h hc
  have hkept := (hgrow c).data
  rcases hac : a c with ⟨d, _ | f⟩
  · rw [hac] at hrun hkept
    rw [andThen_of_none hac, andThen_of_none hrun]
    exact hb d data (hkept ▸ h) (hleft c d data h hc hac)
  · rw [hac] at hrun
    rw [andThen_of_some hac, andThen_of_some hrun]

/-- Parts in turn, one for each item. What is known may depend on the items that are left. -/
theorem ignores_all_map {α : Type} {step : α → Step} (known : List α → Context → Prop)
    (hgrow : ∀ x, (step x).Growing) (h : ∀ x xs, (step x).Ignores k v w (known (x :: xs)))
    (hleft : ∀ x xs c d data, Table.Swaps k v w c.data data → known (x :: xs) c →
      step x c = (d, none) → known xs d) (xs : List α) :
    (all (xs.map step)).Ignores k v w (known xs) := by
  induction xs with
  | nil => exact fun _ _ _ _ => rfl
  | cons x xs ih => exact (h x xs).andThen (hgrow x) (hleft x xs) ih

/-- What is known once parts in turn have come to an end. -/
theorem known_all_map {α : Type} {step : α → Step} {known : List α → Context → Prop}
    (hgrow : ∀ x, (step x).Growing)
    (hleft : ∀ x xs c d data, Table.Swaps k v w c.data data → known (x :: xs) c →
      step x c = (d, none) → known xs d) {xs : List α} {c d : Context} {data : Table Value}
    (hs : Table.Swaps k v w c.data data) (hc : known xs c) (h : all (xs.map step) c = (d, none)) :
    known [] d := by
  induction xs generalizing c with
  | nil => exact (Prod.mk.inj h).1 ▸ hc
  | cons x xs ih =>
    obtain ⟨e, hx, hrest⟩ := andThen_eq_none_iff.mp h
    have hdata : e.data = c.data := (grows_of_eq (hgrow x) hx).data
    exact ih (hdata ▸ hs) (hleft x xs c e data hs hc hx) hrest

end Step

namespace Outline

variable {o : Outline} {many : Option Bool} {f : Field} {c d : Context} {data : Table Value}
  {k : String} {v w : Value} {fs : List Field}

theorem ignores_checkPresence (f : Field) (known : Context → Prop) :
    (checkPresence f : Step).Ignores k v w known := by
  intro c data h _
  have hmissing : isMissing data f.name = isMissing c.data f.name := isBlank_rawValue_swapped h f.name
  unfold checkPresence given
  simp only [hmissing]
  split_ifs <;> rfl

/-- Two values that a field brings to its type alike, one way or the other. -/
structure TypesAlike (o : Outline) (many : Option Bool) (f : Field) (v w : Value) : Prop where
  typed : o.typed many f w = o.typed many f v
  events : o.typingEvents many f w = o.typingEvents many f v
  taken : o.typed many f v ≠ .refused

theorem isTyped_enter {u : Value} {ps : List Position} :
    (o.enter many f v u ps c).IsTyped k ↔ f.name = k ∨ c.IsTyped k := by
  have hcoerced : (o.enter many f v u ps c).coerced = Table.put c.coerced f.name u := rfl
  rw [IsTyped, hcoerced, Table.get?_put]
  by_cases hname : f.name = k
  · simp [hname]
  · simp [hname, IsTyped]

theorem not_isSkipped (h : v.isBlank = false) : ¬isSkipped f v = true := by
  simp [isSkipped, h]

theorem ne_null_of_filled (h : v.isBlank = false) : v ≠ .null := by
  rintro rfl
  cases h

/-- What is known before a field is checked: its validators do not look at the value of a field that has
not been brought to its type, except their own. -/
structure Ready (o : Outline) (many : Option Bool) (k : String) (v w : Value) (f : Field)
    (c : Context) : Prop where
  sent : .sent k ∉ Validator.looksAll f.validators
  alike : f.name = k → o.TypesAlike many f v w
  typed : f.name = k ∨ c.IsTyped k ∨ .value k ∉ Validator.looksAll f.validators

theorem ignores_checkField (o : Outline) (many : Option Bool) (f : Field) :
    (o.checkField many f).Ignores k v w (o.Ready many k v w f) := by
  intro c data h hc
  have hblind {u x : Value} {ps : List Position} :
      (o.enter many f u x ps c).Blind k (Validator.looksAll f.validators) := by
    refine ⟨hc.sent, fun hv => isTyped_enter.mpr ?_⟩
    exact hc.typed.imp_right fun ht => ht.resolve_right (not_not.mpr hv)
  by_cases hname : f.name = k
  · obtain ⟨htyped, hevents, -⟩ := hc.alike hname
    have hbefore : Table.get? c.data f.name = some v := hname ▸ h.before
    have hafter : Table.get? (c.given data).data f.name = some w := hname ▸ h.after
    rw [checkField_of_value hbefore (ne_null_of_filled h.filled) (not_isSkipped h.filled),
      checkField_of_value hafter (ne_null_of_filled h.filled') (not_isSkipped h.filled'), htyped,
      hevents]
    cases ht : o.typed many f v with
    | faulty fault => rfl
    | refused => exact absurd ht (hc.alike hname).taken
    | accepted x ps =>
      have henter : o.enter many f w x ps (c.given data) = (o.enter many f v x ps c).given data := by
        unfold enter
        rw [hevents]
        rfl
      dsimp only
      rw [henter]
      exact Validator.runAll_swapped f.validators h hblind
  · have hval : Table.get? (c.given data).data f.name = Table.get? c.data f.name := h.others _ hname
    cases hv : Table.get? c.data f.name with
    | none => rw [checkField_of_absent hv, checkField_of_absent (hval.trans hv)]
    | some u =>
      by_cases hn : u = .null
      · subst hn
        rw [checkField_of_null hv, checkField_of_null (hval.trans hv)]
        rfl
      by_cases hs : isSkipped f u = true
      · rw [checkField_of_skipped hv hn hs, checkField_of_skipped (hval.trans hv) hn hs]
      rw [checkField_of_value hv hn hs, checkField_of_value (hval.trans hv) hn hs]
      cases o.typed many f u with
      | faulty fault => rfl
      | refused => rfl
      | accepted x ps =>
        exact Validator.runAll_swapped (c := o.enter many f u x ps c) f.validators h hblind

/-- A field that has been brought to its type stays so. -/
theorem isTyped_of_checkField (h : o.checkField many f c = (d, none)) (hc : c.IsTyped k) :
    d.IsTyped k := by
  rw [IsTyped, coerced_of_checkField h]
  cases o.typedValue? many c.data f with
  | none => exact hc
  | some u =>
    rw [Option.elim_some, Table.get?_put]
    split_ifs
    · exact Option.some_ne_none u
    · exact hc

/-- A field that takes its value is brought to its type by its check. -/
theorem isTyped_of_checkField_self (h : o.checkField many f c = (d, none))
    (hv : Table.get? c.data f.name = some v) (hfilled : v.isBlank = false)
    (htaken : o.typed many f v ≠ .refused) : d.IsTyped f.name := by
  have hrun := checkField_of_value hv (ne_null_of_filled hfilled) (not_isSkipped hfilled) ▸ h
  have hvalue : o.typedValue? many c.data f = (o.typed many f v).value? := by
    rw [typedValue?_of_value hv (ne_null_of_filled hfilled), if_neg (not_isSkipped hfilled)]
  rw [IsTyped, coerced_of_checkField h, hvalue]
  cases ht : o.typed many f v with
  | faulty fault =>
    rw [ht] at hrun
    cases (Prod.mk.inj hrun).2
  | refused => exact absurd ht htaken
  | accepted x ps =>
    rw [Coerced.value?, Option.elim_some, Table.get?_put_self]
    exact Option.some_ne_none x

/-- The fields before the one of a name. -/
def fieldsBefore (k : String) (fs : List Field) : List Field := fs.takeWhile (·.name ≠ k)

theorem fieldsBefore_cons (hname : ¬f.name = k) (fs : List Field) :
    fieldsBefore k (f :: fs) = f :: fieldsBefore k fs :=
  List.takeWhile_cons_of_pos (by simpa using hname)

/-- What is known before fields are checked one after the other. The field of the name is still among
them if it has not been brought to its type, and those before it do not look at its value. -/
structure AllReady (o : Outline) (many : Field → Option Bool) (k : String) (v w : Value)
    (fs : List Field) (c : Context) : Prop where
  sent : ∀ f ∈ fs, .sent k ∉ Validator.looksAll f.validators
  alike : ∀ f ∈ fs, f.name = k → o.TypesAlike (many f) f v w
  typed : c.IsTyped k ∨ ((∃ f ∈ fs, f.name = k) ∧
    ∀ f ∈ fieldsBefore k fs, .value k ∉ Validator.looksAll f.validators)

section

variable {many : Field → Option Bool}

theorem AllReady.head (h : o.AllReady many k v w (f :: fs) c) : o.Ready (many f) k v w f c := by
  refine ⟨h.sent f List.mem_cons_self, h.alike f List.mem_cons_self, ?_⟩
  by_cases hname : f.name = k
  · exact .inl hname
  · refine .inr (h.typed.imp_right fun hearly => hearly.2 f ?_)
    rw [fieldsBefore_cons hname]
    exact List.mem_cons_self

theorem AllReady.tail (h : o.AllReady many k v w (f :: fs) c) (hs : Table.Swaps k v w c.data data)
    (hrun : o.checkField (many f) f c = (d, none)) : o.AllReady many k v w fs d := by
  refine ⟨fun g hg => h.sent g (List.mem_cons_of_mem _ hg),
    fun g hg => h.alike g (List.mem_cons_of_mem _ hg), ?_⟩
  by_cases hname : f.name = k
  · left
    have hself := isTyped_of_checkField_self hrun (hname ▸ hs.before) hs.filled
      (h.alike f List.mem_cons_self hname).taken
    rwa [hname] at hself
  · refine h.typed.imp (isTyped_of_checkField hrun) fun ⟨⟨g, hg, hgk⟩, hearly⟩ => ⟨⟨g, ?_, hgk⟩, ?_⟩
    · exact (List.mem_cons.mp hg).resolve_left fun heq => hname (heq ▸ hgk)
    · intro g hg
      apply hearly
      rw [fieldsBefore_cons hname]
      exact List.mem_cons_of_mem _ hg

theorem ignores_checkFields (o : Outline) (many : Field → Option Bool) (fs : List Field) :
    (Step.all (fs.map fun f => o.checkField (many f) f)).Ignores k v w (o.AllReady many k v w fs) :=
  Step.ignores_all_map (o.AllReady many k v w) (fun f => growing_checkField o (many f) f)
    (fun f _ c data hs h => ignores_checkField o (many f) f c data hs h.head)
    (fun _ _ _ _ _ hs h => h.tail hs) fs

theorem isTyped_of_checkFields (hs : Table.Swaps k v w c.data data)
    (hc : o.AllReady many k v w fs c)
    (h : Step.all (fs.map fun f => o.checkField (many f) f) c = (d, none)) : d.IsTyped k := by
  have hend : o.AllReady many k v w [] d :=
    Step.known_all_map (fun f => growing_checkField o (many f) f) (fun _ _ _ _ _ hs h => h.tail hs)
      hs hc h
  exact hend.typed.resolve_right fun ⟨⟨_, hf, _⟩, _⟩ => List.not_mem_nil hf

end

theorem isTyped_of_checkPresence (h : checkPresence f c = (d, none)) (hc : c.IsTyped k) :
    d.IsTyped k := by
  have hreports := checkPresence_reports f c
  rw [h] at hreports
  exact hc.of_reports hreports

theorem ignores_checkGroupField (o : Outline) (f : Field) (hname : ¬f.name = k)
    (hsent : .sent k ∉ Validator.looksAll f.validators) :
    (o.checkGroupField f).Ignores k v w (·.IsTyped k) := by
  apply (ignores_checkPresence f _).andThen (growing_checkPresence f) _ (ignores_checkField o none f)
  intro c d data _ hc hrun
  have hd : d.IsTyped k := isTyped_of_checkPresence hrun hc
  exact ⟨hsent, fun heq => absurd heq hname, .inr (.inl hd)⟩

theorem isTyped_of_checkGroupField (h : o.checkGroupField f c = (d, none)) (hc : c.IsTyped k) :
    d.IsTyped k := by
  obtain ⟨e, hpresence, hfield⟩ := Step.andThen_eq_none_iff.mp h
  exact isTyped_of_checkField hfield (isTyped_of_checkPresence hpresence hc)

/-- Fields of groups that have other names look at the field in its type. -/
theorem ignores_checkGroupFields (o : Outline) (hname : ∀ f ∈ fs, ¬f.name = k)
    (hsent : ∀ f ∈ fs, .sent k ∉ Validator.looksAll f.validators) :
    (Step.all (fs.map o.checkGroupField)).Ignores k v w (·.IsTyped k) := by
  induction fs with
  | nil => exact fun _ _ _ _ => rfl
  | cons f fs ih =>
    have hf := ignores_checkGroupField (v := v) (w := w) o f (hname f List.mem_cons_self)
      (hsent f List.mem_cons_self)
    exact hf.andThen (growing_checkGroupField o f)
      (fun _ _ _ _ hc hrun => isTyped_of_checkGroupField hrun hc)
      (ih (List.forall_mem_of_forall_mem_cons hname) (List.forall_mem_of_forall_mem_cons hsent))

end Outline

end Intake
