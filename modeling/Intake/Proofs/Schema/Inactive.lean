import Intake.Proofs.Run.Remarks
import Intake.Proofs.Schema.KeyOrder

namespace Intake

theorem Outcome.value?_settle {α : Type} (is : List Issue) (value : α) (raw : Value)
    (ns : List Notice) : (settle is value raw ns).value? = if is = [] then some value else none := by
  unfold settle
  by_cases h : is = [] <;> simp [h, Outcome.value?]

namespace Outline

variable {o : Outline} {f : Field} {keys : List String} {sent sent' data data' : Table Value}
  {active : List Group} {nf : Table Bool} {nested : Step} {k : String}

/-- A name that stands only for fields of conditional groups, none of which has another name, and that
nothing else in the schema refers to. -/
structure Secluded (o : Outline) (k : String) : Prop where
  declared : ∃ g ∈ o.groups, ∃ f ∈ g.fields, f.name = k
  conditional : ∀ f ∈ o.fields, f.name ≠ k
  unaliased : ∀ f ∈ o.everyField, f.name = k → f.alias? = none
  noAlias : ∀ f ∈ o.everyField, f.alias? ≠ some k
  noTrigger : ∀ g ∈ o.groups, g.trigger ≠ k
  unreadByRules : k ∉ Validator.readsAll o.rules
  unreadByOthers : ∀ f ∈ o.everyField, f.name ≠ k → k ∉ Validator.readsAll f.validators

/-- The entries of all other names. -/
def apartFrom (keys : List String) (t : Table Value) : Table Value :=
  t.filter fun e => !keys.contains e.1

theorem get?_of_apartFrom (h : apartFrom keys data = apartFrom keys data') (hk : k ∉ keys) :
    Table.get? data' k = Table.get? data k := by
  have hget := congrArg (Table.get? · k) h
  dsimp only [apartFrom] at hget
  rw [Table.get?_filter_names (fun k => !keys.contains k),
    Table.get?_filter_names (fun k => !keys.contains k)] at hget
  simpa [hk] using hget.symm

theorem apartFrom_put (hk : k ∉ keys) (v : Value) :
    apartFrom keys (Table.put data k v) = Table.put (apartFrom keys data) k v :=
  Table.filter_put_of_kept (p := fun k => !keys.contains k) (by simpa using hk) data v

theorem apartFrom_remove (hk : k ∉ keys) :
    apartFrom keys (Table.remove data k) = Table.remove (apartFrom keys data) k :=
  Table.filter_remove_of_kept (p := fun k => !keys.contains k) (by simpa using hk) data

/-- Declared names and what stands under them do not count among undeclared keys. -/
theorem unknownKeys_of_declared (hkeys : ∀ k ∈ keys, k ∈ o.allNames)
    (h : apartFrom keys data = apartFrom keys data') :
    o.unknownKeys data' = o.unknownKeys data := by
  have hentries (t : Table Value) :
      o.unknownKeys t = (Table.names (apartFrom keys t)).filter fun k => !o.allNames.contains k := by
    unfold unknownKeys apartFrom Table.names
    rw [List.filter_map, List.filter_map, List.filter_filter]
    congr 1
    apply List.filter_congr
    intro e _
    by_cases hk : e.1 ∈ keys
    · simp [hkeys _ hk]
    · simp [hk]
  rw [hentries, hentries, h]

theorem Secluded.mem_allNames (h : o.Secluded k) : k ∈ o.allNames :=
  (Outline.mem_allNames o k).mpr (.inr h.declared)

theorem Secluded.not_mem_reads (h : o.Secluded k) (hf : f ∈ o.everyField) (hne : f.name ≠ k) :
    k ∉ f.reads := by
  intro hread
  rcases List.mem_cons.mp hread with heq | hread
  · exact hne heq.symm
  · exact h.unreadByOthers f hf hne hread

theorem Secluded.not_mem_ownReads (h : o.Secluded k) : k ∉ o.ownReads := by
  intro hmem
  rcases List.mem_append.mp hmem with hmem | hmem
  · obtain ⟨f, hf, hread⟩ := List.mem_flatMap.mp hmem
    exact h.not_mem_reads (List.mem_append_left _ hf) (h.conditional f hf) hread
  · exact h.unreadByRules hmem

theorem mem_groupsAfter {g : Group} (h : g ∈ o.groupsAfter nf data) :
    g ∈ o.groups := by
  unfold groupsAfter at h
  split at h
  · cases h
  · exact mem_activeGroups h

section

variable (hkeys : ∀ k ∈ keys, o.Secluded k)
include hkeys

theorem agreeOn_ownReads (h : apartFrom keys data = apartFrom keys data') :
    Table.AgreeOn o.ownReads data' data :=
  fun _ hn => get?_of_apartFrom h fun hk => (hkeys _ hk).not_mem_ownReads hn

theorem agreeOn_triggers (h : apartFrom keys data = apartFrom keys data') :
    Table.AgreeOn (o.groups.map (·.trigger)) data' data := by
  intro n hn
  obtain ⟨g, hg, rfl⟩ := List.mem_map.mp hn
  exact get?_of_apartFrom h fun hk => (hkeys _ hk).noTrigger g hg rfl

theorem name_not_mem_of_checked (hidle : ∀ g ∈ active, ∀ f ∈ g.fields, f.name ∉ keys)
    (hf : f ∈ o.fields ++ groupFields active) : f.name ∉ keys := by
  rcases List.mem_append.mp hf with hf | hf
  · exact fun hk => (hkeys _ hk).conditional f hf rfl
  · obtain ⟨g, hg, hfg⟩ := mem_of_mem_groupFields hf
    exact hidle g hg f hfg

/-- A run up to undeclared keys does not depend on what stands under secluded names, unless a group that
applies declares one of them. -/
theorem declaredPart_of_apartFrom (hn : Context.LooksUp [] nested)
    (hidle : ∀ g ∈ o.groupsAfter nf data, ∀ f ∈ g.fields, f.name ∉ keys)
    (h : apartFrom keys data = apartFrom keys data') :
    o.declaredPart nf nested data' =
      (o.declaredPart nf nested data).map fun (active, c) => (active, c.given data') := by
  apply declaredPart_given hn (agreeOn_ownReads hkeys h) (agreeOn_triggers hkeys h)
  intro n hn
  obtain ⟨f, hf, hread⟩ := List.mem_flatMap.mp hn
  obtain ⟨g, hg, hfg⟩ := mem_of_mem_groupFields hf
  have hdeclared : f ∈ o.everyField :=
    List.mem_append_right _ (List.mem_flatMap_of_mem (mem_groupsAfter hg) hfg)
  exact get?_of_apartFrom h fun hk =>
    (hkeys n hk).not_mem_reads hdeclared (fun heq => hidle g hg f hfg (heq ▸ hk)) hread

theorem declaredEntries_of_apartFrom {c : Context}
    (hidle : ∀ g ∈ active, ∀ f ∈ g.fields, f.name ∉ keys)
    (h : apartFrom keys c.data = apartFrom keys data') :
    o.declaredEntries active (c.given data') = o.declaredEntries active c := by
  apply declaredEntries_of_agree
  intro n hn
  obtain ⟨f, hf, rfl⟩ := List.mem_map.mp hn
  exact get?_of_apartFrom h (name_not_mem_of_checked hkeys hidle hf)

/-- Aliases are resolved alike whatever stands under secluded names, and leave it where it is. -/
theorem resolveAliases_of_apartFrom (h : apartFrom keys sent = apartFrom keys sent') :
    (∃ f, o.resolveAliases sent = .error f ∧ o.resolveAliases sent' = .error f) ∨
      ∃ data data', o.resolveAliases sent = .ok data ∧ o.resolveAliases sent' = .ok data' ∧
        apartFrom keys data = apartFrom keys data' := by
  have hmoves : o.moves sent' = o.moves sent := by
    apply moves_of_sentAs?
    intro f hf
    have hdeclared : f ∈ o.everyField := mem_append_of_mem_foldl hf
    unfold sentAs?
    cases ha : f.alias? with
    | none => rfl
    | some a =>
      have hname : f.name ∉ keys := fun hk => by
        simpa [ha] using (hkeys _ hk).unaliased f hdeclared rfl
      have halias : a ∉ keys := fun hk => (hkeys _ hk).noAlias f hdeclared ha
      have hsent : Table.has sent' a = Table.has sent a := by
        rw [Table.has, get?_of_apartFrom h halias, Table.has]
      have hown : Table.has sent' f.name = Table.has sent f.name := by
        rw [Table.has, get?_of_apartFrom h hname, Table.has]
      simp only [Option.filter_some, hsent, hown]
  -- Neither end of a move is a secluded name.
  have hends : ∀ m ∈ o.moves sent, m.1 ∉ keys ∧ m.2 ∉ keys := by
    intro m hm
    obtain ⟨f, hf, hsent, hname⟩ := mem_moves.mp hm
    have hdeclared : f ∈ o.everyField := mem_append_of_mem_foldl hf
    have ha := (sentAs?_iff.mp hsent).aliased
    refine ⟨fun hk => ?_, fun hk => (hkeys _ hk).noAlias f hdeclared ha⟩
    simpa [ha] using (hkeys _ hk).unaliased f hdeclared hname
  rw [resolveAliases_eq, resolveAliases_eq, hmoves]
  apply foldlM_move_related (R := fun d d' => apartFrom keys d = apartFrom keys d') _ _ h
  · exact fun m hm d d' h => get?_of_apartFrom h (hends m hm).2
  · intro m hm d d' v h
    obtain ⟨hname, halias⟩ := hends m hm
    rw [apartFrom_put hname, apartFrom_put hname, apartFrom_remove halias, apartFrom_remove halias, h]

theorem unknownKeys_of_apartFrom (h : apartFrom keys data = apartFrom keys data') :
    o.unknownKeys data' = o.unknownKeys data :=
  unknownKeys_of_declared (fun k hk => (hkeys k hk).mem_allNames) h

end

end Outline

namespace Schema

open Outline

variable {s : Schema} {keys : List String} {sent sent' data data' : Table Value}

/-- The groups whose fields are checked in a run over what was sent; none if a fault stops the run before
it comes to them. -/
def appliedGroups (s : Schema) (sent : Table Value) : List Group :=
  match s.outline.resolveAliases sent with
  | .error _ => []
  | .ok data => s.outline.groupsAfter (nestedFields s.nested) data

theorem passedOn_of_declared (hkeys : ∀ k ∈ keys, k ∈ s.outline.allNames)
    (h : apartFrom keys data = apartFrom keys data') : s.passedOn data' = s.passedOn data := by
  unfold passedOn
  rw [unknownKeys_of_declared hkeys h]
  split_ifs
  · apply List.map_congr_left
    intro k hk
    rw [get?_of_apartFrom h fun hmem => not_mem_allNames k hk (hkeys k hmem)]
  · rfl

theorem passedOn_of_apartFrom (hkeys : ∀ k ∈ keys, s.outline.Secluded k)
    (h : apartFrom keys data = apartFrom keys data') : s.passedOn data' = s.passedOn data :=
  passedOn_of_declared (fun k hk => (hkeys k hk).mem_allNames) h

/-- No entry of a payload has the name of a field that was not checked, if the name is declared. -/
theorem not_mem_names_payload {active : List Group} {c : Context} {k : String}
    (h : ∀ f ∈ s.outline.fields ++ groupFields active, f.name ≠ k) (hk : k ∈ s.outline.allNames) :
    k ∉ Table.names (s.payload (s.outline.declaredEntries active c) data) := by
  intro hmem
  obtain ⟨e, he, rfl⟩ := List.mem_map.mp hmem
  rcases List.mem_append.mp he with he | he
  · obtain ⟨f, hf, hname⟩ := field_of_mem_declaredEntries (List.mem_of_mem_filter he)
    exact h f hf hname
  · exact (mem_passedOn (List.mem_of_mem_filter he)).1 hk

/-- What was sent for fields of groups that do not apply makes no difference to a run, if nothing else in
the schema refers to their names: it is stopped by the same fault, or finds the same and comes to the
same payload, in which those names do not occur. -/
theorem inactive_fields_inert (s : Schema) (hkeys : ∀ k ∈ keys, s.outline.Secluded k)
    (hidle : ∀ g ∈ s.appliedGroups sent, ∀ f ∈ g.fields, f.name ∉ keys)
    (hsame : apartFrom keys sent = apartFrom keys sent') :
    s.appliedGroups sent' = s.appliedGroups sent ∧
      ((∃ f, (s.validate (.map sent)).result = .error f ∧
          (s.validate (.map sent')).result = .error f) ∨
        ∃ o o', (s.validate (.map sent)).result = .ok o ∧
          (s.validate (.map sent')).result = .ok o' ∧ o'.remarks = o.remarks ∧
          o'.value? = o.value? ∧ ∀ out ∈ o.value?, ∀ k ∈ keys, k ∉ Table.names out) := by
  rw [result_validate, result_validate]
  unfold appliedGroups at hidle ⊢
  rcases resolveAliases_of_apartFrom hkeys hsame with
    ⟨f, hdata, hdata'⟩ | ⟨data, data', hdata, hdata', h⟩
  · rw [hdata, hdata']
    exact ⟨rfl, .inl ⟨f, rfl, rfl⟩⟩
  rw [hdata] at hidle
  rw [hdata, hdata']
  dsimp only [Except.bind] at hidle ⊢
  refine ⟨groupsAfter_congr (agreeOn_ownReads hkeys h) (agreeOn_triggers hkeys h), ?_⟩
  rw [declaredPart_of_apartFrom hkeys (Binding.looksUp_checkBindings s.nested) hidle h]
  cases hpart : s.outline.declaredPart (nestedFields s.nested) (checkBindings s.nested) data with
  | error f => exact .inl ⟨f, rfl, rfl⟩
  | ok part =>
    obtain ⟨active, c⟩ := part
    obtain ⟨rfl, -⟩ := Outline.of_declaredPart (Binding.growing_checkBindings _) hpart
    rw [groupsAfter_of_declaredPart hpart] at hidle
    have hunknown : s.outline.unknownKeys (c.given data').data = s.outline.unknownKeys c.data :=
      unknownKeys_of_apartFrom hkeys h
    have hpayload : s.payload (s.outline.declaredEntries active (c.given data'))
        (c.given data').data = s.payload (s.outline.declaredEntries active c) c.data := by
      rw [payload, payload, declaredEntries_of_apartFrom hkeys hidle h]
      exact congrArg _ (congrArg _ (passedOn_of_apartFrom hkeys h))
    refine .inr ⟨_, _, rfl, rfl, ?_⟩
    dsimp only
    rw [hunknown, hpayload]
    simp only [Outcome.remarks_settle, Outcome.value?_settle]
    refine ⟨rfl, rfl, ?_⟩
    intro out hout k hk
    split_ifs at hout
    · obtain rfl := Option.some.inj hout
      exact not_mem_names_payload
        (fun f hf hname => name_not_mem_of_checked hkeys hidle hf (hname ▸ hk))
        (hkeys k hk).mem_allNames
    · cases hout

def bookGroup : Group :=
  ⟨"kind", some (.text "book"), [{ Field.plain "pages" "int" with required := true }]⟩

def filmGroup : Group :=
  ⟨"kind", some (.text "film"),
    [{ Field.plain "note" "str" with required := true }, .plain "region" "str"]⟩

def discGroup : Group :=
  ⟨"kind", some (.text "disc"),
    [{ Field.plain "note" "int" with validators := [.constraint "note" (.range (some (.int 1)) none)] }]⟩

/-- What is lent out, of three kinds; two of them have a note, each in its own type. -/
def loan : Schema :=
  .mk { Outline.plain "Loan" [{ Field.plain "kind" "str" with required := true }] with
    groups := [bookGroup, filmGroup, discGroup]
    unknown := .forbid } []

def plainLoan : Table Value := [("kind", .text "book"), ("pages", .text "12")]

def notedLoan : Table Value :=
  [("note", .int 0), ("kind", .text "book"), ("region", .list [.null]), ("pages", .text "12")]

theorem secluded_loan : ∀ k ∈ ["note", "region"], loan.outline.Secluded k := by
  simp only [List.forall_mem_cons]
  refine ⟨?_, ?_, nofun⟩ <;> constructor <;> decide

/-- A book is lent out alike whatever is sent as its note or region, though undeclared keys are
forbidden. -/
theorem inactive_fields_inert_loan :
    (loan.validate (.map plainLoan)).result =
        .ok (.success [("kind", .text "book"), ("pages", .int 12)] []) ∧
      ∃ o', (loan.validate (.map notedLoan)).result = .ok o' ∧
        o'.value? = some [("kind", .text "book"), ("pages", .int 12)] := by
  have hrun : (loan.validate (.map plainLoan)).result =
      .ok (.success [("kind", .text "book"), ("pages", .int 12)] []) := by cbv
  have happly : loan.appliedGroups plainLoan = [bookGroup] := by cbv
  refine ⟨hrun, ?_⟩
  have hidle : ∀ g ∈ loan.appliedGroups plainLoan, ∀ f ∈ g.fields, f.name ∉ ["note", "region"] := by
    simp [happly, bookGroup, Field.plain]
  have hsame : apartFrom ["note", "region"] plainLoan = apartFrom ["note", "region"] notedLoan := by
    cbv
  obtain ⟨-, ⟨f, hf, -⟩ | ⟨o, o', ho, ho', -, hvalue, -⟩⟩ :=
    inactive_fields_inert loan secluded_loan hidle hsame
  · rw [hrun] at hf
    cases hf
  · rw [hrun] at ho
    obtain rfl := Except.ok.inj ho
    exact ⟨o', ho', hvalue⟩

end Schema

end Intake
