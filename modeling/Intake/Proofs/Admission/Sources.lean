import Intake.Admission
import Intake.Proofs.Schema.Payload

namespace Intake

namespace Schema

/-- Two values found for a field, or none, come out alike in payloads. -/
def Alike (s : Schema) (f : Field) (v? v?' : Option Value) : Prop :=
  ∃ w? w?', s.Gives f v? w? ∧ s.Gives f v?' w?' ∧ w?.filter s.keepsValue = w?'.filter s.keepsValue

end Schema

namespace Admission

open Outline

variable {a : Admission} {parts : RequestParts} {f g : Field} {name : String}
  {b₁ b₂ body : Table Value}

/-- What a request sends for a field in the part that the field is read from, the body aside. -/
def sentIn? (parts : RequestParts) (f : Field) : Option Value :=
  sent? parts (lowerNames parts.headers) f

def elsewhere (a : Admission) : List Field :=
  a.schema.outline.allFields.filter fun f => !f.source.isBody

/-- A name that a field which is not read from the body has. -/
def IsClaimed (a : Admission) (name : String) : Prop := name ∈ a.elsewhere.map (·.name)

theorem assemble_eq (a : Admission) (parts : RequestParts) :
    a.assemble parts =
      a.elsewhere.foldl (fun t f => (sentIn? parts f).elim t (Table.put t f.name))
        (parts.body.filter fun e => !a.elsewhere.any (·.name = e.1)) := by
  change List.foldl _ (parts.body.filter _) a.elsewhere = _
  congr 1
  funext t f
  rw [sentIn?]
  cases sent? parts (lowerNames parts.headers) f <;> rfl

theorem nodup_elsewhere (ha : a.schema.WellNamed) : (a.elsewhere.map (·.name)).Nodup :=
  (Outline.allNames_eq _ ▸ ha.outline.nodup_allNames).sublist (List.filter_sublist.map _)

theorem get?_own (a : Admission) (body : Table Value) (name : String) :
    Table.get? (body.filter fun e => !a.elsewhere.any (·.name = e.1)) name =
      if !a.elsewhere.any (·.name = name) then Table.get? body name else none :=
  Table.get?_filter_names (fun k => !a.elsewhere.any (·.name = k)) body name

theorem get?_assemble_of_elsewhere (ha : a.schema.WellNamed) (hf : f ∈ a.elsewhere) :
    Table.get? (a.assemble parts) f.name = sentIn? parts f := by
  have hclaimed : a.elsewhere.any (·.name = f.name) = true :=
    List.any_eq_true.mpr ⟨f, hf, decide_eq_true rfl⟩
  rw [assemble_eq, (Table.get?_foldl_put Field.name (sentIn? parts) (nodup_elsewhere ha) _).1 f hf,
    get?_own, hclaimed]
  exact Option.or_none

theorem get?_assemble_of_not_claimed (ha : a.schema.WellNamed) (h : ¬a.IsClaimed name) :
    Table.get? (a.assemble parts) name = Table.get? parts.body name := by
  have hfree : a.elsewhere.any (·.name = name) = false := by
    simpa [IsClaimed] using h
  rw [assemble_eq, (Table.get?_foldl_put Field.name (sentIn? parts) (nodup_elsewhere ha) _).2 name h,
    get?_own, hfree]
  rfl

theorem nodup_names_assemble (hb : (Table.names parts.body).Nodup) :
    (Table.names (a.assemble parts)).Nodup := by
  rw [assemble_eq]
  exact Table.nodup_names_foldl_put Field.name (sentIn? parts)
    (hb.sublist (List.filter_sublist.map _))

/-- What a request sends for a field under the field's own name. -/
def sentFor? (parts : RequestParts) (f : Field) : Option Value :=
  if f.source.isBody then Table.get? parts.body f.name else sentIn? parts f

theorem mem_elsewhere :
    f ∈ a.elsewhere ↔ f ∈ a.schema.outline.allFields ∧ f.source.isBody = false := by
  rw [elsewhere, List.mem_filter, Bool.not_eq_true']

theorem get?_assemble_of_field (ha : a.schema.WellNamed) (hf : f ∈ a.schema.outline.allFields) :
    Table.get? (a.assemble parts) f.name = sentFor? parts f := by
  cases hbody : f.source.isBody with
  | false =>
    rw [sentFor?, hbody]
    exact get?_assemble_of_elsewhere ha (mem_elsewhere.mpr ⟨hf, hbody⟩)
  | true =>
    rw [sentFor?, hbody]
    apply get?_assemble_of_not_claimed ha
    intro hclaimed
    obtain ⟨g, hg, hname⟩ := List.mem_map.mp hclaimed
    obtain ⟨hg, hgbody⟩ := mem_elsewhere.mp hg
    -- A field read from the body and one read from elsewhere never share a name.
    have hnames := ha.outline.nodup_allNames
    rw [Outline.allNames_eq] at hnames
    have hgf : g = f := List.inj_on_of_nodup_map hnames hg hf hname
    rw [hgf, hbody] at hgbody
    cases hgbody

/-- The name of a field is the alias of another one that was not sent under its own name. -/
def IsTaken (a : Admission) (parts : RequestParts) (f : Field) : Prop :=
  ∃ g ∈ a.schema.outline.allFields, g.alias? = some f.name ∧ sentFor? parts g = none

/-- The ways in which two bodies tell on a field that is read from elsewhere. If it was not sent, they
have different entries under its alias, which no field read from elsewhere has for a name; if it was
sent, only one of them leaves its name to another field, whose alias it is. -/
inductive Door (a : Admission) (parts : RequestParts) (f : Field) (b₁ b₂ : Table Value) : Prop where
  | supplied {x : String} (h : sentIn? parts f = none) (hx : f.alias? = some x)
      (hfree : ¬a.IsClaimed x) (hne : Table.get? b₁ x ≠ Table.get? b₂ x)
  | taken {v : Value} (h : sentIn? parts f = some v)
      (hne : ¬(a.IsTaken { parts with body := b₁ } f ↔ a.IsTaken { parts with body := b₂ } f))

section Found

variable {d : Table Value} {v : Value}

theorem mem_values_moves_iff_isTaken (ha : a.schema.WellNamed) (hf : f ∈ a.elsewhere)
    (hv : sentIn? parts f = some v) :
    f.name ∈ Table.values (a.schema.outline.moves (a.assemble parts)) ↔ a.IsTaken parts f := by
  have hsent : f.name ∈ Table.names (a.assemble parts) :=
    Table.mem_names_of_get? ((get?_assemble_of_elsewhere ha hf).trans hv)
  rw [mem_values_moves, IsTaken]
  apply exists_congr
  intro g
  apply and_congr_right
  intro hg
  rw [sentAs?_eq_some_iff, ← Table.get?_eq_none_iff, get?_assemble_of_field ha hg]
  exact and_congr_right fun _ => and_iff_right hsent

/-- A value that was sent for a field is found under its name unless the name is taken. -/
theorem get?_of_sentIn (ha : a.schema.WellNamed) (hb : (Table.names parts.body).Nodup)
    (hd : a.schema.outline.resolveAliases (a.assemble parts) = .ok d) (hf : f ∈ a.elsewhere)
    (hv : sentIn? parts f = some v) :
    (a.IsTaken parts f → Table.get? d f.name = none) ∧
      (¬a.IsTaken parts f → Table.get? d f.name = some v) := by
  have hget : Table.get? (a.assemble parts) f.name = sentIn? parts f :=
    get?_assemble_of_elsewhere ha hf
  rw [hv] at hget
  have hown : sentAs? f (a.assemble parts) = none := by
    rw [Option.eq_none_iff_forall_ne_some]
    intro x hx
    exact (sentAs?_eq_some_iff.mp hx).2.2 (Table.mem_names_of_get? hget)
  have hfound := get?_of_resolveAliases ha.outline (nodup_names_assemble hb) hd
    (mem_elsewhere.mp hf).1
  rw [hown] at hfound
  dsimp only at hfound
  rw [hget] at hfound
  rw [← mem_values_moves_iff_isTaken ha hf hv]
  constructor
  · intro h
    rw [hfound, if_pos h]
  · intro h
    rw [hfound, if_neg h]

/-- For a field that was not sent whatever stands under its alias is found. -/
theorem get?_of_not_sentIn (ha : a.schema.WellNamed) (hb : (Table.names parts.body).Nodup)
    (hd : a.schema.outline.resolveAliases (a.assemble parts) = .ok d) (hf : f ∈ a.elsewhere)
    (hv : sentIn? parts f = none) :
    Table.get? d f.name = f.alias?.bind fun x => Table.get? (a.assemble parts) x := by
  have hget : Table.get? (a.assemble parts) f.name = sentIn? parts f :=
    get?_assemble_of_elsewhere ha hf
  rw [hv] at hget
  have habsent := (Table.get?_eq_none_iff _ _).mp hget
  have hfound := get?_of_resolveAliases ha.outline (nodup_names_assemble hb) hd
    (mem_elsewhere.mp hf).1
  cases hx : sentAs? f (a.assemble parts) with
  | some x =>
    rw [hx] at hfound
    rw [(sentAs?_eq_some_iff.mp hx).1]
    exact hfound
  | none =>
    rw [hx] at hfound
    dsimp only at hfound
    rw [hfound, hget, ite_self]
    cases halias : f.alias? with
    | none => rfl
    | some x =>
      symm
      rw [Option.bind_some, Table.get?_eq_none_iff]
      intro hmem
      have hsome := sentAs?_eq_some_iff.mpr ⟨halias, hmem, habsent⟩
      rw [hx] at hsome
      cases hsome

end Found

theorem get?_assemble_bodies (ha : a.schema.WellNamed) (x : String) :
    Table.get? (a.assemble { parts with body := b₁ }) x =
        Table.get? (a.assemble { parts with body := b₂ }) x ↔
      (¬a.IsClaimed x → Table.get? b₁ x = Table.get? b₂ x) := by
  by_cases hx : a.IsClaimed x
  · obtain ⟨g, hg, rfl⟩ := List.mem_map.mp hx
    rw [get?_assemble_of_elsewhere ha hg, get?_assemble_of_elsewhere ha hg]
    exact iff_of_true rfl fun h => absurd hx h
  · rw [get?_assemble_of_not_claimed ha hx, get?_assemble_of_not_claimed ha hx]
    exact ⟨fun h _ => h, fun h => h hx⟩

/-- Two bodies lead to the same value for a field that is read from elsewhere when no door is open. -/
theorem found_eq_iff {d₁ d₂ : Table Value} (ha : a.schema.WellNamed)
    (hb₁ : (Table.names b₁).Nodup) (hb₂ : (Table.names b₂).Nodup)
    (h₁ : a.schema.outline.resolveAliases (a.assemble { parts with body := b₁ }) = .ok d₁)
    (h₂ : a.schema.outline.resolveAliases (a.assemble { parts with body := b₂ }) = .ok d₂)
    (hf : f ∈ a.elsewhere) :
    Table.get? d₁ f.name = Table.get? d₂ f.name ↔ ¬a.Door parts f b₁ b₂ := by
  cases hv : sentIn? parts f with
  | none =>
    -- What was not sent can only be found under the alias, where a body may have put something.
    rw [get?_of_not_sentIn ha hb₁ h₁ hf hv, get?_of_not_sentIn ha hb₂ h₂ hf hv]
    cases hx : f.alias? with
    | none =>
      refine iff_of_true rfl ?_
      rintro (⟨-, hx', -, -⟩ | ⟨hv', -⟩)
      · rw [hx] at hx'
        cases hx'
      · rw [hv] at hv'
        cases hv'
    | some x =>
      rw [Option.bind_some, Option.bind_some, get?_assemble_bodies ha x]
      constructor
      · rintro h (⟨-, hx', hfree, hne⟩ | ⟨hv', -⟩)
        · rw [hx] at hx'
          obtain rfl := Option.some.inj hx'
          exact hne (h hfree)
        · rw [hv] at hv'
          cases hv'
      · intro h hfree
        by_contra hne
        exact h (.supplied hv hx hfree hne)
  | some v =>
    -- What was sent is the same for both bodies, and is lost only where the name is taken.
    obtain ⟨htaken₁, hfree₁⟩ := get?_of_sentIn ha hb₁ h₁ hf hv
    obtain ⟨htaken₂, hfree₂⟩ := get?_of_sentIn ha hb₂ h₂ hf hv
    have hdoor : a.Door parts f b₁ b₂ ↔
        ¬(a.IsTaken { parts with body := b₁ } f ↔ a.IsTaken { parts with body := b₂ } f) := by
      constructor
      · rintro (⟨hv', -, -, -⟩ | ⟨-, hne⟩)
        · rw [hv] at hv'
          cases hv'
        · exact hne
      · exact fun hne => .taken hv hne
    rw [hdoor, not_not]
    by_cases ht₁ : a.IsTaken { parts with body := b₁ } f <;>
      by_cases ht₂ : a.IsTaken { parts with body := b₂ } f
    · simp [htaken₁ ht₁, htaken₂ ht₂, ht₁, ht₂]
    · simp [htaken₁ ht₁, hfree₂ ht₂, ht₁, ht₂]
    · simp [hfree₁ ht₁, htaken₂ ht₂, ht₁, ht₂]
    · simp [hfree₁ ht₁, hfree₂ ht₂, ht₁, ht₂]

theorem checkParts_eq (hclean : a.sanitizer = none) (parts : RequestParts) :
    a.checkParts parts = a.schema.validate (.map (a.assemble parts)) := by
  rw [checkParts, checkData, cleaned, hclean]

/-- A body tells on a field of the schema that is read from another part only through a door, and the
payloads differ there just when the values that are then found do not come out alike. -/
theorem payloads_agree_iff_alike (ha : a.schema.Built) (hclean : a.sanitizer = none)
    {out₁ out₂ : Table Value} {ns₁ ns₂ : List Notice}
    (hb₁ : (Table.names b₁).Nodup) (hb₂ : (Table.names b₂).Nodup)
    (h₁ : (a.checkParts { parts with body := b₁ }).result = .ok (.success out₁ ns₁))
    (h₂ : (a.checkParts { parts with body := b₂ }).result = .ok (.success out₂ ns₂))
    (hf : f ∈ a.schema.outline.fields) (hsource : f.source.isBody = false) :
    ∃ d₁ d₂, a.schema.outline.resolveAliases (a.assemble { parts with body := b₁ }) = .ok d₁ ∧
      a.schema.outline.resolveAliases (a.assemble { parts with body := b₂ }) = .ok d₂ ∧
      (Table.get? d₁ f.name = Table.get? d₂ f.name ↔ ¬a.Door parts f b₁ b₂) ∧
      (Table.get? out₁ f.name = Table.get? out₂ f.name ↔
        a.schema.Alike f (Table.get? d₁ f.name) (Table.get? d₂ f.name)) ∧
      (¬a.Door parts f b₁ b₂ → Table.get? out₁ f.name = Table.get? out₂ f.name) := by
  have hs := ha.wellNamed
  rw [checkParts_eq hclean] at h₁ h₂
  obtain ⟨d₁, w₁, hd₁, hgives₁, hout₁⟩ :=
    Schema.gives_of_yields hs (nodup_names_assemble hb₁) ⟨ns₁, h₁⟩ hf
  obtain ⟨d₂, w₂, hd₂, hgives₂, hout₂⟩ :=
    Schema.gives_of_yields hs (nodup_names_assemble hb₂) ⟨ns₂, h₂⟩ hf
  have hmem : f ∈ a.elsewhere := mem_elsewhere.mpr ⟨mem_allFields_of_mem_fields hf, hsource⟩
  have hfound := found_eq_iff hs hb₁ hb₂ hd₁ hd₂ hmem
  refine ⟨d₁, d₂, hd₁, hd₂, hfound, ?_, ?_⟩
  · rw [hout₁, hout₂]
    constructor
    · intro h
      exact ⟨w₁, w₂, hgives₁, hgives₂, h⟩
    · rintro ⟨w₁', w₂', hgives₁', hgives₂', h⟩
      rwa [hgives₁.unique hs hgives₁', hgives₂.unique hs hgives₂']
  · intro hdoor
    rw [← hfound] at hdoor
    rw [hdoor] at hgives₁
    rw [hout₁, hout₂, hgives₁.unique hs hgives₂]

/-- A request that has its user in the query, under another name. -/
def profileBlueprint : Blueprint :=
  .mk (.plain "Profile")
    [.field { FieldDecl.plain "user" "str" with source := some (.text "query"), otherName := some "u" }]

def profileUser : Field := { Field.plain "user" "str" with source := .query, otherName := some "u" }

def profileSchema : Schema := .mk (.plain "Profile" [profileUser]) []

theorem built_profileSchema : profileSchema.Built :=
  Blueprint.built_of_build (show profileBlueprint.build.1 = .ok profileSchema by cbv)

def profile : Admission := ⟨profileSchema, Parsers.empty, none⟩

theorem payloads_agree_iff_alike_profile :
    (profile.checkParts ⟨[], [], [], [], []⟩).result = .ok (.success [] []) ∧
    (profile.checkParts ⟨[("u", .text "admin")], [], [], [], []⟩).result =
      .ok (.success [("user", .text "admin")] []) ∧
    ∃ d₁ d₂,
      profile.schema.outline.resolveAliases (profile.assemble ⟨[], [], [], [], []⟩) = .ok d₁ ∧
      profile.schema.outline.resolveAliases
        (profile.assemble ⟨[("u", .text "admin")], [], [], [], []⟩) = .ok d₂ ∧
      (Table.get? d₁ "user" = Table.get? d₂ "user" ↔
        ¬profile.Door ⟨[], [], [], [], []⟩ profileUser [] [("u", .text "admin")]) ∧
      (Table.get? [] "user" = Table.get? [("user", Value.text "admin")] "user" ↔
        profile.schema.Alike profileUser (Table.get? d₁ "user") (Table.get? d₂ "user")) ∧
      (¬profile.Door ⟨[], [], [], [], []⟩ profileUser [] [("u", .text "admin")] →
        Table.get? [] "user" = Table.get? [("user", Value.text "admin")] "user") := by
  have h₁ : (profile.checkParts ⟨[], [], [], [], []⟩).result = .ok (.success [] []) := by cbv
  have h₂ : (profile.checkParts ⟨[("u", .text "admin")], [], [], [], []⟩).result =
      .ok (.success [("user", .text "admin")] []) := by cbv
  have hn₁ : (Table.names ([] : Table Value)).Nodup := by decide
  have hn₂ : (Table.names [("u", Value.text "admin")]).Nodup := by decide
  have hf : profileUser ∈ profile.schema.outline.fields := List.mem_cons_self
  exact ⟨h₁, h₂, @payloads_agree_iff_alike profile ⟨[], [], [], [], []⟩ profileUser []
    [("u", .text "admin")] built_profileSchema rfl _ _ _ _ hn₁ hn₂ h₁ h₂ hf rfl⟩

end Admission

end Intake
