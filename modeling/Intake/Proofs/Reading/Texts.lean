import Intake.Form.Body
import Intake.Json.Body
import Intake.Proofs.Reading.Charsets

namespace Intake

variable {p : Payload} {contentType : Option String} {f : Fault}

namespace Payload

/-- The name of the charset that octets are read in. -/
def charsetName (contentType : Option String) : String := (charsetOf contentType).getD "utf-8"

/-- What makes a payload's text fail with a fault of another kind: its charset's name, for octets. -/
inductive Trap (contentType : Option String) : Payload → Fault → Prop where
  | charset {data : List UInt8} {f : Fault} (h : Charset.Trap (charsetName contentType) data f) :
      Trap contentType (.bytes data) f

theorem charsetOf_ne_empty (contentType : Option String) : charsetOf contentType ≠ some "" := by
  unfold charsetOf
  dsimp only
  split
  · exact nofun
  · split
    · exact nofun
    · next h =>
      intro heq
      have hs := congrArg String.toList (Option.some.inj heq)
      rw [String.toList_ofList] at hs
      exact h (List.isEmpty_iff.mpr hs)

theorem decode_bytes (data : List UInt8) (contentType : Option String) :
    decode (.bytes data) (charsetOf contentType) =
      (Charset.decodeNamed (charsetName contentType) data).mapError (charsetFault fun m =>
        ⟨"Payload is not valid " ++ charsetName contentType ++ " text: " ++ m, none⟩) := by
  have hname : (if (charsetOf contentType).getD "" = "" then "utf-8"
      else (charsetOf contentType).getD "") = charsetName contentType := by
    have hne := charsetOf_ne_empty contentType
    unfold charsetName
    cases hc : charsetOf contentType with
    | none => rfl
    | some name =>
      rw [Option.getD_some, Option.getD_some, if_neg]
      rintro rfl
      exact hne hc
  rw [decode, hname]
  cases Charset.decodeNamed (charsetName contentType) data <;> rfl

theorem escapes_decode_iff :
    f.Escapes (p.decode (charsetOf contentType)) ↔ Trap contentType p f := by
  cases p with
  | text s =>
    constructor
    · exact fun h => absurd h Fault.not_escapes_ok
    · exact nofun
  | bytes data =>
    rw [decode_bytes, Charset.escapes_decodeNamed_iff]
    constructor
    · exact .charset
    · rintro ⟨h⟩
      exact h

/-- A text with half of a surrogate pair, which cannot be written in octets. -/
def HasSurrogate (p : Payload) : Prop := ∃ s, p = .text s ∧ Text.hasSurrogate s.toList = true

theorem octets_eq_error_iff : p.octets = .error f ↔ f = .notEncodable ∧ p.HasSurrogate := by
  cases p with
  | text s =>
    cases h : Text.hasSurrogate s.toList with
    | false => simp [octets, Text.utf8?, HasSurrogate, h]
    | true =>
      have hoctets : (Payload.text s).octets = .error .notEncodable := by simp [octets, Text.utf8?, h]
      rw [hoctets, Except.error.injEq, eq_comm]
      exact (and_iff_left ⟨s, rfl, h⟩).symm
  | bytes data => simp [octets, HasSurrogate]

end Payload

namespace Form

/-- A text that is taken for a document in JSON whose containers are nested too deeply. -/
def IsTooDeep (text : String) : Prop :=
  (text.toList.head? = some '\x7b' ∨ text.toList.head? = some '[') ∧
    Json.read text = .error .tooDeep

section Opening

variable {c : Char} {rest : List Char}

theorem withoutFinalBreak_cons (rest : List Char) (hc : c ≠ '\n') :
    ∃ rest', NamedFormat.withoutFinalBreak (c :: rest) = c :: rest' := by
  unfold NamedFormat.withoutFinalBreak
  split
  · next h =>
    cases rest with
    | nil => exact absurd (Option.some.inj h) hc
    | cons d more => exact ⟨(d :: more).dropLast, rfl⟩
  · exact ⟨rest, rfl⟩

theorem splitWhole_withoutMinus (hc : c = '\x7b' ∨ c = '[') :
    splitWhole (withoutMinus (c :: rest)) = ([], c :: rest) := by
  rcases hc with rfl | rfl <;> simp [withoutMinus, splitWhole]

theorem not_isIntegerText (hc : c = '\x7b' ∨ c = '[') : isIntegerText (c :: rest) = false := by
  have hbreak : c ≠ '\n' := by rcases hc with rfl | rfl <;> decide
  obtain ⟨rest', h⟩ := withoutFinalBreak_cons rest hbreak
  rw [isIntegerText, h, splitWhole_withoutMinus hc]
  rfl

theorem not_isFractionText (hc : c = '\x7b' ∨ c = '[') : isFractionText (c :: rest) = false := by
  have hbreak : c ≠ '\n' := by rcases hc with rfl | rfl <;> decide
  obtain ⟨rest', h⟩ := withoutFinalBreak_cons rest hbreak
  rw [isFractionText, h, splitWhole_withoutMinus hc]
  rcases hc with rfl | rfl <;> rfl

theorem lower_cons (hc : c = '\x7b' ∨ c = '[') :
    Text.lower (c :: rest) = c :: Text.lowerAfter [c] rest := by
  rcases hc with rfl | rfl <;> rfl

end Opening

theorem retype_of_isTooDeep {text : String} (h : IsTooDeep text) : retype text = .error .tooDeep := by
  obtain ⟨hhead, hread⟩ := h
  cases hs : text.toList with
  | nil => simp [hs] at hhead
  | cons c rest =>
    rw [hs] at hhead
    have hc : c = '\x7b' ∨ c = '[' := by simpa using hhead
    have hword (w : String) (hw : w.toList.head? ≠ some c) :
        String.ofList (Text.lower (c :: rest)) ≠ w := by
      rintro rfl
      rw [String.toList_ofList, lower_cons hc] at hw
      exact hw rfl
    have hmark : ((c :: rest).head? = some '\x7b' || (c :: rest).head? = some '[') = true := by
      simpa using hc
    unfold retype
    dsimp only
    -- A text that starts with a bracket is neither a word nor a number.
    rw [hs, if_neg (hword "true" (by rcases hc with rfl | rfl <;> decide)),
      if_neg (hword "false" (by rcases hc with rfl | rfl <;> decide)),
      if_neg (hword "null" (by rcases hc with rfl | rfl <;> decide)), not_isIntegerText hc,
      not_isFractionText hc, hread]
    simp [hc]

/-- A text is retyped to a value unless it is nested too deeply. -/
theorem retype_eq_error_iff {text : String} :
    retype text = .error f ↔ f = .tooDeep ∧ IsTooDeep text := by
  constructor
  · intro h
    unfold retype at h
    dsimp only at h
    -- Words and numbers come first, and are read without fail.
    iterate 5 (split at h; · cases h)
    split at h
    · next hhead =>
      split at h
      · cases h
      · next hread =>
        cases h
        refine ⟨rfl, ?_, hread⟩
        simpa using hhead
      · cases h
    · cases h
  · rintro ⟨rfl, h⟩
    exact retype_of_isTooDeep h

/-- A reading fails when something is nested too deeply, and only then. -/
def TooDeepIff {α : Type} (x : Except Fault α) (P : Prop) : Prop :=
  ∀ f, x = .error f ↔ f = .tooDeep ∧ P

section TooDeepIff

variable {α β : Type} {P Q : Prop}

theorem tooDeepIff_ok (a : α) : TooDeepIff (.ok a) False := by
  intro f
  simp

theorem TooDeepIff.congr {x : Except Fault α} (h : TooDeepIff x P) (hpq : P ↔ Q) :
    TooDeepIff x Q :=
  fun f => (h f).trans (and_congr_right fun _ => hpq)

theorem TooDeepIff.bind {x : Except Fault α} {k : α → Except Fault β} (hx : TooDeepIff x P)
    (hk : ∀ a, TooDeepIff (k a) Q) : TooDeepIff (x >>= k) (P ∨ Q) := by
  intro f
  cases x with
  | error e =>
    obtain ⟨rfl, hp⟩ := (hx e).mp rfl
    change Except.error Fault.tooDeep = _ ↔ _
    rw [Except.error.injEq, eq_comm]
    exact (and_iff_left (.inl hp)).symm
  | ok a =>
    have hp : ¬P := fun hp => nomatch (hx .tooDeep).mpr ⟨rfl, hp⟩
    exact (hk a f).trans (and_congr_right fun _ => (or_iff_right hp).symm)

end TooDeepIff

theorem tooDeepIff_retype (text : String) : TooDeepIff (retype text) (IsTooDeep text) :=
  fun _ => retype_eq_error_iff

theorem tooDeepIff_retypeValue (v : Value) :
    TooDeepIff (retypeValue v) (∃ text, v = .text text ∧ IsTooDeep text) := by
  cases v with
  | text s => exact (tooDeepIff_retype s).congr (by simp)
  | _ => exact (tooDeepIff_ok _).congr (by simp)

theorem buildRetyped_cons (t : Table Value) (key : String) (v : Value)
    (pairs : List (String × Value)) :
    (buildRetyped t ((key, v) :: pairs)).result =
      (retypeValue v >>= fun w => (buildRetyped (store t key w).table pairs).result) := by
  rw [buildRetyped]
  cases retypeValue v <;> rfl

/-- Pairs make a map unless one of their texts is nested too deeply. -/
theorem tooDeepIff_buildRetyped (t : Table Value) (pairs : List (String × Value)) :
    TooDeepIff (buildRetyped t pairs).result
      (∃ name text, (name, .text text) ∈ pairs ∧ IsTooDeep text) := by
  induction pairs generalizing t with
  | nil => exact (tooDeepIff_ok t).congr (by simp)
  | cons pair rest ih =>
    obtain ⟨key, v⟩ := pair
    rw [buildRetyped_cons]
    refine ((tooDeepIff_retypeValue v).bind fun w => ih _).congr ?_
    simp [or_and_right, exists_or, and_assoc, eq_comm]

theorem build_eq_ok (t : Table Value) (pairs : List (String × Value)) :
    ∃ t', (build t pairs).result = .ok t' := by
  induction pairs generalizing t with
  | nil => exact ⟨t, rfl⟩
  | cons pair rest ih => exact ih _

/-- What makes a form fail with a fault of another kind: its charset, or a value nested too deeply. -/
inductive Trap (isRetyped : Bool) (p : Payload) (contentType : Option String) : Fault → Prop where
  | text {f : Fault} (h : Payload.Trap contentType p f) : Trap isRetyped p contentType f
  | depth {text name v : String} (hretyped : isRetyped = true)
      (htext : p.decode (Payload.charsetOf contentType) = .ok text)
      (hfield : (name, v) ∈ readQuery (Text.trim text.toList)) (hdeep : IsTooDeep v) :
      Trap isRetyped p contentType .tooDeep

theorem readBody_result {isRetyped : Bool} :
    (readBody isRetyped p contentType).result =
      (p.decode (Payload.charsetOf contentType) >>= fun text =>
        (ofPairs isRetyped ((readQuery (Text.trim text.toList)).map
          fun (name, v) => (name, .text v))).result) := by
  rw [readBody]
  cases p.decode (Payload.charsetOf contentType) <;> rfl

theorem escapes_readBody_iff {isRetyped : Bool} :
    f.Escapes (readBody isRetyped p contentType).result ↔ Trap isRetyped p contentType f := by
  rw [readBody_result, Fault.escapes_bind_iff, Payload.escapes_decode_iff]
  constructor
  · rintro (h | ⟨text, htext, h, -⟩)
    · exact .text h
    · cases isRetyped with
      | false =>
        obtain ⟨t, ht⟩ := build_eq_ok [] ((readQuery (Text.trim text.toList)).map
          fun (name, v) => (name, Value.text v))
        cases h.symm.trans ht
      | true =>
        obtain ⟨rfl, name, v, hmem, hdeep⟩ := (tooDeepIff_buildRetyped _ _ _).mp h
        obtain ⟨⟨name', v'⟩, hfield, heq⟩ := List.mem_map.mp hmem
        cases heq
        exact .depth rfl htext hfield hdeep
  · rintro (h | ⟨rfl, htext, hfield, hdeep⟩)
    · exact .inl h
    · have hmem := List.mem_map_of_mem (f := fun e => (e.1, Value.text e.2)) hfield
      exact .inr ⟨_, htext, (tooDeepIff_buildRetyped _ _ _).mpr ⟨rfl, _, _, hmem, hdeep⟩, id⟩

end Form

namespace Json

/-- What makes a document in JSON fail with a fault of another kind: its charset, or containers nested
too deeply. -/
inductive Trap (p : Payload) (contentType : Option String) : Fault → Prop where
  | text {f : Fault} (h : Payload.Trap contentType p f) : Trap p contentType f
  | depth {text : String} (htext : p.decode (Payload.charsetOf contentType) = .ok text)
      (hblank : Text.trim text.toList ≠ []) (hdeep : read text = .error .tooDeep) :
      Trap p contentType .tooDeep

theorem escapes_readBody_iff :
    f.Escapes (readBody p contentType) ↔ Trap p contentType f := by
  unfold readBody
  rw [Fault.escapes_bind_iff, Payload.escapes_decode_iff]
  constructor
  · rintro (h | ⟨text, htext, h⟩)
    · exact .text h
    · split at h
      · exact absurd h Fault.not_escapes_pure
      · next hblank =>
        split at h
        · exact absurd h Fault.not_escapes_pure
        · next problem hread =>
          obtain ⟨heq, hf⟩ := h
          cases problem <;> cases heq
          · exact absurd trivial hf
          · exact absurd trivial hf
          · exact .depth htext (by simpa using hblank) hread
  · rintro (h | ⟨htext, hblank, hdeep⟩)
    · exact .inl h
    · refine .inr ⟨_, htext, ?_⟩
      rw [if_neg (by simpa using hblank), hdeep]
      exact ⟨rfl, id⟩

end Json

end Intake
