import Mathlib
import Intake.Payload

namespace Intake

namespace Fault

/-- The faults of malformed payloads, for which the readers of payloads have a form of their own. -/
def IsPayload : Fault → Prop
  | .payload _ => True
  | _ => False

instance : DecidablePred IsPayload := fun f => by cases f <;> unfold IsPayload <;> infer_instance

/-- A reading fails with a fault that is not the payload's. -/
def Escapes {α : Type} (f : Fault) (x : Except Fault α) : Prop := x = .error f ∧ ¬f.IsPayload

variable {α β : Type} {f e : Fault}

@[simp]
theorem not_escapes_ok {a : α} : ¬f.Escapes (.ok a : Except Fault α) := by
  rintro ⟨h, -⟩
  cases h

@[simp]
theorem not_escapes_pure {a : α} : ¬f.Escapes (pure a : Except Fault α) := not_escapes_ok

@[simp]
theorem escapes_error_iff : f.Escapes (.error e : Except Fault α) ↔ e = f ∧ ¬f.IsPayload := by
  unfold Escapes
  rw [Except.error.injEq]

theorem escapes_bind_iff {x : Except Fault α} {k : α → Except Fault β} :
    f.Escapes (x >>= k) ↔ f.Escapes x ∨ ∃ a, x = .ok a ∧ f.Escapes (k a) := by
  cases x with
  | error e => simp [Escapes, bind, Except.bind]
  | ok a => simp [bind, Except.bind]

theorem mapError_eq_ok_iff {ε : Type} {x : Except ε α} {k : ε → Fault} {a : α} :
    x.mapError k = .ok a ↔ x = .ok a := by
  cases x <;> simp [Except.mapError]

theorem escapes_map_iff {x : Except Fault α} {k : α → β} : f.Escapes (x.map k) ↔ f.Escapes x := by
  cases x with
  | error e => simp [Except.map]
  | ok a => simp [Except.map]

/-- Of several readings in a row the first that fails decides. -/
theorem escapes_mapM_iff {k : α → Except Fault β} {as : List α} :
    f.Escapes (as.mapM k) ↔ ∃ before a after, as = before ++ a :: after ∧
      (∀ b ∈ before, ∃ c, k b = .ok c) ∧ f.Escapes (k a) := by
  induction as with
  | nil =>
    refine iff_of_false (by simp) ?_
    rintro ⟨before, a, after, h, -⟩
    exact List.append_ne_nil_of_right_ne_nil before (List.cons_ne_nil a after) h.symm
  | cons a as ih =>
    rw [List.mapM_cons, escapes_bind_iff]
    constructor
    · rintro (h | ⟨c, hc, h⟩)
      · exact ⟨[], a, as, rfl, fun b hb => absurd hb List.not_mem_nil, h⟩
      · rcases escapes_bind_iff.mp h with h | ⟨cs, -, h⟩
        · obtain ⟨before, b, after, rfl, hbefore, hb⟩ := ih.mp h
          refine ⟨a :: before, b, after, rfl, ?_, hb⟩
          rintro q (_ | ⟨_, hq⟩)
          · exact ⟨c, hc⟩
          · exact hbefore q hq
        · exact absurd h not_escapes_pure
    · rintro ⟨before, b, after, heq, hbefore, hb⟩
      cases before with
      | nil =>
        cases heq
        exact .inl hb
      | cons q before =>
        cases heq
        obtain ⟨c, hc⟩ := hbefore a List.mem_cons_self
        refine .inr ⟨c, hc, escapes_bind_iff.mpr (.inl (ih.mpr ?_))⟩
        exact ⟨before, b, after, rfl, fun q hq => hbefore q (List.mem_cons_of_mem a hq), hb⟩

end Fault

namespace Charset

variable {name codec : String} {data : List UInt8} {f : Fault}

/-- The spelling under which a charset is looked up. -/
def key (name : String) : String :=
  String.ofList ((normalized name).toList.map fun c => if c = '.' then '_' else c)

/-- The names of charsets that make a reading fail with a fault of another kind. -/
inductive Trap (name : String) (data : List UInt8) : Fault → Prop where
  | hasNull (hnull : '\x00' ∈ name.toList) :
      Trap name data (.badArgument Problem.hasNull.message)
  | hasSurrogate (hnull : '\x00' ∉ name.toList) (hhalf : Text.hasSurrogate name.toList = true) :
      Trap name data .notEncodable
  | undefined (hnull : '\x00' ∉ name.toList) (hhalf : Text.hasSurrogate name.toList = false)
      (hdata : data ≠ []) (hkey : key name = "undefined") : Trap name data .badCharset

theorem exists_malformed_of_readAll {step : UInt8 → List UInt8 → Except Text.BadOctets (Char × Nat)}
    {position : Nat} {p : Problem} (h : readAll codec step position data = .error p) :
    ∃ octet start stop reason, p = .malformed codec octet start stop reason := by
  induction position, data using readAll.induct step with
  | case1 position => simp [readAll] at h
  | case2 position b rest c n hstep ih =>
    rw [readAll, hstep] at h
    dsimp only at h
    cases hrest : readAll codec step (position + 1 + n) (rest.drop n) with
    | ok cs => simp [hrest, Except.map] at h
    | error q =>
      rw [hrest] at h
      cases h
      exact ih hrest
  | case3 position b rest bad hstep =>
    rw [readAll, hstep] at h
    cases h
    exact ⟨b, position, position + bad.size, bad.reason, rfl⟩

theorem exists_malformed_of_decode {c : Charset} {p : Problem} (h : c.decode data = .error p) :
    ∃ codec octet start stop reason, p = .malformed codec octet start stop reason := by
  cases c with
  | latin1 => cases h
  | _ => exact ⟨_, exists_malformed_of_readAll h⟩

theorem decodeNamed_eq (name : String) (data : List UInt8) :
    decodeNamed name data =
      if name.toList.contains '\x00' then .error .hasNull
      else if Text.hasSurrogate name.toList then .error .badName
      else if data.isEmpty then .ok ""
      else (ofName name).bind fun c => (c.decode data).map String.ofList := by
  rw [decodeNamed]
  split
  · rfl
  · split
    · rfl
    · split
      · rfl
      · cases ofName name with
        | error p => rfl
        | ok c => cases h : c.decode data <;> simp [bind, Except.bind, Except.map, h, pure, Except.pure]

theorem ofName_of_key_eq (hnull : '\x00' ∉ name.toList)
    (hhalf : Text.hasSurrogate name.toList = false) (hkey : key name = "undefined") :
    ofName name = .error .undefined := by
  have hc : ¬name.toList.contains '\x00' = true := by simpa using hnull
  unfold ofName
  dsimp only
  rw [if_neg hc, if_neg (Bool.eq_false_iff.mp hhalf)]
  exact if_pos hkey

theorem null_mem_of_ofName (h : ofName name = .error .hasNull) : '\x00' ∈ name.toList := by
  unfold ofName at h
  dsimp only at h
  split at h
  · next hnull => exact List.contains_iff_mem.mp hnull
  · split at h
    · cases h
    · split at h
      · cases h
      · split at h
        · cases h
        · split at h <;> cases h

theorem key_eq_of_not_isPayload {described : String → PayloadFault} {p : Problem}
    (hnull : '\x00' ∉ name.toList) (hhalf : Text.hasSurrogate name.toList = false)
    (h : ofName name = .error p) (hp : ¬(Payload.charsetFault described p).IsPayload) :
    key name = "undefined" := by
  unfold ofName at h
  dsimp only at h
  split at h
  · next hc => exact absurd (List.contains_iff_mem.mp hc) hnull
  · split at h
    · next hs =>
      rw [hhalf] at hs
      cases hs
    · split at h
      · next hkey => exact hkey
      · split at h
        · cases h
          exact absurd trivial hp
        · split at h
          · cases h
          · cases h
            exact absurd trivial hp

/-- The name of a charset lets a fault of another kind through in three ways only. -/
theorem escapes_decodeNamed_iff {described : String → PayloadFault} :
    f.Escapes ((decodeNamed name data).mapError (Payload.charsetFault described)) ↔
      Trap name data f := by
  rw [decodeNamed_eq]
  constructor
  · rintro ⟨h, hf⟩
    split at h
    · next hc =>
      cases h
      exact .hasNull (List.contains_iff_mem.mp hc)
    · next hc =>
      have hnull : '\x00' ∉ name.toList := fun hmem => hc (List.contains_iff_mem.mpr hmem)
      split at h
      · next hhalf =>
        cases h
        exact .hasSurrogate hnull hhalf
      · next hhalf =>
        rw [Bool.not_eq_true] at hhalf
        split at h
        · cases h
        · next hdata =>
          cases hname : ofName name with
          | ok c =>
            rw [hname] at h
            cases hdecode : c.decode data with
            | ok cs =>
              simp [Except.bind, Except.map, Except.mapError, hdecode] at h
            | error p =>
              obtain ⟨codec, octet, start, stop, reason, rfl⟩ := exists_malformed_of_decode hdecode
              simp [Except.bind, Except.map, Except.mapError, hdecode] at h
              subst h
              exact absurd trivial hf
          | error p =>
            rw [hname] at h
            cases h
            -- An unknown charset is a fault of the payload: only `undefined` is left.
            have hkey := key_eq_of_not_isPayload hnull hhalf hname hf
            rw [ofName_of_key_eq hnull hhalf hkey] at hname
            cases hname
            exact .undefined hnull hhalf (by simpa using hdata) hkey
  · rintro (hnull | ⟨hnull, hhalf⟩ | ⟨hnull, hhalf, hdata, hkey⟩)
    · rw [if_pos (List.contains_iff_mem.mpr hnull)]
      exact ⟨rfl, id⟩
    · rw [if_neg (by simpa using hnull), if_pos hhalf]
      exact ⟨rfl, id⟩
    · rw [if_neg (by simpa using hnull), if_neg (by simp [hhalf]), if_neg (by simpa using hdata),
        ofName_of_key_eq hnull hhalf hkey]
      exact ⟨rfl, id⟩

end Charset
end Intake
