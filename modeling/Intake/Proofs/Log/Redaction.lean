import Mathlib
import Intake.Log.Processing

namespace Intake.Log

/-- The members of a list or a tuple. -/
def members? : Value → Option (List Value)
  | .list items => some items
  | .tuple items => some items
  | _ => none

mutual

/-- Two values that differ in what stands under the keys of credentials and in nothing else. Containers
are opened to compare them as long as `reach` says; what is nested more deeply is the same. -/
inductive Alike : Nat → Value → Value → Prop where
  | same (reach : Nat) (v : Value) : Alike reach v v
  | map {reach : Nat} {es es' : List (String × Value)} (h : AlikeEntries reach es es') :
      Alike (reach + 1) (.map es) (.map es')
  | members {reach : Nat} {v w : Value} {vs ws : List Value} (hv : members? v = some vs)
      (hw : members? w = some ws) (h : AlikeMembers reach vs ws) : Alike (reach + 1) v w

inductive AlikeEntries : Nat → List (String × Value) → List (String × Value) → Prop where
  | nil (reach : Nat) : AlikeEntries reach [] []
  | hidden {reach : Nat} {k : String} {v w : Value} {es es' : List (String × Value)}
      (hk : isSensitive k = true) (h : AlikeEntries reach es es') :
      AlikeEntries reach ((k, v) :: es) ((k, w) :: es')
  | shown {reach : Nat} {k : String} {v w : Value} {es es' : List (String × Value)}
      (hv : Alike reach v w) (h : AlikeEntries reach es es') :
      AlikeEntries reach ((k, v) :: es) ((k, w) :: es')

inductive AlikeMembers : Nat → List Value → List Value → Prop where
  | nil (reach : Nat) : AlikeMembers reach [] []
  | cons {reach : Nat} {v w : Value} {vs ws : List Value} (hv : Alike reach v w)
      (h : AlikeMembers reach vs ws) : AlikeMembers reach (v :: vs) (w :: ws)

end

mutual

/-- A value stands under a key somewhere inside another value, with so many containers around it. -/
inductive StoredIn (k : String) (v : Value) : Nat → Value → Prop where
  | map {n : Nat} {es : List (String × Value)} (h : StoredAmong k v n es) :
      StoredIn k v (n + 1) (.map es)
  | member {n : Nat} {w x : Value} {ws : List Value} (hw : members? w = some ws) (hx : x ∈ ws)
      (h : StoredIn k v n x) : StoredIn k v (n + 1) w

/-- A value stands under a key among entries or inside one of them. -/
inductive StoredAmong (k : String) (v : Value) : Nat → List (String × Value) → Prop where
  | here {es : List (String × Value)} (h : (k, v) ∈ es) : StoredAmong k v 0 es
  | inside {n : Nat} {key : String} {x : Value} {es : List (String × Value)} (hx : (key, x) ∈ es)
      (h : StoredIn k v n x) : StoredAmong k v n es

end

variable {key k : String} {depth reach n : Nat} {v w : Value} {es es' : List (String × Value)}
  {vs ws : List Value}

theorem isSensitive_empty : isSensitive "" = false := by decide

theorem scrub_of_sensitive (h : isSensitive key = true) (depth : Nat) (v : Value) :
    scrub key depth v = redacted := by
  cases v <;> simp [scrub, h]

theorem scrub_of_deep (h : isSensitive key = false) (hd : maxDepth ≤ depth) (v : Value) :
    scrub key depth v = v := by
  cases v <;> simp [scrub, h, hd]

theorem scrub_map (h : isSensitive key = false) (hd : depth < maxDepth)
    (es : List (String × Value)) :
    scrub key depth (.map es) = .map (scrubEntries (depth + 1) es) := by
  simp [scrub, h, Nat.not_le.mpr hd]

theorem scrub_members (h : isSensitive key = false) (hd : depth < maxDepth)
    (hv : members? v = some vs) : scrub key depth v = .list (scrubItems (depth + 1) vs) := by
  cases v with
  | list items =>
    obtain rfl := Option.some.inj hv
    simp [scrub, h, Nat.not_le.mpr hd]
  | tuple items =>
    obtain rfl := Option.some.inj hv
    simp [scrub, h, Nat.not_le.mpr hd]
  | _ => cases hv

/-- What becomes of a value that is looked into. -/
theorem scrub_cases (h : isSensitive key = false) (hd : depth < maxDepth) (v : Value) :
    (∃ es, v = .map es ∧ scrub key depth v = .map (scrubEntries (depth + 1) es)) ∨
      (∃ vs, members? v = some vs ∧ scrub key depth v = .list (scrubItems (depth + 1) vs)) ∨
      (scrub key depth v = v ∧ members? v = none ∧ ∀ es, v ≠ .map es) := by
  cases v with
  | map es => exact .inl ⟨es, rfl, scrub_map h hd es⟩
  | list items => exact .inr (.inl ⟨items, rfl, scrub_members h hd rfl⟩)
  | tuple items => exact .inr (.inl ⟨items, rfl, scrub_members h hd rfl⟩)
  | _ => exact .inr (.inr ⟨by simp [scrub, h], rfl, fun _ => Value.noConfusion⟩)

theorem alike_zero : Alike 0 v w ↔ v = w := by
  constructor
  · intro h
    cases h
    rfl
  · rintro rfl
    exact .same 0 v

theorem scrubEntries_eq_map (depth : Nat) (es : List (String × Value)) :
    scrubEntries depth es = es.map fun e => (e.1, scrub e.1 depth e.2) := by
  induction es with
  | nil => rfl
  | cons e es ih => rw [scrubEntries, ih, List.map_cons]

theorem scrubItems_eq_map (depth : Nat) (vs : List Value) :
    scrubItems depth vs = vs.map (scrub "" depth) := by
  induction vs with
  | nil => rfl
  | cons v vs ih => rw [scrubItems, ih, List.map_cons]

/-- Entries are told apart after scrubbing just where their values are. -/
theorem scrubEntries_eq_iff
    (ih : ∀ k v w, isSensitive k = false → (scrub k depth v = scrub k depth w ↔ Alike reach v w)) :
    ∀ es es', scrubEntries depth es = scrubEntries depth es' ↔ AlikeEntries reach es es'
  | [], [] => ⟨fun _ => .nil reach, fun _ => rfl⟩
  | [], _ :: _ => ⟨fun h => by simp [scrubEntries] at h, fun h => nomatch h⟩
  | _ :: _, [] => ⟨fun h => by simp [scrubEntries] at h, fun h => nomatch h⟩
  | (k, v) :: es, (k', w) :: es' => by
    have rest := scrubEntries_eq_iff ih es es'
    constructor
    · intro h
      obtain ⟨⟨rfl, hv⟩, hes⟩ : (k = k' ∧ scrub k depth v = scrub k' depth w) ∧
          scrubEntries depth es = scrubEntries depth es' := by
        simpa only [scrubEntries, List.cons.injEq, Prod.mk.injEq] using h
      cases hk : isSensitive k with
      | true => exact .hidden hk (rest.mp hes)
      | false => exact .shown ((ih k v w hk).mp hv) (rest.mp hes)
    · intro h
      cases h with
      | hidden hk hes =>
        simp only [scrubEntries, scrub_of_sensitive hk, rest.mpr hes]
      | shown hv hes =>
        cases hk : isSensitive k with
        | true => simp only [scrubEntries, scrub_of_sensitive hk, rest.mpr hes]
        | false => simp only [scrubEntries, (ih k v w hk).mpr hv, rest.mpr hes]

theorem scrubItems_eq_iff
    (ih : ∀ v w, scrub "" depth v = scrub "" depth w ↔ Alike reach v w) :
    ∀ vs ws, scrubItems depth vs = scrubItems depth ws ↔ AlikeMembers reach vs ws
  | [], [] => ⟨fun _ => .nil reach, fun _ => rfl⟩
  | [], _ :: _ => ⟨fun h => by simp [scrubItems] at h, fun h => nomatch h⟩
  | _ :: _, [] => ⟨fun h => by simp [scrubItems] at h, fun h => nomatch h⟩
  | v :: vs, w :: ws => by
    have rest := scrubItems_eq_iff ih vs ws
    simp only [scrubItems, List.cons.injEq, ih v w, rest]
    constructor
    · rintro ⟨hv, hvs⟩
      exact .cons hv hvs
    · rintro (_ | ⟨hv, hvs⟩)
      exact ⟨hv, hvs⟩

/-- Two values look the same after scrubbing exactly if they differ in nothing but credentials, as deep
as scrubbing still goes. -/
theorem scrub_eq_iff (h : depth + reach = maxDepth) (hk : isSensitive key = false) :
    scrub key depth v = scrub key depth w ↔ Alike reach v w := by
  induction reach generalizing depth key v w with
  | zero =>
    have hd : maxDepth ≤ depth := by omega
    rw [scrub_of_deep hk hd, scrub_of_deep hk hd, alike_zero]
  | succ reach ih =>
    have hd : depth < maxDepth := by omega
    have inner : depth + 1 + reach = maxDepth := by omega
    have entries (es es' : List (String × Value)) :
        scrubEntries (depth + 1) es = scrubEntries (depth + 1) es' ↔ AlikeEntries reach es es' :=
      scrubEntries_eq_iff (fun k v w hk => ih inner hk) es es'
    have items (vs ws : List Value) :
        scrubItems (depth + 1) vs = scrubItems (depth + 1) ws ↔ AlikeMembers reach vs ws :=
      scrubItems_eq_iff (fun v w => ih inner isSensitive_empty) vs ws
    constructor
    · intro heq
      obtain ⟨es, rfl, hv⟩ | ⟨vs, hvs, hv⟩ | ⟨hv, hvn, hvm⟩ := scrub_cases hk hd v <;>
        obtain ⟨es', rfl, hw⟩ | ⟨ws, hws, hw⟩ | ⟨hw, hwn, hwm⟩ := scrub_cases hk hd w <;>
        rw [hv, hw] at heq
      · exact .map ((entries es es').mp (Value.map.inj heq))
      · cases heq
      · exact absurd heq.symm (hwm _)
      · cases heq
      · exact .members hvs hws ((items vs ws).mp (Value.list.inj heq))
      · cases heq
        cases hwn
      · exact absurd heq (hvm _)
      · cases heq
        cases hvn
      · cases heq
        exact .same _ v
    · rintro (_ | hes | ⟨hvs, hws, hm⟩)
      · rfl
      · rw [scrub_map hk hd, scrub_map hk hd, (entries _ _).mpr hes]
      · rw [scrub_members hk hd hvs, scrub_members hk hd hws, (items _ _).mpr hm]

theorem mem_scrubEntries (h : (k, v) ∈ scrubEntries depth es) :
    ∃ w, (k, w) ∈ es ∧ scrub k depth w = v := by
  rw [scrubEntries_eq_map] at h
  obtain ⟨⟨_, w⟩, hw, heq⟩ := List.mem_map.mp h
  obtain ⟨rfl, rfl⟩ := Prod.mk.inj heq
  exact ⟨w, hw, rfl⟩

theorem not_storedIn_redacted : ¬ StoredIn k v n redacted := by
  rintro (_ | ⟨hw, _, _⟩)
  cases hw

theorem redacted_of_storedAmong_of (hk : isSensitive k = true)
    (ih : ∀ key w, isSensitive key = false → StoredIn k v n (scrub key depth w) → v = redacted)
    (h : StoredAmong k v n (scrubEntries depth es)) : v = redacted := by
  cases h with
  | here hv =>
    obtain ⟨w, -, rfl⟩ := mem_scrubEntries hv
    exact scrub_of_sensitive hk depth w
  | @inside n key x _ hx hin =>
    obtain ⟨w, -, rfl⟩ := mem_scrubEntries hx
    cases hkey : isSensitive key with
    | true =>
      rw [scrub_of_sensitive hkey] at hin
      exact absurd hin not_storedIn_redacted
    | false => exact ih key w hkey hin

/-- Under the key of a credential only the marker is left, as deep as scrubbing goes. -/
theorem redacted_of_storedIn (hk : isSensitive k = true) (hkey : isSensitive key = false)
    (hn : depth + n ≤ maxDepth) (h : StoredIn k v n (scrub key depth w)) : v = redacted := by
  induction n generalizing depth key w with
  | zero => cases h
  | succ n ih =>
    have hd : depth < maxDepth := by omega
    have inner : depth + 1 + n ≤ maxDepth := by omega
    obtain ⟨es, rfl, hes⟩ | ⟨vs, hvs, hitems⟩ | ⟨hsame, hnone, hmap⟩ := scrub_cases hkey hd w
    · rw [hes] at h
      cases h with
      | map h => exact redacted_of_storedAmong_of hk (fun key w hkey => ih hkey inner) h
      | member hw => cases hw
    · rw [hitems] at h
      cases h with
      | member hw hx hin =>
        obtain rfl := Option.some.inj hw
        rw [scrubItems_eq_map] at hx
        obtain ⟨x, -, rfl⟩ := List.mem_map.mp hx
        exact ih isSensitive_empty inner hin
    · rw [hsame] at h
      cases h with
      | map h => exact absurd rfl (hmap _)
      | member hw =>
        rw [hnone] at hw
        cases hw

/-- Redaction makes events alike exactly if they differ in nothing but credentials with at most
`maxDepth` containers around them, and under the key of such a credential it leaves the marker. What
is nested more deeply is logged as it is. -/
theorem redact_hides_within_reach (e e' : Fields) :
    (redact e = redact e' ↔ AlikeEntries maxDepth e e') ∧
      ∀ (n : Nat) (k : String) (v : Value), n ≤ maxDepth → isSensitive k = true →
        StoredAmong k v n (redact e) → v = redacted := by
  constructor
  · exact scrubEntries_eq_iff (fun k v w hk => scrub_eq_iff (Nat.zero_add maxDepth) hk) e e'
  · intro n k v hn hk h
    have hn : 0 + n ≤ maxDepth := by omega
    exact redacted_of_storedAmong_of hk (fun key w hkey => redacted_of_storedIn hk hkey hn) h

/-- A rejected payload as it is logged, with the credentials in it. -/
def rejected (password token : Value) : Fields :=
  [("event", .text "payload_rejected"),
    ("raw", .map [("Password", password), ("items", .tuple [.map [("token", token)]])])]

theorem redact_rejected (password token : Value) : redact (rejected password token) =
    [("event", .text "payload_rejected"),
      ("raw", .map [("Password", redacted), ("items", .list [.map [("token", redacted)]])])] := by
  have hevent : isSensitive "event" = false := by decide
  have hraw : isSensitive "raw" = false := by decide
  have hpassword : isSensitive "Password" = true := by decide
  have hitems : isSensitive "items" = false := by decide
  have htoken : isSensitive "token" = true := by decide
  simp [redact, rejected, scrubEntries, scrubItems, scrub, maxDepth, isSensitive_empty, hevent,
    hraw, hitems, scrub_of_sensitive hpassword, scrub_of_sensitive htoken]

theorem redact_hides_within_reach_rejected :
    redact (rejected (.text "hunter2") (.int 7)) = redact (rejected .null (.list [])) ∧
      ∃ v, StoredAmong "token" v 3 (redact (rejected (.text "hunter2") (.int 7))) ∧ v = redacted := by
  have htoken : isSensitive "token" = true := by decide
  constructor
  · refine (redact_hides_within_reach _ _).1.mpr ?_
    have hpassword : isSensitive "Password" = true := by decide
    have hitems : Alike 5 (.tuple [.map [("token", .int 7)]]) (.tuple [.map [("token", .list [])]]) :=
      .members rfl rfl (.cons (.map (.hidden htoken (.nil _))) (.nil _))
    exact .shown (.same _ _)
      (.shown (.map (.hidden hpassword (.shown hitems (.nil _)))) (.nil _))
  · have hitems : StoredIn "token" redacted 2 (.list [.map [("token", redacted)]]) :=
      .member rfl (List.mem_singleton_self _) (.map (.here (List.mem_singleton_self _)))
    have hraw : StoredAmong "token" redacted 3
        (redact (rejected (.text "hunter2") (.int 7))) := by
      rw [redact_rejected]
      exact .inside (List.mem_cons_of_mem _ (List.mem_singleton_self _))
        (.map (.inside (List.mem_cons_of_mem _ (List.mem_singleton_self _)) hitems))
    obtain ⟨-, hmarked⟩ := redact_hides_within_reach (rejected (.text "hunter2") (.int 7)) []
    exact ⟨redacted, hraw, hmarked 3 _ _ (by decide) htoken hraw⟩

/-- A credential with one container more around it than scrubbing looks into. -/
def buried (secret : Value) : Fields :=
  [("raw", .map [("a", .map [("b", .map [("c", .map [("d", .map [("e", .map [("f", .map
    [("password", secret)])])])])])])])]

example (secret : Value) : redact (buried secret) = buried secret := rfl

end Intake.Log
