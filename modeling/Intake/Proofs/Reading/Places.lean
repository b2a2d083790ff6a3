import Mathlib
import Intake.Xml.Document

namespace Intake.Xml

/-- A failure at a place of a document. -/
def Failure.IsPlaced : Failure → Prop
  | .at _ _ => True
  | .unknownReference _ _ => True
  | _ => False

/-- A reading that fails at a place of the document if it fails. -/
def FailsInPlace {α : Type} (x : Except Failure α) : Prop := ∀ f, x = .error f → f.IsPlaced

namespace FailsInPlace

variable {α β : Type}

theorem ok (a : α) : FailsInPlace (.ok a) := by
  rintro f ⟨⟩

theorem error {f : Failure} (h : f.IsPlaced) : FailsInPlace (.error f : Except Failure α) := by
  rintro e ⟨⟩
  exact h

theorem place (cause : Cause) (offset : Nat) :
    FailsInPlace (.error (.at cause offset) : Except Failure α) :=
  error trivial

theorem bind {x : Except Failure α} {k : α → Except Failure β} (hx : FailsInPlace x)
    (hk : ∀ a, FailsInPlace (k a)) : FailsInPlace (x >>= k) := by
  cases x with
  | error f => exact error (hx f rfl)
  | ok a => exact hk a

theorem map {x : Except Failure α} {k : α → β} (hx : FailsInPlace x) : FailsInPlace (x.map k) := by
  cases x with
  | error f => exact error (hx f rfl)
  | ok a => exact ok (k a)

end FailsInPlace

open FailsInPlace

theorem Stop.failure_isPlaced (start : Nat) (s : Stop) : (s.failure start).IsPlaced := by
  cases s <;> trivial

namespace Placed

theorem unexpected_isPlaced (t : Placed) : t.unexpected.IsPlaced := by
  unfold unexpected
  split <;> trivial

theorem failsInPlace_next? (c : Cursor) : FailsInPlace (next? c) := by
  unfold next?
  dsimp only
  split
  · exact ok _
  · split
    · exact ok _
    · exact error (Stop.failure_isPlaced _ _)

theorem failsInPlace_next (c : Cursor) : FailsInPlace (next c) := by
  unfold next
  refine bind (failsInPlace_next? c) fun found => ?_
  split
  · exact ok _
  · exact place _ _

end Placed

namespace Doctype

open Placed

variable {α : Type}

theorem failsInPlace_unexpected (t : Placed) : FailsInPlace (unexpected t : Except Failure α) :=
  error (unexpected_isPlaced t)

theorem failsInPlace_expectClose (c : Cursor) : FailsInPlace (expectClose c) := by
  unfold expectClose
  refine bind (failsInPlace_next c) ?_
  rintro ⟨t, c⟩
  dsimp only
  split
  · exact ok _
  · exact failsInPlace_unexpected t

theorem failsInPlace_expectName (c : Cursor) : FailsInPlace (expectName c) := by
  unfold expectName
  refine bind (failsInPlace_next c) ?_
  rintro ⟨t, c⟩
  dsimp only
  split
  · exact ok _
  · exact failsInPlace_unexpected t

theorem failsInPlace_expectQName (c : Cursor) : FailsInPlace (expectQName c) := by
  unfold expectQName
  refine bind (failsInPlace_next c) ?_
  rintro ⟨t, c⟩
  dsimp only
  split
  · exact ok _
  · exact ok _
  · exact failsInPlace_unexpected t

theorem failsInPlace_expectLiteral (c : Cursor) : FailsInPlace (expectLiteral c) := by
  unfold expectLiteral
  refine bind (failsInPlace_next c) ?_
  rintro ⟨t, c⟩
  dsimp only
  split
  · exact ok _
  · exact failsInPlace_unexpected t

theorem failsInPlace_expectPublicId (c : Cursor) : FailsInPlace (expectPublicId c) := by
  unfold expectPublicId
  refine bind (failsInPlace_expectLiteral c) ?_
  rintro ⟨⟨s, offset⟩, c⟩
  dsimp only
  split
  · exact place _ _
  · exact ok _

theorem failsInPlace_readExternal (isParameter : Bool) (c : Cursor) :
    FailsInPlace (readExternal isParameter c) := by
  unfold readExternal
  refine bind (failsInPlace_expectLiteral c) ?_
  rintro ⟨_, c⟩
  refine bind (failsInPlace_next c) ?_
  rintro ⟨t, c⟩
  dsimp only
  split
  · exact ok _
  · split
    · refine bind (failsInPlace_expectName c) ?_
      rintro ⟨_, c⟩
      exact bind (failsInPlace_expectClose c) fun c => ok _
    · exact failsInPlace_unexpected t
  · exact failsInPlace_unexpected t

theorem failsInPlace_entityValue (start offset : Nat) (s : List Char) :
    FailsInPlace (entityValue start offset s) := by
  fun_induction entityValue start offset s with
  | case1 => exact ok _
  | case5 _ _ _ _ _ ih | case6 _ _ _ _ _ ih | case11 _ _ _ _ ih | case12 _ _ _ _ _ _ ih =>
    exact bind ih fun _ => ok _
  | _ => exact place _ _

theorem failsInPlace_readNotation (c : Cursor) : FailsInPlace (readNotation c) := by
  unfold readNotation
  refine bind (failsInPlace_expectName c) ?_
  rintro ⟨_, c⟩
  refine bind (failsInPlace_next c) ?_
  rintro ⟨t, c⟩
  dsimp only
  split
  · refine bind (failsInPlace_expectLiteral c) ?_
    rintro ⟨_, c⟩
    exact failsInPlace_expectClose c
  · split
    · refine bind (failsInPlace_expectPublicId c) fun c => ?_
      refine bind (failsInPlace_next c) ?_
      rintro ⟨t, c⟩
      dsimp only
      split
      · exact ok _
      · exact failsInPlace_expectClose c
      · exact failsInPlace_unexpected t
    · exact failsInPlace_unexpected t

theorem failsInPlace_readAlternatives (isAllowed : PrologToken → Bool) (fuel : Nat) (c : Cursor) :
    FailsInPlace (readAlternatives isAllowed fuel c) := by
  induction fuel generalizing c with
  | zero => exact place _ _
  | succ fuel ih =>
    unfold readAlternatives
    refine bind (failsInPlace_next c) ?_
    rintro ⟨t, c⟩
    dsimp only
    split
    · exact error (unexpected_isPlaced t)
    · refine bind (failsInPlace_next c) ?_
      rintro ⟨t, c⟩
      dsimp only
      split
      · exact ok _
      · exact ih c
      · exact failsInPlace_unexpected t

theorem failsInPlace_readEntity (d : Doctype) (isParameter : Bool) (c : Cursor) :
    FailsInPlace (readEntity d isParameter c) := by
  unfold readEntity
  refine bind (failsInPlace_next c) ?_
  rintro ⟨t, c⟩
  dsimp only
  split
  · split
    · refine bind (failsInPlace_entityValue _ _ _) fun text => ?_
      exact bind (failsInPlace_expectClose c) fun c => ok _
    · refine bind (ok _) fun text => ?_
      exact bind (failsInPlace_expectClose c) fun c => ok _
  · split
    · exact failsInPlace_readExternal isParameter c
    · split
      · refine bind (failsInPlace_expectPublicId c) fun c => ?_
        exact failsInPlace_readExternal isParameter c
      · exact failsInPlace_unexpected t
  · exact failsInPlace_unexpected t

theorem failsInPlace_readEntityDeclaration (d : Doctype) (c : Cursor) :
    FailsInPlace (readEntityDeclaration d c) := by
  unfold readEntityDeclaration
  refine bind (failsInPlace_next c) ?_
  rintro ⟨t, c⟩
  dsimp only
  split
  · refine bind (failsInPlace_expectName c) ?_
    rintro ⟨_, c⟩
    exact bind (failsInPlace_readEntity d true c) fun _ => ok _
  · exact bind (failsInPlace_readEntity d false c) fun _ => ok _
  · exact failsInPlace_unexpected t

theorem failsInPlace_readAttributeType (c : Cursor) : FailsInPlace (readAttributeType c) := by
  unfold readAttributeType
  refine bind (failsInPlace_next c) ?_
  rintro ⟨t, c⟩
  dsimp only
  split
  · exact bind (failsInPlace_readAlternatives _ _ c) fun _ => ok _
  · split
    · exact ok _
    · split
      · exact ok _
      · split
        · refine bind (failsInPlace_next c) ?_
          rintro ⟨t, c⟩
          dsimp only
          split
          · exact error (unexpected_isPlaced t)
          · exact bind (failsInPlace_readAlternatives _ _ c) fun _ => ok _
        · exact failsInPlace_unexpected t
  · exact failsInPlace_unexpected t

theorem failsInPlace_expand_cons {d : Doctype} {home depth added : Nat} {here? : Option Nat}
    {opened : List (List Char)} {c : Char} {rest : List Char}
    (hrest : ∀ here? opened added n,
      FailsInPlace (d.expand home depth here? opened added (rest.drop n)))
    (hinner : ∀ inner < depth, ∀ here? opened added s,
      FailsInPlace (d.expand home inner here? opened added s)) :
    FailsInPlace (d.expand home depth here? opened added (c :: rest)) := by
  unfold expand
  dsimp only
  split
  · exact place _ _
  · split
    · split
      · exact place _ _
      · exact place _ _
      · split
        · exact place _ _
        · exact bind (hrest _ _ _ _) fun _ => ok _
        · split
          · exact bind (hrest _ _ _ _) fun _ => ok _
          · split
            · exact place _ _
            · exact hrest _ _ _ _
          · exact place _ _
          · exact place _ _
          · split
            · exact place _ _
            · split
              · exact place _ _
              · cases depth with
                | zero => exact place _ _
                | succ depth =>
                  refine bind (hinner depth (Nat.lt_succ_self depth) _ _ _ _) fun _ => ?_
                  exact bind (hrest _ _ _ _) fun _ => ok _
    · split
      · exact hrest _ _ _ 0
      · exact bind (hrest _ _ _ 0) fun _ => ok _

theorem failsInPlace_expand (d : Doctype) (home depth : Nat) (here? : Option Nat)
    (opened : List (List Char)) (added : Nat) (s : List Char) :
    FailsInPlace (d.expand home depth here? opened added s) := by
  -- An entity is expanded one level further down, and a text is read on from a later character.
  induction depth using Nat.strongRecOn generalizing here? opened added s with
  | ind depth hinner =>
    induction hlength : s.length using Nat.strongRecOn generalizing here? opened added s with
    | ind length ih =>
      cases s with
      | nil =>
        unfold expand
        exact ok _
      | cons c rest =>
        subst hlength
        refine failsInPlace_expand_cons (fun here? opened added n => ?_) hinner
        exact ih _ (length_drop_lt_cons n c rest) here? opened added _ rfl

theorem failsInPlace_attributeValue (d : Doctype) (home : Nat) (here? : Option Nat)
    (isVerbatim : Bool) (added : Nat) (s : List Char) :
    FailsInPlace (d.attributeValue home here? isVerbatim added s) := by
  unfold attributeValue
  exact bind (failsInPlace_expand d home _ _ _ _ _) fun _ => ok _

theorem failsInPlace_readDefault (d : Doctype) (isVerbatim : Bool) (c : Cursor) :
    FailsInPlace (readDefault d isVerbatim c) := by
  unfold readDefault
  refine bind (failsInPlace_next c) ?_
  rintro ⟨t, c⟩
  dsimp only
  split
  · split
    · exact bind (failsInPlace_attributeValue d _ _ _ _ _).map fun _ => ok _
    · exact ok _
  · split
    · refine bind (failsInPlace_expectLiteral c) ?_
      rintro ⟨⟨s, offset⟩, c⟩
      dsimp only
      split
      · exact bind (failsInPlace_attributeValue d _ _ _ _ _).map fun _ => ok _
      · exact ok _
    · split
      · exact ok _
      · exact failsInPlace_unexpected t
  · exact failsInPlace_unexpected t

theorem failsInPlace_readRules (element : List Char) (fuel : Nat) (d : Doctype) (c : Cursor) :
    FailsInPlace (readRules element fuel d c) := by
  induction fuel generalizing d c with
  | zero => exact place _ _
  | succ fuel ih =>
    unfold readRules
    refine bind (failsInPlace_next c) ?_
    rintro ⟨t, c⟩
    dsimp only
    split
    · exact ok _
    · refine bind (failsInPlace_readAttributeType c) ?_
      rintro ⟨isVerbatim, c⟩
      exact bind (failsInPlace_readDefault d isVerbatim c) fun _ => ih _ _
    · refine bind (failsInPlace_readAttributeType c) ?_
      rintro ⟨isVerbatim, c⟩
      exact bind (failsInPlace_readDefault d isVerbatim c) fun _ => ih _ _
    · exact failsInPlace_unexpected t

theorem failsInPlace_readMixed (fuel : Nat) (c : Cursor) : FailsInPlace (readMixed fuel c) := by
  induction fuel generalizing c with
  | zero => exact place _ _
  | succ fuel ih =>
    unfold readMixed
    refine bind (failsInPlace_next c) ?_
    rintro ⟨t, c⟩
    dsimp only
    split
    · split
      · exact ok _
      · exact failsInPlace_unexpected t
    · refine bind (failsInPlace_next c) ?_
      rintro ⟨t, c⟩
      dsimp only
      split
      · exact ih c
      · exact failsInPlace_unexpected t
    · exact failsInPlace_unexpected t

theorem failsInPlace_readModel (expectsItem : Bool) (fuel : Nat)
    (levels : List (Option PrologToken)) (c : Cursor) :
    FailsInPlace (readModel expectsItem fuel levels c) := by
  induction fuel generalizing expectsItem levels c with
  | zero => exact place _ _
  | succ fuel ih =>
    unfold readModel
    refine bind (failsInPlace_next c) ?_
    rintro ⟨t, c⟩
    dsimp only
    split
    · split
      · exact ih _ _ c
      · exact ih _ _ c
      · split
        · exact ih _ _ c
        · exact failsInPlace_unexpected t
    · split
      · split
        · exact ok _
        · exact ih _ _ c
      · split
        · split
          · exact error (unexpected_isPlaced t)
          · exact ih _ _ c
        · exact ih _ _ c
      · split
        · split
          · exact error (unexpected_isPlaced t)
          · exact ih _ _ c
        · exact ih _ _ c
      · exact failsInPlace_unexpected t

theorem failsInPlace_readElement (c : Cursor) : FailsInPlace (readElement c) := by
  unfold readElement
  refine bind (failsInPlace_expectQName c) ?_
  rintro ⟨_, c⟩
  refine bind (failsInPlace_next c) ?_
  rintro ⟨t, c⟩
  dsimp only
  split
  · split
    · exact failsInPlace_expectClose c
    · exact failsInPlace_unexpected t
  · refine bind (failsInPlace_next c) ?_
    rintro ⟨first, after⟩
    dsimp only
    split
    · refine bind (failsInPlace_next after) ?_
      rintro ⟨t, c⟩
      dsimp only
      split
      · split
        · exact failsInPlace_expectClose c
        · exact failsInPlace_unexpected t
      · exact bind (failsInPlace_readMixed _ after) fun c => failsInPlace_expectClose c
    · exact bind (failsInPlace_readModel _ _ _ c) fun c => failsInPlace_expectClose c
  · exact failsInPlace_unexpected t

theorem failsInPlace_readSubset (fuel : Nat) (d : Doctype) (c : Cursor) :
    FailsInPlace (readSubset fuel d c) := by
  induction fuel generalizing d c with
  | zero => exact place _ _
  | succ fuel ih =>
    unfold readSubset
    refine bind (failsInPlace_next c) ?_
    rintro ⟨t, c⟩
    dsimp only
    split
    · exact ih d c
    · exact ih d c
    · exact ih _ c
    · exact ok _
    · split
      · exact bind (failsInPlace_readEntityDeclaration d c) fun _ => ih _ _
      · refine bind (failsInPlace_expectQName c) ?_
        rintro ⟨element, c⟩
        exact bind (failsInPlace_readRules element _ d c) fun _ => ih _ _
      · exact bind (failsInPlace_readElement c) fun c => ih d c
      · exact bind (failsInPlace_readNotation c) fun c => ih d c
      · exact failsInPlace_unexpected t
    · exact failsInPlace_unexpected t

theorem failsInPlace_readIdentifiers (c : Cursor) : FailsInPlace (readIdentifiers c) := by
  unfold readIdentifiers
  refine bind (failsInPlace_next c) ?_
  rintro ⟨t, c⟩
  dsimp only
  split
  · refine bind (failsInPlace_expectLiteral c) ?_
    rintro ⟨_, c⟩
    exact bind (failsInPlace_next c) fun _ => ok _
  · split
    · refine bind (failsInPlace_expectPublicId c) fun c => ?_
      refine bind (failsInPlace_expectLiteral c) ?_
      rintro ⟨_, c⟩
      exact bind (failsInPlace_next c) fun _ => ok _
    · exact ok _

theorem failsInPlace_read (isStandalone : Bool) (c : Cursor) :
    FailsInPlace (read isStandalone c) := by
  unfold read
  refine bind (failsInPlace_expectQName c) ?_
  rintro ⟨_, c⟩
  refine bind (failsInPlace_readIdentifiers c) ?_
  rintro ⟨⟨isOutside, t⟩, c⟩
  dsimp only
  split
  · exact ok _
  · refine bind (failsInPlace_readSubset _ _ c) ?_
    rintro ⟨d, c⟩
    exact bind (failsInPlace_expectClose c) fun c => ok _
  · exact failsInPlace_unexpected t

end Doctype

namespace Resolving

theorem failsInPlace_addValue (r : Resolving) (home : Nat) (name : QName) (value : List Char) :
    FailsInPlace (r.addValue home name value) := by
  unfold addValue
  dsimp only
  split
  · exact ok _
  · split
    · exact ok _
    · exact place _ _

theorem failsInPlace_addWritten (d : Doctype) (home : Nat) (isDirect : Bool) (element : List Char)
    (r : Resolving) (attributes : List RawAttribute) :
    FailsInPlace (addWritten d home isDirect element r attributes) := by
  induction attributes generalizing r with
  | nil => exact ok r
  | cons a rest ih =>
    unfold addWritten
    dsimp only
    split
    · exact place _ _
    · refine bind (d.failsInPlace_attributeValue _ _ _ _ _) ?_
      rintro ⟨value, added⟩
      exact bind (failsInPlace_addValue _ _ _ _) fun r => ih r

theorem failsInPlace_addDefaults (home : Nat) (r : Resolving) (rules : List AttributeRule) :
    FailsInPlace (addDefaults home r rules) := by
  induction rules generalizing r with
  | nil => exact ok r
  | cons rule rest ih =>
    unfold addDefaults
    split
    · split
      · exact ih r
      · exact bind (failsInPlace_addValue _ _ _ _) fun r => ih r
    · exact ih r

theorem failsInPlace_checkPrefixes (home : Nat) (scope : Scope)
    (met : List (List Char × List Char)) (attributes : List (QName × List Char)) :
    FailsInPlace (checkPrefixes home scope met attributes) := by
  induction attributes generalizing met with
  | nil => exact ok ()
  | cons a rest ih =>
    unfold checkPrefixes
    split
    · exact ih met
    · split
      · exact place _ _
      · split
        · exact place _ _
        · exact ih _

end Resolving

theorem StartTag.failsInPlace_ofRaw (d : Doctype) (home : Nat) (isDirect : Bool) (scope : Scope)
    (added : Nat) (t : RawTag) : FailsInPlace (ofRaw d home isDirect scope added t) := by
  unfold ofRaw
  refine bind (Resolving.failsInPlace_addWritten _ _ _ _ _ _) fun r => ?_
  refine bind (Resolving.failsInPlace_addDefaults _ _ _) fun r => ?_
  refine bind (Resolving.failsInPlace_checkPrefixes _ _ _ _) fun _ => ?_
  dsimp only
  split
  · exact place _ _
  · exact ok _

namespace Content

theorem failsInPlace_scanSection (here? : Option Nat) (offset : Nat) (s : List Char) :
    FailsInPlace (scanSection here? offset s) := by
  fun_induction scanSection here? offset s with
  | case5 => exact ok _
  | case7 _ _ _ _ _ _ _ _ ih => exact map ih
  | _ => exact place _ _

theorem failure_isPlaced (here? : Option Nat) (start : Nat) (s : Stop) :
    (failure here? start s).IsPlaced := by
  cases here? with
  | none => exact s.failure_isPlaced start
  | some home => cases s <;> trivial

theorem failsInPlace_lift {α : Type} (here? : Option Nat) (start : Nat) (x : Except Stop α) :
    FailsInPlace (lift here? start x) := by
  cases x with
  | ok a => exact ok a
  | error s => exact error (failure_isPlaced here? start s)

theorem failsInPlace_readStart (d : Doctype) (here? : Option Nat) (start : Nat) (p : Progress)
    (c : Cursor) : FailsInPlace (readStart d here? start p c) := by
  unfold readStart
  refine bind (failsInPlace_lift _ _ _) ?_
  rintro ⟨raw, c⟩
  exact bind (StartTag.failsInPlace_ofRaw _ _ _ _ _ _) fun _ => ok _

theorem failsInPlace_readStop (here? : Option Nat) (base start : Nat) (p : Progress) (c : Cursor) :
    FailsInPlace (readStop here? base start p c) := by
  unfold readStop
  refine bind (failsInPlace_lift _ _ _) ?_
  rintro ⟨name, after⟩
  dsimp only
  split
  · exact place _ _
  · split
    · exact place _ _
    · exact ok _

theorem failsInPlace_readMarkup (d : Doctype) (here? : Option Nat) (base start : Nat)
    (p : Progress) (c : Cursor) : FailsInPlace (readMarkup d here? base start p c) := by
  unfold readMarkup
  split
  · exact failsInPlace_readStop _ _ _ _ _
  · refine bind (failsInPlace_lift _ _ _) ?_
    rintro ⟨isXml, c⟩
    dsimp only
    split
    · exact place _ _
    · exact ok _
  · dsimp only
    split
    · exact bind (failsInPlace_lift _ _ _) fun _ => ok _
    · split
      · exact bind (failsInPlace_scanSection _ _ _) fun _ => ok _
      · split
        · exact error (failure_isPlaced _ _ _)
        · exact error (failure_isPlaced _ _ _)
    · exact failsInPlace_lift _ _ _
  · exact failsInPlace_readStart _ _ _ _ _

theorem failsInPlace_read (d : Doctype) (base depth fuel : Nat) (here? : Option Nat)
    (opened : List (List Char)) (p : Progress) (c : Cursor) :
    FailsInPlace (read d base depth fuel here? opened p c) := by
  -- The text of an entity is read one level further down, with fuel of its own.
  induction depth using Nat.strongRecOn generalizing base fuel here? opened p c with
  | ind depth hinner =>
    induction fuel generalizing here? opened p c with
    | zero =>
      unfold read
      exact place _ _
    | succ fuel ih =>
      unfold read
      dsimp only
      split
      · split
        · exact place _ _
        · split
          · exact place _ _
          · exact ok _
      · split
        · refine bind (failsInPlace_readMarkup _ _ _ _ _ _) ?_
          rintro ⟨p, c⟩
          dsimp only
          split
          · exact ok _
          · exact ih _ _ _ _
        · split
          · refine bind (failsInPlace_lift _ _ _) ?_
            rintro ⟨r, after⟩
            dsimp only
            split
            · exact place _ _
            · exact ih _ _ _ _
            · split
              · exact ih _ _ _ _
              · split
                · exact place _ _
                · exact error trivial
              · exact error trivial
              · exact place _ _
              · split
                · exact place _ _
                · split
                  · exact place _ _
                  · cases depth with
                    | zero => exact place _ _
                    | succ depth =>
                      refine bind (hinner depth (Nat.lt_succ_self depth) _ _ _ _ _ _) ?_
                      rintro ⟨p, _⟩
                      exact ih _ _ _ _
          · split
            · split
              · exact place _ _
              · exact ih _ _ _ _
            · split
              · split
                · exact place _ _
                · exact ih _ _ _ _
              · split
                · exact failsInPlace_lift _ _ _
                · exact ih _ _ _ _

end Content

theorem failsInPlace_readEnd (fuel : Nat) (c : Cursor) : FailsInPlace (readEnd fuel c) := by
  induction fuel generalizing c with
  | zero => exact ok ()
  | succ fuel ih =>
    unfold readEnd
    refine bind (Placed.failsInPlace_next? c) ?_
    rintro ⟨t, after⟩
    split
    · exact ok ()
    · split
      · exact ih _
      · exact ih _
      · exact place _ _

end Intake.Xml
