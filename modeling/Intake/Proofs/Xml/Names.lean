import Mathlib
import Intake.Xml.Document

namespace Intake.Xml

/-- What a reading gives, if it gives anything, is as stated. -/
def Gives {ε α : Type} (x : Except ε α) (P : α → Prop) : Prop := ∀ a, x = .ok a → P a

namespace Gives

variable {ε α β : Type} {x : Except ε α} {k : α → Except ε β} {P : α → Prop} {Q : β → Prop} {a : α}

theorem ok (h : P a) : Gives (.ok a : Except ε α) P := by
  rintro _ ⟨⟩
  exact h

theorem error (e : ε) : Gives (.error e : Except ε α) P := nofun

theorem bind (hx : Gives x P) (hk : ∀ a, P a → Gives (k a) Q) : Gives (x >>= k) Q := by
  cases x with
  | error e => exact nofun
  | ok a => exact hk a (hx a rfl)

/-- What was read first makes no difference to what is stated. -/
theorem after (hk : ∀ a, Gives (k a) Q) : Gives (x >>= k) Q :=
  bind (P := fun _ => True) (fun _ _ => trivial) fun a _ => hk a

end Gives

open Gives

/-- A text that a name could be: it starts as names do. -/
def StartsAsName (s : List Char) : Prop := ∃ c ∈ s.head?, isNameStart c = true

theorem StartsAsName.ne {s t : List Char} (h : StartsAsName s) (ht : t.head?.any isNameStart = false) :
    s ≠ t := by
  rintro rfl
  obtain ⟨c, hc, hstart⟩ := h
  rw [Option.mem_def.mp hc, Option.any_some, hstart] at ht
  cases ht

theorem gives_refuse {α : Type} {P : α → Prop} (c : Cursor) : Gives (refuse c) P := by
  unfold refuse
  split
  · exact error _
  · split <;> exact error _

theorem gives_refuseText {α : Type} {P : α → Prop} (c : Cursor) : Gives (refuseText c) P := by
  unfold refuseText
  split
  · exact error _
  · exact gives_refuse c

theorem gives_scanName (c : Cursor) : Gives (scanName c) fun r => StartsAsName r.1 := by
  unfold scanName
  split
  · next d rest _ =>
    split
    · next hstart =>
      dsimp only
      split
      · exact error _
      · exact ok ⟨d, rfl, hstart⟩
    · exact gives_refuseText c
  · exact error _

theorem gives_scanQName (c : Cursor) : Gives (scanQName c) fun r => StartsAsName r.1.localName := by
  unfold scanQName
  refine bind (gives_scanName c) ?_
  rintro ⟨first, c⟩ hfirst
  dsimp only
  split
  · refine bind (gives_scanName _) ?_
    rintro ⟨second, c⟩ hsecond
    dsimp only
    split
    · exact error _
    · exact ok hsecond
  · exact ok hfirst

theorem gives_scanStartTag (c : Cursor) :
    Gives (scanStartTag c) fun r => StartsAsName r.1.name.localName := by
  unfold scanStartTag
  refine bind (gives_scanQName c) ?_
  rintro ⟨name, c⟩ hname
  exact after fun _ => ok hname

theorem StartTag.gives_ofRaw (d : Doctype) (home : Nat) (isDirect : Bool) (scope : Scope) (added : Nat)
    {t : RawTag} (ht : StartsAsName t.name.localName) :
    Gives (ofRaw d home isDirect scope added t) fun r => StartsAsName r.1.localName.toList := by
  unfold ofRaw
  refine after fun _ => after fun _ => after fun _ => ?_
  dsimp only
  split
  · exact error _
  · refine ok ?_
    rwa [String.toList_ofList]

/-- Every start tag read so far names its element as names are. -/
def Progress.IsNamed (p : Progress) : Prop :=
  ∀ name attributes, Element.Piece.start name attributes ∈ p.pieces → StartsAsName name.toList

namespace Progress.IsNamed

variable {p : Progress}

theorem addText (h : p.IsNamed) (s : List Char) : (p.addText s).IsNamed := by
  intro name attributes hmem
  rcases List.mem_cons.mp hmem with heq | hmem
  · cases heq
  · exact h name attributes hmem

theorem addStop (h : p.IsNamed) : p.addStop.IsNamed := by
  intro name attributes hmem
  rcases List.mem_cons.mp hmem with heq | hmem
  · cases heq
  · exact h name attributes hmem

theorem addStart (h : p.IsNamed) {t : StartTag} (ht : StartsAsName t.localName.toList) (added : Nat) :
    (p.addStart t added).IsNamed := by
  have hstarted (name : String) (attributes : List (String × String))
      (hmem : Element.Piece.start name attributes ∈
        Element.Piece.start t.localName t.attributes :: p.pieces) : StartsAsName name.toList := by
    rcases List.mem_cons.mp hmem with heq | hmem
    · obtain ⟨rfl, -⟩ := Element.Piece.start.inj heq
      exact ht
    · exact h name attributes hmem
  intro name attributes hmem
  unfold Progress.addStart at hmem
  dsimp only at hmem
  split at hmem
  · rcases List.mem_cons.mp hmem with heq | hmem
    · cases heq
    · exact hstarted name attributes hmem
  · exact hstarted name attributes hmem

end Progress.IsNamed

namespace Content

variable {p : Progress}

theorem gives_lift {α : Type} {x : Except Stop α} {P : α → Prop} (place : Option Nat) (start : Nat)
    (h : Gives x P) : Gives (lift place start x) P := by
  cases x with
  | ok a => exact ok (h a rfl)
  | error e => exact error _

theorem gives_readStart (d : Doctype) (place : Option Nat) (start : Nat) (hp : p.IsNamed) (c : Cursor) :
    Gives (readStart d place start p c) fun r => r.1.IsNamed := by
  unfold readStart
  refine bind (gives_lift place start (gives_scanStartTag c)) ?_
  rintro ⟨raw, c⟩ hraw
  refine bind (StartTag.gives_ofRaw d _ _ _ _ hraw) ?_
  rintro ⟨t, added⟩ ht
  exact ok (hp.addStart ht added)

theorem gives_readStop (place : Option Nat) (base start : Nat) (hp : p.IsNamed) (c : Cursor) :
    Gives (readStop place base start p c) fun r => r.1.IsNamed := by
  unfold readStop
  refine after ?_
  rintro ⟨name, after⟩
  dsimp only
  split
  · exact error _
  · split
    · exact error _
    · exact ok hp.addStop

theorem gives_readMarkup (d : Doctype) (place : Option Nat) (base start : Nat) (hp : p.IsNamed)
    (c : Cursor) : Gives (readMarkup d place base start p c) fun r => r.1.IsNamed := by
  unfold readMarkup
  split
  · exact gives_readStop place base start hp _
  · refine after ?_
    rintro ⟨isXml, c⟩
    dsimp only
    split
    · exact error _
    · exact ok hp
  · dsimp only
    split
    · exact after fun _ => ok hp
    · split
      · exact after fun _ => ok (hp.addText _)
      · split <;> exact error _
    · exact gives_lift place start (gives_refuse _)
  · exact gives_readStart d place start hp c

/-- The content of a document, and what its entities stand for, hold names alone where elements start. -/
theorem gives_read (d : Doctype) (base depth fuel : Nat) (place : Option Nat)
    (opened : List (List Char)) (hp : p.IsNamed) (c : Cursor) :
    Gives (read d base depth fuel place opened p c) fun r => r.1.IsNamed := by
  -- The text of an entity is read one level further down, with fuel of its own.
  induction depth using Nat.strongRecOn generalizing base fuel place opened p c with
  | ind depth hinner =>
    induction fuel generalizing place opened p c with
    | zero =>
      unfold read
      exact error _
    | succ fuel ih =>
      unfold read
      dsimp only
      split
      · split
        · exact error _
        · split
          · exact error _
          · exact ok hp
      · split
        · refine bind (gives_readMarkup d place base _ hp _) ?_
          rintro ⟨p, c⟩ hp
          dsimp only
          split
          · exact ok hp
          · exact ih _ _ hp _
        · split
          · refine after ?_
            rintro ⟨r, after⟩
            dsimp only
            split
            · exact error _
            · exact ih _ _ (hp.addText _) _
            · split
              · exact ih _ _ (hp.addText _) _
              · split <;> exact error _
              · exact error _
              · exact error _
              · split
                · exact error _
                · split
                  · exact error _
                  · cases depth with
                    | zero => exact error _
                    | succ depth =>
                      refine bind (hinner depth (Nat.lt_succ_self depth) _ _ _ _ ?_ _) ?_
                      · exact hp
                      · rintro ⟨p, _⟩ hp
                        exact ih _ _ hp _
          · split
            · split
              · exact error _
              · exact ih _ _ (hp.addText _) _
            · split
              · split
                · exact error _
                · exact ih _ _ (hp.addText _) _
              · split
                · exact gives_lift _ _ (gives_refuseText _)
                · exact ih _ _ (hp.addText _) _

end Content

namespace Element

/-- The element and all elements inside it are named as names are. -/
inductive IsNamed : Element → Prop where
  | mk {name text : String} {attributes : List (String × String)} {children : List (Element × String)}
      (hname : StartsAsName name.toList) (hchildren : ∀ child ∈ children, IsNamed child.1) :
      IsNamed (.mk name attributes text children)

/-- An element that is being read has a name, and so have its children. -/
structure Open.IsNamed (o : Open) : Prop where
  name : StartsAsName o.name.toList
  children : ∀ child ∈ o.children, child.1.IsNamed

variable {o p : Open} {opened : List Open} {pieces : List Piece} {e : Element}

theorem Open.IsNamed.addText (h : o.IsNamed) (s : List Char) : (o.addText s).IsNamed := by
  obtain ⟨name, attributes, text, children⟩ := o
  cases children with
  | nil => exact ⟨h.name, h.children⟩
  | cons last rest =>
    obtain ⟨hlast, hrest⟩ := List.forall_mem_cons.mp h.children
    exact ⟨h.name, List.forall_mem_cons.mpr ⟨hlast, hrest⟩⟩

theorem Open.IsNamed.close (h : o.IsNamed) : o.close.IsNamed :=
  .mk h.name fun child hchild => h.children child (List.mem_reverse.mp hchild)

theorem Open.IsNamed.addChild (hp : p.IsNamed) (ho : o.IsNamed) :
    ({ p with children := (o.close, "") :: p.children } : Open).IsNamed :=
  ⟨hp.name, List.forall_mem_cons.mpr ⟨ho.close, hp.children⟩⟩

/-- Pieces that start elements with names make an element of names. -/
theorem isNamed_of_ofPieces (hopened : ∀ o ∈ opened, o.IsNamed)
    (hpieces : ∀ name attributes, Piece.start name attributes ∈ pieces → StartsAsName name.toList)
    (h : ofPieces opened pieces = some e) : e.IsNamed := by
  fun_induction ofPieces opened pieces with
  | case1 => cases h
  | case2 opened name attributes rest ih =>
    have hname := hpieces name attributes List.mem_cons_self
    have hrest := fun name attributes hmem => hpieces name attributes (List.mem_cons_of_mem _ hmem)
    exact ih (List.forall_mem_cons.mpr ⟨⟨hname, List.forall_mem_nil _⟩, hopened⟩) hrest h
  | case3 => cases h
  | case4 o outer s rest ih =>
    obtain ⟨ho, houter⟩ := List.forall_mem_cons.mp hopened
    have hrest := fun name attributes hmem => hpieces name attributes (List.mem_cons_of_mem _ hmem)
    exact ih (List.forall_mem_cons.mpr ⟨ho.addText s, houter⟩) hrest h
  | case5 o =>
    obtain rfl := Option.some.inj h
    exact (hopened o List.mem_cons_self).close
  | case6 o p outer rest ih =>
    obtain ⟨ho, hmore⟩ := List.forall_mem_cons.mp hopened
    obtain ⟨hp, houter⟩ := List.forall_mem_cons.mp hmore
    have hrest := fun name attributes hmem => hpieces name attributes (List.mem_cons_of_mem _ hmem)
    exact ih (List.forall_mem_cons.mpr ⟨hp.addChild ho, houter⟩) hrest h

end Element

/-- In an element that is read from a document every element is named as names are. -/
theorem isNamed_of_readDocument {data : List UInt8} {e : Element}
    (h : (readDocument data).result = .ok e) : e.IsNamed := by
  suffices hgives : Gives (readDocument data).result Element.IsNamed from hgives e h
  unfold readDocument
  dsimp only
  split
  · exact error _
  · refine after fun c => ?_
    have hstart : (⟨[], [], 0⟩ : Progress).IsNamed := nofun
    refine bind (Content.gives_read _ 0 _ _ none [] hstart c) ?_
    rintro ⟨p, c⟩ hp
    refine after fun _ => ?_
    split
    · next e hpieces =>
      refine ok (Element.isNamed_of_ofPieces (List.forall_mem_nil _) ?_ hpieces)
      exact fun name attributes hmem => hp name attributes (List.mem_reverse.mp hmem)
    · exact error _

end Intake.Xml
