import Intake.Proofs.Schema.Coherence

namespace Intake

/-- The fault in place of a result, if there is one. -/
def Fault.ofResult {α : Type} : Except Fault α → Option Fault
  | .error fault => some fault
  | .ok _ => none

namespace Builder

/-- The builder with another source for fields that name none. -/
def withSource (b : Builder) (s : Source) : Builder := { b with source := s }

/-- The fault of a declaration in a block, if it fails. -/
def faultIn (b : Builder) (k : Block) (d : FieldDecl) : Option Fault :=
  Fault.ofResult
    ((b.withSource k.source).declare (b.hasField d.name || k.fields.any (·.name = d.name)) d).2

end Builder

/-- A call that declares no field. -/
inductive Call.DeclaresNone : Call → Prop where
  | rule (spec : ValidatorSpec) : DeclaresNone (.rule spec)
  | contentType (types : List String) : DeclaresNone (.contentType types)
  | validatesTo (success : String) (failure : Option String) :
      DeclaresNone (.validatesTo success failure)
  | unknownFields (policy : Value) : DeclaresNone (.unknownFields policy)

/-- A statement of a program that makes a schema: a declaration, another call, a block for a source or a
group with statements in it, a declaration in the group of one of the blocks around it, innermost first,
a fault, and statements with others that are run once one of them fails. -/
inductive Statement where
  | field (d : FieldDecl)
  | nested (d : FieldDecl) (many : Bool) (child : Child)
  | other (c : Call) (h : c.DeclaresNone)
  | block (source : Value) (body : List Statement)
  | group (trigger : String) (value : Option Value) (body : List Statement)
  | member (i : Nat) (d : FieldDecl)
  | raise (fault : Fault)
  | attempt (body rescue : List Statement)

namespace Session

/-- A session after a call, and the fault of the call if it fails. -/
def perform (s : Session) (c : Call) : Session × Option Fault :=
  (step (.call c) s, (c.run s.builder).2)

/-- A session after a declaration in a block, and the fault if it fails. -/
def declare (s : Session) (i : Nat) (d : FieldDecl) : Session × Option Fault :=
  (step (.declare i d) s, s.blocks[i]?.bind fun k => s.builder.faultIn k d)

end Session

namespace Statement

open Session (step)

mutual

/-- A session after a statement, and the fault that leads out of it if there is one. -/
def run : Statement → Session → Session × Option Fault
  | .field d, s => s.perform (.field d)
  | .nested d many child, s => s.perform (.nested d many child)
  | .other c _, s => s.perform c
  | .block source body, s =>
    match Source.ofValue? source with
    | .error fault => (s, some fault)
    | .ok inner =>
      let (s', fault) := runAll body (step (.turn inner) s)
      (step (.turn s.builder.source) s', fault)
  | .group trigger value body, s =>
    match runAll body (step (.enter trigger value) s) with
    | (s', none) => (step (.finish 0) s', none)
    | (s', some fault) => (step (.abandon 0) s', some fault)
  | .member i d, s => s.declare i d
  | .raise fault, s => (s, some fault)
  | .attempt body rescue, s =>
    match runAll body s with
    | (s', none) => (s', none)
    | (s', some _) => runAll rescue s'

/-- Statements in order, up to the first that fails. -/
def runAll : List Statement → Session → Session × Option Fault
  | [], s => (s, none)
  | x :: xs, s =>
    match run x s with
    | (s', some fault) => (s', some fault)
    | (s', none) => runAll xs s'

end

theorem runAll_append (xs ys : List Statement) (s : Session) : runAll (xs ++ ys) s =
    match runAll xs s with
    | (s', some fault) => (s', some fault)
    | (s', none) => runAll ys s' := by
  induction xs generalizing s with
  | nil => rfl
  | cons x xs ih =>
    rw [List.cons_append, runAll, runAll]
    rcases x.run s with ⟨s', _ | fault⟩
    · exact ih s'
    · rfl

theorem runAll_singleton (x : Statement) (s : Session) : runAll [x] s = x.run s := by
  rw [runAll]
  rcases x.run s with ⟨s', _ | fault⟩ <;> rfl

mutual

/-- A call as a statement. A call for a group is a block with its declarations in it. -/
def ofCall : Call → Statement
  | .field d => .field d
  | .nested d many child => .nested d many child
  | .group trigger value ds => .group trigger value (ds.map (.member 0))
  | .block source calls => .block source (ofCalls calls)
  | .rule spec => .other (.rule spec) (.rule spec)
  | .contentType types => .other (.contentType types) (.contentType types)
  | .validatesTo success failure => .other (.validatesTo success failure) (.validatesTo success failure)
  | .unknownFields policy => .other (.unknownFields policy) (.unknownFields policy)

def ofCalls : List Call → List Statement
  | [] => []
  | c :: cs => ofCall c :: ofCalls cs

end

section Members

variable {b b' : Builder} {k : Block} {d : FieldDecl} {fault : Fault}

theorem declareIn_of_fault (hs : k.source = b.source)
    (h : b.declare (b.hasField d.name || k.fields.any (·.name = d.name)) d = (b', .error fault)) :
    b.declareIn k d = (b', k) := by
  obtain ⟨es, hes⟩ := Builder.declare_eq_withEvents b
    (b.hasField d.name || k.fields.any (·.name = d.name)) d
  rw [h] at hes
  obtain rfl : b' = b.withEvents es := hes
  have hsame : ({ b with source := k.source } : Builder) = b := by rw [hs]
  rw [Builder.declareIn, hsame, h]
  rfl

theorem faultIn_of_declare {result : Except Fault Field} (hs : k.source = b.source)
    (h : b.declare (b.hasField d.name || k.fields.any (·.name = d.name)) d = (b', result)) :
    b.faultIn k d = Fault.ofResult result := by
  have hsame : b.withSource k.source = b := by rw [hs]; rfl
  rw [Builder.faultIn, hsame, h]

/-- Declarations in the innermost group are those of a call for a group, up to the first that fails. -/
theorem runAll_members (ds : List FieldDecl) (ks : List Block) (hs : k.source = b.source) :
    ∃ fs, runAll (ds.map (.member 0)) ⟨b, k :: ks⟩ =
        (⟨(b.groupFields k.fields ds).1, { k with fields := fs } :: ks⟩,
          Fault.ofResult (b.groupFields k.fields ds).2) ∧
      ∀ gs, (b.groupFields k.fields ds).2 = .ok gs → fs = gs := by
  induction ds generalizing b k with
  | nil => exact ⟨k.fields, rfl, fun gs hgs => Except.ok.inj hgs⟩
  | cons d ds ih =>
    have hdeclare : (Session.mk b (k :: ks)).declare 0 d =
        (⟨(b.declareIn k d).1, (b.declareIn k d).2 :: ks⟩, b.faultIn k d) := rfl
    rw [List.map_cons, runAll, run, hdeclare, Builder.groupFields]
    rcases hdecl : b.declare (b.hasField d.name || k.fields.any (·.name = d.name)) d with ⟨b', fault | f⟩
    · rw [declareIn_of_fault hs hdecl, faultIn_of_declare hs hdecl]
      refine ⟨k.fields, rfl, fun gs hgs => ?_⟩
      cases hgs
    · rw [Session.declareIn_of_declare hs hdecl, faultIn_of_declare hs hdecl]
      have hsource : b'.source = b.source := by
        obtain ⟨es, hes⟩ := Builder.declare_eq_withEvents b
          (b.hasField d.name || k.fields.any (·.name = d.name)) d
        rw [hdecl] at hes
        obtain rfl : b' = b.withEvents es := hes
        rfl
      exact ih (k := { k with fields := k.fields ++ [f] }) (hs.trans hsource.symm)

end Members

theorem run_group_members (trigger : String) (value : Option Value) (ds : List FieldDecl)
    (s : Session) : (Statement.group trigger value (ds.map (.member 0))).run s =
      s.perform (.group trigger value ds) := by
  obtain ⟨fs, hrun, hfs⟩ := runAll_members (b := s.builder) (k := ⟨trigger, value, s.builder.source, []⟩)
    ds s.blocks rfl
  have henter : step (.enter trigger value) s =
      ⟨s.builder, ⟨trigger, value, s.builder.source, []⟩ :: s.blocks⟩ := rfl
  rw [run, henter, hrun, Session.perform, Session.step, Call.run, Builder.addGroup]
  rcases hgroup : s.builder.groupFields [] ds with ⟨b', fault | gs⟩
  · rfl
  · obtain rfl := hfs gs (congrArg Prod.snd hgroup)
    rfl

mutual

/-- A call does what it does as a statement. -/
theorem run_ofCall (c : Call) (s : Session) : (ofCall c).run s = s.perform c := by
  cases c with
  | group trigger value ds => exact run_group_members trigger value ds s
  | block source calls =>
    rw [ofCall, run, Session.perform, Session.step, Call.run]
    cases Source.ofValue? source with
    | error fault => rfl
    | ok inner =>
      dsimp only
      rw [runAll_ofCalls calls]
      rfl
  | field d => rfl
  | nested d many child => rfl
  | rule spec => rfl
  | contentType types => rfl
  | validatesTo success failure => rfl
  | unknownFields policy => rfl

theorem runAll_ofCalls (cs : List Call) (s : Session) : runAll (ofCalls cs) s =
    (⟨(Call.runAll cs s.builder).1, s.blocks⟩, (Call.runAll cs s.builder).2) := by
  cases cs with
  | nil => rfl
  | cons c cs =>
    rw [ofCalls, runAll, run_ofCall c s, Session.perform, Session.step, Call.runAll]
    rcases c.run s.builder with ⟨b, _ | fault⟩
    · exact runAll_ofCalls cs ⟨b, s.blocks⟩
    · rfl

end

end Statement

end Intake
