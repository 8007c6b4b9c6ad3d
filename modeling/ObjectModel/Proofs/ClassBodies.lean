import ObjectModel.Instantiation
import ObjectModel.Proofs.ClosedDefinitions

/-!
# Class bodies

What is done with a builder: it is given the name of a parent, tables of members and declarations,
and it is finalized, at the end or together with its declarations. Once it is finalized, be it that
the class was registered or that this failed, all of these are refused, and nothing else changes its
definition any more but for the values of static members.
-/

namespace ObjectModel

/-- What is done with a builder. -/
inductive BodyOp where
  | extend (name : Value)
  | members (part : Section) (t : Table Key Value)
  | apply (ds : List (Ref .declaration))
  | finalize
  | build (ds : List (Ref .declaration))
  deriving DecidableEq

namespace BodyOp

variable {σ : Type}

/-- Apply items one after the other, until one of them is refused. -/
def applyAll (b : Ref .builder) : List (Ref .declaration) → Program σ Unit
  | [] => return ()
  | d :: ds => do
    applyDeclaration b d
    applyAll b ds

def program (client : Client (Program σ)) (b : Ref .builder) : BodyOp → Program σ Unit
  | .extend name => ask (.setParent b name)
  | .members part t => ask (.addMembers b part t)
  | .apply ds => applyAll b ds
  | .finalize => do let _ ← client.finalize b
  | .build ds => do
    applyAll b ds
    let _ ← client.finalize b

end BodyOp

/-- What an item makes of the definition to which it is applied. -/
def Declaration.edit (callable : Value → Bool) : Declaration → Definition → Except Fault Definition
  | .parent name, r => .ok { r with parent := name }
  | .members part t, r => do
    part.check callable t
    return r.extend part t

namespace World

variable {σ : Type} {w : World σ} {b : Ref .builder}

/-- Apply an item to a builder. -/
def applyItem (w : World σ) (b : Ref .builder) (d : Declaration) : Except Fault Unit × World σ :=
  w.guarded (w.heap.builders.contains b)
    (w.update (w.heap.editOpen b (d.edit w.heap.callable)))

theorem setParent_eq_applyItem (w : World σ) (b : Ref .builder) (name : Value) :
    w.perform (.setParent b name) = w.applyItem b (.parent name) := rfl

theorem addMembers_eq_applyItem (w : World σ) (b : Ref .builder) (part : Section)
    (t : Table Key Value) :
    w.perform (.addMembers b part t) = w.applyItem b (.members part t) := rfl

theorem run_applyDeclaration (w : World σ) (b : Ref .builder) (d : Ref .declaration) :
    (applyDeclaration b d : Program σ Unit).run w =
      w.applyItem b (w.heap.declarations.get d) := by
  rw [applyDeclaration, Program.run_look_bind]
  cases w.heap.declarations.get d with
  | parent name => exact Program.run_ask _ _
  | members part t => exact Program.run_ask _ _

/-- The fault of doing something with a builder that is finalized. -/
def refusal (w : World σ) (b : Ref .builder) : Fault :=
  .alreadyFinalized (w.heap.definition (w.heap.builderDefinition b)).name

section Finalized

variable (made : w.heap.builders.contains b = true) (finalized : w.heap.finalized b = true)

include made finalized

theorem applyItem_of_finalized (d : Declaration) :
    w.applyItem b d = (.error (w.refusal b), w) := by
  rw [applyItem, made, Heap.editOpen, finalized]
  rfl

theorem perform_closeBuilder_of_finalized :
    w.perform (.closeBuilder b) = (.error (w.refusal b), w) := by
  have closed : (w.heap.builders.get b).finalized = true := finalized
  rw [perform, made, Heap.closeBuilder, closed]
  rfl

/-- A builder that is finalized refuses everything, unless nothing is applied to it. -/
theorem run_bodyOp_of_finalized (client : Client (Program σ)) {op : BodyOp} (nonempty : op ≠ .apply []) :
    (op.program client b).run w = (.error (w.refusal b), w) := by
  have item (d : Ref .declaration) (ds : List (Ref .declaration)) :
      (BodyOp.applyAll b (d :: ds)).run w = (.error (w.refusal b), w) := by
    refine Program.run_bind_of_error ?_
    rw [run_applyDeclaration, applyItem_of_finalized made finalized]
  have close : (client.finalize b).run w = (.error (w.refusal b), w) := by
    refine Program.run_bind_of_error ?_
    rw [Program.run_ask, perform_closeBuilder_of_finalized made finalized]
  cases op with
  | extend name =>
    rw [BodyOp.program, Program.run_ask, setParent_eq_applyItem, applyItem_of_finalized made finalized]
  | members part t =>
    rw [BodyOp.program, Program.run_ask, addMembers_eq_applyItem, applyItem_of_finalized made finalized]
  | finalize => exact Program.run_bind_of_error close
  | apply ds =>
    cases ds with
    | nil => exact absurd rfl nonempty
    | cons d ds => exact item d ds
  | build ds =>
    cases ds with
    | nil =>
      change (client.finalize b >>= fun _ => pure ()).run w = _
      exact Program.run_bind_of_error close
    | cons d ds => exact Program.run_bind_of_error (item d ds)

end Finalized

/-- After an attempt to close a builder it is closed, and its definition is what it was. -/
theorem finalized_closeBuilder (made : w.heap.builders.contains b = true) :
    (w.perform (.closeBuilder b)).2.heap.finalized b = true ∧
      (w.perform (.closeBuilder b)).2.heap.definitions = w.heap.definitions := by
  cases finalized : w.heap.finalized b with
  | true =>
    rw [perform_closeBuilder_of_finalized made finalized]
    exact ⟨finalized, rfl⟩
  | false =>
    rw [perform_closeBuilder_of_open made finalized]
    exact ⟨congrArg Builder.finalized (Heap.builder_withClosed made), rfl⟩

end World

/-- From the moment at which a builder is finalized, whether this then returns or fails, nothing that
is done changes more of its definition than the values of static members, and the builder refuses
everything that is done with it. -/
theorem finalized_definition_frozen {σ : Type} {w : World σ} (reachable : w.Reachable)
    {b : Ref .builder} (made : w.heap.builders.contains b = true) :
    (∀ client : Client (Program σ),
      World.Reaches (w.perform (.closeBuilder b)).2 ((client.finalize b).run w).2) ∧
    ∀ w', World.Reaches (w.perform (.closeBuilder b)).2 w' →
      w'.heap.builderDefinition b = w.heap.builderDefinition b ∧
      (w.heap.definition (w.heap.builderDefinition b)).SameBody
        (w'.heap.definition (w.heap.builderDefinition b)) ∧
      ∀ (client : Client (Program σ)) (op : BodyOp), op ≠ .apply [] →
        ∃ e, e.kind = .definitionError ∧ (op.program client b).run w' = (.error e, w') := by
  constructor
  · intro client
    rw [Client.finalize, Program.run_bind, Program.run_ask]
    split
    · rename_i run
      rw [run]
      exact Program.run_reaches _ _
    · rename_i run
      rw [run]
      exact .refl _
  · intro w' later
    have closing := World.Reaches.perform w (.closeBuilder b)
    obtain ⟨finalized, definitions⟩ := World.finalized_closeBuilder made
    have made₁ := (closing.extends.builders b made).1
    have owns₁ := closing.extends.builderDefinition_eq made
    have built₁ := (reachable.after closing).built
    have closed₁ := built₁.closed_of_finalized made₁ finalized
    obtain ⟨closed, body⟩ := later.sameBody closed₁ (built₁.owned b made₁)
    have owns := later.extends.builderDefinition_eq made₁
    have made' := (later.extends.builders b made₁).1
    refine ⟨owns.trans owns₁, ?_, fun client op nonempty => ?_⟩
    · rw [owns₁, Heap.definition, definitions] at body
      exact body
    · exact ⟨w'.refusal b, rfl,
        World.run_bodyOp_of_finalized made' (closed b made' owns) client nonempty⟩

namespace Program

/-- A class body with a static member. -/
def counterWorld : World Unit :=
  (World.initial ()).after [
    .openBuilder Heap.defaultCatalog (.text "Counter"),
    .addMembers ⟨0⟩ .statics (.ofList [(.text "count", .int 0)])]

/-- The class is made, and its static member is written. A parent comes too late. -/
def counterUsedWorld : World Unit :=
  (counterWorld.perform (.closeBuilder ⟨0⟩)).2.after [
    .register Heap.defaultCatalog ⟨0⟩,
    .newLayer ⟨0⟩ none,
    .writePrivate ⟨0⟩ "count" (.int 5),
    .setParent ⟨0⟩ (.text "Base")]

end Program

theorem finalized_definition_frozen_counter :
    Program.counterWorld.Reachable ∧ Program.counterWorld.heap.builders.contains ⟨0⟩ = true ∧
    (Program.counterUsedWorld.heap.definition ⟨0⟩).statics = .ofList [(.text "count", .int 5)] ∧
    (Program.counterWorld.heap.definition ⟨0⟩).SameBody
      (Program.counterUsedWorld.heap.definition ⟨0⟩) ∧
    ∀ client : Client (Program Unit), ∃ e, e.kind = .definitionError ∧
      (BodyOp.program client ⟨0⟩ (.build [])).run Program.counterUsedWorld =
        (.error e, Program.counterUsedWorld) := by
  have reachable : Program.counterWorld.Reachable := World.reachable_after _ _
  have made : Program.counterWorld.heap.builders.contains ⟨0⟩ = true := by rfl
  obtain ⟨-, body, refused⟩ := (finalized_definition_frozen reachable made).2
    Program.counterUsedWorld (World.reaches_after _ _)
  exact ⟨reachable, made, by rfl, body, fun client => refused client _ nofun⟩

end ObjectModel
