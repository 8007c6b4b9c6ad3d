import ObjectModel.Proofs.PublicDispatch

/-!
# Fields cannot be told apart from outside

What is stored in the private states neither influences nor is influenced by anything that is done
from outside without calling a method. Two worlds that differ in such fields only therefore answer
every sequence of operations from outside alike, however the classes, the keys written from outside
and the settings may be. The read of a public name does end in the function that reads from inside,
but never as far down as the fields, since it is asked for declared names only.
-/

namespace ObjectModel

namespace Heap

/-- Two heaps that can differ in the fields of private states only. -/
structure SameOutside (h h' : Heap) : Prop where
  catalogs : h'.catalogs = h.catalogs
  builders : h'.builders = h.builders
  definitions : h'.definitions = h.definitions
  declarations : h'.declarations = h.declarations
  classes : h'.classes = h.classes
  facades : h'.facades = h.facades
  present : ∀ s, h'.states.contains s = h.states.contains s
  stateClass : ∀ s, h'.stateClass s = h.stateClass s
  parentState : ∀ s, h'.parentState s = h.parentState s

variable {h h' : Heap}

namespace SameOutside

variable (same : h.SameOutside h')

include same

theorem classDefinition (c : Ref .cls) : h'.classDefinition c = h.classDefinition c := by
  simp only [Heap.classDefinition, definition, same.classes, same.definitions]

theorem facadeState (f : Ref .facade) : h'.facadeState f = h.facadeState f := by
  simp only [Heap.facadeState, same.facades]

theorem external (f : Ref .facade) : h'.external f = h.external f := by
  simp only [Heap.external, same.facades]

theorem parentFacade : h'.parentFacade = h.parentFacade := by
  funext f
  simp only [Heap.parentFacade, same.facades]

theorem facadeLayers (f : Ref .facade) : h'.facadeLayers f = h.facadeLayers f := by
  simp only [Heap.facadeLayers, same.parentFacade]

theorem facadeClass (f : Ref .facade) : h'.facadeClass f = h.facadeClass f := by
  simp only [Heap.facadeClass, same.facades, same.stateClass]

theorem facadeDefinition (f : Ref .facade) : h'.facadeDefinition f = h.facadeDefinition f := by
  simp only [Heap.facadeDefinition, same.facadeClass, same.classDefinition]

theorem hookOf? (f : Ref .facade) (name : String) :
    h'.hookOf? (.facade f) name = h.hookOf? (.facade f) name := by
  simp only [Heap.hookOf?, instanceClass?, hook?, same.facadeClass, same.classes]

theorem dispatch (key : String) (levels : List (Ref .facade)) :
    h'.dispatch key levels = h.dispatch key levels := by
  have public_ : h'.declaresPublic key = h.declaresPublic key := by
    funext f
    simp only [declaresPublic, same.facadeDefinition]
  have knows : h'.answers key = h.answers key := by
    funext f
    simp only [answers, public_, same.external, same.facadeDefinition]
  have answer (f : Ref .facade) : h'.levelAnswer key f = h.levelAnswer key f := by
    simp only [levelAnswer, same.external, same.facadeDefinition, same.facadeState]
  simp only [Heap.dispatch, public_, knows, answer]

theorem readPublic (f : Ref .facade) (key : String) : h'.readPublic f key = h.readPublic f key := by
  simp only [Heap.readPublic, same.facadeLayers, readLevels_eq_dispatch, same.dispatch]

theorem readClass (c : Ref .cls) (key : String) : h'.readClass c key = h.readClass c key := by
  simp only [Heap.readClass, classAttribute?, className, same.classDefinition, same.classes]

theorem publicWrite (f : Ref .facade) (key : String) :
    h'.publicWrite f key = h.publicWrite f key := by
  simp only [Heap.publicWrite, same.external, same.facadeDefinition]

theorem setStatic (d : Ref .definition) (key : String) (v : Value) :
    (h.setStatic d key v).SameOutside (h'.setStatic d key v) :=
  { same with definitions := by simp only [Heap.setStatic, same.definitions] }

theorem setExternal (f : Ref .facade) (t : Table String Value) :
    (h.setExternal f t).SameOutside (h'.setExternal f t) :=
  { same with facades := by simp only [Heap.setExternal, same.facades] }

end SameOutside

/-- Storing other fields is one way to get a heap that is the same from outside. -/
theorem sameOutside_setFields (h : Heap) (s : Ref .state) (t : Table String Value) :
    h.SameOutside (h.setFields s t) where
  catalogs := rfl
  builders := rfl
  definitions := rfl
  declarations := rfl
  classes := rfl
  facades := rfl
  present _ := Store.contains_modify _ _ _ _
  stateClass s' := stateClass_setFields h s s' t
  parentState s' := parentState_setFields h s s' t

end Heap

/-- Two worlds that a client outside of all instances cannot tell apart. What was logged and printed
before, and the client's own storage, do not matter. -/
structure World.SameOutside {σ : Type} (w w' : World σ) : Prop where
  heap : w.heap.SameOutside w'.heap
  settings : w'.settings = w.settings

/-- Two runs give the same, log the same, keep the worlds alike from outside and store nothing in
any private state. -/
structure Agree {σ ρ : Type} (w w' : World σ) (o o' : Except Fault ρ × World σ) : Prop where
  result : o'.1 = o.1
  same : o.2.SameOutside o'.2
  log : ∃ rs, o.2.log = w.log ++ rs ∧ o'.2.log = w'.log ++ rs
  states : o.2.heap.states = w.heap.states
  states' : o'.2.heap.states = w'.heap.states

section Agreement

variable {σ α β : Type} {w w' : World σ}

theorem agree_unchanged (same : w.SameOutside w') (r : Except Fault α) :
    Agree w w' (r, w) (r, w') :=
  ⟨rfl, same, ⟨#[], by simp, by simp⟩, rfl, rfl⟩

/-- Two runs that agree, one after the other. -/
theorem Agree.trans {o o' : Except Fault α × World σ} {q q' : Except Fault β × World σ}
    (first : Agree w w' o o') (next : Agree o.2 o'.2 q q') : Agree w w' q q' := by
  obtain ⟨rs, log, log'⟩ := first.log
  obtain ⟨rs', more, more'⟩ := next.log
  refine ⟨next.result, next.same, ⟨rs ++ rs', ?_, ?_⟩, next.states.trans first.states,
    next.states'.trans first.states'⟩
  · rw [more, log, Array.append_assoc]
  · rw [more', log', Array.append_assoc]

end Agreement

namespace Program

variable {σ α β : Type} {w w' : World σ}

/-- A program whose runs agree in worlds that are alike from outside. -/
def Unaffected (p : Program σ α) : Prop :=
  ∀ w w' : World σ, w.SameOutside w' → Agree w w' (p.run w) (p.run w')

theorem unaffected_pure (a : α) : Unaffected (pure a : Program σ α) :=
  fun _ _ same => agree_unchanged same (.ok a)

theorem unaffected_throw (f : Fault) : Unaffected (throw f : Program σ α) :=
  fun _ _ same => agree_unchanged same (.error f)

theorem unaffected_settle (r : Except Fault α) : Unaffected (settle r : Program σ α) := by
  cases r with
  | ok a => exact unaffected_pure a
  | error f => exact unaffected_throw f

theorem Unaffected.bind {p : Program σ α} {k : α → Program σ β} (hp : p.Unaffected)
    (hk : ∀ a, (k a).Unaffected) : (p >>= k).Unaffected := by
  intro w w' same
  have first := hp w w' same
  rw [run_bind, run_bind]
  generalize p.run w = o at first ⊢
  generalize p.run w' = o' at first ⊢
  obtain ⟨r, v⟩ := o
  obtain ⟨r', v'⟩ := o'
  obtain rfl : r' = r := first.result
  cases r' with
  | error f => exact first.trans (agree_unchanged first.same _)
  | ok a => exact first.trans (hk a v v' first.same)

theorem Unaffected.tryCatch {p : Program σ α} {handler : Fault → Program σ α} (hp : p.Unaffected)
    (hh : ∀ f, (handler f).Unaffected) : (tryCatch p handler).Unaffected := by
  intro w w' same
  have first := hp w w' same
  rw [run_tryCatch, run_tryCatch]
  generalize p.run w = o at first ⊢
  generalize p.run w' = o' at first ⊢
  obtain ⟨r, v⟩ := o
  obtain ⟨r', v'⟩ := o'
  obtain rfl : r' = r := first.result
  cases r' with
  | error f => exact first.trans (hh f v v' first.same)
  | ok a => exact first

/-- A look at the heap does no harm if what follows does not depend on the fields in it. -/
theorem unaffected_look {k : Heap → Program σ β} (hk : ∀ h, (k h).Unaffected)
    (blind : ∀ h h' : Heap, h.SameOutside h' → k h' = k h) : (look >>= k).Unaffected := by
  intro w w' same
  rw [run_look_bind, run_look_bind, blind _ _ same.heap]
  exact hk _ w w' same

theorem unaffected_ask {a : Action σ}
    (h : ∀ w w' : World σ, w.SameOutside w' → Agree w w' (w.perform a) (w'.perform a)) :
    Unaffected (ask a : Program σ a.Result) := by
  intro w w' same
  rw [run_ask, run_ask]
  exact h w w' same

end Program

namespace World.SameOutside

variable {σ : Type} {w w' : World σ} (same : w.SameOutside w')

include same

/-- A new heap with the old private states. -/
theorem agree_setHeap {h h' : Heap} (heap : h.SameOutside h') (states : h.states = w.heap.states)
    (states' : h'.states = w'.heap.states) {ρ : Type} (r : Except Fault ρ) :
    Agree w w' (r, w.setHeap h) (r, w'.setHeap h') :=
  ⟨rfl, ⟨heap, same.settings⟩, ⟨#[], by simp [World.setHeap], by simp [World.setHeap]⟩, states,
    states'⟩

theorem agree_addLog {ρ : Type} (r : Except Fault ρ) (record : LogRecord) :
    Agree w w' (r, w.addLog record) (r, w'.addLog record) :=
  ⟨rfl, ⟨same.heap, same.settings⟩, ⟨#[record], by simp [addLog], by simp [addLog]⟩, rfl, rfl⟩

theorem agree_warn {ρ : Type} (r : Except Fault ρ) (message : String) :
    Agree w w' (r, w.warn message) (r, w'.warn message) := by
  simp only [warn, same.settings]
  split
  · exact same.agree_addLog r _
  · exact agree_unchanged same r

theorem agree_guarded {ρ : Type} {ok : Bool} {o o' : Except Fault ρ × World σ}
    (h : Agree w w' o o') : Agree w w' (w.guarded ok o) (w'.guarded ok o') := by
  cases ok with
  | true => exact h
  | false => exact agree_unchanged same _

theorem agree_writePublic (f : Ref .facade) (key : String) (v : Value) :
    Agree w w' (w.perform (.writePublic f key v)) (w'.perform (.writePublic f key v)) := by
  simp only [perform, same.heap.facades]
  refine same.agree_guarded ?_
  simp only [writePublic, same.heap.publicWrite, same.heap.facadeClass, same.heap.classes,
    same.settings, same.heap.facadeDefinition, Heap.addExternal, same.heap.external]
  cases w.heap.publicWrite f key with
  | overwrite => exact same.agree_setHeap (same.heap.setExternal f _) rfl rfl _
  | static => exact same.agree_setHeap (same.heap.setStatic _ key v) rfl rfl _
  | unknown =>
    dsimp only
    split
    · have stored := same.agree_setHeap (same.heap.setExternal f ((w.heap.external f).insert key v))
        rfl rfl (.ok () : Except Fault Unit)
      exact stored.trans (stored.same.agree_warn _ _)
    · exact same.agree_addLog _ _

theorem agree_deletePublic (f : Ref .facade) (key : String) :
    Agree w w' (w.perform (.deletePublic f key)) (w'.perform (.deletePublic f key)) := by
  simp only [perform, same.heap.facades]
  refine same.agree_guarded ?_
  simp only [Heap.deletePublic, same.heap.external, same.heap.facadeDefinition]
  split
  · exact same.agree_setHeap (same.heap.setExternal f _) rfl rfl _
  · exact agree_unchanged same _

theorem agree_writeClass (c : Ref .cls) (key : String) (v : Value) :
    Agree w w' (w.perform (.writeClass c key v)) (w'.perform (.writeClass c key v)) := by
  simp only [perform, same.heap.classes]
  refine same.agree_guarded ?_
  simp only [Heap.writeClass, Heap.className, same.heap.classDefinition, same.heap.classes]
  split
  · exact same.agree_setHeap (same.heap.setStatic _ key v) rfl rfl _
  · exact agree_unchanged same _

end World.SameOutside

namespace OutsideOp

variable {σ : Type}

theorem unaffected_readFacade (f : Ref .facade) (key : String) :
    (readFacade f key : Program σ Seen).Unaffected := by
  refine Program.unaffected_look (fun h => ?_) (fun h h' same => ?_)
  · split
    · split
      · exact Program.unaffected_pure _
      · exact Program.unaffected_throw _
    · exact (Program.unaffected_settle _).bind (fun _ => Program.unaffected_pure _)
  · simp only [same.hookOf?, same.readPublic]

/-- No operation from outside is affected by the fields, and none affects them. -/
theorem unaffected_program (op : OutsideOp) : (op.program : Program σ Seen).Unaffected := by
  cases op with
  | read f key => exact unaffected_readFacade f key
  | write f key v =>
    refine Program.Unaffected.bind (Program.unaffected_ask fun w w' same => ?_)
      (fun _ => Program.unaffected_pure _)
    exact same.agree_writePublic f key v
  | delete f key =>
    refine Program.Unaffected.bind (Program.unaffected_ask fun w w' same => ?_)
      (fun _ => Program.unaffected_pure _)
    exact same.agree_deletePublic f key
  | has f key =>
    refine Program.Unaffected.tryCatch
      ((unaffected_readFacade f key).bind (fun _ => Program.unaffected_pure _)) (fun e => ?_)
    split
    · exact Program.unaffected_pure _
    · exact Program.unaffected_throw _
  | readClass c key =>
    refine Program.unaffected_look (fun h => ?_) (fun h h' same => ?_)
    · exact (Program.unaffected_settle _).bind (fun _ => Program.unaffected_pure _)
    · simp only [same.readClass]
  | writeClass c key v =>
    refine Program.Unaffected.bind (Program.unaffected_ask fun w w' same => ?_)
      (fun _ => Program.unaffected_pure _)
    exact same.agree_writeClass c key v
  | base f =>
    refine Program.unaffected_look (fun h => ?_) (fun h h' same => ?_)
    · split
      · exact Program.unaffected_pure _
      · exact Program.unaffected_throw _
    · simp only [same.parentFacade]
  | layers f =>
    refine Program.unaffected_look (fun h => Program.unaffected_pure _) (fun h h' same => ?_)
    simp only [same.facadeLayers]
  | definitionOf f =>
    refine Program.unaffected_look (fun h => Program.unaffected_pure _) (fun h h' same => ?_)
    simp only [same.facadeClass, same.classes]

end OutsideOp

/-- Worlds that are alike from outside answer every sequence of operations from outside alike: each
operation gives the same or fails with the same fault, and logs the same. No field of any private
state is changed in either world. -/
theorem fields_unobservable {σ : Type} {w w' : World σ} (same : w.SameOutside w')
    (ops : List OutsideOp) :
    (OutsideOp.observe ops w').1 = (OutsideOp.observe ops w).1 ∧
    (∀ s, (OutsideOp.observe ops w).2.heap.fields s = w.heap.fields s) ∧
    ∀ s, (OutsideOp.observe ops w').2.heap.fields s = w'.heap.fields s := by
  induction ops generalizing w w' with
  | nil => exact ⟨rfl, fun _ => rfl, fun _ => rfl⟩
  | cons op ops ih =>
    have first := op.unaffected_program w w' same
    obtain ⟨rs, log, log'⟩ := first.log
    obtain ⟨rest, kept, kept'⟩ := ih first.same
    refine ⟨?_, fun s => ?_, fun s => ?_⟩
    · have new : ((op.program.run w).2.log.toList.drop w.log.size) = rs.toList := by
        simp [log]
      have new' : ((op.program.run w').2.log.toList.drop w'.log.size) = rs.toList := by
        simp [log']
      simp only [OutsideOp.observe, rest, first.result, new, new']
    · rw [OutsideOp.observe, kept, Heap.fields, first.states]
      rfl
    · rw [OutsideOp.observe, kept', Heap.fields, first.states']
      rfl

/-- The instance of three layers with another value in its field. -/
def Program.otherFieldWorld : World Unit :=
  (threeLayersWorld.perform (.writePrivate ⟨2⟩ "field" (.int 2))).2

/-- The field of the lowest layer is as invisible as if it were not there, whatever it holds. Private
and inherited methods are told apart, a static member of the root is changed, and a write to the
field is dropped and logged. -/
theorem fields_unobservable_threeLayers :
    Program.threeLayersWorld.SameOutside Program.otherFieldWorld ∧
    Program.otherFieldWorld.heap.fields ⟨2⟩ ≠ Program.threeLayersWorld.heap.fields ⟨2⟩ ∧
    (OutsideOp.observe [.has ⟨2⟩ "field", .read ⟨2⟩ "secret", .read ⟨2⟩ "greet",
        .write ⟨0⟩ "count" (.int 5), .readClass ⟨0⟩ "count", .write ⟨2⟩ "field" (.int 3)]
      Program.otherFieldWorld).1 =
      [(.ok (.truth false), []),
        (.error (.privateMember "secret"), []),
        (.ok (.member (.method (.function ⟨0⟩) ⟨0⟩)), []),
        (.ok .done, []),
        (.ok (.value (.int 5)), []),
        (.ok .done, [.dropped (Text.quoted "field") "Derived"])] := by
  have same : Program.threeLayersWorld.SameOutside Program.otherFieldWorld :=
    ⟨Heap.sameOutside_setFields _ _ _, rfl⟩
  exact ⟨same, by decide, (fields_unobservable same _).1.trans (by rfl)⟩

end ObjectModel
