import ObjectModel.Proofs.Reachability
import ObjectModel.Proofs.StoreLaws
import ObjectModel.Proofs.Views

/-!
# Steps of the heap

All that one action can do to the heap. Reading, logging, printing and the settings leave it as it
is, and so does every action that fails; the three ways to write a static member come to the same,
and so do the ways to write a key from outside. An invariant of heaps is proved by going through
these steps once.
-/

namespace ObjectModel

namespace Heap

/-- The heap with another record in the place of a definition. -/
def setDefinition (h : Heap) (d : Ref .definition) (r : Definition) : Heap :=
  { h with definitions := h.definitions.set d r }

/-- What an action can do to the heap, with the checks that were made before. -/
inductive Step {σ : Type} (h : Heap) : Action σ → Heap → Prop where
  | stay (a : Action σ) : Step h a h
  | newCatalog : Step h .newCatalog h.newCatalog.2
  | openBuilder {c : Ref .catalog} (name : Value) (inCatalog : h.catalogs.contains c = true) :
      Step h (.openBuilder c name) (h.openBuilder c name).2
  | setParent {b : Ref .builder} (name : Value) (made : h.builders.contains b = true)
      (isOpen : h.finalized b = false) :
      Step h (.setParent b name) (h.setDefinition (h.builderDefinition b)
        { h.definition (h.builderDefinition b) with parent := name })
  | addMembers {b : Ref .builder} {part : Section} {t : Table Key Value}
      (made : h.builders.contains b = true) (isOpen : h.finalized b = false)
      (fit : part.check h.callable t = .ok ()) :
      Step h (.addMembers b part t) (h.setDefinition (h.builderDefinition b)
        ((h.definition (h.builderDefinition b)).extend part t))
  | closeBuilder {b : Ref .builder} (made : h.builders.contains b = true)
      (isOpen : h.finalized b = false) :
      Step h (.closeBuilder b)
        { h with builders := h.builders.set b { h.builders.get b with finalized := true } }
  | declare (d : Declaration) : Step h (.declare d) (h.keep d).2
  | keep (d : Declaration) : Step h (.keep d) (h.keep d).2
  | register {c : Ref .catalog} {d : Ref .definition} {name : String}
      (inCatalog : h.catalogs.contains c = true) (defined : h.definitions.contains d = true)
      (named : (h.definition d).name = .text name) :
      Step h (.register c d) { h with
        classes := h.classes.push ⟨d, c, name, (h.definition d).operators⟩
        catalogs := h.catalogs.modify c (fun k => ⟨k.classes.insert name h.classes.next⟩) }
  | registerOutside {c : Ref .catalog} (name : String) (hooks : Table Key Value)
      (inCatalog : h.catalogs.contains c = true) :
      Step h (.registerOutside c name hooks) { h with
        definitions := h.definitions.push (.named (.text name))
        classes := h.classes.push ⟨h.definitions.next, c, name, hooks⟩
        catalogs := h.catalogs.modify c (fun k => ⟨k.classes.insert name h.classes.next⟩) }
  | newLayer {c : Ref .cls} {parent : Option (Ref .facade)}
      (made : h.classes.contains c = true)
      (above : ∀ f, parent = some f → h.facades.contains f = true) :
      Step h (.newLayer c parent) (h.newLayer c parent).2
  | setStatic (view : View) {key : String} (v : Value) (present : view.present h = true)
      (declared : (h.definition (view.definition h)).isStatic (.text key) = true) :
      Step h (view.writing key v) (h.setStatic (view.definition h) key v)
  | writeField (s : Ref .state) {key : String} (v : Value) (free : key ≠ parentHandle)
      (undeclared : (h.stateDefinition s).isStatic (.text key) = false) :
      Step h (.writePrivate s key v) (h.setFields s ((h.fields s).insert key v))
  | deleteField (s : Ref .state) {key : String} (free : key ≠ parentHandle) :
      Step h (.deletePrivate s key) (h.setFields s ((h.fields s).erase key))
  | addExternal (f : Ref .facade) {key : String} (v : Value)
      (undeclared : (h.external f).contains key = true ∨
        (h.facadeDefinition f).isStatic (.text key) = false) :
      Step h (.writePublic f key v) (h.addExternal f key v)
  | deleteExternal (f : Ref .facade) (key : String) :
      Step h (.deletePublic f key) (h.setExternal f ((h.external f).erase key))

variable {σ : Type} {h h' : Heap}

theorem definition_congr (definitions : h'.definitions = h.definitions) (d : Ref .definition) :
    h'.definition d = h.definition d :=
  congrArg (fun s => s.get d) definitions

theorem step_setParent {b : Ref .builder} {name : Value} (made : h.builders.contains b = true)
    (done : h.setParent b name = .ok h') : Step (σ := σ) h (.setParent b name) h' := by
  simp only [Heap.setParent, editOpen] at done
  cases hb : h.finalized b with
  | true => simp [hb] at done
  | false =>
    simp only [hb] at done
    cases done
    exact .setParent name made hb

/-- Only an open builder takes members, and only from a table that is fit for the section. -/
theorem addMembers_eq_ok {b : Ref .builder} {part : Section} {t : Table Key Value}
    (done : h.addMembers b part t = .ok h') :
    h.finalized b = false ∧ part.check h.callable t = .ok () ∧
      h' = h.setDefinition (h.builderDefinition b)
        ((h.definition (h.builderDefinition b)).extend part t) := by
  simp only [Heap.addMembers, editOpen] at done
  cases hb : h.finalized b with
  | true => simp [hb] at done
  | false =>
    simp only [hb] at done
    cases hc : part.check h.callable t with
    | error f => simp [hc, bind, Except.bind] at done
    | ok u =>
      simp only [hc] at done
      cases done
      exact ⟨rfl, rfl, rfl⟩

theorem step_addMembers {b : Ref .builder} {part : Section} {t : Table Key Value}
    (made : h.builders.contains b = true) (done : h.addMembers b part t = .ok h') :
    Step (σ := σ) h (.addMembers b part t) h' := by
  obtain ⟨isOpen, fit, rfl⟩ := addMembers_eq_ok done
  exact .addMembers made isOpen fit

/-- The heap in which the builder `b` is closed. -/
def withClosed (h : Heap) (b : Ref .builder) : Heap :=
  { h with builders := h.builders.set b { h.builders.get b with finalized := true } }

theorem builder_withClosed {b : Ref .builder} (made : h.builders.contains b = true) :
    (h.withClosed b).builders.get b = { h.builders.get b with finalized := true } :=
  Store.get_set_self made _

theorem closeBuilder_eq_ok {b : Ref .builder} :
    h.closeBuilder b = .ok h' ↔ h.finalized b = false ∧ h' = h.withClosed b := by
  simp only [Heap.closeBuilder, Heap.finalized]
  cases (h.builders.get b).finalized with
  | true => simp
  | false => exact ⟨fun done => ⟨rfl, (Except.ok.inj done).symm⟩, fun done => by rw [done.2]; rfl⟩

theorem step_closeBuilder {b : Ref .builder} (made : h.builders.contains b = true)
    (done : h.closeBuilder b = .ok h') : Step (σ := σ) h (.closeBuilder b) h' := by
  obtain ⟨isOpen, rfl⟩ := closeBuilder_eq_ok.mp done
  exact .closeBuilder made isOpen

theorem step_declare {d : Declaration} {r : Ref .declaration × Heap}
    (done : h.declare d = .ok r) : Step (σ := σ) h (.declare d) r.2 := by
  cases d with
  | parent name => cases done; exact .declare _
  | members part entries =>
    simp only [Heap.declare] at done
    cases hc : part.check h.callable entries with
    | error f => simp [hc, bind, Except.bind] at done
    | ok u =>
      simp only [hc] at done
      cases done
      exact .declare _

/-- Only a definition whose name is a text can be registered, and it goes under this name. -/
theorem register_eq_ok {c : Ref .catalog} {d : Ref .definition} {r : Ref .cls × Heap}
    (done : h.register c d = .ok r) :
    ∃ name, (h.definition d).name = .text name ∧ r = (h.classes.next, { h with
      classes := h.classes.push ⟨d, c, name, (h.definition d).operators⟩
      catalogs := h.catalogs.modify c (fun k => ⟨k.classes.insert name h.classes.next⟩) }) := by
  simp only [Heap.register] at done
  split at done
  · cases done
  · rename_i name _ named
    cases done
    exact ⟨name, named, rfl⟩
  · cases done

theorem step_register {c : Ref .catalog} {d : Ref .definition} {r : Ref .cls × Heap}
    (inCatalog : h.catalogs.contains c = true) (defined : h.definitions.contains d = true)
    (done : h.register c d = .ok r) : Step (σ := σ) h (.register c d) r.2 := by
  obtain ⟨name, named, rfl⟩ := register_eq_ok done
  exact .register inCatalog defined named

theorem registerOutside_eq_ok {c : Ref .catalog} {name : String} {hooks : Table Key Value}
    {r : Ref .cls × Heap} (done : h.registerOutside c name hooks = .ok r) :
    r = (h.classes.next, { h with
      definitions := h.definitions.push (.named (.text name))
      classes := h.classes.push ⟨h.definitions.next, c, name, hooks⟩
      catalogs := h.catalogs.modify c (fun k => ⟨k.classes.insert name h.classes.next⟩) }) := by
  simp only [Heap.registerOutside] at done
  split at done
  · cases done
  · cases done
    rfl

theorem step_registerOutside {c : Ref .catalog} {name : String} {hooks : Table Key Value}
    {r : Ref .cls × Heap} (inCatalog : h.catalogs.contains c = true)
    (done : h.registerOutside c name hooks = .ok r) :
    Step (σ := σ) h (.registerOutside c name hooks) r.2 := by
  obtain rfl := registerOutside_eq_ok done
  exact .registerOutside name hooks inCatalog

theorem step_writePrivate {s : Ref .state} {key : String} {v : Value}
    (made : h.states.contains s = true) (done : h.writePrivate s key v = .ok h') :
    Step (σ := σ) h (.writePrivate s key v) h' := by
  simp only [Heap.writePrivate] at done
  split at done
  · cases done
  · rename_i free
    split at done
    · rename_i declared
      cases done
      exact .setStatic (.ofState s) v made declared
    · rename_i undeclared
      cases done
      exact .writeField s v free (by simpa using undeclared)

theorem step_deletePrivate {s : Ref .state} {key : String}
    (done : h.deletePrivate s key = .ok h') : Step (σ := σ) h (.deletePrivate s key) h' := by
  simp only [Heap.deletePrivate] at done
  split at done
  · cases done
  · rename_i free
    split at done
    · cases done
      exact .deleteField s free
    · cases done

theorem step_deletePublic {f : Ref .facade} {key : String}
    (done : h.deletePublic f key = .ok h') : Step (σ := σ) h (.deletePublic f key) h' := by
  simp only [Heap.deletePublic] at done
  split at done
  · cases done
    exact .deleteExternal f key
  · cases done

theorem step_writeClass {c : Ref .cls} {key : String} {v : Value}
    (made : h.classes.contains c = true) (done : h.writeClass c key v = .ok h') :
    Step (σ := σ) h (.writeClass c key v) h' := by
  simp only [Heap.writeClass] at done
  split at done
  · rename_i declared
    cases done
    exact .setStatic (.ofClass c) v made declared
  · cases done

end Heap

/-- What one step can do to the definition at a place. Where there is none yet, one can be opened. -/
inductive Definition.Edited (callable : Value → Bool) (r : Definition) : Definition → Prop where
  | kept : Edited callable r r
  | opened (name : Value) : Edited callable r (.named name)
  | parent (name : Value) : Edited callable r { r with parent := name }
  | members {part : Section} {t : Table Key Value} (fit : part.check callable t = .ok ()) :
      Edited callable r (r.extend part t)
  | setStatic {key : String} (v : Value) (declared : r.isStatic (.text key) = true) :
      Edited callable r (r.setStatic (.text key) v)

theorem Heap.Step.edited {σ : Type} {a : Action σ} {h h' : Heap} (hs : h.Step a h')
    (d : Ref .definition) : (h.definition d).Edited h.callable (h'.definition d) := by
  cases hs with
  | stay _ | newCatalog | closeBuilder _ _ | declare _ | keep _ | register _ _ _ | newLayer _ _
  | writeField _ _ _ _ | deleteField _ _ | addExternal _ _ _ | deleteExternal _ _ => exact .kept
  | openBuilder _ _ | registerOutside _ _ _ =>
    change Definition.Edited _ _ ((h.definitions.push _).get d)
    rw [Store.get_push]
    split
    · exact .opened _
    · exact .kept
  | setParent name made isOpen =>
    change Definition.Edited _ _ ((h.definitions.set _ _).get d)
    rw [Store.get_set]
    split
    · rename_i same
      exact same.1 ▸ .parent name
    · exact .kept
  | addMembers made isOpen fit =>
    change Definition.Edited _ _ ((h.definitions.set _ _).get d)
    rw [Store.get_set]
    split
    · rename_i same
      exact same.1 ▸ .members fit
    · exact .kept
  | setStatic view v present declared =>
    change Definition.Edited _ _ ((h.definitions.modify _ _).get d)
    rw [Store.get_modify]
    split
    · rename_i same
      exact same.1 ▸ .setStatic v declared
    · exact .kept

namespace World

variable {σ : Type}

theorem heap_update {w : World σ} {a : Action σ} {r : Except Fault Heap}
    (h : ∀ h', r = .ok h' → w.heap.Step a h') : w.heap.Step a (w.update r).2.heap := by
  cases r with
  | ok h' => exact h h' rfl
  | error f => exact .stay a

theorem heap_updateWith {ρ : Type} {w : World σ} {a : Action σ} {r : Except Fault (ρ × Heap)}
    (h : ∀ x, r = .ok x → w.heap.Step a x.2) : w.heap.Step a (w.updateWith r).2.heap := by
  cases r with
  | ok x => exact h x rfl
  | error f => exact .stay a

theorem heap_guarded {ρ : Type} {w : World σ} {a : Action σ} {ok : Bool}
    {r : Except Fault ρ × World σ} (h : ok = true → w.heap.Step a r.2.heap) :
    w.heap.Step a (w.guarded ok r).2.heap := by
  cases ok with
  | true => exact h rfl
  | false => exact .stay a

/-- An operation that is guarded either is done, or leaves the world as it is. -/
theorem guarded_update_cases (w : World σ) (ok : Bool) (r : Except Fault Heap) :
    (ok = true ∧ ∃ h, r = .ok h ∧ w.guarded ok (w.update r) = (.ok (), w.setHeap h)) ∨
    ∃ e, w.guarded ok (w.update r) = (.error e, w) := by
  cases ok with
  | false => exact .inr ⟨_, rfl⟩
  | true =>
    cases r with
    | ok h => exact .inl ⟨rfl, h, rfl, rfl⟩
    | error e => exact .inr ⟨e, rfl⟩

theorem guarded_updateWith_cases {ρ : Type} (w : World σ) (ok : Bool)
    (r : Except Fault (ρ × Heap)) :
    (ok = true ∧ ∃ x, r = .ok x ∧ w.guarded ok (w.updateWith r) = (.ok x.1, w.setHeap x.2)) ∨
    ∃ e, w.guarded ok (w.updateWith r) = (.error e, w) := by
  cases ok with
  | false => exact .inr ⟨_, rfl⟩
  | true =>
    cases r with
    | ok x => exact .inl ⟨rfl, x, rfl, rfl⟩
    | error e => exact .inr ⟨e, rfl⟩

theorem perform_closeBuilder_of_open {w : World σ} {b : Ref .builder}
    (made : w.heap.builders.contains b = true) (isOpen : w.heap.finalized b = false) :
    w.perform (.closeBuilder b) = (.ok (), w.setHeap (w.heap.withClosed b)) := by
  rw [perform, made, Heap.closeBuilder_eq_ok.mpr ⟨isOpen, rfl⟩]
  rfl

@[simp] theorem heap_setHeap (w : World σ) (h : Heap) : (w.setHeap h).heap = h := rfl

@[simp] theorem heap_warn (w : World σ) (message : String) : (w.warn message).heap = w.heap := by
  simp only [warn]
  split <;> rfl

theorem step_writePublic (w : World σ) {f : Ref .facade} (made : w.heap.facades.contains f = true)
    (key : String) (v : Value) :
    w.heap.Step (.writePublic f key v : Action σ) (w.writePublic f key v).heap := by
  cases hx : (w.heap.external f).contains key with
  | true =>
    simp only [writePublic, Heap.publicWrite, hx, if_true]
    exact .addExternal f v (.inl hx)
  | false =>
    cases hs : (w.heap.facadeDefinition f).isStatic (.text key) with
    | true =>
      simp only [writePublic, Heap.publicWrite, hx, hs, Bool.false_eq_true, if_false, if_true]
      exact .setStatic (.ofFacade f) v made hs
    | false =>
      simp only [writePublic, Heap.publicWrite, hx, hs, Bool.false_eq_true, if_false]
      split
      · simp only [heap_warn, heap_setHeap]
        exact .addExternal f v (.inr hs)
      · exact .stay _

/-- Every action takes one of its steps. -/
theorem perform_step (w : World σ) (a : Action σ) : w.heap.Step a (w.perform a).2.heap := by
  cases a with
  | look | peek | poke _ | note _ | print _ | settings | setWarnings _ | setAllowWriting _ =>
    exact .stay _
  | warn message =>
    simp only [perform, heap_warn]
    exact .stay _
  | newCatalog => exact .newCatalog
  | keep d => exact .keep d
  | openBuilder c name => exact heap_guarded (fun inCatalog => .openBuilder name inCatalog)
  | setParent b name =>
    exact heap_guarded (fun made => heap_update (fun _ => Heap.step_setParent made))
  | addMembers b part t =>
    exact heap_guarded (fun made => heap_update (fun _ => Heap.step_addMembers made))
  | closeBuilder b =>
    exact heap_guarded (fun made => heap_update (fun _ => Heap.step_closeBuilder made))
  | declare d => exact heap_updateWith (fun _ => Heap.step_declare)
  | register c d =>
    refine heap_guarded (fun ok => heap_updateWith (fun _ => ?_))
    rw [Bool.and_eq_true] at ok
    exact Heap.step_register ok.1 ok.2
  | registerOutside c name hooks =>
    exact heap_guarded (fun ok => heap_updateWith (fun _ => Heap.step_registerOutside ok))
  | newLayer c parent =>
    refine heap_guarded (fun ok => ?_)
    rw [Bool.and_eq_true] at ok
    refine .newLayer ok.1 ?_
    rintro f rfl
    simpa using ok.2
  | writePrivate s key v =>
    exact heap_guarded (fun made => heap_update (fun _ => Heap.step_writePrivate made))
  | deletePrivate s key =>
    exact heap_guarded (fun _ => heap_update (fun _ => Heap.step_deletePrivate))
  | writePublic f key v => exact heap_guarded (fun made => step_writePublic w made key v)
  | deletePublic f key =>
    exact heap_guarded (fun _ => heap_update (fun _ => Heap.step_deletePublic))
  | writeClass c key v =>
    exact heap_guarded (fun made => heap_update (fun _ => Heap.step_writeClass made))

/-- A property of heaps that holds at the start and that every step keeps. -/
theorem Reachable.invariant {P : Heap → Prop} (start : P .initial)
    (step : ∀ (a : Action σ) (h h' : Heap), h.Step a h' → P h → P h') {w : World σ}
    (h : w.Reachable) : P w.heap :=
  h.heap_induction start (fun w a hw => step a _ _ (perform_step w a) hw)

/-- A relation between heaps that no step leaves holds between a world and all later ones. -/
theorem Reaches.heap_relation {R : Heap → Heap → Prop} (refl : ∀ h, R h h)
    (trans : ∀ {h₁ h₂ h₃}, R h₁ h₂ → R h₂ h₃ → R h₁ h₃)
    (step : ∀ (a : Action σ) (h h' : Heap), h.Step a h' → R h h') {w w' : World σ}
    (h : Reaches w w') : R w.heap w'.heap := by
  induction h with
  | refl => exact refl _
  | step _ a ih => exact trans ih (step a _ _ (perform_step _ a))

end World

end ObjectModel
