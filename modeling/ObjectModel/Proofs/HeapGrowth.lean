import ObjectModel.Proofs.HeapSteps

/-!
# What never changes

Objects are never removed. The name of a definition, all of a class, the class and the parent of a
private state, the state and the parent of a facade, and the catalog and the definition of a
builder stay what they were when the object was made.
-/

namespace ObjectModel.Heap

/-- `h'` has all objects of `h`, with the parts of them that are fixed when an object is made. -/
structure Extends (h h' : Heap) : Prop where
  catalogs : Store.Keeps (fun _ => ()) h.catalogs h'.catalogs
  builders : Store.Keeps (fun b => (b.catalog, b.definition)) h.builders h'.builders
  definitions : Store.Keeps Definition.name h.definitions h'.definitions
  declarations : Store.Keeps id h.declarations h'.declarations
  classes : Store.Keeps id h.classes h'.classes
  states : Store.Keeps (fun s => (s.cls, s.parent)) h.states h'.states
  facades : Store.Keeps (fun f => (f.state, f.parent)) h.facades h'.facades

variable {h h' h'' : Heap}

theorem Extends.refl (h : Heap) : Extends h h where
  catalogs := .refl _ _
  builders := .refl _ _
  definitions := .refl _ _
  declarations := .refl _ _
  classes := .refl _ _
  states := .refl _ _
  facades := .refl _ _

theorem Extends.trans (h₁ : Extends h h') (h₂ : Extends h' h'') : Extends h h'' where
  catalogs := h₁.catalogs.trans h₂.catalogs
  builders := h₁.builders.trans h₂.builders
  definitions := h₁.definitions.trans h₂.definitions
  declarations := h₁.declarations.trans h₂.declarations
  classes := h₁.classes.trans h₂.classes
  states := h₁.states.trans h₂.states
  facades := h₁.facades.trans h₂.facades

@[simp] theorem name_extend (d : Definition) (part : Section) (t : Table Key Value) :
    (d.extend part t).name = d.name := by
  cases part <;> rfl

theorem Step.extends {σ : Type} {a : Action σ} (hs : h.Step a h') : Extends h h' := by
  have keeps := Extends.refl h
  cases hs with
  | stay a => exact keeps
  | newCatalog => exact { keeps with catalogs := Store.keeps_push _ _ _ }
  | openBuilder name inCatalog =>
    exact { keeps with
      builders := Store.keeps_push _ _ _
      definitions := Store.keeps_push _ _ _ }
  | setParent name made isOpen => exact { keeps with definitions := Store.keeps_set rfl }
  | addMembers made isOpen fit =>
    exact { keeps with definitions := Store.keeps_set (name_extend _ _ _) }
  | closeBuilder made isOpen => exact { keeps with builders := Store.keeps_set rfl }
  | declare d | keep d => exact { keeps with declarations := Store.keeps_push _ _ _ }
  | register inCatalog defined named =>
    exact { keeps with
      catalogs := Store.keeps_modify rfl
      classes := Store.keeps_push _ _ _ }
  | registerOutside name hooks inCatalog =>
    exact { keeps with
      catalogs := Store.keeps_modify rfl
      definitions := Store.keeps_push _ _ _
      classes := Store.keeps_push _ _ _ }
  | newLayer made above =>
    exact { keeps with
      states := Store.keeps_push _ _ _
      facades := Store.keeps_push _ _ _ }
  | setStatic view v present declared => exact { keeps with definitions := Store.keeps_modify rfl }
  | writeField s v free undeclared => exact { keeps with states := Store.keeps_modify rfl }
  | deleteField s free => exact { keeps with states := Store.keeps_modify rfl }
  | addExternal f v undeclared => exact { keeps with facades := Store.keeps_modify rfl }
  | deleteExternal f key => exact { keeps with facades := Store.keeps_modify rfl }

theorem Extends.parentState_eq (he : Extends h h') {s : Ref .state}
    (hs : h.states.contains s = true) : h'.parentState s = h.parentState s :=
  congrArg Prod.snd (he.states s hs).2

theorem Extends.parentFacade_eq (he : Extends h h') {f : Ref .facade}
    (hf : h.facades.contains f = true) : h'.parentFacade f = h.parentFacade f :=
  congrArg Prod.snd (he.facades f hf).2

theorem Extends.facadeState_eq (he : Extends h h') {f : Ref .facade}
    (hf : h.facades.contains f = true) : h'.facadeState f = h.facadeState f :=
  congrArg Prod.fst (he.facades f hf).2

theorem Extends.stateClass_eq (he : Extends h h') {s : Ref .state}
    (hs : h.states.contains s = true) : h'.stateClass s = h.stateClass s :=
  congrArg Prod.fst (he.states s hs).2

end ObjectModel.Heap

namespace ObjectModel.World

theorem Reaches.extends {σ : Type} {w w' : World σ} (h : Reaches w w') :
    w.heap.Extends w'.heap :=
  h.heap_relation Heap.Extends.refl Heap.Extends.trans (fun _ _ _ => Heap.Step.extends)

end ObjectModel.World
