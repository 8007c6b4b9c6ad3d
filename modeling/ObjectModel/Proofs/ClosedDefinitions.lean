import ObjectModel.Proofs.LayerInvariants
import ObjectModel.Proofs.Runs

/-!
# Closed definitions

Every builder has a definition to itself, so a definition whose builder is finalized keeps its name,
its parent, its methods, its hooks and the names of its static members, whatever is done. Only the
values of the static members change. Every class has the name of its definition, a text. In an
orderly run the definitions of all classes are closed, and no facade has a static member of its class
among the keys that were written onto it from outside.
-/

namespace ObjectModel

namespace Table

variable {κ β : Type} [BEq κ]

theorem contains_eq_any_keys (t : Table κ β) (k : κ) : t.contains k = t.keys.any (· == k) := by
  simp only [contains, keys, List.any_map]
  rfl

end Table

namespace Definition

/-- Two definitions that can differ in the values of static members only. -/
structure SameBody (r r' : Definition) : Prop where
  name : r'.name = r.name
  parent : r'.parent = r.parent
  privates : r'.privates = r.privates
  publics : r'.publics = r.publics
  operators : r'.operators = r.operators
  staticKeys : r'.statics.keys = r.statics.keys

variable {r r' r'' : Definition}

theorem SameBody.refl (r : Definition) : r.SameBody r := ⟨rfl, rfl, rfl, rfl, rfl, rfl⟩

theorem SameBody.trans (h : r.SameBody r') (h' : r'.SameBody r'') : r.SameBody r'' where
  name := h'.name.trans h.name
  parent := h'.parent.trans h.parent
  privates := h'.privates.trans h.privates
  publics := h'.publics.trans h.publics
  operators := h'.operators.trans h.operators
  staticKeys := h'.staticKeys.trans h.staticKeys

theorem SameBody.isStatic (h : r.SameBody r') (key : Key) : r'.isStatic key = r.isStatic key := by
  simp only [Definition.isStatic, Table.contains_eq_any_keys, h.staticKeys]

theorem sameBody_setStatic {key : Key} (declared : r.isStatic key = true) (v : Value) :
    r.SameBody (r.setStatic key v) :=
  { SameBody.refl r with staticKeys := (Table.keys_insert r.statics key v).trans (if_pos declared) }

end Definition

namespace Heap

variable {σ : Type} {a : Action σ} {h h' : Heap} {d : Ref .definition}

/-- What builders, classes and states refer to exists, and no two builders have the same
definition. -/
structure Built (h : Heap) : Prop where
  owned : ∀ b, h.builders.contains b = true → h.definitions.contains (h.builderDefinition b) = true
  owner : ∀ b b', h.builders.contains b = true → h.builders.contains b' = true →
    h.builderDefinition b = h.builderDefinition b' → b = b'
  defined : ∀ c, h.classes.contains c = true →
    h.definitions.contains (h.classes.get c).definition = true
  made : ∀ s, h.states.contains s = true → h.classes.contains (h.stateClass s) = true

theorem built_initial : Built initial where
  owned _ hb := by simp [initial, Store.contains] at hb
  owner _ _ hb := by simp [initial, Store.contains] at hb
  defined _ hc := by simp [initial, Store.contains] at hc
  made _ hs := by simp [initial, Store.contains] at hs

theorem Extends.builderDefinition_eq (he : Extends h h') {b : Ref .builder}
    (hb : h.builders.contains b = true) : h'.builderDefinition b = h.builderDefinition b :=
  congrArg Prod.snd (he.builders b hb).2

theorem Extends.class_eq (he : Extends h h') {c : Ref .cls} (hc : h.classes.contains c = true) :
    h'.classes.get c = h.classes.get c :=
  (he.classes c hc).2

/-- Old objects keep what they refer to, so only new ones have to be looked at. -/
theorem Built.extend (built : h.Built) (he : Extends h h')
    (builders : ∀ b, h'.builders.contains b = true → h.builders.contains b = true ∨
      b = h.builders.next ∧ h'.builderDefinition b = h.definitions.next ∧
        h'.definitions.contains h.definitions.next = true)
    (classes : ∀ c, h'.classes.contains c = true → h.classes.contains c = true ∨
      h'.definitions.contains (h'.classes.get c).definition = true)
    (states : ∀ s, h'.states.contains s = true → h.states.contains s = true ∨
      h'.classes.contains (h'.stateClass s) = true) : h'.Built where
  owned := by
    intro b hb
    rcases builders b hb with old | ⟨-, new, there⟩
    · rw [he.builderDefinition_eq old]
      exact (he.definitions _ (built.owned b old)).1
    · rwa [new]
  owner := by
    intro b b' hb hb' same
    rcases builders b hb with old | ⟨rfl, new, -⟩ <;>
      rcases builders b' hb' with old' | ⟨rfl, new', -⟩
    · rw [he.builderDefinition_eq old, he.builderDefinition_eq old'] at same
      exact built.owner b b' old old' same
    · rw [he.builderDefinition_eq old, new'] at same
      exact absurd same (Store.ne_next (built.owned b old))
    · rw [he.builderDefinition_eq old', new] at same
      exact absurd same.symm (Store.ne_next (built.owned b' old'))
    · rfl
  defined := by
    intro c hc
    rcases classes c hc with old | new
    · rw [he.class_eq old]
      exact (he.definitions _ (built.defined c old)).1
    · exact new
  made := by
    intro s hs
    rcases states s hs with old | new
    · rw [he.stateClass_eq old]
      exact (he.classes _ (built.made s old)).1
    · exact new

theorem Built.step (built : h.Built) (hs : h.Step a h') : h'.Built := by
  have he := hs.extends
  cases hs with
  | stay _ => exact built
  | newCatalog | setParent _ _ _ | addMembers _ _ _ | declare _ | keep _ | setStatic _ _ _ _
  | addExternal _ _ _ | deleteExternal _ _ =>
    exact built.extend he (fun b hb => .inl hb) (fun c hc => .inl hc) (fun s hs => .inl hs)
  | closeBuilder made isOpen =>
    refine built.extend he (fun b hb => .inl ?_) (fun c hc => .inl hc) (fun s hs => .inl hs)
    simpa using hb
  | writeField _ _ _ _ | deleteField _ _ =>
    refine built.extend he (fun b hb => .inl hb) (fun c hc => .inl hc) (fun s hs => .inl ?_)
    simpa [setFields] using hs
  | openBuilder name inCatalog =>
    refine built.extend he (fun b hb => ?_) (fun c hc => .inl hc) (fun s hs => .inl hs)
    refine ((Store.contains_push_iff h.builders _ b).mp hb).imp_right (fun new => ⟨new, ?_, ?_⟩)
    · subst new
      exact congrArg Builder.definition (Store.get_push_next h.builders _)
    · exact Store.contains_push_next _ _
  | @register c d name inCatalog defined named =>
    refine built.extend he (fun b hb => .inl hb) (fun c hc => ?_) (fun s hs => .inl hs)
    refine ((Store.contains_push_iff h.classes _ c).mp hc).imp_right (fun new => ?_)
    subst new
    change h.definitions.contains ((h.classes.push _).get h.classes.next).definition = true
    rwa [Store.get_push_next]
  | @registerOutside c name hooks inCatalog =>
    refine built.extend he (fun b hb => .inl hb) (fun c hc => ?_) (fun s hs => .inl hs)
    refine ((Store.contains_push_iff h.classes _ c).mp hc).imp_right (fun new => ?_)
    subst new
    change (h.definitions.push _).contains ((h.classes.push _).get h.classes.next).definition = true
    rw [Store.get_push_next]
    exact Store.contains_push_next _ _
  | @newLayer c parent made above =>
    refine built.extend he (fun b hb => .inl hb) (fun c hc => .inl hc) (fun s hs => ?_)
    refine ((Store.contains_push_iff h.states _ s).mp hs).imp_right (fun new => ?_)
    rw [stateClass_newLayer, if_pos new]
    exact made

/-- A closed definition stays closed. -/
theorem Closed.step (closed : h.Closed d) (defined : h.definitions.contains d = true)
    (hs : h.Step a h') : h'.Closed d := by
  cases hs with
  | stay _ | newCatalog | setParent _ _ _ | addMembers _ _ _ | declare _ | keep _
  | register _ _ _ | registerOutside _ _ _ | newLayer _ _ | setStatic _ _ _ _
  | writeField _ _ _ _ | deleteField _ _ | addExternal _ _ _ | deleteExternal _ _ => exact closed
  | openBuilder name inCatalog =>
    intro b hb hd
    change (h.builders.push _).contains b = true at hb
    change ((h.builders.push _).get b).definition = d at hd
    change ((h.builders.push _).get b).finalized = true
    rw [Store.get_push] at hd ⊢
    split at hd
    · exact absurd hd.symm (Store.ne_next defined)
    · rename_i old
      rw [if_neg old]
      exact closed b (((Store.contains_push_iff _ _ b).mp hb).resolve_right old) hd
  | @closeBuilder b₀ made isOpen =>
    intro b hb hd
    have hb' : h.builders.contains b = true := by simpa using hb
    change ((h.builders.set b₀ _).get b).definition = d at hd
    change ((h.builders.set b₀ _).get b).finalized = true
    rw [Store.get_set] at hd ⊢
    split at hd
    · rw [if_pos (by assumption)]
    · rw [if_neg (by assumption)]
      exact closed b hb' hd

/-- A closed definition changes in the values of its static members only. -/
theorem Closed.sameBody (closed : h.Closed d) (defined : h.definitions.contains d = true)
    (hs : h.Step a h') : (h.definition d).SameBody (h'.definition d) := by
  -- an open builder has another definition
  have other {b : Ref .builder} (made : h.builders.contains b = true)
      (isOpen : h.finalized b = false) : h.builderDefinition b ≠ d := by
    intro same
    simp [closed b made same] at isOpen
  cases hs with
  | stay _ | newCatalog | closeBuilder _ _ | declare _ | keep _ | register _ _ _ | newLayer _ _
  | writeField _ _ _ _ | deleteField _ _ | addExternal _ _ _ | deleteExternal _ _ => exact .refl _
  | openBuilder name inCatalog =>
    change (h.definition d).SameBody ((h.definitions.push _).get d)
    rw [Store.get_push_of_contains defined]
    exact .refl _
  | registerOutside name hooks inCatalog =>
    change (h.definition d).SameBody ((h.definitions.push _).get d)
    rw [Store.get_push_of_contains defined]
    exact .refl _
  | setParent name made isOpen | addMembers made isOpen fit =>
    change (h.definition d).SameBody ((h.definitions.set _ _).get d)
    rw [Store.get_set_of_ne _ (other made isOpen)]
    exact .refl _
  | @setStatic view key v present declared =>
    change (h.definition d).SameBody ((h.definitions.modify _ _).get d)
    rw [Store.get_modify]
    split
    · rename_i same
      rw [same.1] at declared
      exact Definition.sameBody_setStatic declared v
    · exact .refl _

section Views

variable {view : View}

theorem Built.contains_cls (built : h.Built) (layered : h.Layered)
    (present : view.present h = true) : h.classes.contains (view.cls h) = true := by
  cases view with
  | ofClass c => exact present
  | ofFacade f => exact built.made _ (layered.behind f present)
  | ofState s => exact built.made s present

theorem Built.contains_definition (built : h.Built) (layered : h.Layered)
    (present : view.present h = true) : h.definitions.contains (view.definition h) = true :=
  built.defined _ (built.contains_cls layered present)

theorem Extends.cls_eq (he : Extends h h') (layered : h.Layered)
    (present : view.present h = true) : view.cls h' = view.cls h := by
  cases view with
  | ofClass c => rfl
  | ofFacade f =>
    change h'.stateClass (h'.facadeState f) = _
    rw [he.facadeState_eq present, he.stateClass_eq (layered.behind f present)]
    rfl
  | ofState s => exact he.stateClass_eq present

/-- What is seen through a view is the same definition for ever. -/
theorem Extends.definition_eq (he : Extends h h') (built : h.Built) (layered : h.Layered)
    (present : view.present h = true) : view.definition h' = view.definition h := by
  simp only [View.definition, he.cls_eq layered present,
    he.class_eq (built.contains_cls layered present)]

end Views

/-- The definitions of all classes are closed, and no key that was written onto a facade from
outside is a static member of its class. -/
structure Tidy (h : Heap) : Prop where
  closed : ∀ c, h.classes.contains c = true → h.Closed (h.classes.get c).definition
  apart : ∀ f key, h.facades.contains f = true → (h.external f).contains key = true →
    (h.facadeDefinition f).isStatic (.text key) = false

theorem tidy_initial : Tidy initial where
  closed _ hc := by simp [initial, Store.contains] at hc
  apart _ _ hf := by simp [initial, Store.contains] at hf

theorem Tidy.closed_view (tidy : h.Tidy) (built : h.Built) (layered : h.Layered) {view : View}
    (present : view.present h = true) : h.Closed (view.definition h) :=
  tidy.closed _ (built.contains_cls layered present)

/-- A builder has its definition to itself, so that to finalize it closes the definition. -/
theorem Built.closed_of_finalized (built : h.Built) {b : Ref .builder}
    (made : h.builders.contains b = true) (finalized : h.finalized b = true) :
    h.Closed (h.builderDefinition b) := by
  intro b' made' same
  rw [built.owner b' b made' made same]
  exact finalized

/-- No builder has a definition that is still to come. -/
theorem Built.closed_next (built : h.Built) : h.Closed h.definitions.next := by
  intro b hb hd
  exact absurd hd (Store.ne_next (built.owned b hb))

/-- In order, the definition of a class is closed if it was before or if the class is new. -/
theorem Step.closed_class (hs : h.Step a h') (built : h.Built) (inOrder : a.InOrder h)
    {c : Ref .cls} (hc : h'.classes.contains c = true)
    (before : h.classes.contains c = true → h.Closed (h.classes.get c).definition) :
    h'.Closed (h'.classes.get c).definition := by
  have old (there : h.classes.contains c = true) : h'.Closed (h'.classes.get c).definition := by
    rw [hs.extends.class_eq there]
    exact (before there).step (built.defined c there) hs
  cases hs with
  | stay _ | newCatalog | openBuilder _ _ | setParent _ _ _ | addMembers _ _ _ | closeBuilder _ _
  | declare _ | keep _ | newLayer _ _ | setStatic _ _ _ _ | writeField _ _ _ _
  | deleteField _ _ | addExternal _ _ _ | deleteExternal _ _ => exact old hc
  | register inCatalog defined named =>
    rcases (Store.contains_push_iff h.classes _ c).mp hc with there | rfl
    · exact old there
    · change h.Closed ((h.classes.push _).get h.classes.next).definition
      rw [Store.get_push_next]
      exact inOrder
  | registerOutside name hooks inCatalog =>
    rcases (Store.contains_push_iff h.classes _ c).mp hc with there | rfl
    · exact old there
    · change h.Closed ((h.classes.push _).get h.classes.next).definition
      rw [Store.get_push_next]
      exact built.closed_next

/-- A key of a facade is among those that were written onto it before, or is written now, while the
class does not declare it. -/
theorem Step.external (hs : h.Step a h') {f : Ref .facade} {key : String}
    (there : (h'.external f).contains key = true) :
    h.facades.contains f = true ∧ ((h.external f).contains key = true ∨
      (h.facadeDefinition f).isStatic (.text key) = false) := by
  have old (there : (h.external f).contains key = true) : h.facades.contains f = true := by
    cases hf : h.facades.contains f with
    | true => rfl
    | false =>
      rw [Heap.external, Store.get_of_not_contains hf] at there
      cases there
  cases hs with
  | stay _ | newCatalog | openBuilder _ _ | setParent _ _ _ | addMembers _ _ _ | closeBuilder _ _
  | declare _ | keep _ | register _ _ _ | registerOutside _ _ _ | setStatic _ _ _ _
  | writeField _ _ _ _ | deleteField _ _ => exact ⟨old there, .inl there⟩
  | newLayer made above =>
    rw [external_newLayer] at there
    split at there
    · simp at there
    · exact ⟨old there, .inl there⟩
  | @addExternal f₀ k v undeclared =>
    rw [Heap.addExternal, external_setExternal] at there
    split at there
    · rename_i same
      obtain ⟨rfl, hf⟩ := same
      rw [Table.contains_insert, Bool.or_eq_true, beq_iff_eq] at there
      rcases there with rfl | there
      · exact ⟨hf, undeclared⟩
      · exact ⟨hf, .inl there⟩
    · exact ⟨old there, .inl there⟩
  | @deleteExternal f₀ k =>
    rw [external_setExternal] at there
    split at there
    · rename_i same
      obtain ⟨rfl, hf⟩ := same
      have kept : ((h.external f₀).erase k).contains key = true := there
      rw [Table.contains_eq_isSome_find?, Table.find?_erase] at kept
      split at kept
      · simp at kept
      · exact ⟨hf, .inl (by rwa [Table.contains_eq_isSome_find?])⟩
    · exact ⟨old there, .inl there⟩

theorem Tidy.step (tidy : h.Tidy) (built : h.Built) (layered : h.Layered) (inOrder : a.InOrder h)
    (hs : h.Step a h') : h'.Tidy where
  closed := fun c hc => hs.closed_class built inOrder hc (tidy.closed c)
  apart := by
    intro f key hf there
    obtain ⟨old, known⟩ := hs.external there
    have present : (View.ofFacade f).present h = true := old
    have body := (tidy.closed_view built layered present).sameBody
      (built.contains_definition layered present) hs
    have same : h'.facadeDefinition f = h'.definition ((View.ofFacade f).definition h) :=
      congrArg h'.definition (hs.extends.definition_eq built layered present)
    rw [same, body.isStatic]
    exact known.elim (tidy.apart f key old) id

/-- Every class has the name that its definition has. -/
def Named (h : Heap) : Prop :=
  ∀ c, h.classes.contains c = true → h.className c = .text (h.classes.get c).typeName

theorem Extends.className_eq (he : Extends h h') (built : h.Built) {c : Ref .cls}
    (made : h.classes.contains c = true) : h'.className c = h.className c := by
  rw [className, classDefinition, he.class_eq made]
  exact (he.definitions _ (built.defined c made)).2

theorem Named.step (named : h.Named) (built : h.Built)
    (hs : h.Step a h') : h'.Named := by
  intro c hc
  have old (there : h.classes.contains c = true) :
      h'.className c = .text (h'.classes.get c).typeName := by
    rw [hs.extends.className_eq built there, hs.extends.class_eq there]
    exact named c there
  cases hs with
  | stay _ | newCatalog | openBuilder _ _ | setParent _ _ _ | addMembers _ _ _ | closeBuilder _ _
  | declare _ | keep _ | newLayer _ _ | setStatic _ _ _ _ | writeField _ _ _ _
  | deleteField _ _ | addExternal _ _ _ | deleteExternal _ _ => exact old hc
  | register inCatalog defined text =>
    rcases (Store.contains_push_iff h.classes _ c).mp hc with there | rfl
    · exact old there
    · change (h.definition ((h.classes.push _).get h.classes.next).definition).name =
        .text ((h.classes.push _).get h.classes.next).typeName
      rw [Store.get_push_next]
      exact text
  | registerOutside name hooks inCatalog =>
    rcases (Store.contains_push_iff h.classes _ c).mp hc with there | rfl
    · exact old there
    · change ((h.definitions.push _).get ((h.classes.push _).get h.classes.next).definition).name =
        .text ((h.classes.push _).get h.classes.next).typeName
      rw [Store.get_push_next, Store.get_push_next]
      rfl

end Heap

namespace World

variable {σ : Type}

theorem Reaches.built {w w' : World σ} (h : Reaches w w') (built : w.heap.Built) :
    w'.heap.Built := by
  induction h with
  | refl => exact built
  | step _ a ih => exact ih.step (perform_step _ a)

theorem Reachable.built {w : World σ} (h : w.Reachable) : w.heap.Built := by
  obtain ⟨client, reaches⟩ := h
  exact reaches.built Heap.built_initial

theorem Reachable.named {w : World σ} (reachable : w.Reachable) : w.heap.Named := by
  have kept : w.heap.Named ∧ w.heap.Built :=
    reachable.invariant (P := fun h => h.Named ∧ h.Built)
      ⟨fun c hc => by simp [Heap.initial, Store.contains] at hc, Heap.built_initial⟩
      (fun _ _ _ hs kept => ⟨kept.1.step kept.2 hs, kept.2.step hs⟩)
  exact kept.1

/-- A closed definition stays closed and keeps its body, whatever is done. -/
theorem Reaches.sameBody {w w' : World σ} {d : Ref .definition} (h : Reaches w w')
    (closed : w.heap.Closed d) (defined : w.heap.definitions.contains d = true) :
    w'.heap.Closed d ∧ (w.heap.definition d).SameBody (w'.heap.definition d) := by
  induction h with
  | refl => exact ⟨closed, .refl _⟩
  | @step u before a ih =>
    obtain ⟨closed', body⟩ := ih
    have defined' := (before.extends.definitions d defined).1
    have hs := perform_step u a
    exact ⟨closed'.step defined' hs, body.trans (closed'.sameBody defined' hs)⟩

/-- The definition of a class keeps its body if it is closed, whatever is done. -/
theorem Reaches.sameBody_class {w u : World σ} (later : w.Reaches u) (tidy : w.heap.Tidy)
    (built : w.heap.Built) {c : Ref .cls} (made : w.heap.classes.contains c = true) :
    (w.heap.classDefinition c).SameBody (u.heap.classDefinition c) := by
  rw [Heap.classDefinition, Heap.classDefinition, later.extends.class_eq made]
  exact (later.sameBody (tidy.closed c made) (built.defined c made)).2

theorem Orderly.tidy {client : σ} {as : List (Action σ)} (orderly : (initial client).Orderly as) :
    ((initial client).after as).heap.Tidy := by
  have kept : (fun h => h.Tidy ∧ h.Built ∧ h.Layered) ((initial client).after as).heap := by
    refine orderly.invariant (P := fun h => h.Tidy ∧ h.Built ∧ h.Layered)
      ⟨Heap.tidy_initial, Heap.built_initial, Heap.layered_initial⟩ ?_
    rintro a h h' hs inOrder ⟨tidy, built, layered⟩
    exact ⟨tidy.step built layered inOrder hs, built.step hs, layered.step hs⟩
  exact kept.1

end World

end ObjectModel
