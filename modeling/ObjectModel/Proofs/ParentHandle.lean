import ObjectModel.Proofs.LayerInvariants

/-!
# The parent handle

A private state knows its parent layer twice, by a link and by a field that client code can name.
The two agree at every moment of every program, also while a constructor is running: no operation
through any view can store, change or remove the field. The layers of a facade run in parallel to
those of its state, and neither ever change once they are made.
-/

namespace ObjectModel

namespace Heap

variable {h h' : Heap}

/-- The state that reading the parent handle gives, if that does not fail. -/
def handleOf (h : Heap) (s : Ref .state) : Option (Ref .state) :=
  match h.readPrivate s parentHandle with
  | .ok (.value (.state p)) => some p
  | _ => none

/-- How a private state hangs together with the layers above it. -/
structure StateLaws (h : Heap) (s : Ref .state) : Prop where
  /-- The layers are found by following the links until there is none. -/
  linked : Chain h.parentState s (h.layers s)
  /-- They are also found by reading the parent handle until that fails. -/
  handled : Chain h.handleOf s (h.layers s)
  nodup : (h.layers s).Nodup
  /-- The handle is stored exactly if there is a parent, and is the parent. -/
  stored : (h.fields s).find? parentHandle = (h.parentState s).map .state
  /-- Reading the handle and asking for the parent give the same state, or both find none. -/
  agree : (∃ p, h.readPrivate s parentHandle = .ok (.value (.state p)) ∧ h.base s = .ok p) ∨
    ∃ e e', h.readPrivate s parentHandle = .error e ∧ h.base s = .error e' ∧
      e.kind = .undefinedMemberError ∧ e'.kind = .undefinedMemberError

/-- How a facade hangs together with its state. -/
structure FacadeLaws (h : Heap) (f : Ref .facade) : Prop where
  linked : Chain h.parentFacade f (h.facadeLayers f)
  /-- There is a parent facade exactly if the state has a parent, whose facade it is. -/
  parent : (h.parentFacade f).map h.facadeState = h.parentState (h.facadeState f)
  parallel : (h.facadeLayers f).map h.facadeState = h.layers (h.facadeState f)
  /-- From outside there is no handle but what was written there under its name. -/
  read : (∃ v, (h.external f).find? parentHandle = some v ∧
      h.readPublic f parentHandle = .ok (.value v)) ∨
    ∃ e, (h.external f).find? parentHandle = none ∧ h.readPublic f parentHandle = .error e ∧
      e.kind = .undefinedMemberError

section Handle

variable (free : h.HandleFree)

include free

theorem HandleFree.find?_eq_none (d : Ref .definition) (part : Section) (hpart : part ≠ .operators) :
    ((h.definition d).table part).find? (.text parentHandle) = none :=
  (Table.find?_eq_none_iff _ _).mpr (free d part hpart)

theorem HandleFree.readPrivate (s : Ref .state) :
    h.readPrivate s parentHandle =
      match (h.fields s).find? parentHandle with
      | some v => .ok (.value v)
      | none => .error (.noMember (h.stateDefinition s).name parentHandle) := by
  have hp : (h.stateDefinition s).privates.find? (.text parentHandle) = none :=
    free.find?_eq_none _ .privates (by decide)
  have hq : (h.stateDefinition s).publics.find? (.text parentHandle) = none :=
    free.find?_eq_none _ .publics (by decide)
  have hs : (h.stateDefinition s).statics.find? (.text parentHandle) = none :=
    free.find?_eq_none _ .statics (by decide)
  cases hf : (h.fields s).find? parentHandle with
  | some v => simp [Heap.readPrivate, Definition.method?, hp, hq, hs, hf]
  | none => simp [Heap.readPrivate, Definition.method?, hp, hq, hs, hf]

theorem HandleFree.readPublic (f : Ref .facade) :
    h.readPublic f parentHandle =
      match (h.external f).find? parentHandle with
      | some v => .ok (.value v)
      | none => .error (.noPublicMember parentHandle) := by
  have hp (g : Ref .facade) : (h.facadeDefinition g).isPrivate (.text parentHandle) = false :=
    free _ .privates (by decide)
  have hq (g : Ref .facade) : (h.facadeDefinition g).isPublic (.text parentHandle) = false :=
    free _ .publics (by decide)
  have hs (g : Ref .facade) : (h.facadeDefinition g).isStatic (.text parentHandle) = false :=
    free _ .statics (by decide)
  obtain ⟨above, habove⟩ : ∃ above, h.facadeLayers f = f :: above := ascend_eq_cons _ _ _
  simp only [Heap.readPublic, habove, readLevels, hp, hq, hs]
  cases (h.external f).find? parentHandle <;> simp

end Handle

theorem Layered.facadeLayers_map (layered : h.Layered) {f : Ref .facade}
    (hf : h.facades.contains f = true) :
    (h.facadeLayers f).map h.facadeState = h.layers (h.facadeState f) := by
  have above := chain_ascend_index layered.olderFacades f
  refine (above.map h.facadeState ?_).unique (chain_ascend_index layered.older _)
  exact fun g hg => layered.parallel g (layered.contains_facadeLayers hf g hg)

theorem handleOf_eq_parentState (free : h.HandleFree) (layered : h.Layered) :
    h.handleOf = h.parentState := by
  funext s
  simp only [handleOf, free.readPrivate, layered.handle]
  cases h.parentState s <;> rfl

theorem stateLaws (free : h.HandleFree) (layered : h.Layered) (s : Ref .state) :
    h.StateLaws s where
  linked := chain_ascend_index layered.older s
  handled := by
    rw [handleOf_eq_parentState free layered]
    exact chain_ascend_index layered.older s
  nodup := (chain_ascend_index layered.older s).nodup layered.older
  stored := layered.handle s
  agree := by
    simp only [free.readPrivate, layered.handle, Heap.base]
    cases h.parentState s with
    | some p => exact .inl ⟨p, rfl, rfl⟩
    | none => exact .inr ⟨_, _, rfl, rfl, rfl, rfl⟩

theorem facadeLaws (free : h.HandleFree) (layered : h.Layered) {f : Ref .facade}
    (hf : h.facades.contains f = true) : h.FacadeLaws f where
  linked := chain_ascend_index layered.olderFacades f
  parent := layered.parallel f hf
  parallel := layered.facadeLayers_map hf
  read := by
    rw [free.readPublic]
    cases (h.external f).find? parentHandle with
    | some v => exact .inl ⟨v, rfl, rfl⟩
    | none => exact .inr ⟨_, rfl, rfl, rfl⟩

/-- The layers of an object that was there before are what they were. -/
theorem ascend_eq_of_same {role : Role} {parent parent' : Ref role → Option (Ref role)}
    (older : Older parent) (older' : Older parent') {x : Ref role}
    (same : ∀ y : Ref role, y.index ≤ x.index → parent' y = parent y) :
    ascend parent' x.index x = ascend parent x.index x := by
  have before := chain_ascend_index older x
  refine (chain_ascend_index older' x).unique (before.congr ?_)
  intro y hy
  exact same y (before.index_le older y hy)

theorem Extends.layers_eq (he : Extends h h') (layered : h.Layered) (layered' : h'.Layered)
    {s : Ref .state} (hs : h.states.contains s = true) : h'.layers s = h.layers s := by
  refine ascend_eq_of_same layered.older layered'.older (fun t ht => he.parentState_eq ?_)
  rw [Store.contains_iff] at hs ⊢
  omega

theorem Extends.facadeLayers_eq (he : Extends h h') (layered : h.Layered)
    (layered' : h'.Layered) {f : Ref .facade} (hf : h.facades.contains f = true) :
    h'.facadeLayers f = h.facadeLayers f := by
  refine ascend_eq_of_same layered.olderFacades layered'.olderFacades
    (fun g hg => he.parentFacade_eq ?_)
  rw [Store.contains_iff] at hf ⊢
  omega

end Heap

namespace World

variable {σ : Type} {w w' : World σ}

theorem perform_writePrivate_parentHandle {s : Ref .state}
    (hs : w.heap.states.contains s = true) (v : Value) :
    w.perform (.writePrivate s parentHandle v) =
      (.error (.parentAssigned (w.heap.stateDefinition s).name), w) := by
  simp [perform, guarded, hs, Heap.writePrivate, update]

theorem perform_deletePrivate_parentHandle {s : Ref .state}
    (hs : w.heap.states.contains s = true) :
    w.perform (.deletePrivate s parentHandle) = (.error .parentDeleted, w) := by
  simp [perform, guarded, hs, Heap.deletePrivate, update]

end World

/-- At every moment of every program, also while a constructor is running, all states and facades
keep to the laws of their layers. Writes and deletes of the parent handle are refused and change
nothing, and whatever is done afterwards, the layers stay what they are. -/
theorem layers_at_every_moment {σ α : Type} {client : σ} {p : Program σ α} {w : World σ}
    (moment : p.Visits (.initial client) w) :
    (∀ s, w.heap.states.contains s = true →
      w.heap.StateLaws s ∧
      (∀ v, ∃ e, e.kind = .accessError ∧
        w.perform (.writePrivate s parentHandle v) = (.error e, w)) ∧
      (∃ e, e.kind = .accessError ∧
        w.perform (.deletePrivate s parentHandle) = (.error e, w)) ∧
      ∀ w', w.Reaches w' →
        w'.heap.parentState s = w.heap.parentState s ∧ w'.heap.layers s = w.heap.layers s) ∧
    ∀ f, w.heap.facades.contains f = true →
      w.heap.FacadeLaws f ∧
      ∀ w', w.Reaches w' → w'.heap.facadeState f = w.heap.facadeState f ∧
        w'.heap.parentFacade f = w.heap.parentFacade f ∧
        w'.heap.facadeLayers f = w.heap.facadeLayers f := by
  have reachable := World.reachable_iff_visited.mpr ⟨α, client, p, moment⟩
  have layered := reachable.layered
  constructor
  · intro s hs
    refine ⟨Heap.stateLaws reachable.handleFree layered s, fun v => ?_, ?_, fun w' later => ?_⟩
    · exact ⟨_, rfl, World.perform_writePrivate_parentHandle hs v⟩
    · exact ⟨_, rfl, World.perform_deletePrivate_parentHandle hs⟩
    · have layered' := (reachable.after later).layered
      exact ⟨later.extends.parentState_eq hs, later.extends.layers_eq layered layered' hs⟩
  · intro f hf
    refine ⟨Heap.facadeLaws reachable.handleFree layered hf, fun w' later => ?_⟩
    have layered' := (reachable.after later).layered
    exact ⟨later.extends.facadeState_eq hf, later.extends.parentFacade_eq hf,
      later.extends.facadeLayers_eq layered layered' hf⟩

/-- A moment in the middle: three layers are there, and what follows writes the name of the handle
onto the lowest facade. -/
theorem layers_at_every_moment_threeLayers :
    (Program.threeLayers >>= fun _ => do
        ask (.setAllowWriting true)
        ask (.writePublic ⟨2⟩ parentHandle .null)).Visits
      (.initial ()) Program.threeLayersWorld ∧
    Program.threeLayersWorld.heap.StateLaws ⟨2⟩ ∧
    Program.threeLayersWorld.heap.FacadeLaws ⟨2⟩ ∧
    Program.threeLayersWorld.heap.layers ⟨2⟩ = [⟨2⟩, ⟨1⟩, ⟨0⟩] := by
  have moment := (Program.visits_run Program.threeLayers (.initial ())).bind
    (fun _ => do
      ask (.setAllowWriting true)
      ask (.writePublic ⟨2⟩ parentHandle .null))
  have laws := layers_at_every_moment moment
  exact ⟨moment, (laws.1 ⟨2⟩ rfl).1, (laws.2 ⟨2⟩ rfl).1, rfl⟩

end ObjectModel
