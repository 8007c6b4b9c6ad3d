import ObjectModel.Proofs.HeapGrowth
import ObjectModel.Proofs.MemberTables
import ObjectModel.Proofs.ParentChains

/-!
# Invariants of definitions and layers

In every reachable heap no definition has a static, private or public member of the name of the
parent handle; the parent handle is stored in a private state exactly if the state has a parent,
and is then that parent; parents are older than their children; and the two views of a layer have
parents that belong together.
-/

namespace ObjectModel

namespace Definition

/-- No static, private or public member has the name of the parent handle. -/
def HandleFree (d : Definition) : Prop :=
  ∀ part, part ≠ .operators → (d.table part).contains (.text parentHandle) = false

theorem handleFree_named (name : Value) : (named name).HandleFree := by
  intro part hpart
  cases part <;> rfl

theorem table_extend (d : Definition) (part part' : Section) (t : Table Key Value) :
    (d.extend part t).table part' = if part' = part then (d.table part).merge t
      else d.table part' := by
  cases part <;> cases part' <;> rfl

theorem HandleFree.extend {d : Definition} (hd : d.HandleFree) {callable : Value → Bool}
    {part : Section} {t : Table Key Value} (fit : part.check callable t = .ok ()) :
    (d.extend part t).HandleFree := by
  intro part' hpart
  rw [table_extend]
  split
  · rename_i h
    subst h
    rw [Table.contains_merge, hd _ hpart, Section.not_contains_parentHandle hpart fit]
    rfl
  · exact hd part' hpart

theorem HandleFree.setStatic {d : Definition} (hd : d.HandleFree) {key : String}
    (declared : d.isStatic (.text key) = true) (v : Value) :
    (d.setStatic (.text key) v).HandleFree := by
  intro part hpart
  cases part with
  | statics =>
    have hne : (Key.text key == .text parentHandle) = false := by
      rw [Key.text_beq_text, decide_eq_false_iff_not]
      rintro rfl
      simp [isStatic, show d.statics.contains _ = false from hd .statics hpart] at declared
    change (d.statics.insert (.text key) v).contains _ = false
    rw [Table.contains_insert, hne, show d.statics.contains _ = false from hd .statics hpart]
    rfl
  | operators => exact absurd rfl hpart
  | privates => exact hd .privates hpart
  | publics => exact hd .publics hpart

theorem HandleFree.edited {callable : Value → Bool} {r r' : Definition} (free : r.HandleFree)
    (edited : r.Edited callable r') : r'.HandleFree := by
  cases edited with
  | kept => exact free
  | opened name => exact handleFree_named name
  | parent name => exact free
  | members fit => exact free.extend fit
  | setStatic v declared => exact free.setStatic declared v

end Definition

namespace Heap

variable {h h' : Heap}

/-- The parent handle names no member of any definition. -/
def HandleFree (h : Heap) : Prop := ∀ d, (h.definition d).HandleFree

theorem handleFree_initial : HandleFree initial := fun _ => Definition.handleFree_named _

theorem HandleFree.step {σ : Type} {a : Action σ} (free : h.HandleFree) (hs : h.Step a h') :
    h'.HandleFree :=
  fun d => (free d).edited (hs.edited d)

/-- How the views of all layers hang together. -/
structure Layered (h : Heap) : Prop where
  /-- Parent states are older. -/
  older : Older h.parentState
  /-- Parent facades are older. -/
  olderFacades : Older h.parentFacade
  /-- The parent handle is the link to the parent. -/
  handle : ∀ s, (h.fields s).find? parentHandle = (h.parentState s).map .state
  /-- A facade has a state. -/
  behind : ∀ f, h.facades.contains f = true → h.states.contains (h.facadeState f) = true
  /-- The state of the parent facade is the parent of the state. -/
  parallel : ∀ f, h.facades.contains f = true →
    (h.parentFacade f).map h.facadeState = h.parentState (h.facadeState f)

theorem layered_initial : Layered initial where
  older _ _ hp := by cases hp
  olderFacades _ _ hp := by cases hp
  handle _ := rfl
  behind _ hf := by simp [initial, Store.contains] at hf
  parallel _ hf := by simp [initial, Store.contains] at hf

/-- What the layers hang together by is unchanged if the states keep their parents and handles, and
the facades their states and parents. -/
theorem Layered.congr (layered : h.Layered)
    (parents : ∀ s, h'.parentState s = h.parentState s)
    (handles : ∀ s, (h'.fields s).find? parentHandle = (h.fields s).find? parentHandle)
    (states : ∀ s, h'.states.contains s = h.states.contains s)
    (above : ∀ f, h'.parentFacade f = h.parentFacade f)
    (behind : ∀ f, h'.facadeState f = h.facadeState f)
    (facades : ∀ f, h'.facades.contains f = h.facades.contains f) : h'.Layered := by
  have hs : h'.parentState = h.parentState := funext parents
  have hf : h'.parentFacade = h.parentFacade := funext above
  have hb : h'.facadeState = h.facadeState := funext behind
  refine ⟨?_, ?_, ?_, ?_, ?_⟩
  · rw [hs]; exact layered.older
  · rw [hf]; exact layered.olderFacades
  · intro s; rw [handles, hs]; exact layered.handle s
  · intro f hf'; rw [states, hb]; exact layered.behind f (facades f ▸ hf')
  · intro f hf'; rw [hf, hb, hs]; exact layered.parallel f (facades f ▸ hf')

section SetFields

variable (h) (s s' : Ref .state) (t : Table String Value)

theorem stateClass_setFields : (h.setFields s t).stateClass s' = h.stateClass s' := by
  simp only [stateClass, setFields, Store.get_modify]
  split <;> rfl

theorem parentState_setFields : (h.setFields s t).parentState s' = h.parentState s' := by
  simp only [parentState, setFields, Store.get_modify]
  split <;> rfl

theorem fields_setFields : (h.setFields s t).fields s' =
    if s = s' ∧ h.states.contains s' = true then t else h.fields s' := by
  simp only [fields, setFields, Store.get_modify]
  split <;> rfl

end SetFields

theorem Layered.setFields (layered : h.Layered) (s : Ref .state) {t : Table String Value}
    (kept : t.find? parentHandle = (h.fields s).find? parentHandle) :
    (h.setFields s t).Layered := by
  refine layered.congr (fun s' => parentState_setFields h s s' t) ?_ (by simp [Heap.setFields])
    (fun _ => rfl) (fun _ => rfl) (fun _ => rfl)
  intro s'
  rw [fields_setFields]
  split
  · rename_i hs
    rw [← hs.1]
    exact kept
  · rfl

theorem Layered.setExternal (layered : h.Layered) (f : Ref .facade) (t : Table String Value) :
    (h.setExternal f t).Layered := by
  refine layered.congr (fun _ => rfl) (fun _ => rfl) (fun _ => rfl) ?_ ?_
    (by simp [Heap.setExternal])
  all_goals
    intro f'
    simp only [parentFacade, facadeState, Heap.setExternal, Store.get_modify]
    split <;> rfl

theorem external_setExternal (h : Heap) (f g : Ref .facade) (t : Table String Value) :
    (h.setExternal f t).external g =
      if f = g ∧ h.facades.contains g = true then t else h.external g := by
  simp only [external, setExternal, Store.get_modify]
  split <;> rfl

section NewLayer

variable (h) (c : Ref .cls) (parent : Option (Ref .facade))

theorem parentState_newLayer (s : Ref .state) : (h.newLayer c parent).2.parentState s =
    if s = h.states.next then parent.map h.facadeState else h.parentState s := by
  change ((h.states.push _).get s).parent = _
  rw [Store.get_push]
  split <;> rfl

theorem fields_newLayer (s : Ref .state) : (h.newLayer c parent).2.fields s =
    if s = h.states.next then
      match parent.map h.facadeState with
      | some p => Table.ofList [(parentHandle, .state p)]
      | none => .empty
    else h.fields s := by
  change ((h.states.push _).get s).fields = _
  rw [Store.get_push]
  split <;> rfl

theorem stateClass_newLayer (s : Ref .state) : (h.newLayer c parent).2.stateClass s =
    if s = h.states.next then c else h.stateClass s := by
  change ((h.states.push _).get s).cls = _
  rw [Store.get_push]
  split <;> rfl

theorem parentFacade_newLayer (f : Ref .facade) : (h.newLayer c parent).2.parentFacade f =
    if f = h.facades.next then parent else h.parentFacade f := by
  change ((h.facades.push _).get f).parent = _
  rw [Store.get_push]
  split <;> rfl

theorem facadeState_newLayer (f : Ref .facade) : (h.newLayer c parent).2.facadeState f =
    if f = h.facades.next then h.states.next else h.facadeState f := by
  change ((h.facades.push _).get f).state = _
  rw [Store.get_push]
  split <;> rfl

theorem external_newLayer (f : Ref .facade) : (h.newLayer c parent).2.external f =
    if f = h.facades.next then .empty else h.external f := by
  change ((h.facades.push _).get f).external = _
  rw [Store.get_push]
  split <;> rfl

end NewLayer

theorem Layered.newLayer (layered : h.Layered) (c : Ref .cls) {parent : Option (Ref .facade)}
    (above : ∀ f, parent = some f → h.facades.contains f = true) :
    (h.newLayer c parent).2.Layered where
  older := by
    intro s p hp
    rw [parentState_newLayer] at hp
    split at hp
    · rename_i hs
      obtain ⟨f, hf, rfl⟩ := Option.map_eq_some_iff.mp hp
      have hlt := Store.contains_iff.mp (layered.behind f (above f hf))
      rw [hs]
      exact hlt
    · exact layered.older s p hp
  olderFacades := by
    intro f p hp
    rw [parentFacade_newLayer] at hp
    split at hp
    · rename_i hf
      have hlt := Store.contains_iff.mp (above p hp)
      rw [hf]
      exact hlt
    · exact layered.olderFacades f p hp
  handle := by
    intro s
    rw [fields_newLayer, parentState_newLayer]
    split
    · cases parent.map h.facadeState <;> rfl
    · exact layered.handle s
  behind := by
    intro f hf
    rw [facadeState_newLayer]
    split
    · exact Store.contains_push_next _ _
    · rename_i hne
      have hold := ((Store.contains_push_iff h.facades _ f).mp hf).resolve_right hne
      exact Store.contains_push _ (layered.behind f hold)
  parallel := by
    intro f hf
    have old (p : Ref .facade) (hp : h.facades.contains p = true) :
        (h.newLayer c parent).2.facadeState p = h.facadeState p := by
      rw [facadeState_newLayer, if_neg (Store.ne_next hp)]
    rw [parentFacade_newLayer, facadeState_newLayer, parentState_newLayer]
    by_cases hnew : f = h.facades.next
    · simp only [if_pos hnew, if_true]
      cases parent with
      | none => rfl
      | some p => simp [old p (above p rfl)]
    · have hold := ((Store.contains_push_iff h.facades _ f).mp hf).resolve_right hnew
      have hstate := Store.ne_next (layered.behind f hold)
      rw [if_neg hnew, if_neg hnew, if_neg hstate, ← layered.parallel f hold]
      cases hp : h.parentFacade f with
      | none => rfl
      | some p =>
        have hlt := layered.olderFacades f p hp
        have hpold : h.facades.contains p = true := by
          rw [Store.contains_iff] at hold ⊢
          omega
        simp [old p hpold]

/-- Where there is a child, its parent is there too. -/
theorem Layered.contains_parentState (layered : h.Layered) {s p : Ref .state}
    (link : h.parentState s = some p) : h.states.contains p = true := by
  have older := layered.older s p link
  cases made : h.states.contains s with
  | true =>
    rw [Store.contains_iff] at made ⊢
    omega
  | false =>
    rw [parentState, Store.get_of_not_contains made] at link
    cases link

theorem Layered.contains_parentFacade (layered : h.Layered) {f p : Ref .facade}
    (link : h.parentFacade f = some p) : h.facades.contains p = true := by
  have older := layered.olderFacades f p link
  cases made : h.facades.contains f with
  | true =>
    rw [Store.contains_iff] at made ⊢
    omega
  | false =>
    rw [parentFacade, Store.get_of_not_contains made] at link
    cases link

/-- All layers of a facade are there. -/
theorem Layered.contains_facadeLayers (layered : h.Layered) {f : Ref .facade}
    (made : h.facades.contains f = true) : ∀ g ∈ h.facadeLayers f, h.facades.contains g = true := by
  intro g hg
  have hle := (chain_ascend_index layered.olderFacades f).index_le layered.olderFacades g hg
  rw [Store.contains_iff] at made ⊢
  omega

theorem Layered.step {σ : Type} {a : Action σ} (layered : h.Layered) (hs : h.Step a h') :
    h'.Layered := by
  cases hs with
  | stay _ => exact layered
  | newCatalog | openBuilder _ _ | setParent _ _ _ | addMembers _ _ _ | closeBuilder _ _
  | declare _ | keep _ | register _ _ _ | registerOutside _ _ _ | setStatic _ _ _ _ =>
    exact layered.congr (fun _ => rfl) (fun _ => rfl) (fun _ => rfl) (fun _ => rfl) (fun _ => rfl)
      (fun _ => rfl)
  | newLayer made above => exact layered.newLayer _ above
  | @writeField s key v free undeclared =>
    have hne : (key == parentHandle) = false := by simpa using free
    exact layered.setFields s (Table.find?_insert_of_ne hne _ v)
  | @deleteField s key free =>
    have hne : (key == parentHandle) = false := by simpa using free
    exact layered.setFields s (Table.find?_erase_of_ne hne _)
  | addExternal f v undeclared => exact layered.setExternal f _
  | deleteExternal f key => exact layered.setExternal f _

end Heap

namespace World

variable {σ : Type} {w : World σ}

theorem Reachable.handleFree (h : w.Reachable) : w.heap.HandleFree :=
  h.invariant Heap.handleFree_initial (fun _ _ _ hs free => free.step hs)

theorem Reachable.layered (h : w.Reachable) : w.heap.Layered :=
  h.invariant Heap.layered_initial (fun _ _ _ hs layered => layered.step hs)

end World

end ObjectModel
