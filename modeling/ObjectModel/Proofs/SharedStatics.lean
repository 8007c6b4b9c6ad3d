import ObjectModel.Proofs.ClosedDefinitions

/-!
# Static members are shared

A static member is one cell, however it is looked at: through the class objects of its definition,
whatever names and catalogs they are registered under, through facades, or through private states.
In an orderly run each of them gives the value that was written last through any of them, or, if
none was, the value that was declared last.
-/

namespace ObjectModel

namespace Heap

/-- The heap `h'` is `h`, but for the value `v` of a static member of the definition `d`. -/
structure ChangesStatic (h : Heap) (d : Ref .definition) (key : String) (v : Value)
    (h' : Heap) : Prop where
  value : (h'.definition d).statics.find? (.text key) = some v
  siblings : ∀ k, (Key.text key == k) = false →
    (h'.definition d).statics.find? k = (h.definition d).statics.find? k
  body : (h.definition d).SameBody (h'.definition d)
  others : ∀ e, e ≠ d → h'.definition e = h.definition e
  catalogs : h'.catalogs = h.catalogs
  builders : h'.builders = h.builders
  declarations : h'.declarations = h.declarations
  classes : h'.classes = h.classes
  states : h'.states = h.states
  facades : h'.facades = h.facades

variable {σ : Type} {a : Action σ} {h h' : Heap} {d : Ref .definition} {key : String}

theorem definition_setStatic (h : Heap) (d e : Ref .definition) (key : String) (v : Value) :
    (h.setStatic d key v).definition e =
      if d = e ∧ h.definitions.contains e = true then (h.definition e).setStatic (.text key) v
      else h.definition e :=
  Store.get_modify _ _ _ _

theorem changesStatic_setStatic (defined : h.definitions.contains d = true)
    (declared : (h.definition d).isStatic (.text key) = true) (v : Value) :
    h.ChangesStatic d key v (h.setStatic d key v) := by
  have changed : (h.setStatic d key v).definition d = (h.definition d).setStatic (.text key) v := by
    rw [definition_setStatic, if_pos ⟨rfl, defined⟩]
  refine ⟨?_, fun k hk => ?_, ?_, fun e he => ?_, rfl, rfl, rfl, rfl, rfl, rfl⟩
  · rw [changed, Definition.setStatic, Table.find?_insert, beq_self_eq_true, if_pos rfl]
  · rw [changed]
    exact Table.find?_insert_of_ne hk _ _
  · rw [changed]
    exact Definition.sameBody_setStatic declared v
  · rw [definition_setStatic, if_neg (fun same => he same.1.symm)]

theorem Tidy.external_of_static (tidy : h.Tidy) {f : Ref .facade}
    (present : h.facades.contains f = true)
    (declared : (h.facadeDefinition f).isStatic (.text key) = true) :
    (h.external f).contains key = false := by
  cases written : (h.external f).contains key with
  | false => rfl
  | true => simp [tidy.apart f key present written] at declared

section Access

variable {view : View} {v : Value}

/-- No two views disagree about a static member that no method hides. -/
theorem Tidy.read_static (tidy : h.Tidy) (present : view.present h = true)
    (plain : isSpecial key = false)
    (notPrivate : (h.definition (view.definition h)).isPrivate (.text key) = false)
    (notPublic : (h.definition (view.definition h)).isPublic (.text key) = false)
    (value : (h.definition (view.definition h)).statics.find? (.text key) = some v) :
    view.read h key = .ok (.value v) := by
  have inside (s : Ref .state)
      (same : h.stateDefinition s = h.definition (view.definition h)) :
      h.readPrivate s key = .ok (.value v) := by
    have hp := (Table.find?_eq_none_iff _ _).mpr notPrivate
    have hq := (Table.find?_eq_none_iff _ _).mpr notPublic
    simp only [readPrivate, same, Definition.method?, hp, hq, value]
  cases view with
  | ofClass c =>
    have found : (h.classDefinition c).statics.find? (.text key) = some v := value
    simp only [View.read, readClass, plain, Bool.false_eq_true, if_false, found]
    rfl
  | ofState s => exact inside s rfl
  | ofFacade f =>
    have declared : (h.facadeDefinition f).isStatic (.text key) = true :=
      Table.contains_iff_find?.mpr ⟨v, value⟩
    have fresh : (h.external f).find? key = none :=
      (Table.find?_eq_none_iff _ _).mpr (tidy.external_of_static present declared)
    have hp : (h.facadeDefinition f).isPrivate (.text key) = false := notPrivate
    obtain ⟨above, levels⟩ : ∃ above, h.facadeLayers f = f :: above := ascend_eq_cons _ _ _
    simp only [View.read, readPublic, levels, readLevels, fresh, hp, declared, Bool.or_true,
      Bool.false_eq_true, if_false, if_true]
    exact inside (h.facadeState f) rfl

end Access

end Heap

namespace World

variable {σ : Type} {w : World σ} {a : Action σ} {view : View} {d : Ref .definition} {key : String}
  {v : Value}

/-- To write a static member never fails, and comes to the same through every view. -/
theorem run_write_static (tidy : w.heap.Tidy) (free : w.heap.HandleFree)
    (present : view.present w.heap = true)
    (declared : (w.heap.definition (view.definition w.heap)).isStatic (.text key) = true)
    (v : Value) :
    (view.write key v).run w =
      (.ok (), w.setHeap (w.heap.setStatic (view.definition w.heap) key v)) := by
  cases view with
  | ofClass c =>
    have made : w.heap.classes.contains c = true := present
    have static : (w.heap.classDefinition c).isStatic (.text key) = true := declared
    rw [View.write, Program.run_ask]
    simp only [perform, made, guarded, if_true, Heap.writeClass, static, update]
    rfl
  | ofFacade f =>
    have made : w.heap.facades.contains f = true := present
    have static : (w.heap.facadeDefinition f).isStatic (.text key) = true := declared
    have fresh := tidy.external_of_static made static
    rw [View.write, Program.run_ask]
    simp only [perform, made, guarded, if_true, writePublic, Heap.publicWrite, fresh, static,
      Bool.false_eq_true, if_false]
    rfl
  | ofState s =>
    have made : w.heap.states.contains s = true := present
    have static : (w.heap.stateDefinition s).isStatic (.text key) = true := declared
    have named : key ≠ parentHandle := by
      rintro rfl
      have unused : (w.heap.stateDefinition s).isStatic (.text parentHandle) = false :=
        free _ .statics (by decide)
      simp [unused] at static
    rw [View.write, Program.run_ask]
    simp only [perform, made, guarded, if_true, Heap.writePrivate, named, static, update, if_false]
    rfl

/-- The value that an action writes under a key through some view of a definition. -/
def written? (d : Ref .definition) (key : String) (w : World σ) (a : Action σ) : Option Value :=
  match a.write? with
  | some (view, k, v) =>
    if view.present w.heap = true ∧ view.definition w.heap = d ∧ k = key then some v else none
  | none => none

/-- The value that an action declares for a static member in the class body of a definition. -/
def declared? (d : Ref .definition) (key : String) (w : World σ) : Action σ → Option Value
  | .addMembers b .statics t =>
    if w.heap.builderDefinition b = d ∧ (w.perform (.addMembers b .statics t)).1.isOk = true then
      (Table.ofList t.entries).find? (.text key)
    else none
  | _ => none

theorem written?_eq_some : written? d key w a = some v ↔
    ∃ view, a = View.writing key v view ∧ view.present w.heap = true ∧
      view.definition w.heap = d := by
  simp only [written?]
  constructor
  · intro h
    split at h
    · rename_i view k v' ha
      split at h
      · rename_i seen
        obtain ⟨present, same, rfl⟩ := seen
        cases h
        exact ⟨view, Action.write?_eq_some.mp ha, present, same⟩
      · cases h
    · cases h
  · rintro ⟨view, ha, present, same⟩
    simp [Action.write?_eq_some.mpr ha, present, same]

theorem declared?_of_written? (h : written? d key w a = some v) : declared? d key w a = none := by
  obtain ⟨view, rfl, -, -⟩ := written?_eq_some.mp h
  cases view <;> rfl

theorem perform_addMembers (w : World σ) (b : Ref .builder) (part : Section)
    (t : Table Key Value) :
    (w.heap.builders.contains b = true ∧ w.heap.finalized b = false ∧
      w.perform (.addMembers b part t) =
        (.ok (), w.setHeap (w.heap.setDefinition (w.heap.builderDefinition b)
          ((w.heap.definition (w.heap.builderDefinition b)).extend part t)))) ∨
    ∃ e, w.perform (.addMembers b part t) = (.error e, w) := by
  rcases w.guarded_update_cases (w.heap.builders.contains b) (w.heap.addMembers b part t) with
    ⟨made, h, added, done⟩ | failed
  · obtain ⟨isOpen, -, rfl⟩ := Heap.addMembers_eq_ok added
    exact .inl ⟨made, isOpen, done⟩
  · exact .inr failed

/-- What is declared is declared by an open builder. -/
theorem declared?_eq_some (h : declared? d key w a = some v) :
    ∃ b t, a = .addMembers b .statics t ∧ w.heap.builderDefinition b = d ∧
      w.heap.builders.contains b = true ∧ w.heap.finalized b = false := by
  cases a with
  | addMembers b part t =>
    cases part with
    | statics =>
      simp only [declared?] at h
      split at h
      · rename_i done
        obtain ⟨same, ok⟩ := done
        rcases w.perform_addMembers b .statics t with ⟨made, isOpen, -⟩ | ⟨e, failed⟩
        · exact ⟨b, t, rfl, same, made, isOpen⟩
        · rw [failed] at ok
          cases ok
      · cases h
    | _ => cases h
  | _ => cases h

end World

namespace Heap

variable {σ : Type} {a : Action σ} {h h' : Heap} {d : Ref .definition} {key : String}

/-- Nothing but a write through one of the views or a declaration changes the value of a static
member. -/
theorem Step.find?_static (hs : h.Step a h')
    (unwritten : ∀ view v, a = View.writing key v view → view.present h = true →
      view.definition h = d → (h.definition d).isStatic (.text key) = false)
    (undeclared : ∀ b t, a = .addMembers b .statics t → h.builderDefinition b ≠ d) :
    (h'.definition d).statics.find? (.text key) = (h.definition d).statics.find? (.text key) := by
  cases hs with
  | stay _ | newCatalog | closeBuilder _ _ | declare _ | keep _ | register _ _ _ | newLayer _ _
  | writeField _ _ _ _ | deleteField _ _ | addExternal _ _ _ | deleteExternal _ _ => rfl
  | openBuilder name inCatalog | registerOutside name hooks inCatalog =>
    -- the definition that is pushed has no static members, and neither had its place before
    change ((h.definitions.push _).get d).statics.find? _ = _
    rw [Store.get_push]
    split
    · rename_i new
      rw [definition, new, Store.get_of_not_contains (Store.contains_next _)]
      rfl
    · rfl
  | setParent name made isOpen =>
    change ((h.definitions.set _ _).get d).statics.find? _ = _
    rw [Store.get_set]
    split
    · rename_i same
      rw [same.1]
    · rfl
  | @addMembers b part t made isOpen fit =>
    change ((h.definitions.set _ _).get d).statics.find? _ = _
    rw [Store.get_set]
    split
    · rename_i same
      cases part with
      | statics => exact absurd same.1 (undeclared b t rfl)
      | privates | publics | operators => rw [same.1]; rfl
    · rfl
  | @setStatic view k v present declared =>
    rw [definition_setStatic]
    split
    · rename_i same
      refine Table.find?_insert_of_ne ?_ _ _
      rw [Key.text_beq_text, decide_eq_false_iff_not]
      rintro rfl
      rw [same.1] at declared
      simp [unwritten view v rfl present same.1] at declared
    · rfl

end Heap

namespace World

variable {σ : Type} {w : World σ} {a : Action σ} {d : Ref .definition} {key : String} {v : Value}

theorem find?_perform_of_written? (tidy : w.heap.Tidy) (built : w.heap.Built)
    (layered : w.heap.Layered) (free : w.heap.HandleFree) (written : written? d key w a = some v) :
    ((w.perform a).2.heap.definition d).statics.find? (.text key) =
      ((w.heap.definition d).statics.find? (.text key)).map (fun _ => v) := by
  obtain ⟨view, rfl, present, rfl⟩ := written?_eq_some.mp written
  cases declared : (w.heap.definition (view.definition w.heap)).isStatic (.text key) with
  | true =>
    have run := run_write_static tidy free present declared v
    have after : (w.perform (view.writing key v)).2 = ((view.write key v).run w).2 := by
      cases view <;> exact congrArg Prod.snd (Program.run_ask _ w).symm
    rw [after, run, heap_setHeap,
      (Heap.changesStatic_setStatic (built.contains_definition layered present) declared v).value]
    obtain ⟨x, hx⟩ := Table.contains_iff_find?.mp declared
    rw [hx]
    rfl
  | false =>
    rw [(perform_step w _).find?_static (fun _ _ _ _ _ => declared) (fun b t same => ?_)]
    · rw [(Table.find?_eq_none_iff _ _).mpr declared]
      rfl
    · cases view <;> cases same

theorem find?_perform_addMembers (built : w.heap.Built) {b : Ref .builder} (t : Table Key Value)
    (same : w.heap.builderDefinition b = d) :
    ((w.perform (.addMembers b .statics t)).2.heap.definition d).statics.find? (.text key) =
      (declared? d key w (.addMembers b .statics t)).or
        ((w.heap.definition d).statics.find? (.text key)) := by
  subst same
  rcases w.perform_addMembers b .statics t with ⟨made, -, done⟩ | ⟨e, failed⟩
  · have declares : declared? (w.heap.builderDefinition b) key w (.addMembers b .statics t) =
        (Table.ofList t.entries).find? (.text key) := by
      rw [declared?, done]
      exact if_pos ⟨rfl, rfl⟩
    rw [declares, done, ← Table.find?_merge]
    change ((w.heap.definitions.set _ _).get _).statics.find? _ = _
    rw [Store.get_set_self (built.owned b made)]
    rfl
  · have silent :
        declared? (w.heap.builderDefinition b) key w (.addMembers b .statics t) = none := by
      rw [declared?, failed]
      exact if_neg (fun ok => nomatch ok.2)
    rw [silent, failed]
    rfl

theorem find?_perform_of_not_written? (built : w.heap.Built)
    (unwritten : written? d key w a = none) :
    ((w.perform a).2.heap.definition d).statics.find? (.text key) =
      (declared? d key w a).or ((w.heap.definition d).statics.find? (.text key)) := by
  by_cases declares : ∃ b t, a = .addMembers b .statics t ∧ w.heap.builderDefinition b = d
  · obtain ⟨b, t, rfl, same⟩ := declares
    exact find?_perform_addMembers built t same
  · have silent : declared? d key w a = none := by
      cases declared : declared? d key w a with
      | none => rfl
      | some x =>
        obtain ⟨b, t, rfl, same, -⟩ := declared?_eq_some declared
        exact absurd ⟨b, t, rfl, same⟩ declares
    rw [silent]
    refine (perform_step w a).find?_static (fun view v ha present same => ?_)
      (fun b t ha same => ?_)
    · have written := written?_eq_some.mpr ⟨view, ha, present, same⟩
      simp [unwritten] at written
    · exact declares ⟨b, t, ha, same⟩

/-- Once something was written through a view, a class has been made for the definition. -/
theorem last_written?_eq_some {client : σ} {as : List (Action σ)}
    (written : (initial client).last (written? d key) as = some v) :
    ∃ c, ((initial client).after as).heap.classes.contains c = true ∧
      (((initial client).after as).heap.classes.get c).definition = d := by
  induction as using List.reverseRecOn generalizing v with
  | nil => cases written
  | append_singleton as a ih =>
    have reachable := reachable_after client as
    have kept := (Reaches.perform ((initial client).after as) a).extends.classes
    rw [last_concat, Option.or_eq_some_iff] at written
    rw [after_concat]
    rcases written with now | ⟨-, before⟩
    · obtain ⟨view, -, present, rfl⟩ := written?_eq_some.mp now
      have made := reachable.built.contains_cls reachable.layered present
      exact ⟨_, (kept _ made).1, congrArg Class.definition (kept _ made).2⟩
    · obtain ⟨c, made, rfl⟩ := ih before
      exact ⟨c, (kept c made).1, congrArg Class.definition (kept c made).2⟩

/-- A static member has the value that was declared last, unless something was written since. -/
theorem Orderly.find?_static {client : σ} {as : List (Action σ)}
    (orderly : (initial client).Orderly as) (d : Ref .definition) (key : String) :
    (((initial client).after as).heap.definition d).statics.find? (.text key) =
      ((initial client).last (declared? d key) as).map
        (fun v => ((initial client).last (written? d key) as).getD v) := by
  induction as using List.reverseRecOn with
  | nil => rfl
  | append_singleton as a ih =>
    obtain ⟨before, -⟩ := orderly_concat.mp orderly
    have reachable := reachable_after client as
    rw [after_concat, last_concat, last_concat]
    cases written : written? d key ((initial client).after as) a with
    | some v =>
      rw [find?_perform_of_written? before.tidy reachable.built reachable.layered
        reachable.handleFree written, ih before, declared?_of_written? written, Option.map_map]
      rfl
    | none =>
      rw [find?_perform_of_not_written? reachable.built written, ih before, Option.none_or]
      cases declared : declared? d key ((initial client).after as) a with
      | none => rfl
      | some x =>
        -- a class body that still takes declarations has no views to write through
        cases earlier : (initial client).last (written? d key) as with
        | none => rfl
        | some v =>
          obtain ⟨c, made, rfl⟩ := last_written?_eq_some earlier
          obtain ⟨b, t, -, same, there, isOpen⟩ := declared?_eq_some declared
          simp [before.tidy.closed c made b there same] at isOpen

/-- All views of a definition give the value `v` for a static member, and each of them can change it
for all of them, and for nothing else. -/
structure OneCell (w : World σ) (d : Ref .definition) (key : String) (v : Value) : Prop where
  read : ∀ view : View, view.present w.heap = true → view.definition w.heap = d →
    view.read w.heap key = .ok (.value v)
  write : ∀ (view : View) (v' : Value), view.present w.heap = true → view.definition w.heap = d →
    ∃ h', (view.write key v').run w = (.ok (), w.setHeap h') ∧ w.heap.ChangesStatic d key v' h'

theorem Orderly.oneCell {client : σ} {as : List (Action σ)} (orderly : (initial client).Orderly as)
    (plain : isSpecial key = false)
    (notPrivate : (((initial client).after as).heap.definition d).isPrivate (.text key) = false)
    (notPublic : (((initial client).after as).heap.definition d).isPublic (.text key) = false)
    (value : (((initial client).after as).heap.definition d).statics.find? (.text key) = some v) :
    ((initial client).after as).OneCell d key v where
  read := by
    rintro view present rfl
    exact orderly.tidy.read_static present plain notPrivate notPublic value
  write := by
    rintro view v' present rfl
    have reachable := reachable_after client as
    have declared : (((initial client).after as).heap.definition
        (view.definition ((initial client).after as).heap)).isStatic (.text key) = true :=
      Table.contains_iff_find?.mpr ⟨v, value⟩
    exact ⟨_, run_write_static orderly.tidy reachable.handleFree present declared v',
      Heap.changesStatic_setStatic
        (reachable.built.contains_definition reachable.layered present) declared v'⟩

theorem perform_writeClass_of_not_static {c : Ref .cls} (made : w.heap.classes.contains c = true)
    (undeclared : (w.heap.classDefinition c).isStatic (.text key) = false) (v : Value) :
    w.perform (.writeClass c key v) = (.error (.notStatic key (w.heap.className c)), w) := by
  simp [perform, guarded, made, Heap.writeClass, undeclared, update]

/-- In every orderly run, the static members of a definition that no method hides are shared by all
of its views: each view gives the value that was written last through any of them, or declared last,
and each can be written through, which changes nothing else. No key that was written onto a facade
from outside is a static member of its class, and nothing but static members can be assigned on a
class object. -/
theorem statics_shared {client : σ} {as : List (Action σ)}
    (orderly : (initial client).Orderly as) :
    let w := (initial client).after as
    (∀ d key, isSpecial key = false → (w.heap.definition d).isStatic (.text key) = true →
      (w.heap.definition d).isPrivate (.text key) = false →
      (w.heap.definition d).isPublic (.text key) = false →
      ∃ v, ((initial client).last (written? d key) as).or
          ((initial client).last (declared? d key) as) = some v ∧ w.OneCell d key v) ∧
    (∀ f key, w.heap.facades.contains f = true → (w.heap.external f).contains key = true →
      (w.heap.facadeDefinition f).isStatic (.text key) = false) ∧
    ∀ c key v, w.heap.classes.contains c = true →
      (w.heap.classDefinition c).isStatic (.text key) = false →
      ∃ e, e.kind = .accessError ∧ w.perform (.writeClass c key v) = (.error e, w) := by
  intro w
  refine ⟨fun d key plain declared notPrivate notPublic => ?_, orderly.tidy.apart,
    fun c key v made undeclared => ?_⟩
  · have current := orderly.find?_static d key
    obtain ⟨v, value⟩ := Table.contains_iff_find?.mp declared
    refine ⟨v, ?_, orderly.oneCell plain notPrivate notPublic value⟩
    rw [value] at current
    obtain ⟨x, first, rfl⟩ := Option.map_eq_some_iff.mp current.symm
    rw [first]
    cases (initial client).last (written? d key) as <;> rfl
  · exact ⟨_, rfl, perform_writeClass_of_not_static made undeclared v⟩

end World

namespace Program

/-- A class that is registered in two catalogs, and another one that extends it and declares the
same static member. Of the derived class there is an instance, and the member of its root is
written. -/
def sharedCount : List (Action Unit) :=
  let catalog := Heap.defaultCatalog
  [ .openBuilder catalog (.text "Base"),
    .addMembers ⟨0⟩ .statics (.ofList [(.text "count", .int 0)]),
    .closeBuilder ⟨0⟩,
    .register catalog ⟨0⟩,
    .newCatalog,
    .register ⟨1⟩ ⟨0⟩,
    .openBuilder catalog (.text "Derived"),
    .setParent ⟨1⟩ (.text "Base"),
    .addMembers ⟨1⟩ .statics (.ofList [(.text "count", .int 10)]),
    .closeBuilder ⟨1⟩,
    .register catalog ⟨1⟩,
    .newLayer ⟨0⟩ none,
    .newLayer ⟨2⟩ (some ⟨0⟩),
    .writePublic ⟨0⟩ "count" (.int 5)]

theorem orderly_sharedCount : (World.initial ()).Orderly sharedCount := by
  refine ⟨trivial, trivial, trivial, ?_, trivial, ?_, trivial, trivial, trivial, trivial, ?_,
    trivial, trivial, trivial, trivial⟩
  all_goals
    change Heap.Closed _ _
    decide

def sharedCountWorld : World Unit := (World.initial ()).after sharedCount

end Program

theorem statics_shared_sharedCount :
    (World.initial ()).Orderly Program.sharedCount ∧
    Program.sharedCountWorld.OneCell ⟨0⟩ "count" (.int 5) ∧
    Program.sharedCountWorld.OneCell ⟨1⟩ "count" (.int 10) := by
  have shared := (World.statics_shared Program.orderly_sharedCount).1
  have base : ((World.initial ()).last (World.written? ⟨0⟩ "count") Program.sharedCount).or
      ((World.initial ()).last (World.declared? ⟨0⟩ "count") Program.sharedCount) =
        some (.int 5) := by decide +kernel
  have derived : ((World.initial ()).last (World.written? ⟨1⟩ "count") Program.sharedCount).or
      ((World.initial ()).last (World.declared? ⟨1⟩ "count") Program.sharedCount) =
        some (.int 10) := by decide +kernel
  obtain ⟨v, hv, cell⟩ := shared ⟨0⟩ "count" (by decide) (by decide +kernel) (by decide +kernel)
    (by decide +kernel)
  obtain ⟨v', hv', cell'⟩ := shared ⟨1⟩ "count" (by decide) (by decide +kernel)
    (by decide +kernel) (by decide +kernel)
  obtain rfl : Value.int 5 = v := Option.some.inj (base.symm.trans hv)
  obtain rfl : Value.int 10 = v' := Option.some.inj (derived.symm.trans hv')
  exact ⟨Program.orderly_sharedCount, cell, cell'⟩

end ObjectModel
