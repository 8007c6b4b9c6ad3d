import ObjectModel.Proofs.ClosedDefinitions
import ObjectModel.Script.Attributes

/-!
# Well-formed definitions

Whatever is done to the definition of a class, in whichever order and with whatever failures in
between: its methods and hooks can be called, the parent handle names none of its members, and its
hooks have special names that leave alone the access to members. A class gets its hooks from its
definition, and an instance without reserved hooks is read and written by the rules.
-/

namespace ObjectModel

namespace Definition

/-- Every section of a definition has entries that it takes. -/
def WellFormed (callable : Value → Bool) (r : Definition) : Prop :=
  ∀ part, (r.table part).Entries part.TakesKey (part.TakesValue callable)

variable {callable callable' : Value → Bool} {r r' : Definition}

theorem wellFormed_named (name : Value) : (named name).WellFormed callable := by
  intro part
  cases part <;> exact Table.entries_empty

theorem WellFormed.mono (wellFormed : r.WellFormed callable)
    (more : ∀ v, callable v = true → callable' v = true) : r.WellFormed callable' :=
  fun part => (wellFormed part).mono (fun _ takes => takes.mono more)

theorem WellFormed.edited (wellFormed : r.WellFormed callable) (edited : r.Edited callable r') :
    r'.WellFormed callable := by
  cases edited with
  | kept => exact wellFormed
  | opened name => exact wellFormed_named name
  | parent name => exact fun part => wellFormed part
  | @members part t fit =>
    intro part'
    rw [table_extend]
    split
    · rename_i same
      subst same
      exact (wellFormed part').merge (Section.check_eq_ok.mp fit)
    · exact wellFormed part'
  | @setStatic key v declared =>
    intro part
    cases part with
    | statics =>
      obtain ⟨old, found⟩ := Table.contains_iff_find?.mp declared
      obtain ⟨-, k, free, same⟩ := (wellFormed .statics).find? found
      refine (wellFormed .statics).insert ?_ trivial
      exact (BEq.congr_left same).symm.trans free
    | privates => exact wellFormed .privates
    | publics => exact wellFormed .publics
    | operators => exact wellFormed .operators

end Definition

namespace Heap

variable {σ : Type} {a : Action σ} {h h' : Heap}

/-- What can be called can be called for ever. -/
theorem Extends.callable (he : Extends h h') (built : h.Built) (layered : h.Layered) {v : Value}
    (callable : h.callable v = true) : h'.callable v = true := by
  -- a state keeps its class, and the class keeps its hooks
  have state {s : Ref .state} (made : h.states.contains s = true)
      (hook : (h.hook? (h.stateClass s) "__call__").isSome = true) :
      (h'.hook? (h'.stateClass s) "__call__").isSome = true := by
    rw [he.stateClass_eq made, hook?, he.class_eq (built.made s made)]
    exact hook
  cases v with
  | state s =>
    simp only [Heap.callable, Bool.and_eq_true] at callable ⊢
    exact ⟨(he.states s callable.1).1, state callable.1 callable.2⟩
  | facade f =>
    simp only [Heap.callable, Bool.and_eq_true] at callable ⊢
    refine ⟨(he.facades f callable.1).1, ?_⟩
    have behind := state (layered.behind f callable.1) callable.2
    rwa [← he.facadeState_eq callable.1] at behind
  | _ => exact callable

/-- The definition of a class was opened by a builder. -/
def Opened (h : Heap) (c : Ref .cls) : Prop :=
  ∃ b, h.builders.contains b = true ∧ h.builderDefinition b = (h.classes.get c).definition

/-- All definitions are well-formed, and so are the hooks of the classes that were made for them. -/
structure WellFormed (h : Heap) : Prop where
  definitions : ∀ d, (h.definition d).WellFormed h.callable
  hooks : ∀ c, h.classes.contains c = true → h.Opened c →
    (h.classes.get c).operators.Entries (Section.operators.TakesKey)
      (Section.operators.TakesValue h.callable)

theorem wellFormed_initial : WellFormed initial where
  definitions _ := Definition.wellFormed_named _
  hooks _ hc := by simp [initial, Store.contains] at hc

/-- A builder that was not there before has the definition that comes next. -/
theorem Step.builder (hs : h.Step a h') {b : Ref .builder} (hb : h'.builders.contains b = true) :
    h.builders.contains b = true ∨ h'.builderDefinition b = h.definitions.next := by
  cases hs with
  | openBuilder name inCatalog =>
    refine ((Store.contains_push_iff h.builders _ b).mp hb).imp_right (fun new => ?_)
    subst new
    exact congrArg Builder.definition (Store.get_push_next h.builders _)
  | closeBuilder _ _ => exact .inl (by simpa using hb)
  | _ => exact .inl hb

/-- The definition of a class that is there is opened when the builder is, and not later. -/
theorem Opened.of_step {c : Ref .cls} (opened : h'.Opened c) (built : h.Built) (hs : h.Step a h')
    (made : h.classes.contains c = true) : h.Opened c := by
  obtain ⟨b, hb, owns⟩ := opened
  rw [hs.extends.class_eq made] at owns
  rcases hs.builder hb with old | new
  · exact ⟨b, old, (hs.extends.builderDefinition_eq old).symm.trans owns⟩
  · exact absurd (owns.symm.trans new) (Store.ne_next (built.defined c made))

theorem WellFormed.step (wellFormed : h.WellFormed) (built : h.Built) (layered : h.Layered)
    (hs : h.Step a h') : h'.WellFormed := by
  have more (v : Value) : h.callable v = true → h'.callable v = true :=
    hs.extends.callable built layered
  refine ⟨fun d => ((wellFormed.definitions d).edited (hs.edited d)).mono more, ?_⟩
  intro c hc opened
  have old (there : h.classes.contains c = true) :
      (h'.classes.get c).operators.Entries Section.operators.TakesKey
        (Section.operators.TakesValue h'.callable) := by
    rw [hs.extends.class_eq there]
    exact (wellFormed.hooks c there (opened.of_step built hs there)).mono more
  cases hs with
  | @register k d name inCatalog defined named =>
    rcases (Store.contains_push_iff h.classes _ c).mp hc with there | rfl
    · exact old there
    · change ((h.classes.push _).get h.classes.next).operators.Entries _ _
      rw [Store.get_push_next]
      exact ((wellFormed.definitions d) .operators).mono more
  | @registerOutside k name hooks inCatalog =>
    rcases (Store.contains_push_iff h.classes _ c).mp hc with there | rfl
    · exact old there
    · obtain ⟨b, hb, owns⟩ := opened
      change h.builderDefinition b = ((h.classes.push _).get h.classes.next).definition at owns
      rw [Store.get_push_next] at owns
      exact absurd owns (Store.ne_next (built.owned b hb))
  | _ => exact old hc

theorem WellFormed.hook?_eq_none (wellFormed : h.WellFormed) {c : Ref .cls}
    (made : h.classes.contains c = true) (opened : h.Opened c) {name : String}
    (reserved : name ∈ reservedOperators) : h.hook? c name = none := by
  cases found : h.hook? c name with
  | none => rfl
  | some f =>
    obtain ⟨-, key, ⟨hook, rfl, isHook⟩, same⟩ := (wellFormed.hooks c made opened).find? found
    rw [Key.text_beq_text, decide_eq_true_eq] at same
    subst same
    exact absurd reserved isHook.free

end Heap

namespace World

variable {σ : Type} {w : World σ}

theorem Reachable.wellFormed (h : w.Reachable) : w.heap.WellFormed := by
  have kept : (fun h => h.WellFormed ∧ h.Built ∧ h.Layered) w.heap := by
    refine h.invariant (P := fun h => h.WellFormed ∧ h.Built ∧ h.Layered)
      ⟨Heap.wellFormed_initial, Heap.built_initial, Heap.layered_initial⟩ ?_
    rintro a h h' hs ⟨wellFormed, built, layered⟩
    exact ⟨wellFormed.step built layered hs, built.step hs, layered.step hs⟩
  exact kept.1

end World

namespace Script

/-- No hook takes over the members of a value: to read, to write and to delete an attribute is what
the rules say. -/
structure Machine.Guarded (m : Machine) (w : World Workspace) (v : Value)
    (read : String → Prog Value) (write : String → Value → Prog Unit)
    (delete : String → Prog Unit) : Prop where
  read : ∀ key next, isSpecial key = false →
    (m.readStep v key next).run w = (m.notingMissing v key (read key) next).run w
  write : ∀ key new next,
    (m.writeAttribute v (.text key) new next).run w = (write key new next).run w
  delete : ∀ key next,
    (m.deleteAttribute v (.text key) next).run w = (delete key next).run w

variable {w : World Workspace} {v : Value} {name : String}

theorem Machine.run_hasHook_bind {α : Type} (noHook : w.heap.hookOf? v name = none)
    (k : Bool → Prog α) (next : Except Fault α → Program Workspace Form) :
    ((hasHook v name >>= k) next).run w = (k false next).run w := by
  change (k (w.heap.hookOf? v name).isSome next).run w = _
  rw [noHook]
  rfl

theorem Machine.run_askHook?_bind {α : Type} (m : Machine) (noHook : w.heap.hookOf? v name = none)
    (args : List Value) (k : Option Value → Prog α)
    (next : Except Fault α → Program Workspace Form) :
    ((m.askHook? v name args >>= k) next).run w = (k none next).run w :=
  run_hasHook_bind noHook _ _

/-- An attribute of an instance without reserved hooks is read by the rules. -/
theorem Machine.run_readInstance (m : Machine)
    (noHooks : ∀ name ∈ reservedOperators, w.heap.hookOf? v name = none) (key : String)
    (next : Except Fault Value → Program Workspace Form) :
    (m.readInstance v key next).run w = (m.readByRules v key next).run w := by
  have getattr : w.heap.hookOf? v "__getattr__" = none := noHooks _ (by decide)
  have getattribute : w.heap.hookOf? v "__getattribute__" = none := noHooks _ (by decide)
  rw [readInstance, run_hasHook_bind getattr]
  exact m.run_askHook?_bind getattribute _ _ _

theorem Machine.guarded_facade (m : Machine) {f : Ref .facade}
    (noHooks : ∀ name ∈ reservedOperators, w.heap.hookOf? (.facade f) name = none) :
    m.Guarded w (.facade f) (m.readPublic f) (m.writePublic f) (m.deletePublic f) where
  read key next plain := by
    refine (m.run_readInstance noHooks key _).trans ?_
    rw [readByRules, plain]
    rfl
  write key new next := m.run_askHook?_bind (noHooks _ (by decide)) _ _ next
  delete key next := m.run_askHook?_bind (noHooks _ (by decide)) _ _ next

theorem Machine.guarded_state (m : Machine) {s : Ref .state}
    (noHooks : ∀ name ∈ reservedOperators, w.heap.hookOf? (.state s) name = none) :
    m.Guarded w (.state s) (m.readPrivate s) (m.writePrivate s) (m.deletePrivate s) where
  read key next plain := by
    refine (m.run_readInstance noHooks key _).trans ?_
    rw [readByRules, plain]
    rfl
  write key new next := m.run_askHook?_bind (noHooks _ (by decide)) _ _ next
  delete key next := m.run_askHook?_bind (noHooks _ (by decide)) _ _ next

end Script

end ObjectModel
