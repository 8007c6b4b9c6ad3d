import ObjectModel.Instantiation
import ObjectModel.Proofs.ClosedDefinitions
import ObjectModel.Proofs.Registrations

/-!
# Operators through both views

Both views of a layer answer to the operator hooks of their own class, as they were when the class
was made. A facade hands a hook on to its private state, and a state calls the function that was
declared, so a hook does the same through either view. Only for the arguments named like the
receivers of the two hooks this is different.
-/

namespace ObjectModel

section Hooks

variable {σ : Type} (call : Value → Arguments → Program σ Value) {w : World σ} {s : Ref .state}
  {f : Ref .facade} {name : String} {fn : Value} {args : Arguments}

/-- The hook of a state is one call of its function, with the state in front. -/
theorem run_callStateHook (found : w.heap.hook? (w.heap.stateClass s) name = some fn)
    (own : name ∉ typeHooks) :
    (callStateHook call s name args).run w =
      if args.isNamed "state" then (.error .wrongType, w)
      else (call fn (args.after (.state s))).run w := by
  have notType : typeHooks.contains name = false := by simpa using own
  rw [callStateHook, Program.run_look_bind, found]
  cases args.isNamed "state" with
  | true => rfl
  | false => simp only [notType, Bool.false_eq_true, if_false]

/-- The hook of a facade is the hook of its state. -/
theorem run_callFacadeHook (own : name ∉ typeHooks) (plain : name ∉ typeAttributes) :
    (callFacadeHook call f name args).run w =
      if args.isNamed "facade" then (.error .wrongType, w)
      else (callStateHook call (w.heap.facadeState f) name args).run w := by
  have notType : typeHooks.contains name = false := by simpa using own
  have notAttribute : typeAttributes.contains name = false := by simpa using plain
  rw [callFacadeHook, Program.run_look_bind]
  cases args.isNamed "facade" with
  | true => rfl
  | false => simp only [notType, notAttribute, Bool.false_eq_true, if_false]

end Hooks

/-- What a call of the hook `name`, whose function is `fn`, comes to through the facade `f` and
through the private state behind it. -/
structure World.HookCalls {σ : Type} (call : Value → Arguments → Program σ Value) (w : World σ)
    (f : Ref .facade) (name : String) (fn : Value) (args : Arguments) : Prop where
  /-- Both views make one call of the function, with the state in front of the arguments. -/
  same : args.isNamed "facade" = false → args.isNamed "state" = false →
    (callHook call (.facade f) name args).run w =
      (call fn (args.after (.state (w.heap.facadeState f)))).run w ∧
    (callHook call (.state (w.heap.facadeState f)) name args).run w =
      (call fn (args.after (.state (w.heap.facadeState f)))).run w
  /-- The receiver of the private hook has this name, so neither view can be given the argument. -/
  state : args.isNamed "state" = true → ∃ e, e.kind = .typeError ∧
    (callHook call (.facade f) name args).run w = (.error e, w) ∧
    (callHook call (.state (w.heap.facadeState f)) name args).run w = (.error e, w)
  /-- The receiver of the public hook has this name. The private one hands the argument on. -/
  facade : args.isNamed "facade" = true →
    (∃ e, e.kind = .typeError ∧ (callHook call (.facade f) name args).run w = (.error e, w)) ∧
    (args.isNamed "state" = false →
      (callHook call (.state (w.heap.facadeState f)) name args).run w =
        (call fn (args.after (.state (w.heap.facadeState f)))).run w)

theorem World.hookCalls {σ : Type} (call : Value → Arguments → Program σ Value) {w : World σ}
    {f : Ref .facade} {name : String} {fn : Value} (args : Arguments)
    (found : w.heap.hook? (w.heap.facadeClass f) name = some fn) (own : name ∉ typeHooks)
    (plain : name ∉ typeAttributes) : w.HookCalls call f name fn args := by
  have inside : (callHook call (.state (w.heap.facadeState f)) name args).run w =
      if args.isNamed "state" then (.error .wrongType, w)
      else (call fn (args.after (.state (w.heap.facadeState f)))).run w :=
    run_callStateHook call found own
  have outside : (callHook call (.facade f) name args).run w =
      if args.isNamed "facade" then (.error .wrongType, w)
      else (callHook call (.state (w.heap.facadeState f)) name args).run w :=
    run_callFacadeHook call own plain
  refine ⟨fun noFacade noState => ?_, fun named => ?_, fun named => ⟨?_, fun noState => ?_⟩⟩
  · simp [outside, inside, noFacade, noState]
  · refine ⟨.wrongType, rfl, ?_, ?_⟩
    · simp [outside, inside, named]
    · simp [inside, named]
  · exact ⟨.wrongType, rfl, by simp [outside, named]⟩
  · simp [inside, noState]

/-- In every run, the two views of a layer answer to the same hooks, those that the definition of
their own class had when the class was made. A hook that is not answered by the type of the instance
itself does the same through both views. -/
theorem operators_through_both_views {σ : Type} (call : Value → Arguments → Program σ Value)
    {start : σ} (as : List (Action σ)) {f : Ref .facade}
    (made : ((World.initial start).after as).heap.facades.contains f = true) :
    let w := (World.initial start).after as
    ∃ hooks, (World.initial start).last (World.hooks? (w.heap.facadeClass f)) as = some hooks ∧
      (∀ name, w.heap.hookOf? (.facade f) name = hooks.find? (.text name) ∧
        w.heap.hookOf? (.state (w.heap.facadeState f)) name = hooks.find? (.text name)) ∧
      ∀ name fn, hooks.find? (.text name) = some fn → name ∉ typeHooks → name ∉ typeAttributes →
        ∀ args, w.HookCalls call f name fn args := by
  intro w
  have reachable : w.Reachable := World.reachable_after start as
  have present : (View.ofFacade f).present w.heap = true := made
  have cls : w.heap.classes.contains (w.heap.facadeClass f) = true :=
    reachable.built.contains_cls reachable.layered present
  have given := World.operators_after start as (w.heap.facadeClass f)
  rw [if_pos cls] at given
  exact ⟨_, given, fun name => ⟨rfl, rfl⟩,
    fun name fn found own plain args => World.hookCalls call args found own plain⟩

namespace Program

/-- An instance of two layers, whose classes have one operator each. The body of the lower class
stays open, and gets another operator when the class has been made. -/
def twoOperators : List (Action Unit) :=
  let catalog := Heap.defaultCatalog
  [ .openBuilder catalog (.text "Base"),
    .addMembers ⟨0⟩ .operators (.ofList [(.text "__add__", .function ⟨0⟩)]),
    .register catalog ⟨0⟩,
    .openBuilder catalog (.text "Derived"),
    .setParent ⟨1⟩ (.text "Base"),
    .addMembers ⟨1⟩ .operators (.ofList [(.text "__len__", .function ⟨1⟩)]),
    .register catalog ⟨1⟩,
    .newLayer ⟨0⟩ none,
    .newLayer ⟨1⟩ (some ⟨0⟩),
    .addMembers ⟨1⟩ .operators (.ofList [(.text "__sub__", .function ⟨2⟩)])]

def twoOperatorsWorld : World Unit := (World.initial ()).after twoOperators

/-- A call that prints something and gives the function that is called. -/
def printingCall (fn : Value) (_ : Arguments) : Program Unit Value := do
  ask (.print "called")
  return fn

end Program

/-- The lower layer answers to the operator that its class had at first, and to no other one. -/
theorem operators_through_both_views_twoOperators :
    Program.twoOperatorsWorld.heap.facades.contains ⟨1⟩ = true ∧
    Program.twoOperatorsWorld.heap.hookOf? (.facade ⟨1⟩) "__len__" = some (.function ⟨1⟩) ∧
    Program.twoOperatorsWorld.heap.hookOf? (.facade ⟨1⟩) "__add__" = none ∧
    Program.twoOperatorsWorld.heap.hookOf? (.facade ⟨1⟩) "__sub__" = none ∧
    Program.twoOperatorsWorld.HookCalls Program.printingCall ⟨1⟩ "__len__" (.function ⟨1⟩)
      (.ofList [.int 1]) := by
  have made : Program.twoOperatorsWorld.heap.facades.contains ⟨1⟩ = true := by decide +kernel
  obtain ⟨hooks, given, found, calls⟩ :=
    operators_through_both_views Program.printingCall Program.twoOperators made
  have first : (World.initial ()).last
      (World.hooks? (Program.twoOperatorsWorld.heap.facadeClass ⟨1⟩)) Program.twoOperators =
        some (.ofList [(.text "__len__", .function ⟨1⟩)]) := by decide +kernel
  obtain rfl : .ofList [(.text "__len__", .function ⟨1⟩)] = hooks :=
    Option.some.inj (first.symm.trans given)
  refine ⟨made, (found "__len__").1, (found "__add__").1, (found "__sub__").1, ?_⟩
  exact calls "__len__" (.function ⟨1⟩) rfl (by decide) (by decide) _

end ObjectModel
