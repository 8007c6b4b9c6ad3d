import ObjectModel.Proofs.ClosedDefinitions
import ObjectModel.Proofs.Registrations
import ObjectModel.Proofs.GuardedConstruction

/-!
# Redefinition of classes

To define classes, under new names or under old ones, never reaches what is there: instances keep
their layers and their definitions, and every read gives what it gave before. The next instance,
however, is made from the definitions that were registered last.
-/

namespace ObjectModel

/-- What is done to define classes: to open, fill, close and register their definitions, and to
report it. -/
def Action.Defines {σ : Type} : Action σ → Prop
  | .look | .newCatalog | .openBuilder _ _ | .setParent _ _ | .addMembers _ _ _ | .closeBuilder _
  | .declare _ | .keep _ | .register _ _ | .registerOutside _ _ _ | .note _ => True
  | _ => False

/-- What a report is made of. -/
def Action.Reports {σ : Type} : Action σ → Prop
  | .look | .note _ => True
  | _ => False

namespace Heap

variable {σ : Type} {a : Action σ} {h h' h'' : Heap}

/-- All instances of `h` are in `h'` as they were, and so are the definitions of all classes. -/
structure KeepsInstances (h h' : Heap) : Prop where
  states : h'.states = h.states
  facades : h'.facades = h.facades
  grown : h.Extends h'
  definitions : ∀ c, h.classes.contains c = true →
    h'.definition (h.classes.get c).definition = h.definition (h.classes.get c).definition

theorem KeepsInstances.refl (h : Heap) : h.KeepsInstances h :=
  ⟨rfl, rfl, .refl h, fun _ _ => rfl⟩

theorem KeepsInstances.trans (first : h.KeepsInstances h') (second : h'.KeepsInstances h'') :
    h.KeepsInstances h'' where
  states := second.states.trans first.states
  facades := second.facades.trans first.facades
  grown := first.grown.trans second.grown
  definitions := by
    intro c made
    have later := second.definitions c (first.grown.classes c made).1
    rw [first.grown.class_eq made] at later
    exact later.trans (first.definitions c made)

/-- Defining classes does not touch a closed definition. -/
theorem Closed.definition_eq {d : Ref .definition} (closed : h.Closed d)
    (defined : h.definitions.contains d = true) (hs : h.Step a h') (defines : a.Defines) :
    h'.definition d = h.definition d := by
  cases hs with
  | stay _ | newCatalog | closeBuilder _ _ | declare _ | keep _ | register _ _ _ => rfl
  | openBuilder _ _ | registerOutside _ _ _ => exact Store.get_push_of_contains defined _
  | setParent name made isOpen | addMembers made isOpen fit =>
    refine Store.get_set_of_ne _ ?_ _
    rintro rfl
    simp [closed _ made rfl] at isOpen
  | setStatic view v present declared => cases view <;> cases defines
  | newLayer _ _ | writeField _ _ _ _ | deleteField _ _ | addExternal _ _ _
  | deleteExternal _ _ => cases defines

theorem Tidy.keepsInstances (tidy : h.Tidy) (built : h.Built) (hs : h.Step a h')
    (defines : a.Defines) : h.KeepsInstances h' := by
  refine ⟨?_, ?_, hs.extends, fun c made => ?_⟩
  · cases hs with
    | newLayer _ _ | writeField _ _ _ _ | deleteField _ _ => cases defines
    | _ => rfl
  · cases hs with
    | newLayer _ _ | addExternal _ _ _ | deleteExternal _ _ => cases defines
    | _ => rfl
  · exact (tidy.closed c made).definition_eq (built.defined c made) hs defines

namespace KeepsInstances

variable (kept : h.KeepsInstances h') (built : h.Built) (layered : h.Layered)

include kept

theorem classDefinition {c : Ref .cls} (made : h.classes.contains c = true) :
    h'.classDefinition c = h.classDefinition c := by
  rw [Heap.classDefinition, kept.grown.class_eq made]
  exact kept.definitions c made

theorem stateClass (s : Ref .state) : h'.stateClass s = h.stateClass s := by
  simp only [Heap.stateClass, kept.states]

theorem facadeState (f : Ref .facade) : h'.facadeState f = h.facadeState f := by
  simp only [Heap.facadeState, kept.facades]

theorem layers (s : Ref .state) : h'.layers s = h.layers s := by
  have same : h'.parentState = h.parentState := by
    funext t
    simp only [parentState, kept.states]
  simp only [Heap.layers, same]

theorem facadeLayers (f : Ref .facade) : h'.facadeLayers f = h.facadeLayers f := by
  have same : h'.parentFacade = h.parentFacade := by
    funext g
    simp only [parentFacade, kept.facades]
  simp only [Heap.facadeLayers, same]

include built

theorem readPrivate {s : Ref .state} (made : h.states.contains s = true) (key : String) :
    h'.readPrivate s key = h.readPrivate s key := by
  have same : h'.stateDefinition s = h.stateDefinition s := by
    rw [stateDefinition, kept.stateClass, kept.classDefinition (built.made s made)]
    rfl
  simp only [Heap.readPrivate, same, fields, kept.states]

include layered

theorem readLevels {levels : List (Ref .facade)}
    (made : ∀ f ∈ levels, h.facades.contains f = true) (key : String) :
    h'.readLevels key levels = h.readLevels key levels := by
  have definition {f : Ref .facade} (there : h.facades.contains f = true) :
      h'.facadeDefinition f = h.facadeDefinition f := by
    have behind := built.made _ (layered.behind f there)
    change h'.classDefinition (h'.stateClass (h'.facadeState f)) = _
    rw [kept.facadeState, kept.stateClass, kept.classDefinition behind]
    rfl
  induction levels with
  | nil => rfl
  | cons f above ih =>
    obtain ⟨there, rest⟩ := List.forall_mem_cons.mp made
    have inside := kept.readPrivate built (layered.behind f there) key
    have public_ : (above.any fun g => (h'.facadeDefinition g).isPublic (.text key)) =
        above.any fun g => (h.facadeDefinition g).isPublic (.text key) := by
      rw [Bool.eq_iff_iff, List.any_eq_true, List.any_eq_true]
      refine exists_congr (fun g => and_congr_right (fun hg => ?_))
      rw [definition (rest g hg)]
    simp only [Heap.readLevels, external, kept.facades, definition there, kept.facadeState, inside,
      public_, ih rest]

end KeepsInstances

/-- Everything that is there in `h` is seen in `h'` as it was seen in `h`. -/
structure SameViews (h h' : Heap) : Prop where
  definition : ∀ view : View, view.present h = true → view.definition h' = view.definition h ∧
    h'.definition (view.definition h) = h.definition (view.definition h)
  read : ∀ (view : View) (key : String), view.present h = true →
    view.read h' key = view.read h key
  layers : ∀ s, h.states.contains s = true → h'.layers s = h.layers s
  facadeLayers : ∀ f, h.facades.contains f = true → h'.facadeLayers f = h.facadeLayers f

theorem KeepsInstances.sameViews (kept : h.KeepsInstances h') (built : h.Built)
    (layered : h.Layered) : h.SameViews h' where
  definition := fun view present => ⟨kept.grown.definition_eq built layered present,
    kept.definitions _ (built.contains_cls layered present)⟩
  read := by
    intro view key present
    cases view with
    | ofClass c =>
      have same := kept.classDefinition (c := c) present
      simp only [View.read, readClass, classAttribute?, className, same,
        kept.grown.class_eq present]
    | ofFacade f =>
      simp only [View.read, readPublic, kept.facadeLayers]
      exact kept.readLevels built layered (layered.contains_facadeLayers present) key
    | ofState s => exact kept.readPrivate built present key
  layers := fun s _ => kept.layers s
  facadeLayers := fun f _ => kept.facadeLayers f

end Heap

namespace World

variable {σ : Type} {w : World σ} {as : List (Action σ)}

/-- A run that only defines classes, in order, leaves all instances as they are. -/
theorem Each.keepsInstances (tidy : w.heap.Tidy) (built : w.heap.Built) (layered : w.heap.Layered)
    (defining : w.Each (fun h a => a.Defines ∧ a.InOrder h) as) :
    w.heap.KeepsInstances (w.after as).heap := by
  induction as generalizing w with
  | nil => exact .refl _
  | cons a as ih =>
    obtain ⟨⟨defines, inOrder⟩, rest⟩ := defining
    have hs := perform_step w a
    exact (tidy.keepsInstances built hs defines).trans
      (ih (tidy.step built layered inOrder hs) (built.step hs) (layered.step hs) rest)

end World

/-- The operations that define classes. -/
inductive ClassOp where
  | newCatalog
  | define (c : Ref .catalog) (name : Value)
  | extend (b : Ref .builder) (name : Value)
  | members (b : Ref .builder) (part : Section) (t : Table Key Value)
  | declare (d : Declaration)
  | finalize (b : Ref .builder)
  | commit (c : Ref .catalog) (d : Ref .definition)
  | commitOutside (c : Ref .catalog) (name : String) (hooks : Table Key Value)
  | importClass (c : Ref .catalog) (name : Value)

namespace ClassOp

section

variable {σ : Type}

def program (client : Client (Program σ)) : ClassOp → Program σ Unit
  | .newCatalog => do let _ ← ask .newCatalog
  | .define c name => do let _ ← ask (.openBuilder c name)
  | .extend b name => ask (.setParent b name)
  | .members b part t => ask (.addMembers b part t)
  | .declare d => do let _ ← ask (.declare d)
  | .finalize b => do let _ ← client.finalize b
  | .commit c d => do let _ ← client.commit c d
  | .commitOutside c name hooks => do let _ ← ask (.registerOutside c name hooks)
  | .importClass c name => do let _ ← settle ((← look).importClass c name)

/-- What operations do one after the other, each of them also if those before have failed. -/
def actions (client : Client (Program σ)) : List ClassOp → World σ → List (Action σ)
  | [], _ => []
  | op :: ops, w =>
    (op.program client).trace w ++ actions client ops ((op.program client).run w).2

/-- Definitions are registered by hand only when their class bodies are closed. -/
def InOrder (client : Client (Program σ)) : List ClassOp → World σ → Prop
  | [], _ => True
  | op :: ops, w =>
    (∀ c d, op = .commit c d → w.heap.Closed d) ∧ InOrder client ops ((op.program client).run w).2

/-- The world after some operations. -/
def after (client : Client (Program σ)) (ops : List ClassOp) (w : World σ) : World σ :=
  w.after (actions client ops w)

end

end ClassOp

/-- A client that keeps no definitions itself and describes a definition by what is in it. -/
def Client.describing {σ : Type} (call : Value → Arguments → Program σ Value)
    (spoken : Value → Program σ String) (text : Definition → Except Fault String) :
    Client (Program σ) :=
  .plain call spoken (fun d => do settle (text ((← look).definition d)))

/-- To close a builder closes its definition. -/
theorem Heap.Built.closed_withClosed {h : Heap} {b : Ref .builder} (built : h.Built)
    (made : h.builders.contains b = true) (isOpen : h.finalized b = false) :
    (h.withClosed b).Closed (h.builderDefinition b) := by
  have hs : h.Step (σ := Unit) (.closeBuilder b) (h.withClosed b) := .closeBuilder made isOpen
  have get := Heap.builder_withClosed made
  have closed := (built.step hs).closed_of_finalized (b := b)
    (by rw [Heap.withClosed, Store.contains_set]; exact made) (congrArg Builder.finalized get)
  rwa [Heap.builderDefinition, get] at closed

namespace ClassOp

open Program

section

variable {σ : Type} (call : Value → Arguments → Program σ Value) (spoken : Value → Program σ String)
  (text : Definition → Except Fault String) {w : World σ}

/-- A registration is followed by its report. -/
theorem trace_commit (c : Ref .catalog) (d : Ref .definition) (w : World σ) :
    ∃ report, ((Client.describing call spoken text).commit c d).trace w = .register c d :: report ∧
      (w.perform (.register c d)).2.Each (fun _ a => a.Reports) report := by
  rw [Client.commit, trace_bind, trace_ask, List.singleton_append, run_ask]
  refine ⟨_, rfl, ?_⟩
  cases (w.perform (.register c d)) with
  | mk r u =>
    cases r with
    | error e => trivial
    | ok cls =>
      refine each_trace_bind ?_ (fun s u' _ => ?_)
      · exact each_trace_bind (each_trace_ask trivial) (fun _ _ _ => each_trace_settle _ _)
      · exact each_trace_bind (each_trace_ask trivial) (fun _ _ _ => trivial)

/-- To finalize an open builder is to close it and to register its definition. -/
theorem trace_finalize (b : Ref .builder) (w : World σ) :
    (w.heap.builders.contains b = true ∧ w.heap.finalized b = false ∧
      ((Client.describing call spoken text).finalize b).trace w =
        .closeBuilder b :: .look :: ((Client.describing call spoken text).commit
          (w.heap.builders.get b).catalog (w.heap.builderDefinition b)).trace
            (w.setHeap (w.heap.withClosed b))) ∨
    (w.heap.builders.contains b && !w.heap.finalized b) = false ∧
      ((Client.describing call spoken text).finalize b).trace w = [.closeBuilder b] := by
  rw [Client.finalize, trace_bind, trace_ask, List.singleton_append, run_ask]
  cases made : w.heap.builders.contains b with
  | false =>
    refine .inr ⟨rfl, ?_⟩
    rw [World.perform, made]
    rfl
  | true =>
    cases finalized : w.heap.finalized b with
    | true =>
      have closed : (w.heap.builders.get b).finalized = true := finalized
      refine .inr ⟨rfl, ?_⟩
      rw [World.perform, made, Heap.closeBuilder, closed]
      rfl
    | false =>
      refine .inl ⟨rfl, rfl, ?_⟩
      rw [World.perform_closeBuilder_of_open made finalized, Heap.builderDefinition,
        ← congrArg Builder.definition (Heap.builder_withClosed made),
        ← congrArg Builder.catalog (Heap.builder_withClosed made)]
      rfl

/-- What holds of a registration and of what a report is made of holds of all that is done to register
a definition. -/
theorem each_commit {P : Heap → Action σ → Prop} (looks : ∀ h, P h .look)
    (notes : ∀ h r, P h (.note r)) {c : Ref .catalog} {d : Ref .definition}
    (registers : P w.heap (.register c d)) :
    w.Each P (((Client.describing call spoken text).commit c d).trace w) := by
  obtain ⟨report, trace, reports⟩ := trace_commit call spoken text c d w
  rw [trace]
  refine ⟨registers, reports.mono (fun h a ha => ?_)⟩
  cases a with
  | look => exact looks h
  | note r => exact notes h r
  | _ => cases ha

theorem each_finalize {P : Heap → Action σ → Prop} (looks : ∀ h, P h .look)
    (notes : ∀ h r, P h (.note r)) (registers : ∀ h c d, h.Closed d → P h (.register c d))
    (built : w.heap.Built) {b : Ref .builder} (closes : P w.heap (.closeBuilder b)) :
    w.Each P (((Client.describing call spoken text).finalize b).trace w) := by
  rcases trace_finalize call spoken text b w with ⟨made, isOpen, trace⟩ | ⟨-, trace⟩
  · have closed := built.closed_withClosed made isOpen
    rw [trace]
    refine ⟨closes, ?_⟩
    rw [World.perform_closeBuilder_of_open made isOpen]
    exact ⟨looks _, each_commit call spoken text looks notes (registers _ _ _ closed)⟩
  · rw [trace]
    exact ⟨closes, trivial⟩

theorem each_program (reachable : w.Reachable) (op : ClassOp)
    (inOrder : ∀ c d, op = .commit c d → w.heap.Closed d) :
    w.Each (fun h a => a.Defines ∧ a.InOrder h)
      ((op.program (.describing call spoken text)).trace w) := by
  cases op with
  | extend b name | members b part t => exact each_trace_ask ⟨trivial, trivial⟩
  | newCatalog | define c name | declare d | commitOutside c name hooks =>
    exact each_trace_bind (each_trace_ask ⟨trivial, trivial⟩) (fun _ _ _ => trivial)
  | importClass c name =>
    refine each_trace_bind (each_trace_ask ⟨trivial, trivial⟩) (fun h u _ => ?_)
    exact each_trace_bind (each_trace_settle _ _) (fun _ _ _ => trivial)
  | commit c d =>
    refine each_trace_bind ?_ (fun _ _ _ => trivial)
    exact each_commit call spoken text (fun _ => ⟨trivial, trivial⟩) (fun _ _ => ⟨trivial, trivial⟩)
      ⟨trivial, inOrder c d rfl⟩
  | finalize b =>
    refine each_trace_bind ?_ (fun _ _ _ => trivial)
    exact each_finalize call spoken text (fun _ => ⟨trivial, trivial⟩)
      (fun _ _ => ⟨trivial, trivial⟩) (fun _ _ _ closed => ⟨trivial, closed⟩)
      reachable.built ⟨trivial, trivial⟩

/-- The operations do nothing but define classes, and what they register is closed. -/
theorem each_actions {ops : List ClassOp} (reachable : w.Reachable)
    (inOrder : InOrder (.describing call spoken text) ops w) :
    w.Each (fun h a => a.Defines ∧ a.InOrder h)
      (actions (.describing call spoken text) ops w) := by
  induction ops generalizing w with
  | nil => trivial
  | cons op ops ih =>
    rw [actions, World.each_append, after_trace]
    exact ⟨each_program call spoken text reachable op inOrder.1,
      ih (reachable.after (run_reaches _ w)) inOrder.2⟩

end

end ClassOp

namespace World

variable {σ : Type}

/-- The class `p` is that of the definition which a run has registered last in the catalog `k` under
the name that `q` gives for its parent. -/
def Latest (start : σ) (as : List (Action σ)) (k : Ref .catalog) (q p : Ref .cls) : Prop :=
  ∃ name, (((initial start).after as).heap.classDefinition q).parent = .text name ∧
    (initial start).last (committed? k name) as =
      some (((initial start).after as).heap.classes.get p).definition

/-- After every run, a class either has no lineage, and then it makes no instance, or it makes one
from the definitions that were registered last. -/
theorem instantiate_latest {client : Client (Program σ)} (ordinary : client.Ordinary) (start : σ)
    (as : List (Action σ)) (args : Arguments) {c : Ref .cls}
    (made : ((initial start).after as).heap.classes.contains c = true) :
    (∃ e, ((initial start).after as).heap.classLineage c = .error e ∧
      (client.instantiate c args).run ((initial start).after as) =
        (.error (if args.isNamed "self" then .wrongType else e), (initial start).after as)) ∨
    ∃ ps, client.Follows args ((initial start).after as) c ps ∧
      (c :: ps).IsChain
        (Latest start as (((initial start).after as).heap.classes.get c).catalog) := by
  have reachable := reachable_after start as
  cases resolved : ((initial start).after as).heap.classLineage c with
  | error e => exact .inl ⟨e, rfl, ordinary.run_instantiate_of_error args resolved⟩
  | ok ds =>
    obtain ⟨ps, way, rfl⟩ := Heap.ascent_of_classLineage reachable.registered resolved
    have links := way.entries reachable.registered rfl
    simp only [current?_after] at links
    exact .inr ⟨ps, ordinary.follows_of_classLineage args reachable made way resolved, links⟩

end World

/-- In every orderly run, whatever operations define classes next, everything that is there is seen
as before: instances keep their layers and their definitions, and reads give or fail with the same.
The next instance of any class, if it has a lineage, is made from the definitions that were
registered last under the names of its ancestors, those operations included. -/
theorem redefinition_reaches_new_instances_only {σ : Type}
    (call : Value → Arguments → Program σ Value) (spoken : Value → Program σ String)
    (text : Definition → Except Fault String) {start : σ} {as : List (Action σ)}
    (orderly : (World.initial start).Orderly as) {ops : List ClassOp}
    (inOrder : ClassOp.InOrder (.describing call spoken text) ops
      ((World.initial start).after as)) :
    let client := Client.describing call spoken text
    let w := (World.initial start).after as
    let w' := ClassOp.after client ops w
    w.heap.SameViews w'.heap ∧
    ∀ args c, w'.heap.classes.contains c = true →
      (∃ e, w'.heap.classLineage c = .error e ∧
        (client.instantiate c args).run w' =
          (.error (if args.isNamed "self" then .wrongType else e), w')) ∨
      ∃ ps, client.Follows args w' c ps ∧
        (c :: ps).IsChain (World.Latest start (as ++ ClassOp.actions client ops w)
          (w'.heap.classes.get c).catalog) := by
  intro client w w'
  have reachable : w.Reachable := World.reachable_after start as
  have defining := ClassOp.each_actions call spoken text reachable inOrder
  constructor
  · exact (defining.keepsInstances orderly.tidy reachable.built reachable.layered).sameViews
      reachable.built reachable.layered
  · intro args c made
    have whole : (World.initial start).after (as ++ ClassOp.actions client ops w) = w' :=
      World.after_append _ _ _
    have ordinary : client.Ordinary := Client.ordinary_plain _ _ _
    have latest := World.instantiate_latest ordinary start (as ++ ClassOp.actions client ops w) args
      (c := c)
    rw [whole] at latest
    exact latest made

namespace Program

/-- A root with a public method, a class below it, and an instance of the lower class. -/
def inheritedGreeting : List (Action Unit) :=
  let catalog := Heap.defaultCatalog
  [ .openBuilder catalog (.text "Base"),
    .addMembers ⟨0⟩ .publics (.ofList [(.text "greet", .function ⟨0⟩)]),
    .closeBuilder ⟨0⟩,
    .register catalog ⟨0⟩,
    .openBuilder catalog (.text "Derived"),
    .setParent ⟨1⟩ (.text "Base"),
    .closeBuilder ⟨1⟩,
    .register catalog ⟨1⟩,
    .newLayer ⟨0⟩ none,
    .newLayer ⟨1⟩ (some ⟨0⟩)]

theorem orderly_inheritedGreeting : (World.initial ()).Orderly inheritedGreeting := by
  refine ⟨trivial, trivial, trivial, ?_, trivial, trivial, trivial, ?_, trivial, trivial, trivial⟩
  all_goals
    change Heap.Closed _ _
    decide

/-- The root is defined again, with another method. The old definition takes no more members, but it
can be registered in a second catalog. -/
def newRoot : List ClassOp :=
  let catalog := Heap.defaultCatalog
  [ .members ⟨0⟩ .publics (.ofList [(.text "greet", .function ⟨1⟩)]),
    .define catalog (.text "Base"),
    .members ⟨2⟩ .publics (.ofList [(.text "greet", .function ⟨1⟩)]),
    .finalize ⟨2⟩,
    .newCatalog,
    .commit ⟨1⟩ ⟨0⟩]

def silentClient : Client (Program Unit) :=
  .describing (fun _ _ => pure .null) (fun _ => pure "") (fun _ => .ok "")

def newRootWorld : World Unit :=
  ClassOp.after silentClient newRoot ((World.initial ()).after inheritedGreeting)

end Program

/-- The old instance answers with the old method, while the next one is made from the new root. -/
theorem redefinition_reaches_new_instances_only_newRoot :
    (World.initial ()).Orderly Program.inheritedGreeting ∧
    ClassOp.InOrder Program.silentClient Program.newRoot
      ((World.initial ()).after Program.inheritedGreeting) ∧
    Program.newRootWorld.heap.readPublic ⟨1⟩ "greet" = .ok (.method (.function ⟨0⟩) ⟨0⟩) ∧
    Program.newRootWorld.heap.layers ⟨1⟩ = [⟨1⟩, ⟨0⟩] ∧
    Program.silentClient.Follows (.ofList []) Program.newRootWorld ⟨1⟩ [⟨2⟩] := by
  have orderly := Program.orderly_inheritedGreeting
  have inOrder : ClassOp.InOrder Program.silentClient Program.newRoot
      ((World.initial ()).after Program.inheritedGreeting) := by
    refine ⟨nofun, nofun, nofun, nofun, nofun, fun c d h => ?_, trivial⟩
    cases h
    decide +kernel
  obtain ⟨same, next⟩ := redefinition_reaches_new_instances_only _ _ _ orderly inOrder
  have read := same.read (.ofFacade ⟨1⟩) "greet" (by rfl)
  have layers := same.layers ⟨1⟩ (by rfl)
  have way : Program.newRootWorld.heap.Ascent ⟨1⟩ [⟨1⟩, ⟨2⟩] none :=
    .layer (by rfl) (.root (by rfl))
  refine ⟨orderly, inOrder, read.trans (by rfl), layers.trans (by rfl), ?_⟩
  rcases next (.ofList []) ⟨1⟩ (by rfl) with ⟨e, failed, -⟩ | ⟨ps, follows, -⟩
  · have resolved : Program.newRootWorld.heap.classLineage ⟨1⟩ = .ok [⟨1⟩, ⟨2⟩] := by rfl
    cases resolved.symm.trans failed
  · obtain rfl : ps = [⟨2⟩] := by simpa using (follows.way.unique way).1
    exact follows

end ObjectModel
