import ObjectModel.Proofs.ClosedDefinitions
import ObjectModel.Proofs.GuardedConstruction

/-!
# What is done to make an instance

The actions of a call of a class object are, after it has looked up the lineage: one new layer for each
class, from the root down, and right behind each of them the actions of its constructor, if the class
has a public method of that name. When a constructor begins, the layers from its own up to the root
are there and nothing is below them. A constructor that raises a fault ends the call; otherwise the
call ends with its report.
-/

namespace ObjectModel

namespace Heap

/-- With the layer `l`, the heap `h'` has just one state and one facade more than `h`, of the class `c`
and below the layer `above`. -/
structure AddsLayer (h : Heap) (c : Ref .cls) (above : Option Layer) (l : Layer) (h' : Heap) :
    Prop where
  new : h.states.contains l.state = false ∧ h.facades.contains l.facade = false
  states : ∀ s, h'.states.contains s = true ↔ h.states.contains s = true ∨ s = l.state
  facades : ∀ f, h'.facades.contains f = true ↔ h.facades.contains f = true ∨ f = l.facade
  cls : h'.stateClass l.state = c
  parent : h'.parentState l.state = above.map Layer.state
  /-- A new state stores nothing but the handle of its parent. -/
  fields : h'.fields l.state =
    match above with
    | some p => .ofList [(parentHandle, .state p.state)]
    | none => .empty
  behind : h'.facadeState l.facade = l.state
  parentFacade : h'.parentFacade l.facade = above.map Layer.facade
  external : h'.external l.facade = .empty
  /-- Nothing is below a new layer. -/
  lowest : ∀ s, h'.parentState s ≠ some l.state
  lowestFacade : ∀ f, h'.parentFacade f ≠ some l.facade

variable {h : Heap}

theorem Layered.addsLayer (layered : h.Layered) (c : Ref .cls) {above : Option Layer}
    (present : ∀ p, above = some p → h.facades.contains p.facade = true)
    (views : ∀ p, above = some p → h.facadeState p.facade = p.state) :
    h.AddsLayer c above (h.newLayer c (above.map Layer.facade)).1
      (h.newLayer c (above.map Layer.facade)).2 where
  new := ⟨Store.contains_next _, Store.contains_next _⟩
  states := Store.contains_push_iff _ _
  facades := Store.contains_push_iff _ _
  cls := (stateClass_newLayer _ _ _ _).trans (if_pos rfl)
  parent := by
    rw [parentState_newLayer]
    cases above with
    | none => exact if_pos rfl
    | some p => exact (if_pos rfl).trans (congrArg some (views p rfl))
  fields := by
    rw [fields_newLayer]
    cases above with
    | none => exact if_pos rfl
    | some p =>
      refine (if_pos rfl).trans ?_
      simp [views p rfl]
  behind := (facadeState_newLayer _ _ _ _).trans (if_pos rfl)
  parentFacade := (parentFacade_newLayer _ _ _ _).trans (if_pos rfl)
  external := (external_newLayer _ _ _ _).trans (if_pos rfl)
  lowest s link := by
    rw [parentState_newLayer] at link
    split at link
    · obtain ⟨f, hf, new⟩ := Option.map_eq_some_iff.mp link
      obtain ⟨p, hp, rfl⟩ := Option.map_eq_some_iff.mp hf
      exact Store.ne_next (layered.behind p.facade (present p hp)) new
    · exact Store.ne_next (layered.contains_parentState link) rfl
  lowestFacade f link := by
    rw [parentFacade_newLayer] at link
    split at link
    · obtain ⟨p, hp, new⟩ := Option.map_eq_some_iff.mp link
      exact Store.ne_next (present p hp) new
    · exact Store.ne_next (layered.contains_parentFacade link) rfl

end Heap

namespace Client

variable {σ : Type}

/-- Call the constructor that a class has in the heap `h` on a new layer of it. -/
def runConstructor {m : Type → Type} [Acting σ m] (client : Client m) (args : Arguments) (h : Heap)
    (c : Ref .cls) (l : Layer) : m Value :=
  match (h.classDefinition c).publics.find? (.text "constructor") with
  | some f => client.call f (args.after (.state l.state))
  | none => pure .null

/-- The layer `l` of the class `c` is added below the layers `ls` of the classes `cs`, which were made
since `w`. -/
structure Begins (w u : World σ) (cs : List (Ref .cls)) (ls : List Layer) (c : Ref .cls) (l : Layer)
    (u' : World σ) : Prop where
  done : u.perform (.newLayer c (ls.head?.map Layer.facade)) = (.ok l, u')
  adds : u.heap.AddsLayer c ls.head? l u'.heap
  /-- With the new one, the layers up to the root are complete. -/
  layers : w.heap.Stack u'.heap (c :: cs) (l :: ls)

theorem Begins.reaches {w u u' : World σ} {cs : List (Ref .cls)} {ls : List Layer} {c : Ref .cls}
    {l : Layer} (begins : Begins w u cs ls c l u') : u.Reaches u' := by
  have created := World.Reaches.perform u (.newLayer c (ls.head?.map Layer.facade))
  rwa [begins.done] at created

/-- The actions by which the layer of a class is added and its constructor is run. -/
def layerActions (client : Client (Program σ)) (args : Arguments) (h : Heap) (c : Ref .cls)
    (ls : List Layer) (l : Layer) (u' : World σ) : List (Action σ) :=
  .newLayer c (ls.head?.map Layer.facade) :: .look :: (client.runConstructor args h c l).trace u'

/-- Since `w`, the given actions made the layers `ls` of the classes `cs`, lowest first, and ran their
constructors, and so they led to the last world. -/
inductive Constructs (client : Client (Program σ)) (args : Arguments) (w : World σ) :
    List (Ref .cls) → List Layer → List (Action σ) → World σ → Prop where
  | start : Constructs client args w [] [] [] w
  | layer {cs : List (Ref .cls)} {ls : List Layer} {as : List (Action σ)} {u u' v : World σ}
      {c : Ref .cls} {l : Layer} {r : Value} (above : Constructs client args w cs ls as u)
      (begins : Begins w u cs ls c l u')
      (returns : (client.runConstructor args w.heap c l).run u' = (.ok r, v)) :
      Constructs client args w (c :: cs) (l :: ls)
        (as ++ client.layerActions args w.heap c ls l u') v

/-- How the making of layers of the given classes ends: all of them are there and their constructors
have run, or one of the constructors has raised a fault, and nothing was done behind it. -/
inductive Ends (client : Client (Program σ)) (args : Arguments) (w : World σ)
    (cs : List (Ref .cls)) : List (Action σ) → Except Fault Layer × World σ → Prop where
  | complete {l : Layer} {ls : List Layer} {as : List (Action σ)} {u : World σ}
      (layers : Constructs client args w cs (l :: ls) as u) : Ends client args w cs as (.ok l, u)
  | broken (below : List (Ref .cls)) {above : List (Ref .cls)} {ls : List Layer}
      {as : List (Action σ)} {u u' v : World σ} {c : Ref .cls} {l : Layer} {e : Fault}
      (split : cs = below ++ c :: above) (layers : Constructs client args w above ls as u)
      (begins : Begins w u above ls c l u')
      (raises : (client.runConstructor args w.heap c l).run u' = (.error e, v)) :
      Ends client args w cs (as ++ client.layerActions args w.heap c ls l u') (.error e, v)

/-- What a call of the class object `c` does and gives, where `ps` are the ancestors of `c` that its
lineage was resolved to. It looks its ancestors up, makes the layers, and reports the new instance. A
constructor that raises a fault ends the call with this fault. -/
inductive Calls (client : Client (Program σ)) (args : Arguments) (w : World σ) (c : Ref .cls)
    (ps : List (Ref .cls)) : List (Action σ) → Except Fault (Ref .facade) × World σ → Prop where
  | complete {l : Layer} {ls : List Layer} {as : List (Action σ)} {u : World σ} {name : String}
      (layers : Constructs client args w (c :: ps) (l :: ls) as u)
      (named : w.heap.className c = .text name) :
      Calls client args w c ps
        (List.replicate (ps.length + 2) .look ++ as ++ [.look, .note (.instantiated name)])
        (.ok l.facade, u.addLog (.instantiated name))
  | broken {as : List (Action σ)} {e : Fault} {v : World σ}
      (ends : Ends client args w (c :: ps) as (.error e, v)) :
      Calls client args w c ps (List.replicate (ps.length + 2) .look ++ as) (.error e, v)

section Constructs

variable {client : Client (Program σ)} {args : Arguments} {w u : World σ} {c : Ref .cls}
  {cs ps : List (Ref .cls)} {ls : List Layer} {as : List (Action σ)}

theorem Constructs.reaches (layers : Constructs client args w cs ls as u) : w.Reaches u := by
  induction layers with
  | start => exact .refl w
  | @layer _ _ _ _ u' _ c l _ above begins returns ih =>
    have constructed := Program.run_reaches (client.runConstructor args w.heap c l) u'
    rw [returns] at constructed
    exact (ih.trans begins.reaches).trans constructed

theorem Constructs.stack (layers : Constructs client args w cs ls as u) :
    w.heap.Stack u.heap cs ls := by
  cases layers with
  | start => exact .nil
  | @layer _ _ _ _ u' _ c l _ above begins returns =>
    have constructed := Program.run_reaches (client.runConstructor args w.heap c l) u'
    rw [returns] at constructed
    exact begins.layers.extend constructed.extends

theorem runConstructor_congr {h h' : Heap} (l : Layer)
    (same : (h.classDefinition c).SameBody (h'.classDefinition c)) :
    client.runConstructor args h' c l = client.runConstructor args h c l := by
  rw [runConstructor, runConstructor, same.publics]

/-- Behind the layers that were made a new one can be added. -/
theorem Constructs.begins (layers : Constructs client args w cs ls as u) (reachable : w.Reachable)
    (made : w.heap.classes.contains c = true) : ∃ l u', Begins w u cs ls c l u' := by
  have stack := layers.stack
  have later := layers.reaches
  have made' := (later.extends.classes c made).1
  have views : ∀ p, ls.head? = some p → u.heap.facadeState p.facade = p.state := by
    intro p hp
    cases stack with
    | nil => cases hp
    | cons new present views cls link above =>
      cases hp
      exact views
  have present : ∀ p, ls.head? = some p → u.heap.facades.contains p.facade = true :=
    fun p hp => stack.present_head p.facade (by rw [hp]; rfl)
  exact ⟨_, _, World.perform_newLayer made' stack.present_head,
    (reachable.after later).layered.addsLayer c present views,
    stack.newLayer later.extends made'⟩

end Constructs

namespace Ordinary

variable {client : Client (Program σ)} (ordinary : client.Ordinary) (args : Arguments)
  {w u u' : World σ} {c : Ref .cls} {cs ps : List (Ref .cls)} {ls : List Layer}
  {as : List (Action σ)} {l : Layer}

include ordinary

theorem trace_newLayer (c : Ref .cls) (parent : Option (Ref .facade)) (w : World σ) :
    (client.newLayer c parent).trace w = [.newLayer c parent] := by
  rw [newLayer, ordinary.standIn?]
  exact Program.trace_ask _ w

theorem trace_constructor? (c : Ref .cls) (w : World σ) :
    (client.constructor? c).trace w = [.look] := by
  rw [constructor?, ordinary.standIn?]
  rfl

theorem trace_parentClass? (c : Ref .cls) (w : World σ) :
    (client.parentClass? c).trace w = [.look] := by
  rw [parentClass?, ordinary.standIn?]
  refine (Program.trace_look_bind _ w).trans (congrArg (Action.look :: ·) ?_)
  split
  · rfl
  · rw [Program.trace_bind, Program.trace_settle, Program.run_settle]
    cases w.heap.importClass (w.heap.classes.get c).catalog _ <;> rfl

theorem trace_depthOf (c : Ref .cls) (w : World σ) : (client.depthOf c).trace w = [.look] := by
  rw [depthOf, ordinary.depth?]
  refine (Program.trace_look_bind _ w).trans (congrArg (Action.look :: ·) ?_)
  rw [Program.trace_bind, Program.trace_settle, Program.run_settle]
  cases w.heap.lineage _ _ <;> rfl

section AddLayer

variable {parent : Option (Ref .facade)} (done : u.perform (.newLayer c parent) = (.ok l, u'))

include done

theorem run_addLayer : (client.addLayer args c parent).run u =
    (client.runConstructor args u'.heap c l >>= fun _ => pure l).run u' := by
  have created := (ordinary.run_newLayer c parent u).trans done
  rw [addLayer, Program.run_bind_of_ok created,
    Program.run_bind_of_ok (ordinary.run_constructor? c u'), runConstructor]
  cases (u'.heap.classDefinition c).publics.find? (.text "constructor") <;> rfl

theorem trace_addLayer : (client.addLayer args c parent).trace u =
    .newLayer c parent :: .look :: (client.runConstructor args u'.heap c l).trace u' := by
  have created := (ordinary.run_newLayer c parent u).trans done
  rw [addLayer, Program.trace_bind, ordinary.trace_newLayer, created]
  dsimp only
  rw [Program.trace_bind, ordinary.trace_constructor?, ordinary.run_constructor?, runConstructor]
  dsimp only
  cases (u'.heap.classDefinition c).publics.find? (.text "constructor") with
  | none => rfl
  | some f =>
    refine congrArg (fun as => Action.newLayer c parent :: Action.look :: as) ?_
    exact Program.trace_bind_pure _ l u'

end AddLayer

section Tidy

variable (reachable : w.Reachable) (tidy : w.heap.Tidy)

include reachable tidy

/-- One more layer below those that were made, with its constructor. -/
theorem ends_addLayer (layers : Constructs client args w cs ls as u)
    (made : w.heap.classes.contains c = true) :
    Ends client args w (c :: cs)
      (as ++ (client.addLayer args c (ls.head?.map Layer.facade)).trace u)
      ((client.addLayer args c (ls.head?.map Layer.facade)).run u) := by
  obtain ⟨l, u', begins⟩ := layers.begins reachable made
  -- the constructor is the one that the class had in the beginning
  have moment : w.Reaches u' := layers.reaches.trans begins.reaches
  have constructor : client.runConstructor args u'.heap c l = client.runConstructor args w.heap c l :=
    runConstructor_congr l (moment.sameBody_class tidy reachable.built made)
  rw [ordinary.run_addLayer args begins.done, ordinary.trace_addLayer args begins.done, constructor,
    Program.run_bind]
  cases ran : (client.runConstructor args w.heap c l).run u' with
  | mk r v =>
    cases r with
    | ok a => exact .complete (.layer layers begins ran)
    | error e => exact .broken [] rfl layers begins ran

theorem ends_addLayers (made : ∀ p ∈ c :: ps, w.heap.classes.contains p = true) :
    Ends client args w (c :: ps) ((client.addLayers args c ps).trace w)
      ((client.addLayers args c ps).run w) := by
  induction ps generalizing c with
  | nil => exact ordinary.ends_addLayer args reachable tidy .start (made c (by simp))
  | cons p ps ih =>
    have first := ih (fun q hq => made q (List.mem_cons_of_mem _ hq))
    rw [addLayers, Program.trace_bind, Program.run_bind]
    generalize (client.addLayers args p ps).trace w = as at first
    generalize (client.addLayers args p ps).run w = o at first
    cases first with
    | complete layers =>
      exact ordinary.ends_addLayer args reachable tidy layers (made c (by simp))
    | broken below split layers begins raises =>
      rw [List.append_nil]
      exact .broken (c :: below) (by rw [split]; rfl) layers begins raises

end Tidy

/-- On the way up nothing is done but to look. -/
theorem trace_construct {n : Nat} (way : w.heap.Ascent c (c :: ps) none) (enough : ps.length < n) :
    (client.construct args n c).trace w =
      List.replicate (ps.length + 1) .look ++ (client.addLayers args c ps).trace w := by
  induction n generalizing c ps with
  | zero => omega
  | succ n ih =>
    rw [construct, Program.trace_bind, ordinary.trace_parentClass?, ordinary.run_parentClass?]
    cases way with
    | root top =>
      rw [top]
      rfl
    | @layer c p ps _ link above =>
      obtain ⟨qs, rfl⟩ := above.eq_cons
      have shorter : qs.length < n := by simpa using enough
      have run := ordinary.run_construct_of_ascent args above n
      rw [if_neg (by omega)] at run
      rw [link]
      dsimp only
      rw [Program.trace_bind, ih above shorter, run, addLayers, Program.trace_bind,
        List.append_assoc]
      rfl

/-- The look-ups of a call come first. -/
theorem trace_instantiate {ds : List (Ref .definition)} (way : w.heap.Ascent c (c :: ps) none)
    (resolved : w.heap.classLineage c = .ok ds) (depth : ds.length = ps.length + 1)
    (free : args.isNamed "self" = false) :
    (client.instantiate c args).trace w =
      List.replicate (ps.length + 2) .look ++
        (client.addLayers args c ps >>= client.report c).trace w := by
  have enough : ps.length < ds.length := by omega
  have asked := ordinary.run_depthOf c w
  rw [resolved] at asked
  have run := ordinary.run_construct_of_ascent args way ds.length
  rw [if_neg (by omega)] at run
  rw [instantiate_eq, free, if_neg Bool.false_ne_true, Program.trace_bind, ordinary.trace_depthOf,
    asked]
  dsimp only [Except.map]
  rw [Program.trace_bind, ordinary.trace_construct args way enough, run, Program.trace_bind,
    List.append_assoc]
  rfl

variable {name : String} (spoken : ∀ s, client.spoken (.text s) = pure s)

include spoken

theorem run_report (named : u.heap.className c = .text name) (l : Layer) :
    (client.report c l).run u = (.ok l.facade, u.addLog (.instantiated name)) := by
  rw [report, nameOf, ordinary.standIn?]
  change ((client.spoken (u.heap.className c) >>= fun s => _ : Program σ _)).run u = _
  rw [named, spoken]
  rfl

theorem trace_report (named : u.heap.className c = .text name) (l : Layer) :
    (client.report c l).trace u = [.look, .note (.instantiated name)] := by
  rw [report, nameOf, ordinary.standIn?]
  change .look :: ((client.spoken (u.heap.className c) >>= fun s => _ : Program σ _)).trace u = _
  rw [named, spoken]
  rfl

/-- The call of a class object whose lineage was resolved. -/
theorem calls_instantiate (reachable : w.Reachable) (tidy : w.heap.Tidy)
    (made : w.heap.classes.contains c = true) (way : w.heap.Ascent c (c :: ps) none)
    (resolved : w.heap.classLineage c =
      .ok ((c :: ps).map (fun p => (w.heap.classes.get p).definition)))
    (free : args.isNamed "self" = false) :
    Calls client args w c ps ((client.instantiate c args).trace w)
      ((client.instantiate c args).run w) := by
  have ends := ordinary.ends_addLayers args reachable tidy (way.made reachable.registered made)
  have whole : (client.instantiate c args).run w =
      (client.addLayers args c ps >>= client.report c).run w := by
    have follows := ordinary.follows_of_classLineage args reachable made way resolved
    rw [follows.whole, free, if_neg Bool.false_ne_true]
  have trace := ordinary.trace_instantiate args way resolved (by simp) free
  rw [trace, whole, Program.trace_bind, Program.run_bind]
  generalize (client.addLayers args c ps).trace w = as at ends
  generalize (client.addLayers args c ps).run w = o at ends
  cases ends with
  | @complete l ls _ u layers =>
    have named := reachable.named c made
    -- the class has kept its name, whatever the constructors have done
    have named' : u.heap.className c = .text (w.heap.classes.get c).typeName :=
      (layers.reaches.sameBody_class tidy reachable.built made).name.trans named
    dsimp only
    rw [ordinary.run_report spoken named', ordinary.trace_report spoken named', ← List.append_assoc]
    exact .complete layers named
  | broken below split layers begins raises =>
    rw [List.append_nil]
    exact .broken (.broken below split layers begins raises)

end Ordinary

end Client

/-- In every orderly run, the call of a class object whose lineage is resolved makes the layers of this
lineage one after the other, from the root down, each of them new and without anything below it. Right
behind each layer it runs the constructor from the public methods of the class, once and with the
arguments of the call behind the new state. If a constructor raises a fault, this is the end of the
call, and otherwise the call gives the lowest facade and reports it. -/
theorem construction_trace {σ : Type} (call : Value → Arguments → Program σ Value)
    {spoken : Value → Program σ String} (text : ∀ s, spoken (.text s) = pure s)
    (describe : Ref .definition → Program σ String) {start : σ} {as : List (Action σ)}
    (orderly : (World.initial start).Orderly as) {c : Ref .cls}
    (made : ((World.initial start).after as).heap.classes.contains c = true)
    {ds : List (Ref .definition)}
    (resolved : ((World.initial start).after as).heap.classLineage c = .ok ds) {args : Arguments}
    (free : args.isNamed "self" = false) :
    let client := Client.plain call spoken describe
    let w := (World.initial start).after as
    ∃ ps, ds = (c :: ps).map (fun p => (w.heap.classes.get p).definition) ∧
      client.Calls args w c ps ((client.instantiate c args).trace w)
        ((client.instantiate c args).run w) := by
  intro client w
  have reachable : w.Reachable := World.reachable_after start as
  obtain ⟨ps, way, rfl⟩ := Heap.ascent_of_classLineage reachable.registered resolved
  refine ⟨ps, rfl, ?_⟩
  exact (Client.ordinary_plain call spoken describe).calls_instantiate args text reachable
    orderly.tidy made way resolved free

namespace Program

/-- Three classes, of which the one in the middle keeps its constructor private. -/
def hiddenConstructor : List (Action Unit) :=
  let catalog := Heap.defaultCatalog
  [ .openBuilder catalog (.text "Base"),
    .addMembers ⟨0⟩ .publics (.ofList [(.text "constructor", .function ⟨0⟩)]),
    .closeBuilder ⟨0⟩,
    .register catalog ⟨0⟩,
    .openBuilder catalog (.text "Middle"),
    .setParent ⟨1⟩ (.text "Base"),
    .addMembers ⟨1⟩ .privates (.ofList [(.text "constructor", .function ⟨1⟩)]),
    .closeBuilder ⟨1⟩,
    .register catalog ⟨1⟩,
    .openBuilder catalog (.text "Derived"),
    .setParent ⟨2⟩ (.text "Middle"),
    .addMembers ⟨2⟩ .publics (.ofList [(.text "constructor", .function ⟨2⟩)]),
    .closeBuilder ⟨2⟩,
    .register catalog ⟨2⟩]

theorem orderly_hiddenConstructor : (World.initial ()).Orderly hiddenConstructor := by
  refine ⟨trivial, trivial, trivial, ?_, trivial, trivial, trivial, trivial, ?_, trivial, trivial,
    trivial, trivial, ?_, trivial⟩
  all_goals
    change Heap.Closed _ _
    decide

/-- Functions that print which of them was called. The last one wants an argument besides its
receiver. -/
def printedCall : Value → Arguments → Program Unit Value
  | .function ⟨0⟩, _ => do ask (.print "Base "); return .null
  | .function ⟨2⟩, args =>
    if args.positional.length = 2 then do ask (.print "Derived "); return .null
    else throw .wrongType
  | _, _ => do ask (.print "Middle "); return .null

def plainSpoken (v : Value) : Program Unit String := pure v.plainText

def printingClient : Client (Program Unit) := .plain printedCall plainSpoken (fun _ => pure "")

/-- The world after a call of the lowest class with the given arguments. -/
def calledWorld (args : List Value) : World Unit :=
  ((printingClient.instantiate ⟨2⟩ (.ofList args)).run
    ((World.initial ()).after hiddenConstructor)).2

end Program

/-- With an argument, all constructors but the private one run, and the lowest facade is given out.
Without it, the last constructor fails when the others have run, and nothing is reported. -/
theorem construction_trace_hiddenConstructor :
    (World.initial ()).Orderly Program.hiddenConstructor ∧
    ((World.initial ()).after Program.hiddenConstructor).heap.classes.contains ⟨2⟩ = true ∧
    ((World.initial ()).after Program.hiddenConstructor).heap.classLineage ⟨2⟩ =
      .ok [⟨2⟩, ⟨1⟩, ⟨0⟩] ∧
    (∃ ps as, Program.printingClient.Calls (.ofList [.int 1])
      ((World.initial ()).after Program.hiddenConstructor) ⟨2⟩ ps as
      (.ok ⟨2⟩, Program.calledWorld [.int 1])) ∧
    (Program.calledWorld [.int 1]).out = "Base Derived " ∧
    (Program.calledWorld [.int 1]).log = #[.instantiated "Derived"] ∧
    (∃ ps as, Program.printingClient.Calls (.ofList [])
      ((World.initial ()).after Program.hiddenConstructor) ⟨2⟩ ps as
      (.error .wrongType, Program.calledWorld [])) ∧
    (Program.calledWorld []).out = "Base " ∧ (Program.calledWorld []).log = #[] := by
  have made : ((World.initial ()).after Program.hiddenConstructor).heap.classes.contains ⟨2⟩ =
      true := by decide +kernel
  have resolved : ((World.initial ()).after Program.hiddenConstructor).heap.classLineage ⟨2⟩ =
      .ok [⟨2⟩, ⟨1⟩, ⟨0⟩] := by decide +kernel
  have called (args : List Value) : ∃ ps as, Program.printingClient.Calls (.ofList args)
      ((World.initial ()).after Program.hiddenConstructor) ⟨2⟩ ps as
      ((Program.printingClient.instantiate ⟨2⟩ (.ofList args)).run
        ((World.initial ()).after Program.hiddenConstructor)) := by
    have text (s : String) : Program.plainSpoken (.text s) = pure s := rfl
    have free : (Arguments.ofList args).isNamed "self" = false := rfl
    obtain ⟨ps, -, calls⟩ := construction_trace Program.printedCall text (fun _ => pure "")
      Program.orderly_hiddenConstructor made resolved free
    exact ⟨ps, _, calls⟩
  have ended {args : List Value} {r : Except Fault (Ref .facade)}
      (result : ((Program.printingClient.instantiate ⟨2⟩ (.ofList args)).run
        ((World.initial ()).after Program.hiddenConstructor)).1 = r) :
      ∃ ps as, Program.printingClient.Calls (.ofList args)
        ((World.initial ()).after Program.hiddenConstructor) ⟨2⟩ ps as
        (r, Program.calledWorld args) := by
    have whole : (Program.printingClient.instantiate ⟨2⟩ (.ofList args)).run
        ((World.initial ()).after Program.hiddenConstructor) = (r, Program.calledWorld args) :=
      Prod.ext result (by simp only [Program.calledWorld])
    rw [← whole]
    exact called args
  exact ⟨Program.orderly_hiddenConstructor, made, resolved, ended (by decide +kernel),
    by decide +kernel, by decide +kernel, ended (by decide +kernel), by decide +kernel,
    by decide +kernel⟩

end ObjectModel
