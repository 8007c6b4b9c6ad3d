import ObjectModel.Instantiation
import ObjectModel.Proofs.ClosedDefinitions
import ObjectModel.Proofs.LineageWalks

/-!
# Making instances along a lineage

The making of an instance first goes up through the parent classes and then builds the layers on
the way back, each with its constructor. By the time a constructor runs, all parents have been
found, so a constructor may do to the catalog what it likes: the layers of the instance are those
of the lineage that was resolved in the beginning.
-/

namespace ObjectModel

namespace Client

section Layers

variable {σ : Type} {m : Type → Type} [Acting σ m]

/-- Build the layers of a class and of the given ancestors, nearest first. No parent is looked for,
since all of them are given. -/
def addLayers (client : Client m) (args : Arguments) : Ref .cls → List (Ref .cls) → m Layer
  | c, [] => client.addLayer args c none
  | c, p :: ps => do
    let parent ← addLayers client args p ps
    client.addLayer args c (some parent.facade)

/-- Report a new instance and hand out its lowest facade. -/
def report (client : Client m) (c : Ref .cls) (layer : Layer) : m (Ref .facade) := do
  ask (.note (.instantiated (← client.spoken (← client.nameOf c))))
  return layer.facade

theorem instantiate_eq (client : Client m) (c : Ref .cls) (args : Arguments) :
    client.instantiate c args =
      if args.isNamed "self" then throw .wrongType
      else client.depthOf c >>= fun n => client.construct args n c >>= client.report c :=
  rfl

end Layers

section Ordinary

variable {σ : Type}

/-- A client that keeps no definitions itself. -/
def plain (call : Value → Arguments → Program σ Value) (spoken : Value → Program σ String)
    (describe : Ref .definition → Program σ String) : Client (Program σ) where
  call := call
  spoken := spoken
  describe := describe
  standIn? _ := pure none
  depth? _ := pure none

/-- Asked for definitions that it keeps itself, the client says that there are none. -/
structure Ordinary (client : Client (Program σ)) : Prop where
  standIn? : ∀ c, client.standIn? c = pure none
  depth? : ∀ c, client.depth? c = pure none

theorem ordinary_plain (call : Value → Arguments → Program σ Value)
    (spoken : Value → Program σ String) (describe : Ref .definition → Program σ String) :
    (plain call spoken describe).Ordinary :=
  ⟨fun _ => rfl, fun _ => rfl⟩

namespace Ordinary

variable {client : Client (Program σ)} (ordinary : client.Ordinary)

include ordinary

theorem run_standIn? (c : Ref .cls) (w : World σ) : (client.standIn? c).run w = (.ok none, w) := by
  rw [ordinary.standIn?]
  rfl

theorem run_parentClass? (c : Ref .cls) (w : World σ) :
    (client.parentClass? c).run w = (w.heap.parentClass? c, w) := by
  rw [parentClass?, Program.run_bind_of_ok (ordinary.run_standIn? c w)]
  dsimp only
  rw [Program.run_look_bind]
  split
  · rename_i top
    simp only [Heap.parentClass?, top, Program.run_pure]
  · rename_i notNull
    rw [Heap.parentClass?_eq rfl notNull, Program.run_bind, Program.run_settle]
    cases w.heap.importClass (w.heap.classes.get c).catalog _ <;> rfl

theorem run_constructor? (c : Ref .cls) (w : World σ) :
    (client.constructor? c).run w =
      (.ok ((w.heap.classDefinition c).publics.find? (.text "constructor")), w) := by
  rw [constructor?, Program.run_bind_of_ok (ordinary.run_standIn? c w)]
  rfl

theorem run_newLayer (c : Ref .cls) (parent : Option (Ref .facade)) (w : World σ) :
    (client.newLayer c parent).run w = w.perform (.newLayer c parent) := by
  rw [newLayer, Program.run_bind_of_ok (ordinary.run_standIn? c w)]
  exact Program.run_ask _ _

theorem run_depthOf (c : Ref .cls) (w : World σ) :
    (client.depthOf c).run w = ((w.heap.classLineage c).map List.length, w) := by
  have asked : (client.depth? c).run w = (.ok none, w) := by
    rw [ordinary.depth?]
    rfl
  rw [depthOf, Program.run_bind_of_ok asked]
  change (settle (w.heap.classLineage c) >>= fun ds => pure ds.length : Program σ Nat).run w = _
  rw [Program.run_bind, Program.run_settle]
  cases w.heap.classLineage c <;> rfl

theorem run_construct_succ (args : Arguments) (n : Nat) (c : Ref .cls) (w : World σ) :
    (client.construct args (n + 1) c).run w =
      match w.heap.parentClass? c with
      | .error e => (.error e, w)
      | .ok none => (client.addLayer args c none).run w
      | .ok (some p) =>
        (client.construct args n p >>= fun parent =>
          client.addLayer args c (some parent.facade)).run w := by
  rw [construct, Program.run_bind, ordinary.run_parentClass?]
  cases w.heap.parentClass? c with
  | error e => rfl
  | ok above => cases above <;> rfl

variable (args : Arguments) {w : World σ} {c : Ref .cls}

/-- Where the way to a root or to a lost parent is known, the recursion goes this way and no
further: it needs as many steps as there are classes on the way. -/
theorem run_construct_of_ascent {ps : List (Ref .cls)} {fault : Option Fault}
    (way : w.heap.Ascent c (c :: ps) fault) (n : Nat) :
    (client.construct args n c).run w =
      if n ≤ ps.length then (.error .exhausted, w)
      else match fault with
        | some e => (.error e, w)
        | none => (client.addLayers args c ps).run w := by
  induction n generalizing c ps with
  | zero => rw [if_pos (Nat.zero_le _), construct, Program.run_throw]
  | succ n ih =>
    rw [ordinary.run_construct_succ]
    cases way with
    | root top => simp [top, addLayers]
    | lost failed => simp [failed]
    | @layer c p ps fault link above =>
      obtain ⟨qs, rfl⟩ := above.eq_cons
      -- the look-up does not change the world, so the way from the parent is still the same
      have next := ih above
      simp only [link]
      by_cases hn : n ≤ qs.length
      · rw [if_pos hn] at next
        rw [Program.run_bind_of_error next, if_pos (by simpa using hn)]
      · rw [if_neg hn] at next
        rw [if_neg (by simpa using hn)]
        cases fault with
        | some e => rw [Program.run_bind_of_error next]
        | none => rw [Program.run_bind, next, addLayers, Program.run_bind]

/-- Where the way has no end, neither has the recursion. -/
theorem run_construct_of_endless (endless : ∀ cs fault, ¬ w.heap.Ascent c cs fault) (n : Nat) :
    (client.construct args n c).run w = (.error .exhausted, w) := by
  induction n generalizing c with
  | zero => rw [construct, Program.run_throw]
  | succ n ih =>
    rw [ordinary.run_construct_succ]
    cases hp : w.heap.parentClass? c with
    | error e => exact absurd (.lost hp) (endless _ _)
    | ok above =>
      cases above with
      | none => exact absurd (.root hp) (endless _ _)
      | some p =>
        have next : (client.construct args n p).run w = (.error .exhausted, w) :=
          ih (fun cs fault way => endless _ _ (.layer hp way))
        exact Program.run_bind_of_error next

end Ordinary

end Ordinary

end Client

namespace Heap

/-- Layers that came into being after `before`, lowest first: one of each of the given classes, each
one below the next. -/
inductive Stack (before h : Heap) : List (Ref .cls) → List Layer → Prop where
  | nil : Stack before h [] []
  | cons {c : Ref .cls} {cs : List (Ref .cls)} {l : Layer} {ls : List Layer}
      (new : before.facades.contains l.facade = false ∧ before.states.contains l.state = false)
      (present : h.facades.contains l.facade = true ∧ h.states.contains l.state = true)
      (views : h.facadeState l.facade = l.state) (cls : h.stateClass l.state = c)
      (link : h.parentFacade l.facade = ls.head?.map Layer.facade)
      (above : Stack before h cs ls) : Stack before h (c :: cs) (l :: ls)

variable {before h h' : Heap} {c : Ref .cls} {cs : List (Ref .cls)} {l : Layer} {ls : List Layer}

/-- What is done later does not change the layers. -/
theorem Stack.extend (stack : Stack before h cs ls) (he : h.Extends h') :
    Stack before h' cs ls := by
  induction stack with
  | nil => exact .nil
  | cons new present views cls link above ih =>
    refine .cons new ⟨(he.facades _ present.1).1, (he.states _ present.2).1⟩ ?_ ?_ ?_ ih
    · exact (he.facadeState_eq present.1).trans views
    · exact (he.stateClass_eq present.2).trans cls
    · exact (he.parentFacade_eq present.1).trans link

theorem Stack.present_head (stack : Stack before h cs ls) :
    ∀ f, ls.head?.map Layer.facade = some f → h.facades.contains f = true := by
  intro f hf
  cases stack with
  | nil => simp at hf
  | cons new present views cls link above =>
    obtain rfl : _ = f := by simpa using hf
    exact present.1

theorem Stack.chain (stack : Stack before h cs (l :: ls)) :
    Chain h.parentFacade l.facade ((l :: ls).map Layer.facade) := by
  induction ls generalizing cs l with
  | nil =>
    cases stack with
    | cons new present views cls link above => exact .root link
  | cons l' ls ih =>
    cases stack with
    | cons new present views cls link above => exact .layer link (ih above)

theorem Stack.classes (stack : Stack before h cs ls) :
    (ls.map Layer.facade).map h.facadeClass = cs := by
  induction stack with
  | nil => rfl
  | cons new present views cls link above ih =>
    rw [List.map_cons, List.map_cons, ih]
    congr 1
    rw [← cls, ← views]
    rfl

/-- A new layer below the others. -/
theorem Stack.newLayer (stack : Stack before h cs ls) (he : before.Extends h)
    (made : h.classes.contains c = true) :
    Stack before (h.newLayer c (ls.head?.map Layer.facade)).2 (c :: cs)
      ((h.newLayer c (ls.head?.map Layer.facade)).1 :: ls) := by
  have grown := (Step.newLayer (σ := Unit) made stack.present_head).extends
  refine .cons ⟨?_, ?_⟩ ⟨?_, ?_⟩ ?_ ?_ ?_ (stack.extend grown)
  · cases hb : before.facades.contains h.facades.next with
    | false => exact hb
    | true => simpa using (he.facades _ hb).1
  · cases hb : before.states.contains h.states.next with
    | false => exact hb
    | true => simpa using (he.states _ hb).1
  · exact Store.contains_push_next _ _
  · exact Store.contains_push_next _ _
  · exact (facadeState_newLayer _ _ _ _).trans (if_pos rfl)
  · exact (stateClass_newLayer _ _ _ _).trans (if_pos rfl)
  · exact (parentFacade_newLayer _ _ _ _).trans (if_pos rfl)

end Heap

theorem World.perform_newLayer {σ : Type} {w : World σ} {c : Ref .cls} {parent : Option (Ref .facade)}
    (made : w.heap.classes.contains c = true)
    (present : ∀ f, parent = some f → w.heap.facades.contains f = true) :
    w.perform (.newLayer c parent) =
      (.ok (w.heap.newLayer c parent).1, w.setHeap (w.heap.newLayer c parent).2) := by
  have allowed : (w.heap.classes.contains c && parent.all w.heap.facades.contains) = true := by
    rw [made, Bool.true_and, Option.all_eq_true]
    exact present
  rw [perform, allowed]
  rfl

namespace Client

variable {σ : Type}

/-- How the making of layers of the given classes, lowest first, can end. Either all of them are
there, or the constructor of one of them has raised a fault, and the layers above are there. -/
inductive Outcome (client : Client (Program σ)) (args : Arguments) (w : World σ)
    (cs : List (Ref .cls)) : Except Fault Layer × World σ → Prop where
  | made {l : Layer} {ls : List Layer} {w' : World σ} (later : w.Reaches w')
      (layers : w.heap.Stack w'.heap cs (l :: ls)) : Outcome client args w cs (.ok l, w')
  | raised (below : List (Ref .cls)) {above : List (Ref .cls)} {c : Ref .cls} {l : Layer}
      {ls : List Layer} {u w' : World σ} {f : Value} {e : Fault} (split : cs = below ++ c :: above)
      (layers : w.heap.Stack w'.heap (c :: above) (l :: ls)) (moment : w.Reaches u)
      (constructor : (u.heap.classDefinition c).publics.find? (.text "constructor") = some f)
      (raises : (client.call f (args.after (.state l.state))).run u = (.error e, w')) :
      Outcome client args w cs (.error e, w')

/-- An instance of `c` gets one layer for `c` and each of `ps`, its ancestors in order, as they are
registered before anything is made. -/
structure Follows (client : Client (Program σ)) (args : Arguments) (w : World σ) (c : Ref .cls)
    (ps : List (Ref .cls)) : Prop where
  /-- The parents are found one after the other, and the last one has none. -/
  way : w.heap.Ascent c (c :: ps) none
  /-- The recursion goes as deep as this and no deeper, and looks no parent up on the way back. -/
  steps : ∀ n, (client.construct args n c).run w =
    if n ≤ ps.length then (.error .exhausted, w) else (client.addLayers args c ps).run w
  /-- The layers are made, all of them unless a constructor fails. -/
  outcome : Outcome client args w (c :: ps) ((client.addLayers args c ps).run w)
  /-- They are the layers of the facade that the caller gets. -/
  levels : ∀ layer w', (client.addLayers args c ps).run w = (.ok layer, w') →
    (w'.heap.facadeLayers layer.facade).map w'.heap.facadeClass = c :: ps
  /-- This is all of the call but for the report at its end, if the arguments fit the call. -/
  whole : (client.instantiate c args).run w =
    if args.isNamed "self" then (.error .wrongType, w)
    else (client.addLayers args c ps >>= client.report c).run w

namespace Ordinary

variable {client : Client (Program σ)} (ordinary : client.Ordinary) (args : Arguments)
  {w₀ w : World σ} {c : Ref .cls} {cs ps : List (Ref .cls)} {ls : List Layer}

include ordinary

/-- One more layer below those that are there. -/
theorem stack_newLayer (later : w₀.Reaches w) (stack : w₀.heap.Stack w.heap cs ls)
    (made : w.heap.classes.contains c = true) :
    ∃ layer u, (client.newLayer c (ls.head?.map Layer.facade)).run w = (.ok layer, u) ∧
      w₀.Reaches u ∧ w₀.heap.Stack u.heap (c :: cs) (layer :: ls) := by
  have run := World.perform_newLayer made (w := w) (fun f hf => stack.present_head f hf)
  have reached := World.Reaches.perform w (.newLayer c (ls.head?.map Layer.facade))
  rw [run] at reached
  refine ⟨_, _, ?_, later.trans reached, stack.newLayer later.extends made⟩
  rw [ordinary.run_newLayer, run]

/-- The constructor of a new layer runs when the layer is there. If it fails, nothing more is made. -/
theorem outcome_addLayer (later : w₀.Reaches w) (stack : w₀.heap.Stack w.heap cs ls)
    (made : w.heap.classes.contains c = true) :
    Outcome client args w₀ (c :: cs)
      ((client.addLayer args c (ls.head?.map Layer.facade)).run w) := by
  obtain ⟨layer, u, run, moment, stack'⟩ := ordinary.stack_newLayer later stack made
  rw [addLayer, Program.run_bind_of_ok run, Program.run_bind_of_ok (ordinary.run_constructor? c u)]
  cases hf : (u.heap.classDefinition c).publics.find? (.text "constructor") with
  | none => exact .made moment stack'
  | some f =>
    have after := Program.run_reaches (client.call f (args.after (.state layer.state))) u
    cases raises : (client.call f (args.after (.state layer.state))).run u with
    | mk r w' =>
      rw [raises] at after
      have kept := stack'.extend after.extends
      cases r with
      | ok v =>
        have done : (client.call f (args.after (.state layer.state)) >>= fun _ => pure layer).run u =
            (.ok layer, w') := Program.run_bind_of_ok raises
        exact done ▸ .made (moment.trans after) kept
      | error e =>
        have done : (client.call f (args.after (.state layer.state)) >>= fun _ => pure layer).run u =
            (.error e, w') := Program.run_bind_of_error raises
        exact done ▸ .raised [] rfl kept moment hf raises

/-- The layers of given classes are made from the root down, and nothing that a constructor does
makes them the layers of other classes. -/
theorem outcome_addLayers (made : ∀ p ∈ c :: ps, w.heap.classes.contains p = true) :
    Outcome client args w (c :: ps) ((client.addLayers args c ps).run w) := by
  induction ps generalizing c with
  | nil => exact ordinary.outcome_addLayer args (.refl w) .nil (made c (by simp))
  | cons p ps ih =>
    have first := ih (fun q hq => made q (List.mem_cons_of_mem _ hq))
    rw [addLayers, Program.run_bind]
    generalize (client.addLayers args p ps).run w = o at first
    cases first with
    | made later layers =>
      -- whatever the constructors above have done, the class that is next is the same one
      have present := (later.extends.classes c (made c (by simp))).1
      exact ordinary.outcome_addLayer args later layers present
    | raised below split layers moment constructor raises =>
      exact .raised (c :: below) (by rw [split]; rfl) layers moment constructor raises

theorem follows_of_classLineage (reachable : w.Reachable) (made : w.heap.classes.contains c = true)
    (way : w.heap.Ascent c (c :: ps) none)
    (resolved : w.heap.classLineage c =
      .ok ((c :: ps).map (fun p => (w.heap.classes.get p).definition))) :
    Follows client args w c ps := by
  have steps (n : Nat) := ordinary.run_construct_of_ascent args way n
  have outcome := ordinary.outcome_addLayers args (way.made reachable.registered made)
  refine ⟨way, steps, outcome, ?_, ?_⟩
  · intro layer w' run
    rw [run] at outcome
    cases outcome with
    | made later layers =>
      have layered := (reachable.after later).layered
      have levels := layers.chain.unique (chain_ascend_index layered.olderFacades layer.facade)
      rw [Heap.facadeLayers, ← levels, layers.classes]
  · have depth := ordinary.run_depthOf c w
    rw [resolved] at depth
    rw [instantiate_eq]
    cases args.isNamed "self" with
    | true => rfl
    | false =>
      change (client.depthOf c >>= fun n => client.construct args n c >>= client.report c).run w = _
      rw [Program.run_bind_of_ok depth, Program.run_bind, steps, List.length_map, List.length_cons,
        if_neg (by omega), if_neg (by simp), Program.run_bind]

theorem run_instantiate_of_error {e : Fault} (failed : w.heap.classLineage c = .error e) :
    (client.instantiate c args).run w =
      (.error (if args.isNamed "self" then .wrongType else e), w) := by
  have depth := ordinary.run_depthOf c w
  rw [failed] at depth
  rw [instantiate_eq]
  cases args.isNamed "self" with
  | true => rfl
  | false => exact Program.run_bind_of_error depth

/-- The recursion that makes the layers never ends, whatever its bound, exactly where the way through
the parent classes has no end. -/
theorem run_construct_exhausted_iff (reachable : w.Reachable)
    (made : w.heap.classes.contains c = true) :
    (∀ n, (client.construct args n c).run w = (.error .exhausted, w)) ↔
      ∀ cs fault, ¬ w.heap.Ascent c cs fault := by
  constructor
  · intro endless cs fault way
    obtain ⟨ps, rfl⟩ := way.eq_cons
    have run := ordinary.run_construct_of_ascent args way (ps.length + 1)
    rw [endless, if_neg (by omega)] at run
    cases fault with
    | some e =>
      obtain ⟨rfl, -⟩ : Fault.exhausted = e ∧ w = w := by simpa using run
      exact way.fault_ne_exhausted rfl
    | none =>
      -- a run that makes a layer does not end in the world in which it began
      have outcome := ordinary.outcome_addLayers args (way.made reachable.registered made)
      have stuck : (client.addLayers args c ps).run w = (.error .exhausted, w) := run.symm
      rw [stuck] at outcome
      cases outcome with
      | raised below split layers moment constructor raises =>
        cases layers with
        | cons new present views cls link above => simp [present.1] at new
  · exact ordinary.run_construct_of_endless args

end Ordinary

/-- For every class of a reachable world, whether or not it is still registered: if its lineage is
found, then the instance gets exactly the layers of this lineage, whatever its constructors do, and
otherwise the call fails with the fault of the lineage and leaves the world as it is. For a class
that is registered under its own name, the complaint of a circle comes exactly where the making of
the layers would never end. -/
theorem instantiate_follows_lineage (call : Value → Arguments → Program σ Value)
    (spoken : Value → Program σ String) (describe : Ref .definition → Program σ String)
    (args : Arguments) {w : World σ} {c : Ref .cls} (reachable : w.Reachable)
    (made : w.heap.classes.contains c = true) :
    (∀ ds, w.heap.classLineage c = .ok ds →
      ∃ ps, ds = (c :: ps).map (fun p => (w.heap.classes.get p).definition) ∧
        Follows (plain call spoken describe) args w c ps) ∧
    (∀ e, w.heap.classLineage c = .error e →
      ((plain call spoken describe).instantiate c args).run w =
        (.error (if args.isNamed "self" then .wrongType else e), w)) ∧
    (w.heap.importClass (w.heap.classes.get c).catalog (w.heap.className c) = .ok c →
      ((∃ path next, w.heap.classLineage c = .error (.circularInheritance path next)) ↔
        ∀ n, ((plain call spoken describe).construct args n c).run w = (.error .exhausted, w))) := by
  have ordinary := ordinary_plain call spoken describe
  refine ⟨fun ds resolved => ?_, fun e failed => ?_, fun current => ?_⟩
  · obtain ⟨ps, way, rfl⟩ := Heap.ascent_of_classLineage reachable.registered resolved
    exact ⟨ps, rfl, ordinary.follows_of_classLineage args reachable made way resolved⟩
  · exact ordinary.run_instantiate_of_error args failed
  · rw [ordinary.run_construct_exhausted_iff args reachable made]
    have named : ∀ p, w.heap.classes.contains p = true → (w.heap.className p).isText = true :=
      fun p there => by rw [reachable.named p there]; rfl
    exact Heap.classLineage_circle_iff reachable.registered named current

end Client

/-- Two classes, of which the root has a constructor. -/
def Program.twoClasses : Program Unit Unit :=
  .ofActions [
    .openBuilder Heap.defaultCatalog (.text "Base"),
    .addMembers ⟨0⟩ .publics (.ofList [(.text "constructor", .function ⟨0⟩)]),
    .register Heap.defaultCatalog ⟨0⟩,
    .openBuilder Heap.defaultCatalog (.text "Derived"),
    .setParent ⟨1⟩ (.text "Base"),
    .register Heap.defaultCatalog ⟨1⟩]

def Program.twoClassesWorld : World Unit := (twoClasses.run (.initial ())).2

/-- A constructor that registers a new root under the old name, with the derived class for its
parent. From then on the two classes are on a circle. -/
def Program.closeCircle : Program Unit Value := do
  ofActions [
    .openBuilder Heap.defaultCatalog (.text "Base"),
    .setParent ⟨2⟩ (.text "Derived"),
    .register Heap.defaultCatalog ⟨2⟩]
  return .null

/-- A client whose calls close the circle. -/
def Program.circleClient : Client (Program Unit) :=
  .plain (fun _ _ => closeCircle) (fun _ => pure "") (fun _ => pure "")

/-- The world after the layers of an instance of the derived class were made. -/
def Program.circleWorld : World Unit :=
  ((circleClient.addLayers (.ofList []) ⟨1⟩ [⟨0⟩]).run twoClassesWorld).2

/-- The instance has the two layers of the old lineage, although a circle was closed before the
second layer was made. -/
theorem Client.instantiate_follows_lineage_twoClasses :
    Program.twoClassesWorld.Reachable ∧
    Program.twoClassesWorld.heap.classes.contains ⟨1⟩ = true ∧
    Program.twoClassesWorld.heap.classLineage ⟨1⟩ = .ok [⟨1⟩, ⟨0⟩] ∧
    (Program.circleWorld.heap.facadeLayers ⟨1⟩).map Program.circleWorld.heap.facadeClass =
      [⟨1⟩, ⟨0⟩] ∧
    Program.circleWorld.heap.classLineage ⟨1⟩ =
      .error (.circularInheritance [.text "Derived", .text "Base"] (.text "Derived")) := by
  have reachable : Program.twoClassesWorld.Reachable := ⟨(), Program.run_reaches _ _⟩
  have made : Program.twoClassesWorld.heap.classes.contains ⟨1⟩ = true := by decide
  have resolved : Program.twoClassesWorld.heap.classLineage ⟨1⟩ = .ok [⟨1⟩, ⟨0⟩] := by rfl
  obtain ⟨ps, -, follows⟩ := (instantiate_follows_lineage (fun _ _ => Program.closeCircle)
    (fun _ => pure "") (fun _ => pure "") (.ofList []) reachable made).1 _ resolved
  have way : Program.twoClassesWorld.heap.Ascent ⟨1⟩ [⟨1⟩, ⟨0⟩] none := .layer rfl (.root rfl)
  obtain rfl : ps = [⟨0⟩] := by simpa using (follows.way.unique way).1
  exact ⟨reachable, made, resolved, follows.levels ⟨⟨1⟩, ⟨1⟩⟩ Program.circleWorld rfl, rfl⟩

end ObjectModel
