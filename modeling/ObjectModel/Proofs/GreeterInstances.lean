import ObjectModel.Proofs.ExternalWrites
import ObjectModel.Proofs.GreeterMethods

/-!
# Instances of the greeters

A greeter has one layer and a person has two. As long as none of the two greetings is written over
and the name stays in the layer of the person, an instance greets as it was made to. Nothing that is
made later can take this away: new layers are added beside the old ones, and a constructor writes
into its own layer alone.
-/

namespace ObjectModel

/-- Whether a thing can have been given attributes or have lost some: it has to be there, and
neither declarations nor data take attributes. -/
def Heap.alterable (h : Heap) : Value → Bool
  | .builder b => h.builders.contains b
  | .definition d => h.definitions.contains d
  | .cls c => h.classes.contains c
  | .state s => h.states.contains s
  | .facade f => h.facades.contains f
  | .declaration _ | .null | .bool _ | .int _ | .text _ | .list _ | .dict _ => false
  | _ => true

theorem Heap.Extends.alterable {h h' : Heap} (extends_ : h.Extends h') {v : Value}
    (there : h.alterable v = true) : h'.alterable v = true := by
  cases v with
  | builder b => exact (extends_.builders b there).1
  | definition d => exact (extends_.definitions d there).1
  | cls c => exact (extends_.classes c there).1
  | state s => exact (extends_.states s there).1
  | facade f => exact (extends_.facades f there).1
  | declaration _ | null | bool _ | int _ | text _ | list _ | dict _ => cases there
  | _ => rfl

namespace Script

variable {w u u' : World Workspace} {s : String} {f : Ref .facade}

/-- Nothing was done to what is not there yet, or cannot be altered. -/
def Fresh (w : World Workspace) : Prop :=
  ∀ v, w.heap.alterable v = false → w.client.isAltered v = false ∧ w.client.hasStrays v = false

theorem Fresh.later (fresh : Fresh w) (extends_ : w.heap.Extends u.heap)
    (altered : ∀ v, u.client.isAltered v = w.client.isAltered v)
    (strays : ∀ v, u.client.hasStrays v = w.client.hasStrays v) : Fresh u := by
  intro v absent
  have before : w.heap.alterable v = false := by
    cases there : w.heap.alterable v with
    | false => rfl
    | true => exact absurd (extends_.alterable there) (by simp [absent])
  rw [altered, strays]
  exact fresh v before

/-- The methods that are called from outside. -/
def greetings : List String := ["introduce", "say_hello"]

theorem mem_greetings {key : String} :
    key ∈ greetings ↔ key = "introduce" ∨ key = "say_hello" := by
  simp [greetings]

/-- What was made before stays as it is, but for keys that are no greetings and are written onto
facades. -/
structure Spares (w u : World Workspace) : Prop where
  heap : w.heap.Extends u.heap
  client : w.client.Continues u.client
  named : ∀ s, w.heap.states.contains s = true →
    (u.heap.fields s).find? "name" = (w.heap.fields s).find? "name"
  unwritten : ∀ f, w.heap.facades.contains f = true → ∀ key ∈ greetings,
    (w.heap.external f).contains key = false → (u.heap.external f).contains key = false

theorem Spares.refl (w : World Workspace) : Spares w w :=
  ⟨.refl _, .refl _, fun _ _ => rfl, fun _ _ _ _ free => free⟩

theorem Spares.trans (first : Spares w u) (second : Spares u u') : Spares w u' where
  heap := first.heap.trans second.heap
  client := first.client.trans second.client
  named o made := (second.named o (first.heap.states o made).1).trans (first.named o made)
  unwritten f made key greeting free :=
    second.unwritten f (first.heap.facades f made).1 key greeting
      (first.unwritten f made key greeting free)

theorem Printed.spares (printed : Printed w s u) : Spares w u where
  heap := printed.heap ▸ .refl _
  client := printed.client
  named _ _ := by rw [printed.heap]
  unwritten _ _ _ _ free := by rw [printed.heap, free]

theorem Fresh.spared (fresh : Fresh w) (spares : Spares w u) : Fresh u :=
  fresh.later spares.heap spares.client.isAltered spares.client.hasStrays

namespace Greeters.Roles

open Machine

variable {x : Roles} {count n : Nat} {c : Ref .cls} {t name : String} {args : Arguments}

section Instances

/-- A layer of an instance, of which nothing was altered and no greeting was written over. -/
structure Clean (w : World Workspace) (c : Ref .cls) (f : Ref .facade) : Prop where
  made : w.heap.facades.contains f = true
  cls : w.heap.facadeClass f = c
  tidy : w.client.hasStrays (.facade f) = false
  kept : w.client.isAltered (.state (w.heap.facadeState f)) = false
  unwritten : ∀ key ∈ greetings, (w.heap.external f).contains key = false

/-- A greeter, or the layer of a person that is one. -/
structure IsGreeter (x : Roles) (w : World Workspace) (f : Ref .facade) : Prop
    extends Clean w x.greeter f where
  root : w.heap.parentFacade f = none

/-- A person of a name. -/
structure IsPerson (x : Roles) (w : World Workspace) (f : Ref .facade) (name : String) : Prop
    extends Clean w x.person f where
  link : ∃ above, w.heap.parentFacade f = some above ∧ x.IsGreeter w above
  named : (w.heap.fields (w.heap.facadeState f)).find? "name" = some (.text name)

section Later

variable (layered : w.heap.Layered)

include layered

theorem Clean.spared (clean : Clean w c f) (spares : Spares w u) : Clean u c f where
  made := (spares.heap.facades f clean.made).1
  cls := by
    have behind := layered.behind f clean.made
    rw [← clean.cls]
    change u.heap.stateClass (u.heap.facadeState f) = _
    rw [spares.heap.facadeState_eq clean.made, spares.heap.stateClass_eq behind]
    rfl
  tidy := (spares.client.hasStrays _).trans clean.tidy
  kept := by
    rw [spares.heap.facadeState_eq clean.made, spares.client.isAltered]
    exact clean.kept
  unwritten key greeting :=
    spares.unwritten f clean.made key greeting (clean.unwritten key greeting)

theorem IsGreeter.spared (greeter : x.IsGreeter w f) (spares : Spares w u) : x.IsGreeter u f where
  toClean := greeter.toClean.spared layered spares
  root := (spares.heap.parentFacade_eq greeter.made).trans greeter.root

theorem IsPerson.spared (person : x.IsPerson w f name) (spares : Spares w u) :
    x.IsPerson u f name where
  toClean := person.toClean.spared layered spares
  link := by
    obtain ⟨above, link, greeter⟩ := person.link
    exact ⟨above, (spares.heap.parentFacade_eq person.made).trans link,
      greeter.spared layered spares⟩
  named := by
    rw [spares.heap.facadeState_eq person.made, spares.named _ (layered.behind f person.made)]
    exact person.named

end Later

theorem IsGreeter.facadeLayers (greeter : x.IsGreeter w f) (layered : w.heap.Layered) :
    w.heap.facadeLayers f = [f] :=
  (chain_ascend_index layered.olderFacades f).unique (.root greeter.root)

theorem IsGreeter.ordinary (greeter : x.IsGreeter w f) (staged : x.Staged count w) :
    OrdinaryFacade w f where
  cls := greeter.cls ▸ staged.asMade_greeter.toOrdinary
  levels := by
    rw [greeter.facadeLayers staged.layered]
    intro g there
    obtain rfl := List.mem_singleton.mp there
    refine ⟨?_, greeter.tidy⟩
    rw [greeter.cls, staged.asMade_greeter.own]
    rfl

/-- A person is a layer below a greeter. -/
theorem IsPerson.exists_facadeLayers (person : x.IsPerson w f name) (layered : w.heap.Layered) :
    ∃ above, x.IsGreeter w above ∧ w.heap.facadeLayers f = [f, above] := by
  obtain ⟨above, link, greeter⟩ := person.link
  exact ⟨above, greeter,
    (chain_ascend_index layered.olderFacades f).unique (.layer link (.root greeter.root))⟩

theorem IsPerson.ordinary (person : x.IsPerson w f name) (staged : x.Staged count w) :
    OrdinaryFacade w f where
  cls := person.cls ▸ staged.asMade_person.toOrdinary
  levels := by
    obtain ⟨above, greeter, levels⟩ := person.exists_facadeLayers staged.layered
    rw [levels]
    intro g there
    rcases List.mem_cons.mp there with rfl | there
    · refine ⟨?_, person.tidy⟩
      rw [person.cls, staged.asMade_person.own]
      rfl
    · exact (greeter.ordinary staged).levels g (by rwa [greeter.facadeLayers staged.layered])

end Instances

section Calls

/-- Call a method of an instance from outside. -/
def callOn (m : Machine) (f : Ref .facade) (key : String) (args : Arguments) : Prog Value := do
  m.call (← m.read (.facade f) key) args

/-- A public method that nobody wrote over is applied to the state behind the facade. -/
theorem run_callOn {function : Ref .function} {key : String} (ordinary : OrdinaryFacade w f)
    (plain : isSpecial key = false) (unwritten : (w.heap.external f).contains key = false)
    (open_ : (w.heap.facadeDefinition f).isPrivate (.text key) = false)
    (declared : (w.heap.facadeDefinition f).publics.find? (.text key) = some (.function function)) :
    (callOn (ofDepth (n + 3)) f key args).run w =
      ((ofDepth (n + 1)).applyClosure (w.client.functions.get function)
        (args.after (.state (w.heap.facadeState f)))).run
        (withMethod w ⟨.state (w.heap.facadeState f), .function (.function function)⟩) :=
  (Session.run_bind_of_ok (run_read_facade ordinary plain unwritten open_ declared)).trans
    (run_call_method w args)

section Greeter

variable (greeter : x.IsGreeter w f) (staged : x.Staged count w)

include greeter staged

theorem IsGreeter.record : w.heap.facadeDefinition f = x.greeterRecord := by
  rw [Heap.facadeDefinition, greeter.cls, staged.greeterRecord]

theorem IsGreeter.run_sayHello (args : Arguments) (n : Nat) :
    (callOn (ofDepth (n + 3)) f "say_hello" args).run w =
      ((ofDepth (n + 1)).applyClosure (w.client.functions.get x.sayHello)
        (args.after (.state (w.heap.facadeState f)))).run
        (withMethod w ⟨.state (w.heap.facadeState f), .function (.function x.sayHello)⟩) := by
  have record := greeter.record staged
  exact run_callOn (greeter.ordinary staged) (by decide) (greeter.unwritten _ (by decide))
    (by rw [record]; rfl) (by rw [record]; rfl)

/-- A greeter prints one line. -/
theorem IsGreeter.prints_sayHello (only : args.only? "name" = some (.text t)) :
    Prints (callOn (ofDepth (n + 8)) f "say_hello" args) w ("Hello " ++ t ++ "\n") := by
  have called :=
    printed_withMethod w ⟨.state (w.heap.facadeState f), .function (.function x.sayHello)⟩
  refine .later called (greeter.run_sayHello staged args (n + 5)) ?_
  exact Roles.prints_sayHello (staged.printed called) greeter.cls only

/-- A greeter does not introduce itself. -/
theorem IsGreeter.exists_run_introduce (args : Arguments) (n : Nat) : ∃ e u,
    (callOn (ofDepth (n + 1)) f "introduce" args).run w = (.error e, u) ∧ Printed w "" u := by
  have silent : w.heap.answers "introduce" f = false := by
    rw [Heap.answers, Heap.declaresPublic, greeter.record staged,
      greeter.unwritten _ (by decide)]
    rfl
  have refused : w.heap.dispatch "introduce" (w.heap.facadeLayers f) =
      .error (.noPublicMember "introduce") := by
    rw [greeter.facadeLayers staged.layered, Heap.dispatch_of_not_answers silent]
    rfl
  obtain ⟨e, u, read, printed⟩ := exists_run_read_refused (n := n) (greeter.ordinary staged)
    (by decide) refused
  exact ⟨e, u, Session.run_bind_of_error read, printed⟩

end Greeter

section Person

variable (person : x.IsPerson w f name) (staged : x.Staged count w)

include person staged

theorem IsPerson.record : w.heap.facadeDefinition f = x.personRecord count := by
  rw [Heap.facadeDefinition, person.cls, staged.personRecord]

theorem IsPerson.run_callOn {key : String} {function : Ref .function} (greeting : key ∈ greetings)
    (declared : (x.personRecord count).publics.find? (.text key) = some (.function function))
    (args : Arguments) (n : Nat) : (callOn (ofDepth (n + 3)) f key args).run w =
      ((ofDepth (n + 1)).applyClosure (w.client.functions.get function)
        (args.after (.state (w.heap.facadeState f)))).run
        (withMethod w ⟨.state (w.heap.facadeState f), .function (.function function)⟩) := by
  have record := person.record staged
  have free := person.unwritten key greeting
  have ordinary := person.ordinary staged
  rcases mem_greetings.mp greeting with rfl | rfl <;>
    exact Roles.run_callOn ordinary (by decide) free (by rw [record]; rfl)
      (by rw [record, declared])

/-- A person tells the name. -/
theorem IsPerson.prints_introduce (empty : args.isEmpty = true) :
    Prints (callOn (ofDepth (n + 10)) f "introduce" args) w
      ("Hi! My name is " ++ name ++ "\n") := by
  have called :=
    printed_withMethod w ⟨.state (w.heap.facadeState f), .function (.function x.introduce)⟩
  refine .later called (person.run_callOn staged (by decide) rfl args (n + 7)) ?_
  exact Roles.prints_introduce (staged.printed called) person.cls person.named empty

/-- A person prints two lines. -/
theorem IsPerson.prints_sayHello (only : args.only? "name" = some (.text t)) :
    Prints (callOn (ofDepth (n + 12)) f "say_hello" args) w
      ("Hello " ++ t ++ "\n" ++ "Override hello\n") := by
  obtain ⟨above, link, greeter⟩ := person.link
  have called :=
    printed_withMethod w ⟨.state (w.heap.facadeState f), .function (.function x.override)⟩
  have parent : w.heap.parentState (w.heap.facadeState f) = some (w.heap.facadeState above) := by
    rw [← staged.layered.parallel f person.made, link]
    rfl
  refine .later called (person.run_callOn staged (by decide) rfl args (n + 9)) ?_
  exact prints_override (staged.printed called) person.cls parent greeter.cls only

end Person

section Any

theorem exists_printed_of_prints {p : Prog Value} (prints : Prints p w s) :
    ∃ r s u, p.run w = (r, u) ∧ Printed w s u := by
  obtain ⟨u, run, printed⟩ := prints
  exact ⟨_, s, u, run, printed⟩

variable {key : String} (texts : ∀ v, args.only? "name" = some v → ∃ t, v = .text t)
  (greeting : key ∈ greetings)

include texts greeting

/-- However a greeting of a greeter is called, it does no more than print. -/
theorem IsGreeter.exists_printed_callOn (greeter : x.IsGreeter w f) (staged : x.Staged count w)
    (n : Nat) : ∃ r s u, (callOn (ofDepth (n + 12)) f key args).run w = (r, u) ∧ Printed w s u := by
  rcases mem_greetings.mp greeting with rfl | rfl
  · obtain ⟨e, u, run, printed⟩ := greeter.exists_run_introduce staged args (n + 11)
    exact ⟨_, "", u, run, printed⟩
  · cases only : args.only? "name" with
    | some v =>
      obtain ⟨t, rfl⟩ := texts v only
      exact exists_printed_of_prints (greeter.prints_sayHello (n := n + 4) staged only)
    | none =>
      refine ⟨_, "", _, (greeter.run_sayHello staged args (n + 9)).trans
        (run_applyClosure_of_none ?_), printed_withMethod w _⟩
      rw [staged.closures.sayHello]
      exact (bindArguments_only (by decide) args _).trans (by rw [only]; rfl)

/-- However a greeting of a person is called, it does no more than print. -/
theorem IsPerson.exists_printed_callOn (person : x.IsPerson w f name) (staged : x.Staged count w)
    (n : Nat) : ∃ r s u, (callOn (ofDepth (n + 12)) f key args).run w = (r, u) ∧ Printed w s u := by
  rcases mem_greetings.mp greeting with rfl | rfl
  · cases empty : args.isEmpty with
    | true => exact exists_printed_of_prints (person.prints_introduce (n := n + 2) staged empty)
    | false =>
      refine ⟨_, "", _, (person.run_callOn staged greeting rfl args (n + 9)).trans
        (run_applyClosure_of_none ?_), printed_withMethod w _⟩
      rw [staged.closures.introduce]
      exact (bindArguments_self args _).trans (by rw [empty]; rfl)
  · cases only : args.only? "name" with
    | some v =>
      obtain ⟨t, rfl⟩ := texts v only
      exact exists_printed_of_prints (person.prints_sayHello staged only)
    | none =>
      refine ⟨_, "", _, (person.run_callOn staged greeting rfl args (n + 9)).trans
        (run_applyClosure_of_none ?_), printed_withMethod w _⟩
      rw [staged.closures.override]
      exact (bindArguments_only (by decide) args _).trans (by rw [only]; rfl)

end Any

end Calls

section Making

variable {parent : Option (Ref .facade)}

theorem spares_withLayer (w : World Workspace) (c : Ref .cls) (parent : Option (Ref .facade)) :
    Spares w (withLayer w c parent) where
  heap := { Heap.Extends.refl w.heap with
    states := Store.keeps_push _ _ _
    facades := Store.keeps_push _ _ _ }
  client := .refl _
  named o made := by
    change ((w.heap.newLayer c parent).2.fields o).find? "name" = _
    rw [Heap.fields_newLayer, if_neg (Store.ne_next made)]
  unwritten g made key _ free := by
    change ((w.heap.newLayer c parent).2.external g).contains key = false
    rw [Heap.external_newLayer, if_neg (Store.ne_next made), free]

theorem Staged.withLayer (staged : x.Staged count w) (c : Ref .cls)
    (present : ∀ f, parent = some f → w.heap.facades.contains f = true) :
    x.Staged count (withLayer w c parent) :=
  staged.congr rfl rfl rfl (staged.layered.newLayer c present) (.refl _)

/-- A new layer is clean. -/
theorem clean_withLayer (fresh : Fresh w) (c : Ref .cls) (parent : Option (Ref .facade)) :
    Clean (withLayer w c parent) c w.heap.facades.next where
  made := Store.contains_push_next _ _
  cls := by
    change (w.heap.newLayer c parent).2.stateClass ((w.heap.newLayer c parent).2.facadeState _) = c
    rw [Heap.facadeState_newLayer, if_pos rfl, Heap.stateClass_newLayer, if_pos rfl]
  tidy := (fresh (.facade w.heap.facades.next) (Store.contains_next _)).2
  kept := by
    change w.client.isAltered (.state ((w.heap.newLayer c parent).2.facadeState _)) = false
    rw [Heap.facadeState_newLayer, if_pos rfl]
    exact (fresh (.state w.heap.states.next) (Store.contains_next _)).1
  unwritten key _ := by
    change ((w.heap.newLayer c parent).2.external _).contains key = false
    rw [Heap.external_newLayer, if_pos rfl]
    rfl

theorem spares_withName {o : Ref .state} (spares : Spares w u)
    (new : w.heap.states.contains o = false) (v : Value) : Spares w (withName u o v) where
  heap := spares.heap.trans { Heap.Extends.refl u.heap with states := Store.keeps_modify rfl }
  client := spares.client
  named o' made := by
    have other : ¬(o = o' ∧ u.heap.states.contains o' = true) := by
      rintro ⟨rfl, -⟩
      simp [new] at made
    change ((u.heap.setFields o _).fields o').find? "name" = _
    rw [Heap.fields_setFields, if_neg other, spares.named o' made]
  unwritten := spares.unwritten

theorem spares_withCount (x : Roles) (w : World Workspace) (k : Nat) :
    Spares w (x.withCount w k) where
  heap := { Heap.Extends.refl w.heap with definitions := Store.keeps_modify rfl }
  client := .refl _
  named _ _ := rfl
  unwritten _ _ _ _ free := free

theorem isGreeter_withLayer (fresh : Fresh w) :
    x.IsGreeter (withLayer w x.greeter none) w.heap.facades.next where
  toClean := clean_withLayer fresh x.greeter none
  root := (Heap.parentFacade_newLayer _ _ _ _).trans (if_pos rfl)

/-- The world in which the layer of a person was added, and the constructor is done. -/
def withPerson (x : Roles) (w : World Workspace) (above : Ref .facade) (v : Value) (count : Nat) :
    World Workspace :=
  x.withCount (withName (withLayer w x.person (some above)) w.heap.states.next v) count

theorem spares_withPerson (x : Roles) (w : World Workspace) (above : Ref .facade) (v : Value)
    (count : Nat) : Spares w (x.withPerson w above v count) :=
  (spares_withName (spares_withLayer w x.person (some above)) (Store.contains_next _) v).trans
    (spares_withCount x _ count)

/-- A person is there when the constructor is done. -/
theorem isPerson_withPerson {above : Ref .facade} (fresh : Fresh w) (greeter : x.IsGreeter w above)
    (layered : w.heap.Layered) (name : String) (count : Nat) :
    x.IsPerson (x.withPerson w above (.text name) count) w.heap.facades.next name := by
  let layer := withLayer w x.person (some above)
  have clean : Clean layer x.person w.heap.facades.next :=
    clean_withLayer fresh x.person (some above)
  have behind : layer.heap.facadeState w.heap.facades.next = w.heap.states.next :=
    (Heap.facadeState_newLayer _ _ _ _).trans (if_pos rfl)
  have there : layer.heap.states.contains w.heap.states.next = true := Store.contains_push_next _ _
  refine ⟨⟨clean.made, (Heap.stateClass_setFields _ _ _ _).trans clean.cls, clean.tidy, clean.kept,
    clean.unwritten⟩, ⟨above, ?_, ?_⟩, ?_⟩
  · exact (Heap.parentFacade_newLayer w.heap x.person (some above) _).trans (if_pos rfl)
  · exact greeter.spared layered (spares_withPerson x w above _ count)
  · change ((layer.heap.setFields _ _).fields (layer.heap.facadeState _)).find? "name" = _
    rw [behind, Heap.fields_setFields, if_pos ⟨rfl, there⟩, Table.find?_insert]
    rfl

variable (staged : x.Staged count w)

include staged

theorem Staged.withPerson {above : Ref .facade} (present : w.heap.facades.contains above = true)
    (v : Value) (k : Nat) : x.Staged k (x.withPerson w above v k) := by
  have layer : x.Staged count (Machine.withLayer w x.person (some above)) :=
    staged.withLayer x.person (by rintro _ ⟨⟩; exact present)
  exact (layer.withName _ v).withCount k

theorem run_construct_greeter (args : Arguments) (m : Machine) (k : Nat) :
    (m.client.construct args (k + 1) x.greeter).run w =
      (.ok (w.heap.newLayer x.greeter none).1, withLayer w x.greeter none) := by
  have top : w.heap.parentClass? x.greeter = .ok none := by
    rw [Heap.parentClass?, staged.greeterRecord]
    rfl
  refine (run_construct_of_root staged.asMade_greeter top args k).trans ?_
  exact run_addLayer_of_none staged.asMade_greeter staged.greeter.made (by simp)
    (by rw [staged.greeterRecord]; rfl) m

theorem run_addLayer_person {above : Ref .facade} (present : w.heap.facades.contains above = true)
    (args : Arguments) : ((ofDepth (n + 2)).client.addLayer args x.person (some above)).run w =
      ((ofDepth (n + 1)).applyClosure (w.client.functions.get x.constructor)
          (args.after (.state w.heap.states.next)) >>= fun _ =>
        pure (w.heap.newLayer x.person (some above)).1).run
        (withLayer w x.person (some above)) := by
  have declared : (w.heap.classDefinition x.person).publics.find? (.text "constructor") =
      some (.function x.constructor) := by
    rw [staged.personRecord]
    rfl
  refine (run_addLayer_of_constructor staged.asMade_person staged.person.made
    (by rintro _ ⟨⟩; exact present) declared _).trans ?_
  exact Session.run_congr (fun next => rfl)

/-- The layer of a person is added below a greeter, and gets the name. -/
theorem exists_run_addLayer_person {above : Ref .facade} {v : Value}
    (present : w.heap.facades.contains above = true) (only : args.only? "name" = some v) : ∃ u,
      ((ofDepth (n + 6)).client.addLayer args x.person (some above)).run w =
        (.ok (w.heap.newLayer x.person (some above)).1, u) ∧
      Printed (x.withPerson w above v (count + 1)) "" u := by
  have layer : x.Staged count (withLayer w x.person (some above)) :=
    staged.withLayer x.person (by rintro _ ⟨⟩; exact present)
  obtain ⟨u, constructed, printed⟩ := exists_run_constructor (n := n) layer
    ((Heap.stateClass_newLayer _ _ _ _).trans (if_pos rfl)) (Store.contains_push_next _ _) only
  refine ⟨u, (run_addLayer_person staged present args).trans ?_, printed⟩
  exact (Session.run_bind_of_ok constructed).trans (Session.run_pure _ u)

theorem run_addLayer_person_of_none {above : Ref .facade}
    (present : w.heap.facades.contains above = true) (only : args.only? "name" = none) :
    ((ofDepth (n + 6)).client.addLayer args x.person (some above)).run w =
      (.error .wrongType, withLayer w x.person (some above)) := by
  have layer : x.Staged count (withLayer w x.person (some above)) :=
    staged.withLayer x.person (by rintro _ ⟨⟩; exact present)
  refine (run_addLayer_person staged present args).trans ?_
  exact Session.run_bind_of_error (run_constructor_of_none layer.closures only)

/-- A person is made below a greeter of its own. -/
theorem run_construct_person (args : Arguments) (m : Machine) (k : Nat) :
    (m.client.construct args (k + 2) x.person).run w =
      (m.client.addLayer args x.person (some w.heap.facades.next)).run
        (withLayer w x.greeter none) := by
  have link : w.heap.parentClass? x.person = .ok (some x.greeter) := by
    have notNull : (w.heap.classDefinition x.person).parent ≠ .null := by
      rw [staged.personRecord]
      exact Value.noConfusion
    rw [Heap.parentClass?_eq rfl notNull, staged.personRecord]
    exact congrArg (Except.map some) staged.found
  rw [run_construct_of_link staged.asMade_person link args,
    Session.run_bind_of_ok (run_construct_greeter staged args m k)]
  rfl

end Making

section ClassCalls

theorem printed_addLog (w : World Workspace) (r : LogRecord) : Printed w "" (w.addLog r) :=
  ⟨String.append_empty.symm, rfl, .refl _⟩

theorem run_call_class_of_ok (done : ((ofDepth n).client.instantiate c args).run w = (.ok f, u)) :
    ((ofDepth (n + 1)).call (.cls c) args).run w = (.ok (.facade f), u) :=
  (Session.run_bind_of_ok (run_explained_of_ok done)).trans (Session.run_pure _ u)

theorem run_call_class_of_wrongType
    (refused : ((ofDepth n).client.instantiate c args).run w = (.error .wrongType, u)) :
    ((ofDepth (n + 1)).call (.cls c) args).run w = (.error .wrongType, u) :=
  Session.run_bind_of_error (run_explained_of_plain refused)

/-- The receiver of the call of a class cannot be given by its name. -/
theorem run_call_class_of_namedSelf (self : args.isNamed "self" = true) (c : Ref .cls) :
    ((ofDepth (n + 1)).call (.cls c) args).run w = (.error .wrongType, w) := by
  refine run_call_class_of_wrongType ?_
  rw [Client.instantiate_eq, if_pos self]
  exact Session.run_throw _ w

theorem run_instantiate {m : Machine} {k : Nat} (free : args.isNamed "self" = false)
    (depth : (m.client.depthOf c).run w = (.ok k, u)) : (m.client.instantiate c args).run w =
      (m.client.construct args k c >>= m.client.report c).run u := by
  rw [Client.instantiate_eq, free]
  exact Session.run_bind_of_ok depth

variable (staged : x.Staged count w)

include staged

/-- To call the first class makes a greeter, whatever the arguments are. -/
theorem exists_run_call_greeter (fresh : Fresh w) (free : args.isNamed "self" = false) : ∃ f u,
    ((ofDepth (n + 2)).call (.cls x.greeter) args).run w = (.ok (.facade f), u) ∧
      x.Staged count u ∧ Spares w u ∧ x.IsGreeter u f := by
  obtain ⟨more, asked, depth, printed⟩ := exists_run_depthOf_of_root staged.asMade_greeter
    (by rw [staged.greeterRecord]; rfl) n
  rw [Nat.add_comm 1 more] at depth
  have staged₁ := staged.printed printed
  let made := withLayer asked x.greeter none
  have staged₂ : x.Staged count made := staged₁.withLayer x.greeter (by simp)
  obtain ⟨r, reported⟩ := exists_run_client_report staged₂.asMade_greeter (ofDepth (n + 1))
    (asked.heap.newLayer x.greeter none).1
  have constructed := run_construct_greeter staged₁ args (ofDepth (n + 1)) more
  have instantiated := (run_instantiate free depth).trans
    ((Session.run_bind_of_ok constructed).trans reported)
  have logged := printed_addLog made r
  have greeter : x.IsGreeter made asked.heap.facades.next :=
    isGreeter_withLayer (fresh.spared printed.spares)
  exact ⟨_, made.addLog r, run_call_class_of_ok instantiated, staged₂.printed logged,
    (printed.spares.trans (spares_withLayer asked _ _)).trans logged.spares,
    greeter.spared staged₂.layered logged.spares⟩

omit staged in
theorem isNamed_self_of_only? {v : Value} (only : args.only? "name" = some v) :
    args.isNamed "self" = false := by
  cases self : args.isNamed "self" with
  | false => rfl
  | true =>
    rw [only?_of_namedSelf self (by decide)] at only
    cases only

/-- The layers of a person are known before any of them is made. -/
theorem exists_run_depthOf_person (n : Nat) : ∃ more u,
    ((ofDepth (n + 1)).client.depthOf x.person).run w = (.ok (more + 2), u) ∧ Printed w "" u := by
  have named : (w.heap.classDefinition x.person).name = .text "Person" := by
    rw [staged.personRecord]
    rfl
  have link : (w.heap.classDefinition x.person).parent = .text "Greeter" := by
    rw [staged.personRecord]
    rfl
  obtain ⟨more, u, depth, printed⟩ := exists_run_depthOf_of_link staged.asMade_person
    staged.asMade_greeter named link (by decide) staged.found (by rw [staged.greeterRecord]; rfl) n
  exact ⟨more, u, by rw [depth, Nat.add_comm], printed⟩

/-- To call the second class with a name makes a person of this name, and the person is counted. -/
theorem exists_run_call_person (fresh : Fresh w) (only : args.only? "name" = some (.text name)) :
    ∃ f u, ((ofDepth (n + 7)).call (.cls x.person) args).run w = (.ok (.facade f), u) ∧
      x.Staged (count + 1) u ∧ Spares w u ∧ x.IsPerson u f name := by
  obtain ⟨more, asked, depth, printed⟩ := exists_run_depthOf_person staged (n + 5)
  let base := withLayer asked x.greeter none
  let above := asked.heap.facades.next
  have staged₁ := staged.printed printed
  have staged₂ : x.Staged count base := staged₁.withLayer x.greeter (by simp)
  have present : base.heap.facades.contains above = true := Store.contains_push_next _ _
  obtain ⟨u, added, quiet⟩ := exists_run_addLayer_person (n := n) staged₂ present only
  have staged₃ := staged₂.withPerson present (.text name) (count + 1)
  obtain ⟨r, reported⟩ := exists_run_client_report (staged₃.printed quiet).asMade_person
    (ofDepth (n + 6)) (base.heap.newLayer x.person (some above)).1
  have constructed := (run_construct_person staged₁ args (ofDepth (n + 6)) more).trans added
  have instantiated := (run_instantiate (isNamed_self_of_only? only) depth).trans
    ((Session.run_bind_of_ok constructed).trans reported)
  have logged := quiet.trans (printed_addLog u r)
  have fresh₁ := fresh.spared printed.spares
  have greeter : x.IsGreeter base above := isGreeter_withLayer fresh₁
  have fresh₂ := fresh₁.spared (spares_withLayer asked x.greeter none)
  have person := isPerson_withPerson fresh₂ greeter staged₂.layered name (count + 1)
  exact ⟨_, u.addLog r, run_call_class_of_ok instantiated, staged₃.printed logged,
    ((printed.spares.trans (spares_withLayer asked _ _)).trans
      (spares_withPerson x base above _ _)).trans logged.spares,
    person.spared staged₃.layered logged.spares⟩

/-- To call it otherwise is refused, and nobody is counted. -/
theorem exists_run_call_person_of_none (only : args.only? "name" = none) : ∃ u,
    ((ofDepth (n + 7)).call (.cls x.person) args).run w = (.error .wrongType, u) ∧
      x.Staged count u ∧ Spares w u := by
  cases self : args.isNamed "self" with
  | true => exact ⟨w, run_call_class_of_namedSelf self x.person, staged, .refl w⟩
  | false =>
    obtain ⟨more, asked, depth, printed⟩ := exists_run_depthOf_person staged (n + 5)
    have staged₁ := staged.printed printed
    have staged₂ : x.Staged count (withLayer asked x.greeter none) :=
      staged₁.withLayer x.greeter (by simp)
    have present : (withLayer asked x.greeter none).heap.facades.contains
        asked.heap.facades.next = true := Store.contains_push_next _ _
    have refused := run_addLayer_person_of_none (n := n) staged₂ present only
    have constructed := (run_construct_person staged₁ args (ofDepth (n + 6)) more).trans refused
    have instantiated := (run_instantiate self depth).trans (Session.run_bind_of_error constructed)
    exact ⟨_, run_call_class_of_wrongType instantiated,
      staged₂.withLayer x.person (by rintro _ ⟨⟩; exact present),
      (printed.spares.trans (spares_withLayer asked _ _)).trans (spares_withLayer _ _ _)⟩

end ClassCalls

section Keys

variable {key : String} {m : Machine}

/-- An instance of one of the two classes, or the layer of a person that is a greeter. -/
def IsInstance (x : Roles) (w : World Workspace) (f : Ref .facade) : Prop :=
  x.IsGreeter w f ∨ ∃ name, x.IsPerson w f name

theorem IsInstance.clean (one : x.IsInstance w f) : ∃ c, Clean w c f := by
  rcases one with greeter | ⟨name, person⟩
  · exact ⟨_, greeter.toClean⟩
  · exact ⟨_, person.toClean⟩

theorem spares_setExternal {t : Table String Value}
    (unwritten : ∀ key ∈ greetings, (w.heap.external f).contains key = false →
      t.contains key = false) : Spares w (w.setHeap (w.heap.setExternal f t)) where
  heap := { Heap.Extends.refl w.heap with facades := Store.keeps_modify rfl }
  client := .refl _
  named _ _ := rfl
  unwritten g there key greeting free := by
    change ((w.heap.setExternal f t).external g).contains key = false
    rw [Heap.external_setExternal]
    split
    · rename_i same
      exact unwritten key greeting (same.1 ▸ free)
    · exact free

variable (one : x.IsInstance w f) (staged : x.Staged count w)

include one staged

theorem IsInstance.ordinary : OrdinaryFacade w f := by
  rcases one with greeter | ⟨name, person⟩
  · exact greeter.ordinary staged
  · exact person.ordinary staged

theorem IsInstance.undeclared (other : key ≠ "count") :
    (w.heap.facadeDefinition f).isStatic (.text key) = false := by
  rcases one with greeter | ⟨name, person⟩
  · rw [greeter.record staged]
    rfl
  · rw [person.record staged]
    simp [personRecord, Definition.isStatic, Table.contains, other.symm]

/-- A key that is written onto an instance is kept or dropped, and nothing else changes. -/
theorem IsInstance.exists_run_write (other : key ≠ "count") (own : key ∉ greetings) (v : Value) :
    ∃ u, (m.writeAttribute (.facade f) (.text key) v).run w = (.ok (), u) ∧
      x.Staged count u ∧ Spares w u := by
  obtain ⟨c, clean⟩ := one.clean
  have written : w.perform (.writePublic f key v) = (.ok (), w.writePublic f key v) := by
    simp only [World.perform, clean.made]
    rfl
  refine ⟨_, (run_writeAttribute_facade (one.ordinary staged) key v).trans written, ?_⟩
  let stored := w.setHeap (w.heap.addExternal f key v)
  have spares : Spares w stored := by
    refine spares_setExternal (fun k greeting free => ?_)
    rw [Table.contains_insert, free, Bool.or_false, beq_eq_false_iff_ne]
    rintro rfl
    exact own greeting
  have staged' : x.Staged count stored :=
    staged.congr rfl rfl rfl (staged.layered.setExternal f _) (.refl _)
  have outcome := World.writeOutcome_writePublic (v := v) (one.undeclared staged other)
  generalize w.writePublic f key v = u at outcome ⊢
  cases outcome with
  | overwritten => exact ⟨staged', spares⟩
  | addedWithWarning =>
    exact ⟨staged'.printed (printed_addLog stored _),
      spares.trans (printed_addLog stored _).spares⟩
  | addedSilently => exact ⟨staged', spares⟩
  | dropped => exact ⟨staged.printed (printed_addLog w _), (printed_addLog w _).spares⟩

/-- So it is if a key is deleted from an instance. -/
theorem IsInstance.exists_run_delete (key : String) (n : Nat) : ∃ r u,
    ((ofDepth (n + 1)).deleteAttribute (.facade f) (.text key)).run w = (r, u) ∧
      x.Staged count u ∧ Spares w u := by
  obtain ⟨c, clean⟩ := one.clean
  cases written : (w.heap.external f).contains key with
  | false =>
    obtain ⟨e, run⟩ := exists_run_deleteAttribute_of_not_contains (n := n) (one.ordinary staged)
      clean.kept written
    exact ⟨_, w, run, staged, .refl w⟩
  | true =>
    refine ⟨_, _, run_deleteAttribute_of_contains (one.ordinary staged) clean.made written,
      staged.congr rfl rfl rfl (staged.layered.setExternal f _) (.refl _),
      spares_setExternal (fun k _ free => ?_)⟩
    rw [Table.contains_eq_isSome_find?, Table.find?_erase] at *
    split
    · rfl
    · exact free

end Keys

end Greeters.Roles

end Script

end ObjectModel
