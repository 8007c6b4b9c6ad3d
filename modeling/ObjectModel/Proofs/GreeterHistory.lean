import ObjectModel.Proofs.GreeterDefinition

/-!
# The history of the greeters

From the definition of the two example classes on, instances are made, their methods are called, and
keys are written onto them and deleted again, in any order. What is refused on the way leaves no
trace either: at every moment the count is the number of persons that were made, every person tells
the name that it was made with, and the greetings are those of the class bodies.
-/

namespace ObjectModel.Script.Greeters

open Machine

/-- What is done from outside with the two classes and their instances. -/
inductive Deed where
  | greeter (args : Arguments)
  | person (args : Arguments)
  | send (f : Ref .facade) (method : String) (args : Arguments)
  | write (f : Ref .facade) (key : String) (v : Value)
  | delete (f : Ref .facade) (key : String)
  | allowWriting (on : Bool)

/-- A deed, as a script does it. -/
def Deed.play (m : Machine) (g p : Ref .cls) : Deed → Prog Value
  | greeter args => m.call (.cls g) args
  | person args => m.call (.cls p) args
  | send f method args => Roles.callOn m f method args
  | write f key v => doing (m.writeAttribute (.facade f) (.text key) v)
  | delete f key => doing (m.deleteAttribute (.facade f) (.text key))
  | allowWriting on => doing (ask (.setAllowWriting on))

/-- An instance that was returned, and what a person was given for a name. -/
inductive Instance where
  | greeter (f : Ref .facade)
  | person (f : Ref .facade) (name : Option Value)

def Instance.facade : Instance → Ref .facade
  | greeter f | person f _ => f

def Instance.isPerson : Instance → Bool
  | greeter _ => false
  | person _ _ => true

/-- Deeds and what they came to, the oldest first. -/
abbrev History : Type := List (Deed × Except Fault Value)

/-- The instance that was returned. -/
def made? : Deed × Except Fault Value → Option Instance
  | (.greeter _, .ok (.facade f)) => some (.greeter f)
  | (.person args, .ok (.facade f)) => some (.person f (args.only? "name"))
  | _ => none

namespace History

def instances (history : History) : List Instance := history.filterMap made?

/-- How many calls of the second class have returned an instance. -/
def persons (history : History) : Nat := history.instances.countP Instance.isPerson

variable (history : History) (e : Deed × Except Fault Value)

theorem instances_concat : instances (history ++ [e]) = history.instances ++ (made? e).toList := by
  rw [instances, List.filterMap_append]
  cases made : made? e <;> simp [instances, made]

theorem persons_concat :
    persons (history ++ [e]) = history.persons + (made? e).toList.countP Instance.isPerson := by
  rw [persons, instances_concat, List.countP_append, persons]

end History

/-- What a call gives for a parameter is a text. -/
def GivesText (args : Arguments) (name : String) : Prop :=
  ∀ v, args.only? name = some v → ∃ s, v = .text s

/-- A facade that a script can have: that of an instance that was returned, or of its parent
layer. -/
def InReach (history : History) (h : Heap) (f : Ref .facade) : Prop :=
  ∃ i ∈ history.instances, f ∈ h.facadeLayers i.facade

/-- Names and the arguments of greetings are texts, and neither the count nor a greeting is written
over. -/
def Deed.Allowed (history : History) (h : Heap) : Deed → Prop
  | greeter _ => True
  | person args => GivesText args "name"
  | send f method args => InReach history h f ∧ method ∈ greetings ∧ GivesText args "name"
  | write f key _ | delete f key => InReach history h f ∧ key ≠ "count" ∧ key ∉ greetings
  | allowWriting _ => True

/-- A run of allowed deeds. -/
inductive Course (m : Machine) (g p : Ref .cls) (w : World Workspace) :
    History → World Workspace → Prop
  | start : Course m g p w [] w
  | deed {history : History} {u u' : World Workspace} {d : Deed} {r : Except Fault Value}
    (before : Course m g p w history u) (allowed : d.Allowed history u.heap)
    (played : (d.play m g p).run u = (r, u')) : Course m g p w (history ++ [(d, r)]) u'

/-- What the two classes and their instances do, whatever was done before. -/
structure Remembers (m : Machine) (g p : Ref .cls) (history : History) (u : World Workspace) :
    Prop where
  /-- The count is the number of persons. -/
  count : (m.read (.cls p) "count").run u = (.ok (.int history.persons), u)
  /-- A call with a name makes a person, and any other call is refused. -/
  arrival : ∀ args, GivesText args "name" → ∃ r u', (m.call (.cls p) args).run u = (r, u') ∧
    if (args.only? "name").isSome then ∃ f, r = .ok (.facade f) else ∃ e, r = .error e
  introduce : ∀ f given, .person f given ∈ history.instances → ∃ name, given = some (.text name) ∧
    ∀ args, args.isEmpty = true →
      Prints (Roles.callOn m f "introduce" args) u ("Hi! My name is " ++ name ++ "\n")
  override : ∀ f given, .person f given ∈ history.instances →
    ∀ args t, args.only? "name" = some (.text t) →
      Prints (Roles.callOn m f "say_hello" args) u ("Hello " ++ t ++ "\n" ++ "Override hello\n")
  hello : ∀ f, .greeter f ∈ history.instances → ∀ args t, args.only? "name" = some (.text t) →
    Prints (Roles.callOn m f "say_hello" args) u ("Hello " ++ t ++ "\n")

namespace Roles

variable {x : Roles} {history : History} {w u u' : World Workspace} {i : Instance} {d : Deed}
  {r : Except Fault Value} {n : Nat}

/-- An instance that was returned is still what it was. -/
def Stands (x : Roles) (u : World Workspace) : Instance → Prop
  | .greeter f => x.IsGreeter u f
  | .person f given => ∃ name, given = some (.text name) ∧ x.IsPerson u f name

theorem Stands.spared (stands : x.Stands u i) (layered : u.heap.Layered) (spares : Spares u u') :
    x.Stands u' i := by
  cases i with
  | greeter f => exact IsGreeter.spared layered stands spares
  | person f given =>
    obtain ⟨name, text, person⟩ := stands
    exact ⟨name, text, person.spared layered spares⟩

/-- Both layers of a person, and the one of a greeter, are instances. -/
theorem Stands.isInstance (stands : x.Stands u i) (layered : u.heap.Layered) {f : Ref .facade}
    (there : f ∈ u.heap.facadeLayers i.facade) : x.IsInstance u f := by
  cases i with
  | greeter g =>
    rw [show u.heap.facadeLayers (Instance.greeter g).facade = [g] from
      IsGreeter.facadeLayers stands layered] at there
    exact .inl (List.mem_singleton.mp there ▸ stands)
  | person g given =>
    obtain ⟨name, -, person⟩ := stands
    obtain ⟨above, greeter, levels⟩ := person.exists_facadeLayers layered
    rw [show u.heap.facadeLayers (Instance.person g given).facade = [g, above] from levels] at there
    rcases List.mem_cons.mp there with rfl | there
    · exact .inr ⟨name, person⟩
    · exact .inl (List.mem_singleton.mp there ▸ greeter)

/-- What holds at every moment of a history. -/
structure Scene (x : Roles) (history : History) (u : World Workspace) : Prop where
  staged : x.Staged history.persons u
  fresh : Fresh u
  stands : ∀ i ∈ history.instances, x.Stands u i

theorem Scene.inReach (scene : x.Scene history u) {f : Ref .facade}
    (inReach : InReach history u.heap f) : x.IsInstance u f := by
  obtain ⟨i, there, layer⟩ := inReach
  exact (scene.stands i there).isInstance scene.staged.layered layer

/-- The instances that were there still stand after a deed, with the one that it has made. -/
theorem Scene.concat (scene : x.Scene history u)
    (staged : x.Staged (history ++ [(d, r)] : History).persons u') (spares : Spares u u')
    (new : ∀ i, made? (d, r) = some i → x.Stands u' i) : x.Scene (history ++ [(d, r)]) u' where
  staged := staged
  fresh := scene.fresh.spared spares
  stands i there := by
    rw [History.instances_concat] at there
    rcases List.mem_append.mp there with old | added
    · exact (scene.stands i old).spared scene.staged.layered spares
    · exact new i (Option.mem_toList.mp added)

/-- After a deed that has made nothing the count is what it was. -/
theorem Scene.quiet (scene : x.Scene history u) (nothing : made? (d, r) = none)
    (staged : x.Staged history.persons u') (spares : Spares u u') :
    x.Scene (history ++ [(d, r)]) u' := by
  refine scene.concat ?_ spares (fun i made => ?_)
  · rw [History.persons_concat, nothing]
    exact staged
  · rw [nothing] at made
    cases made

theorem run_doing {p : Prog Unit} {outcome : Except Fault Unit} (run : p.run u = (outcome, u')) :
    (doing p).run u = (outcome.map (fun _ => .null), u') := by
  cases outcome with
  | ok _ => exact (Session.run_bind_of_ok run).trans (Session.run_pure _ u')
  | error e => exact Session.run_bind_of_error run

section Deeds

variable {args : Arguments} {f : Ref .facade} {key : String} (scene : x.Scene history u)

include scene

theorem Scene.greeter
    (played : ((ofDepth (n + 12)).call (.cls x.greeter) args).run u = (r, u')) :
    x.Scene (history ++ [(.greeter args, r)]) u' := by
  cases self : args.isNamed "self" with
  | true =>
    obtain ⟨rfl, rfl⟩ := Prod.mk.inj ((run_call_class_of_namedSelf self _).symm.trans played)
    exact scene.quiet rfl scene.staged (.refl u)
  | false =>
    obtain ⟨f, _, run, staged, spares, greeter⟩ :=
      exists_run_call_greeter (n := n + 10) scene.staged scene.fresh self
    obtain ⟨rfl, rfl⟩ := Prod.mk.inj (run.symm.trans played)
    refine scene.concat ?_ spares ?_
    · rw [History.persons_concat]
      exact staged
    · rintro _ ⟨⟩
      exact greeter

theorem Scene.person (texts : GivesText args "name")
    (played : ((ofDepth (n + 12)).call (.cls x.person) args).run u = (r, u')) :
    x.Scene (history ++ [(.person args, r)]) u' := by
  cases only : args.only? "name" with
  | none =>
    obtain ⟨_, run, staged, spares⟩ :=
      exists_run_call_person_of_none (n := n + 5) scene.staged only
    obtain ⟨rfl, rfl⟩ := Prod.mk.inj (run.symm.trans played)
    exact scene.quiet rfl staged spares
  | some v =>
    obtain ⟨name, rfl⟩ := texts v only
    obtain ⟨f, _, run, staged, spares, person⟩ :=
      exists_run_call_person (n := n + 5) scene.staged scene.fresh only
    obtain ⟨rfl, rfl⟩ := Prod.mk.inj (run.symm.trans played)
    refine scene.concat ?_ spares ?_
    · rw [History.persons_concat]
      exact staged
    · rintro _ ⟨⟩
      exact ⟨name, only, person⟩

theorem Scene.send {method : String} (inReach : InReach history u.heap f)
    (greeting : method ∈ greetings) (texts : GivesText args "name")
    (played : (callOn (ofDepth (n + 12)) f method args).run u = (r, u')) :
    x.Scene (history ++ [(.send f method args, r)]) u' := by
  have called : ∃ r s u', (callOn (ofDepth (n + 12)) f method args).run u = (r, u') ∧
      Printed u s u' := by
    rcases scene.inReach inReach with greeter | ⟨name, person⟩
    · exact greeter.exists_printed_callOn texts greeting scene.staged n
    · exact person.exists_printed_callOn texts greeting scene.staged n
  obtain ⟨_, _, _, run, printed⟩ := called
  obtain ⟨rfl, rfl⟩ := Prod.mk.inj (run.symm.trans played)
  exact scene.quiet rfl (scene.staged.printed printed) printed.spares

theorem Scene.write {v : Value} (inReach : InReach history u.heap f) (other : key ≠ "count")
    (own : key ∉ greetings)
    (played : (doing ((ofDepth n).writeAttribute (.facade f) (.text key) v)).run u = (r, u')) :
    x.Scene (history ++ [(.write f key v, r)]) u' := by
  obtain ⟨_, run, staged, spares⟩ :=
    (scene.inReach inReach).exists_run_write (m := ofDepth n) scene.staged other own v
  obtain ⟨rfl, rfl⟩ := Prod.mk.inj ((run_doing run).symm.trans played)
  exact scene.quiet rfl staged spares

theorem Scene.delete (inReach : InReach history u.heap f)
    (played : (doing ((ofDepth (n + 1)).deleteAttribute (.facade f) (.text key))).run u = (r, u')) :
    x.Scene (history ++ [(.delete f key, r)]) u' := by
  obtain ⟨outcome, _, run, staged, spares⟩ :=
    (scene.inReach inReach).exists_run_delete scene.staged key n
  obtain ⟨rfl, rfl⟩ := Prod.mk.inj ((run_doing run).symm.trans played)
  exact scene.quiet rfl staged spares

theorem Scene.allowWriting {on : Bool}
    (played : (doing (ask (.setAllowWriting on))).run u = (r, u')) :
    x.Scene (history ++ [(.allowWriting on, r)]) u' := by
  have done := run_doing (Session.run_ask (.setAllowWriting on) u)
  obtain ⟨rfl, rfl⟩ := Prod.mk.inj (done.symm.trans played)
  have same : Printed u "" { u with settings := { u.settings with allowWriting := on } } :=
    ⟨String.append_empty.symm, rfl, .refl _⟩
  exact scene.quiet rfl (scene.staged.printed same) same.spares

/-- Every allowed deed leads from one moment to the next. -/
theorem Scene.deed (allowed : d.Allowed history u.heap)
    (played : (d.play (ofDepth (n + 12)) x.greeter x.person).run u = (r, u')) :
    x.Scene (history ++ [(d, r)]) u' := by
  cases d with
  | greeter args => exact scene.greeter played
  | person args => exact scene.person allowed played
  | send f method args =>
    obtain ⟨inReach, greeting, texts⟩ := allowed
    exact scene.send inReach greeting texts played
  | write f key v =>
    obtain ⟨inReach, other, own⟩ := allowed
    exact scene.write inReach other own played
  | delete f key => exact scene.delete allowed.1 played
  | allowWriting on => exact scene.allowWriting played

end Deeds

/-- A course of allowed deeds leads from scene to scene. -/
theorem scene_of_course (staged : x.Staged 0 w) (fresh : Fresh w)
    (course : Course (ofDepth (n + 12)) x.greeter x.person w history u) : x.Scene history u := by
  induction course with
  | start => exact ⟨staged, fresh, fun _ there => nomatch there⟩
  | deed before allowed played ih => exact ih.deed allowed played

/-- What the instances do at any such moment. -/
theorem Scene.remembers (scene : x.Scene history u) (n : Nat) :
    Remembers (ofDepth (n + 12)) x.greeter x.person history u where
  count := by
    refine run_read_class scene.staged.asMade_person.toOrdinary scene.staged.person.cls ?_
    rw [Heap.readClass, scene.staged.personRecord]
    rfl
  arrival args texts := by
    cases only : args.only? "name" with
    | none =>
      obtain ⟨u', run, -⟩ := exists_run_call_person_of_none (n := n + 5) scene.staged only
      exact ⟨_, u', run, _, rfl⟩
    | some v =>
      obtain ⟨name, rfl⟩ := texts v only
      obtain ⟨f, u', run, -⟩ := exists_run_call_person (n := n + 5) scene.staged scene.fresh only
      exact ⟨_, u', run, f, rfl⟩
  introduce f given there := by
    obtain ⟨name, text, person⟩ := scene.stands _ there
    exact ⟨name, text, fun args empty => person.prints_introduce (n := n + 2) scene.staged empty⟩
  override f given there args t only := by
    obtain ⟨name, text, person⟩ := scene.stands _ there
    exact person.prints_sayHello scene.staged only
  hello f there args t only :=
    IsGreeter.prints_sayHello (n := n + 4) (scene.stands _ there) scene.staged only

end Roles

/-- After the example classes were defined in any catalog, and after any allowed deeds since then,
the count of persons is the number of persons that were made, each of them prints the name that it
was made with, and the greetings print what their class bodies say: that of a greeter one line, and
that of a person the line of the greeter and one more. -/
theorem greeters_count_and_remember {w : World Workspace} {k : Ref .catalog}
    (undisturbed : Undisturbed w k) (n : Nat) :
    ∃ (g p : Ref .cls) (list : Ref .list) (w₀ : World Workspace),
      ((ofDepth (n + 12)).defineGreeters (.catalog k)).run w = (.ok (.list list), w₀) ∧
      w₀.client.lists.get list = #[.cls g, .cls p] ∧
      ∀ history u, Course (ofDepth (n + 12)) g p w₀ history u →
        Remembers (ofDepth (n + 12)) g p history u := by
  obtain ⟨x, list, w₀, defined, classes, staged, fresh⟩ :=
    exists_run_defineGreeters undisturbed (n + 7)
  exact ⟨x.greeter, x.person, list, w₀, defined, classes, fun history u course =>
    (Roles.scene_of_course staged fresh course).remembers n⟩

/-- The catalog that is there from the start, and the first person. -/
theorem greeters_count_and_remember_firstPerson :
    Undisturbed (World.initial Workspace.initial) Heap.defaultCatalog ∧
    ∃ (g p : Ref .cls) (list : Ref .list) (w₀ u : World Workspace) (f : Ref .facade),
      (scriptMachine.defineGreeters (.catalog Heap.defaultCatalog)).run
        (World.initial Workspace.initial) = (.ok (.list list), w₀) ∧
      (scriptMachine.call (.cls p) (.ofList [.text "Ada"])).run w₀ = (.ok (.facade f), u) ∧
      Course scriptMachine g p w₀ [(.person (.ofList [.text "Ada"]), .ok (.facade f))] u ∧
      (scriptMachine.read (.cls p) "count").run u = (.ok (.int 1), u) ∧
      Prints (Roles.callOn scriptMachine f "introduce" (.ofList [])) u "Hi! My name is Ada\n" := by
  have undisturbed : Undisturbed (World.initial Workspace.initial) Heap.defaultCatalog :=
    ⟨⟨_, .refl _⟩, rfl, rfl, fun _ _ => ⟨rfl, rfl⟩⟩
  obtain ⟨g, p, list, w₀, defined, -, remembers⟩ := greeters_count_and_remember undisturbed 249988
  have texts : GivesText (.ofList [.text "Ada"]) "name" := by
    rintro _ ⟨⟩
    exact ⟨"Ada", rfl⟩
  obtain ⟨r, u, called, f, rfl⟩ := (remembers [] w₀ .start).arrival _ texts
  have course :
      Course scriptMachine g p w₀ [(.person (.ofList [.text "Ada"]), .ok (.facade f))] u :=
    .deed .start texts called
  have after := remembers _ u course
  obtain ⟨name, given, introduces⟩ := after.introduce f (some (.text "Ada")) (.head _)
  cases given
  exact ⟨undisturbed, g, p, list, w₀, u, f, defined, called, course, after.count,
    introduces (.ofList []) rfl⟩

end ObjectModel.Script.Greeters
