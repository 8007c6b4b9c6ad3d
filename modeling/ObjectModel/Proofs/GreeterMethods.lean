import ObjectModel.Proofs.OrdinaryInstances

/-!
# The methods of the greeters

What the methods of the two example classes do, once both classes stand in a catalog: the two
greetings print and do nothing else, and the constructor stores the name and counts the person. The
bodies see the members of their own class and nothing of what was written onto a facade.
-/

namespace ObjectModel.Script

namespace Greeters

def sayHelloBody : Expr := .send self (.text "private_hello") [.var "name"] []

def privateHelloBody : Expr := printAfter "Hello " (.var "name")

def constructorBody : Expr := .seq
  [.apply .put [self, .text "name", .var "name"],
   .apply .put [self, .text "count",
     .apply (.binary .add) [.apply .get [self, .text "count"], .int 1]],
   .null]

def introduceBody : Expr := .send self (.text "private_intro") [] []

def overrideBody : Expr := .seq
  [.send (.apply .get [self, .text "super"]) (.text "say_hello") [.var "name"] [],
   .print [.text "Override hello"],
   .null]

def privateIntroBody : Expr := printAfter "Hi! My name is " (.apply .get [self, .text "name"])

/-- The two classes, and the functions of their methods, which were made in one frame. -/
structure Roles where
  greeter : Ref .cls
  person : Ref .cls
  frame : Ref .frame
  sayHello : Ref .function
  privateHello : Ref .function
  constructor : Ref .function
  introduce : Ref .function
  override : Ref .function
  privateIntro : Ref .function

namespace Roles

variable (x : Roles)

def greeterRecord : Definition :=
  { Definition.named (.text "Greeter") with
    privates := ⟨[(.text "private_hello", .function x.privateHello)]⟩
    publics := ⟨[(.text "say_hello", .function x.sayHello)]⟩ }

/-- The record of the second class when so many persons have been counted. -/
def personRecord (count : Nat) : Definition :=
  { Definition.named (.text "Person") with
    parent := .text "Greeter"
    statics := ⟨[(.text "count", .int count)]⟩
    privates := ⟨[(.text "private_intro", .function x.privateIntro)]⟩
    publics := ⟨[(.text "constructor", .function x.constructor),
      (.text "introduce", .function x.introduce), (.text "say_hello", .function x.override)]⟩ }

/-- The functions are those of the methods. -/
structure Closures (c : Workspace) : Prop where
  sayHello : c.functions.get x.sayHello =
    ⟨[.required "self", .required "name"], sayHelloBody, x.frame⟩
  privateHello : c.functions.get x.privateHello =
    ⟨[.required "self", .required "name"], privateHelloBody, x.frame⟩
  constructor : c.functions.get x.constructor =
    ⟨[.required "self", .required "name"], constructorBody, x.frame⟩
  introduce : c.functions.get x.introduce = ⟨[.required "self"], introduceBody, x.frame⟩
  override : c.functions.get x.override =
    ⟨[.required "self", .required "name"], overrideBody, x.frame⟩
  privateIntro : c.functions.get x.privateIntro = ⟨[.required "self"], privateIntroBody, x.frame⟩

/-- Both classes stand in a catalog, nothing of them was altered, and so many persons have been
counted. -/
structure Staged (count : Nat) (w : World Workspace) : Prop where
  layered : w.heap.Layered
  greeter : Machine.Intact w x.greeter
  person : Machine.Intact w x.person
  greeterRecord : w.heap.classDefinition x.greeter = x.greeterRecord
  personRecord : w.heap.classDefinition x.person = x.personRecord count
  apart : (w.heap.classes.get x.greeter).definition ≠ (w.heap.classes.get x.person).definition
  defined : w.heap.definitions.contains (w.heap.classes.get x.person).definition = true
  found : w.heap.importClass (w.heap.classes.get x.person).catalog (.text "Greeter") =
    .ok x.greeter
  closures : x.Closures w.client

end Roles

namespace Roles

open Machine

variable {x : Roles} {count : Nat} {w u : World Workspace} {n : Nat} {s t : String}
  {args : Arguments} {receiver : Value}

theorem Closures.continue {c c' : Workspace} (closures : x.Closures c)
    (continues : c.Continues c') :
    x.Closures c' := by
  obtain ⟨h₁, h₂, h₃, h₄, h₅, h₆⟩ := closures
  constructor <;> rw [continues.functions] <;> assumption

/-- What is done to instances leaves the classes as they are. -/
theorem Staged.congr (staged : x.Staged count w) (classes : u.heap.classes = w.heap.classes)
    (catalogs : u.heap.catalogs = w.heap.catalogs)
    (definitions : u.heap.definitions = w.heap.definitions) (layered : u.heap.Layered)
    (continues : w.client.Continues u.client) : x.Staged count u where
  layered := layered
  greeter := staged.greeter.congr classes continues
  person := staged.person.congr classes continues
  greeterRecord := by
    rw [← staged.greeterRecord, Heap.classDefinition, Heap.definition, classes, definitions]
    rfl
  personRecord := by
    rw [← staged.personRecord, Heap.classDefinition, Heap.definition, classes, definitions]
    rfl
  apart := by rw [classes]; exact staged.apart
  defined := by rw [classes, definitions]; exact staged.defined
  found := by
    rw [← staged.found, Heap.importClass, Heap.importClass, classes, catalogs]
  closures := staged.closures.continue continues

theorem Staged.printed (staged : x.Staged count w) (printed : Printed w s u) :
    x.Staged count u := by
  have layered := staged.layered
  rw [← printed.heap] at layered
  exact staged.congr (congrArg Heap.classes printed.heap) (congrArg Heap.catalogs printed.heap)
    (congrArg Heap.definitions printed.heap) layered printed.client

theorem Staged.asMade_greeter (staged : x.Staged count w) : AsMade w x.greeter :=
  staged.greeter.asMade (by rw [staged.greeterRecord]; rfl)

theorem Staged.asMade_person (staged : x.Staged count w) : AsMade w x.person :=
  staged.person.asMade (by rw [staged.personRecord]; rfl)

/-- The record behind a layer is that of its class. -/
theorem Staged.stateDefinition_greeter {o : Ref .state} (staged : x.Staged count w)
    (cls : w.heap.stateClass o = x.greeter) : w.heap.stateDefinition o = x.greeterRecord := by
  rw [Heap.stateDefinition, cls, staged.greeterRecord]

theorem Staged.stateDefinition_person {o : Ref .state} (staged : x.Staged count w)
    (cls : w.heap.stateClass o = x.person) : w.heap.stateDefinition o = x.personRecord count := by
  rw [Heap.stateDefinition, cls, staged.personRecord]

theorem run_printAfter {frame : Ref .frame} {e : Expr} (lead : String)
    (yields : (ofDepth (n + 1)).Yields w frame e (.text t)) :
    ((ofDepth (n + 3)).eval frame (printAfter lead e)).run w =
      (.ok .null, withPrinted w (lead ++ t ++ "\n")) :=
  run_print (yields_add_texts (yields_text lead) yields)

/-- The private greeting of a greeter prints the name that it is given. -/
theorem prints_privateHello (closures : x.Closures w.client)
    (only : args.only? "name" = some (.text t)) :
    Prints ((ofDepth (n + 3)).applyClosure (w.client.functions.get x.privateHello)
      (args.after receiver)) w ("Hello " ++ t ++ "\n") := by
  refine .later (printed_withFrame w _)
    (run_applyClosure_of_only closures.privateHello (by decide) only) ?_
  exact ⟨_, run_printAfter "Hello " (yields_var (binds_withFrame rfl)), printed_withPrinted _ _⟩

section Sending

variable {frame : Ref .frame} {e : Expr} {o : Ref .state} {f : Ref .function} {key : String}
  {es : List Expr} {vs : List Value}

/-- A method that is found on a private state is called with what is sent. -/
theorem prints_send (yields : (ofDepth (n + 3)).Yields w frame e (.state o))
    (ordinary : Ordinary w (w.heap.stateClass o)) (plain : isSpecial key = false)
    (found : w.heap.readPrivate o key = .ok (.method (.function f) o))
    (operands : (ofDepth (n + 3)).Evaluates frame
      (withMethod w ⟨.state o, .function (.function f)⟩) es vs
      (withMethod w ⟨.state o, .function (.function f)⟩))
    (prints : Prints ((ofDepth (n + 1)).applyClosure (w.client.functions.get f)
      ((Arguments.ofList vs).after (.state o)))
      (withMethod w ⟨.state o, .function (.function f)⟩) s) :
    Prints ((ofDepth (n + 4)).eval frame (.send e (.text key) es [])) w s :=
  .later (printed_withMethod w _)
    ((run_send yields (run_read_method ordinary plain found) operands).trans
      (run_call_method w (.ofList vs))) prints

end Sending

section Bodies

variable {o : Ref .state}

/-- The greeting of a greeter prints the name that it is given. -/
theorem prints_sayHello (staged : x.Staged count w) (cls : w.heap.stateClass o = x.greeter)
    (only : args.only? "name" = some (.text t)) :
    Prints ((ofDepth (n + 6)).applyClosure (w.client.functions.get x.sayHello)
      (args.after (.state o))) w ("Hello " ++ t ++ "\n") := by
  have entered := printed_withFrame w
    ⟨.ofList [("self", .state o), ("name", .text t)], some x.frame⟩
  have staged' := staged.printed entered
  refine .later entered (run_applyClosure_of_only staged.closures.sayHello (by decide) only) ?_
  have found : w.heap.readPrivate o "private_hello" =
      .ok (.method (.function x.privateHello) o) := by
    rw [Heap.readPrivate, staged.stateDefinition_greeter cls]
    rfl
  refine prints_send (yields_var (binds_withFrame rfl)) (cls ▸ staged'.asMade_greeter.toOrdinary)
    (by decide) found (.cons (yields_var (binds_withFrame rfl)) .nil) ?_
  exact prints_privateHello (staged'.printed (printed_withMethod _ _)).closures rfl

/-- A person prints the name that is stored. -/
theorem prints_privateIntro (staged : x.Staged count w) (cls : w.heap.stateClass o = x.person)
    (named : (w.heap.fields o).find? "name" = some (.text t)) (empty : args.isEmpty = true) :
    Prints ((ofDepth (n + 5)).applyClosure (w.client.functions.get x.privateIntro)
      (args.after (.state o))) w ("Hi! My name is " ++ t ++ "\n") := by
  have entered := printed_withFrame w ⟨.ofList [("self", .state o)], some x.frame⟩
  have staged' := staged.printed entered
  refine .later entered (run_applyClosure_of_isEmpty staged.closures.privateIntro empty) ?_
  have stored : w.heap.readPrivate o "name" = .ok (.value (.text t)) := by
    rw [Heap.readPrivate, staged.stateDefinition_person cls, named]
    rfl
  have read := run_read_value (w := withFrame w ⟨.ofList [("self", .state o)], some x.frame⟩)
    (n := n + 1) (cls ▸ staged'.asMade_person.toOrdinary) (by decide) stored
  exact ⟨_, run_printAfter "Hi! My name is " (yields_get (yields_var (binds_withFrame rfl)) read),
    printed_withPrinted _ _⟩

theorem prints_introduce (staged : x.Staged count w) (cls : w.heap.stateClass o = x.person)
    (named : (w.heap.fields o).find? "name" = some (.text t)) (empty : args.isEmpty = true) :
    Prints ((ofDepth (n + 8)).applyClosure (w.client.functions.get x.introduce)
      (args.after (.state o))) w ("Hi! My name is " ++ t ++ "\n") := by
  have entered := printed_withFrame w ⟨.ofList [("self", .state o)], some x.frame⟩
  have staged' := staged.printed entered
  refine .later entered (run_applyClosure_of_isEmpty staged.closures.introduce empty) ?_
  have found : w.heap.readPrivate o "private_intro" =
      .ok (.method (.function x.privateIntro) o) := by
    rw [Heap.readPrivate, staged.stateDefinition_person cls]
    rfl
  refine prints_send (yields_var (binds_withFrame rfl)) (cls ▸ staged'.asMade_person.toOrdinary)
    (by decide) found .nil ?_
  exact prints_privateIntro (staged'.printed (printed_withMethod _ _)) cls named rfl

theorem readPrivate_super {above : Ref .state} (staged : x.Staged count w)
    (cls : w.heap.stateClass o = x.person) (link : w.heap.parentState o = some above) :
    w.heap.readPrivate o parentHandle = .ok (.value (.state above)) := by
  have stored : (w.heap.fields o).find? parentHandle = some (.state above) := by
    rw [staged.layered.handle, link]
    rfl
  rw [Heap.readPrivate, staged.stateDefinition_person cls, stored]
  rfl

/-- The greeting of a person lets the parent layer greet first. -/
theorem prints_overrideBody {above : Ref .state} {frame : Ref .frame} (staged : x.Staged count w)
    (cls : w.heap.stateClass o = x.person) (link : w.heap.parentState o = some above)
    (cls' : w.heap.stateClass above = x.greeter) (self : Binds w frame "self" (.state o))
    (name : Binds w frame "name" (.text t)) : Prints ((ofDepth (n + 10)).eval frame overrideBody) w
      ("Hello " ++ t ++ "\n" ++ "Override hello\n") := by
  have found : w.heap.readPrivate above "say_hello" =
      .ok (.method (.function x.sayHello) above) := by
    rw [Heap.readPrivate, staged.stateDefinition_greeter cls']
    rfl
  have parent : (ofDepth (n + 8)).Yields w frame (.apply .get [Greeters.self, .text "super"])
      (.state above) :=
    yields_get (yields_var self) (run_read_value (cls ▸ staged.asMade_person.toOrdinary) (by decide)
      (readPrivate_super staged cls link))
  have greeting := prints_send parent (cls' ▸ staged.asMade_greeter.toOrdinary) (by decide) found
    (.cons (yields_var name) .nil)
    (prints_sayHello (n := n) (staged.printed (printed_withMethod _ _)) cls'
      (show (Arguments.ofList [.text t]).only? "name" = some (.text t) from rfl))
  obtain ⟨u, greeted, printed⟩ := greeting
  have spoken : ((ofDepth (n + 9)).eval frame (.print [.text "Override hello"])).run u =
      (.ok .null, withPrinted u "Override hello\n") := run_print (yields_text "Override hello")
  refine ⟨withPrinted u "Override hello\n", ?_, printed.trans (printed_withPrinted u _)⟩
  refine (run_evalSeq_cons greeted).trans ?_
  exact (run_evalSeq_cons spoken).trans yields_null

theorem prints_override {above : Ref .state} (staged : x.Staged count w)
    (cls : w.heap.stateClass o = x.person) (link : w.heap.parentState o = some above)
    (cls' : w.heap.stateClass above = x.greeter) (only : args.only? "name" = some (.text t)) :
    Prints ((ofDepth (n + 10)).applyClosure (w.client.functions.get x.override)
      (args.after (.state o))) w ("Hello " ++ t ++ "\n" ++ "Override hello\n") := by
  have entered := printed_withFrame w
    ⟨.ofList [("self", .state o), ("name", .text t)], some x.frame⟩
  refine .later entered (run_applyClosure_of_only staged.closures.override (by decide) only) ?_
  exact prints_overrideBody (staged.printed entered) cls link cls' (binds_withFrame rfl)
    (binds_withFrame rfl)

end Bodies

section Construction

variable {o : Ref .state} {v : Value} {frame : Ref .frame}

/-- The world in which the name of a person has been stored. -/
def withName (w : World Workspace) (o : Ref .state) (v : Value) : World Workspace :=
  w.setHeap (w.heap.setFields o ((w.heap.fields o).insert "name" v))

/-- The world in which the count of the persons is another. -/
def withCount (x : Roles) (w : World Workspace) (count : Nat) : World Workspace :=
  w.setHeap (w.heap.setStatic (w.heap.classes.get x.person).definition "count" (.int count))

theorem perform_writeName (staged : x.Staged count w) (cls : w.heap.stateClass o = x.person)
    (made : w.heap.states.contains o = true) :
    w.perform (.writePrivate o "name" v) = (.ok (), withName w o v) := by
  have undeclared : (w.heap.stateDefinition o).isStatic (.text "name") = false := by
    rw [staged.stateDefinition_person cls]
    rfl
  simp only [World.perform, made, Heap.writePrivate, undeclared]
  rfl

theorem perform_writeCount (staged : x.Staged count w) (cls : w.heap.stateClass o = x.person)
    (made : w.heap.states.contains o = true) (k : Nat) :
    w.perform (.writePrivate o "count" (.int k)) = (.ok (), x.withCount w k) := by
  have declared : (w.heap.stateDefinition o).isStatic (.text "count") = true := by
    rw [staged.stateDefinition_person cls]
    rfl
  simp only [World.perform, made, Heap.writePrivate, declared, cls]
  rfl

theorem Staged.withName (staged : x.Staged count w) (o : Ref .state) (v : Value) :
    x.Staged count (withName w o v) :=
  staged.congr rfl rfl rfl
    (staged.layered.setFields o (Table.find?_insert_of_ne (by decide) _ v)) (.refl _)

theorem Staged.withCount (staged : x.Staged count w) (k : Nat) : x.Staged k (x.withCount w k) where
  layered := staged.layered.congr (fun _ => rfl) (fun _ => rfl) (fun _ => rfl) (fun _ => rfl)
    (fun _ => rfl) (fun _ => rfl)
  greeter := staged.greeter.congr rfl (.refl _)
  person := staged.person.congr rfl (.refl _)
  greeterRecord := by
    rw [← staged.greeterRecord]
    exact Store.get_modify_of_ne _ staged.apart.symm _
  personRecord := by
    have changed : (x.withCount w k).heap.classDefinition x.person =
        (w.heap.classDefinition x.person).setStatic (.text "count") (.int k) :=
      Store.get_modify_self staged.defined _
    rw [changed, staged.personRecord]
    rfl
  apart := staged.apart
  defined := (Store.contains_modify _ _ _ _).trans staged.defined
  found := staged.found
  closures := staged.closures

/-- The constructor stores the name in the layer of the person, and counts. -/
theorem run_constructorBody (staged : x.Staged count w) (cls : w.heap.stateClass o = x.person)
    (made : w.heap.states.contains o = true) (self : Binds w frame "self" (.state o))
    (name : Binds w frame "name" v) : ((ofDepth (n + 5)).eval frame constructorBody).run w =
      (.ok .null, x.withCount (withName w o v) (count + 1)) := by
  let named := withName w o v
  have staged' : x.Staged count named := staged.withName o v
  have cls' : named.heap.stateClass o = x.person := (Heap.stateClass_setFields _ _ _ _).trans cls
  have made' : named.heap.states.contains o = true := (Store.contains_modify _ _ _ _).trans made
  have ordinary : Ordinary named (named.heap.stateClass o) :=
    cls' ▸ staged'.asMade_person.toOrdinary
  have self' : Binds named frame "self" (.state o) := self
  have stored : ((ofDepth (n + 4)).eval frame
      (.apply .put [Greeters.self, .text "name", .var "name"])).run w = (.ok .null, named) := by
    refine (run_apply (.cons (yields_var self) (.cons (yields_text "name")
      (.cons (yields_var name) .nil))) (by decide)).trans ?_
    have written := run_writeAttribute_state (m := ofDepth (n + 3))
      (cls ▸ staged.asMade_person.toOrdinary) (perform_writeName (v := v) staged cls made)
    exact (Session.run_bind_of_ok written).trans (Session.run_pure _ _)
  have counted : ((ofDepth (n + 4)).eval frame (.apply .put [Greeters.self, .text "count",
      .apply (.binary .add) [.apply .get [Greeters.self, .text "count"], .int 1]])).run named =
        (.ok .null, x.withCount named (count + 1)) := by
    have current : named.heap.readPrivate o "count" = .ok (.value (.int count)) := by
      rw [Heap.readPrivate, staged'.stateDefinition_person cls']
      rfl
    have read := run_read_value (n := n) ordinary (by decide) current
    have increased : (ofDepth (n + 3)).Yields named frame (.apply (.binary .add)
        [.apply .get [Greeters.self, .text "count"], .int 1]) (.int (count + 1 : Nat)) :=
      yields_add_ints (yields_get (yields_var self') read) (yields_int 1)
    refine (run_apply (.cons (yields_var self') (.cons (yields_text "count")
      (.cons increased .nil))) (by decide)).trans ?_
    have written := run_writeAttribute_state (m := ofDepth (n + 3)) ordinary
      (perform_writeCount staged' cls' made' (count + 1))
    exact (Session.run_bind_of_ok written).trans (Session.run_pure _ _)
  refine (run_evalSeq_cons stored).trans ?_
  exact (run_evalSeq_cons counted).trans yields_null

theorem exists_run_constructor (staged : x.Staged count w) (cls : w.heap.stateClass o = x.person)
    (made : w.heap.states.contains o = true) (only : args.only? "name" = some v) : ∃ u,
      ((ofDepth (n + 5)).applyClosure (w.client.functions.get x.constructor)
        (args.after (.state o))).run w = (.ok .null, u) ∧
      Printed (x.withCount (withName w o v) (count + 1)) "" u := by
  have entered := printed_withFrame w ⟨.ofList [("self", .state o), ("name", v)], some x.frame⟩
  have run := run_constructorBody (n := n) (staged.printed entered) cls made (binds_withFrame rfl)
    (show Binds _ _ "name" v from binds_withFrame rfl)
  refine ⟨_, (run_applyClosure_of_only staged.closures.constructor (by decide) only).trans run, ?_⟩
  exact ⟨String.append_empty.symm, rfl, rfl, rfl, rfl, rfl⟩

/-- Without just the one argument the constructor does not run. -/
theorem run_constructor_of_none (closures : x.Closures w.client) (only : args.only? "name" = none) :
    ((ofDepth (n + 5)).applyClosure (w.client.functions.get x.constructor)
      (args.after receiver)).run w = (.error .wrongType, w) := by
  refine run_applyClosure_of_none ?_
  rw [closures.constructor]
  refine (bindArguments_only (by decide) args receiver).trans ?_
  rw [only]
  rfl

end Construction

end Roles

end Greeters

end ObjectModel.Script
