import ObjectModel.Proofs.BodyEvaluation
import ObjectModel.Proofs.GreeterInstances

/-!
# The definition of the greeters

The two example classes are defined one after the other, each by a class body that is written down.
Afterwards both stand in the catalog, and the first stands there under the name of the parent of the
second.
-/

namespace ObjectModel

theorem Store.set_push_next {role : Role} {α : Type} [Inhabited α] (s : Store role α) (a a' : α) :
    (s.push a).set s.next a' = s.push a' := by
  refine Store.ext_get (by simp) (fun x _ => ?_)
  rw [get_set, get_push, get_push]
  by_cases same : x = s.next
  · simp [same]
  · simp [same, Ne.symm same]

namespace Script

variable {w u u' : World Workspace} {frame : Ref .frame} {k : Ref .catalog} {name : String}
  {n : Nat} {items : List BodyItem} {ds : List Declaration}

theorem Machine.Evaluates.reaches {m : Machine} {es : List Expr} {vs : List Value}
    (evaluates : m.Evaluates frame w es vs u) : w.Reaches u := by
  induction evaluates with
  | nil => exact .refl _
  | cons first _ ih => exact (Session.reaches_run first).trans ih

section Bodies

theorem BodyItem.fits (sound : ∀ item ∈ items, item.Sound)
    (declare : List.Forall₂ (BodyItem.Declares frame u.client) items ds) :
    ∀ d ∈ ds, ∀ h : Heap, d.Plain ∧ d.Fits h.callable := by
  induction declare with
  | nil => exact fun _ there => nomatch there
  | cons declares _ ih =>
    obtain ⟨first, rest⟩ := List.forall_mem_cons.mp sound
    exact List.forall_mem_cons.mpr ⟨first.fits declares, ih rest⟩

theorem BodyItem.Declares.textKeys {item : BodyItem} {c : Workspace} {part : Section}
    {t : Table Key Value} (declares : item.Declares frame c (.members part t)) :
    Section.TextKeys t := by
  cases declares with
  | members denote =>
    exact entries_memberTable denote (fun e _ => ⟨e.1, rfl⟩) (fun _ _ _ _ => trivial)

/-- A class whose members all have texts for names can be described. -/
theorem descriptionFault?_of_declare
    (declare : List.Forall₂ (BodyItem.Declares frame u.client) items ds) :
    descriptionFault? ((Definition.named (.text name)).withItems ds) = none := by
  have texts : ∀ part t, .members part t ∈ ds → Section.TextKeys t := by
    induction declare with
    | nil => exact fun _ _ there => nomatch there
    | cons declares _ ih =>
      intro part t there
      rcases List.mem_cons.mp there with rfl | there
      · exact declares.textKeys
      · exact ih part t there
  have shown (part : Section) :
      tableFault? (((Definition.named (.text name)).withItems ds).table part) = none := by
    refine tableFault?_of_texts (fun k there => ?_)
    obtain ⟨e, listed, rfl⟩ := List.mem_map.mp there
    rw [Definition.table_withItems] at listed
    have blank : Section.TextKeys ((Definition.named (.text name)).table part) := by
      cases part <;> exact Table.entries_empty
    exact (Definition.entries_merged blank (texts part) e listed).1
  exact List.findSome?_eq_none_iff.mpr (by
    simpa using ⟨shown .statics, shown .privates, shown .publics⟩)

/-- A catalog to which nothing was done, and which still goes by its own table. -/
structure Undisturbed (w : World Workspace) (k : Ref .catalog) : Prop where
  reachable : w.Reachable
  inCatalog : w.heap.catalogs.contains k = true
  catalog : w.client.isAltered (.catalog k) = false
  fresh : Fresh w

/-- One more class stands in a catalog. -/
structure Defines (w u : World Workspace) (k : Ref .catalog) (name : String) (r : Definition) :
    Prop where
  classes : u.heap.classes = w.heap.classes.push ⟨w.heap.definitions.next, k, name, r.operators⟩
  catalogs : u.heap.catalogs =
    w.heap.catalogs.modify k (fun s => ⟨s.classes.insert name w.heap.classes.next⟩)
  definitions : u.heap.definitions = w.heap.definitions.push r
  client : w.client.Grows u.client
  reaches : w.Reaches u

section Defines

variable {r : Definition} {c : Ref .cls}

theorem Defines.undisturbed (defines : Defines w u k name r)
    (undisturbed : Undisturbed w k) : Undisturbed u k where
  reachable := undisturbed.reachable.after defines.reaches
  inCatalog := (defines.reaches.extends.catalogs k undisturbed.inCatalog).1
  catalog := (defines.client.isAltered _).trans undisturbed.catalog
  fresh := undisturbed.fresh.later defines.reaches.extends defines.client.isAltered
    defines.client.hasStrays

variable (defines : Defines w u k name r)

include defines

theorem Defines.class_eq : u.heap.classes.get w.heap.classes.next =
    ⟨w.heap.definitions.next, k, name, r.operators⟩ := by
  rw [defines.classes]
  exact Store.get_push_next _ _

theorem Defines.classDefinition_eq : u.heap.classDefinition w.heap.classes.next = r := by
  rw [Heap.classDefinition, defines.class_eq, Heap.definition, defines.definitions]
  exact Store.get_push_next _ _

/-- The classes that were there stay as they are. -/
theorem Defines.class_of_contains (made : w.heap.classes.contains c = true) :
    u.heap.classes.get c = w.heap.classes.get c := by
  rw [defines.classes, Store.get_push_of_contains made]

theorem Defines.classDefinition_of_contains (made : w.heap.classes.contains c = true)
    (owned : w.heap.definitions.contains (w.heap.classes.get c).definition = true) :
    u.heap.classDefinition c = w.heap.classDefinition c := by
  rw [Heap.classDefinition, defines.class_of_contains made, Heap.definition, defines.definitions,
    Store.get_push_of_contains owned]
  rfl

theorem Defines.importClass_eq (inCatalog : w.heap.catalogs.contains k = true) (other : String) :
    u.heap.importClass k (.text other) =
      if name = other then .ok w.heap.classes.next else w.heap.importClass k (.text other) := by
  rw [Heap.importClass, Heap.importClass, defines.catalogs, Store.get_modify_self inCatalog,
    Table.find?_insert]
  by_cases same : name = other
  · simp [same]
  · simp [same]

open Machine (Intact)

/-- The new class is intact. -/
theorem Defines.intact (undisturbed : Undisturbed w k) (hookless : r.operators = .empty) :
    Intact u w.heap.classes.next where
  made := by
    rw [defines.classes]
    exact Store.contains_push_next _ _
  hookless := by rw [defines.class_eq, hookless]
  cls := by
    rw [defines.client.isAltered]
    exact (undisturbed.fresh (.cls w.heap.classes.next) (Store.contains_next _)).1
  definition := by
    rw [defines.class_eq, defines.client.isAltered]
    exact (undisturbed.fresh (.definition w.heap.definitions.next) (Store.contains_next _)).1
  catalog := by
    rw [defines.class_eq, defines.client.isAltered]
    exact undisturbed.catalog

/-- The classes that were there stay intact. -/
theorem Defines.intact_of_intact (intact : Intact w c) : Intact u c where
  made := (defines.reaches.extends.classes c intact.made).1
  hookless := by rw [defines.class_of_contains intact.made, intact.hookless]
  cls := (defines.client.isAltered _).trans intact.cls
  definition := by
    rw [defines.class_of_contains intact.made, defines.client.isAltered, intact.definition]
  catalog := by
    rw [defines.class_of_contains intact.made, defines.client.isAltered, intact.catalog]

end Defines

end Bodies

namespace Machine

/-- The world in which a script opened a class body. -/
def withOpened (w : World Workspace) (k : Ref .catalog) (name : String) : World Workspace :=
  (withMethod w ⟨.catalog k, .own "define"⟩).setHeap (w.heap.openBuilder k (.text name)).2

/-- A script opens a class body by the operation of the catalog. -/
theorem run_define (undisturbed : Undisturbed w k) (binds : Binds w frame "catalog" (.catalog k))
    (name : String) (n : Nat) :
    ((ofDepth (n + 3)).eval frame (.send (.var "catalog") (.text "define") [.text name] [])).run w =
      (.ok (.builder w.heap.builders.next), withOpened w k name) := by
  let asked := withMethod w ⟨.catalog k, .own "define"⟩
  have read : ((ofDepth (n + 2)).read (.catalog k) "define").run w =
      (.ok (.method w.client.methods.next), asked) := by
    refine run_notingMissing_of_ok ((run_plainAttribute undisturbed.catalog "define").trans ?_)
    exact (Session.run_bind_of_ok (Session.run_pure none w)).trans (run_newMethod _)
  have opened : asked.perform (.openBuilder k (.text name)) =
      (.ok w.heap.builders.next, withOpened w k name) := by
    simp only [World.perform, show asked.heap.catalogs.contains k = true from undisturbed.inCatalog]
    rfl
  refine (run_send (yields_var binds) read (.cons (yields_text name) .nil)).trans ?_
  refine (Session.run_bind_of_ok (run_viewing asked _)).trans ?_
  rw [show asked.client.methods.get w.client.methods.next = ⟨.catalog k, .own "define"⟩ from
    Store.get_push_next _ _]
  exact (Session.run_bind_of_ok ((Session.run_ask _ asked).trans opened)).trans
    (Session.run_pure _ _)

/-- The items are evaluated while the builder waits for them, with all that it needs. -/
theorem prepared_of_evaluated {rs : List (Ref .declaration)} (undisturbed : Undisturbed w k)
    (adds : Adds (withOpened w k name) u) (reaches : w.Reaches u)
    (fits : ∀ r ∈ rs, ∀ h : Heap,
      (u.heap.declarations.get r).Plain ∧ (u.heap.declarations.get r).Fits h.callable) :
    Prepared u w.heap.builders.next (rs.map .declaration) := by
  have owns : u.heap.builders.get w.heap.builders.next = ⟨k, w.heap.definitions.next, false⟩ := by
    rw [adds.builders]
    exact Store.get_push_next _ _
  have record : u.heap.definition w.heap.definitions.next = Definition.named (.text name) := by
    rw [Heap.definition, adds.definitions]
    exact Store.get_push_next _ _
  have unaltered (v : Value) (absent : w.heap.alterable v = false) :
      u.client.isAltered v = false :=
    (adds.client.isAltered v).trans (undisturbed.fresh v absent).1
  refine ⟨⟨?_, ?_⟩, undisturbed.reachable.after reaches, ?_, ?_, ?_, ?_, ?_, ?_, ?_⟩
  · exact unaltered _ (Store.contains_next _)
  · rw [Heap.builderDefinition, owns]
    exact unaltered _ (Store.contains_next _)
  · rw [adds.builders]
    exact Store.contains_push_next _ _
  · rw [Heap.finalized, owns]
  · rw [Heap.body, Heap.builderDefinition, owns, record]
    exact ⟨.text name, .null, fun part => by cases part <;> exact Table.entries_empty⟩
  · rw [owns]
    exact (adds.client.isAltered _).trans undisturbed.catalog
  · exact fun d => unaltered _ rfl
  · intro v data
    refine unaltered v ?_
    cases data with
    | plain plain => cases plain <;> rfl
    | list | dict => rfl
  · refine List.forall_mem_map.mpr (fun r there => ?_)
    exact .declaration (fits r there u.heap).1 (fits r there u.heap).2

/-- A class body that is written down makes a class of all its items. -/
theorem exists_run_classBody (undisturbed : Undisturbed w k)
    (binds : Binds w frame "catalog" (.catalog k)) (sound : ∀ item ∈ items, item.Sound)
    (name : String) (fit : Char.ofNat 0 ∉ name.toList) (n : Nat) : ∃ ds u,
      ((ofDepth (n + 4)).eval frame
        (Greeters.classBody name (items.map BodyItem.expr))).run w =
          (.ok (.cls w.heap.classes.next), u) ∧
      List.Forall₂ (BodyItem.Declares frame u.client) items ds ∧
      Defines w u k name ((Definition.named (.text name)).withItems ds) := by
  let b := w.heap.builders.next
  let opened := withOpened w k name
  have defined := run_define undisturbed binds name n
  obtain ⟨rs, ds, u, evaluates, adds, -, gots, declare⟩ :=
    exists_run_items (n := n) frame sound opened
  have reaches : w.Reaches u := (Session.reaches_run defined).trans evaluates.reaches
  have fits := BodyItem.fits sound declare
  have prepared : Prepared u b (rs.map .declaration) := by
    refine prepared_of_evaluated undisturbed adds reaches (fun r there => ?_)
    exact fits _ (gots ▸ List.mem_map_of_mem there)
  have owns : u.heap.builders.get b = ⟨k, w.heap.definitions.next, false⟩ := by
    rw [adds.builders]
    exact Store.get_push_next _ _
  have record : recordWith u b rs = (Definition.named (.text name)).withItems ds := by
    have blank : u.heap.definition w.heap.definitions.next = Definition.named (.text name) := by
      rw [Heap.definition, adds.definitions]
      exact Store.get_push_next _ _
    rw [recordWith, gots, Heap.body, Heap.builderDefinition, owns, blank]
  let closed := withClosed (withDeclared u b rs) b
  have held : closed.heap.definition (u.heap.builderDefinition b) =
      (Definition.named (.text name)).withItems ds :=
    (prepared.definition_withClosed rs).trans record
  obtain ⟨h, registers, -, definitions, commits⟩ :=
    run_commit_of_fit prepared.registrable (by rw [held]; rfl) n fit
  rw [held, descriptionFault?_of_declare declare] at commits
  rw [held] at registers
  obtain ⟨line, -, commits⟩ := commits
  have called := prepared.run_call_of_commit commits
  refine ⟨ds, (closed.setHeap h).addLog (.committed line), ?_, declare, ?_⟩
  · refine (Session.run_bind_of_ok defined).trans ?_
    refine (Session.run_bind_of_ok (run_evalArguments evaluates)).trans (called.trans ?_)
    rw [show closed.heap.classes = w.heap.classes from adds.classes]
    rfl
  · rw [Heap.builderDefinition, owns] at registers
    refine ⟨?_, ?_, ?_, ?_, reaches.trans (Session.reaches_run called)⟩
    · exact registers.classes.trans (congrArg (Store.push · _) adds.classes)
    · refine registers.catalogs.trans ?_
      rw [show closed.heap.catalogs = w.heap.catalogs from adds.catalogs,
        show closed.heap.classes = w.heap.classes from adds.classes]
    · refine definitions.trans ?_
      change u.heap.definitions.set (u.heap.builderDefinition b) (recordWith u b rs) = _
      rw [Heap.builderDefinition, owns, record, adds.definitions]
      exact Store.set_push_next w.heap.definitions _ _
    · have opening : w.client.Grows opened.client := ⟨.refl _ _, rfl, rfl, rfl, rfl⟩
      exact opening.trans adds.client

end Machine

namespace Greeters

open Machine

/-- A table of methods. -/
def methods (entries : List (String × List String × Expr)) : List (String × Expr) :=
  entries.map (fun e => (e.1, method e.2.1 e.2.2))

theorem sound_methods {part : Section} {entries : List (String × List String × Expr)}
    (member : part ≠ .operators) (apart : (entries.map (fun e => KeyCode.ofText e.1)).Nodup)
    (free : ∀ e ∈ entries, e.1 ≠ parentHandle) :
    (BodyItem.members part (methods entries)).Sound := by
  refine .members member ?_ ?_ ?_ (fun _ => ?_)
  · rw [methods, List.map_map]
    exact apart
  · exact List.forall_mem_map.mpr free
  · exact List.forall_mem_map.mpr (fun _ _ => .fn _ _)
  · exact List.forall_mem_map.mpr (fun _ _ => ⟨_, _, rfl⟩)

/-- The class body of the first class. -/
def greeterBody : List BodyItem :=
  [.members .publics (methods [("say_hello", ["name"], sayHelloBody)]),
   .members .privates (methods [("private_hello", ["name"], privateHelloBody)])]

/-- The class body of the second class. -/
def personBody : List BodyItem :=
  [.extend "Greeter",
   .members .statics [("count", .int 0)],
   .members .publics (methods
    [("constructor", ["name"], constructorBody), ("introduce", [], introduceBody),
     ("say_hello", ["name"], overrideBody)]),
   .members .privates (methods [("private_intro", [], privateIntroBody)])]

theorem greeterItems_eq : greeterItems = greeterBody.map BodyItem.expr := rfl

theorem personItems_eq : personItems = personBody.map BodyItem.expr := rfl

theorem sound_greeterBody : ∀ item ∈ greeterBody, item.Sound := by
  refine List.forall_mem_cons.mpr ⟨sound_methods (by simp) (by decide) (by simp [parentHandle]),
    List.forall_mem_singleton.mpr (sound_methods (by simp) (by decide) (by simp [parentHandle]))⟩

theorem sound_personBody : ∀ item ∈ personBody, item.Sound := by
  refine List.forall_mem_cons.mpr ⟨.extend "Greeter", List.forall_mem_cons.mpr ⟨?_,
    List.forall_mem_cons.mpr ⟨sound_methods (by simp) (by decide) (by simp [parentHandle]),
    List.forall_mem_singleton.mpr (sound_methods (by simp) (by decide) (by simp [parentHandle]))⟩⟩⟩
  exact .members (by simp) (by decide) (by simp [parentHandle])
    (List.forall_mem_singleton.mpr (.int 0)) (fun other => absurd rfl other)

/-- A function of a method that is written down in a frame. -/
structure IsMethod (frame : Ref .frame) (c : Workspace) (e : String × List String × Expr)
    (f : Ref .function) : Prop where
  there : c.functions.contains f = true
  closure : c.functions.get f = ⟨.required "self" :: e.2.1.map .required, e.2.2, frame⟩

theorem exists_functions {c : Workspace} {entries : List (String × List String × Expr)}
    {vs : List Value}
    (denote : List.Forall₂ (Denotes frame c) ((methods entries).map Prod.snd) vs) :
    ∃ fs, List.Forall₂ (IsMethod frame c) entries fs ∧ memberTable (methods entries) vs =
      ⟨List.zipWith (fun e f => (.text e.1, .function f)) entries fs⟩ := by
  induction entries generalizing vs with
  | nil => exact ⟨[], .nil, rfl⟩
  | cons e entries ih =>
    obtain ⟨v, rest, first, later, rfl⟩ := List.forall₂_cons_left_iff.mp denote
    obtain ⟨fs, functions, table⟩ := ih later
    cases first with
    | @fn params body f there closure =>
      refine ⟨f :: fs, .cons ⟨there, closure⟩ functions, ?_⟩
      exact congrArg (fun t : Table Key Value =>
        Table.mk ((Key.text e.1, Value.function f) :: t.entries)) table

/-- A table of methods is declared with their functions. -/
theorem exists_functions_of_declares {c : Workspace} {part : Section} {d : Declaration}
    {entries : List (String × List String × Expr)}
    (declares : (BodyItem.members part (methods entries)).Declares frame c d) :
    ∃ fs, List.Forall₂ (IsMethod frame c) entries fs ∧
      d = .members part ⟨List.zipWith (fun e f => (.text e.1, .function f)) entries fs⟩ := by
  cases declares with
  | members denote =>
    obtain ⟨fs, functions, table⟩ := exists_functions denote
    exact ⟨fs, functions, by rw [table]⟩

theorem exists_greeterFunctions {c : Workspace}
    (declare : List.Forall₂ (BodyItem.Declares frame c) greeterBody ds) : ∃ f g,
      IsMethod frame c ("say_hello", ["name"], sayHelloBody) f ∧
      IsMethod frame c ("private_hello", ["name"], privateHelloBody) g ∧
      (Definition.named (.text "Greeter")).withItems ds =
        { Definition.named (.text "Greeter") with
          privates := ⟨[(.text "private_hello", .function g)]⟩
          publics := ⟨[(.text "say_hello", .function f)]⟩ } := by
  obtain _ | ⟨publics, _ | ⟨privates, _ | _⟩⟩ := declare
  obtain ⟨_, _ | ⟨sayHello, _ | _⟩, rfl⟩ := exists_functions_of_declares publics
  obtain ⟨_, _ | ⟨privateHello, _ | _⟩, rfl⟩ := exists_functions_of_declares privates
  exact ⟨_, _, sayHello, privateHello, rfl⟩

theorem exists_personFunctions {c : Workspace}
    (declare : List.Forall₂ (BodyItem.Declares frame c) personBody ds) : ∃ f g f' g',
      IsMethod frame c ("constructor", ["name"], constructorBody) f ∧
      IsMethod frame c ("introduce", [], introduceBody) g ∧
      IsMethod frame c ("say_hello", ["name"], overrideBody) f' ∧
      IsMethod frame c ("private_intro", [], privateIntroBody) g' ∧
      (Definition.named (.text "Person")).withItems ds =
        { Definition.named (.text "Person") with
          parent := .text "Greeter"
          statics := ⟨[(.text "count", .int 0)]⟩
          privates := ⟨[(.text "private_intro", .function g')]⟩
          publics := ⟨[(.text "constructor", .function f), (.text "introduce", .function g),
            (.text "say_hello", .function f')]⟩ } := by
  obtain _ | ⟨parent, _ | ⟨statics, _ | ⟨publics, _ | ⟨privates, _ | _⟩⟩⟩⟩ := declare
  obtain ⟨_, _ | ⟨constructor, _ | ⟨introduce, _ | ⟨override, _ | _⟩⟩⟩, rfl⟩ :=
    exists_functions_of_declares publics
  obtain ⟨_, _ | ⟨privateIntro, _ | _⟩, rfl⟩ := exists_functions_of_declares privates
  cases parent with
  | extend =>
    cases statics with
    | members denote =>
      obtain _ | ⟨⟨⟩, _ | _⟩ := denote
      exact ⟨_, _, _, _, constructor, introduce, override, privateIntro, rfl⟩

/-- Two classes that are defined one after the other both stand in the catalog then. -/
theorem staged_of_defines {x : Roles} (undisturbed : Undisturbed w k)
    (first : Defines w u k "Greeter" x.greeterRecord)
    (second : Defines u u' k "Person" (x.personRecord 0))
    (greeter : x.greeter = w.heap.classes.next) (person : x.person = u.heap.classes.next)
    (closures : x.Closures u'.client) : x.Staged 0 u' := by
  have undisturbed' := first.undisturbed undisturbed
  have intact : Intact u x.greeter := greeter ▸ first.intact undisturbed rfl
  have oldClass := second.class_of_contains intact.made
  have newClass := second.class_eq
  have definition : (u.heap.classes.get x.greeter).definition = w.heap.definitions.next := by
    rw [greeter, first.class_eq]
  have owned : u.heap.definitions.contains w.heap.definitions.next = true := by
    rw [first.definitions]
    exact Store.contains_push_next _ _
  rw [← person] at newClass
  refine ⟨(second.undisturbed undisturbed').reachable.layered, second.intact_of_intact intact,
    person ▸ second.intact undisturbed' rfl, ?_, person ▸ second.classDefinition_eq, ?_, ?_, ?_,
    closures⟩
  · rw [second.classDefinition_of_contains intact.made (definition ▸ owned), greeter]
    exact first.classDefinition_eq
  · rw [oldClass, newClass, definition]
    exact Store.ne_next owned
  · rw [newClass, second.definitions]
    exact Store.contains_push_next _ _
  · rw [newClass]
    change u'.heap.importClass k (.text "Greeter") = _
    rw [second.importClass_eq undisturbed'.inCatalog, if_neg (by decide),
      first.importClass_eq undisturbed.inCatalog, if_pos rfl, greeter]

theorem IsMethod.grows {c c' : Workspace} {e : String × List String × Expr} {f : Ref .function}
    (method : IsMethod frame c e f) (grows : c.Grows c') : IsMethod frame c' e f := by
  obtain ⟨there, same⟩ := grows.functions f method.there
  exact ⟨there, same.trans method.closure⟩

/-- To define the greeters makes both classes, and nobody has been counted yet. -/
theorem exists_run_defineGreeters (undisturbed : Undisturbed w k) (n : Nat) :
    ∃ (x : Roles) (r : Ref .list) (u : _),
      ((ofDepth (n + 5)).defineGreeters (.catalog k)).run w = (.ok (.list r), u) ∧
      u.client.lists.get r = #[.cls x.greeter, .cls x.person] ∧ x.Staged 0 u ∧ Fresh u := by
  let w₁ := withFrame w ⟨Table.empty.insert "catalog" (.catalog k), none⟩
  have framed : (newFrame ⟨Table.empty.insert "catalog" (.catalog k), none⟩).run w =
      (.ok w.client.frames.next, w₁) := run_newFrame _ w
  have undisturbed₁ : Undisturbed w₁ k :=
    ⟨undisturbed.reachable.after (Session.reaches_run framed), undisturbed.inCatalog,
      undisturbed.catalog, undisturbed.fresh⟩
  have binds₁ : Binds w₁ w.client.frames.next "catalog" (.catalog k) := binds_withFrame rfl
  obtain ⟨ds, u₁, made₁, declare₁, first⟩ := exists_run_classBody undisturbed₁ binds₁
    sound_greeterBody "Greeter" (by decide) n
  rw [← greeterItems_eq] at made₁
  have binds₂ : Binds u₁ w.client.frames.next "catalog" (.catalog k) := by
    rw [Binds, first.client.frames]
    exact binds₁
  have undisturbed₂ := first.undisturbed undisturbed₁
  obtain ⟨ds', u₂, made₂, declare₂, second⟩ := exists_run_classBody undisturbed₂ binds₂
    sound_personBody "Person" (by decide) n
  rw [← personItems_eq] at made₂
  obtain ⟨f₁, f₂, sayHello, privateHello, greeterRecord⟩ := exists_greeterFunctions declare₁
  obtain ⟨f₃, f₄, f₅, f₆, constructor, introduce, override, privateIntro, personRecord⟩ :=
    exists_personFunctions declare₂
  rw [greeterRecord] at first
  rw [personRecord] at second
  let x : Roles :=
    ⟨w₁.heap.classes.next, u₁.heap.classes.next, w.client.frames.next, f₁, f₂, f₃, f₄, f₅, f₆⟩
  have closures : x.Closures u₂.client :=
    ⟨(sayHello.grows second.client).closure, (privateHello.grows second.client).closure,
      constructor.closure, introduce.closure, override.closure, privateIntro.closure⟩
  have staged : x.Staged 0 u₂ := staged_of_defines undisturbed₁ first second rfl rfl closures
  let u := { u₂ with client :=
    { u₂.client with lists := u₂.client.lists.push #[.cls x.greeter, .cls x.person] } }
  have listed : Printed u₂ "" u := ⟨String.append_empty.symm, rfl, rfl, rfl, rfl, rfl⟩
  refine ⟨x, u₂.client.lists.next, u, ?_, Store.get_push_next _ _, staged.printed listed,
    (second.undisturbed undisturbed₂).fresh.spared listed.spares⟩
  refine (Session.run_bind_of_ok framed).trans ?_
  refine (run_apply (.cons made₁ (.cons made₂ .nil)) (by simp)).trans ?_
  exact Session.run_eq_iff.mpr (fun _ => rfl)

end Greeters

end Script

end ObjectModel
