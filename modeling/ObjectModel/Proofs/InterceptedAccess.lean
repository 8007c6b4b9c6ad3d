import ObjectModel.Proofs.DeclaredTables

/-!
# Who reaches the members

No class body whose tables are dictionaries takes over how the members of its instances are reached. A
dictionary is checked as it is copied. This does **not** hold of other tables: what a builder is given
is read twice, once by its entries, to be checked, and once by its keys, to be copied, and a table
that answers the two differently brings a hook into the class that was never checked.
-/

namespace ObjectModel

open Script Script.Machine

/-- In every reachable world, the definition of every builder is well-formed, be the builder open or
finalized, and so is that of every class. A class whose definition some builder opened has hooks of
this sort only, and none of them takes over how the members of its instances are reached. So it is
with what a builder is given as dictionaries whose keys are compared without asking anyone, as long as
no script holds a table of its definition: they are taken by the record of the builder, in one step.
What a builder is given otherwise is no part of this record, and a class with such a definition is not
among those that a builder opened. -/
theorem access_not_intercepted {w : World Workspace} (reachable : w.Reachable) :
    (∀ b, w.heap.builders.contains b = true →
      (w.heap.definition (w.heap.builderDefinition b)).WellFormed w.heap.callable) ∧
    (∀ c, w.heap.classes.contains c = true →
      (w.heap.classDefinition c).WellFormed w.heap.callable ∧
      (w.heap.Opened c → (w.heap.classes.get c).operators.Entries Section.operators.TakesKey
        (Section.operators.TakesValue w.heap.callable))) ∧
    (∀ m : Machine,
      (∀ f, w.heap.facades.contains f = true → w.heap.Opened (w.heap.facadeClass f) →
        m.Guarded w (.facade f) (m.readPublic f) (m.writePublic f) (m.deletePublic f)) ∧
      ∀ s, w.heap.states.contains s = true → w.heap.Opened (w.heap.stateClass s) →
        m.Guarded w (.state s) (m.readPrivate s) (m.writePrivate s) (m.deletePrivate s)) ∧
    ∀ (b : Ref .builder) (part : Section) (r : Ref .dict) (n : Nat), Ready w b →
      SimpleKeys (tableAt w r) →
        ((ofDepth (n + 2)).addMembers b part (.dict r)).run w =
          ((ofDepth (n + 2)).act (.addMembers b part (tableAt w r))).run
            (withMethod w ⟨.builder b, .own "_open"⟩) := by
  have wellFormed := reachable.wellFormed
  have behind {s : Ref .state} (made : w.heap.states.contains s = true) :
      w.heap.classes.contains (w.heap.stateClass s) = true := reachable.built.made s made
  refine ⟨fun b _ => wellFormed.definitions _,
    fun c made => ⟨wellFormed.definitions _, wellFormed.hooks c made⟩, fun m => ⟨?_, ?_⟩,
    fun b part r n ready simple => run_addMembers_dict ready simple n⟩
  · intro f made opened
    have there := behind (reachable.layered.behind f made)
    exact m.guarded_facade (fun name reserved => wellFormed.hook?_eq_none there opened reserved)
  · intro s made opened
    exact m.guarded_state
      (fun name reserved => wellFormed.hook?_eq_none (behind made) opened reserved)

namespace Program

/-- An instance that can be called is a private method of a second class. An operator of a reserved
name and a static member of the name of the parent handle are refused on the way. -/
def callableMember : List (Action Script.Workspace) :=
  let catalog := Heap.defaultCatalog
  [ .openBuilder catalog (.text "Callable"),
    .addMembers ⟨0⟩ .operators (.ofList [(.text "__call__", .function ⟨0⟩)]),
    .addMembers ⟨0⟩ .operators (.ofList [(.text "__setattr__", .function ⟨0⟩)]),
    .closeBuilder ⟨0⟩,
    .register catalog ⟨0⟩,
    .newLayer ⟨0⟩ none,
    .openBuilder catalog (.text "User"),
    .addMembers ⟨1⟩ .privates (.ofList [(.text "run", .facade ⟨0⟩)]),
    .addMembers ⟨1⟩ .statics (.ofList [(.text parentHandle, .int 1)]),
    .closeBuilder ⟨1⟩,
    .register catalog ⟨1⟩,
    .newLayer ⟨1⟩ none]

def callableMemberWorld : World Script.Workspace :=
  (World.initial Script.Workspace.initial).after callableMember

end Program

theorem access_not_intercepted_callableMember :
    Program.callableMemberWorld.Reachable ∧
    Program.callableMemberWorld.heap.builders.contains ⟨1⟩ = true ∧
    Program.callableMemberWorld.heap.facades.contains ⟨1⟩ = true ∧
    Program.callableMemberWorld.heap.Opened (Program.callableMemberWorld.heap.facadeClass ⟨1⟩) ∧
    Program.callableMemberWorld.heap.definition
        (Program.callableMemberWorld.heap.builderDefinition ⟨1⟩) =
      { Definition.named (.text "User") with privates := .ofList [(.text "run", .facade ⟨0⟩)] } ∧
    (Program.callableMemberWorld.heap.definition
      (Program.callableMemberWorld.heap.builderDefinition ⟨1⟩)).WellFormed
        Program.callableMemberWorld.heap.callable ∧
    ∀ m : Script.Machine, m.Guarded Program.callableMemberWorld (.facade ⟨1⟩)
      (m.readPublic ⟨1⟩) (m.writePublic ⟨1⟩) (m.deletePublic ⟨1⟩) := by
  have reachable : Program.callableMemberWorld.Reachable :=
    World.reachable_after Script.Workspace.initial Program.callableMember
  have opens : Program.callableMemberWorld.heap.builders.contains ⟨1⟩ = true := by decide +kernel
  have made : Program.callableMemberWorld.heap.facades.contains ⟨1⟩ = true := by decide +kernel
  have opened : Program.callableMemberWorld.heap.Opened
      (Program.callableMemberWorld.heap.facadeClass ⟨1⟩) := ⟨⟨1⟩, opens, by decide +kernel⟩
  obtain ⟨definitions, -, access, -⟩ := access_not_intercepted reachable
  exact ⟨reachable, opens, made, opened, by decide +kernel, definitions ⟨1⟩ opens,
    fun m => (access m).1 ⟨1⟩ made opened⟩

namespace Script

open Greeters

/-- A hook for writing members that prints a word and writes nothing. -/
def intercept : Expr := method ["key", "value"] (.seq [.print [.text "intercepted"], .null])

/-- A class of tables with entries that are fit for hooks, and a key that is not among them. -/
def lazyTableClass : Expr :=
  .declare (.text "LazyTable") (.var "catalog") [
    .apply (.members .publics) [.dict [
      (.text "items", method [] (.apply .list [.apply .list [.text "__add__", intercept]])),
      (.text "keys", method [] (.apply .list [.text "__setattr__"]))]],
    .apply (.members .operators) [.dict [(.text "__getitem__", method ["key"] intercept)]]]

/-- A class body that is given such a table for its operators, and an instance of its class. -/
def lazyTable : Expr :=
  .seq [
    .bind "catalog" (.apply .newCatalog []),
    .bind "table" (.call lazyTableClass [] []),
    .bind "shape" (.apply .define [.var "catalog", .text "Shape"]),
    .apply (.builderMembers .operators) [.var "shape", .var "table"],
    .call (.apply .builderFinalize [.var "shape"]) [] []]

def lazyTableWorld : World Workspace :=
  ((do
    let _ ← scriptMachine.eval Workspace.rootFrame lazyTable
    return .null : Prog Form).toProgram.run (.initial .initial)).2

/-- What a step of a script prints. -/
def printedIn (w : World Workspace) (p : Prog Unit) : String :=
  ((p (fun _ => .done .null)).run w).2.out

/-- The definition of the builder shows an operator of a reserved name, and to write onto the instance
of its class is not what the rules say. -/
theorem access_intercepted_lazyTable :
    lazyTableWorld.Reachable ∧
    lazyTableWorld.heap.builders.contains ⟨1⟩ = true ∧
    (lazyTableWorld.client.givenTo (.cls (lazyTableWorld.heap.facadeClass ⟨1⟩))).find? "definition" =
      some (.definition (lazyTableWorld.heap.builderDefinition ⟨1⟩)) ∧
    (∃ r, (lazyTableWorld.client.givenTo (.definition
        (lazyTableWorld.heap.builderDefinition ⟨1⟩))).find? "operators" = some (.dict r) ∧
      (tableAt lazyTableWorld r).contains (.text "__setattr__") = true) ∧
    ¬ scriptMachine.Guarded lazyTableWorld (.facade ⟨1⟩) (scriptMachine.readPublic ⟨1⟩)
      (scriptMachine.writePublic ⟨1⟩) (scriptMachine.deletePublic ⟨1⟩) := by
  refine ⟨⟨_, Program.run_reaches _ _⟩, by decide +kernel, by decide +kernel,
    ⟨⟨2⟩, by decide +kernel, by decide +kernel⟩, fun guarded => ?_⟩
  have same : printedIn lazyTableWorld
        (scriptMachine.writeAttribute (.facade ⟨1⟩) (.text "sides") (.int 4)) =
      printedIn lazyTableWorld (scriptMachine.writePublic ⟨1⟩ "sides" (.int 4)) :=
    congrArg (fun r => r.2.out) (guarded.write "sides" (.int 4) _)
  have hook : printedIn lazyTableWorld
      (scriptMachine.writeAttribute (.facade ⟨1⟩) (.text "sides") (.int 4)) =
        "intercepted\n" := by decide +kernel
  have rules : printedIn lazyTableWorld
      (scriptMachine.writePublic ⟨1⟩ "sides" (.int 4)) = "" := by decide +kernel
  rw [hook, rules] at same
  exact absurd same (by decide)

end Script

end ObjectModel
