import ObjectModel.Proofs.CommitRuns
import ObjectModel.Proofs.WellFormedDefinitions

/-!
# What comes of building a class

A class is built by calling its builder with the items of its class body. This can fail at four
places. An item that is no declaration ends it with the builder still open, and what came before the
item stays. After the last item the builder is closed; then a class without a name, or with a name
that no type can have, is not registered. A class that is registered may still be one that cannot be
reported, and it stays registered then.
-/

namespace ObjectModel

open Script

/-- A declaration all of whose names and keys are plain data. -/
inductive Declaration.Plain : Declaration → Prop
  | parent {name : Value} (named : IsName name) : Declaration.Plain (.parent name)
  | members {part : Section} {t : Table Key Value} (keys : PlainKeys part t) :
    Declaration.Plain (.members part t)

namespace Definition

variable {r : Definition} {ds : List Declaration} {callable : Value → Bool}

/-- What holds of all entries before and of all that are merged in holds of all entries then. -/
theorem entries_merged {P : Key → Prop} {Q : Value → Prop} {part : Section}
    (start : (r.table part).Entries P Q)
    (items : ∀ t, .members part t ∈ ds → t.Entries P Q) : (r.merged ds part).Entries P Q := by
  have fold {ts : List (Table Key Value)} (all : ∀ t ∈ ts, t.Entries P Q) {t₀ : Table Key Value}
      (start : t₀.Entries P Q) : (ts.foldl Table.merge t₀).Entries P Q := by
    induction ts generalizing t₀ with
    | nil => exact start
    | cons t ts ih =>
      obtain ⟨first, rest⟩ := List.forall_mem_cons.mp all
      exact ih rest (start.merge first)
  refine fold (fun t there => ?_) start
  obtain ⟨d, inItems, gives⟩ := List.mem_filterMap.mp there
  cases d with
  | parent name => cases gives
  | members part' t' =>
    rw [Declaration.table?] at gives
    split at gives
    · rename_i same
      cases gives
      exact items t (same ▸ inItems)
    · cases gives

theorem hasPlainNames_withItems (plain : HasPlainNames r) (items : ∀ d ∈ ds, d.Plain) :
    HasPlainNames (r.withItems ds) where
  name := plain.name
  parent := by
    change IsName ((ds.filterMap Declaration.parent?).getLast?.getD r.parent)
    cases last : (ds.filterMap Declaration.parent?).getLast? with
    | none => exact plain.parent
    | some name =>
      obtain ⟨d, there, gives⟩ := List.mem_filterMap.mp (List.mem_of_getLast? last)
      cases items d there with
      | parent named =>
        cases gives
        exact named
      | members keys => cases gives
  keys part := by
    rw [table_withItems]
    refine entries_merged (plain.keys part) (fun t there => ?_)
    cases items _ there with
    | members keys => exact keys

theorem WellFormed.withItems (wellFormed : r.WellFormed callable)
    (fits : ∀ d ∈ ds, d.Fits callable) : (r.withItems ds).WellFormed callable := by
  intro part
  rw [table_withItems]
  exact entries_merged (wellFormed part) (fun t there => Section.check_eq_ok.mp (fits _ there))

/-- A well-formed definition has hooks that are named as hooks are. -/
theorem WellFormed.plainDefinition (wellFormed : r.WellFormed callable) (plain : HasPlainNames r) :
    PlainDefinition r where
  toHasPlainNames := plain
  hooks k there := by
    obtain ⟨e, listed, rfl⟩ := List.mem_map.mp there
    exact (wellFormed .operators e listed).1

end Definition

namespace Script.Machine

variable {w u : World Workspace} {b : Ref .builder} {v : Value}

/-- Plain data, and lists and dictionaries. -/
inductive IsData : Value → Prop
  | plain {v : Value} (plain : IsPlain v) : IsData v
  | list (r : Ref .list) : IsData (.list r)
  | dict (r : Ref .dict) : IsData (.dict r)

/-- What can be given for an item of a class body: a valid declaration with plain data, or something
that is no declaration at all. -/
inductive IsItem (w : World Workspace) : Value → Prop
  | declaration {d : Ref .declaration} (plain : (w.heap.declarations.get d).Plain)
    (fits : (w.heap.declarations.get d).Fits w.heap.callable) : IsItem w (.declaration d)
  | data {v : Value} (data : IsData v) : IsItem w v

/-- An open builder with plain data, and what it is called with. Nobody altered the builder, its
definition or its catalog; declarations and data take no attributes. -/
structure Prepared (w : World Workspace) (b : Ref .builder) (items : List Value) : Prop
    extends Untouched w b where
  reachable : w.Reachable
  made : w.heap.builders.contains b = true
  isOpen : w.heap.finalized b = false
  plain : HasPlainNames (w.heap.body b).record
  catalog : w.client.isAltered (.catalog (w.heap.builders.get b).catalog) = false
  frozen : ∀ d, w.client.isAltered (.declaration d) = false
  data : ∀ v, IsData v → w.client.isAltered v = false
  items : ∀ v ∈ items, IsItem w v

theorem exists_run_noteMissing (r : Ref .exception) (v : Value) (name : String)
    (w : World Workspace) :
    ∃ u, (noteMissing r v name).run w = (.ok (), u) ∧ SameModel w u := by
  have seen : (exceptionOf r).run w = (.ok (w.client.exceptions.get r), w) := run_viewing w _
  unfold noteMissing
  rw [Session.run_bind_of_ok seen]
  dsimp only
  split
  · exact ⟨_, run_poke w _, rfl, rfl⟩
  · exact ⟨w, Session.run_pure () w, rfl, rfl⟩

/-- A missing attribute becomes a fault that tells what was missing. -/
theorem exists_run_notingMissing {α : Type} {p : Prog α} (m : Machine) (name : String)
    (fails : p.run w = (.error .noAttribute, u)) :
    ∃ e u', (m.notingMissing v name p).run w = (.error (.held .attributeError e), u') ∧
      SameModel u u' := by
  have held : ∃ e u', (m.hold .noAttribute).run u = (.ok e, u') ∧ SameModel u u' :=
    ⟨_, _, Session.run_eq_iff.mpr (fun _ => rfl), rfl, rfl⟩
  obtain ⟨e, u₁, held, same⟩ := held
  obtain ⟨u₂, noted, same'⟩ := exists_run_noteMissing e v name u₁
  refine ⟨e, u₂, ?_, same.trans same'⟩
  rw [notingMissing, Session.run_tryCatch_of_error fails]
  refine (Session.run_bind_of_ok held).trans ?_
  exact (Session.run_bind_of_ok noted).trans (Session.run_throw _ _)

/-- Data has no operations, so the attempt to apply it ends with the fault of what was missing. -/
theorem exists_run_applyItems_of_data (data : IsData v) (unaltered : w.client.isAltered v = false)
    (b : Ref .builder) (rest : List Value) (n : Nat) :
    ∃ e u, ((ofDepth (n + 1)).applyItems (.builder b) (v :: rest)).run w =
      (.error (.held .attributeError e), u) ∧ SameModel w u := by
  have missing : (plainAttribute v "apply").run w = (.error .noAttribute, w) := by
    rw [run_plainAttribute unaltered]
    cases data with
    | plain plain => cases plain <;> exact Session.run_throw _ w
    | list r | dict r => exact Session.run_throw _ w
  obtain ⟨e, u, read, same⟩ := exists_run_notingMissing (v := v) (ofDepth n) "apply" missing
  refine ⟨e, u, ?_, same⟩
  have applied : ((ofDepth (n + 1)).operate (ofDepth (n + 1)).declarationOperations v "apply"
      [.builder b]).run w = (.error (.held .attributeError e), u) := by
    cases data with
    | plain plain => cases plain <;> exact Session.run_bind_of_error read
    | list r | dict r => exact Session.run_bind_of_error read
  rw [applyItems]
  exact Session.run_bind_of_error applied

section Building

variable {items : List Value} {f : Fault} {m : Machine}

/-- To call a builder is to build its class. -/
theorem call_builder (n : Nat) (b : Ref .builder) (items : List Value) :
    (ofDepth (n + 1)).call (.builder b) (.ofList items) = (ofDepth n).build (.builder b) items :=
  rfl

theorem run_build_of_error (untouched : Untouched w b)
    (fails : (m.applyItems (.builder b) items).run w = (.error f, u)) :
    (m.build (.builder b) items).run w = (.error f, u) := by
  have applied : (m.operate m.builderOperations (.builder b) "apply" items).run w = (.error f, u) :=
    (run_operate rfl untouched.builder).trans (Session.run_bind_of_error fails)
  exact Session.run_bind_of_error applied

theorem run_build_of_ok (untouched : Untouched w b) (untouched' : Untouched u b)
    (applied : (m.applyItems (.builder b) items).run w = (.ok (), u)) :
    (m.build (.builder b) items).run w = (m.finalize b).run u := by
  have applied : (m.operate m.builderOperations (.builder b) "apply" items).run w =
      (.ok (.builder b), u) :=
    (run_operate rfl untouched.builder).trans
      ((Session.run_bind_of_ok applied).trans (Session.run_pure _ u))
  exact (Session.run_bind_of_ok applied).trans (run_operate rfl untouched'.builder)

/-- The world in which a builder is closed. -/
def withClosed (w : World Workspace) (b : Ref .builder) : World Workspace :=
  w.setHeap (w.heap.withClosed b)

theorem builder_withClosed (made : w.heap.builders.contains b = true) :
    (withClosed w b).heap.builders.get b = { w.heap.builders.get b with finalized := true } :=
  Heap.builder_withClosed made

theorem builderDefinition_withClosed (made : w.heap.builders.contains b = true) :
    (withClosed w b).heap.builderDefinition b = w.heap.builderDefinition b := by
  rw [Heap.builderDefinition, builder_withClosed made]
  rfl

theorem Untouched.withClosed (untouched : Untouched w b)
    (made : w.heap.builders.contains b = true) : Untouched (withClosed w b) b where
  builder := untouched.builder
  definition := by
    rw [builderDefinition_withClosed made]
    exact untouched.definition

/-- An open builder is closed first, and its definition is registered then. -/
theorem run_finalize (untouched : Untouched w b) (made : w.heap.builders.contains b = true)
    (isOpen : w.heap.finalized b = false)
    (catalog : w.client.isAltered (.catalog (w.heap.builders.get b).catalog) = false) (n : Nat) :
    ((ofDepth (n + 1)).finalize b).run w =
      ((ofDepth (n + 1)).commit (w.heap.builders.get b).catalog
        (.definition (w.heap.builderDefinition b)) >>= fun c => pure (.cls c)).run
        (withClosed w b) := by
  have untouched' := untouched.withClosed made
  have closed : ((ofDepth (n + 1)).act (.closeBuilder b)).run w = (.ok (), withClosed w b) :=
    run_act_of_ok (World.perform_closeBuilder_of_open made isOpen)
  have definition := run_read_definition untouched' n
  rw [builderDefinition_withClosed made] at definition
  have home := run_read_catalog untouched' n
  rw [builder_withClosed made] at home
  have close : ((ofDepth (n + 1)).close b).run w =
      (.ok (.definition (w.heap.builderDefinition b)), withClosed w b) := by
    unfold close
    refine (Session.run_bind_of_ok (run_isUntouched untouched)).trans ?_
    exact (Session.run_bind_of_ok closed).trans definition
  unfold finalize
  refine (Session.run_bind_of_ok close).trans ?_
  refine (Session.run_bind_of_ok home).trans ?_
  exact run_operate rfl catalog

end Building

section Outcomes

variable {items : List Value}

theorem Prepared.ready (prepared : Prepared w b items) : Ready w b where
  toUntouched := prepared.toUntouched
  placed := prepared.reachable.placed prepared.made
  isOpen := prepared.isOpen
  simple part e listed := ⟨(prepared.plain.keys part e listed).1.1.isSimple, trivial⟩
  frozen := prepared.frozen

/-- The items that are declarations can be applied one after the other. -/
theorem Prepared.declarations (prepared : Prepared w b items) {ds : List (Ref .declaration)}
    (among : ∀ d ∈ ds, .declaration d ∈ items) :
    (∀ d ∈ ds, SimpleItem (w.heap.declarations.get d)) ∧
    (∀ d ∈ ds, (w.heap.declarations.get d).Plain) ∧
    ∀ d ∈ ds, (w.heap.declarations.get d).Fits w.heap.callable := by
  have item (d : Ref .declaration) (there : d ∈ ds) : (w.heap.declarations.get d).Plain ∧
      (w.heap.declarations.get d).Fits w.heap.callable := by
    cases prepared.items _ (among d there) with
    | declaration plain fits => exact ⟨plain, fits⟩
    | data data =>
      cases data with
      | plain plain => cases plain
  refine ⟨fun d there part t declared e listed => ?_, fun d there => (item d there).1,
    fun d there => (item d there).2⟩
  have plain := (item d there).1
  rw [declared] at plain
  cases plain with
  | members keys => exact ⟨(keys e listed).1.1.isSimple, trivial⟩

/-- The record of a builder with all that some declarations say. -/
def recordWith (w : World Workspace) (b : Ref .builder) (ds : List (Ref .declaration)) :
    Definition :=
  (w.heap.body b).record.withItems (ds.map w.heap.declarations.get)

/-- The world in which the declarations of a class body were taken. -/
def withDeclared (w : World Workspace) (b : Ref .builder) (ds : List (Ref .declaration)) :
    World Workspace :=
  w.withRecord b (recordWith w b ds)

theorem Prepared.run_applyItems (prepared : Prepared w b items) {ds : List (Ref .declaration)}
    (among : ∀ d ∈ ds, .declaration d ∈ items) (rest : List Value) (m : Machine) :
    (m.applyItems (.builder b) (ds.map .declaration ++ rest)).run w =
      (m.applyItems (.builder b) rest).run (withDeclared w b ds) := by
  obtain ⟨simple, -, fits⟩ := prepared.declarations among
  exact Machine.run_applyItems prepared.ready simple fits rest

theorem Prepared.body_withDeclared (prepared : Prepared w b items) (ds : List (Ref .declaration)) :
    (withDeclared w b ds).heap.body b = ⟨recordWith w b ds, false⟩ := by
  rw [withDeclared, World.body_withRecord prepared.ready.placed, prepared.isOpen]

/-- An item that is no declaration ends the building where it stands. -/
theorem Prepared.exists_run_call_of_data {before : List (Ref .declaration)} {after : List Value}
    (prepared : Prepared w b (before.map .declaration ++ v :: after))
    (other : ∀ d, v ≠ .declaration d) (n : Nat) :
    ∃ e u, ((ofDepth (n + 3)).call (.builder b)
        (.ofList (before.map .declaration ++ v :: after))).run w =
      (.error (.held .attributeError e), u) ∧ SameModel (withDeclared w b before) u := by
  have data : IsData v := by
    cases prepared.items v (by simp) with
    | declaration plain fits => exact absurd rfl (other _)
    | data data => exact data
  obtain ⟨e, u, fails, same⟩ := exists_run_applyItems_of_data (w := withDeclared w b before) data
    (prepared.data v data) b after (n + 1)
  refine ⟨e, u, ?_, same⟩
  rw [call_builder]
  refine run_build_of_error prepared.toUntouched ?_
  rw [prepared.run_applyItems (fun d there => List.mem_append_left _ (List.mem_map_of_mem there))]
  exact fails

/-- A class body of declarations alone is closed, and its definition is registered then. -/
theorem Prepared.run_call {ds : List (Ref .declaration)}
    (prepared : Prepared w b (ds.map .declaration)) (n : Nat) :
    ((ofDepth (n + 3)).call (.builder b) (.ofList (ds.map .declaration))).run w =
      ((ofDepth (n + 2)).commit (w.heap.builders.get b).catalog
        (.definition (w.heap.builderDefinition b)) >>= fun c => pure (.cls c)).run
        (withClosed (withDeclared w b ds) b) := by
  have untouched : Untouched (withDeclared w b ds) b := ⟨prepared.builder, prepared.definition⟩
  have applied : ((ofDepth (n + 2)).applyItems (.builder b) (ds.map .declaration)).run w =
      (.ok (), withDeclared w b ds) := by
    have among : ∀ d ∈ ds, Value.declaration d ∈ ds.map .declaration :=
      fun d there => List.mem_map_of_mem there
    have all := prepared.run_applyItems among [] (ofDepth (n + 2))
    rw [List.append_nil] at all
    exact all.trans (Session.run_pure _ _)
  rw [call_builder, run_build_of_ok prepared.toUntouched untouched applied]
  exact run_finalize untouched prepared.made prepared.isOpen prepared.catalog (n + 1)

/-- The definition that is registered is the one with what all declarations say. -/
theorem Prepared.definition_withClosed (prepared : Prepared w b items)
    (ds : List (Ref .declaration)) :
    (withClosed (withDeclared w b ds) b).heap.definition (w.heap.builderDefinition b) =
      recordWith w b ds :=
  congrArg Body.record (prepared.body_withDeclared ds)

theorem Prepared.registrable {ds : List (Ref .declaration)}
    (prepared : Prepared w b (ds.map .declaration)) :
    Registrable (withClosed (withDeclared w b ds) b) (w.heap.builders.get b).catalog
      (w.heap.builderDefinition b) where
  catalog := prepared.catalog
  definition := prepared.definition
  inCatalog := prepared.ready.placed.housed
  defined := (Store.contains_set _ _ _ _).trans prepared.ready.placed.owned
  plain := by
    have among : ∀ d ∈ ds, Value.declaration d ∈ ds.map .declaration :=
      fun d there => List.mem_map_of_mem there
    obtain ⟨-, plain, fits⟩ := prepared.declarations among
    have wellFormed : (w.heap.body b).record.WellFormed w.heap.callable :=
      prepared.reachable.wellFormed.definitions _
    rw [prepared.definition_withClosed ds]
    exact (wellFormed.withItems (List.forall_mem_map.mpr fits)).plainDefinition
      (Definition.hasPlainNames_withItems prepared.plain (List.forall_mem_map.mpr plain))

theorem Prepared.body_withClosed (prepared : Prepared w b items) (ds : List (Ref .declaration)) :
    (withClosed (withDeclared w b ds) b).heap.body b = ⟨recordWith w b ds, true⟩ := by
  have made : (withDeclared w b ds).heap.builders.contains b = true := prepared.made
  have record := prepared.definition_withClosed ds
  have owns : (withClosed (withDeclared w b ds) b).heap.builderDefinition b =
      w.heap.builderDefinition b := builderDefinition_withClosed made
  rw [Heap.body, owns, record, Heap.finalized, builder_withClosed made]

/-- A class body of declarations alone comes to what its registration comes to. -/
theorem Prepared.run_call_of_commit {ds : List (Ref .declaration)}
    (prepared : Prepared w b (ds.map .declaration)) {n : Nat} {r : Except Fault (Ref .cls)}
    (commits : ((ofDepth (n + 2)).commit (w.heap.builders.get b).catalog
      (.definition (w.heap.builderDefinition b))).run (withClosed (withDeclared w b ds) b) =
        (r, u)) :
    ((ofDepth (n + 3)).call (.builder b) (.ofList (ds.map .declaration))).run w =
      (r.map .cls, u) := by
  rw [prepared.run_call n]
  cases r with
  | error f => exact Session.run_bind_of_error commits
  | ok c => exact (Session.run_bind_of_ok commits).trans (Session.run_pure _ u)

end Outcomes

/-- A name that no type can have, and the kind of the fault that it makes. A text is a sequence of
Unicode scalar values; a name with an unpaired surrogate, which no type can have either, is none. -/
inductive RefusedName : Value → ErrorKind → Prop
  | missing : RefusedName .null .typeError
  | nullCharacter {name : String} (null : Char.ofNat 0 ∈ name.toList) :
    RefusedName (.text name) .valueError

/-- A builder is closed with all that some declarations say, and its class is registered under its
name, which a type can have. -/
structure RegisteredWith (w : World Workspace) (b : Ref .builder) (ds : List (Ref .declaration))
    (h : Heap) : Prop where
  body : h.body b = ⟨recordWith w b ds, true⟩
  registers : ∃ name, (recordWith w b ds).name = .text name ∧ Char.ofNat 0 ∉ name.toList ∧
    w.heap.Registers ⟨w.heap.builderDefinition b, (w.heap.builders.get b).catalog, name,
      (recordWith w b ds).operators⟩ h

/-- What building a class comes to, and what it leaves. -/
inductive BuildOutcome (w : World Workspace) (b : Ref .builder) (items : List Value) :
    Except Fault Value → World Workspace → Prop
  /-- The first item that is no declaration makes a fault. The builder is still open, with what the
  items before it say. -/
  | interrupted {before : List (Ref .declaration)} {v : Value} {after : List Value}
    {e : Ref .exception} {u : World Workspace}
    (split : items = before.map .declaration ++ v :: after) (other : ∀ d, v ≠ .declaration d)
    (body : u.heap.body b = ⟨recordWith w b before, false⟩)
    (catalogs : u.heap.catalogs = w.heap.catalogs) (log : u.log = w.log) :
    BuildOutcome w b items (.error (.held .attributeError e)) u
  /-- All items are declarations, but the class has a name that no type can have. The builder is
  closed. -/
  | refused {ds : List (Ref .declaration)} {kind : ErrorKind} {u : World Workspace}
    (declared : items = ds.map .declaration) (name : RefusedName (recordWith w b ds).name kind)
    (body : u.heap.body b = ⟨recordWith w b ds, true⟩)
    (catalogs : u.heap.catalogs = w.heap.catalogs) (log : u.log = w.log) :
    BuildOutcome w b items (.error (.plain kind)) u
  /-- The class is registered, but cannot be described. -/
  | unreported {ds : List (Ref .declaration)} {kind : ErrorKind} {u : World Workspace}
    (declared : items = ds.map .declaration) (registered : RegisteredWith w b ds u.heap)
    (fault : descriptionFault? (recordWith w b ds) = some kind) (log : u.log = w.log) :
    BuildOutcome w b items (.error (.plain kind)) u
  /-- The class is registered and reported by its description. -/
  | built {ds : List (Ref .declaration)} {line : String} {u : World Workspace}
    (declared : items = ds.map .declaration) (registered : RegisteredWith w b ds u.heap)
    (fine : descriptionFault? (recordWith w b ds) = none)
    (described : (recordWith w b ds).describe plainDisplay = .ok line)
    (log : u.log = w.log.push (.committed line)) :
    BuildOutcome w b items (.ok (.cls w.heap.classes.next)) u

section Declared

variable {ds : List (Ref .declaration)} (prepared : Prepared w b (ds.map .declaration)) (n : Nat)

include prepared

theorem Prepared.exists_run_call_of_nameless (nameless : (recordWith w b ds).name = .null) :
    ∃ u, ((ofDepth (n + 3)).call (.builder b) (.ofList (ds.map .declaration))).run w =
        (.error (.plain .typeError), u) ∧
      SameModel (withClosed (withDeclared w b ds) b) u := by
  rw [← prepared.definition_withClosed ds] at nameless
  obtain ⟨u, commits, same⟩ := exists_run_commit_of_nameless prepared.registrable nameless n
  exact ⟨u, prepared.run_call_of_commit commits, same⟩

variable {name : String} (named : (recordWith w b ds).name = .text name)

include named

theorem Prepared.run_call_of_null (null : Char.ofNat 0 ∈ name.toList) :
    ((ofDepth (n + 3)).call (.builder b) (.ofList (ds.map .declaration))).run w =
      (.error (.plain .valueError), withClosed (withDeclared w b ds) b) := by
  rw [← prepared.definition_withClosed ds] at named
  exact prepared.run_call_of_commit (run_commit_of_null prepared.registrable named n null)

/-- A class with a name that a type can have is registered, and reported if it can be described. -/
theorem Prepared.exists_run_call_of_fit (fit : Char.ofNat 0 ∉ name.toList) :
    let run := ((ofDepth (n + 3)).call (.builder b) (.ofList (ds.map .declaration))).run w
    ∃ h, RegisteredWith w b ds h ∧
      match descriptionFault? (recordWith w b ds) with
      | some kind => run = (.error (.plain kind), w.setHeap h)
      | none => ∃ line, (recordWith w b ds).describe plainDisplay = .ok line ∧
          run = (.ok (.cls w.heap.classes.next), (w.setHeap h).addLog (.committed line)) := by
  intro run
  have record := prepared.definition_withClosed ds
  obtain ⟨h, registers, builders, definitions, commits⟩ :=
    run_commit_of_fit prepared.registrable (record ▸ named) n fit
  rw [record] at commits registers
  have body : h.body b = ⟨recordWith w b ds, true⟩ := by
    rw [← prepared.body_withClosed ds, Heap.body, Heap.builderDefinition, Heap.finalized,
      Heap.definition, builders, definitions]
    rfl
  refine ⟨h, ⟨body, name, named, fit, ?_⟩, ?_⟩
  · exact ⟨registers.inCatalog, registers.classes, registers.catalogs⟩
  · cases fault : descriptionFault? (recordWith w b ds) with
    | some kind =>
      rw [fault] at commits
      exact prepared.run_call_of_commit commits
    | none =>
      rw [fault] at commits
      obtain ⟨line, described, commits⟩ := commits
      exact ⟨line, described, prepared.run_call_of_commit commits⟩

end Declared

/-- A class body has a first item that is no declaration, or there is none. -/
theorem exists_declarations (items : List Value) :
    (∃ (before : List (Ref .declaration)) (v : Value) (after : List Value),
      items = before.map .declaration ++ v :: after ∧ ∀ d, v ≠ .declaration d) ∨
    ∃ ds : List (Ref .declaration), items = ds.map .declaration := by
  induction items with
  | nil => exact .inr ⟨[], rfl⟩
  | cons v items ih =>
    by_cases declared : ∃ d, v = .declaration d
    · obtain ⟨d, rfl⟩ := declared
      rcases ih with ⟨before, v', after, rfl, other⟩ | ⟨ds, rfl⟩
      · exact .inl ⟨d :: before, v', after, rfl, other⟩
      · exact .inr ⟨d :: ds, rfl⟩
    · exact .inl ⟨[], v, items, rfl, not_exists.mp declared⟩

/-- What comes of calling an open builder with the items of its class body, if names, parents and
keys are plain data. An item that is no declaration is a missing attribute, and the builder stays
open, with what the items before it say. If all items are declarations, the builder is closed with
all that they say. Then a class without a name or with a null character in its name is refused, and
no catalog changes. Else the class is registered. If its keys cannot be shown, in some table of
statics, private methods or public methods, then the first such table makes the fault: a wrong type
if its keys have no order, and else a wrong value for an integer with too many digits. Only a class
that can be described is reported and returned. -/
theorem classBody_outcomes {items : List Value} (prepared : Prepared w b items) (n : Nat) :
    let done := ((ofDepth (n + 3)).call (.builder b) (.ofList items)).run w
    BuildOutcome w b items done.1 done.2 := by
  intro done
  rcases exists_declarations items with ⟨before, v, after, rfl, other⟩ | ⟨ds, rfl⟩
  · obtain ⟨e, u, run, same⟩ := prepared.exists_run_call_of_data other n
    have outcome : done = (.error (.held .attributeError e), u) := run
    have body : u.heap.body b = ⟨recordWith w b before, false⟩ := by
      rw [same.heap, prepared.body_withDeclared before]
    rw [outcome]
    exact .interrupted rfl other body (by rw [same.heap]; rfl) same.log
  · have closed := prepared.body_withClosed ds
    rcases prepared.plain.name.eq_null_or_text with nameless | ⟨name, named⟩
    · obtain ⟨u, run, same⟩ := prepared.exists_run_call_of_nameless n nameless
      have outcome : done = (.error (.plain .typeError), u) := run
      have refused : RefusedName (recordWith w b ds).name .typeError := nameless ▸ .missing
      rw [outcome]
      exact .refused rfl refused (by rw [same.heap, closed]) (by rw [same.heap]; rfl) same.log
    · by_cases null : Char.ofNat 0 ∈ name.toList
      · have outcome : done = (.error (.plain .valueError), _) :=
          prepared.run_call_of_null n named null
        have refused : RefusedName (recordWith w b ds).name .valueError :=
          named ▸ .nullCharacter null
        rw [outcome]
        exact .refused rfl refused closed rfl rfl
      · obtain ⟨h, registered, run⟩ := prepared.exists_run_call_of_fit n named null
        cases fault : descriptionFault? (recordWith w b ds) with
        | some kind =>
          rw [fault] at run
          have outcome : done = (.error (.plain kind), w.setHeap h) := run
          rw [outcome]
          exact .unreported rfl registered fault rfl
        | none =>
          rw [fault] at run
          obtain ⟨line, described, run⟩ := run
          have outcome : done = (.ok (.cls w.heap.classes.next), _) := run
          rw [outcome]
          exact .built rfl registered fault described rfl

/-- A text and a number, which have no order. -/
def mixedKeys : Table Key Value := ⟨[(.text "sides", .null), (.value (.int 4) 4, .null)]⟩

/-- An integer with too many digits. -/
def longKey : Table Key Value := ⟨[(.value (.int (Int.ofNat (powerOfTwo 20000))) 0, .null)]⟩

/-- An open builder, and declarations of such statics. -/
def shapeWorld : World Workspace :=
  (World.initial Workspace.initial).after [
    .openBuilder Heap.defaultCatalog (.text "Shape"),
    .declare (.members .statics mixedKeys),
    .declare (.members .statics longKey)]

theorem prepared_shapeWorld :
    Prepared shapeWorld ⟨0⟩ [.declaration ⟨0⟩, .declaration ⟨1⟩, .int 4] where
  builder := by rfl
  definition := by rfl
  reachable := World.reachable_after _ _
  made := by rfl
  isOpen := by rfl
  plain := ⟨.text "Shape", .null, fun part => by cases part <;> exact Table.entries_empty⟩
  catalog := by rfl
  frozen _ := rfl
  data _ _ := rfl
  items := by
    have mixed : PlainKeys .statics mixedKeys := List.forall_mem_cons.mpr
      ⟨⟨⟨.text "sides", nofun⟩, trivial⟩, List.forall_mem_singleton.mpr
        ⟨⟨.int 4, nofun⟩, trivial⟩⟩
    have long : PlainKeys .statics longKey := List.forall_mem_singleton.mpr
      ⟨⟨.int _, nofun⟩, trivial⟩
    refine List.forall_mem_cons.mpr ⟨.declaration (.members mixed) rfl, List.forall_mem_cons.mpr
      ⟨.declaration (.members long) rfl, List.forall_mem_singleton.mpr ?_⟩⟩
    exact .data (.plain (.int 4))

theorem Prepared.of_subset {items items' : List Value} (prepared : Prepared w b items)
    (fewer : ∀ v ∈ items', v ∈ items) : Prepared w b items' :=
  { prepared with items := fun v there => prepared.items v (fewer v there) }

theorem classBody_outcomes_mixedKeys :
    Prepared shapeWorld ⟨0⟩ [.declaration ⟨0⟩] ∧
    let done := ((ofDepth 3).call (.builder ⟨0⟩) (.ofList [.declaration ⟨0⟩])).run shapeWorld
    done.1 = .error (.plain .typeError) ∧ RegisteredWith shapeWorld ⟨0⟩ [⟨0⟩] done.2.heap := by
  have prepared : Prepared shapeWorld ⟨0⟩ [.declaration ⟨0⟩] :=
    prepared_shapeWorld.of_subset (by simp)
  have outcome := classBody_outcomes prepared 0
  have wrong : descriptionFault? (recordWith shapeWorld ⟨0⟩ [⟨0⟩]) = some .typeError := by rfl
  have only {ds : List (Ref .declaration)}
      (declared : [Value.declaration ⟨0⟩] = ds.map .declaration) : ds = [⟨0⟩] := by
    match ds, declared with
    | [d], declared => cases declared; rfl
  refine ⟨prepared, ?_⟩
  intro done
  change BuildOutcome _ _ _ done.1 done.2 at outcome
  generalize done = done at outcome ⊢
  obtain ⟨r, u⟩ := done
  cases outcome with
  | @interrupted before v after _ _ split other =>
    have there : v ∈ [Value.declaration ⟨0⟩] := by simp [split]
    exact absurd (List.mem_singleton.mp there) (other _)
  | refused declared name =>
    obtain rfl := only declared
    rcases name with _ | ⟨null⟩
    exact absurd null (by decide)
  | unreported declared registered fault =>
    obtain rfl := only declared
    cases wrong.symm.trans fault
    exact ⟨rfl, registered⟩
  | built declared registered fine =>
    obtain rfl := only declared
    cases wrong.symm.trans fine

theorem tableFault?_longKey : tableFault? longKey = some .valueError := by
  have ordered : ¬ Unordered (longKey.keys.map Key.toValue) := fun ⟨two, _⟩ =>
    absurd two (Nat.not_succ_le_self 1)
  have long : (longKey.keys.map Key.toValue).any isTooLong = true := by
    rw [longKey, Table.keys, List.map_singleton, List.map_singleton, List.any_cons]
    exact Bool.or_eq_true_iff.mpr (.inl (isTooLong_powerOfTwo (by decide)))
  rw [tableFault?, if_neg ordered, if_pos long]

/-- A class whose tables all have an order, and whose name a type can have, is registered and not
returned: one of its keys is an integer with too many digits to be reported. -/
theorem longKey_unreported :
    Prepared shapeWorld ⟨0⟩ [.declaration ⟨1⟩] ∧
    (∀ part, ¬ Unordered (((recordWith shapeWorld ⟨0⟩ [⟨1⟩]).table part).keys.map Key.toValue)) ∧
    let done := ((ofDepth 3).call (.builder ⟨0⟩) (.ofList [.declaration ⟨1⟩])).run shapeWorld
    done.1 = .error (.plain .valueError) ∧ RegisteredWith shapeWorld ⟨0⟩ [⟨1⟩] done.2.heap := by
  have prepared : Prepared shapeWorld ⟨0⟩ [.declaration ⟨1⟩] :=
    prepared_shapeWorld.of_subset (by simp)
  refine ⟨prepared, fun part => ?_, ?_⟩
  · rintro ⟨two, -⟩
    cases part <;> exact absurd two (by decide)
  · have fault : descriptionFault? (recordWith shapeWorld ⟨0⟩ [⟨1⟩]) = some .valueError := by
      have statics : (recordWith shapeWorld ⟨0⟩ [⟨1⟩]).statics = longKey := by rfl
      rw [descriptionFault?, statics, List.findSome?_cons, tableFault?_longKey]
    have declared : Prepared shapeWorld ⟨0⟩ ([⟨1⟩].map .declaration) := prepared
    have named : (recordWith shapeWorld ⟨0⟩ [⟨1⟩]).name = .text "Shape" := by rfl
    have run := declared.exists_run_call_of_fit 0 named (by decide)
    rw [fault] at run
    obtain ⟨h, registered, outcome⟩ := run
    intro done
    have outcome : done = (.error (.plain .valueError), shapeWorld.setHeap h) := outcome
    rw [outcome]
    exact ⟨rfl, registered⟩

end Script.Machine

end ObjectModel
