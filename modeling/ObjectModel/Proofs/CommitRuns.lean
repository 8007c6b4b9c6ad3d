import ObjectModel.Proofs.BuilderCalls
import ObjectModel.Proofs.Descriptions
import ObjectModel.Proofs.Registrations

/-!
# Registering plain definitions

What comes of it when a definition with plain data is registered in a catalog, neither of them
altered. Without a name, or with a name that no type can have, the definition is refused and
nothing is registered. Else the class is registered, and it stays so even if it cannot be reported.
-/

namespace ObjectModel

namespace Script

variable {r : Definition} {name : String}

/-- The hooks of a plain definition can all be hooks of a type. -/
theorem PlainDefinition.fitHooks (plain : PlainDefinition r) :
    r.operators.keys.any (fun k => k.text?.isNone) = false ∧
      r.operators.contains (.text layoutName) = false ∧
      typeDataNames.any (fun n => r.operators.contains (.text n)) = false := by
  have free {n : String} (other : ∀ s, .text s ∈ r.operators.keys → HookName s → s ≠ n) :
      r.operators.contains (.text n) = false := by
    rw [Table.contains_eq_any_keys]
    refine List.any_eq_false.mpr (fun k there => ?_)
    obtain ⟨s, rfl, hook⟩ := plain.hooks k there
    simpa using other s there hook
  refine ⟨List.any_eq_false.mpr (fun k there => ?_), free ?_,
    List.any_eq_false.mpr (fun n data => Bool.eq_false_iff.mp (free ?_))⟩
  · obtain ⟨s, rfl, -⟩ := plain.hooks k there
    exact Bool.false_ne_true
  · rintro s - hook rfl
    exact hook.free (by decide)
  · rintro s there - rfl
    obtain ⟨e, listed, isText⟩ := List.mem_map.mp there
    exact (plain.keys .operators e listed).1.2 rfl s data isText

/-- With such hooks, only the name of the class can be wrong. -/
theorem PlainDefinition.typeFault?_eq (plain : PlainDefinition r) (named : r.name = .text name) :
    r.typeFault? = if Char.ofNat 0 ∈ name.toList then some (.plain .valueError) else none := by
  obtain ⟨texts, layout, data⟩ := plain.fitHooks
  simp only [Definition.typeFault?, named, texts, layout, data, Bool.false_eq_true, if_false,
    List.contains_iff_mem]

/-- Whatever the hooks are, a name that can be the name of a type makes no fault of its own. -/
theorem typeFault?_of_fit (named : r.name = .text name) (fit : Char.ofNat 0 ∉ name.toList) :
    r.typeFault? = none ∨ r.typeFault? = some .wrongType := by
  simp only [Definition.typeFault?, named, List.contains_iff_mem, fit, if_false]
  split
  · exact .inr rfl
  · split
    · exact .inr rfl
    · split
      · exact .inr rfl
      · exact .inl rfl

/-- A plain definition tells by itself what it is, if it has a name. -/
theorem PlainDefinition.isSimple (plain : PlainDefinition r) (named : r.name = .text name) :
    isSimpleDefinition r = true := by
  have parent {v : Value} (name : IsName v) : (decide (v = .null) || v.isText) = true := by
    cases name <;> rfl
  have tables : ([Section.statics, .privates, .publics, .operators].map r.table).all
      (fun t => t.keys.all (fun k => Script.isSimple k.toValue)) = true := by
    refine List.all_eq_true.mpr (fun t there => ?_)
    obtain ⟨part, -, rfl⟩ := List.mem_map.mp there
    exact List.all_eq_true.mpr (fun k there => ((plain.keys part).isPlain k there).isSimple)
  have split : [r.statics, r.privates, r.publics, r.operators] =
      [Section.statics, .privates, .publics, .operators].map r.table := rfl
  rw [isSimpleDefinition, named, parent plain.parent, split, tables]
  rfl

end Script

namespace World

variable {σ : Type} {w : World σ} {k : Ref .catalog} {d : Ref .definition} {name : String}

theorem perform_register_of_typeFault (inCatalog : w.heap.catalogs.contains k = true)
    (defined : w.heap.definitions.contains d = true) {f : Fault}
    (fault : (w.heap.definition d).typeFault? = some f) :
    w.perform (.register k d) = (.error f, w) := by
  simp only [perform, inCatalog, defined, Heap.register, fault]
  rfl

theorem perform_register_of_fit (inCatalog : w.heap.catalogs.contains k = true)
    (defined : w.heap.definitions.contains d = true)
    (fit : (w.heap.definition d).typeFault? = none)
    (named : (w.heap.definition d).name = .text name) :
    ∃ h, w.perform (.register k d) = (.ok w.heap.classes.next, w.setHeap h) ∧
      w.heap.Registers ⟨d, k, name, (w.heap.definition d).operators⟩ h ∧
      h.builders = w.heap.builders ∧ h.definitions = w.heap.definitions := by
  simp only [perform, inCatalog, defined, Heap.register, fit, named]
  exact ⟨_, rfl, ⟨inCatalog, rfl, rfl⟩, rfl, rfl⟩

end World

namespace Script.Machine

variable {w u : World Workspace} {k : Ref .catalog} {d : Ref .definition} {name : String}

/-- To describe a plain definition that was not altered is left to the model. -/
theorem run_describe (unaltered : w.client.isAltered (.definition d) = false)
    (plain : PlainDefinition (w.heap.definition d))
    (named : (w.heap.definition d).name = .text name) (n : Nat) :
    ((ofDepth (n + 2)).describe d).run w = ((w.heap.definition d).describe plainDisplay, w) := by
  unfold describe
  refine (Session.run_bind_of_ok (run_seeing w _)).trans ?_
  refine (Session.run_bind_of_ok (run_isAltered unaltered)).trans ?_
  rw [plain.isSimple named]
  exact (showsPlain n w).run_describe plain

/-- A class is registered first and reported then. -/
theorem run_client_commit {h : Heap} {c : Ref .cls}
    (registered : w.perform (.register k d) = (.ok c, w.setHeap h))
    (unaltered : w.client.isAltered (.definition d) = false)
    (definitions : h.definitions = w.heap.definitions)
    (plain : PlainDefinition (w.heap.definition d))
    (named : (w.heap.definition d).name = .text name) (n : Nat) :
    ((ofDepth (n + 2)).client.commit k d).run w =
      match (w.heap.definition d).describe plainDisplay with
      | .ok line => (.ok c, (w.setHeap h).addLog (.committed line))
      | .error f => (.error f, w.setHeap h) := by
  have record : h.definition d = w.heap.definition d := by
    rw [Heap.definition, definitions]
    rfl
  have described : ((ofDepth (n + 2)).client.describe d).run (w.setHeap h) =
      ((w.heap.definition d).describe plainDisplay, w.setHeap h) := by
    rw [← record] at plain named ⊢
    exact run_describe (w := w.setHeap h) unaltered plain named n
  unfold Client.commit
  refine (Session.run_bind_of_ok ((Session.run_ask _ w).trans registered)).trans ?_
  cases line : (w.heap.definition d).describe plainDisplay with
  | error f =>
    rw [line] at described
    exact Session.run_bind_of_error described
  | ok s =>
    rw [line] at described
    refine (Session.run_bind_of_ok described).trans ?_
    exact (Session.run_bind_of_ok (Session.run_ask _ _)).trans (Session.run_pure _ _)

/-- A plain definition and a catalog to register it in, neither of which was altered. -/
structure Registrable (w : World Workspace) (k : Ref .catalog) (d : Ref .definition) : Prop where
  catalog : w.client.isAltered (.catalog k) = false
  definition : w.client.isAltered (.definition d) = false
  inCatalog : w.heap.catalogs.contains k = true
  defined : w.heap.definitions.contains d = true
  plain : PlainDefinition (w.heap.definition d)

section Named

variable (ready : Registrable w k d) (named : (w.heap.definition d).name = .text name) (n : Nat)

include ready named

/-- A definition with a name is registered by the model. -/
theorem run_commit : ((ofDepth (n + 2)).commit k (.definition d)).run w =
    ((ofDepth (n + 2)).explained ((ofDepth (n + 2)).client.commit k d)).run w := by
  unfold commit
  refine (Session.run_bind_of_ok (run_seeing w _)).trans ?_
  refine (Session.run_bind_of_ok (run_isAltered ready.catalog)).trans ?_
  refine (Session.run_bind_of_ok (run_isAltered ready.definition)).trans ?_
  rw [ready.plain.isSimple named]
  rfl

/-- A name with a null character is the name of no type. -/
theorem run_commit_of_null (null : Char.ofNat 0 ∈ name.toList) :
    ((ofDepth (n + 2)).commit k (.definition d)).run w = (.error (.plain .valueError), w) := by
  have fault : (w.heap.definition d).typeFault? = some (.plain .valueError) := by
    rw [ready.plain.typeFault?_eq named, if_pos null]
  rw [run_commit ready named n]
  refine run_explained_of_plain (Session.run_bind_of_error ((Session.run_ask _ w).trans ?_))
  exact World.perform_register_of_typeFault ready.inCatalog ready.defined fault

/-- With any other name the class is registered, and reported if it can be described. -/
theorem run_commit_of_fit (fit : Char.ofNat 0 ∉ name.toList) :
    ∃ h, w.heap.Registers ⟨d, k, name, (w.heap.definition d).operators⟩ h ∧
      h.builders = w.heap.builders ∧ h.definitions = w.heap.definitions ∧
      match descriptionFault? (w.heap.definition d) with
      | some e => ((ofDepth (n + 2)).commit k (.definition d)).run w =
          (.error (.plain e), w.setHeap h)
      | none => ∃ line, (w.heap.definition d).describe plainDisplay = .ok line ∧
          ((ofDepth (n + 2)).commit k (.definition d)).run w =
            (.ok w.heap.classes.next, (w.setHeap h).addLog (.committed line)) := by
  have noFault : (w.heap.definition d).typeFault? = none := by
    rw [ready.plain.typeFault?_eq named, if_neg fit]
  obtain ⟨h, registered, registers, builders, definitions⟩ :=
    World.perform_register_of_fit ready.inCatalog ready.defined noFault named
  refine ⟨h, registers, builders, definitions, ?_⟩
  have commits := run_client_commit registered ready.definition definitions ready.plain named n
  have describes := failsBy_describe ready.plain
  rw [run_commit ready named n]
  cases fault : descriptionFault? (w.heap.definition d) with
  | some e =>
    rw [fault] at describes
    rw [show (w.heap.definition d).describe plainDisplay = _ from describes] at commits
    exact run_explained_of_plain commits
  | none =>
    rw [fault] at describes
    obtain ⟨line, described⟩ := describes
    rw [described] at commits
    exact ⟨line, described, run_explained_of_ok commits⟩

end Named

/-- The world has the same heap and the same log. -/
structure SameModel (w u : World Workspace) : Prop where
  heap : u.heap = w.heap
  log : u.log = w.log

theorem SameModel.trans {u' : World Workspace} (first : SameModel w u) (second : SameModel u u') :
    SameModel w u' :=
  ⟨second.heap.trans first.heap, second.log.trans first.log⟩

/-- A definition that has lost nothing, and was given nothing that takes the place of its name. -/
structure KeepsName (w : World Workspace) (d : Ref .definition) : Prop where
  given : (w.client.givenTo (.definition d)).find? "name" = none
  lost : w.client.hasLost (.definition d) "name" = false

theorem run_read_name (keeps : KeepsName w d) (n : Nat) :
    ((ofDepth (n + 1)).read (.definition d) "name").run w =
      (.ok (w.heap.definition d).name, w) := by
  have own : (plainAttribute (.definition d) "name").run w =
      (.ok (w.heap.definition d).name, w) := by
    unfold plainAttribute
    rw [Session.run_bind_of_ok (run_viewing w _), keeps.given]
    refine (Session.run_bind_of_ok (run_viewing w _)).trans ?_
    rw [keeps.lost]
    exact (Session.run_bind_of_ok (run_seeing w _)).trans (Session.run_pure _ w)
  exact run_notingMissing_of_ok own

/-- To read the hooks of a definition hands out a dictionary of them, and keeps the name. -/
theorem exists_run_read_operators (unaltered : w.client.isAltered (.definition d) = false)
    (n : Nat) : ∃ r u, ((ofDepth (n + 1)).read (.definition d) "operators").run w =
      (.ok (.dict r), u) ∧ SameModel w u ∧ KeepsName u d := by
  let table := Dict.ofEntries (entriesOfTable ((w.heap.definition d).table .operators))
  let filled : Workspace := { w.client with dicts := w.client.dicts.push table }
  let given := (filled.givenTo (.definition d)).insert "operators" (.dict w.client.dicts.next)
  let u : World Workspace := { w with client := filled.setGiven (.definition d) given }
  have handed : (recordAttribute? (.definition d) "operators").run w =
      (.ok (some (.dict w.client.dicts.next)), u) := Session.run_eq_iff.mpr (fun _ => rfl)
  have given : (u.client.givenTo (.definition d)).find? "name" = none := by
    have only : u.client.givenTo (.definition d) = given := by
      simp [u, Workspace.givenTo, Workspace.setGiven]
    have before : filled.givenTo (.definition d) = .empty := givenTo_eq_empty unaltered
    rw [only]
    simp only [given, before]
    rfl
  exact ⟨_, u, run_notingMissing_of_ok (run_plainAttribute_of_record unaltered handed),
    ⟨rfl, rfl⟩, given, hasLost_eq_false unaltered "name"⟩

/-- The hooks of a definition are read from the dictionary that is handed out. -/
theorem exists_run_hooksOf (unaltered : w.client.isAltered (.definition d) = false) (n : Nat) :
    ∃ u, SameModel w u ∧ KeepsName u d ∧
      (((ofDepth (n + 1)).hooksOf (.definition d)).run w = (.error .wrongType, u) ∨
        ∃ hooks, ((ofDepth (n + 1)).hooksOf (.definition d)).run w = (.ok hooks, u)) := by
  obtain ⟨r, u, read, same, keeps⟩ := exists_run_read_operators unaltered n
  refine ⟨u, same, keeps, ?_⟩
  have asked : ((ofDepth (n + 1)).hooksOf (.definition d)).run w =
      (if (u.client.dicts.get r).entries.all (fun e => e.key.isText) then
        pure (memberTableOf (u.client.dicts.get r).entries)
      else wrongType : Prog (Table Key Value)).run u := by
    unfold hooksOf
    refine (Session.run_bind_of_ok read).trans ?_
    exact Session.run_bind_of_ok (run_viewing u _)
  rw [asked]
  split
  · exact .inr ⟨_, Session.run_pure _ u⟩
  · exact .inl (Session.run_throw _ u)

/-- Nothing is the name of no type, whatever the hooks are. -/
theorem run_typeNameOf (keeps : KeepsName w d) (nameless : (w.heap.definition d).name = .null)
    (hooks : Table Key Value) (n : Nat) :
    ((ofDepth (n + 2)).typeNameOf (.definition d) hooks).run w = (.error .wrongType, w) := by
  have read : ((ofDepth (n + 2)).read (.definition d) "name").run w = (.ok .null, w) := by
    rw [run_read_name keeps (n + 1), nameless]
  have spoken : ((ofDepth (n + 2)).spoken .null).run w = (.ok "None", w) := run_spoken .null n w
  unfold typeNameOf
  refine (Session.run_bind_of_ok read).trans ?_
  refine (Session.run_bind_of_ok spoken).trans ?_
  rcases typeFault?_of_fit (r := { Definition.named (.text "None") with operators := hooks }) rfl
    (by decide) with fit | fault
  · simp only [fit]
    refine (Session.run_bind_of_ok (Session.run_pure () w)).trans ?_
    exact (Session.run_bind_of_ok read).trans (Session.run_throw _ w)
  · simp only [fault]
    exact Session.run_bind_of_error (Session.run_throw _ w)

/-- A definition without a name is refused by its catalog. -/
theorem exists_run_commit_of_nameless (ready : Registrable w k d)
    (nameless : (w.heap.definition d).name = .null) (n : Nat) :
    ∃ u, ((ofDepth (n + 2)).commit k (.definition d)).run w = (.error .wrongType, u) ∧
      SameModel w u := by
  obtain ⟨u, same, keeps, read⟩ := exists_run_hooksOf ready.definition (n + 1)
  refine ⟨u, ?_, same⟩
  have asked : ((ofDepth (n + 2)).commit k (.definition d)).run w =
      ((ofDepth (n + 2)).commitByAsking k (.definition d)).run w := by
    unfold commit
    refine (Session.run_bind_of_ok (run_seeing w _)).trans ?_
    refine (Session.run_bind_of_ok (run_viewing w _)).trans ?_
    refine (Session.run_bind_of_ok (run_viewing w _)).trans ?_
    rw [isSimpleDefinition, nameless]
    rfl
  rw [asked]
  unfold commitByAsking
  rcases read with fails | ⟨hooks, read⟩
  · exact Session.run_bind_of_error fails
  · refine (Session.run_bind_of_ok read).trans (Session.run_bind_of_error ?_)
    exact run_typeNameOf keeps (same.heap ▸ nameless) hooks n

end Script.Machine

end ObjectModel
