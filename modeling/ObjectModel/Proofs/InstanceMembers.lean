import ObjectModel.Proofs.CommitRuns
import ObjectModel.Proofs.MethodCalls
import ObjectModel.Proofs.PublicDispatch
import ObjectModel.Proofs.WellFormedDefinitions

/-!
# Members of instances in scripts

What a script comes to when it reads, writes or deletes a member of an instance of an ordinary
class: what the model says. A public method that nobody wrote over is found on the facade and is
bound to the private state behind it. A write from outside adds to what was written onto the
facade, or changes nothing but the log, unless the key is that of a static member.
-/

namespace ObjectModel

theorem Session.run_congr {σ ω α : Type} {s s' : Session σ ω α} {w : World σ}
    (same : ∀ next, (s next).run w = (s' next).run w) : s.run w = s'.run w :=
  run_eq_iff.mpr (fun next => (same next).trans (run_followedBy s' next w))

namespace Script

/-- A class without hooks, with a definition that tells by itself what it is. -/
structure Ordinary (w : World Workspace) (c : Ref .cls) : Prop where
  hookless : (w.heap.classes.get c).operators = .empty
  own : w.client.standInFor? (classEntry w.heap c) = none

variable {w : World Workspace} {c : Ref .cls}

/-- The definition of an ordinary class was not altered. -/
theorem Ordinary.definition (ordinary : Ordinary w c) :
    w.client.isAltered (.definition (w.heap.classes.get c).definition) = false ∧
      isSimpleDefinition (w.heap.classDefinition c) = true := by
  have own := ordinary.own
  unfold Workspace.standInFor? at own
  split at own
  · cases own
  · simpa [classEntry, Heap.classDefinition] using own

theorem Ordinary.exists_name (ordinary : Ordinary w c) :
    ∃ name, (w.heap.classDefinition c).name = .text name := by
  have simple := ordinary.definition.2
  simp only [isSimpleDefinition, Bool.and_eq_true] at simple
  cases named : (w.heap.classDefinition c).name with
  | text name => exact ⟨name, rfl⟩
  | _ => simp [named, Value.isText] at simple

namespace Machine

variable {m : Machine} {u : World Workspace} {n : Nat} {s : Ref .state} {f : Ref .facade}
  {key : String} {v : Value} {r : Reading}

theorem run_standIn? (ordinary : Ordinary w c) : (standIn? c).run w = (.ok none, w) := by
  have found : (standIn? c).run w = (.ok (w.client.standInFor? (classEntry w.heap c)), w) :=
    Session.run_eq_iff.mpr (fun _ => rfl)
  rw [found, ordinary.own]

theorem run_requireSlot (unaltered : w.client.isAltered v = false) (name : String) :
    (requireSlot v name).run w = (.ok (), w) := by
  rw [requireSlot]
  refine (Session.run_bind_of_ok (run_viewing w _)).trans ?_
  rw [hasLost_eq_false unaltered]
  exact Session.run_pure () w

theorem guarded_ordinary_state (ordinary : Ordinary w (w.heap.stateClass s)) (m : Machine) :
    m.Guarded w (.state s) (m.readPrivate s) (m.writePrivate s) (m.deletePrivate s) := by
  refine m.guarded_state (fun name _ => ?_)
  change w.heap.hook? (w.heap.stateClass s) name = none
  rw [Heap.hook?, ordinary.hookless, Table.find?_empty]

theorem guarded_ordinary_facade (ordinary : Ordinary w (w.heap.facadeClass f)) (m : Machine) :
    m.Guarded w (.facade f) (m.readPublic f) (m.writePublic f) (m.deletePublic f) := by
  refine m.guarded_facade (fun name _ => ?_)
  change w.heap.hook? (w.heap.facadeClass f) name = none
  rw [Heap.hook?, ordinary.hookless, Table.find?_empty]

section Inside

variable (ordinary : Ordinary w (w.heap.stateClass s))

include ordinary

/-- Reading from inside is what the model says. -/
theorem run_read_state (plain : isSpecial key = false) (found : w.heap.readPrivate s key = .ok r)
    (reading : (ofReading r).run w = (.ok v, u)) :
    ((ofDepth (n + 1)).read (.state s) key).run w = (.ok v, u) := by
  refine (Session.run_congr
    (fun next => (guarded_ordinary_state ordinary (ofDepth n)).read key next plain)).trans ?_
  refine run_notingMissing_of_ok ?_
  rw [readPrivate, Session.run_bind_of_ok (run_seeing w _),
    Session.run_bind_of_ok (run_standIn? ordinary)]
  refine (Session.run_bind_of_ok (run_seeing w _)).trans ?_
  rw [found]
  exact (Session.run_bind_of_ok (run_explained_of_ok (Session.run_pure r w))).trans reading

theorem run_read_value (plain : isSpecial key = false)
    (found : w.heap.readPrivate s key = .ok (.value v)) :
    ((ofDepth (n + 1)).read (.state s) key).run w = (.ok v, w) :=
  run_read_state ordinary plain found (Session.run_pure v w)

theorem run_read_method {function : Value} (plain : isSpecial key = false)
    (found : w.heap.readPrivate s key = .ok (.method function s)) :
    ((ofDepth (n + 1)).read (.state s) key).run w =
      (.ok (.method w.client.methods.next), withMethod w ⟨.state s, .function function⟩) :=
  run_read_state ordinary plain found (run_newMethod _)

theorem run_writeAttribute_state (done : w.perform (.writePrivate s key v) = (.ok (), u)) :
    (m.writeAttribute (.state s) (.text key) v).run w = (.ok (), u) := by
  refine (Session.run_congr
    (fun next => (guarded_ordinary_state ordinary m).write key v next)).trans ?_
  rw [writePrivate, Session.run_bind_of_ok (run_seeing w _),
    Session.run_bind_of_ok (run_standIn? ordinary)]
  exact run_act_of_ok done

end Inside

section Outside

/-- A facade with its levels, of ordinary classes, on which nothing is stored beside the record. -/
structure OrdinaryFacade (w : World Workspace) (f : Ref .facade) : Prop where
  cls : Ordinary w (w.heap.facadeClass f)
  levels : Script.Untouched w (w.heap.facadeLayers f)

variable (ordinary : OrdinaryFacade w f)

include ordinary

theorem run_readStep_facade (plain : isSpecial key = false) :
    (m.readStep (.facade f) key).run w = (m.notingMissing (.facade f) key
      (m.settled (w.heap.dispatch key (w.heap.facadeLayers f)) >>= ofReading)).run w := by
  refine (Session.run_congr
    (fun next => (guarded_ordinary_facade ordinary.cls m).read key next plain)).trans ?_
  have byRule : (m.readPublic f key).run w =
      (m.settled (w.heap.dispatch key (w.heap.facadeLayers f)) >>= ofReading).run w := by
    refine Session.run_congr (fun next => (m.run_readPublic ordinary.levels key next).trans ?_)
    cases w.heap.dispatch key (w.heap.facadeLayers f) <;> rfl
  rw [notingMissing, notingMissing, Session.run_tryCatch, Session.run_tryCatch, byRule]

/-- A public method that nobody wrote over is bound to the state behind the facade. -/
theorem run_read_facade {function : Value} (plain : isSpecial key = false)
    (unwritten : (w.heap.external f).contains key = false)
    (open_ : (w.heap.facadeDefinition f).isPrivate (.text key) = false)
    (declared : (w.heap.facadeDefinition f).publics.find? (.text key) = some function) :
    ((ofDepth (n + 1)).read (.facade f) key).run w = (.ok (.method w.client.methods.next),
      withMethod w ⟨.state (w.heap.facadeState f), .function function⟩) := by
  obtain ⟨above, levels⟩ : ∃ above, w.heap.facadeLayers f = f :: above := ascend_eq_cons _ _ _
  have public_ : w.heap.declaresPublic key f = true := by
    rw [Heap.declaresPublic, Definition.isPublic, Table.contains_eq_isSome_find?, declared]
    rfl
  have answer : w.heap.dispatch key (w.heap.facadeLayers f) =
      .ok (.method function (w.heap.facadeState f)) := by
    rw [levels, Heap.dispatch_of_answers (Heap.answers_of_declaresPublic public_), Heap.levelAnswer,
      (Table.find?_eq_none_iff _ _).mpr unwritten, open_, declared]
    rfl
  refine (run_readStep_facade ordinary plain).trans (run_notingMissing_of_ok ?_)
  rw [answer]
  exact (Session.run_bind_of_ok (run_explained_of_ok (Session.run_pure _ w))).trans
    (run_newMethod _)

omit ordinary in
theorem exists_run_noteMissing_printed (e : Ref .exception) (v : Value) (name : String)
    (w : World Workspace) : ∃ u, (noteMissing e v name).run w = (.ok (), u) ∧ Printed w "" u := by
  have seen : (exceptionOf e).run w = (.ok (w.client.exceptions.get e), w) := run_viewing w _
  unfold noteMissing
  rw [Session.run_bind_of_ok seen]
  dsimp only
  split
  · exact ⟨_, run_poke w _, String.append_empty.symm, rfl, rfl, rfl, rfl, rfl⟩
  · exact ⟨w, Session.run_pure () w, .refl w⟩

omit ordinary in
/-- To note what was missing leaves nothing but the fault. -/
theorem exists_run_notingMissing_of_told {p : Prog Value} {kind : ErrorKind} {message : String}
    (fails : p.run w = (.error (.told kind message), w)) :
    ∃ e u, (m.notingMissing v key p).run w = (.error e, u) ∧ Printed w "" u := by
  have held : ∃ e u, (m.hold (.told kind message)).run w = (.ok e, u) ∧ Printed w "" u :=
    ⟨_, _, Session.run_eq_iff.mpr (fun _ => rfl), String.append_empty.symm, rfl, rfl, rfl, rfl, rfl⟩
  rw [notingMissing, Session.run_tryCatch_of_error fails]
  split
  · obtain ⟨e, u, held, same⟩ := held
    obtain ⟨u', noted, same'⟩ := exists_run_noteMissing_printed e v key u
    refine ⟨.held kind e, u', ?_, same.trans same'⟩
    refine (Session.run_bind_of_ok held).trans ?_
    exact (Session.run_bind_of_ok noted).trans (Session.run_throw _ _)
  · exact ⟨_, w, Session.run_throw _ w, .refl w⟩

/-- A key that no level knows is refused. -/
theorem exists_run_read_refused (plain : isSpecial key = false)
    (refused : w.heap.dispatch key (w.heap.facadeLayers f) = .error (.noPublicMember key)) :
    ∃ e u, ((ofDepth (n + 1)).read (.facade f) key).run w = (.error e, u) ∧ Printed w "" u := by
  have fails : ((ofDepth n).settled (w.heap.dispatch key (w.heap.facadeLayers f)) >>=
      ofReading).run w = (.error (.told .undefinedMemberError
        ("Trying to access non existing member " ++ key)), w) := by
    rw [refused]
    exact Session.run_bind_of_error
      (run_explained_of_message (Session.run_throw _ w) (Session.run_pure _ w))
  obtain ⟨e, u, run, same⟩ : ∃ e u, ((ofDepth n).notingMissing (.facade f) key _).run w =
      (.error e, u) ∧ Printed w "" u := exists_run_notingMissing_of_told fails
  exact ⟨e, u, (run_readStep_facade ordinary plain).trans run, same⟩

theorem stray?_facade (key : String) : w.client.stray? (.facade f) key = none := by
  obtain ⟨above, levels⟩ : ∃ above, w.heap.facadeLayers f = f :: above := ascend_eq_cons _ _ _
  have clean := (ordinary.levels f (by rw [levels]; exact List.mem_cons_self)).2
  rw [Workspace.hasStrays, List.any_eq_false] at clean
  refine List.lookup_eq_none_iff.mpr (fun e there => ?_)
  have other := clean e there
  rw [beq_iff_eq] at other
  rw [bne_iff_ne]
  intro same
  exact other (congrArg Prod.fst same).symm

theorem run_writeAttribute_facade (key : String) (v : Value) :
    (m.writeAttribute (.facade f) (.text key) v).run w = w.perform (.writePublic f key v) := by
  refine (Session.run_congr
    (fun next => (guarded_ordinary_facade ordinary.cls m).write key v next)).trans ?_
  rw [writePublic, Session.run_bind_of_ok (run_viewing w _), stray?_facade ordinary]
  refine (Session.run_bind_of_ok (run_seeing w _)).trans ?_
  exact (Session.run_bind_of_ok (run_standIn? ordinary.cls)).trans (Session.run_ask _ w)

theorem run_dropStray (key : String) : (dropStray (.facade f) key).run w = (.ok false, w) := by
  rw [dropStray, Session.run_bind_of_ok (run_viewing w _), stray?_facade ordinary]
  exact (Session.run_bind_of_ok (run_poke w _)).trans (Session.run_pure _ _)

theorem run_facadeDefinition (kept : w.client.isAltered (.state (w.heap.facadeState f)) = false) :
    (facadeDefinition f).run w =
      (.ok (.definition (w.heap.classes.get (w.heap.facadeClass f)).definition), w) := by
  have cls : (definedClass (.state (w.heap.facadeState f))).run w =
      (.ok (w.heap.facadeClass f), w) :=
    (Session.run_bind_of_ok (run_requireSlot kept _)).trans (run_seeing w _)
  rw [facadeDefinition, Session.run_bind_of_ok (run_seeing w _), keptDefinition,
    Session.run_bind_of_ok cls, classDefinition,
    Session.run_bind_of_ok (run_standIn? ordinary.cls)]
  exact run_seeing w _

/-- A key that was written from outside can be deleted from there. -/
theorem run_deleteAttribute_of_contains (made : w.heap.facades.contains f = true)
    (written : (w.heap.external f).contains key = true) :
    (m.deleteAttribute (.facade f) (.text key)).run w =
      (.ok (), w.setHeap (w.heap.setExternal f ((w.heap.external f).erase key))) := by
  have done : w.perform (.deletePublic f key) =
      (.ok (), w.setHeap (w.heap.setExternal f ((w.heap.external f).erase key))) := by
    simp only [World.perform, made, Heap.deletePublic, written]
    rfl
  refine (Session.run_congr
    (fun next => (guarded_ordinary_facade ordinary.cls m).delete key next)).trans ?_
  rw [deletePublic, Session.run_bind_of_ok (run_dropStray ordinary key),
    Session.run_bind_of_ok (run_seeing w _), written]
  exact run_act_of_ok done

/-- No other key can. -/
theorem exists_run_deleteAttribute_of_not_contains
    (kept : w.client.isAltered (.state (w.heap.facadeState f)) = false)
    (unwritten : (w.heap.external f).contains key = false) :
    ∃ e, ((ofDepth (n + 1)).deleteAttribute (.facade f) (.text key)).run w = (.error e, w) := by
  obtain ⟨name, named⟩ := ordinary.cls.exists_name
  have unaltered := ordinary.cls.definition.1
  have read := run_read_name
    ⟨by rw [givenTo_eq_empty unaltered]; rfl, hasLost_eq_false unaltered "name"⟩ n
  rw [show (w.heap.definition _).name = _ from named] at read
  refine ⟨.told .accessError ("Cannot delete member " ++ key ++ " of " ++ name ++ " from outside"),
    (Session.run_congr
      (fun next => (guarded_ordinary_facade ordinary.cls _).delete key next)).trans ?_⟩
  rw [deletePublic, Session.run_bind_of_ok (run_dropStray ordinary key),
    Session.run_bind_of_ok (run_seeing w _), unwritten]
  refine (Session.run_bind_of_ok (run_facadeDefinition ordinary kept)).trans ?_
  refine (Session.run_bind_of_ok read).trans ?_
  exact run_explained_of_message (Session.run_throw _ w)
    ((Session.run_bind_of_ok (Session.run_pure name w)).trans (Session.run_pure _ w))

end Outside

theorem run_read_class (ordinary : Ordinary w c) (kept : w.client.isAltered (.cls c) = false)
    (found : w.heap.readClass c key = .ok v) :
    ((ofDepth (n + 1)).read (.cls c) key).run w = (.ok v, w) := by
  refine run_notingMissing_of_ok ?_
  refine (Session.run_bind_of_ok (run_requireSlot kept _)).trans ?_
  refine (Session.run_bind_of_ok (run_standIn? ordinary)).trans ?_
  refine (Session.run_bind_of_ok (run_seeing w _)).trans ?_
  refine (Session.run_bind_of_ok (run_viewing w _)).trans ?_
  -- what is unaltered has lost nothing
  rw [hasLost_eq_false kept, Bool.and_false, if_neg Bool.false_ne_true]
  refine (Session.run_bind_of_ok (run_seeing w _)).trans ?_
  rw [found]
  exact run_explained_of_ok (Session.run_pure v w)

end Machine

end Script

end ObjectModel
