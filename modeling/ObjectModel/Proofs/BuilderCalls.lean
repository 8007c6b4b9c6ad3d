import ObjectModel.Proofs.BodyContents
import ObjectModel.Proofs.CatalogQueries
import ObjectModel.Proofs.SessionRuns

/-!
# Asking a builder

What scripts come to when they do something with a builder, as long as neither the builder nor its
definition was altered and all keys in its tables are simple: what the model says, and no client
code is run. A message is made where a fault arises.
-/

namespace ObjectModel.Script.Machine

variable {m : Machine} {w u : World Workspace} {b : Ref .builder} {v : Value} {α : Type}

/-- Neither a builder nor its definition was altered. -/
structure Untouched (w : World Workspace) (b : Ref .builder) : Prop where
  builder : w.client.isAltered (.builder b) = false
  definition : w.client.isAltered (.definition (w.heap.builderDefinition b)) = false

theorem run_isAltered (unaltered : w.client.isAltered v = false) :
    (isAltered v).run w = (.ok false, w) := by
  rw [isAltered, run_viewing, unaltered]

theorem run_isUntouched (untouched : Untouched w b) :
    (isUntouched b).run w = (.ok true, w) := by
  rw [isUntouched, Session.run_bind_of_ok (run_seeing w _),
    Session.run_bind_of_ok (run_isAltered untouched.builder),
    Session.run_bind_of_ok (run_isAltered untouched.definition)]
  exact Session.run_pure _ _

theorem run_unlessGiven (unaltered : w.client.isAltered v = false) (name : String)
    (args : List Value) (own : Prog Value) :
    (m.unlessGiven v name args own).run w = own.run w := by
  rw [unlessGiven, Session.run_bind_of_ok (run_viewing w _), givenTo_eq_empty unaltered]
  rfl

/-- An operation that a thing has itself is done, unless the thing was altered. -/
theorem run_operate {own : Operations} {name : String} {args : List Value} {p : Prog Value}
    (has : own v name args = some p) (unaltered : w.client.isAltered v = false) :
    (m.operate own v name args).run w = p.run w := by
  rw [operate, has]
  exact run_unlessGiven unaltered name args p

theorem run_explained_of_ok {p : Prog α} {a : α} (done : p.run w = (.ok a, u)) :
    (m.explained p).run w = (.ok a, u) :=
  Session.run_tryCatch_of_ok done

theorem run_tell_of_message {f : Fault} {s : String}
    (message : (f.message? m.display).run w = (.ok (some s), u)) :
    (f.tell m.display).run w = (.ok (.told f.kind s), u) := by
  rw [Fault.tell, Session.run_bind_of_ok message]
  exact Session.run_pure _ _

/-- A fault is told with its message. -/
theorem run_explained_of_message {p : Prog α} {f : Fault} {u' : World Workspace} {s : String}
    (fails : p.run w = (.error f, u))
    (message : (f.message? m.display).run u = (.ok (some s), u')) :
    (m.explained p).run w = (.error (.told f.kind s), u') := by
  rw [explained, Session.run_tryCatch_of_error fails,
    Session.run_bind_of_ok (run_tell_of_message message), Session.run_throw]

/-- A fault of plain values stays as it is. -/
theorem run_explained_of_plain {p : Prog α} {k : ErrorKind}
    (fails : p.run w = (.error (.plain k), u)) :
    (m.explained p).run w = (.error (.plain k), u) := by
  have message : ((Fault.plain k).message? m.display).run u = (.ok none, u) :=
    Session.run_pure none u
  have told : ((Fault.plain k).tell m.display).run u = (.ok (.plain k), u) := by
    rw [Fault.tell, Session.run_bind_of_ok message]
    exact Session.run_pure _ _
  rw [explained, Session.run_tryCatch_of_error fails, Session.run_bind_of_ok told,
    Session.run_throw]

theorem run_act_of_ok {a : Action Workspace} {r : a.Result} (done : w.perform a = (.ok r, u)) :
    (m.act a).run w = (.ok r, u) :=
  run_explained_of_ok ((Session.run_ask a w).trans done)

theorem run_act_of_message {a : Action Workspace} {f : Fault} {u' : World Workspace} {s : String}
    (fails : w.perform a = (.error f, u))
    (message : (f.message? m.display).run u = (.ok (some s), u')) :
    (m.act a).run w = (.error (.told f.kind s), u') :=
  run_explained_of_message ((Session.run_ask a w).trans fails) message

/-- An action that fails is a fault with its message made, or the fault of making the message. -/
theorem exists_run_act_of_error {a : Action Workspace} {f : Fault}
    (fails : w.perform a = (.error f, u)) : ∃ f' u', (m.act a).run w = (.error f', u') := by
  rw [act, explained, Session.run_tryCatch_of_error ((Session.run_ask a w).trans fails),
    Session.run_bind]
  cases (f.tell m.display).run u with
  | mk r u' =>
    cases r with
    | ok told => exact ⟨told, u', Session.run_throw _ _⟩
    | error e => exact ⟨e, u', rfl⟩

section Attributes

variable {n : Nat} {name : String}

/-- Of a thing that was not altered, an attribute is what its record has under the name, or an
operation of that name. -/
theorem run_plainAttribute (unaltered : w.client.isAltered v = false) (name : String) :
    (plainAttribute v name).run w = (do
      match ← recordAttribute? v name with
      | some r => return r
      | none => if (ownOperations v).contains name then newMethod ⟨v, .own name⟩ else noAttribute :
        Prog Value).run w := by
  unfold plainAttribute
  rw [Session.run_bind_of_ok (run_viewing w _), givenTo_eq_empty unaltered, Table.find?_empty]
  refine (Session.run_bind_of_ok (run_viewing w _)).trans ?_
  rw [hasLost_eq_false unaltered]
  rfl

theorem run_plainAttribute_of_record {r : Value} (unaltered : w.client.isAltered v = false)
    (recorded : (recordAttribute? v name).run w = (.ok (some r), u)) :
    (plainAttribute v name).run w = (.ok r, u) := by
  rw [run_plainAttribute unaltered, Session.run_bind_of_ok recorded]
  exact Session.run_pure _ _

theorem run_notingMissing_of_ok {p : Prog α} {a : α} (done : p.run w = (.ok a, u)) :
    (m.notingMissing v name p).run w = (.ok a, u) :=
  Session.run_tryCatch_of_ok done

theorem run_read_definition (untouched : Untouched w b) (n : Nat) :
    ((ofDepth (n + 1)).read (.builder b) "definition").run w =
      (.ok (.definition (w.heap.builderDefinition b)), w) :=
  run_notingMissing_of_ok (run_plainAttribute_of_record untouched.builder (run_seeing w _))

theorem run_read_catalog (untouched : Untouched w b) (n : Nat) :
    ((ofDepth (n + 1)).read (.builder b) "catalog").run w =
      (.ok (.catalog (w.heap.builders.get b).catalog), w) :=
  run_notingMissing_of_ok (run_plainAttribute_of_record untouched.builder (run_seeing w _))

theorem run_read_finalized (untouched : Untouched w b) (n : Nat) :
    ((ofDepth (n + 1)).read (.builder b) "finalized").run w =
      (.ok (.bool (w.heap.finalized b)), w) :=
  run_notingMissing_of_ok (run_plainAttribute_of_record untouched.builder (run_seeing w _))

/-- The world in which one more method has been read of something. -/
def withMethod (w : World Workspace) (b : BoundMethod) : World Workspace :=
  { w with client := { w.client with methods := w.client.methods.push b } }

theorem Untouched.withMethod (untouched : Untouched w b) (c : BoundMethod) :
    Untouched (withMethod w c) b :=
  ⟨untouched.builder, untouched.definition⟩

theorem run_newMethod (b : BoundMethod) :
    (newMethod b).run w = (.ok (.method w.client.methods.next), withMethod w b) := by
  rw [newMethod, Session.run_bind_of_ok (run_viewing w _), Session.run_bind_of_ok (run_poke w _)]
  exact Session.run_pure _ _

/-- To ask an open builder whether it is open gives its definition. -/
theorem run_openDefinition (untouched : Untouched w b) (isOpen : w.heap.finalized b = false)
    (n : Nat) : ((ofDepth (n + 1)).openDefinition b).run w =
      (.ok (.definition (w.heap.builderDefinition b)), w) := by
  have closed : ((ofDepth (n + 1)).truth (.bool (w.heap.finalized b))).run w =
      (.ok false, w) := by
    rw [isOpen]
    exact Session.run_pure _ _
  rw [openDefinition, Session.run_bind_of_ok (run_read_finalized untouched n),
    Session.run_bind_of_ok closed]
  exact run_read_definition untouched n

theorem run_callMember_open (untouched : Untouched w b) (isOpen : w.heap.finalized b = false)
    (n : Nat) : ((ofDepth (n + 2)).callMember (.builder b) "_open" []).run w =
      (.ok (.definition (w.heap.builderDefinition b)),
        withMethod w ⟨.builder b, .own "_open"⟩) := by
  have read : ((ofDepth (n + 2)).read (.builder b) "_open").run w =
      (.ok (.method w.client.methods.next), withMethod w ⟨.builder b, .own "_open"⟩) := by
    refine run_notingMissing_of_ok ?_
    have unrecorded : (recordAttribute? (.builder b) "_open").run w = (.ok none, w) :=
      Session.run_pure _ _
    refine (run_plainAttribute untouched.builder "_open").trans ?_
    rw [Session.run_bind_of_ok unrecorded]
    exact run_newMethod _
  have opened : ((ofDepth (n + 1)).callMethod ⟨.builder b, .own "_open"⟩ (.ofList [])).run
      (withMethod w ⟨.builder b, .own "_open"⟩) =
        (.ok (.definition (w.heap.builderDefinition b)),
          withMethod w ⟨.builder b, .own "_open"⟩) :=
    run_openDefinition (untouched.withMethod _) isOpen n
  rw [callMember, Session.run_bind_of_ok read]
  refine (Session.run_bind_of_ok (run_viewing _ _)).trans ?_
  rw [withMethod, Store.get_push_next]
  exact opened

end Attributes

section Tables

variable {t : Table Key Value} {part : Section} {d : Ref .declaration}

/-- The keys of a table are compared and shown without asking anyone. -/
def SimpleKeys (t : Table Key Value) : Prop :=
  t.Entries (fun k => isSimple k.toValue = true) (fun _ => True)

theorem SimpleKeys.all (simple : SimpleKeys t) :
    t.keys.all (fun k => isSimple k.toValue) = true := by
  refine List.all_eq_true.mpr (fun k there => ?_)
  obtain ⟨e, listed, rfl⟩ := List.mem_map.mp there
  exact (simple e listed).1

theorem run_plainTable? {r : TableRef} {es : List Entry} (isTable : TableRef.ofValue? v = some r)
    (entries : (tableEntries r).run w = (.ok es, w))
    (simple : ∀ e ∈ es, isSimple e.key = true) :
    (plainTable? v).run w = (.ok (some (memberTableOf es)), w) := by
  unfold plainTable?
  rw [isTable]
  refine (Session.run_bind_of_ok entries).trans ?_
  rw [if_pos (List.all_eq_true.mpr simple)]
  exact Session.run_pure _ _

theorem run_plainTable?_entries (simple : SimpleKeys (declaredTable w.heap d)) :
    ∃ u, (plainTable? (.entries d)).run w = (.ok (some u), w) := by
  refine ⟨_, run_plainTable? rfl (run_seeing w _) (fun e there => ?_)⟩
  obtain ⟨e, listed, rfl⟩ := List.mem_map.mp there
  exact (simple e listed).1

theorem run_tableFor? (untouched : Untouched w b)
    (simple : SimpleKeys ((w.heap.definition (w.heap.builderDefinition b)).table part))
    {x : Option (Table Key Value)} (plain : (plainTable? v).run w = (.ok x, w)) :
    (tableFor? b part v).run w = (.ok x, w) := by
  rw [tableFor?, Session.run_bind_of_ok (run_seeing w _),
    Session.run_bind_of_ok (run_isUntouched untouched), simple.all]
  exact plain

/-- A declaration of which nobody has to be asked anything. -/
def SimpleItem (d : Declaration) : Prop := ∀ part t, d = .members part t → SimpleKeys t

end Tables

/-- An open builder that works as the model says, and no key in its tables has to be asked
anything. Declarations take no attributes. -/
structure Ready (w : World Workspace) (b : Ref .builder) : Prop extends Untouched w b where
  placed : w.heap.Placed b
  isOpen : w.heap.finalized b = false
  simple : ∀ part, SimpleKeys ((w.heap.body b).record.table part)
  frozen : ∀ d, w.client.isAltered (.declaration d) = false

section Items

variable {d : Ref .declaration}

theorem run_builderFor? (ready : Ready w b) (item : SimpleItem (w.heap.declarations.get d)) :
    (builderFor? d (.builder b)).run w = (.ok (some b), w) := by
  have untouched := run_isUntouched ready.toUntouched
  unfold builderFor?
  rw [Session.run_bind_of_ok (run_seeing w _)]
  cases declared : w.heap.declarations.get d with
  | parent name =>
    refine (Session.run_bind_of_ok untouched).trans ?_
    exact Session.run_pure _ _
  | members part t =>
    have table : declaredTable w.heap d = t := by rw [declaredTable, declared]
    obtain ⟨u, plain⟩ := run_plainTable?_entries (w := w) (d := d)
      (table ▸ item part t declared)
    have target := run_tableFor? ready.toUntouched (ready.simple part) plain
    refine (Session.run_bind_of_ok target).trans ?_
    exact Session.run_pure _ _

theorem run_applyDeclaration (b : Ref .builder) (d : Ref .declaration) :
    (ObjectModel.applyDeclaration b d : Prog Unit).run w =
      w.applyItem b (w.heap.declarations.get d) := by
  have seen : (look : Prog Heap).run w = (.ok w.heap, w) := Session.run_ask _ _
  rw [ObjectModel.applyDeclaration, Session.run_bind_of_ok seen]
  cases w.heap.declarations.get d with
  | parent name => exact Session.run_ask _ _
  | members part t => exact Session.run_ask _ _

/-- A valid declaration is taken by the model alone. -/
theorem run_applyDeclaration_of_fits (ready : Ready w b)
    (item : SimpleItem (w.heap.declarations.get d))
    (fits : (w.heap.declarations.get d).Fits w.heap.callable) :
    (m.applyDeclaration d (.builder b)).run w = (.ok .null,
      w.withRecord b ((w.heap.body b).record.withItems [w.heap.declarations.get d])) := by
  have taken := run_applyDeclaration (w := w) b d
  rw [World.applyItem_of_fits ready.placed.made ready.isOpen fits] at taken
  rw [applyDeclaration, Session.run_bind_of_ok (run_builderFor? ready item)]
  refine (Session.run_bind_of_ok (run_explained_of_ok taken)).trans ?_
  exact Session.run_pure _ _

theorem Ready.withItem (ready : Ready w b) {item : Declaration} (simple : SimpleItem item)
    (fits : item.Fits w.heap.callable) :
    Ready (w.withRecord b ((w.heap.body b).record.withItems [item])) b := by
  have taken := World.applyItem_of_fits ready.placed.made ready.isOpen fits
  obtain ⟨placed, -⟩ := World.placed_applyItem ready.placed item
  rw [taken] at placed
  refine ⟨⟨ready.builder, ready.definition⟩, placed, ready.isOpen, fun part => ?_, ready.frozen⟩
  rw [World.body_withRecord ready.placed, Definition.table_withItems]
  cases item with
  | parent name => exact ready.simple part
  | members part' t =>
    rw [Definition.merged, List.filterMap_cons]
    by_cases same : part' = part
    · rw [Declaration.table?, if_pos same]
      exact (ready.simple part).merge (simple part' t rfl)
    · rw [Declaration.table?, if_neg same]
      exact ready.simple part

/-- Valid declarations are taken one after the other. -/
theorem run_applyItems (ready : Ready w b) {ds : List (Ref .declaration)}
    (simple : ∀ d ∈ ds, SimpleItem (w.heap.declarations.get d))
    (fits : ∀ d ∈ ds, (w.heap.declarations.get d).Fits w.heap.callable) (rest : List Value) :
    (m.applyItems (.builder b) (ds.map Value.declaration ++ rest)).run w =
      (m.applyItems (.builder b) rest).run (w.withRecord b
        ((w.heap.body b).record.withItems (ds.map w.heap.declarations.get))) := by
  induction ds generalizing w with
  | nil => rw [List.map_nil, List.map_nil, Definition.withItems_nil, World.withRecord_self]; rfl
  | cons d ds ih =>
    obtain ⟨simple, simpleRest⟩ := List.forall_mem_cons.mp simple
    obtain ⟨fits, fitsRest⟩ := List.forall_mem_cons.mp fits
    have first : (m.operate m.declarationOperations (.declaration d) "apply" [.builder b]).run w =
        (.ok .null,
          w.withRecord b ((w.heap.body b).record.withItems [w.heap.declarations.get d])) :=
      (run_operate rfl (ready.frozen d)).trans (run_applyDeclaration_of_fits ready simple fits)
    have ready' := ready.withItem simple fits
    have rest' := ih ready' simpleRest fitsRest
    rw [World.body_withRecord ready.placed, World.withRecord_withRecord,
      ← Definition.withItems_append] at rest'
    rw [List.map_cons, List.cons_append, applyItems, Session.run_bind_of_ok first]
    exact rest'

end Items

end ObjectModel.Script.Machine
