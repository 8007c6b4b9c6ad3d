import ObjectModel.Proofs.BodySteps

/-!
# What a class body comes to

The definition that comes of a class body is told by its items alone. The parent is that of the last
item that names one, and each section is the merge of the tables given for it, in their order. How
the items are spread over calls, and how items of different sections are mixed, makes no difference.
-/

namespace ObjectModel

namespace Declaration

/-- What makes a declaration valid: its table is fit for its section. -/
def Fits (callable : Value → Bool) : Declaration → Prop
  | .parent _ => True
  | .members part t => part.check callable t = .ok ()

/-- The name of the parent class, if the declaration gives one. -/
def parent? : Declaration → Option Value
  | .parent name => some name
  | .members _ _ => none

/-- The table for a section, if the declaration gives one. -/
def table? (part : Section) : Declaration → Option (Table Key Value)
  | .parent _ => none
  | .members part' t => if part' = part then some t else none

end Declaration

namespace Definition

open Declaration (parent? table?)

/-- A section with the tables that some items give for it merged in, in their order. -/
def merged (r : Definition) (ds : List Declaration) (part : Section) : Table Key Value :=
  (ds.filterMap (table? part)).foldl Table.merge (r.table part)

/-- A definition with all that some items say. -/
def withItems (r : Definition) (ds : List Declaration) : Definition where
  name := r.name
  parent := (ds.filterMap parent?).getLast?.getD r.parent
  statics := r.merged ds .statics
  privates := r.merged ds .privates
  publics := r.merged ds .publics
  operators := r.merged ds .operators

variable {r : Definition} {ds ds' : List Declaration}

@[simp] theorem table_withItems (part : Section) :
    (r.withItems ds).table part = r.merged ds part := by
  cases part <;> rfl

@[simp] theorem withItems_nil : r.withItems [] = r := rfl

theorem withItems_append : r.withItems (ds ++ ds') = (r.withItems ds).withItems ds' := by
  have tables (part : Section) : r.merged (ds ++ ds') part = (r.withItems ds).merged ds' part := by
    rw [merged, merged, List.filterMap_append, List.foldl_append, table_withItems, merged]
  have parent : ((ds ++ ds').filterMap parent?).getLast?.getD r.parent =
      (ds'.filterMap parent?).getLast?.getD (r.withItems ds).parent := by
    rw [List.filterMap_append, List.getLast?_append, withItems]
    cases (ds'.filterMap parent?).getLast? <;> rfl
  simp only [withItems, tables, parent]

theorem withItems_members (part : Section) (t : Table Key Value) :
    r.withItems [.members part t] = r.extend part t := by
  cases part <;> rfl

/-- A section without its definition: the entries that were given for it, in their order. -/
def entriesFor (part : Section) (ds : List Declaration) : List (Key × Value) :=
  (ds.filterMap (table? part)).flatMap Table.entries

theorem merged_eq_ofList {part : Section} (empty : r.table part = .empty) :
    r.merged ds part = .ofList (entriesFor part ds) := by
  rw [merged, empty, Table.ofList, Table.merge, entriesFor, List.foldl_flatMap]
  rfl

end Definition

/-- A valid item makes of a definition what it says. -/
theorem Declaration.edit_of_fits {callable : Value → Bool} {d : Declaration}
    (fits : d.Fits callable) (r : Definition) : d.edit callable r = .ok (r.withItems [d]) := by
  cases d with
  | parent name => rfl
  | members part t =>
    have fit : part.check callable t = .ok () := fits
    rw [edit, fit, Definition.withItems_members]
    rfl

namespace BodyOp

/-- The items that an operation applies to its builder. -/
def items (declared : Ref .declaration → Declaration) : BodyOp → List Declaration
  | .extend name => [.parent name]
  | .members part t => [.members part t]
  | .apply ds | .build ds => ds.map declared
  | .finalize => []

/-- Whether an operation closes its builder. -/
def closes : BodyOp → Bool
  | .finalize | .build _ => true
  | _ => false

/-- Do some operations one after the other, until one of them fails. -/
def doAll {σ : Type} (client : Client (Program σ)) (b : Ref .builder) :
    List BodyOp → Program σ Unit
  | [] => return ()
  | op :: ops => do
    op.program client b
    doAll client b ops

end BodyOp

namespace Body

variable {callable : Value → Bool} {declared : Ref .declaration → Declaration}
  {text : Definition → Except Fault String} {x : Body}

theorem applyItem_of_fits (isOpen : x.closed = false) {d : Declaration} (fits : d.Fits callable) :
    x.applyItem callable d = (.ok (), { x with record := x.record.withItems [d] }) := by
  rw [applyItem, isOpen, Declaration.edit_of_fits fits]
  rfl

theorem applyAll_of_fits (isOpen : x.closed = false) {ds : List (Ref .declaration)}
    (fits : ∀ d ∈ ds.map declared, d.Fits callable) :
    x.applyAll callable declared ds =
      (.ok (), { x with record := x.record.withItems (ds.map declared) }) := by
  induction ds generalizing x with
  | nil => rfl
  | cons d ds ih =>
    obtain ⟨first, rest⟩ := List.forall_mem_cons.mp fits
    have later := ih (x := { x with record := x.record.withItems [declared d] }) isOpen rest
    rw [applyAll, applyItem_of_fits isOpen first]
    simp only
    rw [later, ← Definition.withItems_append]
    rfl

/-- An operation with valid items adds what they say, and then closes the class body if it is one
that closes. -/
theorem step_of_fits (isOpen : x.closed = false) {op : BodyOp}
    (fits : ∀ d ∈ op.items declared, d.Fits callable) :
    x.step callable declared text op =
      let r := x.record.withItems (op.items declared)
      (if op.closes then registration text r else .ok (), ⟨r, op.closes⟩) := by
  have close {y : Body} (isOpen : y.closed = false) :
      y.finalize text = (registration text y.record, ⟨y.record, true⟩) := by
    rw [finalize, isOpen]
    rfl
  obtain ⟨r, closed⟩ := x
  obtain rfl : closed = false := isOpen
  cases op with
  | extend name => exact applyItem_of_fits rfl (fits _ (List.mem_singleton_self _))
  | members part t => exact applyItem_of_fits rfl (fits _ (List.mem_singleton_self _))
  | apply ds => exact applyAll_of_fits rfl fits
  | finalize => exact close rfl
  | build ds =>
    rw [step, applyAll_of_fits rfl fits]
    exact close rfl

end Body

namespace World

variable {σ : Type} {w : World σ} {b : Ref .builder} {ops : List BodyOp}

/-- The items that some operations apply. -/
def items (w : World σ) (ops : List BodyOp) : List Declaration :=
  ops.flatMap (BodyOp.items w.heap.declarations.get)

/-- A whole class body: a builder without any items so far, and what is done with it, of which only
the last closes it. All items are valid. -/
structure Composes (w : World σ) (b : Ref .builder) (name : Value) (ops : List BodyOp) : Prop where
  reachable : w.Reachable
  made : w.heap.builders.contains b = true
  fresh : w.heap.body b = ⟨.named name, false⟩
  ends : ∃ before last, ops = before ++ [last] ∧ (∀ op ∈ before, op.closes = false) ∧
    last.closes = true
  fits : ∀ d ∈ w.items ops, d.Fits w.heap.callable

/-- The world in which a builder has another record. -/
def withRecord (w : World σ) (b : Ref .builder) (r : Definition) : World σ :=
  w.setHeap (w.heap.setDefinition (w.heap.builderDefinition b) r)

theorem withRecord_self (w : World σ) (b : Ref .builder) :
    w.withRecord b (w.heap.body b).record = w :=
  congrArg (fun s => w.setHeap { w.heap with definitions := s }) (Store.set_get _ _)

theorem withRecord_withRecord (w : World σ) (b : Ref .builder) (r r' : Definition) :
    (w.withRecord b r).withRecord b r' = w.withRecord b r' := by
  have twice := Store.set_set w.heap.definitions (w.heap.builderDefinition b) r r'
  exact congrArg (fun s => w.setHeap { w.heap with definitions := s }) twice

theorem body_withRecord (placed : w.heap.Placed b) (r : Definition) :
    (w.withRecord b r).heap.body b = ⟨r, w.heap.finalized b⟩ :=
  congrArg (Body.mk · (w.heap.finalized b)) (Store.get_set_self placed.owned r)

/-- A valid item is taken by an open builder. -/
theorem applyItem_of_fits (made : w.heap.builders.contains b = true)
    (isOpen : w.heap.finalized b = false) {d : Declaration} (fits : d.Fits w.heap.callable) :
    w.applyItem b d = (.ok (), w.withRecord b ((w.heap.body b).record.withItems [d])) := by
  have edit := Declaration.edit_of_fits fits (w.heap.definition (w.heap.builderDefinition b))
  simp only [applyItem, made, Heap.editOpen, isOpen, edit]
  rfl

variable (call : Value → Arguments → Program σ Value) (spoken : Value → Program σ String)
  (text : Definition → Except Fault String)

theorem placed_bodyOp (placed : w.heap.Placed b) (op : BodyOp) :
    ((op.program (.describing call spoken text) b).run w).2.heap.Placed b ∧
      w.heap.SameSetting ((op.program (.describing call spoken text) b).run w).2.heap := by
  have keeps := (BodyOp.each_program call spoken text (b := b) placed.built op).mono
    (fun _ _ of => of.keeps)
  rw [← Program.after_trace]
  exact ⟨placed_after placed _, keeps.sameSetting placed.built placed.layered⟩

/-- An operation with valid items, on a class body that is open. -/
theorem run_bodyOp_of_fits (placed : w.heap.Placed b) (isOpen : (w.heap.body b).closed = false)
    {op : BodyOp} (fits : ∀ d ∈ op.items w.heap.declarations.get, d.Fits w.heap.callable) :
    let done := (op.program (.describing call spoken text) b).run w
    let r := (w.heap.body b).record.withItems (op.items w.heap.declarations.get)
    done.1 = (if op.closes then Body.registration text r else .ok ()) ∧
      done.2.heap.body b = ⟨r, op.closes⟩ := by
  have run := run_bodyOp call spoken text placed op
  rwa [Body.step_of_fits isOpen fits] at run

/-- Operations that leave a class body open, and one that closes it, come to what the items say. -/
theorem run_doAll (placed : w.heap.Placed b) (isOpen : (w.heap.body b).closed = false)
    {before : List BodyOp} {last : BodyOp} (open_ : ∀ op ∈ before, op.closes = false)
    (closes : last.closes = true)
    (fits : ∀ d ∈ w.items (before ++ [last]), d.Fits w.heap.callable) :
    let done := (BodyOp.doAll (.describing call spoken text) b (before ++ [last])).run w
    let r := (w.heap.body b).record.withItems (w.items (before ++ [last]))
    done.1 = Body.registration text r ∧ done.2.heap.body b = ⟨r, true⟩ := by
  induction before generalizing w with
  | nil =>
    have only : w.items [last] = last.items w.heap.declarations.get := List.append_nil _
    rw [List.nil_append, only] at fits ⊢
    obtain ⟨outcome, body⟩ := run_bodyOp_of_fits call spoken text placed isOpen fits
    rw [closes] at outcome body
    have ended : (BodyOp.doAll (.describing call spoken text) b [last]).run w =
        (last.program (.describing call spoken text) b).run w := by
      rw [BodyOp.doAll, BodyOp.doAll, Program.run_bind]
      cases (last.program (.describing call spoken text) b).run w with
      | mk r u => cases r <;> rfl
    rw [ended]
    exact ⟨outcome, body⟩
  | cons op before ih =>
    obtain ⟨first, rest⟩ := List.forall_mem_cons.mp open_
    have parts : w.items (op :: before ++ [last]) =
        op.items w.heap.declarations.get ++ w.items (before ++ [last]) := List.flatMap_cons
    rw [parts] at fits ⊢
    obtain ⟨fits, fitsLater⟩ := List.forall_mem_append.mp fits
    obtain ⟨outcome, body⟩ := run_bodyOp_of_fits call spoken text placed isOpen fits
    obtain ⟨placed', setting⟩ := placed_bodyOp call spoken text placed op
    rw [first] at outcome body
    cases run : (op.program (.describing call spoken text) b).run w with
    | mk r w' =>
      rw [run] at outcome body placed' setting
      obtain rfl : r = .ok () := outcome
      have sameItems : w'.items (before ++ [last]) = w.items (before ++ [last]) := by
        rw [items, setting.declarations]
        rfl
      have isOpen' : (w'.heap.body b).closed = false := congrArg Body.closed body
      have later := ih placed' isOpen' rest (by rw [sameItems, setting.callable]; exact fitsLater)
      rw [sameItems, body] at later
      rw [List.cons_append, BodyOp.doAll, Program.run_bind_of_ok run, Definition.withItems_append]
      exact later

end World

/-- The definition that a whole class body leaves, however it was spread over calls: its parent is
that of the last item that names one, and each section is the merge of the tables given for it, in
their order, so that a key is at the place at which it came first and has the value it was given
last. Class bodies with the same items for each section and the same last parent come to the
same. -/
theorem classBody_contents {σ : Type} (call : Value → Arguments → Program σ Value)
    (spoken : Value → Program σ String) (text : Definition → Except Fault String)
    {w : World σ} {b : Ref .builder} {name : Value} {ops : List BodyOp}
    (composes : w.Composes b name ops) :
    let client := Client.describing call spoken text
    let done := (BodyOp.doAll client b ops).run w
    let r := (done.2.heap.body b).record
    let ds := w.items ops
    done.1 = Body.registration text r ∧ (done.2.heap.body b).closed = true ∧ r.name = name ∧
    r.parent = (ds.filterMap Declaration.parent?).getLast?.getD .null ∧
    (∀ part,
      r.table part = (ds.filterMap (Declaration.table? part)).foldl Table.merge .empty ∧
      (r.table part).keys = ((Definition.entriesFor part ds).map Prod.fst).eraseDups ∧
      ∀ key, (r.table part).find? key = (Definition.entriesFor part ds).reverse.lookup key) ∧
    ∀ (w' : World σ) (b' : Ref .builder) (ops' : List BodyOp), w'.Composes b' name ops' →
      (∀ part, (w'.items ops').filterMap (Declaration.table? part) =
        ds.filterMap (Declaration.table? part)) →
      ((w'.items ops').filterMap Declaration.parent?).getLast? =
        (ds.filterMap Declaration.parent?).getLast? →
      ((BodyOp.doAll client b' ops').run w').2.heap.body b' = done.2.heap.body b := by
  intro client done r ds
  have meaning {w : World σ} {b : Ref .builder} {ops : List BodyOp}
      (composes : w.Composes b name ops) :
      let done := (BodyOp.doAll client b ops).run w
      let r := (Definition.named name).withItems (w.items ops)
      done.1 = Body.registration text r ∧ done.2.heap.body b = ⟨r, true⟩ := by
    obtain ⟨before, last, rfl, open_, closes⟩ := composes.ends
    have isOpen : (w.heap.body b).closed = false := by rw [composes.fresh]
    have run := World.run_doAll call spoken text (composes.reachable.placed composes.made) isOpen
      open_ closes composes.fits
    rw [composes.fresh] at run
    exact run
  obtain ⟨outcome, body⟩ := meaning composes
  have record : r = (Definition.named name).withItems ds := congrArg Body.record body
  have empty (part : Section) : (Definition.named name).table part = .empty := by cases part <;> rfl
  refine ⟨by rw [record]; exact outcome, congrArg Body.closed body, by rw [record]; rfl,
    by rw [record]; rfl, fun part => ?_, fun w' b' ops' composes' sameTables sameParent => ?_⟩
  · rw [record, Definition.table_withItems]
    refine ⟨by rw [Definition.merged, empty], ?_, fun key => ?_⟩
    · rw [Definition.merged_eq_ofList (empty part), Table.keys_ofList]
    · rw [Definition.merged_eq_ofList (empty part), Table.find?_ofList]
  · obtain ⟨-, body'⟩ := meaning composes'
    rw [body', body]
    simp only [Definition.withItems, Definition.merged, sameTables, sameParent]
    rfl

namespace Program

/-- Two builders of one name, and three declarations. -/
def shapeWorld : World Unit :=
  (World.initial ()).after [
    .openBuilder Heap.defaultCatalog (.text "Shape"),
    .openBuilder Heap.defaultCatalog (.text "Shape"),
    .declare (.members .publics (.ofList [(.text "area", .function ⟨0⟩)])),
    .declare (.members .statics (.ofList [(.text "sides", .int 3), (.text "color", .null)])),
    .declare (.parent (.text "Figure"))]

/-- A class body in three calls. -/
def shapeBody : List BodyOp :=
  [ .apply [⟨0⟩, ⟨1⟩],
    .members .statics (.ofList [(.text "sides", .int 4)]),
    .build [⟨2⟩]]

/-- The same items in another order, with a parent that is not the last. -/
def mixedShapeBody : List BodyOp :=
  [ .extend (.text "Base"),
    .apply [⟨1⟩, ⟨2⟩],
    .members .statics (.ofList [(.text "sides", .int 4)]),
    .apply [⟨0⟩],
    .finalize]

theorem composes_shapeBody : shapeWorld.Composes ⟨0⟩ (.text "Shape") shapeBody where
  reachable := World.reachable_after _ _
  made := by rfl
  fresh := by rfl
  ends := ⟨shapeBody.dropLast, .build [⟨2⟩], by rfl, by decide, by rfl⟩
  fits := by
    refine List.forall_mem_cons.mpr ⟨by rfl, List.forall_mem_cons.mpr ⟨by rfl, ?_⟩⟩
    refine List.forall_mem_cons.mpr ⟨by rfl, List.forall_mem_cons.mpr ⟨trivial, ?_⟩⟩
    exact List.forall_mem_nil _

theorem composes_mixedShapeBody : shapeWorld.Composes ⟨1⟩ (.text "Shape") mixedShapeBody where
  reachable := World.reachable_after _ _
  made := by rfl
  fresh := by rfl
  ends := ⟨mixedShapeBody.dropLast, .finalize, by rfl, by decide, by rfl⟩
  fits := by
    refine List.forall_mem_cons.mpr ⟨trivial, List.forall_mem_cons.mpr ⟨by rfl, ?_⟩⟩
    refine List.forall_mem_cons.mpr ⟨trivial, List.forall_mem_cons.mpr ⟨by rfl, ?_⟩⟩
    exact List.forall_mem_cons.mpr ⟨by rfl, List.forall_mem_nil _⟩

end Program

theorem classBody_contents_shape :
    Program.shapeWorld.Composes ⟨0⟩ (.text "Shape") Program.shapeBody ∧
    Program.shapeWorld.Composes ⟨1⟩ (.text "Shape") Program.mixedShapeBody ∧
    ((BodyOp.doAll Program.silentClient ⟨1⟩ Program.mixedShapeBody).run
        Program.shapeWorld).2.heap.body ⟨1⟩ =
      ((BodyOp.doAll Program.silentClient ⟨0⟩ Program.shapeBody).run
        Program.shapeWorld).2.heap.body ⟨0⟩ ∧
    (((BodyOp.doAll Program.silentClient ⟨0⟩ Program.shapeBody).run
        Program.shapeWorld).2.heap.body ⟨0⟩).record.statics =
      .ofList [(.text "sides", .int 4), (.text "color", .null)] := by
  obtain ⟨-, -, -, -, tables, same⟩ := classBody_contents _ _ _ Program.composes_shapeBody
  refine ⟨Program.composes_shapeBody, Program.composes_mixedShapeBody, ?_, (tables .statics).1⟩
  exact same _ _ _ Program.composes_mixedShapeBody (fun part => by cases part <;> rfl) rfl

end ObjectModel
