import ObjectModel.Proofs.CatalogMaps
import ObjectModel.Script.Evaluation

/-!
# Asking a catalog

What scripts are told by a catalog that was not altered is what the catalog holds: its names, their
number, and the class objects that the names stand for. A name may be any value that has a code, as
keys have. A name that is no text was never registered, and a value that has no code is no name.
-/

namespace ObjectModel.Script

namespace Dict

/-- What holds of all entries of a dictionary. -/
def All (P : Entry → Prop) (d : Dict) : Prop := ∀ e, some e ∈ d.slots → P e

variable {P : Entry → Prop} {d : Dict} {e : Entry}

theorem All.append (all : d.All P) (he : P e) : (d.append e).All P := by
  intro e' there
  change some e' ∈ d.slots.push (some e) at there
  rcases Array.mem_push.mp there with old | new
  · exact all e' old
  · cases new
    exact he

theorem All.foldl_append {es : List Entry} (all : d.All P) (hes : ∀ e ∈ es, P e) :
    (es.foldl Dict.append d).All P := by
  induction es generalizing d with
  | nil => exact all
  | cons e es ih =>
    obtain ⟨he, hes⟩ := List.forall_mem_cons.mp hes
    exact ih (all.append he) hes

theorem All.grown (all : d.All P) (isText : Bool) : (d.grown isText).All P := by
  refine All.foldl_append (fun e there => ?_) (fun e there => ?_)
  · simp [withCapacity] at there
  · obtain ⟨slot, kept, rfl⟩ := List.mem_filterMap.mp there
    exact all e (Array.mem_toList_iff.mp kept)

theorem All.push (all : d.All P) (he : P e) : (d.push e).All P := by
  have readied : (d.readied e.key).All P := by
    unfold Dict.readied
    split
    · exact all
    · split
      · exact all
      · exact all.grown _
    · exact all
  simp only [Dict.push]
  split
  · exact (readied.grown _).append he
  · exact readied.append he

theorem all_ofEntries {es : List Entry} (hes : ∀ e ∈ es, P e) : (ofEntries es).All P := by
  have push {d : Dict} (all : d.All P) : (es.foldl Dict.push d).All P := by
    induction es generalizing d with
    | nil => exact all
    | cons e es ih =>
      obtain ⟨he, hes⟩ := List.forall_mem_cons.mp hes
      exact ih hes (all.push he)
  exact push (fun e there => by simp [empty] at there)

/-- A code that no entry has does not come up in any search. -/
theorem candidateFrom?_eq_none {code : Int} (other : d.All (fun e => e.code ≠ code))
    (steps : Nat) (p : Probe) : d.candidateFrom? code steps p = none := by
  fun_induction candidateFrom? d code steps p with
  | case1 | case2 => rfl
  | case3 _ _ _ _ ih | case5 _ _ _ _ _ _ _ _ ih | case6 _ _ _ _ _ _ ih => exact ih
  | case4 steps p next i cell e there same =>
    have held : some e ∈ d.slots :=
      Array.mem_of_getElem? (Option.join_eq_some_iff.mp there)
    exact absurd same (other e held)

end Dict

/-- The entries of the table of the classes of a catalog, once a script has it. -/
def classEntries (h : Heap) (k : Ref .catalog) : List Entry :=
  ((h.catalogs.get k).classes.entries.map (fun e => (e.1, Value.cls e.2))).map (fun e =>
    ⟨KeyCode.ofText e.1, .text e.1, e.2⟩)

/-- The world in which a script has been given the table of the classes of a catalog. -/
def handedOver (w : World Workspace) (k : Ref .catalog) : World Workspace :=
  let table := Dict.ofEntries (classEntries w.heap k)
  let filled : Workspace := { w.client with dicts := w.client.dicts.push table }
  let given := (filled.givenTo (.catalog k)).insert "_classes" (.dict w.client.dicts.next)
  { w with client := filled.setGiven (.catalog k) given }

namespace Machine

/-- What a machine tells at once when it is asked for the code of a value. -/
def Codes (m : Machine) (w : World Workspace) (v : Value) (r : Except Fault Int) : Prop :=
  ∀ next : Except Fault Int → Program Workspace Form, (m.code v next).run w = (next r).run w

/-- Neither the class of a name nor its definition is found: both come to `p` in the world `u`. -/
structure Misses (m : Machine) (w : World Workspace) (k : Ref .catalog) (name : Value)
    (p : Prog Value) (u : World Workspace) : Prop where
  findClass : ∀ next, (m.findClass k name next).run w = (p next).run u
  lookup : ∀ next, (m.lookup k name next).run w = (p next).run u

theorem givenTo_eq_empty {c : Workspace} {v : Value} (unaltered : c.isAltered v = false) :
    c.givenTo v = .empty := by
  simp only [Workspace.isAltered, Bool.or_eq_false_iff, Bool.not_eq_false',
    List.isEmpty_iff] at unaltered
  exact congrArg Table.mk unaltered.1

theorem hasLost_eq_false {c : Workspace} {v : Value} (unaltered : c.isAltered v = false)
    (name : String) : c.hasLost v name = false := by
  simp only [Workspace.isAltered, Bool.or_eq_false_iff, List.any_eq_false] at unaltered
  simp only [Workspace.hasLost, List.contains_eq_mem, decide_eq_false_iff_not]
  intro lost
  simpa using unaltered.2 _ lost

variable {w u : World Workspace} {k : Ref .catalog} {c : Ref .cls} {name : Value} {α β : Type}

theorem run_viewing_bind (f : Workspace → β) (g : β → Prog α)
    (next : Except Fault α → Program Workspace Form) :
    ((viewing f >>= g) next).run w = (g (f w.client) next).run w := rfl

theorem run_seeTable_bind (r : Ref .dict) (f : Dict → β) (g : β → Prog α)
    (next : Except Fault α → Program Workspace Form) :
    ((seeTable (.own r) f >>= g) next).run w = (g (f (w.client.dicts.get r)) next).run w := rfl

theorem run_standIn?_bind (g : Option Value → Prog α)
    (next : Except Fault α → Program Workspace Form) :
    ((standIn? c >>= g) next).run w =
      (g (w.client.standInFor? (classEntry w.heap c)) next).run w := rfl

/-- A search comes to nothing where no entry is a candidate. -/
theorem run_searchFrom_of_missing (m : Machine) {r : Ref .dict} {code : Int}
    {p : Option Dict.Probe} (missing : (w.client.dicts.get r).candidate? code p = none)
    (generation steps : Nat) (next : Except Fault Search → Program Workspace Form) :
    (m.searchFrom (.own r) code name generation (steps + 1) p next).run w =
      (next (.ok .missing)).run w := by
  rw [searchFrom, run_seeTable_bind, missing]
  rfl

/-- A key whose code no entry has is at no place. -/
theorem run_findPlace_of_other_code (m : Machine) {r : Ref .dict} {code : Int}
    (other : (w.client.dicts.get r).All (fun e => e.code ≠ code))
    (next : Except Fault (Option Nat) → Program Workspace Form) :
    (m.findPlace (.own r) code name next).run w = (next (.ok none)).run w := by
  obtain ⟨steps, bound⟩ := Nat.exists_eq_succ_of_ne_zero (show loopBound ≠ 0 by decide)
  have missing : (w.client.dicts.get r).candidate? code none = none :=
    Dict.candidateFrom?_eq_none other _ _
  rw [findPlace, bound, findWithin, bound, run_seeTable_bind]
  exact m.run_searchFrom_of_missing missing _ steps _

/-- The definition that a class keeps is its own, if nothing stands in for it. -/
theorem run_slot_definition (same : w.client.isAltered (.cls c) = false)
    (own : w.client.standInFor? (classEntry w.heap c) = none)
    (next : Except Fault Value → Program Workspace Form) :
    (slot (.cls c) "_definition" next).run w =
      (next (.ok (.definition (w.heap.classes.get c).definition))).run w := by
  have kept : (classDefinition c next).run w =
      (next (.ok (.definition (w.heap.classes.get c).definition))).run w := by
    rw [classDefinition, run_standIn?_bind, own]
    rfl
  rw [slot, run_viewing_bind, givenTo_eq_empty same, Table.find?_empty]
  refine Eq.trans ?_ kept
  change ((viewing (fun c' => c'.hasLost (.cls c) "_definition") >>= _) _).run w = _
  rw [run_viewing_bind, hasLost_eq_false same]
  rfl

theorem run_newException (w : World Workspace) (kind : ErrorKind) (args : Array Value)
    (isTold : Bool) : ∃ r u, u.heap = w.heap ∧
      ∀ next : Except Fault (Ref .exception) → Program Workspace Form,
        (newException kind args isTold next).run w = (next (.ok r)).run u := by
  let filled : Workspace := { w.client with tuples := w.client.tuples.push args }
  exact ⟨w.client.exceptions.next,
    { w with client := { filled with
      exceptions := filled.exceptions.push ⟨kind, w.client.tuples.next, isTold, _⟩ } },
    rfl, fun _ => rfl⟩

/-- A code that no registered name has is none of the codes in the table that is handed over. -/
theorem other_code_handedOver {code : Int}
    (other : ∀ s ∈ w.heap.names k, KeyCode.ofText s ≠ code) :
    ((handedOver w k).client.dicts.get w.client.dicts.next).All (fun e => e.code ≠ code) := by
  have table : (handedOver w k).client.dicts.get w.client.dicts.next =
      Dict.ofEntries (classEntries w.heap k) := Store.get_push_next _ _
  rw [table]
  refine Dict.all_ofEntries (fun e he => ?_)
  simp only [classEntries, List.mem_map, exists_exists_and_eq_and] at he
  obtain ⟨entry, there, rfl⟩ := he
  exact other entry.1 (List.mem_map_of_mem there)

theorem isNamedPlainly_of_simple {r : Definition} (simple : isSimpleDefinition r = true) :
    isNamedPlainly r = true := by
  have plain (v : Value) (text : v.isText = true) : (v.keyKind != .asked) = true := by
    cases v <;> first | rfl | cases text
  simp only [isSimpleDefinition, Bool.and_eq_true, Bool.or_eq_true, decide_eq_true_eq] at simple
  obtain ⟨⟨name, parent⟩, -⟩ := simple
  rw [isNamedPlainly, plain _ name, Bool.true_and]
  rcases parent with root | text
  · rw [root]
    rfl
  · exact plain _ text

section Unaltered

variable (m : Machine) (unaltered : w.client.isAltered (.catalog k) = false)

include unaltered

theorem run_holder_bind (f : Value → Prog α) (next : Except Fault α → Program Workspace Form) :
    ((m.holder (.catalog k) >>= f) next).run w = (f (.catalog k) next).run w := by
  change ((if w.client.isAltered (.catalog k) = true then m.read (.catalog k) "_classes"
    else pure (.catalog k)) _).run w = _
  rw [unaltered]
  rfl

theorem run_holderFor_bind (plain : isPlainKey name = true) (f : Value → Prog α)
    (next : Except Fault α → Program Workspace Form) :
    ((m.holderFor (.catalog k) name >>= f) next).run w = (f (.catalog k) next).run w := by
  change ((if (isPlainKey name && !w.client.isAltered (.catalog k)) = true then pure (.catalog k)
    else m.read (.catalog k) "_classes") _).run w = _
  rw [unaltered, plain]
  rfl

theorem run_registered? (plain : isPlainKey name = true)
    (next : Except Fault (Option Value) → Program Workspace Form) :
    (m.registered? k name next).run w =
      (next (.ok ((w.heap.importClass k name).toOption.map .cls))).run w :=
  m.run_holderFor_bind unaltered plain _ next

theorem run_findClass_of_ok (plain : isPlainKey name = true)
    (found : w.heap.importClass k name = .ok c)
    (next : Except Fault Value → Program Workspace Form) :
    (m.findClass k name next).run w = (next (.ok (.cls c))).run w := by
  refine (m.run_registered? unaltered plain _).trans ?_
  rw [found]
  rfl

/-- Nothing was given to the catalog in place of its own operation. -/
theorem run_lookup (next : Except Fault Value → Program Workspace Form) :
    (m.lookup k name next).run w =
      ((m.findClass k name >>= fun c => slot c "_definition") next).run w := by
  change ((if (w.client.givenTo (.catalog k)).contains "import_class" = true then
    m.callMember (.catalog k) "import_class" [name] else m.findClass k name) _).run w = _
  rw [givenTo_eq_empty unaltered]
  rfl

/-- What is not found as a class is not found as a definition. -/
theorem misses_of_findClass {p : Prog Value}
    (fails : ∀ (f : Value → Prog Value) next, ((p >>= f) next).run u = (p next).run u)
    (findClass : ∀ next, (m.findClass k name next).run w = (p next).run u) :
    m.Misses w k name p u where
  findClass := findClass
  lookup next := (m.run_lookup unaltered next).trans ((findClass _).trans (fails _ next))

theorem misses_of_error (plain : isPlainKey name = true) {e : Fault}
    (failed : w.heap.importClass k name = .error e) :
    m.Misses w k name (m.refuse (.undefinedClass name)) w := by
  refine m.misses_of_findClass unaltered (fun _ _ => rfl) (fun next => ?_)
  refine (m.run_registered? unaltered plain _).trans ?_
  rw [failed]
  rfl

/-- To read the table of the classes hands it over. -/
theorem run_readStep_classes (next : Except Fault Value → Program Workspace Form) :
    (m.readStep (.catalog k) "_classes" next).run w =
      (next (.ok (.dict w.client.dicts.next))).run (handedOver w k) := by
  change (plainAttribute (.catalog k) "_classes" _).run w = _
  simp only [plainAttribute, run_viewing_bind, givenTo_eq_empty unaltered, Table.find?_empty,
    hasLost_eq_false unaltered]
  rfl

/-- A name that is not compared without asking is looked up in the table of the classes. -/
theorem run_holderFor_asking (n : Nat) (strange : isPlainKey name = false) (f : Value → Prog α)
    (next : Except Fault α → Program Workspace Form) :
    (((ofDepth (n + 1)).holderFor (.catalog k) name >>= f) next).run w =
      (f (.dict w.client.dicts.next) next).run (handedOver w k) := by
  change ((if (isPlainKey name && !w.client.isAltered (.catalog k)) = true then pure (.catalog k)
    else (ofDepth n).readStep (.catalog k) "_classes") _).run w = _
  rw [strange]
  exact (ofDepth n).run_readStep_classes unaltered _

/-- The fault of a name that has no code is the fault of the look-up. -/
theorem misses_of_no_code {n : Nat} (strange : isPlainKey name = false) {e : Fault}
    (other : (e.isCatchable && e.kind.isA .keyError) = false)
    (noCode : (ofDepth (n + 1)).Codes (handedOver w k) name (.error e)) :
    (ofDepth (n + 1)).Misses w k name (throw e) (handedOver w k) := by
  refine misses_of_findClass _ unaltered (fun _ _ => rfl) (fun next => ?_)
  refine (run_holderFor_asking unaltered n strange _ _).trans ((noCode _).trans ?_)
  change ((if (e.isCatchable && e.kind.isA .keyError) = true then pure none
    else throw e : Prog (Option Value)) _).run (handedOver w k) = _
  rw [other]
  rfl

/-- A name whose code no registered name has is not found. -/
theorem misses_of_code {n : Nat} (strange : isPlainKey name = false) {code : Int}
    (coded : (ofDepth (n + 1)).Codes (handedOver w k) name (.ok code))
    (other : ∀ s ∈ w.heap.names k, KeyCode.ofText s ≠ code) :
    ∃ u, u.heap = w.heap ∧ (ofDepth (n + 1)).Misses w k name
      ((ofDepth (n + 1)).refuse (.undefinedClass name)) u := by
  obtain ⟨r, u, same, made⟩ := run_newException (handedOver w k) .keyError #[name] false
  refine ⟨u, same, misses_of_findClass _ unaltered (fun _ _ => rfl) (fun next => ?_)⟩
  refine (run_holderFor_asking unaltered n strange _ _).trans ((coded _).trans ?_)
  exact (run_findPlace_of_other_code _ (other_code_handedOver other) _).trans (made _)

/-- A name whose code no registered name has is not in the catalog, and the fault of a name that has no
code is the fault of asking for it. -/
theorem run_contained_of_code {n : Nat} (strange : isPlainKey name = false) {r : Except Fault Int}
    (coded : (ofDepth (n + 1)).Codes (handedOver w k) name r)
    (other : ∀ code, r = .ok code → ∀ s ∈ w.heap.names k, KeyCode.ofText s ≠ code)
    (next : Except Fault Bool → Program Workspace Form) :
    ((ofDepth (n + 1)).contained name (.catalog k) next).run w =
      (next (r.map (fun _ => false))).run (handedOver w k) := by
  refine (run_holderFor_asking unaltered n strange _ _).trans ((coded _).trans ?_)
  cases r with
  | error e => rfl
  | ok code =>
    exact run_findPlace_of_other_code _ (other_code_handedOver (other code rfl)) _

/-- The definition of a class is found by the name of the class, if nothing stands in for it. -/
theorem run_lookup_of_ok (plain : isPlainKey name = true)
    (found : w.heap.importClass k name = .ok c) (same : w.client.isAltered (.cls c) = false)
    (own : w.client.standInFor? (classEntry w.heap c) = none)
    (next : Except Fault Value → Program Workspace Form) :
    (m.lookup k name next).run w =
      (next (.ok (.definition (w.heap.classes.get c).definition))).run w := by
  refine (m.run_lookup unaltered next).trans ?_
  exact (m.run_findClass_of_ok unaltered plain found _).trans (run_slot_definition same own next)

/-- Where nothing stands in for a definition, a lineage is what the model says. -/
theorem run_lineageIn (d : Ref .definition)
    (simple : isSimpleDefinition (w.heap.definition d) = true)
    (same : w.client.isAltered (.definition d) = false)
    (plain : ∀ e ∈ (w.heap.catalogs.get k).classes.entries,
      w.client.standInFor? (classEntry w.heap e.2) = none ∧ w.client.isAltered (.cls e.2) = false)
    (next : Except Fault (Array Value) → Program Workspace Form) :
    (m.lineageIn k (.definition d) next).run w =
      ((m.settled (w.heap.lineage k d) >>= fun ds => pure (ds.map Value.definition).toArray)
        next).run w := by
  have classes : ((w.heap.catalogs.get k).classes.entries.map (fun e => classEntry w.heap e.2)).all
      (fun e => (w.client.standInFor? e).isNone && !w.client.isAltered (.cls e.cls)) = true := by
    refine List.all_eq_true.mpr (fun e he => ?_)
    obtain ⟨entry, there, rfl⟩ := List.mem_map.mp he
    have unaltered : w.client.isAltered (.cls (classEntry w.heap entry.2).cls) = false :=
      (plain entry there).2
    rw [(plain entry there).1, unaltered]
    rfl
  change ((if (isNamedPlainly (w.heap.definition d) && !w.client.isAltered (.definition d) &&
    (!w.client.isAltered (.catalog k) && _)) = true then _ else m.lineageByAsking k _) next).run w = _
  rw [isNamedPlainly_of_simple simple, same, unaltered, classes]
  rfl

end Unaltered

/-- What a machine is told by a catalog that was not altered. -/
structure Answers (m : Machine) (w : World Workspace) (k : Ref .catalog) : Prop where
  names : ∀ next, (m.names k next).run w =
    (newList ((w.heap.names k).map Value.text).toArray next).run w
  length : ∀ next, (m.length (.catalog k) next).run w = (next (.ok (w.heap.names k).length)).run w
  contained : ∀ name next, isPlainKey name = true →
    (m.contained name (.catalog k) next).run w =
      (next (.ok (decide (name ∈ (w.heap.names k).map Value.text)))).run w
  findClass : ∀ s c next, w.heap.importClass k (.text s) = .ok c →
    (m.findClass k (.text s) next).run w = (next (.ok (.cls c))).run w
  lookup : ∀ s c next, w.heap.importClass k (.text s) = .ok c →
    w.client.isAltered (.cls c) = false → w.client.standInFor? (classEntry w.heap c) = none →
    (m.lookup k (.text s) next).run w =
      (next (.ok (.definition (w.heap.classes.get c).definition))).run w
  lineage : ∀ d next, isSimpleDefinition (w.heap.definition d) = true →
    w.client.isAltered (.definition d) = false →
    (∀ e ∈ (w.heap.catalogs.get k).classes.entries,
      w.client.standInFor? (classEntry w.heap e.2) = none ∧
        w.client.isAltered (.cls e.2) = false) →
    (m.lineageIn k (.definition d) next).run w =
      ((m.settled (w.heap.lineage k d) >>= fun ds => pure (ds.map Value.definition).toArray)
        next).run w
  /-- A name that is no registered text is not found. -/
  undefined : ∀ name, isPlainKey name = true → name ∉ (w.heap.names k).map Value.text →
    m.Misses w k name (m.refuse (.undefinedClass name)) w
  /-- A name that has to be asked for its code is not found if it has a code of its own. -/
  undefined_of_code : ∀ name code, isPlainKey name = false →
    m.Codes (handedOver w k) name (.ok code) → (∀ s ∈ w.heap.names k, KeyCode.ofText s ≠ code) →
    ∃ u, u.heap = w.heap ∧ m.Misses w k name (m.refuse (.undefinedClass name)) u
  /-- A name that has to be asked for its code is not contained if it has a code of its own. -/
  contained_of_code : ∀ name r next, isPlainKey name = false → m.Codes (handedOver w k) name r →
    (∀ code, r = .ok code → ∀ s ∈ w.heap.names k, KeyCode.ofText s ≠ code) →
    (m.contained name (.catalog k) next).run w =
      (next (r.map (fun _ => false))).run (handedOver w k)
  /-- The fault of a value that has no code is passed on. -/
  unhashable : ∀ name e, isPlainKey name = false → (e.isCatchable && e.kind.isA .keyError) = false →
    m.Codes (handedOver w k) name (.error e) → m.Misses w k name (throw e) (handedOver w k)

theorem answers (unaltered : w.client.isAltered (.catalog k) = false) (n : Nat) :
    (ofDepth (n + 1)).Answers w k where
  names := (ofDepth (n + 1)).run_holder_bind unaltered _
  length next := by
    refine ((ofDepth (n + 1)).run_holder_bind unaltered _ next).trans ?_
    rw [Heap.names, Table.keys, List.length_map]
    rfl
  contained name next plain := by
    refine ((ofDepth (n + 1)).run_holderFor_bind unaltered plain _ next).trans ?_
    change (next (.ok (w.heap.importClass k name).isOk)).run w = _
    have known : (w.heap.importClass k name).isOk =
        decide (name ∈ (w.heap.names k).map Value.text) :=
      Bool.eq_iff_iff.mpr (Heap.isOk_importClass.trans decide_eq_true_iff.symm)
    rw [known]
  findClass s c next found := run_findClass_of_ok _ unaltered rfl found next
  lookup s c next found same own := run_lookup_of_ok _ unaltered rfl found same own next
  lineage d next simple same plain := run_lineageIn _ unaltered d simple same plain next
  undefined name plain new := by
    cases failed : w.heap.importClass k name with
    | ok c => exact absurd (Heap.isOk_importClass.mp (by rw [failed]; rfl)) new
    | error e => exact misses_of_error _ unaltered plain failed
  undefined_of_code name code strange := misses_of_code unaltered strange
  contained_of_code name r next strange coded other :=
    run_contained_of_code unaltered strange coded other next
  unhashable name e strange := misses_of_no_code unaltered strange

end Machine

end ObjectModel.Script
