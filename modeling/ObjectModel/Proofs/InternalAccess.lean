import ObjectModel.Proofs.SharedStatics

/-!
# Writes and deletes from inside

What a private state answers depends on its own definition and on the fields of its own layer. A write
from inside goes to the static members if the class declares the name as one, and to the fields
otherwise, while a read asks for methods first. So a write is seen by the reads of one name, through
all states of one definition or through one state alone, and not at all if the name is that of a
method. All other reads give what they gave before.
-/

namespace ObjectModel

namespace Definition

/-- The name of a method, whether private or public. -/
def isMethod (d : Definition) (key : Key) : Bool := d.isPrivate key || d.isPublic key

/-- What a state with this definition and these fields gives when it is read from inside. -/
def readWith (d : Definition) (fields : Table String Value) (s : Ref .state) (key : String) :
    Except Fault Reading :=
  match d.method? (.text key) with
  | some f => .ok (.method f s)
  | none =>
    match d.statics.find? (.text key) with
    | some v => .ok (.value v)
    | none =>
      match fields.find? key with
      | some v => .ok (.value v)
      | none => .error (.noMember d.name key)

variable {d : Definition} {fields : Table String Value} {s : Ref .state} {key j : String}

theorem method?_eq_none {k : Key} : d.method? k = none ↔ d.isMethod k = false := by
  simp only [method?, isMethod, isPrivate, isPublic, Table.contains_eq_isSome_find?]
  cases d.privates.find? k <;> simp

theorem readWith_of_field (noMethod : d.isMethod (.text key) = false)
    (undeclared : d.isStatic (.text key) = false) :
    d.readWith fields s key =
      match fields.find? key with
      | some v => .ok (.value v)
      | none => .error (.noMember d.name key) := by
  have noBody := method?_eq_none.mpr noMethod
  have noCell := (Table.find?_eq_none_iff _ _).mpr undeclared
  simp only [readWith, noBody, noCell]

/-- Where the class declares the name, the fields are not asked. -/
theorem readWith_congr {fields' : Table String Value}
    (same : d.isMethod (.text key) = false → d.isStatic (.text key) = false →
      fields'.find? key = fields.find? key) :
    d.readWith fields' s key = d.readWith fields s key := by
  cases noMethod : d.isMethod (.text key) with
  | true =>
    obtain ⟨f, body⟩ : ∃ f, d.method? (.text key) = some f := by
      rw [← Option.ne_none_iff_exists', Ne, method?_eq_none, noMethod]
      simp
    simp only [readWith, body]
  | false =>
    cases undeclared : d.isStatic (.text key) with
    | true =>
      obtain ⟨v, cell⟩ := Table.contains_iff_find?.mp undeclared
      simp only [readWith, method?_eq_none.mpr noMethod, cell]
    | false =>
      rw [readWith_of_field noMethod undeclared, readWith_of_field noMethod undeclared,
        same noMethod undeclared]

theorem readWith_setStatic (v : Value) :
    (d.setStatic (.text key) v).readWith fields s j =
      if j = key ∧ d.isMethod (.text key) = false then .ok (.value v) else d.readWith fields s j := by
  have methods : (d.setStatic (.text key) v).method? (.text j) = d.method? (.text j) := rfl
  by_cases hj : j = key
  · subst hj
    have cell : (d.setStatic (.text j) v).statics.find? (.text j) = some v := by
      rw [setStatic, Table.find?_insert, beq_self_eq_true, if_pos rfl]
    cases noMethod : d.isMethod (.text j) with
    | true =>
      obtain ⟨f, body⟩ : ∃ f, d.method? (.text j) = some f := by
        rw [← Option.ne_none_iff_exists', Ne, method?_eq_none, noMethod]
        simp
      simp [readWith, methods, body]
    | false => simp [readWith, methods, method?_eq_none.mpr noMethod, cell]
  · have apart : (Key.text key == .text j) = false := by simpa using Ne.symm hj
    have cell : (d.setStatic (.text key) v).statics.find? (.text j) = d.statics.find? (.text j) :=
      Table.find?_insert_of_ne apart _ _
    rw [if_neg (fun h => hj h.1)]
    simp only [readWith, methods, cell]
    rfl

theorem readWith_insert (v : Value) :
    d.readWith (fields.insert key v) s j =
      if j = key ∧ d.isMethod (.text key) = false ∧ d.isStatic (.text key) = false then
        .ok (.value v)
      else d.readWith fields s j := by
  split
  · rename_i seen
    obtain ⟨rfl, noMethod, undeclared⟩ := seen
    rw [readWith_of_field noMethod undeclared, Table.find?_insert, beq_self_eq_true, if_pos rfl]
  · rename_i unseen
    refine readWith_congr (fun noMethod undeclared => Table.find?_insert_of_ne ?_ _ _)
    rw [beq_eq_false_iff_ne]
    rintro rfl
    exact unseen ⟨rfl, noMethod, undeclared⟩

theorem readWith_erase :
    d.readWith (fields.erase key) s j =
      if j = key ∧ d.isMethod (.text key) = false ∧ d.isStatic (.text key) = false then
        .error (.noMember d.name key)
      else d.readWith fields s j := by
  split
  · rename_i seen
    obtain ⟨rfl, noMethod, undeclared⟩ := seen
    rw [readWith_of_field noMethod undeclared, Table.find?_erase, beq_self_eq_true, if_pos rfl]
  · rename_i unseen
    refine readWith_congr (fun noMethod undeclared => Table.find?_erase_of_ne ?_ _)
    rw [beq_eq_false_iff_ne]
    rintro rfl
    exact unseen ⟨rfl, noMethod, undeclared⟩

end Definition

namespace Heap

variable {h : Heap} {s t : Ref .state} {key j : String} {v : Value}

/-- The definition by which a private state goes. -/
def ownDefinition (h : Heap) (s : Ref .state) : Ref .definition :=
  (h.classes.get (h.stateClass s)).definition

theorem stateDefinition_eq (h : Heap) (s : Ref .state) :
    h.stateDefinition s = h.definition (h.ownDefinition s) := rfl

theorem readPrivate_eq (h : Heap) (s : Ref .state) (key : String) :
    h.readPrivate s key = (h.stateDefinition s).readWith (h.fields s) s key := rfl

theorem stateDefinition_setFields (h : Heap) (s t : Ref .state) (fields : Table String Value) :
    (h.setFields s fields).stateDefinition t = h.stateDefinition t := by
  rw [stateDefinition, stateDefinition, stateClass_setFields]
  rfl

/-- What a read from inside gives where other fields were stored in a state. -/
theorem readPrivate_setFields (made : h.states.contains s = true) (fields : Table String Value) :
    (h.setFields s fields).readPrivate t j =
      if t = s then (h.stateDefinition s).readWith fields s j else h.readPrivate t j := by
  rw [readPrivate_eq, stateDefinition_setFields, fields_setFields]
  by_cases ht : t = s
  · rw [ht, if_pos ⟨rfl, made⟩, if_pos rfl]
  · rw [if_neg (fun e => ht e.1.symm), if_neg ht, readPrivate_eq]

theorem readPrivate_setStatic {d : Ref .definition} (defined : h.definitions.contains d = true) :
    (h.setStatic d key v).readPrivate t j =
      if h.ownDefinition t = d ∧ j = key ∧ (h.definition d).isMethod (.text key) = false then
        .ok (.value v)
      else h.readPrivate t j := by
  have own : (h.setStatic d key v).stateDefinition t =
      (h.setStatic d key v).definition (h.ownDefinition t) := rfl
  rw [readPrivate_eq, own, definition_setStatic]
  by_cases ht : h.ownDefinition t = d
  · rw [if_pos ⟨ht.symm, ht ▸ defined⟩, Definition.readWith_setStatic, ht]
    simp only [true_and, readPrivate_eq, stateDefinition_eq, ht]
    rfl
  · rw [if_neg (fun e => ht e.1.symm), if_neg (fun e => ht e.1), readPrivate_eq]
    rfl

/-- A read of `j` on the state `t` is one that tells of a write of `key` on the state `s`. -/
def Sees (h : Heap) (s : Ref .state) (key : String) (t : Ref .state) (j : String) : Prop :=
  j = key ∧ (h.stateDefinition t).isMethod (.text key) = false ∧
    (if (h.stateDefinition s).isStatic (.text key) = true then
      h.ownDefinition t = h.ownDefinition s
    else t = s)

/-- What a write from inside has done to the reads from inside. -/
structure Written (h : Heap) (s : Ref .state) (key : String) (v : Value) (h' : Heap) : Prop where
  seen : ∀ t j, h.Sees s key t j → h'.readPrivate t j = .ok (.value v)
  unseen : ∀ t j, ¬ h.Sees s key t j → h'.readPrivate t j = h.readPrivate t j
  /-- A name of a method goes on to name the method. -/
  hidden : ∀ t, (h.stateDefinition t).isMethod (.text key) = true →
    h'.readPrivate t key = h.readPrivate t key
  /-- Other states do not notice, other layers of the same instance among them, unless they share the
  static member that was written. -/
  apart : ∀ t, t ≠ s → ((h.stateDefinition s).isStatic (.text key) = true →
    h.ownDefinition t ≠ h.ownDefinition s) → ∀ j, h'.readPrivate t j = h.readPrivate t j

theorem written_of_sees {h' : Heap}
    (seen : ∀ t j, h.Sees s key t j → h'.readPrivate t j = .ok (.value v))
    (unseen : ∀ t j, ¬ h.Sees s key t j → h'.readPrivate t j = h.readPrivate t j) :
    h.Written s key v h' where
  seen := seen
  unseen := unseen
  hidden t method := unseen t key (fun sees => by
    obtain ⟨-, noMethod, -⟩ := sees
    rw [method] at noMethod
    cases noMethod)
  apart t ht other j := by
    refine unseen t j (fun sees => ?_)
    obtain ⟨-, -, place⟩ := sees
    split at place
    · rename_i declared
      exact other declared place
    · exact ht place

/-- What a delete from inside has done to the reads from inside. -/
structure Deleted (h : Heap) (s : Ref .state) (key : String) (h' : Heap) : Prop where
  gone : (h.stateDefinition s).isMethod (.text key) = false →
    (h.stateDefinition s).isStatic (.text key) = false →
    ∃ e, e.kind = .undefinedMemberError ∧ h'.readPrivate s key = .error e
  unseen : ∀ t j, ¬ (t = s ∧ j = key ∧ (h.stateDefinition s).isMethod (.text key) = false ∧
    (h.stateDefinition s).isStatic (.text key) = false) → h'.readPrivate t j = h.readPrivate t j

/-- A read from inside goes by the definition and the fields of the state alone. -/
structure ReadsAlone (h : Heap) (s : Ref .state) : Prop where
  own : ∀ h' : Heap, h'.stateDefinition s = h.stateDefinition s → h'.fields s = h.fields s →
    ∀ j, h'.readPrivate s j = h.readPrivate s j
  /-- What other layers store and what their classes declare does not matter. -/
  ancestors : ∀ p ∈ (h.layers s).tail, ∀ (fields : Table String Value) (r : Definition),
    ∀ j, (h.setFields p fields).readPrivate s j = h.readPrivate s j ∧
      (h.ownDefinition p ≠ h.ownDefinition s →
        (h.setDefinition (h.ownDefinition p) r).readPrivate s j = h.readPrivate s j)

theorem written_setStatic (defined : h.definitions.contains (h.ownDefinition s) = true)
    (declared : (h.stateDefinition s).isStatic (.text key) = true) (v : Value) :
    h.Written s key v (h.setStatic (h.ownDefinition s) key v) := by
  have sees (t : Ref .state) (j : String) : h.Sees s key t j ↔ h.ownDefinition t = h.ownDefinition s ∧
      j = key ∧ (h.definition (h.ownDefinition s)).isMethod (.text key) = false := by
    simp only [Sees, declared, if_true]
    constructor
    · rintro ⟨hj, noMethod, same⟩
      exact ⟨same, hj, by rwa [stateDefinition_eq, same] at noMethod⟩
    · rintro ⟨same, hj, noMethod⟩
      exact ⟨hj, by rwa [stateDefinition_eq, same], same⟩
  refine written_of_sees (fun t j seen => ?_) (fun t j unseen => ?_)
  · rw [readPrivate_setStatic defined, if_pos ((sees t j).mp seen)]
  · rw [readPrivate_setStatic defined, if_neg (fun h => unseen ((sees t j).mpr h))]

theorem written_setFields (made : h.states.contains s = true)
    (undeclared : (h.stateDefinition s).isStatic (.text key) = false) (v : Value) :
    h.Written s key v (h.setFields s ((h.fields s).insert key v)) := by
  have sees (t : Ref .state) (j : String) : h.Sees s key t j ↔
      t = s ∧ j = key ∧ (h.stateDefinition s).isMethod (.text key) = false ∧
        (h.stateDefinition s).isStatic (.text key) = false := by
    simp only [Sees, undeclared, Bool.false_eq_true, if_false, and_true]
    constructor
    · rintro ⟨hj, noMethod, rfl⟩
      exact ⟨rfl, hj, noMethod⟩
    · rintro ⟨rfl, hj, noMethod⟩
      exact ⟨hj, noMethod, rfl⟩
  refine written_of_sees (fun t j seen => ?_) (fun t j unseen => ?_)
  · obtain ⟨ht, place⟩ := (sees t j).mp seen
    rw [readPrivate_setFields made, if_pos ht, Definition.readWith_insert, if_pos place]
  · rw [readPrivate_setFields made]
    split
    · rename_i ht
      rw [Definition.readWith_insert, if_neg (fun place => unseen ((sees t j).mpr ⟨ht, place⟩)), ht,
        readPrivate_eq]
    · rfl

theorem deleted_setFields (made : h.states.contains s = true) :
    h.Deleted s key (h.setFields s ((h.fields s).erase key)) where
  gone noMethod undeclared := by
    refine ⟨.noMember (h.stateDefinition s).name key, rfl, ?_⟩
    rw [readPrivate_setFields made, if_pos rfl, Definition.readWith_erase,
      if_pos ⟨rfl, noMethod, undeclared⟩]
  unseen t j other := by
    rw [readPrivate_setFields made]
    split
    · rename_i ht
      rw [Definition.readWith_erase, if_neg (fun place => other ⟨ht, place⟩), ht, readPrivate_eq]
    · rfl

theorem Layered.readsAlone (layered : h.Layered) (s : Ref .state) : h.ReadsAlone s where
  own h' definition fields j := by rw [readPrivate_eq, readPrivate_eq, definition, fields]
  ancestors := by
    intro p above fields r j
    -- no layer is among the layers above it
    have apart : p ≠ s := by
      obtain ⟨ps, layers⟩ : ∃ ps, h.layers s = s :: ps := ascend_eq_cons _ _ _
      have nodup : (h.layers s).Nodup := (chain_ascend_index layered.older s).nodup layered.older
      rw [layers] at above nodup
      rintro rfl
      exact (List.nodup_cons.mp nodup).1 above
    constructor
    · rw [readPrivate_eq, stateDefinition_setFields, fields_setFields,
        if_neg (fun e => apart e.1), readPrivate_eq]
    · intro other
      have kept : (h.setDefinition (h.ownDefinition p) r).stateDefinition s = h.stateDefinition s :=
        Store.get_set_of_ne _ other _
      rw [readPrivate_eq, kept, readPrivate_eq]
      rfl

end Heap

namespace World

variable {σ : Type} {w : World σ} {s : Ref .state} {key : String}

theorem perform_writePrivate (made : w.heap.states.contains s = true) (free : key ≠ parentHandle)
    (v : Value) :
    w.perform (.writePrivate s key v) =
      (.ok (), w.setHeap (if (w.heap.stateDefinition s).isStatic (.text key) = true then
        w.heap.setStatic (w.heap.ownDefinition s) key v
      else w.heap.setFields s ((w.heap.fields s).insert key v))) := by
  simp only [perform, made, guarded, if_true, Heap.writePrivate, free, if_false]
  split <;> rfl

theorem perform_deletePrivate (made : w.heap.states.contains s = true) (free : key ≠ parentHandle) :
    w.perform (.deletePrivate s key) =
      if (w.heap.fields s).contains key = true then
        (.ok (), w.setHeap (w.heap.setFields s ((w.heap.fields s).erase key)))
      else (.error (.noField (w.heap.stateDefinition s).name key), w) := by
  simp only [perform, made, guarded, if_true, Heap.deletePrivate, free, if_false]
  split <;> rfl

end World

/-- In every reachable world, a write from inside never fails, and is told by the reads of the written
name alone: on the state itself, or on all states of its definition if the class declares the name as
a static member, and never where the name is that of a method. To delete what is no stored field fails
and changes nothing; to delete a field takes it away from the reads that gave it. Reads go by the
definition and the fields of their own state. -/
theorem internal_access_laws {σ : Type} {w : World σ} (reachable : w.Reachable) {s : Ref .state}
    (made : w.heap.states.contains s = true) {key : String} (free : key ≠ parentHandle) :
    (∀ v, ∃ h', w.perform (.writePrivate s key v) = (.ok (), w.setHeap h') ∧
      w.heap.Written s key v h') ∧
    ((w.heap.fields s).contains key = false → ∃ e, e.kind = .undefinedMemberError ∧
      w.perform (.deletePrivate s key) = (.error e, w)) ∧
    ((w.heap.fields s).contains key = true → ∃ h',
      w.perform (.deletePrivate s key) = (.ok (), w.setHeap h') ∧ w.heap.Deleted s key h') ∧
    w.heap.ReadsAlone s := by
  refine ⟨fun v => ?_, fun missing => ?_, fun stored => ?_, reachable.layered.readsAlone s⟩
  · have present : (View.ofState s).present w.heap = true := made
    have defined : w.heap.definitions.contains (w.heap.ownDefinition s) = true :=
      reachable.built.contains_definition reachable.layered present
    refine ⟨_, World.perform_writePrivate made free v, ?_⟩
    split
    · rename_i declared
      exact Heap.written_setStatic defined declared v
    · rename_i undeclared
      exact Heap.written_setFields made (by simpa using undeclared) v
  · refine ⟨.noField (w.heap.stateDefinition s).name key, rfl, ?_⟩
    rw [World.perform_deletePrivate made free, if_neg (by simp [missing])]
  · refine ⟨_, ?_, Heap.deleted_setFields made⟩
    rw [World.perform_deletePrivate made free, if_pos stored]

/-- The instance of three layers, and another instance of its root. -/
def Program.secondRootWorld : World Unit := (threeLayersWorld.perform (.newLayer ⟨0⟩ none)).2

/-- A static member that is written through one instance of the root is read through the other one,
while the instance below knows nothing of it. What is written under the name of a method stays
hidden, and can still be deleted. -/
theorem internal_access_laws_threeLayers :
    Program.secondRootWorld.Reachable ∧
    Program.secondRootWorld.heap.states.contains ⟨0⟩ = true ∧
    "count" ≠ parentHandle ∧ "greet" ≠ parentHandle ∧
    (∃ h', Program.secondRootWorld.perform (.writePrivate ⟨0⟩ "count" (.int 5)) =
        (.ok (), Program.secondRootWorld.setHeap h') ∧
      h'.readPrivate ⟨3⟩ "count" = .ok (.value (.int 5)) ∧
      h'.readPrivate ⟨2⟩ "count" = .error (.noMember (.text "Derived") "count") ∧
      h'.readPrivate ⟨2⟩ "field" = .ok (.value (.int 1))) ∧
    (∃ e, e.kind = .undefinedMemberError ∧
      Program.secondRootWorld.perform (.deletePrivate ⟨0⟩ "count") =
        (.error e, Program.secondRootWorld)) ∧
    ∃ h', Program.secondRootWorld.perform (.writePrivate ⟨0⟩ "greet" (.int 7)) =
        (.ok (), Program.secondRootWorld.setHeap h') ∧
      h'.readPrivate ⟨0⟩ "greet" = .ok (.method (.function ⟨0⟩) ⟨0⟩) := by
  have reachable : Program.secondRootWorld.Reachable :=
    Program.reachable_threeLayersWorld.after (.perform _ _)
  have made : Program.secondRootWorld.heap.states.contains ⟨0⟩ = true := by decide
  have count : "count" ≠ parentHandle := by decide
  have greet : "greet" ≠ parentHandle := by decide
  obtain ⟨write, noField, -, -⟩ := internal_access_laws reachable made count
  obtain ⟨h', run, written⟩ := write (.int 5)
  obtain ⟨hidden, runHidden, writtenHidden⟩ :=
    (internal_access_laws reachable made greet).1 (.int 7)
  refine ⟨reachable, made, count, greet, ⟨h', run, ?_, ?_, ?_⟩, noField (by decide +kernel),
    hidden, runHidden, ?_⟩
  · exact written.seen ⟨3⟩ "count" ⟨rfl, by decide +kernel, by decide +kernel⟩
  · exact (written.unseen ⟨2⟩ "count" (fun sees => absurd sees.2.2 (by decide +kernel))).trans rfl
  · exact (written.unseen ⟨2⟩ "field" (fun sees => absurd sees.1 (by decide))).trans rfl
  · exact (writtenHidden.hidden ⟨0⟩ (by decide +kernel)).trans rfl

end ObjectModel
