import ObjectModel.Proofs.BuilderCalls
import ObjectModel.Proofs.PlainTexts
import ObjectModel.Proofs.WellFormedDefinitions

/-!
# Tables given directly and by declaration

A table can be given to a builder directly, or be declared first and applied then. Both come to the
same, be it the fault of the first entry that offends or the table in the record. A declaration is
checked when it is made and keeps the table as it was then, whatever becomes of the dictionary, of
the builder or of the classes that were made with it.
-/

namespace ObjectModel

namespace Section

/-- The rule that an entry under a text breaks, and of several the one that is tested first. -/
inductive Offends (callable : Value → Bool) : Section → String → Value → Fault → Prop
  | parentHandle {part : Section} {v : Value} (member : part ≠ .operators) :
    Offends callable part parentHandle v (.reservedMember part)
  | notCallable {part : Section} {name : String} {v : Value}
    (method : part = .privates ∨ part = .publics) (free : name ≠ parentHandle)
    (data : callable v = false) :
    Offends callable part name v (.memberNotCallable part (.text name) v)
  | hookNotCallable {name : String} {v : Value} (data : callable v = false) :
    Offends callable .operators name v (.operatorNotCallable (.text name))
  | hookReserved {name : String} {v : Value} (function : callable v = true)
    (reserved : name ∈ reservedOperators) :
    Offends callable .operators name v (.operatorReserved (.text name))
  | hookNotSpecial {name : String} {v : Value} (function : callable v = true)
    (free : name ∉ reservedOperators)
    (plain : ¬ (4 < name.length ∧ ['_', '_'] <+: name.toList ∧ ['_', '_'] <:+ name.toList)) :
    Offends callable .operators name v (.operatorNotSpecial (.text name))

variable {callable : Value → Bool} {part : Section} {name : String} {v : Value} {f : Fault}
  {t : Table Key Value}

/-- The rules for hook names are tested one after the other. -/
theorem isHookName_eq_false_iff (free : name ∉ reservedOperators) : isHookName name = false ↔
    ¬ (4 < name.length ∧ ['_', '_'] <+: name.toList ∧ ['_', '_'] <:+ name.toList) := by
  rw [← Bool.not_eq_true, isHookName_iff]
  refine not_congr ⟨fun hook => ⟨hook.long, hook.opens, hook.closes⟩, ?_⟩
  rintro ⟨long, opens, closes⟩
  exact ⟨long, opens, closes, free⟩

theorem Offends.offence_eq (offends : Offends callable part name v f) :
    part.offence callable (.text name, v) = some f := by
  cases offends with
  | parentHandle member => cases part <;> first | exact absurd rfl member | simp [offence]
  | notCallable method free data =>
    rcases method with rfl | rfl <;> simp [offence, free, data, Key.toValue]
  | hookNotCallable data => simp [offence, data, Key.toValue]
  | hookReserved function reserved => simp [offence, function, reserved]
  | hookNotSpecial function free plain =>
    simp [offence, function, free, (isHookName_eq_false_iff free).mpr plain]

theorem exists_offends_iff : (∃ f, Offends callable part name v f) ↔
    (part ≠ .operators ∧ name = ObjectModel.parentHandle) ∨
    (part ≠ .statics ∧ callable v = false) ∨
    (part = .operators ∧ (name ∈ reservedOperators ∨
      ¬ (4 < name.length ∧ ['_', '_'] <+: name.toList ∧ ['_', '_'] <:+ name.toList))) := by
  constructor
  · rintro ⟨f, offends⟩
    cases offends with
    | parentHandle member => exact .inl ⟨member, rfl⟩
    | notCallable method free data =>
      exact .inr (.inl ⟨by rcases method with rfl | rfl <;> simp, data⟩)
    | hookNotCallable data => exact .inr (.inl ⟨by simp, data⟩)
    | hookReserved function reserved => exact .inr (.inr ⟨rfl, .inl reserved⟩)
    | hookNotSpecial function free plain => exact .inr (.inr ⟨rfl, .inr plain⟩)
  · rintro (⟨member, rfl⟩ | ⟨notStatic, data⟩ | ⟨rfl, broken⟩)
    · exact ⟨_, .parentHandle member⟩
    · by_cases hook : part = .operators
      · subst hook
        exact ⟨_, .hookNotCallable data⟩
      · by_cases reserved : name = ObjectModel.parentHandle
        · subst reserved
          exact ⟨_, .parentHandle hook⟩
        · refine ⟨_, .notCallable ?_ reserved data⟩
          cases part with
          | statics => exact absurd rfl notStatic
          | privates => exact .inl rfl
          | publics => exact .inr rfl
          | operators => exact absurd rfl hook
    · cases function : callable v with
      | false => exact ⟨_, .hookNotCallable function⟩
      | true =>
        by_cases reserved : name ∈ reservedOperators
        · exact ⟨_, .hookReserved function reserved⟩
        · exact ⟨_, .hookNotSpecial function reserved (broken.resolve_left reserved)⟩

/-- The model finds the offence of an entry. -/
theorem offence_eq_some_iff :
    part.offence callable (.text name, v) = some f ↔ Offends callable part name v f := by
  refine ⟨fun found => ?_, Offends.offence_eq⟩
  -- what is found is not nothing, so that some rule is broken
  have broken : ¬ (part.TakesKey (.text name) ∧ part.TakesValue callable v) := by
    rw [← offence_eq_none, found]
    exact Option.some_ne_none f
  have offends : ∃ f', Offends callable part name v f' := by
    rw [exists_offends_iff]
    by_contra keeps
    push Not at keeps
    refine broken ⟨?_, ?_⟩
    · cases part with
      | operators =>
        obtain ⟨free, long, opens, closes⟩ := keeps.2.2 rfl
        exact ⟨name, rfl, long, opens, closes, free⟩
      | statics | privates | publics =>
        simpa [TakesKey] using keeps.1 (by simp)
    · cases part with
      | statics => trivial
      | privates | publics | operators => simpa [TakesValue] using keeps.2.1 (by simp)
  obtain ⟨f', offends⟩ := offends
  obtain rfl : f = f' := Option.some.inj (found.symm.trans offends.offence_eq)
  exact offends

theorem Offends.kind (offends : Offends callable part name v f) : f.kind = .definitionError := by
  cases offends <;> rfl

/-- All keys of a table are texts. -/
def TextKeys (t : Table Key Value) : Prop :=
  t.Entries (fun k => ∃ name, k = .text name) (fun _ => True)

/-- An entry of a table offends, and none before it does. -/
def OffendsFirst (callable : Value → Bool) (part : Section) (t : Table Key Value) (name : String)
    (v : Value) (f : Fault) : Prop :=
  ∃ before after, t.entries = before ++ (.text name, v) :: after ∧
    (∀ name' v', (.text name', v') ∈ before → ∀ f', ¬ Offends callable part name' v' f') ∧
    Offends callable part name v f

/-- No entry of a table offends. -/
def Inoffensive (callable : Value → Bool) (part : Section) (t : Table Key Value) : Prop :=
  ∀ name v, (.text name, v) ∈ t.entries → ∀ f, ¬ Offends callable part name v f

theorem offence_eq_none_of_mem {es : List (Key × Value)}
    (texts : ∀ e ∈ es, ∃ name, e.1 = .text name)
    (keeps : ∀ name v, (.text name, v) ∈ es → ∀ f, ¬ Offends callable part name v f) :
    ∀ e ∈ es, part.offence callable e = none := by
  rintro ⟨k, v⟩ there
  obtain ⟨name, rfl⟩ : ∃ name, k = .text name := texts _ there
  exact Option.eq_none_iff_forall_ne_some.mpr
    (fun f found => keeps name v there f (offence_eq_some_iff.mp found))

theorem OffendsFirst.kind (first : OffendsFirst callable part t name v f) :
    f.kind = .definitionError := by
  obtain ⟨-, -, -, -, offends⟩ := first
  exact offends.kind

theorem OffendsFirst.check_eq (first : OffendsFirst callable part t name v f)
    (texts : TextKeys t) : part.check callable t = .error f := by
  obtain ⟨before, after, entries, free, offends⟩ := first
  have textsBefore : ∀ e ∈ before, ∃ name, e.1 = .text name := fun e there =>
    (texts e (by rw [entries]; exact List.mem_append_left _ there)).1
  have found : t.entries.findSome? (part.offence callable) = some f :=
    List.findSome?_eq_some_iff.mpr ⟨before, _, after, entries, offends.offence_eq,
      offence_eq_none_of_mem textsBefore free⟩
  rw [check, found]

theorem Inoffensive.check_eq (inoffensive : Inoffensive callable part t) (texts : TextKeys t) :
    part.check callable t = .ok () := by
  have found : t.entries.findSome? (part.offence callable) = none :=
    List.findSome?_eq_none_iff.mpr
      (offence_eq_none_of_mem (fun e there => (texts e there).1) inoffensive)
  rw [check, found]

end Section

namespace World

variable {σ : Type} {w u w' : World σ} {b : Ref .builder} {part : Section} {t : Table Key Value}
  {f : Fault}

/-- An open builder refuses a table that is not fit, and nothing is changed. -/
theorem perform_addMembers_of_error (made : w.heap.builders.contains b = true)
    (isOpen : w.heap.finalized b = false) (fails : part.check w.heap.callable t = .error f) :
    w.perform (.addMembers b part t) = (.error f, w) := by
  simp only [perform, Heap.addMembers, made, Heap.editOpen, isOpen, fails]
  rfl

theorem perform_addMembers_of_ok (made : w.heap.builders.contains b = true)
    (isOpen : w.heap.finalized b = false) (fits : part.check w.heap.callable t = .ok ()) :
    w.perform (.addMembers b part t) =
      (.ok (), w.withRecord b ((w.heap.body b).record.extend part t)) := by
  rw [← Definition.withItems_members]
  exact applyItem_of_fits made isOpen (d := .members part t) fits

/-- The world in which one more declaration was made. -/
def withDeclaration (w : World σ) (d : Declaration) : World σ :=
  w.setHeap (w.heap.keep d).2

theorem perform_declare_of_ok (fits : part.check w.heap.callable t = .ok ()) :
    w.perform (.declare (.members part t)) =
      (.ok w.heap.declarations.next, w.withDeclaration (.members part t)) := by
  rw [perform, Heap.declare, fits]
  rfl

theorem perform_declare_of_error (fails : part.check w.heap.callable t = .error f) :
    w.perform (.declare (.members part t)) = (.error f, w) := by
  rw [perform, Heap.declare, fails]
  rfl

/-- What was declared stays as it was and stays valid. -/
theorem declared_of_reaches (built : w.heap.Built) (layered : w.heap.Layered)
    (fits : part.check w.heap.callable t = .ok ())
    (reaches : (w.withDeclaration (.members part t)).Reaches w') :
    w'.heap.declarations.get w.heap.declarations.next = .members part t ∧
      part.check w'.heap.callable t = .ok () := by
  have grows : w.heap.Extends (w.withDeclaration (.members part t)).heap :=
    { Heap.Extends.refl w.heap with declarations := Store.keeps_push _ _ _ }
  have extends_ := reaches.extends
  obtain ⟨-, same⟩ := extends_.declarations _
    (Store.contains_push_next w.heap.declarations (.members part t))
  refine ⟨same.trans (Store.get_push_next w.heap.declarations _), Section.check_eq_ok.mpr ?_⟩
  exact (Section.check_eq_ok.mp fits).mono
    (fun _ takes => takes.mono (fun _ => (grows.trans extends_).callable built layered))

/-- A declaration is taken by every open builder, however late. -/
theorem run_applyDeclaration_of_reaches (built : w.heap.Built) (layered : w.heap.Layered)
    (fits : part.check w.heap.callable t = .ok ())
    (reaches : (w.withDeclaration (.members part t)).Reaches w')
    (made : w'.heap.builders.contains b = true) (isOpen : w'.heap.finalized b = false) :
    (applyDeclaration b w.heap.declarations.next : Program σ Unit).run w' =
      (.ok (), w'.withRecord b ((w'.heap.body b).record.extend part t)) := by
  obtain ⟨same, fits⟩ := declared_of_reaches built layered fits reaches
  rw [run_applyDeclaration, same]
  exact perform_addMembers_of_ok made isOpen fits

/-- To give a table to a builder in two ways comes to the same: to the fault of the entry that
offends first, and then nothing is changed, or to a record with the table. How the fault is told is
left open. -/
structure SameOutcome {α : Type} (w : World σ) (b : Ref .builder) (part : Section)
    (t : Table Key Value) (tells : Fault → Fault → Prop) (r r' : Except Fault α × World σ) :
    Prop where
  refused : ∀ name v f, part.OffendsFirst w.heap.callable t name v f →
    ∃ f', tells f f' ∧ f'.kind = .definitionError ∧ r.1 = .error f' ∧ r'.1 = .error f' ∧
      r.2.heap = w.heap ∧ r'.2.heap = w.heap
  taken : part.Inoffensive w.heap.callable t →
    (∃ a, r.1 = .ok a ∧ r'.1 = .ok a) ∧
    r.2.heap.body b = ⟨(w.heap.body b).record.extend part t, false⟩ ∧
    r'.2.heap.body b = ⟨(w.heap.body b).record.extend part t, false⟩

/-- Declare a table and apply the declaration. -/
def addDeclared (b : Ref .builder) (part : Section) (t : Table Key Value) : Program σ Unit := do
  applyDeclaration b (← ask (.declare (.members part t)))

theorem sameOutcome_addDeclared (placed : w.heap.Placed b) (isOpen : w.heap.finalized b = false)
    (texts : Section.TextKeys t) :
    w.SameOutcome b part t Eq (w.perform (.addMembers b part t))
      ((addDeclared b part t).run w) where
  refused := by
    intro name v f first
    have fails := first.check_eq texts
    have directly := perform_addMembers_of_error placed.made isOpen fails
    have declared : (addDeclared b part t).run w = (.error f, w) :=
      Program.run_bind_of_error ((Program.run_ask _ _).trans (perform_declare_of_error fails))
    rw [directly, declared]
    exact ⟨f, rfl, first.kind, rfl, rfl, rfl, rfl⟩
  taken := by
    intro inoffensive
    have fits := inoffensive.check_eq texts
    let u := w.withDeclaration (.members part t)
    have placed' : u.heap.Placed b :=
      placed.step (.declare _ : w.heap.Step (.declare _ : Action σ) _)
    have directly := perform_addMembers_of_ok placed.made isOpen fits
    have declared : (addDeclared b part t).run w =
        (.ok (), u.withRecord b ((w.heap.body b).record.extend part t)) :=
      (Program.run_bind_of_ok ((Program.run_ask _ _).trans (perform_declare_of_ok fits))).trans
        (run_applyDeclaration_of_reaches placed.built placed.layered fits (.refl _) placed.made
          isOpen)
    rw [directly, declared, body_withRecord placed, body_withRecord placed']
    exact ⟨⟨(), rfl, rfl⟩, congrArg _ isOpen, congrArg _ isOpen⟩

end World

namespace Script.Machine

open World (withDeclaration)

variable {w : World Workspace} {b : Ref .builder} {part : Section} {r : Ref .dict} {f : Fault}
  {n : Nat}

/-- A dictionary as a table of the model. -/
def tableAt (w : World Workspace) (r : Ref .dict) : Table Key Value :=
  memberTableOf (w.client.dicts.get r).entries

theorem simpleKeys_of_textKeys {t : Table Key Value} (texts : Section.TextKeys t) : SimpleKeys t := by
  intro e there
  obtain ⟨⟨name, isText⟩, -⟩ := texts e there
  rw [isText]
  exact ⟨rfl, trivial⟩

theorem run_plainTable?_dict (simple : SimpleKeys (tableAt w r)) :
    (plainTable? (.dict r)).run w = (.ok (some (tableAt w r)), w) := by
  refine run_plainTable? rfl (run_viewing w _) (fun e there => ?_)
  have key := (simple e.toMember (List.mem_map_of_mem there)).1
  rwa [Entry.toMember, Key.toValue_ofValue] at key

/-- A dictionary whose keys are compared without asking anyone is taken by an open builder in one
step: it is checked as it is copied. -/
theorem run_addMembers_dict (ready : Ready w b) (simple : SimpleKeys (tableAt w r)) (n : Nat) :
    ((ofDepth (n + 2)).addMembers b part (.dict r)).run w =
      ((ofDepth (n + 2)).act (.addMembers b part (tableAt w r))).run
        (withMethod w ⟨.builder b, .own "_open"⟩) := by
  have table : (tableFor? b part (.dict r)).run (withMethod w ⟨.builder b, .own "_open"⟩) =
      (.ok (some (tableAt w r)), withMethod w ⟨.builder b, .own "_open"⟩) :=
    run_tableFor? (ready.toUntouched.withMethod _) (ready.simple part) (run_plainTable?_dict simple)
  unfold addMembers
  rw [Session.run_bind_of_ok (run_callMember_open ready.toUntouched ready.isOpen n)]
  exact Session.run_bind_of_ok table

/-- What a program is told of an entry that offends. -/
def Tells (m : Machine) (w : World Workspace) (f f' : Fault) : Prop :=
  ∃ s, (f.message? m.display).run w = (.ok (some s), w) ∧ f' = .told f.kind s

/-- The message of an entry that offends is the same whichever methods were read. -/
theorem exists_run_message {callable : Value → Bool} {name : String} {v : Value}
    (offends : part.Offends callable name v f) (w : World Workspace) (n : Nat) :
    ∃ s, ∀ u : World Workspace, u.heap = w.heap → u.client.iterators = w.client.iterators →
      u.client.exceptions = w.client.exceptions →
      (f.message? (ofDepth (n + 1)).display).run u = (.ok (some s), u) := by
  cases offends with
  | parentHandle member => exact ⟨_, fun u _ _ _ => Session.run_pure _ u⟩
  | @notCallable _ name v method free data =>
    obtain ⟨type, called⟩ := exists_run_typeName v w
    refine ⟨"Only functions are supported in " ++ part.name ++ " definitions (" ++
      Text.quoted name ++ " is " ++ type ++ ")", fun u heap iterators exceptions => ?_⟩
    refine (Session.run_bind_of_ok (run_repr (.text name) n u)).trans ?_
    refine (Session.run_bind_of_ok (called u heap iterators exceptions)).trans ?_
    exact Session.run_pure _ u
  | @hookNotCallable name _ _ =>
    refine ⟨"Operator " ++ Text.quoted name ++ " must be a function", fun u _ _ _ => ?_⟩
    refine (Session.run_bind_of_ok (run_repr (.text name) n u)).trans ?_
    exact Session.run_pure _ u
  | @hookReserved name _ _ _ =>
    have spoken (u : World Workspace) : ((ofDepth (n + 1)).spoken (.text name)).run u =
        (.ok name, u) := Session.run_pure _ u
    refine ⟨"Operator " ++ name ++ " is not allowed for classes.", fun u _ _ _ => ?_⟩
    refine (Session.run_bind_of_ok (spoken u)).trans ?_
    exact Session.run_pure _ u
  | @hookNotSpecial name _ _ _ _ =>
    refine ⟨Text.quoted name ++ " is not a special method name", fun u _ _ _ => ?_⟩
    refine (Session.run_bind_of_ok (run_repr (.text name) n u)).trans ?_
    exact Session.run_pure _ u

/-- To give a dictionary to a builder directly is left to the model. -/
theorem run_perform_section (ready : Ready w b) (texts : Section.TextKeys (tableAt w r))
    (n : Nat) :
    ((ofDepth (n + 2)).perform (.builder b) part.name [.dict r]).run w =
      ((ofDepth (n + 2)).act (.addMembers b part (tableAt w r)) >>= fun _ =>
        pure (.builder b)).run (withMethod w ⟨.builder b, .own "_open"⟩) := by
  have has : (ofDepth (n + 2)).operations (.builder b) part.name [.dict r] = some (do
      (ofDepth (n + 2)).addMembers b part (.dict r)
      return .builder b) := by cases part <;> rfl
  rw [perform, run_operate has ready.builder, Session.run_bind, Session.run_bind,
    run_addMembers_dict ready (simpleKeys_of_textKeys texts)]

/-- To declare a dictionary is left to the model. -/
theorem run_declareMembers (texts : Section.TextKeys (tableAt w r)) (m : Machine) :
    (m.declareMembers part (.dict r)).run w =
      (m.act (.declare (.members part (tableAt w r))) >>= fun d =>
        pure (.declaration d)).run w := by
  unfold declareMembers
  rw [Session.run_bind_of_ok (run_plainTable?_dict (simpleKeys_of_textKeys texts))]

/-- A declaration that is applied by itself. -/
theorem run_perform_apply (ready : Ready w b) {d : Ref .declaration}
    (simple : SimpleItem (w.heap.declarations.get d))
    (fits : (w.heap.declarations.get d).Fits w.heap.callable) (m : Machine) :
    (m.perform (.builder b) "apply" [.declaration d]).run w = (.ok (.builder b),
      w.withRecord b ((w.heap.body b).record.withItems [w.heap.declarations.get d])) := by
  have items : (m.applyItems (.builder b) [.declaration d]).run w =
      (.ok (), w.withRecord b ((w.heap.body b).record.withItems [w.heap.declarations.get d])) :=
    (run_applyItems ready (List.forall_mem_singleton.mpr simple)
      (List.forall_mem_singleton.mpr fits) []).trans (Session.run_pure _ _)
  have has : m.operations (.builder b) "apply" [.declaration d] = some (do
      m.applyItems (.builder b) [.declaration d]
      return .builder b) := rfl
  rw [perform, run_operate has ready.builder, Session.run_bind_of_ok items]
  exact Session.run_pure _ _

theorem simpleItem_of_textKeys {t : Table Key Value} (texts : Section.TextKeys t) :
    SimpleItem (.members part t) := by
  rintro part' t' ⟨⟩
  exact simpleKeys_of_textKeys texts

/-- A dictionary that was declared is taken as it was then by every open builder, however late. -/
theorem run_perform_apply_of_reaches {w' : World Workspace} {b' : Ref .builder}
    (built : w.heap.Built) (layered : w.heap.Layered) (texts : Section.TextKeys (tableAt w r))
    (fits : part.check w.heap.callable (tableAt w r) = .ok ())
    (reaches : (withDeclaration w (.members part (tableAt w r))).Reaches w')
    (ready : Ready w' b') (m : Machine) :
    (m.perform (.builder b') "apply" [.declaration w.heap.declarations.next]).run w' =
      (.ok (.builder b'),
        w'.withRecord b' ((w'.heap.body b').record.extend part (tableAt w r))) := by
  obtain ⟨same, fits⟩ := World.declared_of_reaches built layered fits reaches
  rw [run_perform_apply ready (same ▸ simpleItem_of_textKeys texts) (same.symm ▸ fits) m, same,
    Definition.withItems_members]

theorem Ready.withDeclaration (ready : Ready w b) (d : Declaration) :
    Ready (withDeclaration w d) b where
  builder := ready.builder
  definition := ready.definition
  placed := ready.placed.step (.declare d : w.heap.Step (.declare d : Action Workspace) _)
  isOpen := ready.isOpen
  simple := ready.simple
  frozen := ready.frozen

theorem run_declareMembers_of_fits (texts : Section.TextKeys (tableAt w r))
    (fits : part.check w.heap.callable (tableAt w r) = .ok ()) (m : Machine) :
    (m.declareMembers part (.dict r)).run w =
      (.ok (.declaration w.heap.declarations.next),
        withDeclaration w (.members part (tableAt w r))) := by
  rw [run_declareMembers texts m,
    Session.run_bind_of_ok (run_act_of_ok (World.perform_declare_of_ok fits))]
  exact Session.run_pure _ _

/-- What is declared is fit for its section. -/
theorem eq_of_run_declareMembers {m : Machine} {v : Value} {u : World Workspace}
    (texts : Section.TextKeys (tableAt w r))
    (declared : (m.declareMembers part (.dict r)).run w = (.ok v, u)) :
    part.check w.heap.callable (tableAt w r) = .ok () ∧
      v = .declaration w.heap.declarations.next ∧
      u = withDeclaration w (.members part (tableAt w r)) := by
  cases fits : part.check w.heap.callable (tableAt w r) with
  | error f =>
    obtain ⟨f', u', fails⟩ := exists_run_act_of_error (m := m)
      (World.perform_declare_of_error fits)
    rw [run_declareMembers texts, Session.run_bind_of_error fails] at declared
    cases declared
  | ok _ =>
    rw [run_declareMembers_of_fits texts fits] at declared
    cases declared
    exact ⟨rfl, rfl, rfl⟩

theorem sameOutcome_declared (ready : Ready w b) (texts : Section.TextKeys (tableAt w r))
    (n : Nat) :
    w.SameOutcome b part (tableAt w r) (Tells (ofDepth (n + 2)) w)
      (((ofDepth (n + 2)).perform (.builder b) part.name [.dict r]).run w)
      (((ofDepth (n + 2)).declareMembers part (.dict r) >>= fun d =>
        (ofDepth (n + 2)).perform (.builder b) "apply" [d]).run w) where
  refused := by
    intro name v f first
    have fails := first.check_eq texts
    have kind := first.kind
    obtain ⟨-, -, -, -, offends⟩ := first
    obtain ⟨s, message⟩ := exists_run_message offends w (n + 1)
    have directly := run_act_of_message (World.perform_addMembers_of_error
      (w := withMethod w ⟨.builder b, .own "_open"⟩) ready.placed.made ready.isOpen fails)
      (message _ rfl rfl rfl)
    have declared := run_act_of_message (World.perform_declare_of_error fails)
      (message w rfl rfl rfl)
    rw [run_perform_section ready texts, Session.run_bind_of_error directly,
      Session.run_bind_of_error ((run_declareMembers texts _).trans
        (Session.run_bind_of_error declared))]
    exact ⟨_, ⟨s, message w rfl rfl rfl, rfl⟩, kind, rfl, rfl, rfl, rfl⟩
  taken := by
    intro inoffensive
    have fits := inoffensive.check_eq texts
    have ready' := ready.withDeclaration (.members part (tableAt w r))
    have directly := run_act_of_ok (m := ofDepth (n + 2)) (World.perform_addMembers_of_ok
      (w := withMethod w ⟨.builder b, .own "_open"⟩) ready.placed.made ready.isOpen fits)
    have declared := run_perform_apply_of_reaches ready.placed.built ready.placed.layered texts fits
      (.refl _) ready' (ofDepth (n + 2))
    rw [run_perform_section ready texts, Session.run_bind_of_ok directly, Session.run_pure,
      Session.run_bind_of_ok (run_declareMembers_of_fits texts fits _), declared,
      World.body_withRecord ready'.placed,
      World.body_withRecord (w := withMethod w ⟨.builder b, .own "_open"⟩) ready.placed]
    exact ⟨⟨_, rfl, rfl⟩, congrArg _ ready.isOpen, congrArg _ ready.isOpen⟩

/-- To give a table to an open builder, and to declare it and apply the declaration, comes to the
same: to the fault of the entry that offends first, in the order of the table and of the rules, and
then the record stays as it is; or to the same record. Which entries offend is told by the rules
alone. A declaration that was made is taken by every open builder, however late, and adds the table
as it was when it was declared. So it is in the model for every table, and so it is for the
dictionaries of scripts, whatever is done to a dictionary later. -/
theorem declared_table_like_given {w : World Workspace} {b : Ref .builder}
    (reachable : w.Reachable) (made : w.heap.builders.contains b = true)
    (isOpen : w.heap.finalized b = false) (part : Section) :
    (∀ name v, (∃ f, part.Offends w.heap.callable name v f) ↔
      (part ≠ .operators ∧ name = parentHandle) ∨
      (part ≠ .statics ∧ w.heap.callable v = false) ∨
      (part = .operators ∧ (name ∈ reservedOperators ∨
        ¬ (4 < name.length ∧ ['_', '_'] <+: name.toList ∧ ['_', '_'] <:+ name.toList)))) ∧
    (∀ t, Section.TextKeys t →
      w.SameOutcome b part t Eq (w.perform (.addMembers b part t))
        ((World.addDeclared b part t).run w) ∧
      ∀ d u, w.perform (.declare (.members part t)) = (.ok d, u) →
        ∀ (w' : World Workspace) (b' : Ref .builder), u.Reaches w' →
          w'.heap.builders.contains b' = true → w'.heap.finalized b' = false →
          (ObjectModel.applyDeclaration b' d : Program Workspace Unit).run w' =
            (.ok (), w'.withRecord b' ((w'.heap.body b').record.extend part t))) ∧
    ∀ (r : Ref .dict) (n : Nat), Ready w b → Section.TextKeys (tableAt w r) →
      let m := ofDepth (n + 2)
      let t := tableAt w r
      w.SameOutcome b part t (m.Tells w) ((m.perform (.builder b) part.name [.dict r]).run w)
        ((m.declareMembers part (.dict r) >>= fun d =>
          m.perform (.builder b) "apply" [d]).run w) ∧
      ∀ v u, (m.declareMembers part (.dict r)).run w = (.ok v, u) →
        ∀ (w' : World Workspace) (b' : Ref .builder) (m' : Machine),
          u.Reaches w' → Ready w' b' →
          (m'.perform (.builder b') "apply" [v]).run w' =
            (.ok (.builder b'), w'.withRecord b' ((w'.heap.body b').record.extend part t)) := by
  have placed := reachable.placed made
  refine ⟨fun name v => Section.exists_offends_iff, fun t texts => ⟨?_, ?_⟩,
    fun r n ready texts => ⟨?_, ?_⟩⟩
  · exact World.sameOutcome_addDeclared placed isOpen texts
  · intro d u declared w' b' reaches made' isOpen'
    cases fits : part.check w.heap.callable t with
    | error f =>
      rw [World.perform_declare_of_error fits] at declared
      cases declared
    | ok _ =>
      rw [World.perform_declare_of_ok fits] at declared
      cases declared
      exact World.run_applyDeclaration_of_reaches placed.built placed.layered fits reaches made'
        isOpen'
  · exact sameOutcome_declared ready texts n
  · intro v u declared w' b' m' reaches ready'
    obtain ⟨fits, rfl, rfl⟩ := eq_of_run_declareMembers texts declared
    exact run_perform_apply_of_reaches placed.built placed.layered texts fits reaches ready' m'

/-- An entry of a dictionary, under a text. -/
def textEntry (name : String) (v : Value) : Entry := ⟨KeyCode.ofText name, .text name, v⟩

/-- An open builder and two dictionaries, of which the first has an entry that offends. -/
def dictionariesWorld : World Workspace :=
  (World.initial Workspace.initial).after [
    .openBuilder Heap.defaultCatalog (.text "Shape"),
    .poke (fun w => { w with
      dicts :=
        (w.dicts.push (.ofEntries [textEntry "sides" (.int 4), textEntry "super" .null])).push
          (.ofEntries [textEntry "sides" (.int 4)]) })]

/-- What is done later: the dictionaries are gone, and there is another builder. -/
def laterActions : List (Action Workspace) :=
  [.poke (fun w => { w with dicts := .empty }), .openBuilder Heap.defaultCatalog (.text "Later")]

theorem tableAt_zero : tableAt dictionariesWorld ⟨0⟩ =
    ⟨[(.text "sides", .int 4), (.text "super", .null)]⟩ := by decide +kernel

theorem tableAt_one : tableAt dictionariesWorld ⟨1⟩ = ⟨[(.text "sides", .int 4)]⟩ := by
  decide +kernel

theorem ready_dictionariesWorld : Ready dictionariesWorld ⟨0⟩ where
  builder := by rfl
  definition := by rfl
  placed := World.Reachable.placed (World.reachable_after _ _) (by rfl)
  isOpen := by rfl
  simple part := by cases part <;> exact Table.entries_empty
  frozen _ := rfl

theorem fits_tableAt_one : Section.statics.check dictionariesWorld.heap.callable
    (tableAt dictionariesWorld ⟨1⟩) = .ok () := by
  rw [tableAt_one]
  rfl

/-- The world in which the second dictionary was declared, and what is done later was done. -/
def laterWorld : World Workspace :=
  (World.withDeclaration dictionariesWorld
    (.members .statics (tableAt dictionariesWorld ⟨1⟩))).after laterActions

theorem ready_laterWorld : Ready laterWorld ⟨1⟩ where
  builder := by rfl
  definition := by rfl
  placed := by
    have reachable : dictionariesWorld.Reachable := World.reachable_after _ _
    have declared := World.Reaches.perform dictionariesWorld
      (.declare (.members .statics (tableAt dictionariesWorld ⟨1⟩)))
    rw [World.perform_declare_of_ok fits_tableAt_one] at declared
    exact (reachable.after (declared.trans (World.reaches_after _ laterActions))).placed (by rfl)
  isOpen := by rfl
  simple part := by cases part <;> exact Table.entries_empty
  frozen _ := rfl

theorem declared_table_like_given_twoDictionaries :
    let m := ofDepth 2
    let w := dictionariesWorld
    w.Reachable ∧ w.heap.builders.contains ⟨0⟩ = true ∧ w.heap.finalized ⟨0⟩ = false ∧
    Ready w ⟨0⟩ ∧
    (∃ f, f.kind = .definitionError ∧
      ((m.perform (.builder ⟨0⟩) "static" [.dict ⟨0⟩]).run w).1 = .error f ∧
      ((m.declareMembers .statics (.dict ⟨0⟩) >>= fun d =>
        m.perform (.builder ⟨0⟩) "apply" [d]).run w).1 = .error f) ∧
    (m.declareMembers .statics (.dict ⟨1⟩)).run w = (.ok (.declaration ⟨0⟩),
      w.withDeclaration (.members .statics (tableAt w ⟨1⟩))) ∧
    (((m.perform (.builder ⟨1⟩) "apply" [.declaration ⟨0⟩]).run laterWorld).2.heap.body
      ⟨1⟩).record.statics = .ofList [(.text "sides", .int 4)] := by
  intro m w
  have reachable : w.Reachable := World.reachable_after _ _
  have ready : Ready w ⟨0⟩ := ready_dictionariesWorld
  obtain ⟨-, -, scripts⟩ :=
    declared_table_like_given reachable ready.placed.made ready.isOpen .statics
  have texts : Section.TextKeys (tableAt w ⟨0⟩) := by
    rw [tableAt_zero]
    simp [Section.TextKeys, Table.Entries]
  have texts' : Section.TextKeys (tableAt w ⟨1⟩) := by
    rw [tableAt_one]
    simp [Section.TextKeys, Table.Entries]
  have first : Section.statics.OffendsFirst w.heap.callable (tableAt w ⟨0⟩) "super"
      .null (.reservedMember .statics) := by
    refine ⟨[(.text "sides", .int 4)], [], congrArg Table.entries tableAt_zero, ?_,
      .parentHandle (by simp)⟩
    rintro name' v' there f' offends
    obtain ⟨rfl, rfl⟩ : name' = "sides" ∧ v' = .int 4 := by simpa using there
    simpa [parentHandle] using Section.exists_offends_iff.mp ⟨f', offends⟩
  obtain ⟨f', -, kind, directly, declared, -⟩ := (scripts ⟨0⟩ 0 ready texts).1.refused _ _ _ first
  have next : w.heap.declarations.next = ⟨0⟩ := rfl
  have made := run_declareMembers_of_fits texts' fits_tableAt_one m
  rw [next] at made
  have later := (scripts ⟨1⟩ 0 ready texts').2 _ _ made laterWorld ⟨1⟩ m
    (World.reaches_after _ _) ready_laterWorld
  refine ⟨reachable, ready.placed.made, ready.isOpen, ready, ⟨f', kind, directly, declared⟩, made,
    ?_⟩
  rw [later, World.body_withRecord ready_laterWorld.placed, tableAt_one]
  rfl

end Script.Machine

end ObjectModel
