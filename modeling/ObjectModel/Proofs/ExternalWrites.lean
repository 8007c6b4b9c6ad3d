import ObjectModel.Proofs.PublicDispatch

/-!
# Writes from outside

What a write of an undeclared key onto a facade does, and who can see it. Inside of the instance and
on the class objects nothing is different afterwards. From outside, the value is seen on the facade
itself and through those facades below it whose read of the key ends there. A key that was new can
be deleted again, and then everything is as before.
-/

namespace ObjectModel

namespace Heap

/-- Two heaps that can differ in what was written onto facades from outside only. -/
structure SameInside (h h' : Heap) : Prop where
  catalogs : h'.catalogs = h.catalogs
  builders : h'.builders = h.builders
  definitions : h'.definitions = h.definitions
  declarations : h'.declarations = h.declarations
  classes : h'.classes = h.classes
  states : h'.states = h.states
  present : ∀ g, h'.facades.contains g = h.facades.contains g
  facadeState : ∀ g, h'.facadeState g = h.facadeState g
  parentFacade : ∀ g, h'.parentFacade g = h.parentFacade g

variable {h h' : Heap}

theorem SameInside.refl (h : Heap) : h.SameInside h :=
  ⟨rfl, rfl, rfl, rfl, rfl, rfl, fun _ => rfl, fun _ => rfl, fun _ => rfl⟩

namespace SameInside

variable (same : h.SameInside h')

include same

theorem classDefinition (c : Ref .cls) : h'.classDefinition c = h.classDefinition c := by
  simp only [Heap.classDefinition, definition, same.classes, same.definitions]

theorem readPrivate (s : Ref .state) (key : String) :
    h'.readPrivate s key = h.readPrivate s key := by
  simp only [Heap.readPrivate, stateDefinition, stateClass, fields, same.classDefinition,
    same.states]

theorem readClass (c : Ref .cls) (key : String) : h'.readClass c key = h.readClass c key := by
  simp only [Heap.readClass, classAttribute?, className, same.classDefinition, same.classes]

theorem facadeClass (g : Ref .facade) : h'.facadeClass g = h.facadeClass g := by
  have hs := same.facadeState g
  simp only [Heap.facadeState] at hs
  simp only [Heap.facadeClass, stateClass, same.states, hs]

theorem facadeDefinition (g : Ref .facade) : h'.facadeDefinition g = h.facadeDefinition g := by
  simp only [Heap.facadeDefinition, same.facadeClass, same.classDefinition]

theorem facadeLayers (g : Ref .facade) : h'.facadeLayers g = h.facadeLayers g := by
  have hp : h'.parentFacade = h.parentFacade := funext same.parentFacade
  simp only [Heap.facadeLayers, hp]

theorem declaresPublic (key : String) : h'.declaresPublic key = h.declaresPublic key := by
  funext g
  simp only [Heap.declaresPublic, same.facadeDefinition]

theorem hookOf? (g : Ref .facade) (name : String) :
    h'.hookOf? (.facade g) name = h.hookOf? (.facade g) name := by
  simp only [Heap.hookOf?, instanceClass?, hook?, same.facadeClass, same.classes]

end SameInside

theorem sameInside_setExternal (h : Heap) (f : Ref .facade) (t : Table String Value) :
    h.SameInside (h.setExternal f t) := by
  refine { SameInside.refl h with present := ?_, facadeState := ?_, parentFacade := ?_ }
  · exact fun g => Store.contains_modify _ _ _ _
  all_goals
    intro g
    simp only [Heap.facadeState, Heap.parentFacade, setExternal, Store.get_modify]
    split <;> rfl

theorem sameInside_addExternal (h : Heap) (f : Ref .facade) (key : String) (v : Value) :
    h.SameInside (h.addExternal f key v) :=
  sameInside_setExternal h f _

/-- What was written onto a facade is replaced as a whole. -/
theorem setExternal_setExternal (h : Heap) (f : Ref .facade) (t : Table String Value) :
    (h.setExternal f t).setExternal f (h.external f) = h := by
  have facades : ((h.setExternal f t).setExternal f (h.external f)).facades = h.facades := by
    refine Store.ext_get (by simp [setExternal]) (fun g hg => ?_)
    by_cases hfg : f = g
    · subst hfg
      simp only [setExternal, Store.get_modify, Store.contains_modify, hg, and_self, if_true]
      rfl
    · simp only [setExternal, Store.get_modify_of_ne _ hfg]
  exact congrArg (fun facades => { h with facades := facades : Heap }) facades

/-- A read of `key` on the facade `g` ends at `f`: of the levels of `g` this is the first that knows
the key, and it is asked, be it because it is the lowest one, or because some class further up
declares the key public. -/
def EndsAt (h : Heap) (key : String) (g f : Ref .facade) : Prop :=
  (h.facadeLayers g).find? (h.answers key) = some f ∧
    (g = f ∨ (h.facadeLayers g).tail.any (h.declaresPublic key) = true)

variable {key : String} {f g : Ref .facade} {levels : List (Ref .facade)}

theorem dispatch_of_find? (found : levels.find? (h.answers key) = some f)
    (allowed : levels.head? = some f ∨ levels.tail.any (h.declaresPublic key) = true) :
    h.dispatch key levels = h.levelAnswer key f := by
  have knows : h.answers key f = true := List.find?_some found
  induction levels with
  | nil => cases found
  | cons g above ih =>
    cases hg : h.answers key g with
    | true =>
      obtain rfl : g = f := by simpa [hg] using found
      exact dispatch_of_answers hg above
    | false =>
      have found' : above.find? (h.answers key) = some f := by simpa [hg] using found
      have guard : above.any (h.declaresPublic key) = true := by
        rcases allowed with head | guard
        · obtain rfl : g = f := by simpa using head
          simp [hg] at knows
        · exact guard
      rw [dispatch_of_not_answers hg, if_pos guard]
      refine ih found' ?_
      -- a lowest level that is not the one found does not know the key, so it is not public there
      cases above with
      | nil => cases found'
      | cons p rest =>
        cases hp : h.answers key p with
        | true => exact .inl (by simpa [hp] using found')
        | false =>
          have silent : h.declaresPublic key p = false := by
            simp only [answers, Bool.or_eq_false_iff] at hp
            exact hp.1.2
          exact .inr (by simpa [silent] using guard)

theorem EndsAt.dispatch (ends : h.EndsAt key g f) :
    h.dispatch key (h.facadeLayers g) = h.levelAnswer key f := by
  obtain ⟨found, allowed⟩ := ends
  obtain ⟨above, levels⟩ : ∃ above, h.facadeLayers g = g :: above := ascend_eq_cons _ _ _
  refine dispatch_of_find? found (allowed.imp (fun e => ?_) id)
  rw [levels, e]
  rfl

section AddExternal

variable {v : Value}

theorem find?_external_addExternal (hf : h.facades.contains f = true) (k : String) :
    ((h.addExternal f key v).external g).find? k =
      if g = f ∧ k = key then some v else (h.external g).find? k := by
  rw [addExternal, external_setExternal]
  by_cases hg : g = f
  · subst hg
    by_cases hk : key = k
    · simp [hf, Table.find?_insert, hk]
    · simp [hf, Table.find?_insert, hk, Ne.symm hk]
  · simp [hg, Ne.symm hg]

theorem contains_external_addExternal (hf : h.facades.contains f = true) (k : String) :
    ((h.addExternal f key v).external g).contains k =
      (decide (g = f ∧ k = key) || (h.external g).contains k) := by
  simp only [Table.contains_eq_isSome_find?, find?_external_addExternal hf]
  by_cases hk : g = f ∧ k = key <;> simp [hk]

theorem answers_addExternal (hf : h.facades.contains f = true) (k : String) :
    (h.addExternal f key v).answers k g = (decide (g = f ∧ k = key) || h.answers k g) := by
  have same := sameInside_addExternal h f key v
  simp only [answers, contains_external_addExternal hf, same.declaresPublic,
    same.facadeDefinition, Bool.or_assoc]

theorem levelAnswer_addExternal (hf : h.facades.contains f = true) (k : String) :
    (h.addExternal f key v).levelAnswer k g =
      if g = f ∧ k = key then .ok (.value v) else h.levelAnswer k g := by
  have same := sameInside_addExternal h f key v
  simp only [levelAnswer, find?_external_addExternal hf]
  by_cases hk : g = f ∧ k = key
  · simp only [hk, and_self, if_true]
  · simp only [hk, if_false, same.facadeDefinition, same.facadeState]

theorem dispatch_addExternal_of_ne (hf : h.facades.contains f = true) {k : String} (hk : k ≠ key) :
    (h.addExternal f key v).dispatch k levels = h.dispatch k levels := by
  have same := sameInside_addExternal h f key v
  have public_ : (h.addExternal f key v).declaresPublic k = h.declaresPublic k :=
    same.declaresPublic k
  have knows : (h.addExternal f key v).answers k = h.answers k := by
    funext g
    simp [answers_addExternal hf, hk]
  simp only [dispatch, public_, knows, levelAnswer_addExternal hf, hk, and_false, if_false]

/-- A read that does not end at the facade that was written is what it was. -/
theorem dispatch_addExternal_of_not (hf : h.facades.contains f = true)
    (elsewhere : ¬ (levels.find? ((h.addExternal f key v).answers key) = some f ∧
      (levels.head? = some f ∨ levels.tail.any (h.declaresPublic key) = true))) :
    (h.addExternal f key v).dispatch key levels = h.dispatch key levels := by
  have same := sameInside_addExternal h f key v
  have public_ : (h.addExternal f key v).declaresPublic key = h.declaresPublic key :=
    same.declaresPublic key
  induction levels with
  | nil => rfl
  | cons g above ih =>
    have hg : g ≠ f := by
      rintro rfl
      refine elsewhere ⟨?_, .inl rfl⟩
      simp [answers_addExternal hf]
    have knows : (h.addExternal f key v).answers key g = h.answers key g := by
      simp [answers_addExternal hf, hg]
    cases ha : h.answers key g with
    | true =>
      rw [dispatch_of_answers (knows.trans ha), dispatch_of_answers ha,
        levelAnswer_addExternal hf, if_neg (fun e => hg e.1)]
    | false =>
      rw [dispatch_of_not_answers (knows.trans ha), dispatch_of_not_answers ha, public_]
      cases guard : above.any (h.declaresPublic key) with
      | false => rfl
      | true =>
        rw [if_pos rfl, if_pos rfl]
        refine ih (fun ends => elsewhere ⟨?_, .inr guard⟩)
        rw [List.find?_cons_of_neg (by simp [knows, ha])]
        exact ends.1

end AddExternal

end Heap

namespace World

variable {σ : Type} {w w' : World σ} {f : Ref .facade} {key : String} {v : Value}

theorem run_delete (made : w.heap.facades.contains f = true) (key : String) :
    (OutsideOp.delete f key).program.run w =
      match w.heap.deletePublic f key with
      | .ok h => (.ok .done, w.setHeap h)
      | .error e => (.error e, w) := by
  change (ask (.deletePublic f key) >>= fun _ => pure .done : Program σ Seen).run w = _
  rw [Program.run_bind, Program.run_ask]
  simp only [perform, made, guarded, if_true, update]
  cases w.heap.deletePublic f key <;> rfl

theorem writePublic_of_external (written : (w.heap.external f).contains key = true) :
    w.writePublic f key v = w.setHeap (w.heap.addExternal f key v) := by
  simp only [writePublic, Heap.publicWrite, written, if_true]

theorem writePublic_of_allowed (new : (w.heap.external f).contains key = false)
    (undeclared : (w.heap.facadeDefinition f).isStatic (.text key) = false)
    (allowed : w.settings.allowWriting = true) :
    w.writePublic f key v =
      (w.setHeap (w.heap.addExternal f key v)).warn externalWriteWarning := by
  simp only [writePublic, Heap.publicWrite, new, undeclared, allowed, Bool.false_eq_true, if_false,
    if_true]

theorem writePublic_of_refused (new : (w.heap.external f).contains key = false)
    (undeclared : (w.heap.facadeDefinition f).isStatic (.text key) = false)
    (refused : w.settings.allowWriting = false) :
    w.writePublic f key v =
      w.addLog (.dropped (Text.quoted key) (w.heap.facadeDefinition f).name.plainText) := by
  simp only [writePublic, Heap.publicWrite, new, undeclared, refused, Bool.false_eq_true, if_false]

/-- What the write of an undeclared key onto a facade can make of a world. -/
inductive WriteOutcome (w : World σ) (f : Ref .facade) (key : String) (v : Value) : World σ → Prop
  /-- A key that was written before is overwritten, whatever the settings are. -/
  | overwritten (written : (w.heap.external f).contains key = true) :
      WriteOutcome w f key v (w.setHeap (w.heap.addExternal f key v))
  | addedWithWarning (new : (w.heap.external f).contains key = false)
      (allowed : w.settings.allowWriting = true) (on : w.settings.warnings = true) {r : LogRecord}
      (warning : r.level = "WARNING") :
      WriteOutcome w f key v ((w.setHeap (w.heap.addExternal f key v)).addLog r)
  | addedSilently (new : (w.heap.external f).contains key = false)
      (allowed : w.settings.allowWriting = true) (off : w.settings.warnings = false) :
      WriteOutcome w f key v (w.setHeap (w.heap.addExternal f key v))
  | dropped (new : (w.heap.external f).contains key = false)
      (refused : w.settings.allowWriting = false) {r : LogRecord} (debug : r.level = "DEBUG") :
      WriteOutcome w f key v (w.addLog r)

/-- Apart from the keys that were written onto `f` and from the log, nothing is different. -/
structure InsideKept (w : World σ) (f : Ref .facade) (w' : World σ) : Prop where
  /-- No field, static member, definition or catalog changes. -/
  same : w.heap.SameInside w'.heap
  others : ∀ g, g ≠ f → w'.heap.external g = w.heap.external g
  rest : w'.settings = w.settings ∧ w'.client = w.client ∧ w'.out = w.out
  readPrivate : ∀ s k, w'.heap.readPrivate s k = w.heap.readPrivate s k
  readClass : ∀ c k, w'.heap.readClass c k = w.heap.readClass c k

/-- Who sees from outside that `v` was stored under `key` on the facade `f`. -/
structure SeenThrough (w : World σ) (f : Ref .facade) (key : String) (v : Value)
    (w' : World σ) : Prop where
  stored : w'.heap.external f = (w.heap.external f).insert key v
  itself : (OutsideOp.readFacade f key).run w' = (.ok (.value v), w')
  below : ∀ g, w'.heap.EndsAt key g f →
    (OutsideOp.readFacade g key).run w' = (.ok (.value v), w')
  /-- All other reads give what they gave before. -/
  elsewhere : ∀ g k, ¬ (k = key ∧ w'.heap.EndsAt key g f) →
    (OutsideOp.readFacade g k).run w' = (((OutsideOp.readFacade g k).run w).1, w')
  /-- A key that was new can be deleted again, and then the heap is what it was. -/
  undone : (w.heap.external f).contains key = false →
    (OutsideOp.delete f key).program.run w' = (.ok .done, w'.setHeap w.heap)

theorem writeOutcome_writePublic
    (undeclared : (w.heap.facadeDefinition f).isStatic (.text key) = false) :
    w.WriteOutcome f key v (w.writePublic f key v) := by
  cases new : (w.heap.external f).contains key with
  | true =>
    rw [writePublic_of_external new]
    exact .overwritten new
  | false =>
    cases allowed : w.settings.allowWriting with
    | true =>
      rw [writePublic_of_allowed new undeclared allowed]
      cases on : w.settings.warnings with
      | true =>
        have warned : (w.setHeap (w.heap.addExternal f key v)).warn externalWriteWarning =
            (w.setHeap (w.heap.addExternal f key v)).addLog (.warning externalWriteWarning) :=
          if_pos on
        rw [warned]
        exact .addedWithWarning new allowed on rfl
      | false =>
        have silent : (w.setHeap (w.heap.addExternal f key v)).warn externalWriteWarning =
            w.setHeap (w.heap.addExternal f key v) :=
          if_neg (by simp [setHeap, on])
        rw [silent]
        exact .addedSilently new allowed on
    | false =>
      rw [writePublic_of_refused new undeclared allowed]
      exact .dropped new allowed rfl

namespace WriteOutcome

variable (outcome : w.WriteOutcome f key v w')

include outcome

theorem rest : w'.settings = w.settings ∧ w'.client = w.client ∧ w'.out = w.out := by
  cases outcome <;> exact ⟨rfl, rfl, rfl⟩

theorem heap_eq : w'.heap =
    if (w.heap.external f).contains key || w.settings.allowWriting then w.heap.addExternal f key v
    else w.heap := by
  cases outcome with
  | overwritten written => simp [written]
  | addedWithWarning new allowed on warning => simp [new, allowed, addLog]
  | addedSilently new allowed off => simp [new, allowed]
  | dropped new refused debug => simp [new, refused, addLog]

theorem insideKept : w.InsideKept f w' := by
  have same : w.heap.SameInside w'.heap := by
    rw [outcome.heap_eq]
    split
    · exact Heap.sameInside_addExternal _ _ _ _
    · exact .refl _
  refine ⟨same, fun g hg => ?_, outcome.rest, same.readPrivate, same.readClass⟩
  rw [outcome.heap_eq]
  split
  · rw [Heap.addExternal, Heap.external_setExternal, if_neg (fun e => hg e.1.symm)]
  · rfl

end WriteOutcome

/-- Special names are not looked for among the external keys. -/
theorem run_readFacade_of_sameInside (same : w.heap.SameInside w'.heap) {k : String}
    (special : isSpecial k = true) (g : Ref .facade) :
    (OutsideOp.readFacade g k).run w' = (((OutsideOp.readFacade g k).run w).1, w') := by
  rw [OutsideOp.run_readFacade_of_special g special, OutsideOp.run_readFacade_of_special g special,
    same.hookOf?]

theorem run_readFacade_eq_dispatch {k : String} (plain : isSpecial k = false) (g : Ref .facade)
    (w : World σ) :
    (OutsideOp.readFacade g k).run w =
      ((w.heap.dispatch k (w.heap.facadeLayers g)).map .member, w) := by
  rw [OutsideOp.run_readFacade g plain, Heap.readPublic, Heap.readLevels_eq_dispatch]

theorem seenThrough_of_heap (made : w.heap.facades.contains f = true)
    (plain : isSpecial key = false) (heap : w'.heap = w.heap.addExternal f key v) :
    w.SeenThrough f key v w' := by
  have same := Heap.sameInside_addExternal w.heap f key v
  rw [← heap] at same
  have below (g : Ref .facade) (ends : w'.heap.EndsAt key g f) :
      (OutsideOp.readFacade g key).run w' = (.ok (.value v), w') := by
    rw [run_readFacade_eq_dispatch plain, ends.dispatch, heap, Heap.levelAnswer_addExternal made]
    simp only [and_self, if_true]
    rfl
  refine ⟨?_, below f ⟨?_, .inl rfl⟩, below, fun g k other => ?_, fun new => ?_⟩
  · rw [heap, Heap.addExternal, Heap.external_setExternal, if_pos ⟨rfl, made⟩]
  · obtain ⟨above, levels⟩ : ∃ above, w'.heap.facadeLayers f = f :: above := ascend_eq_cons _ _ _
    rw [levels, heap]
    simp [Heap.answers_addExternal made]
  · cases special : isSpecial k with
    | true => exact run_readFacade_of_sameInside same special g
    | false =>
      rw [run_readFacade_eq_dispatch special, run_readFacade_eq_dispatch special, same.facadeLayers,
        heap]
      by_cases hk : k = key
      · subst hk
        rw [Heap.dispatch_addExternal_of_not made]
        rintro ⟨found, allowed⟩
        obtain ⟨above, levels⟩ : ∃ above, w.heap.facadeLayers g = g :: above :=
          ascend_eq_cons _ _ _
        refine other ⟨rfl, ?_, ?_⟩
        · rwa [same.facadeLayers, heap]
        · rw [same.facadeLayers, same.declaresPublic]
          refine allowed.imp (fun head => ?_) id
          simpa [levels] using head
      · rw [Heap.dispatch_addExternal_of_ne made hk]
  · have written : (w'.heap.external f).contains key = true := by
      rw [heap, Heap.contains_external_addExternal made]
      simp
    have table : (w'.heap.external f).erase key = w.heap.external f := by
      rw [heap, Heap.addExternal, Heap.external_setExternal, if_pos ⟨rfl, made⟩,
        Table.erase_insert_of_not_contains new]
    have made' : w'.heap.facades.contains f = true := (same.present f).trans made
    rw [run_delete made', Heap.deletePublic, if_pos written, table, heap, Heap.addExternal,
      Heap.setExternal_setExternal]

end World

/-- To write an undeclared key onto a facade never fails. The value is stored if the key was written
before or if the settings allow it, and is dropped otherwise. Inside of the instance and on the class
objects everything stays as it is. A stored value is seen on the facade itself and through exactly
those facades below whose read of the key ends there. -/
theorem externalWrite_effect {σ : Type} (w : World σ) {f : Ref .facade}
    (made : w.heap.facades.contains f = true) {key : String} (plain : isSpecial key = false)
    (undeclared : (w.heap.facadeDefinition f).isStatic (.text key) = false) (v : Value) :
    ∃ w', (OutsideOp.write f key v).program.run w = (.ok .done, w') ∧
      w.WriteOutcome f key v w' ∧ w.InsideKept f w' ∧
      (((w.heap.external f).contains key || w.settings.allowWriting) = true →
        w.SeenThrough f key v w') := by
  have outcome := World.writeOutcome_writePublic (w := w) (v := v) undeclared
  refine ⟨w.writePublic f key v, ?_, outcome, outcome.insideKept, fun stored => ?_⟩
  · change (ask (.writePublic f key v) >>= fun _ => pure .done : Program σ Seen).run w = _
    rw [Program.run_bind, Program.run_ask]
    simp only [World.perform, made, World.guarded, if_true, Program.run_pure]
  · exact World.seenThrough_of_heap made plain (outcome.heap_eq.trans (if_pos stored))

namespace Program

/-- The instance of three layers, where new keys may be written from outside. -/
def permissiveWorld : World Unit := (threeLayersWorld.perform (.setAllowWriting true)).2

/-- The name of the root's method was written onto the facade in the middle. -/
def middleWrittenWorld : World Unit :=
  ((OutsideOp.write ⟨1⟩ "greet" (.int 7)).program.run permissiveWorld).2

end Program

/-- What is written onto the facade in the middle is seen on the lowest one, since the root declares
the name public. On the root itself the method is still found. -/
theorem externalWrite_effect_threeLayers :
    Program.permissiveWorld.heap.facades.contains ⟨1⟩ = true ∧ isSpecial "greet" = false ∧
    (Program.permissiveWorld.heap.facadeDefinition ⟨1⟩).isStatic (.text "greet") = false ∧
    (OutsideOp.readFacade ⟨2⟩ "greet").run Program.permissiveWorld =
      (.ok (.member (.method (.function ⟨0⟩) ⟨0⟩)), Program.permissiveWorld) ∧
    (OutsideOp.readFacade ⟨2⟩ "greet").run Program.middleWrittenWorld =
      (.ok (.value (.int 7)), Program.middleWrittenWorld) ∧
    (OutsideOp.readFacade ⟨0⟩ "greet").run Program.middleWrittenWorld =
      (.ok (.member (.method (.function ⟨0⟩) ⟨0⟩)), Program.middleWrittenWorld) ∧
    Program.middleWrittenWorld.log = #[.warning externalWriteWarning] := by
  have made : Program.permissiveWorld.heap.facades.contains ⟨1⟩ = true := by decide
  have plain : isSpecial "greet" = false := by decide
  have undeclared :
      (Program.permissiveWorld.heap.facadeDefinition ⟨1⟩).isStatic (.text "greet") = false := by
    decide
  obtain ⟨w', run, -, -, seen⟩ :=
    externalWrite_effect Program.permissiveWorld made plain undeclared (.int 7)
  obtain rfl : Program.middleWrittenWorld = w' := congrArg Prod.snd run
  have seen := seen rfl
  refine ⟨made, plain, undeclared, rfl, seen.below ⟨2⟩ ⟨rfl, .inr rfl⟩, ?_, rfl⟩
  exact (seen.elsewhere ⟨0⟩ "greet" (fun ends => nomatch ends.2.1)).trans rfl

end ObjectModel
