import ObjectModel.Proofs.ClassBodies
import ObjectModel.Proofs.Redefinition

/-!
# Class bodies on their own

The class body of a builder is its definition so far together with whether it is closed. What is done
with a builder has an outcome, and an effect on its class body, that depend on that class body, on
which values can be called and on the declarations, and on nothing else. What is not done with the
builder leaves the class body as it is, but for the values of static members once it is closed.
-/

namespace ObjectModel

/-- The builder whose class body an action is to change. -/
def Action.builder? {σ : Type} : Action σ → Option (Ref .builder)
  | .setParent b _ | .addMembers b _ _ | .closeBuilder b => some b
  | _ => none

/-- The action changes neither what counts as callable nor which declarations there are. -/
def Action.KeepsSetting {σ : Type} : Action σ → Prop
  | .newLayer _ _ | .declare _ | .keep _ => False
  | _ => True

/-- The action writes no static member of the definition of a builder. -/
def Action.Spares {σ : Type} (b : Ref .builder) (h : Heap) (a : Action σ) : Prop :=
  ∀ view key v, a.write? = some (view, key, v) → view.definition h ≠ h.builderDefinition b

/-- A class body: the definition so far, and whether it is closed. -/
structure Body where
  record : Definition
  closed : Bool

namespace Body

section Steps

variable (callable : Value → Bool) (declared : Ref .declaration → Declaration)
  (text : Definition → Except Fault String)

/-- The fault of doing something with a class body that is closed. -/
def refusal (x : Body) : Fault := .alreadyFinalized x.record.name

def applyItem (d : Declaration) (x : Body) : Except Fault Unit × Body :=
  if x.closed then (.error x.refusal, x)
  else
    match d.edit callable x.record with
    | .ok r => (.ok (), { x with record := r })
    | .error e => (.error e, x)

def applyAll : List (Ref .declaration) → Body → Except Fault Unit × Body
  | [], x => (.ok (), x)
  | d :: ds, x =>
    match x.applyItem callable (declared d) with
    | (.ok _, x') => applyAll ds x'
    | (.error e, x') => (.error e, x')

/-- What comes of registering and reporting a definition in a catalog that is there. -/
def registration (r : Definition) : Except Fault Unit :=
  match r.typeFault?, r.name with
  | some e, _ => .error e
  | none, .text _ => (text r).map (fun _ => ())
  | none, _ => .error .wrongType

def finalize (x : Body) : Except Fault Unit × Body :=
  if x.closed then (.error x.refusal, x)
  else (registration text x.record, { x with closed := true })

/-- What an operation on a builder does to its class body alone. -/
def step : BodyOp → Body → Except Fault Unit × Body
  | .extend name, x => x.applyItem callable (.parent name)
  | .members part t, x => x.applyItem callable (.members part t)
  | .apply ds, x => x.applyAll callable declared ds
  | .finalize, x => x.finalize text
  | .build ds, x =>
    match x.applyAll callable declared ds with
    | (.ok _, x') => x'.finalize text
    | (.error e, x') => (.error e, x')

end Steps

variable {x y z : Body} {strict strict' : Prop}

/-- Two class bodies that are open or closed together. As long as they are open they are the same;
once they are closed the values of static members can differ, unless `strict` holds. -/
structure Like (strict : Prop) (x y : Body) : Prop where
  closed : y.closed = x.closed
  same : x.record.SameBody y.record
  equal : x.closed = false ∨ strict → y.record = x.record

theorem Like.refl (strict : Prop) (x : Body) : x.Like strict x :=
  ⟨rfl, .refl _, fun _ => rfl⟩

theorem Like.trans (h : x.Like strict y) (h' : y.Like strict z) : x.Like strict z where
  closed := h'.closed.trans h.closed
  same := h.same.trans h'.same
  equal := by
    intro known
    have later : y.closed = false ∨ strict := known.imp_left h.closed.trans
    exact (h'.equal later).trans (h.equal known)

theorem Like.mono (h : x.Like strict y) (weaker : strict' → strict) : x.Like strict' y :=
  ⟨h.closed, h.same, fun known => h.equal (known.imp_right weaker)⟩

theorem Like.eq (h : x.Like strict y) (known : x.closed = false ∨ strict) : y = x := by
  obtain ⟨r, closed⟩ := x
  obtain ⟨r', closed'⟩ := y
  rw [mk.injEq]
  exact ⟨h.equal known, h.closed⟩

section Steps

variable (callable : Value → Bool) (declared : Ref .declaration → Declaration)
  (text : Definition → Except Fault String)

/-- A class body that is closed stays as it is, and what is done with it fails, unless that is
nothing at all. -/
theorem step_of_closed (closed : x.closed = true) (op : BodyOp) :
    x.step callable declared text op = (if op = .apply [] then .ok () else .error x.refusal, x) := by
  have item (d : Declaration) : x.applyItem callable d = (.error x.refusal, x) := by
    rw [applyItem, closed]
    rfl
  have close : x.finalize text = (.error x.refusal, x) := by
    rw [finalize, closed]
    rfl
  cases op with
  | extend name | members part t => simp only [step, item, reduceCtorEq, if_false]
  | finalize => simp only [step, close, reduceCtorEq, if_false]
  | apply ds =>
    cases ds with
    | nil => rfl
    | cons d ds => simp only [step, applyAll, item, BodyOp.apply.injEq, reduceCtorEq, if_false]
  | build ds =>
    cases ds with
    | nil => simp only [step, applyAll, close, reduceCtorEq, if_false]
    | cons d ds => simp only [step, applyAll, item, reduceCtorEq, if_false]

/-- What is done with class bodies that are alike comes to the same and leaves them alike. -/
theorem Like.step (h : x.Like strict y) (op : BodyOp) :
    (y.step callable declared text op).1 = (x.step callable declared text op).1 ∧
      (x.step callable declared text op).2.Like strict (y.step callable declared text op).2 := by
  cases hx : x.closed with
  | false =>
    obtain rfl := h.eq (.inl hx)
    exact ⟨rfl, .refl strict _⟩
  | true =>
    have hy : y.closed = true := h.closed.trans hx
    have sameRefusal : y.refusal = x.refusal := congrArg Fault.alreadyFinalized h.same.name
    rw [step_of_closed _ _ _ hx, step_of_closed _ _ _ hy, sameRefusal]
    exact ⟨rfl, h⟩

end Steps

end Body

namespace Heap

variable {σ : Type} {a : Action σ} {h h' : Heap} {b : Ref .builder}

/-- The class body of a builder. -/
def body (h : Heap) (b : Ref .builder) : Body :=
  ⟨h.definition (h.builderDefinition b), h.finalized b⟩

/-- What class bodies depend on besides themselves: which values can be called, and the
declarations. -/
structure SameSetting (h h' : Heap) : Prop where
  callable : h'.callable = h.callable
  declarations : h'.declarations = h.declarations

theorem SameSetting.refl (h : Heap) : h.SameSetting h := ⟨rfl, rfl⟩

theorem SameSetting.symm (same : h.SameSetting h') : h'.SameSetting h :=
  ⟨same.callable.symm, same.declarations.symm⟩

theorem SameSetting.trans {h'' : Heap} (first : h.SameSetting h') (second : h'.SameSetting h'') :
    h.SameSetting h'' :=
  ⟨second.callable.trans first.callable, second.declarations.trans first.declarations⟩

/-- Without new layers nothing becomes callable. -/
theorem Step.callable_eq (hs : h.Step a h') (built : h.Built) (layered : h.Layered)
    (noLayer : ∀ c parent, a ≠ .newLayer c parent) : h'.callable = h.callable := by
  have states (s : Ref .state) : h'.states.contains s = h.states.contains s := by
    cases hs with
    | newLayer _ _ => exact absurd rfl (noLayer _ _)
    | writeField _ _ _ _ | deleteField _ _ => simp [setFields]
    | _ => rfl
  have facades (f : Ref .facade) : h'.facades.contains f = h.facades.contains f := by
    cases hs with
    | newLayer _ _ => exact absurd rfl (noLayer _ _)
    | addExternal _ _ _ | deleteExternal _ _ => simp [Heap.addExternal, setExternal]
    | _ => rfl
  have hook {s : Ref .state} (made : h.states.contains s = true) :
      h'.hook? (h'.stateClass s) "__call__" = h.hook? (h.stateClass s) "__call__" := by
    rw [hs.extends.stateClass_eq made, hook?, hs.extends.class_eq (built.made s made)]
    rfl
  funext v
  cases v with
  | state s =>
    cases made : h.states.contains s with
    | false => simp only [callable, states, made, Bool.false_and]
    | true => simp only [callable, states, made, hook made]
  | facade f =>
    cases made : h.facades.contains f with
    | false => simp only [callable, facades, made, Bool.false_and]
    | true =>
      simp only [callable, facades, made]
      change (true && (h'.hook? (h'.stateClass (h'.facadeState f)) "__call__").isSome) = _
      rw [hs.extends.facadeState_eq made, hook (layered.behind f made)]
      rfl
  | _ => rfl

theorem Step.sameSetting (hs : h.Step a h') (built : h.Built) (layered : h.Layered)
    (keeps : a.KeepsSetting) : h.SameSetting h' where
  callable := hs.callable_eq built layered (by rintro c parent rfl; exact keeps)
  declarations := by
    cases hs with
    | declare d | keep d => cases keeps
    | _ => rfl

/-- A builder that is there, in a catalog that is there. -/
structure Placed (h : Heap) (b : Ref .builder) : Prop where
  built : h.Built
  layered : h.Layered
  made : h.builders.contains b = true
  housed : h.catalogs.contains (h.builders.get b).catalog = true

theorem Placed.owned (placed : h.Placed b) :
    h.definitions.contains (h.builderDefinition b) = true :=
  placed.built.owned b placed.made

theorem Placed.step (placed : h.Placed b) (hs : h.Step a h') : h'.Placed b where
  built := placed.built.step hs
  layered := placed.layered.step hs
  made := (hs.extends.builders b placed.made).1
  housed := by
    have same : (h'.builders.get b).catalog = (h.builders.get b).catalog :=
      congrArg Prod.fst (hs.extends.builders b placed.made).2
    rw [same]
    exact (hs.extends.catalogs _ placed.housed).1

/-- Every builder is in a catalog that is there. -/
def Housed (h : Heap) : Prop :=
  ∀ b, h.builders.contains b = true → h.catalogs.contains (h.builders.get b).catalog = true

theorem Step.housed (hs : h.Step a h') (housed : h.Housed) : h'.Housed := by
  intro b made
  cases there : h.builders.contains b with
  | true =>
    have same : (h'.builders.get b).catalog = (h.builders.get b).catalog :=
      congrArg Prod.fst (hs.extends.builders b there).2
    rw [same]
    exact (hs.extends.catalogs _ (housed b there)).1
  | false =>
    cases hs with
    | openBuilder name inCatalog =>
      have new : h.builders.contains b = true ∨ b = h.builders.next :=
        (Store.contains_push_iff _ _ _).mp made
      obtain rfl : b = h.builders.next := new.resolve_left (by simp [there])
      exact (congrArg (fun r => h.catalogs.contains (Builder.catalog r))
        (Store.get_push_next _ _)).trans inCatalog
    | closeBuilder _ _ =>
      rw [Store.contains_set, there] at made
      cases made
    | _ => exact absurd (made.symm.trans there) (by simp)

/-- A builder in its place, and no class has its definition before the class body is closed. -/
structure Tended (h : Heap) (b : Ref .builder) : Prop extends Placed h b where
  unused : ∀ c, h.classes.contains c = true →
    (h.classes.get c).definition = h.builderDefinition b → h.Closed (h.builderDefinition b)

theorem Tended.step (tended : h.Tended b) (inOrder : a.InOrder h) (hs : h.Step a h') :
    h'.Tended b where
  toPlaced := tended.toPlaced.step hs
  unused := by
    intro c hc owns
    rw [← owns]
    refine hs.closed_class tended.built inOrder hc (fun there => ?_)
    rw [hs.extends.class_eq there, hs.extends.builderDefinition_eq tended.made] at owns
    rw [owns]
    exact tended.unused c there owns

/-- A builder that has just been opened has an empty class body. -/
theorem tended_openBuilder (built : h.Built) (layered : h.Layered) {k : Ref .catalog}
    (inCatalog : h.catalogs.contains k = true) (name : Value) :
    (h.openBuilder k name).2.Tended h.builders.next ∧
      (h.openBuilder k name).2.body h.builders.next = ⟨.named name, false⟩ := by
  have hs : h.Step (.openBuilder k name : Action Unit) (h.openBuilder k name).2 :=
    .openBuilder name inCatalog
  have get : (h.openBuilder k name).2.builders.get h.builders.next =
      ⟨k, h.definitions.next, false⟩ := Store.get_push_next _ _
  refine ⟨⟨⟨built.step hs, layered.step hs, Store.contains_push_next _ _, ?_⟩, ?_⟩, ?_⟩
  · rw [get]
    exact inCatalog
  · intro c hc owns
    rw [builderDefinition, get] at owns
    exact absurd owns (Store.ne_next (built.defined c hc))
  · rw [body, builderDefinition, finalized, get]
    exact congrArg (Body.mk · false) (Store.get_push_next _ _)

theorem body_congr (builder : h'.builders.get b = h.builders.get b)
    (record : h'.definition (h.builderDefinition b) = h.definition (h.builderDefinition b)) :
    h'.body b = h.body b := by
  have owns : h'.builderDefinition b = h.builderDefinition b := congrArg Builder.definition builder
  rw [body, owns, record, finalized, builder]
  rfl

/-- What is not done with a builder leaves its class body as it is, but for the values of static
members once it is closed. -/
theorem Step.like (hs : h.Step a h') (tended : h.Tended b) (other : a.builder? ≠ some b) :
    (h.body b).Like (a.Spares b h) (h'.body b) := by
  have kept (same : h'.body b = h.body b) : (h.body b).Like (a.Spares b h) (h'.body b) := by
    rw [same]
    exact .refl _ _
  have elsewhere {b' : Ref .builder} (made : h.builders.contains b' = true) (hne : b' ≠ b) :
      h.builderDefinition b' ≠ h.builderDefinition b :=
    fun same => hne (tended.built.owner b' b made tended.made same)
  cases hs with
  | stay _ | newCatalog | declare _ | keep _ | register _ _ _ | newLayer _ _ | writeField _ _ _ _
  | deleteField _ _ | addExternal _ _ _ | deleteExternal _ _ => exact .refl _ _
  | openBuilder name inCatalog =>
    exact kept (body_congr (Store.get_push_of_contains tended.made _)
      (Store.get_push_of_contains tended.owned _))
  | registerOutside name hooks inCatalog =>
    exact kept (body_congr rfl (Store.get_push_of_contains tended.owned _))
  | setParent name made isOpen | addMembers made isOpen fit =>
    have hne := elsewhere made (fun same => other (congrArg some same))
    exact kept (body_congr rfl (Store.get_set_of_ne _ hne _))
  | closeBuilder made isOpen =>
    have hne := fun same => other (congrArg some same)
    exact kept (body_congr (Store.get_set_of_ne _ hne _) rfl)
  | @setStatic view key v present declared =>
    by_cases own : view.definition h = h.builderDefinition b
    -- what has a class object has been closed, so that a value may change but no key
    · have made := tended.built.contains_cls tended.layered present
      have closed : h.finalized b = true := tended.unused _ made own b tended.made rfl
      refine ⟨rfl, ?_, ?_⟩
      · rw [own]
        change (h.definition _).SameBody ((h.definitions.modify _ _).get (h.builderDefinition b))
        rw [Store.get_modify_self tended.owned]
        exact Definition.sameBody_setStatic (own ▸ declared) v
      · rintro (isOpen | spares)
        · exact absurd (closed.symm.trans isOpen) (by decide)
        · exact absurd own (spares view key v (Action.write?_eq_some.mpr rfl))
    · exact kept (body_congr rfl (Store.get_modify_of_ne _ own _))

/-- A definition is refused for reasons of its own, or it is registered, and then no class body
changes. -/
theorem register_cases (h : Heap) (k : Ref .catalog) (d : Ref .definition)
    (text : Definition → Except Fault String) :
    (∃ e, h.register k d = .error e ∧ Body.registration text (h.definition d) = .error e) ∨
    ∃ c h', h.register k d = .ok (c, h') ∧
      Body.registration text (h.definition d) = (text (h.definition d)).map (fun _ => ()) ∧
      h'.builders = h.builders ∧ h'.definitions = h.definitions := by
  simp only [Heap.register, Body.registration]
  cases (h.definition d).typeFault? with
  | some e => exact .inl ⟨e, rfl, rfl⟩
  | none =>
    cases (h.definition d).name with
    | text name => exact .inr ⟨_, _, rfl, rfl, rfl, rfl⟩
    | _ => exact .inl ⟨_, rfl, rfl⟩

end Heap

namespace World

variable {σ : Type} {w : World σ} {b : Ref .builder} {as : List (Action σ)}

theorem Reachable.placed (reachable : w.Reachable) (made : w.heap.builders.contains b = true) :
    w.heap.Placed b where
  built := reachable.built
  layered := reachable.layered
  made := made
  housed := by
    have housed : w.heap.Housed := reachable.invariant
      (fun b there => by simp [Heap.initial, Store.contains] at there)
      (fun _ _ _ hs => hs.housed)
    exact housed b made

theorem placed_after (placed : w.heap.Placed b) (as : List (Action σ)) :
    (w.after as).heap.Placed b := by
  induction as generalizing w with
  | nil => exact placed
  | cons a as ih => exact ih (placed.step (perform_step w a))

theorem Each.tended (each : w.Each (fun h a => a.InOrder h) as) (tended : w.heap.Tended b) :
    (w.after as).heap.Tended b := by
  induction as generalizing w with
  | nil => exact tended
  | cons a as ih => exact ih each.2 (tended.step each.1 (perform_step w a))

theorem Each.sameSetting (each : w.Each (fun _ a => a.KeepsSetting) as) (built : w.heap.Built)
    (layered : w.heap.Layered) : w.heap.SameSetting (w.after as).heap := by
  induction as generalizing w with
  | nil => exact .refl _
  | cons a as ih =>
    have hs := perform_step w a
    exact (hs.sameSetting built layered each.1).trans
      (ih each.2 (built.step hs) (layered.step hs))

theorem Each.like {strict : Prop} (tended : w.heap.Tended b)
    (each : w.Each (fun h a => a.InOrder h ∧ a.builder? ≠ some b ∧ (strict → a.Spares b h)) as) :
    (w.heap.body b).Like strict ((w.after as).heap.body b) := by
  induction as generalizing w with
  | nil => exact .refl _ _
  | cons a as ih =>
    obtain ⟨⟨inOrder, other, spares⟩, rest⟩ := each
    have hs := perform_step w a
    exact ((hs.like tended other).mono spares).trans (ih (tended.step inOrder hs) rest)

end World

/-- What the actions of an operation on a builder are. -/
structure Action.OfBody {σ : Type} (b : Ref .builder) (h : Heap) (a : Action σ) : Prop where
  inOrder : a.InOrder h
  keeps : a.KeepsSetting
  writesNot : a.write? = none
  only : ∀ b', a.builder? = some b' → b' = b

namespace BodyOp

open Program

variable {σ : Type} (call : Value → Arguments → Program σ Value) (spoken : Value → Program σ String)
  (text : Definition → Except Fault String) {w : World σ} {b : Ref .builder}

theorem ofBody_of_none {h : Heap} {a : Action σ} (inOrder : a.InOrder h) (keeps : a.KeepsSetting)
    (writesNot : a.write? = none) (noBuilder : a.builder? = none) : a.OfBody b h := by
  refine ⟨inOrder, keeps, writesNot, fun b' changes => ?_⟩
  rw [noBuilder] at changes
  cases changes

theorem ofBody_of_some {h : Heap} {a : Action σ} (inOrder : a.InOrder h) (keeps : a.KeepsSetting)
    (writesNot : a.write? = none) (changes : a.builder? = some b) : a.OfBody b h := by
  refine ⟨inOrder, keeps, writesNot, fun b' changes' => ?_⟩
  rw [changes] at changes'
  exact (Option.some.inj changes').symm

theorem each_applyAll (ds : List (Ref .declaration)) :
    w.Each (fun h a => a.OfBody b h) ((applyAll b ds : Program σ Unit).trace w) := by
  induction ds generalizing w with
  | nil => trivial
  | cons d ds ih =>
    refine each_trace_bind (each_trace_bind (each_trace_ask ?_) (fun h u _ => ?_)) (fun _ _ _ => ih)
    · exact ofBody_of_none trivial trivial rfl rfl
    · cases h.declarations.get d with
      | parent name => exact each_trace_ask (ofBody_of_some trivial trivial rfl rfl)
      | members part t => exact each_trace_ask (ofBody_of_some trivial trivial rfl rfl)

theorem each_finalize (built : w.heap.Built) :
    w.Each (fun h a => a.OfBody b h)
      (((Client.describing call spoken text).finalize b).trace w) :=
  ClassOp.each_finalize call spoken text (fun _ => ofBody_of_none trivial trivial rfl rfl)
    (fun _ _ => ofBody_of_none trivial trivial rfl rfl)
    (fun _ _ _ closed => ofBody_of_none closed trivial rfl rfl) built
    (ofBody_of_some trivial trivial rfl rfl)

/-- An operation on a builder is made of actions on this builder alone. -/
theorem each_program (built : w.heap.Built) (op : BodyOp) :
    w.Each (fun h a => a.OfBody b h)
      ((op.program (.describing call spoken text) b).trace w) := by
  have finalize {u : World σ} (built : u.heap.Built) : u.Each (fun h a => a.OfBody b h)
      ((BodyOp.finalize.program (.describing call spoken text) b).trace u) :=
    each_trace_bind (each_finalize call spoken text built) (fun _ _ _ => trivial)
  cases op with
  | extend name | members part t =>
    exact each_trace_ask (ofBody_of_some trivial trivial rfl rfl)
  | apply ds => exact each_applyAll ds
  | finalize => exact finalize built
  | build ds =>
    refine each_trace_bind (each_applyAll ds) (fun _ u run => finalize ?_)
    have reaches := run_reaches (applyAll b ds) w
    rw [run] at reaches
    exact reaches.built built

end BodyOp

namespace World

variable {σ : Type} {w : World σ} {b : Ref .builder}

theorem applyItem_body (placed : w.heap.Placed b) (d : Declaration) :
    (w.applyItem b d).1 = ((w.heap.body b).applyItem w.heap.callable d).1 ∧
      (w.applyItem b d).2.heap.body b = ((w.heap.body b).applyItem w.heap.callable d).2 := by
  cases closed : w.heap.finalized b with
  | true =>
    rw [applyItem_of_finalized placed.made closed, Body.applyItem, Heap.body, closed]
    exact ⟨rfl, rfl⟩
  | false =>
    have isOpen : (w.heap.body b).closed = false := closed
    cases done : d.edit w.heap.callable (w.heap.definition (w.heap.builderDefinition b)) with
    | error e =>
      have done' : d.edit w.heap.callable (w.heap.body b).record = .error e := done
      have stays : w.applyItem b d = (.error e, w) := by
        simp [applyItem, placed.made, Heap.editOpen, closed, done, guarded, update, bind, Except.bind]
      rw [stays, Body.applyItem, isOpen, done']
      exact ⟨rfl, rfl⟩
    | ok r =>
      have done' : d.edit w.heap.callable (w.heap.body b).record = .ok r := done
      have changed : w.applyItem b d =
          (.ok (), w.setHeap (w.heap.setDefinition (w.heap.builderDefinition b) r)) := by
        simp [applyItem, placed.made, Heap.editOpen, closed, done, guarded, update, bind, Except.bind]
        rfl
      rw [changed, Body.applyItem, isOpen, done']
      refine ⟨rfl, ?_⟩
      change Body.mk ((w.heap.definitions.set _ r).get (w.heap.builderDefinition b))
        (w.heap.finalized b) = ⟨r, false⟩
      rw [Store.get_set_self placed.owned, closed]

theorem placed_applyItem (placed : w.heap.Placed b) (d : Declaration) :
    (w.applyItem b d).2.heap.Placed b ∧ w.heap.SameSetting (w.applyItem b d).2.heap := by
  have each {a : Action σ} (keeps : a.KeepsSetting) :
      (w.perform a).2.heap.Placed b ∧ w.heap.SameSetting (w.perform a).2.heap :=
    ⟨placed.step (perform_step w a),
      (perform_step w a).sameSetting placed.built placed.layered keeps⟩
  cases d with
  | parent name => exact each (a := .setParent b name) trivial
  | members part t => exact each (a := .addMembers b part t) trivial

theorem run_applyAll (placed : w.heap.Placed b) (ds : List (Ref .declaration)) :
    ((BodyOp.applyAll b ds).run w).1 =
        ((w.heap.body b).applyAll w.heap.callable w.heap.declarations.get ds).1 ∧
      ((BodyOp.applyAll b ds).run w).2.heap.body b =
        ((w.heap.body b).applyAll w.heap.callable w.heap.declarations.get ds).2 := by
  induction ds generalizing w with
  | nil => exact ⟨rfl, rfl⟩
  | cons d ds ih =>
    obtain ⟨outcome, body⟩ := applyItem_body placed (w.heap.declarations.get d)
    obtain ⟨placed', setting⟩ := placed_applyItem placed (w.heap.declarations.get d)
    rw [BodyOp.applyAll, Program.run_bind, run_applyDeclaration, Body.applyAll]
    cases item : w.applyItem b (w.heap.declarations.get d) with
    | mk r w' =>
      cases item' : (w.heap.body b).applyItem w.heap.callable (w.heap.declarations.get d) with
      | mk r' x' =>
        simp only [item, item'] at outcome body placed' setting
        subst outcome
        subst body
        cases r with
        | error e => exact ⟨rfl, rfl⟩
        | ok u =>
          have rest := ih placed'
          rw [setting.callable, setting.declarations] at rest
          exact rest

section Client

variable (call : Value → Arguments → Program σ Value) (spoken : Value → Program σ String)
  (text : Definition → Except Fault String)

theorem run_report (u : World σ) (d : Ref .definition) (c : Ref .cls) :
    ∃ u', ((do
        ask (.note (.committed (← (Client.describing call spoken text).describe d)))
        return c : Program σ (Ref .cls)) >>= fun _ => pure ()).run u =
          ((text (u.heap.definition d)).map (fun _ => ()), u') ∧ u'.heap = u.heap := by
  have described : ((Client.describing call spoken text).describe d).run u =
      (text (u.heap.definition d), u) := Program.run_settle _ _
  cases line : text (u.heap.definition d) with
  | error e =>
    rw [line] at described
    exact ⟨u, Program.run_bind_of_error (Program.run_bind_of_error described), rfl⟩
  | ok s =>
    rw [line] at described
    refine ⟨u.addLog (.committed s), ?_, rfl⟩
    rw [Program.run_bind_assoc, Program.run_bind_of_ok described]
    rfl

/-- What comes of the registration of a definition depends on the definition alone. -/
theorem run_commit {k : Ref .catalog} {d : Ref .definition}
    (inCatalog : w.heap.catalogs.contains k = true)
    (defined : w.heap.definitions.contains d = true) :
    ∃ w', ((Client.describing call spoken text).commit k d >>= fun _ => pure ()).run w =
        (Body.registration text (w.heap.definition d), w') ∧
      w'.heap.builders = w.heap.builders ∧ w'.heap.definitions = w.heap.definitions := by
  have registers {r : Except Fault (Ref .cls × Heap)} (same : w.heap.register k d = r) :
      (ask (.register k d) : Program σ (Ref .cls)).run w = w.updateWith r := by
    rw [Program.run_ask, perform, inCatalog, defined, same]
    rfl
  rcases w.heap.register_cases k d text with ⟨e, same, outcome⟩ | ⟨c, h, same, outcome, kept⟩
  · rw [outcome]
    exact ⟨w, Program.run_bind_of_error (Program.run_bind_of_error (registers same)), rfl, rfl⟩
  · obtain ⟨w', report, there⟩ := run_report call spoken text (w.setHeap h) d c
    rw [heap_setHeap, Heap.definition_congr kept.2] at report
    refine ⟨w', ?_, by rw [there]; exact kept.1, by rw [there]; exact kept.2⟩
    rw [outcome, ← report, Client.commit, Program.run_bind_assoc]
    exact Program.run_bind_of_ok (registers same)

/-- To finalize a builder closes its class body. What comes of it depends on the definition alone. -/
theorem run_finalize (placed : w.heap.Placed b) :
    (((BodyOp.finalize.program (.describing call spoken text) b).run w).1 =
        ((w.heap.body b).finalize text).1) ∧
      ((BodyOp.finalize.program (.describing call spoken text) b).run w).2.heap.body b =
        ((w.heap.body b).finalize text).2 := by
  cases closed : w.heap.finalized b with
  | true =>
    have isClosed : (w.heap.body b).closed = true := closed
    rw [run_bodyOp_of_finalized placed.made closed _ (by nofun), Body.finalize, isClosed]
    exact ⟨rfl, rfl⟩
  | false =>
    have isOpen : (w.heap.body b).closed = false := closed
    have get := Heap.builder_withClosed placed.made
    have closing : (ask (.closeBuilder b) : Program σ Unit).run w =
        (.ok (), w.setHeap (w.heap.withClosed b)) :=
      (Program.run_ask _ _).trans (perform_closeBuilder_of_open placed.made closed)
    obtain ⟨w', run, builders, definitions⟩ := run_commit call spoken text
      (w := w.setHeap (w.heap.withClosed b)) placed.housed placed.owned
    have outcome : (BodyOp.finalize.program (.describing call spoken text) b).run w =
        (Body.registration text (w.heap.body b).record, w') := by
      rw [BodyOp.program, Client.finalize, Program.run_bind_assoc, Program.run_bind_of_ok closing,
        Program.run_bind_assoc, Program.run_look_bind, heap_setHeap, get]
      exact run
    have body : w'.heap.body b = { w.heap.body b with closed := true } := by
      have owns : w'.heap.builders.get b = { w.heap.builders.get b with finalized := true } := by
        rw [builders]
        exact get
      rw [Heap.body, Heap.builderDefinition, Heap.finalized, owns, Heap.definition, definitions]
      rfl
    rw [outcome, Body.finalize, isOpen, body]
    exact ⟨rfl, rfl⟩

/-- An operation on a builder does to its class body what it would do to that class body alone. -/
theorem run_bodyOp (placed : w.heap.Placed b) (op : BodyOp) :
    ((op.program (.describing call spoken text) b).run w).1 =
        ((w.heap.body b).step w.heap.callable w.heap.declarations.get text op).1 ∧
      ((op.program (.describing call spoken text) b).run w).2.heap.body b =
        ((w.heap.body b).step w.heap.callable w.heap.declarations.get text op).2 := by
  cases op with
  | extend name =>
    rw [BodyOp.program, Program.run_ask, setParent_eq_applyItem]
    exact applyItem_body placed _
  | members part t =>
    rw [BodyOp.program, Program.run_ask, addMembers_eq_applyItem]
    exact applyItem_body placed _
  | apply ds => exact run_applyAll placed ds
  | finalize => exact run_finalize call spoken text placed
  | build ds =>
    have placed' : ((BodyOp.applyAll b ds).run w).2.heap.Placed b := by
      rw [← Program.after_trace]
      exact placed_after placed _
    obtain ⟨outcome, body⟩ := run_applyAll placed ds
    rw [BodyOp.program, Program.run_bind, Body.step]
    cases run : (BodyOp.applyAll b ds).run w with
    | mk r w' =>
      cases alone : (w.heap.body b).applyAll w.heap.callable w.heap.declarations.get ds with
      | mk r' x' =>
        simp only [run, alone] at outcome body placed'
        subst outcome
        subst body
        cases r with
        | error e => exact ⟨rfl, rfl⟩
        | ok u => exact run_finalize call spoken text placed'

end Client

end World

end ObjectModel
