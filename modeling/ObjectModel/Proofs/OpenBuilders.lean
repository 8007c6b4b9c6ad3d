import ObjectModel.Proofs.BodySteps

/-!
# Open builders

Any number of builders can be open at the same time, on whatever catalogs and for whatever names.
Each of them keeps its class body to itself: what is done with a builder has the outcomes, and leaves
the definition, that it would have if nothing were done with any other. Declarations can be shared
by builders, for a builder takes the entries of a declaration and not the declaration itself.
-/

namespace ObjectModel

/-- What can happen while builders are open: a further catalog or builder is made, a declaration is
made, something is done with a builder, or a static member is written through a class or through an
instance. -/
inductive Event where
  | newCatalog
  | define (k : Ref .catalog) (name : Value)
  | declare (d : Declaration)
  | use (b : Ref .builder) (op : BodyOp)
  | write (view : View) (key : String) (v : Value)

namespace Event

section

variable {σ : Type} (client : Client (Program σ))

def program : Event → Program σ Unit
  | .newCatalog => do let _ ← ask .newCatalog
  | .define k name => do let _ ← ask (.openBuilder k name)
  | .declare d => do let _ ← ask (.declare d)
  | .use b op => op.program client b
  | .write view key v => view.write key v

/-- The world after some events, each of which takes place also if those before have failed. -/
def after : List Event → World σ → World σ
  | [], w => w
  | e :: es, w => after es ((e.program client).run w).2

/-- What comes of all that is done with a builder. -/
def outcomes (b : Ref .builder) : List Event → World σ → List (Except Fault Unit)
  | [], _ => []
  | e :: es, w =>
    let (r, w') := (e.program client).run w
    match e with
    | .use b' _ => if b' = b then r :: outcomes b es w' else outcomes b es w'
    | _ => outcomes b es w'

/-- No event writes a static member of the definition of a builder. -/
def Spare (b : Ref .builder) : List Event → World σ → Prop
  | [], _ => True
  | e :: es, w =>
    (∀ view key v, e = .write view key v → view.definition w.heap ≠ w.heap.builderDefinition b) ∧
      Spare b es ((e.program client).run w).2

end

/-- What remains of an event if there is only the builder `b`, under the name `b'`: declarations are
made all the same. -/
def own (b b' : Ref .builder) : Event → Option Event
  | .declare d => some (.declare d)
  | .use b'' op => if b'' = b then some (.use b' op) else none
  | _ => none

/-- The declarations among some events. -/
def declaring : Event → Bool
  | .declare _ => true
  | _ => false

section

variable {σ : Type} {b b₀ : Ref .builder} {w w₀ : World σ} {strict : Prop}

/-- The builder `b₀` in `w₀`, where nothing was done with any other, goes with the builder `b` in
`w`. -/
structure Mirrors (strict : Prop) (b₀ : Ref .builder) (w₀ : World σ) (b : Ref .builder)
    (w : World σ) : Prop where
  tended₀ : w₀.heap.Tended b₀
  tended : w.heap.Tended b
  setting : w₀.heap.SameSetting w.heap
  like : (w₀.heap.body b₀).Like strict (w.heap.body b)

theorem declarations_declare (setting : w₀.heap.SameSetting w.heap) (d : Declaration) :
    (w.perform (.declare d)).2.heap.declarations =
      (w₀.perform (.declare d)).2.heap.declarations := by
  cases d with
  | parent name => exact congrArg (Store.push · _) setting.declarations
  | members part t =>
    simp only [World.perform, Heap.declare, setting.callable]
    cases part.check w₀.heap.callable t with
    | error e => exact setting.declarations
    | ok u => exact congrArg (Store.push · _) setting.declarations

theorem world_declare (client : Client (Program σ)) (w : World σ) (d : Declaration) :
    (((Event.declare d).program client).run w).2 = (w.perform (.declare d)).2 := by
  rw [program, Program.run_bind, Program.run_ask]
  cases w.perform (.declare d) with
  | mk r w' => cases r <;> rfl

/-- A declaration is made in both worlds or in none. -/
theorem sameSetting_declare (setting : w₀.heap.SameSetting w.heap) (built : w.heap.Built)
    (layered : w.heap.Layered) (built₀ : w₀.heap.Built) (layered₀ : w₀.heap.Layered)
    (d : Declaration) :
    (w₀.perform (.declare d)).2.heap.SameSetting (w.perform (.declare d)).2.heap where
  callable := by
    have noLayer : ∀ c parent, (.declare d : Action σ) ≠ .newLayer c parent := by simp
    rw [(World.perform_step w (.declare d)).callable_eq built layered noLayer,
      (World.perform_step w₀ (.declare d)).callable_eq built₀ layered₀ noLayer]
    exact setting.callable
  declarations := declarations_declare setting d

theorem Mirrors.declare (m : Mirrors strict b₀ w₀ b w) (d : Declaration) :
    Mirrors strict b₀ (w₀.perform (.declare d)).2 b (w.perform (.declare d)).2 := by
  have inOrder (h : Heap) : (.declare d : Action σ).InOrder h := trivial
  have hs := World.perform_step w (.declare d)
  have hs₀ := World.perform_step w₀ (.declare d)
  refine ⟨m.tended₀.step (inOrder _) hs₀, m.tended.step (inOrder _) hs, ?_, ?_⟩
  · exact sameSetting_declare m.setting m.tended.built m.tended.layered m.tended₀.built
      m.tended₀.layered d
  · rw [(hs.like m.tended nofun).eq (.inr nofun), (hs₀.like m.tended₀ nofun).eq (.inr nofun)]
    exact m.like

variable (call : Value → Arguments → Program σ Value) (spoken : Value → Program σ String)
  (text : Definition → Except Fault String)

/-- What is done with the builder has the same outcome in both worlds. -/
theorem Mirrors.use (m : Mirrors strict b₀ w₀ b w) (op : BodyOp) :
    ((op.program (.describing call spoken text) b).run w).1 =
        ((op.program (.describing call spoken text) b₀).run w₀).1 ∧
      Mirrors strict b₀ ((op.program (.describing call spoken text) b₀).run w₀).2 b
        ((op.program (.describing call spoken text) b).run w).2 := by
  have onward {c : Ref .builder} {u : World σ} (tended : u.heap.Tended c) :
      ((op.program (.describing call spoken text) c).run u).2.heap.Tended c ∧
        u.heap.SameSetting ((op.program (.describing call spoken text) c).run u).2.heap := by
    have each := BodyOp.each_program call spoken text (b := c) tended.built op
    rw [← Program.after_trace]
    exact ⟨(each.mono (fun _ _ of => of.inOrder)).tended tended,
      (each.mono (fun _ _ of => of.keeps)).sameSetting tended.built tended.layered⟩
  obtain ⟨tended, setting⟩ := onward m.tended
  obtain ⟨tended₀, setting₀⟩ := onward m.tended₀
  obtain ⟨outcome, body⟩ := World.run_bodyOp call spoken text m.tended.toPlaced op
  obtain ⟨outcome₀, body₀⟩ := World.run_bodyOp call spoken text m.tended₀.toPlaced op
  rw [m.setting.callable, m.setting.declarations] at outcome body
  obtain ⟨same, like⟩ := m.like.step w₀.heap.callable w₀.heap.declarations.get text op
  refine ⟨by rw [outcome, outcome₀, same], tended₀, tended, ?_, ?_⟩
  · exact (setting₀.symm.trans m.setting).trans setting
  · rw [body, body₀]
    exact like

theorem each_keepsSetting (built : w.heap.Built) {e : Event} (notDeclare : ∀ d, e ≠ .declare d) :
    w.Each (fun _ a => a.KeepsSetting) ((e.program (.describing call spoken text)).trace w) := by
  cases e with
  | newCatalog | define k name =>
    exact Program.each_trace_bind (Program.each_trace_ask trivial) (fun _ _ _ => trivial)
  | declare d => exact absurd rfl (notDeclare d)
  | use b' op => exact (BodyOp.each_program call spoken text built op).mono (fun _ _ of => of.keeps)
  | write view key v => cases view <;> exact Program.each_trace_ask trivial

/-- What is not done with the builder `b` leaves its class body alone. -/
theorem each_beside (built : w.heap.Built) {e : Event} (other : ∀ op, e ≠ .use b op)
    (spare : strict → ∀ view key v, e = .write view key v →
      view.definition w.heap ≠ w.heap.builderDefinition b) :
    w.Each (fun h a => a.InOrder h ∧ a.builder? ≠ some b ∧ (strict → a.Spares b h))
      ((e.program (.describing call spoken text)).trace w) := by
  cases e with
  | newCatalog | define k name | declare d =>
    exact Program.each_trace_bind (Program.each_trace_ask ⟨trivial, nofun, fun _ => nofun⟩)
      (fun _ _ _ => trivial)
  | use b' op =>
    have hne : b' ≠ b := by
      rintro rfl
      exact other op rfl
    refine (BodyOp.each_program call spoken text built op).mono (fun h a of => ?_)
    refine ⟨of.inOrder, fun changes => hne (of.only b changes).symm, fun _ => ?_⟩
    intro view key v writes
    rw [of.writesNot] at writes
    cases writes
  | write view key v =>
    have spares (holds : strict) : (view.writing key v : Action σ).Spares b w.heap := by
      intro view' key' v' writes
      rw [Action.write?_eq_some.mpr rfl] at writes
      cases writes
      exact spare holds view key v rfl
    cases view <;> exact Program.each_trace_ask ⟨trivial, nofun, spares⟩

theorem Mirrors.beside (m : Mirrors strict b₀ w₀ b w) {e : Event}
    (notDeclare : ∀ d, e ≠ .declare d) (other : ∀ op, e ≠ .use b op)
    (spare : strict → ∀ view key v, e = .write view key v →
      view.definition w.heap ≠ w.heap.builderDefinition b) :
    Mirrors strict b₀ w₀ b ((e.program (.describing call spoken text)).run w).2 := by
  have each := each_beside call spoken text m.tended.built other spare
  have keeps := each_keepsSetting call spoken text m.tended.built notDeclare
  rw [← Program.after_trace]
  refine ⟨m.tended₀, (each.mono (fun _ _ all => all.1)).tended m.tended, ?_, ?_⟩
  · exact m.setting.trans (keeps.sameSetting m.tended.built m.tended.layered)
  · exact m.like.trans (each.like m.tended)

/-- Of a run, what is done with the builder `b` alone makes the same of its class body, with the same
outcomes. -/
theorem Mirrors.run {later : List Event} (m : Mirrors strict b₀ w₀ b w)
    (spare : strict → Spare (.describing call spoken text) b later w) :
    outcomes (.describing call spoken text) b later w =
        outcomes (.describing call spoken text) b₀ (later.filterMap (own b b₀)) w₀ ∧
      Mirrors strict b₀ (after (.describing call spoken text) (later.filterMap (own b b₀)) w₀) b
        (after (.describing call spoken text) later w) := by
  induction later generalizing w₀ w with
  | nil => exact ⟨rfl, m⟩
  | cons e later ih =>
    have rest (holds : strict) := (spare holds).2
    have beside (notDeclare : ∀ d, e ≠ .declare d) (other : ∀ op, e ≠ .use b op) :=
      ih (m.beside call spoken text notDeclare other (fun holds => (spare holds).1)) rest
    cases e with
    | newCatalog | define k name | write view key v => exact beside nofun nofun
    | declare d =>
      have both := m.declare d
      rw [← world_declare (.describing call spoken text) w₀ d,
        ← world_declare (.describing call spoken text) w d] at both
      exact ih both rest
    | use b' op =>
      by_cases same : b' = b
      · subst same
        obtain ⟨outcome, both⟩ := m.use call spoken text op
        obtain ⟨more, alike⟩ := ih both rest
        have mine : own b' b₀ (.use b' op) = some (.use b₀ op) := if_pos rfl
        rw [List.filterMap_cons_some mine]
        refine ⟨?_, alike⟩
        simp only [outcomes, program, if_true]
        rw [outcome, more]
      -- the other world stays where it is
      · have notMine : own b b₀ (.use b' op) = none := if_neg same
        have other : ∀ op', Event.use b' op ≠ .use b op' := by
          rintro op' ⟨⟩
          exact same rfl
        obtain ⟨more, alike⟩ := beside nofun other
        rw [List.filterMap_cons_none notMine]
        refine ⟨?_, alike⟩
        simp only [outcomes, if_neg same]
        exact more

/-- Declarations come out the same whatever else happens. -/
theorem sameSetting_declaring (before : List Event) (reachable : w.Reachable)
    (reachable₀ : w₀.Reachable) (setting : w₀.heap.SameSetting w.heap) :
    (after (.describing call spoken text) (before.filter declaring) w₀).heap.SameSetting
      (after (.describing call spoken text) before w).heap := by
  induction before generalizing w w₀ with
  | nil => exact setting
  | cons e before ih =>
    have later := reachable.after
      (Program.run_reaches (e.program (.describing call spoken text)) w)
    have beside (notDeclare : ∀ d, e ≠ .declare d) :=
      ih later reachable₀ (setting.trans (by
        rw [← Program.after_trace]
        exact (each_keepsSetting call spoken text reachable.built notDeclare).sameSetting
          reachable.built reachable.layered))
    cases e with
    | newCatalog | define k name | use b' op | write view key v => exact beside nofun
    | declare d =>
      refine ih later (reachable₀.after (Program.run_reaches _ w₀)) ?_
      rw [world_declare, world_declare]
      exact sameSetting_declare setting reachable.built reachable.layered reachable₀.built
        reachable₀.layered d

theorem reaches_after (client : Client (Program σ)) (es : List Event) (w : World σ) :
    World.Reaches w (after client es w) := by
  induction es generalizing w with
  | nil => exact .refl w
  | cons e es ih => exact (Program.run_reaches _ w).trans (ih _)

/-- Builders that are opened under the same name go with each other from then on. -/
theorem mirrors_define (reachable : w.Reachable) (reachable₀ : w₀.Reachable)
    (setting : w₀.heap.SameSetting w.heap) {k k₀ : Ref .catalog}
    (inCatalog : w.heap.catalogs.contains k = true)
    (inCatalog₀ : w₀.heap.catalogs.contains k₀ = true) (name : Value) :
    Mirrors strict w₀.heap.builders.next
      (after (.describing call spoken text) [.define k₀ name] w₀) w.heap.builders.next
      (after (.describing call spoken text) [.define k name] w) := by
  have opened {u : World σ} {k : Ref .catalog} (inCatalog : u.heap.catalogs.contains k = true) :
      (after (.describing call spoken text) [.define k name] u).heap =
        (u.heap.openBuilder k name).2 := by
    change (((ask (.openBuilder k name) : Program σ (Ref .builder)) >>= fun _ => pure ()).run u).2.heap
      = _
    rw [Program.run_bind, Program.run_ask, World.perform, inCatalog]
    rfl
  obtain ⟨tended, body⟩ := Heap.tended_openBuilder reachable.built reachable.layered inCatalog name
  obtain ⟨tended₀, body₀⟩ :=
    Heap.tended_openBuilder reachable₀.built reachable₀.layered inCatalog₀ name
  have settings {u : World σ} (reachable : u.Reachable) {k : Ref .catalog}
      (inCatalog : u.heap.catalogs.contains k = true) :
      u.heap.SameSetting (u.heap.openBuilder k name).2 :=
    (Heap.Step.openBuilder (σ := σ) name inCatalog).sameSetting reachable.built reachable.layered
      trivial
  constructor
  · rwa [opened inCatalog₀]
  · rwa [opened inCatalog]
  · rw [opened inCatalog, opened inCatalog₀]
    exact ((settings reachable₀ inCatalog₀).symm.trans setting).trans
      (settings reachable inCatalog)
  · rw [opened inCatalog, opened inCatalog₀, body, body₀]
    exact .refl _ _

end

end Event

/-- Whatever happens before and after a builder is opened, what is done with it has the same outcomes
as on a builder of that name, in any catalog, with which alone something is done. The class bodies
are then alike: the same, unless the class of the builder was made and its static members were
written. Nothing that is done with another builder, and so not its being finalized, changes the class
body. -/
theorem builders_do_not_interfere {σ : Type} (call : Value → Arguments → Program σ Value)
    (spoken : Value → Program σ String) (text : Definition → Except Fault String) {w : World σ}
    (reachable : w.Reachable) (before later : List Event) (name : Value) {k k₀ : Ref .catalog}
    (inCatalog : (Event.after (.describing call spoken text) before w).heap.catalogs.contains k =
      true)
    (inCatalog₀ : w.heap.catalogs.contains k₀ = true) :
    let client := Client.describing call spoken text
    let u := Event.after client before w
    let u₀ := Event.after client (before.filter Event.declaring) w
    let b := u.heap.builders.next
    let b₀ := u₀.heap.builders.next
    let opened := Event.after client [.define k name] u
    let opened₀ := Event.after client [.define k₀ name] u₀
    let alone := later.filterMap (Event.own b b₀)
    let done := Event.after client later opened
    Event.outcomes client b later opened = Event.outcomes client b₀ alone opened₀ ∧
    ((Event.after client alone opened₀).heap.body b₀).Like (Event.Spare client b later opened)
      (done.heap.body b) ∧
    ∀ b' (op : BodyOp), b' ≠ b →
      ((op.program client b').run done).2.heap.body b = done.heap.body b := by
  intro client u u₀ b b₀ opened opened₀ alone done
  have reaches (es : List Event) (v : World σ) := Event.reaches_after client es v
  have inCatalog₀' := ((reaches (before.filter Event.declaring) w).extends.catalogs k₀ inCatalog₀).1
  have mirrors : Event.Mirrors (Event.Spare client b later opened) b₀ opened₀ b opened :=
    Event.mirrors_define call spoken text (reachable.after (reaches before w))
      (reachable.after (reaches _ w))
      (Event.sameSetting_declaring call spoken text before reachable reachable (.refl _))
      inCatalog inCatalog₀' name
  obtain ⟨outcomes, mirrored⟩ := mirrors.run call spoken text id
  refine ⟨outcomes, mirrored.like, fun b' op hne => ?_⟩
  have other : ∀ op', Event.use b' op ≠ .use b op' := by
    rintro op' ⟨⟩
    exact hne rfl
  have each : done.Each (fun h a => a.InOrder h ∧ a.builder? ≠ some b ∧ (True → a.Spares b h))
      ((op.program client b').trace done) :=
    Event.each_beside call spoken text (e := .use b' op) mirrored.tended.built other nofun
  have like := each.like mirrored.tended
  rw [Program.after_trace] at like
  exact like.eq (.inr trivial)

namespace Program

/-- A declaration that two builders of one name will share, and the first of them. -/
def sharedDeclaration : List Event :=
  [ .declare (.members .statics (.ofList [(.text "count", .int 0)])),
    .define Heap.defaultCatalog (.text "Counter")]

/-- The second builder takes the declaration while the first one becomes a class, whose static
member is then written. A parent comes too late for the second. -/
def sharedDeclarationUse : List Event :=
  [ .use ⟨1⟩ (.members .publics (.ofList [(.text "next", .function ⟨0⟩)])),
    .use ⟨0⟩ (.build [⟨0⟩]),
    .write (.ofClass ⟨0⟩) "count" (.int 5),
    .use ⟨1⟩ (.members .statics (.ofList [(.text parentHandle, .int 1)])),
    .use ⟨1⟩ (.build [⟨0⟩]),
    .use ⟨1⟩ (.extend (.text "Base"))]

def sharedDeclarationWorld : World Unit :=
  Event.after silentClient
    (sharedDeclaration ++ .define Heap.defaultCatalog (.text "Counter") :: sharedDeclarationUse)
    (.initial ())

/-- What is done with the second builder, on its own. -/
def secondCounterWorld : World Unit :=
  Event.after silentClient
    [ .declare (.members .statics (.ofList [(.text "count", .int 0)])),
      .define Heap.defaultCatalog (.text "Counter"),
      .use ⟨0⟩ (.members .publics (.ofList [(.text "next", .function ⟨0⟩)])),
      .use ⟨0⟩ (.members .statics (.ofList [(.text parentHandle, .int 1)])),
      .use ⟨0⟩ (.build [⟨0⟩]),
      .use ⟨0⟩ (.extend (.text "Base"))]
    (.initial ())

end Program

theorem builders_do_not_interfere_sharedDeclaration :
    (World.initial () : World Unit).Reachable ∧
    (Event.after Program.silentClient Program.sharedDeclaration
      (.initial ())).heap.catalogs.contains Heap.defaultCatalog = true ∧
    Program.sharedDeclarationWorld.heap.body ⟨1⟩ = Program.secondCounterWorld.heap.body ⟨0⟩ ∧
    (Program.secondCounterWorld.heap.body ⟨0⟩).record.statics =
      .ofList [(.text "count", .int 0)] := by
  have reachable : (World.initial () : World Unit).Reachable := ⟨(), .refl _⟩
  have inCatalog : (Event.after Program.silentClient Program.sharedDeclaration
      (.initial ())).heap.catalogs.contains Heap.defaultCatalog = true := by rfl
  have inCatalog₀ : (World.initial () : World Unit).heap.catalogs.contains Heap.defaultCatalog =
      true := by rfl
  obtain ⟨-, like, -⟩ := builders_do_not_interfere _ _ _ reachable Program.sharedDeclaration
    Program.sharedDeclarationUse (.text "Counter") inCatalog inCatalog₀
  refine ⟨reachable, inCatalog, like.eq (.inr ?_), by rfl⟩
  refine ⟨nofun, nofun, ?_, nofun, nofun, nofun, trivial⟩
  intro view key v write
  cases write
  decide

end ObjectModel
