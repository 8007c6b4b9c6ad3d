import ObjectModel.Proofs.GuardedConstruction
import ObjectModel.Proofs.OutsideAccess
import ObjectModel.Proofs.Runs

/-!
# Warnings change nothing but the log

A program is run twice, once with warnings on and once with warnings off. As long as it does not ask for
the settings and does not turn warnings on or off itself, both runs do the same actions and get the
same from each of them, and they end in worlds that differ in the switch and in the log alone: what
the second log lacks are the warnings. The only thing that looks at the switch is the giving of a
warning, which comes after everything else that a write from outside does.
-/

namespace ObjectModel

variable {σ α β ρ : Type}

/-- An action that neither asks for the settings nor turns warnings on or off, and that does not write
a warning into the log by itself. -/
def Action.Heedless : Action σ → Prop
  | .settings | .setWarnings _ => False
  | .note r => r.isWarning = false
  | _ => True

namespace Program

/-- What is seen of an action that was done: what it gave, and what was printed until then. -/
structure Event (σ : Type) where
  action : Action σ
  result : Except Fault action.Result
  out : String

/-- What is seen of all actions that a program does. -/
def transcript : Program σ α → World σ → List (Event σ)
  | .done _, _ => []
  | .fail _, _ => []
  | .act a next, w =>
    let (r, w') := w.perform a
    ⟨a, r, w'.out⟩ :: (next r).transcript w'

end Program

/-- The records of a log but for the warnings of the configuration. -/
def withoutWarnings (log : Array LogRecord) : Array LogRecord :=
  log.filter (fun r => !(r.level == "WARNING" && r.source == "pypie.config"))

theorem withoutWarnings_push (log : Array LogRecord) (r : LogRecord) :
    withoutWarnings (log.push r) =
      if r.isWarning = true then withoutWarnings log else (withoutWarnings log).push r := by
  rw [withoutWarnings, Array.filter_push]
  cases r <;> rfl

namespace World

/-- The same world with warnings on or off. -/
def withWarnings (w : World σ) (on : Bool) : World σ :=
  { w with settings := { w.settings with warnings := on } }

/-- The second world is the first one with warnings off. Of what was logged since `before` it lacks the
warnings. -/
structure Muted (before : Array LogRecord) (w w' : World σ) : Prop where
  on : w.settings.warnings = true
  log : ∃ rs, w.log = before ++ rs ∧
    w' = { w.withWarnings false with log := before ++ withoutWarnings rs }

/-- Two runs give the same and end in worlds of which the second one is muted. -/
structure Hushed (before : Array LogRecord) (o o' : Except Fault ρ × World σ) : Prop where
  result : o'.1 = o.1
  muted : o.2.Muted before o'.2

theorem muted_withWarnings (w : World σ) :
    (w.withWarnings true).Muted w.log (w.withWarnings false) :=
  ⟨rfl, #[], by simp [withWarnings], by simp [withWarnings, withoutWarnings]⟩

namespace Muted

variable {before : Array LogRecord} {w w' : World σ} (muted : w.Muted before w')

include muted

theorem off : w'.settings.warnings = false := by
  obtain ⟨rs, -, rfl⟩ := muted.log
  rfl

theorem allowWriting : w'.settings.allowWriting = w.settings.allowWriting := by
  obtain ⟨rs, -, rfl⟩ := muted.log
  rfl

theorem heap : w'.heap = w.heap := by
  obtain ⟨rs, -, rfl⟩ := muted.log
  rfl

theorem client : w'.client = w.client := by
  obtain ⟨rs, -, rfl⟩ := muted.log
  rfl

theorem out : w'.out = w.out := by
  obtain ⟨rs, -, rfl⟩ := muted.log
  rfl

theorem hushed (r : Except Fault ρ) : Hushed before (r, w) (r, w') := ⟨rfl, muted⟩

theorem setHeap (h : Heap) : (w.setHeap h).Muted before (w'.setHeap h) := by
  obtain ⟨rs, log, rfl⟩ := muted.log
  exact ⟨muted.on, rs, log, rfl⟩

theorem addLog {r : LogRecord} (quiet : r.isWarning = false) :
    (w.addLog r).Muted before (w'.addLog r) := by
  obtain ⟨rs, log, rfl⟩ := muted.log
  refine ⟨muted.on, rs.push r, ?_, ?_⟩
  · rw [World.addLog, log, Array.append_push]
  · simp only [withoutWarnings_push, quiet, Bool.false_eq_true, if_false, Array.append_push]
    rfl

/-- Here is where the switch is looked at. -/
theorem warn (message : String) : (w.warn message).Muted before (w'.warn message) := by
  have silent : w'.warn message = w' := by rw [World.warn, muted.off]; rfl
  have given : w.warn message = w.addLog (.warning message) := by rw [World.warn, muted.on]; rfl
  rw [silent, given]
  obtain ⟨rs, log, rfl⟩ := muted.log
  refine ⟨muted.on, rs.push (.warning message), ?_, ?_⟩
  · rw [World.addLog, log, Array.append_push]
  · simp only [withoutWarnings_push, LogRecord.isWarning, if_true]
    rfl

theorem update (r : Except Fault Heap) : Hushed before (w.update r) (w'.update r) := by
  cases r with
  | ok h => exact ⟨rfl, muted.setHeap h⟩
  | error e => exact muted.hushed _

theorem updateWith (r : Except Fault (ρ × Heap)) :
    Hushed before (w.updateWith r) (w'.updateWith r) := by
  cases r with
  | ok x => exact ⟨rfl, muted.setHeap x.2⟩
  | error e => exact muted.hushed _

theorem guarded (ok : Bool) {o o' : Except Fault ρ × World σ} (inside : Hushed before o o') :
    Hushed before (w.guarded ok o) (w'.guarded ok o') := by
  cases ok with
  | true => exact inside
  | false => exact muted.hushed _

theorem writePublic (f : Ref .facade) (key : String) (v : Value) :
    (w.writePublic f key v).Muted before (w'.writePublic f key v) := by
  simp only [World.writePublic, muted.heap, muted.allowWriting]
  cases w.heap.publicWrite f key with
  | overwrite => exact muted.setHeap _
  | static => exact muted.setHeap _
  | unknown =>
    dsimp only
    split
    · exact (muted.setHeap _).warn _
    · exact muted.addLog rfl

/-- Every action of a heedless program gives the same in both worlds. -/
theorem perform {a : Action σ} (heedless : a.Heedless) :
    Hushed before (w.perform a) (w'.perform a) := by
  cases a with
  | settings | setWarnings on => cases heedless
  | look | peek =>
    simp only [World.perform, muted.heap, muted.client]
    exact muted.hushed _
  | newCatalog | declare d | keep d =>
    simp only [World.perform, muted.heap]
    exact muted.updateWith _
  | openBuilder c name | register c d | registerOutside c name hooks | newLayer c parent =>
    simp only [World.perform, muted.heap]
    exact muted.guarded _ (muted.updateWith _)
  | setParent b name | addMembers b part t | closeBuilder b | writePrivate s key v
  | deletePrivate s key | deletePublic f key | writeClass c key v =>
    simp only [World.perform, muted.heap]
    exact muted.guarded _ (muted.update _)
  | writePublic f key v =>
    simp only [World.perform, muted.heap]
    exact muted.guarded _ ⟨rfl, muted.writePublic f key v⟩
  | note r => exact ⟨rfl, muted.addLog heedless⟩
  | warn message => exact ⟨rfl, muted.warn message⟩
  | poke f | print s | setAllowWriting on =>
    obtain ⟨rs, log, rfl⟩ := muted.log
    exact ⟨rfl, muted.on, rs, log, rfl⟩

/-- So does every heedless program, action by action. -/
theorem run {p : Program σ α} (heedless : w.Each (fun _ a => a.Heedless) (p.trace w)) :
    p.transcript w' = p.transcript w ∧ Hushed before (p.run w) (p.run w') := by
  induction p generalizing w w' with
  | done a => exact ⟨rfl, muted.hushed _⟩
  | fail e => exact ⟨rfl, muted.hushed _⟩
  | act a next ih =>
    have step := muted.perform heedless.1
    obtain ⟨rest, ended⟩ := ih _ step.muted heedless.2
    refine ⟨?_, ?_⟩
    · simp only [Program.transcript, step.result, step.muted.out, rest]
    · simp only [Program.run, step.result]
      exact ended

end Muted

end World

namespace Program

/-- A program that is heedless of the switch wherever it is run. -/
def Heedless (p : Program σ α) : Prop := ∀ w : World σ, w.Each (fun _ a => a.Heedless) (p.trace w)

theorem heedless_pure (a : α) : (pure a : Program σ α).Heedless := fun _ => trivial

theorem heedless_throw (e : Fault) : (throw e : Program σ α).Heedless := fun _ => trivial

theorem heedless_settle (r : Except Fault α) : (settle r : Program σ α).Heedless :=
  fun w => each_trace_settle r w

theorem heedless_ask {a : Action σ} (heedless : a.Heedless) :
    (ask a : Program σ a.Result).Heedless :=
  fun _ => each_trace_ask heedless

theorem heedless_look : (look : Program σ Heap).Heedless := heedless_ask (a := .look) trivial

theorem Heedless.bind {p : Program σ α} {k : α → Program σ β} (first : p.Heedless)
    (next : ∀ a, (k a).Heedless) : (p >>= k).Heedless :=
  fun w => each_trace_bind (first w) (fun a w' _ => next a w')

theorem Heedless.tryCatch {p : Program σ α} {handler : Fault → Program σ α} (first : p.Heedless)
    (next : ∀ e, (handler e).Heedless) : (tryCatch p handler).Heedless :=
  fun w => each_trace_tryCatch (first w) (fun e w' _ => next e w')

end Program

namespace OutsideOp

open Program

theorem heedless_readFacade (f : Ref .facade) (key : String) :
    (readFacade f key : Program σ Seen).Heedless := by
  refine heedless_look.bind (fun h => ?_)
  split
  · split
    · exact heedless_pure _
    · exact heedless_throw _
  · exact (heedless_settle _).bind (fun _ => heedless_pure _)

theorem heedless_program (op : OutsideOp) : (op.program : Program σ Seen).Heedless := by
  cases op with
  | read f key => exact heedless_readFacade f key
  | write f key v =>
    exact Heedless.bind (heedless_ask (a := .writePublic f key v) trivial)
      (fun _ => heedless_pure _)
  | delete f key =>
    exact Heedless.bind (heedless_ask (a := .deletePublic f key) trivial)
      (fun _ => heedless_pure _)
  | has f key =>
    refine ((heedless_readFacade f key).bind (fun _ => heedless_pure _)).tryCatch (fun e => ?_)
    split
    · exact heedless_pure _
    · exact heedless_throw _
  | readClass c key =>
    exact heedless_look.bind (fun h => (heedless_settle _).bind (fun _ => heedless_pure _))
  | writeClass c key v =>
    exact Heedless.bind (heedless_ask (a := .writeClass c key v) trivial)
      (fun _ => heedless_pure _)
  | base f =>
    refine heedless_look.bind (fun h => ?_)
    split
    · exact heedless_pure _
    · exact heedless_throw _
  | layers f | definitionOf f => exact heedless_look.bind (fun h => heedless_pure _)

end OutsideOp

namespace Client

open Program

/-- What a client does by itself is heedless. It keeps no definitions. -/
structure Heedless (client : Client (Program σ)) : Prop where
  call : ∀ f args, (client.call f args).Heedless
  spoken : ∀ v, (client.spoken v).Heedless
  describe : ∀ d, (client.describe d).Heedless
  ordinary : client.Ordinary

namespace Heedless

variable {client : Client (Program σ)} (heedless : client.Heedless)

include heedless

theorem commit (k : Ref .catalog) (d : Ref .definition) : (client.commit k d).Heedless := by
  refine Program.Heedless.bind (heedless_ask (a := .register k d) trivial) (fun c => ?_)
  refine (heedless.describe d).bind (fun s => ?_)
  exact Program.Heedless.bind (heedless_ask (a := .note (.committed s)) rfl)
    (fun _ => heedless_pure c)

theorem finalize (b : Ref .builder) : (client.finalize b).Heedless := by
  refine Program.Heedless.bind (heedless_ask (a := .closeBuilder b) trivial) (fun _ => ?_)
  exact heedless_look.bind (fun h => heedless.commit _ _)

theorem parentClass? (c : Ref .cls) : (client.parentClass? c).Heedless := by
  rw [Client.parentClass?, heedless.ordinary.standIn?]
  refine heedless_look.bind (fun h => ?_)
  split
  · exact heedless_pure none
  · exact (heedless_settle _).bind (fun p => heedless_pure (some p))

theorem constructor? (c : Ref .cls) : (client.constructor? c).Heedless := by
  rw [Client.constructor?, heedless.ordinary.standIn?]
  exact heedless_look.bind (fun h => heedless_pure _)

theorem newLayer (c : Ref .cls) (parent : Option (Ref .facade)) :
    (client.newLayer c parent).Heedless := by
  rw [Client.newLayer, heedless.ordinary.standIn?]
  exact heedless_ask (a := .newLayer c parent) trivial

theorem addLayer (args : Arguments) (c : Ref .cls) (parent : Option (Ref .facade)) :
    (client.addLayer args c parent).Heedless := by
  refine (heedless.newLayer c parent).bind (fun layer => (heedless.constructor? c).bind ?_)
  rintro (_ | f)
  · exact heedless_pure layer
  · exact (heedless.call f _).bind (fun _ => heedless_pure layer)

theorem construct (args : Arguments) (n : Nat) (c : Ref .cls) :
    (client.construct args n c).Heedless := by
  induction n generalizing c with
  | zero => exact heedless_throw _
  | succ n ih =>
    refine (heedless.parentClass? c).bind ?_
    rintro (_ | p)
    · exact heedless.addLayer args c none
    · exact (ih p).bind (fun above => heedless.addLayer args c (some above.facade))

theorem depthOf (c : Ref .cls) : (client.depthOf c).Heedless := by
  rw [Client.depthOf, heedless.ordinary.depth?]
  exact heedless_look.bind (fun h => (heedless_settle _).bind (fun ds => heedless_pure _))

theorem report (c : Ref .cls) (layer : Layer) : (client.report c layer).Heedless := by
  rw [Client.report, nameOf, heedless.ordinary.standIn?]
  refine Program.Heedless.bind ?_ (fun name => (heedless.spoken name).bind (fun s => ?_))
  · exact heedless_look.bind (fun h => heedless_pure (h.className c))
  · exact Program.Heedless.bind (heedless_ask (a := .note (.instantiated s)) rfl)
      (fun _ => heedless_pure layer.facade)

/-- The making of instances does not look at the switch. -/
theorem instantiate (c : Ref .cls) (args : Arguments) : (client.instantiate c args).Heedless := by
  rw [instantiate_eq]
  split
  · exact heedless_throw _
  · exact (heedless.depthOf c).bind (fun n =>
      (heedless.construct args n c).bind (fun layer => heedless.report c layer))

theorem callStateHook (s : Ref .state) (name : String) (args : Arguments) :
    (ObjectModel.callStateHook client.call s name args).Heedless := by
  refine heedless_look.bind (fun h => ?_)
  split
  · exact heedless_throw _
  · split
    · exact heedless_throw _
    · split <;> exact heedless.call _ _

theorem callHook (receiver : Value) (name : String) (args : Arguments) :
    (ObjectModel.callHook client.call receiver name args).Heedless := by
  unfold ObjectModel.callHook
  split
  · exact heedless.callStateHook _ name args
  · refine heedless_look.bind (fun h => ?_)
    split
    · exact heedless_throw _
    · split
      · exact heedless_throw _
      · split
        · exact heedless_throw _
        · exact heedless.callStateHook _ name args
  · exact heedless_throw _

end Heedless

/-- No operation of the model asks for the settings. -/
structure NeverAsks (client : Client (Program σ)) : Prop where
  finalize : ∀ b, (client.finalize b).Heedless
  instantiate : ∀ c args, (client.instantiate c args).Heedless
  callHook : ∀ receiver name args, (ObjectModel.callHook client.call receiver name args).Heedless
  outside : ∀ op : OutsideOp, (op.program : Program σ Seen).Heedless

theorem Heedless.neverAsks {client : Client (Program σ)} (heedless : client.Heedless) :
    client.NeverAsks :=
  ⟨heedless.finalize, heedless.instantiate, heedless.callHook, OutsideOp.heedless_program⟩

end Client

section Operations

/-- An operation of the model, as a program asks for it. -/
inductive Operation where
  | finalize (b : Ref .builder)
  | instantiate (c : Ref .cls) (args : Arguments)
  | callHook (receiver : Value) (name : String) (args : Arguments)
  | outside (op : OutsideOp)

variable {client : Client (Program σ)}

/-- What comes of an operation. -/
def Operation.program (client : Client (Program σ)) : Operation → Program σ Seen
  | .finalize b => do return .value (.cls (← client.finalize b))
  | .instantiate c args => do return .value (.facade (← client.instantiate c args))
  | .callHook receiver name args => do
    return .value (← ObjectModel.callHook client.call receiver name args)
  | .outside op => op.program

/-- Do some operations one after the other, and keep what comes of each. One that fails does not keep
the others from being done. -/
def Client.perform (client : Client (Program σ)) :
    List Operation → Program σ (List (Except Fault Seen))
  | [] => return []
  | op :: ops => do
    let r ← tryCatch (do return .ok (← op.program client)) (fun f => return .error f)
    return r :: (← client.perform ops)

theorem Client.NeverAsks.program (asks : client.NeverAsks) (op : Operation) :
    (op.program client).Heedless := by
  cases op with
  | finalize b => exact (asks.finalize b).bind (fun c => Program.heedless_pure _)
  | instantiate c args => exact (asks.instantiate c args).bind (fun f => Program.heedless_pure _)
  | callHook receiver name args =>
    exact (asks.callHook receiver name args).bind (fun v => Program.heedless_pure _)
  | outside op => exact asks.outside op

theorem Client.NeverAsks.perform (asks : client.NeverAsks) (ops : List Operation) :
    (client.perform ops).Heedless := by
  induction ops with
  | nil => exact Program.heedless_pure _
  | cons op ops ih =>
    refine Program.Heedless.bind (.tryCatch ?_ (fun f => Program.heedless_pure _)) (fun r => ?_)
    · exact (asks.program op).bind (fun seen => Program.heedless_pure _)
    · exact ih.bind (fun rs => Program.heedless_pure (r :: rs))

/-- Whatever operations are done, each comes to the same with warnings on and off, and the worlds at
the end differ in the switch and in the warnings that were logged. -/
theorem Client.NeverAsks.hushed (asks : client.NeverAsks) (ops : List Operation) (w : World σ) :
    World.Hushed w.log ((client.perform ops).run (w.withWarnings true))
      ((client.perform ops).run (w.withWarnings false)) :=
  (w.muted_withWarnings.run (asks.perform ops _)).2

end Operations

/-- A program that does not ask for the settings, and does not turn warnings on or off, gives the same
result with warnings on and off. All of its actions do, and all that it prints is the same. It ends
in the same world but for the switch, and but for the warnings in what it has logged. The operations
of the model are such programs if the functions of the client are. -/
theorem warnings_affect_log_only (w : World σ) (p : Program σ α)
    (heedless : (w.withWarnings true).Each (fun _ a => a.Heedless)
      (p.trace (w.withWarnings true))) :
    (p.run (w.withWarnings false)).1 = (p.run (w.withWarnings true)).1 ∧
    p.transcript (w.withWarnings false) = p.transcript (w.withWarnings true) ∧
    (∃ rs, (p.run (w.withWarnings true)).2.log = w.log ++ rs ∧
      (p.run (w.withWarnings false)).2 =
        { (p.run (w.withWarnings true)).2.withWarnings false with
          log := w.log ++ withoutWarnings rs }) ∧
    ∀ client : Client (Program σ), client.Heedless → client.NeverAsks := by
  obtain ⟨events, ended⟩ := w.muted_withWarnings.run heedless
  exact ⟨ended.result, events, ended.muted.log, fun client quiet => quiet.neverAsks⟩

namespace Program

/-- A client whose functions write onto the first facade that there is, and print. -/
def writingClient : Client (Program Unit) :=
  .plain (fun _ _ => do ask (.writePublic ⟨0⟩ "extra" (.int 1)); ask (.print "made"); return .null)
    (fun _ => pure "Base") (fun _ => pure "")

/-- Define a class with a constructor, make an instance of it while writing is allowed, and see what
the constructor wrote onto it. -/
def writtenOnCreation : Program Unit Seen := do
  let b ← ask (.openBuilder Heap.defaultCatalog (.text "Base"))
  ask (.addMembers b .publics (.ofList [(.text "constructor", .function ⟨0⟩)]))
  let c ← writingClient.finalize b
  ask (.setAllowWriting true)
  let f ← writingClient.instantiate c (.ofList [])
  OutsideOp.program (.read f "extra")

theorem heedless_writingClient : writingClient.Heedless where
  call _ _ := Heedless.bind (heedless_ask (a := .writePublic ⟨0⟩ "extra" (.int 1)) trivial)
    (fun _ => Heedless.bind (heedless_ask (a := .print "made") trivial)
      (fun _ => heedless_pure _))
  spoken _ := heedless_pure _
  describe _ := heedless_pure _
  ordinary := Client.ordinary_plain _ _ _

theorem heedless_writtenOnCreation : writtenOnCreation.Heedless := by
  refine Heedless.bind (heedless_ask (a := .openBuilder _ _) trivial) (fun b => ?_)
  refine Heedless.bind (heedless_ask (a := .addMembers b _ _) trivial) (fun _ => ?_)
  refine (heedless_writingClient.finalize b).bind (fun c => ?_)
  refine Heedless.bind (heedless_ask (a := .setAllowWriting true) trivial) (fun _ => ?_)
  exact (heedless_writingClient.instantiate c _).bind (fun f => OutsideOp.heedless_program _)

end Program

/-- The constructor is warned of with warnings on only, and what it wrote is there in both cases. -/
theorem warnings_affect_log_only_writtenOnCreation :
    (Program.writtenOnCreation.run ((World.initial ()).withWarnings true)).1 =
      .ok (.value (.int 1)) ∧
    (Program.writtenOnCreation.run ((World.initial ()).withWarnings true)).2.log =
      #[.committed "", .warning externalWriteWarning, .instantiated "Base"] ∧
    (Program.writtenOnCreation.run ((World.initial ()).withWarnings false)).1 =
      .ok (.value (.int 1)) ∧
    (Program.writtenOnCreation.run ((World.initial ()).withWarnings false)).2.log =
      #[.committed "", .instantiated "Base"] ∧
    (Program.writtenOnCreation.run ((World.initial ()).withWarnings false)).2.out = "made" := by
  obtain ⟨result, -, ⟨rs, log, world⟩, -⟩ := warnings_affect_log_only (World.initial ())
    Program.writtenOnCreation (Program.heedless_writtenOnCreation _)
  have given : (Program.writtenOnCreation.run ((World.initial ()).withWarnings true)).2.log =
      #[.committed "", .warning externalWriteWarning, .instantiated "Base"] := by rfl
  obtain rfl : rs = #[.committed "", .warning externalWriteWarning, .instantiated "Base"] := by
    rw [given] at log
    simpa [World.initial] using log.symm
  refine ⟨by rfl, given, result.trans (by rfl), ?_, ?_⟩
  · rw [world]
    decide +kernel
  · rw [world]
    decide +kernel

end ObjectModel
