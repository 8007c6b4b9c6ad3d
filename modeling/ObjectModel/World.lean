import ObjectModel.Access.Public
import ObjectModel.Access.OfClass
import ObjectModel.Construction
import ObjectModel.Settings
import ObjectModel.LogRecord
import ObjectModel.Text.Quoted

/-!
# The world and its actions

A world is the heap together with a client's own storage, the settings, the log and the printed
text. It changes only by the actions listed here, each of which gives a result or a fault. An
action that names an object that does not exist changes nothing.
-/

namespace ObjectModel

structure World (σ : Type) where
  heap : Heap
  client : σ
  settings : Settings
  log : Array LogRecord
  out : String

def World.initial {σ : Type} (client : σ) : World σ := ⟨.initial, client, .default, #[], ""⟩

/-- The steps that programs are made of. -/
inductive Action (σ : Type) where
  /-- See the heap. All reading is done on what this gives. -/
  | look
  /-- See the client's storage. -/
  | peek
  /-- Change the client's storage. -/
  | poke (f : σ → σ)
  | newCatalog
  | openBuilder (c : Ref .catalog) (name : Value)
  | setParent (b : Ref .builder) (name : Value)
  | addMembers (b : Ref .builder) (part : Section) (t : Table Key Value)
  | closeBuilder (b : Ref .builder)
  | declare (d : Declaration)
  /-- Keep a declaration whose members were checked as keys alone. -/
  | keep (d : Declaration)
  | register (c : Ref .catalog) (d : Ref .definition)
  /-- Register a class whose definition the client keeps. -/
  | registerOutside (c : Ref .catalog) (name : String) (hooks : Table Key Value)
  | newLayer (c : Ref .cls) (parent : Option (Ref .facade))
  | note (r : LogRecord)
  | writePrivate (s : Ref .state) (key : String) (v : Value)
  | deletePrivate (s : Ref .state) (key : String)
  | writePublic (f : Ref .facade) (key : String) (v : Value)
  | deletePublic (f : Ref .facade) (key : String)
  | writeClass (c : Ref .cls) (key : String) (v : Value)
  | warn (message : String)
  | print (s : String)
  | settings
  | setWarnings (on : Bool)
  | setAllowWriting (on : Bool)

/-- What an action gives if it does not fail. -/
@[reducible] def Action.Result {σ : Type} : Action σ → Type
  | .look => Heap
  | .peek => σ
  | .newCatalog => Ref .catalog
  | .openBuilder _ _ => Ref .builder
  | .declare _ | .keep _ => Ref .declaration
  | .register _ _ | .registerOutside _ _ _ => Ref .cls
  | .newLayer _ _ => Layer
  | .settings => Settings
  | _ => Unit

namespace World

variable {σ : Type}

def setHeap (w : World σ) (h : Heap) : World σ := { w with heap := h }

def addLog (w : World σ) (r : LogRecord) : World σ := { w with log := w.log.push r }

/-- Give a warning, if warnings are on. -/
def warn (w : World σ) (message : String) : World σ :=
  if w.settings.warnings then w.addLog (.warning message) else w

/-- Keep the heap that an operation gives; keep the old one if it fails. -/
def update (w : World σ) (r : Except Fault Heap) : Except Fault Unit × World σ :=
  match r with
  | .ok h => (.ok (), w.setHeap h)
  | .error f => (.error f, w)

/-- As `update`, for an operation that also gives a result. -/
def updateWith {ρ : Type} (w : World σ) (r : Except Fault (ρ × Heap)) : Except Fault ρ × World σ :=
  match r with
  | .ok (x, h) => (.ok x, w.setHeap h)
  | .error f => (.error f, w)

/-- Go on only if the objects that an action names exist. -/
def guarded {ρ : Type} (w : World σ) (ok : Bool) (r : Except Fault ρ × World σ) :
    Except Fault ρ × World σ :=
  if ok then r else (.error .dangling, w)

def writePublic (w : World σ) (f : Ref .facade) (key : String) (v : Value) : World σ :=
  let h := w.heap
  match h.publicWrite f key with
  | .overwrite => w.setHeap (h.addExternal f key v)
  | .static => w.setHeap (h.setStatic (h.classes.get (h.facadeClass f)).definition key v)
  | .unknown =>
    if w.settings.allowWriting then (w.setHeap (h.addExternal f key v)).warn externalWriteWarning
    else w.addLog (.dropped (Text.quoted key) (h.facadeDefinition f).name.plainText)

/-- Do one action. -/
def perform (w : World σ) : (a : Action σ) → Except Fault a.Result × World σ
  | .look => (.ok w.heap, w)
  | .peek => (.ok w.client, w)
  | .poke f => (.ok (), { w with client := f w.client })
  | .newCatalog => w.updateWith (.ok w.heap.newCatalog)
  | .openBuilder c name =>
    w.guarded (w.heap.catalogs.contains c) (w.updateWith (.ok (w.heap.openBuilder c name)))
  | .setParent b name => w.guarded (w.heap.builders.contains b) (w.update (w.heap.setParent b name))
  | .addMembers b part t =>
    w.guarded (w.heap.builders.contains b) (w.update (w.heap.addMembers b part t))
  | .closeBuilder b => w.guarded (w.heap.builders.contains b) (w.update (w.heap.closeBuilder b))
  | .declare d => w.updateWith (w.heap.declare d)
  | .keep d => w.updateWith (.ok (w.heap.keep d))
  | .register c d =>
    w.guarded (w.heap.catalogs.contains c && w.heap.definitions.contains d)
      (w.updateWith (w.heap.register c d))
  | .registerOutside c name hooks =>
    w.guarded (w.heap.catalogs.contains c) (w.updateWith (w.heap.registerOutside c name hooks))
  | .newLayer c parent =>
    w.guarded (w.heap.classes.contains c && parent.all w.heap.facades.contains)
      (w.updateWith (.ok (w.heap.newLayer c parent)))
  | .note r => (.ok (), w.addLog r)
  | .writePrivate s key v =>
    w.guarded (w.heap.states.contains s) (w.update (w.heap.writePrivate s key v))
  | .deletePrivate s key =>
    w.guarded (w.heap.states.contains s) (w.update (w.heap.deletePrivate s key))
  | .writePublic f key v => w.guarded (w.heap.facades.contains f) (.ok (), w.writePublic f key v)
  | .deletePublic f key =>
    w.guarded (w.heap.facades.contains f) (w.update (w.heap.deletePublic f key))
  | .writeClass c key v =>
    w.guarded (w.heap.classes.contains c) (w.update (w.heap.writeClass c key v))
  | .warn message => (.ok (), w.warn message)
  | .print s => (.ok (), { w with out := w.out ++ s })
  | .settings => (.ok w.settings, w)
  | .setWarnings on => (.ok (), { w with settings := { w.settings with warnings := on } })
  | .setAllowWriting on => (.ok (), { w with settings := { w.settings with allowWriting := on } })

end World

end ObjectModel
