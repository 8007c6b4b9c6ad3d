import ObjectModel.Script.Evaluation

/-!
# Answers

What a script answers, step by step: the value of the step or its fault, what it printed, and what
was logged. Writing a value down may ask hooks and is part of the step. All steps are run, and each
step sees what the earlier ones left, also after faults.
-/

namespace ObjectModel.Script

/-- Integers outside this range are written as texts. -/
def exactRange : Nat := powerOfTwo 53

def renderInt (n : Int) : Prog Form := do
  if n.natAbs ≤ exactRange then return .int n
  else return .record [("int", .text (← intText n))]

/-- A field with a text. -/
def labelled (label text : String) : Form := .record [(label, .text text)]

namespace Machine

variable (m : Machine)

/-- The items of a sequence from place `i` on, which may change while they are written down. -/
def renderItems (render : Value → Prog Form) (s : Sequence) : Nat → Nat → Array Form → Prog Form
  | 0, _, _ => throw .exhausted
  | steps + 1, i, forms => do
    match ← s.item? i with
    | some v => renderItems render s steps (i + 1) (forms.push (← render v))
    | none => return .list forms.toList

/-- The entries of a dictionary from place `i` on, each as a pair. The dictionary has to keep its
size meanwhile. -/
def renderEntries (render : Value → Prog Form) (t : TableRef) (size : Nat) :
    Nat → Nat → Array Form → Prog Form
  | 0, _, _ => throw .exhausted
  | steps + 1, i, forms => do
    if (← tableSize t) ≠ size then plainFault .runtimeError
    else
      match ← nextEntry t i with
      | some (e, next) => do
        let key ← render e.key
        renderEntries render t size steps next (forms.push (.list [key, ← render e.value]))
      | none => return .list forms.toList

/-- The written form of a value. `depth` bounds how deep values are nested. -/
def renderWithin : Nat → Value → Prog Form
  | 0, _ => throw .exhausted
  | depth + 1, v => do
    match v with
    | .null => return .null
    | .bool b => return .bool b
    | .int n => renderInt n
    | .text s => return .text s
    | .notImplemented => return .record [("notimpl", .bool true)]
    | .list r => renderItems (renderWithin depth) (.list r) loopBound 0 #[]
    | .tuple r => renderItems (renderWithin depth) (.tuple r) loopBound 0 #[]
    | .dict r => do
      let t := TableRef.own r
      let entries ← renderEntries (renderWithin depth) t (← tableSize t) loopBound 0 #[]
      return .record [("dict", entries)]
    | .facade _ => return .record [("facade", ← renderWithin depth (← m.shownName v))]
    | .state _ => return .record [("state", ← renderWithin depth (← m.shownName v))]
    | .cls _ => return .record [("class", ← renderWithin depth (← m.shownName v))]
    | .builder _ => return labelled "builder" (← m.repr v)
    | .catalog c => return .record [("catalog", ← renderWithin depth (← m.names c))]
    | .definition _ => return labelled "definition" (← m.repr v)
    | .declaration r =>
      match ← seeing (fun h => h.declarations.get r) with
      | .parent name => do return .record [("extends", ← renderWithin depth name)]
      | .members part t => do
        let keys ← (t.keys.map Key.toValue).mapM (renderWithin depth)
        return .record [("declaration", .text part.name), ("keys", .list keys)]
    | .method _ => return .record [("method", .bool true)]
    | .function _ => return .record [("function", .bool true)]
    | v => return labelled "other" (← typeName v)

/-- How deep a value that is written down can be nested. -/
def renderDepth : Nat := 100000

def render (v : Value) : Prog Form := m.renderWithin renderDepth v

/-- The kind of a fault, and its message if it has one. A fault that comes up while the message is
made takes the place of the first. -/
def renderFault (f : Fault) : Prog Form := do
  let fields (f : Fault) : Prog Form := do
    let message := match ← m.faultMessage? f with
      | some s => [("message", Form.text s)]
      | none => []
    return .record (("error", .text f.kind.name) :: message)
  tryCatch (fields f) (fun g => return labelled "error" g.kind.name)

/-- The written outcome of a session. -/
def outcome (p : Prog Value) : Prog Form :=
  tryCatch (do
      let form ← m.render (← p)
      return .record [("ok", form)])
    m.renderFault

end Machine

def renderRecord (r : LogRecord) : Form := .list [.text r.level, .text r.source, .text r.text]

/-- The fields of a written outcome. -/
def fieldsOfOutcome : Except Fault Form → List (String × Form)
  | .ok (.record fields) => fields
  | .ok form => [("ok", form)]
  | .error f => [("error", .text f.kind.name)]

/-- The answer of a step: its outcome with what was printed and logged, if anything was. -/
def renderStep (r : Except Fault Form) (w : World Workspace) : Form :=
  let out := if w.out = "" then [] else [("out", Form.text w.out)]
  let log := if w.log.isEmpty then [] else [("log", Form.list (w.log.toList.map renderRecord))]
  .record (fieldsOfOutcome r ++ out ++ log)

/-- Run a session in a world, with an empty log and nothing printed. -/
def runSession (p : Prog Form) (w : World Workspace) : Except Fault Form × World Workspace :=
  p.toProgram.run { w with log := #[], out := "" }

/-- The answers of the steps of a script, each run in the world that the one before left. -/
def runSteps (m : Machine) (w : World Workspace) : List Expr → List Form
  | [] => []
  | e :: es =>
    let (r, w') := runSession (m.outcome (m.eval Workspace.rootFrame e)) w
    renderStep r w' :: runSteps m w' es

/-- The answers of a script that starts with nothing defined. -/
def runScript (steps : List Expr) : List Form :=
  runSteps scriptMachine (World.initial .initial) steps

end ObjectModel.Script
