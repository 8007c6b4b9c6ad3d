import ObjectModel.Proofs.BuilderCalls
import ObjectModel.Proofs.Descriptions

/-!
# Calling methods

The body of a method runs in a frame of its own, with the receiver and the arguments for variables,
and an expression is evaluated operand by operand. Much of what is evaluated on the way changes
nothing. A call may also do no more than print: then the objects of the model stay as they are, and
of what a script keeps besides, no function is replaced, and nothing is given to a thing or taken
away from one.
-/

namespace ObjectModel

namespace Arguments

/-- The argument of a call that is given exactly one, by its place or under its name. -/
def only? (args : Arguments) (name : String) : Option Value :=
  match args.positional with
  | [v] => if args.named.size = 0 then some v else none
  | [] => if args.named.keys.all (fun key => key == name) then args.named.find? name else none
  | _ => none

/-- No arguments are given. -/
def isEmpty (args : Arguments) : Bool := args.positional.isEmpty && args.named.size == 0

end Arguments

namespace Script

variable {w u u' : World Workspace} {s t : String}

section Parameters

variable {args : Arguments} {named : Table String Value} {params : List String} {name : String}

theorem any_givenName? (params : List String) (key : String) :
    (params.map Param.required).any (fun p => p.givenName? == some key) = params.contains key := by
  rw [Bool.eq_iff_iff]
  simp [Param.givenName?]

theorem surplusNamed_of_free (free : ∀ name ∈ params, named.contains name = false) :
    surplusNamed (params.map .required) named = named := by
  simp only [surplusNamed, any_givenName?]
  congr 1
  refine List.filter_eq_self.mpr (fun e there => ?_)
  rw [Bool.not_eq_true', List.contains_eq_mem, decide_eq_false_iff_not]
  intro taken
  simpa using List.any_eq_false.mp (free _ taken) e there

theorem size_surplusNamed_eq_zero_iff : (surplusNamed (params.map .required) named).size = 0 ↔
    ∀ key ∈ named.keys, key ∈ params := by
  simp only [surplusNamed, any_givenName?, Table.size, Table.keys, List.length_eq_zero_iff,
    List.filter_eq_nil_iff]
  simp

theorem size_ne_zero_of_contains (there : named.contains name = true) : named.size ≠ 0 := by
  intro none
  rw [Table.size, List.length_eq_zero_iff] at none
  simp [Table.contains, none] at there

theorem bindArguments_of_namedSelf (self : args.isNamed "self" = true) (receiver : Value)
    (params : List Param) :
    bindArguments (.required "self" :: params) (args.after receiver) = none := by
  simp only [Arguments.isNamed] at self
  simp [bindArguments, Arguments.after, matchParams, self]

/-- A method with no parameters takes no arguments. -/
theorem bindArguments_self (args : Arguments) (receiver : Value) :
    bindArguments [.required "self"] (args.after receiver) =
      if args.isEmpty then some [("self", .given receiver)] else none := by
  cases self : args.isNamed "self" with
  | true =>
    rw [bindArguments_of_namedSelf self]
    simp [Arguments.isEmpty, size_ne_zero_of_contains self]
  | false =>
    simp only [Arguments.isNamed] at self
    have surplus : surplusNamed (["self"].map .required) args.named = args.named :=
      surplusNamed_of_free (List.forall_mem_singleton.mpr self)
    rw [List.map_singleton] at surplus
    simp [bindArguments, Arguments.after, Arguments.isEmpty, matchParams, self, surplus,
      takesKeywords]

theorem only?_of_namedSelf (self : args.isNamed "self" = true) (other : name ≠ "self") :
    args.only? name = none := by
  have stranger : args.named.keys.all (fun key => key == name) = false :=
    List.all_eq_false.mpr
      ⟨"self", Table.contains_iff_mem_keys.mp self, by simpa using other.symm⟩
  rcases args with ⟨_ | ⟨v, _ | ⟨v', vs⟩⟩, named⟩
  · simp [Arguments.only?, stranger]
  · simp [Arguments.only?, size_ne_zero_of_contains self]
  · rfl

/-- A method with one parameter takes one argument. -/
theorem bindArguments_only (other : name ≠ "self") (args : Arguments) (receiver : Value) :
    bindArguments [.required "self", .required name] (args.after receiver) =
      (args.only? name).map (fun v => [("self", .given receiver), (name, .given v)]) := by
  cases self : args.isNamed "self" with
  | true => rw [bindArguments_of_namedSelf self, only?_of_namedSelf self other, Option.map_none]
  | false =>
    obtain ⟨positional, named⟩ := args
    simp only [Arguments.isNamed] at self
    rcases positional with _ | ⟨v, vs⟩
    · cases found : named.find? name with
      | none => simp [bindArguments, Arguments.after, Arguments.only?, matchParams, self, found]
      | some v =>
        -- the receiver is not among the names, so that nothing is left over if all are the one
        have absent : "self" ∉ named.keys := by
          rw [← Table.contains_iff_mem_keys, self]
          exact Bool.false_ne_true
        have surplus : (surplusNamed [.required "self", .required name] named).size = 0 ↔
            ∀ key ∈ named.keys, key = name := by
          have sizes : (surplusNamed (["self", name].map .required) named).size = 0 ↔
              ∀ key ∈ named.keys, key ∈ ["self", name] := size_surplusNamed_eq_zero_iff
          refine sizes.trans (forall₂_congr fun key there => ?_)
          have notSelf : key ≠ "self" := fun same => absent (same ▸ there)
          simp [notSelf]
        simp [bindArguments, Arguments.after, Arguments.only?, matchParams, self, found, surplus,
          takesKeywords]
    · cases taken : named.contains name with
      | true =>
        cases vs <;> simp [bindArguments, Arguments.after, Arguments.only?, matchParams, self,
          taken, size_ne_zero_of_contains taken]
      | false =>
        have surplus : surplusNamed (["self", name].map .required) named = named :=
          surplusNamed_of_free (by simp [self, taken])
        simp only [List.map_cons, List.map_nil] at surplus
        cases vs <;> simp [bindArguments, Arguments.after, Arguments.only?, matchParams, self,
          taken, surplus, takesKeywords]

end Parameters

section Worlds

/-- The world in which one more frame was made. -/
def withFrame (w : World Workspace) (f : Frame) : World Workspace :=
  { w with client := { w.client with frames := w.client.frames.push f } }

/-- The world in which a text was printed. -/
def withPrinted (w : World Workspace) (s : String) : World Workspace := { w with out := w.out ++ s }

theorem run_newFrame (f : Frame) (w : World Workspace) :
    (newFrame f).run w = (.ok w.client.frames.next, withFrame w f) := by
  rw [newFrame, Session.run_bind_of_ok (run_viewing w _), Session.run_bind_of_ok (run_poke w _)]
  exact Session.run_pure _ _

/-- No function was replaced, and nothing was given to a thing or taken away from one. -/
structure Workspace.Continues (c c' : Workspace) : Prop where
  functions : c'.functions = c.functions
  given : c'.given = c.given
  lost : c'.lost = c.lost
  strays : c'.strays = c.strays

theorem Workspace.Continues.refl (c : Workspace) : c.Continues c := ⟨rfl, rfl, rfl, rfl⟩

theorem Workspace.Continues.trans {c c' c'' : Workspace} (first : c.Continues c')
    (second : c'.Continues c'') : c.Continues c'' :=
  ⟨second.functions.trans first.functions, second.given.trans first.given,
    second.lost.trans first.lost, second.strays.trans first.strays⟩

section Continues

variable {c c' : Workspace} (continues : c.Continues c') (v : Value)

include continues

theorem Workspace.Continues.isAltered : c'.isAltered v = c.isAltered v := by
  rw [Workspace.isAltered, Workspace.givenTo, continues.given, continues.lost]
  rfl

theorem Workspace.Continues.hasStrays : c'.hasStrays v = c.hasStrays v := by
  rw [Workspace.hasStrays, continues.strays]
  rfl

theorem Workspace.Continues.standInFor? (e : ClassEntry) : c'.standInFor? e = c.standInFor? e := by
  rw [Workspace.standInFor?, Workspace.givenTo, continues.given, continues.isAltered]
  rfl

end Continues

/-- A text was printed, and else nothing has happened that matters to the objects of the model. -/
structure Printed (w : World Workspace) (s : String) (u : World Workspace) : Prop where
  out : u.out = w.out ++ s
  heap : u.heap = w.heap
  client : w.client.Continues u.client

theorem Printed.refl (w : World Workspace) : Printed w "" w :=
  ⟨String.append_empty.symm, rfl, .refl _⟩

theorem Printed.trans (first : Printed w s u) (second : Printed u t u') :
    Printed w (s ++ t) u' where
  out := by rw [second.out, first.out, String.append_assoc]
  heap := second.heap.trans first.heap
  client := first.client.trans second.client

theorem printed_withFrame (w : World Workspace) (f : Frame) : Printed w "" (withFrame w f) :=
  ⟨String.append_empty.symm, rfl, rfl, rfl, rfl, rfl⟩

theorem printed_withMethod (w : World Workspace) (b : BoundMethod) :
    Printed w "" (Machine.withMethod w b) :=
  ⟨String.append_empty.symm, rfl, rfl, rfl, rfl, rfl⟩

theorem printed_withPrinted (w : World Workspace) (s : String) : Printed w s (withPrinted w s) :=
  ⟨rfl, rfl, .refl _⟩

/-- A program prints a text and does nothing else. -/
def Prints (p : Prog Value) (w : World Workspace) (s : String) : Prop :=
  ∃ u, p.run w = (.ok .null, u) ∧ Printed w s u

theorem Prints.later {p q : Prog Value} (printed : Printed w "" u) (same : p.run w = q.run u)
    (prints : Prints q u s) : Prints p w s := by
  obtain ⟨u', run, printed'⟩ := prints
  refine ⟨u', same.trans run, ?_⟩
  rw [← String.empty_append (s := s)]
  exact printed.trans printed'

end Worlds

/-- A variable of a frame itself. -/
def Binds (w : World Workspace) (frame : Ref .frame) (name : String) (v : Value) : Prop :=
  (w.client.frames.get frame).vars.find? name = some v

theorem Binds.lookup {frame : Ref .frame} {name : String} {v : Value}
    (binds : Binds w frame name v) : w.client.lookup name frame = some v := by
  rw [Workspace.lookup, Workspace.lookupWithin.eq_def]
  dsimp only
  rw [show (w.client.frames.get frame).vars.find? name = some v from binds]

theorem binds_withFrame {f : Frame} {name : String} {v : Value}
    (found : f.vars.find? name = some v) :
    Binds (withFrame w f) w.client.frames.next name v := by
  rw [Binds, withFrame, Store.get_push_next]
  exact found

namespace Machine

/-- An expression has a value, and to evaluate it changes nothing. -/
def Yields (m : Machine) (w : World Workspace) (frame : Ref .frame) (e : Expr) (v : Value) : Prop :=
  (m.eval frame e).run w = (.ok v, w)

/-- Expressions are evaluated one after the other. -/
inductive Evaluates (m : Machine) (frame : Ref .frame) :
    World Workspace → List Expr → List Value → World Workspace → Prop
  | nil {w : World Workspace} : Evaluates m frame w [] [] w
  | cons {w u u' : World Workspace} {e : Expr} {v : Value} {es : List Expr} {vs : List Value}
    (first : (m.eval frame e).run w = (.ok v, u)) (rest : Evaluates m frame u es vs u') :
    Evaluates m frame w (e :: es) (v :: vs) u'

variable {m : Machine} {n : Nat} {frame : Ref .frame} {name key : String} {e : Expr} {v : Value}
  {es : List Expr} {vs : List Value}

theorem yields_null : (ofDepth (n + 1)).Yields w frame .null .null := Session.run_pure _ _

theorem yields_int (i : Int) : (ofDepth (n + 1)).Yields w frame (.int i) (.int i) :=
  Session.run_pure _ _

theorem yields_text (s : String) : (ofDepth (n + 1)).Yields w frame (.text s) (.text s) :=
  Session.run_pure _ _

theorem yields_var (binds : Binds w frame name v) :
    (ofDepth (n + 1)).Yields w frame (.var name) v := by
  refine (Session.run_bind_of_ok (run_viewing w _)).trans ?_
  rw [binds.lookup]
  exact Session.run_pure _ _

theorem run_evalAll (evaluates : m.Evaluates frame w es vs u) (found : Array Value) :
    (m.evalAll frame found es).run w = (.ok (found ++ vs.toArray), u) := by
  induction evaluates generalizing found with
  | nil => simp [evalAll]
  | cons first _ ih =>
    rw [evalAll, Session.run_bind_of_ok first, ih]
    simp

/-- Operands are evaluated before the operation is applied to them. -/
theorem run_apply {op : Operation} (evaluates : (ofDepth n).Evaluates frame w es vs u)
    (other : op ≠ .same) : ((ofDepth (n + 1)).eval frame (.apply op es)).run w =
      ((ofDepth n).applyOperation op vs).run u := by
  have step : (ofDepth (n + 1)).eval frame (.apply op es) =
      (ofDepth n).evalAll frame #[] es >>= fun found =>
        (ofDepth n).applyOperation op found.toList := by
    cases op <;> first | exact absurd rfl other | rfl
  rw [step, Session.run_bind_of_ok (run_evalAll evaluates #[])]
  simp

theorem run_readAttribute {r : Except Fault Value} (read : (m.read v key).run w = (r, u)) :
    (m.readAttribute v (.text key)).run w = (r, u) :=
  (Session.run_bind_of_ok (Session.run_pure key w)).trans read

theorem yields_get {receiver : Value} (yields : (ofDepth (n + 1)).Yields w frame e receiver)
    (read : ((ofDepth (n + 1)).read receiver key).run w = (.ok v, w)) :
    (ofDepth (n + 2)).Yields w frame (.apply .get [e, .text key]) v :=
  (run_apply (.cons yields (.cons (yields_text key) .nil)) (by simp)).trans (run_readAttribute read)

theorem yields_add_texts {e' : Expr} (yields : (ofDepth n).Yields w frame e (.text s))
    (yields' : (ofDepth n).Yields w frame e' (.text t)) :
    (ofDepth (n + 1)).Yields w frame (.apply (.binary .add) [e, e']) (.text (s ++ t)) :=
  (run_apply (.cons yields (.cons yields' .nil)) (by simp)).trans
    (Session.run_eq_iff.mpr (fun _ => rfl))

theorem yields_add_ints {e' : Expr} {i j : Int} (yields : (ofDepth n).Yields w frame e (.int i))
    (yields' : (ofDepth n).Yields w frame e' (.int j)) :
    (ofDepth (n + 1)).Yields w frame (.apply (.binary .add) [e, e']) (.int (i + j)) :=
  (run_apply (.cons yields (.cons yields' .nil)) (by simp)).trans
    (Session.run_eq_iff.mpr (fun _ => rfl))

/-- The steps of a sequence are done one after the other. -/
theorem run_evalSeq_cons {e' : Expr} (first : (m.eval frame e).run w = (.ok v, u)) :
    (m.evalSeq frame (e :: e' :: es)).run w = (m.evalSeq frame (e' :: es)).run u := by
  rw [evalSeq]
  · exact Session.run_bind_of_ok first
  · simp

theorem run_print (yields : (ofDepth (n + 1)).Yields w frame e (.text s)) :
    ((ofDepth (n + 2)).eval frame (.print [e])).run w =
      (.ok .null, withPrinted w (s ++ "\n")) := by
  have printed : ((ofDepth (n + 1)).printAll [.text s]).run w =
      (.ok (), withPrinted w (s ++ "\n")) := by
    refine (Session.run_bind_of_ok (Session.run_pure s w)).trans ?_
    refine (Session.run_bind_of_ok (Session.run_ask _ w)).trans ?_
    refine (Session.run_ask _ _).trans ?_
    simp [World.perform, withPrinted, String.append_assoc]
  refine (Session.run_bind_of_ok (run_evalAll (.cons yields .nil) #[])).trans ?_
  exact (Session.run_bind_of_ok printed).trans (Session.run_pure _ _)

theorem run_evalArguments (evaluates : m.Evaluates frame w es vs u) :
    (m.evalArguments frame es []).run w = (.ok (.ofList vs), u) := by
  rw [evalArguments, Session.run_bind_of_ok (run_evalAll evaluates #[])]
  refine (Session.run_bind_of_ok (Session.run_pure _ u)).trans ?_
  simp [Arguments.ofList]

/-- A member is read before the arguments of its call are evaluated. -/
theorem run_send {receiver f : Value} (yields : (ofDepth (n + 1)).Yields w frame e receiver)
    (read : ((ofDepth (n + 1)).read receiver key).run w = (.ok f, u))
    (operands : (ofDepth (n + 1)).Evaluates frame u es vs u') :
    ((ofDepth (n + 2)).eval frame (.send e (.text key) es [])).run w =
      ((ofDepth (n + 1)).call f (.ofList vs)).run u' := by
  have given := run_evalArguments operands
  refine (Session.run_bind_of_ok yields).trans ?_
  refine (Session.run_bind_of_ok (yields_text key)).trans ?_
  refine (Session.run_bind_of_ok (run_readAttribute read)).trans ?_
  exact Session.run_bind_of_ok given

section Calls

variable {c : Closure} {args : Arguments} {receiver : Value}

theorem run_slotValues (given : List (String × Value)) (vars : Table String Value) :
    (m.slotValues frame vars (given.map (fun e => (e.1, .given e.2)))).run w =
      (.ok (vars.merge ⟨given⟩), w) := by
  induction given generalizing vars with
  | nil => exact Session.run_pure _ w
  | cons e given ih =>
    rw [List.map_cons, slotValues, Table.merge_cons]
    exact (Session.run_bind_of_ok (Session.run_pure _ w)).trans (ih _)

/-- The body of a function runs in a new frame with what was given for the parameters. -/
theorem run_applyClosure {given : List (String × Value)}
    (fits : bindArguments c.params args = some (given.map (fun e => (e.1, .given e.2)))) :
    (m.applyClosure c args).run w = (m.eval w.client.frames.next c.body).run
      (withFrame w ⟨.ofList given, some c.frame⟩) := by
  rw [applyClosure, fits]
  refine (Session.run_bind_of_ok (run_slotValues given .empty)).trans ?_
  exact Session.run_bind_of_ok (run_newFrame _ w)

theorem run_applyClosure_of_none (fits : bindArguments c.params args = none) :
    (m.applyClosure c args).run w = (.error .wrongType, w) := by
  rw [applyClosure, fits]
  exact Session.run_throw _ w

/-- The body of a method with one parameter runs with what the call is given. -/
theorem run_applyClosure_of_only {body : Expr} {home : Ref .frame}
    (closure : c = ⟨[.required "self", .required name], body, home⟩) (other : name ≠ "self")
    (only : args.only? name = some v) : (m.applyClosure c (args.after receiver)).run w =
      (m.eval w.client.frames.next body).run
        (withFrame w ⟨.ofList [("self", receiver), (name, v)], some home⟩) := by
  subst closure
  refine run_applyClosure ?_
  rw [bindArguments_only other, only]
  rfl

theorem run_applyClosure_of_isEmpty {body : Expr} {home : Ref .frame}
    (closure : c = ⟨[.required "self"], body, home⟩) (empty : args.isEmpty = true) :
    (m.applyClosure c (args.after receiver)).run w = (m.eval w.client.frames.next body).run
      (withFrame w ⟨.ofList [("self", receiver)], some home⟩) := by
  subst closure
  refine run_applyClosure ?_
  rw [bindArguments_self, empty]
  rfl

/-- To call a method is to apply its function to the receiver and the arguments. -/
theorem run_call_method {f : Ref .function} (w : World Workspace) (args : Arguments) :
    ((ofDepth (n + 3)).call (.method w.client.methods.next) args).run
        (withMethod w ⟨receiver, .function (.function f)⟩) =
      ((ofDepth (n + 1)).applyClosure (w.client.functions.get f) (args.after receiver)).run
        (withMethod w ⟨receiver, .function (.function f)⟩) := by
  refine (Session.run_bind_of_ok (run_viewing _ _)).trans ?_
  rw [withMethod, Store.get_push_next]
  exact Session.run_bind_of_ok (run_viewing _ _)

end Calls

end Machine

end Script

end ObjectModel
