import Mathlib.Data.List.Forall2
import ObjectModel.Proofs.BuildOutcomes
import ObjectModel.Proofs.DeclaredTables
import ObjectModel.Proofs.DictionaryRuns
import ObjectModel.Proofs.MethodCalls

/-!
# Evaluating class bodies

The items of a class body are evaluated one after the other before the builder takes any of them.
Where the tables are written down with numbers and functions, this only adds functions, dictionaries
and declarations, and each declaration has the table that is written.
-/

namespace ObjectModel

theorem Session.reaches_run {σ ω α : Type} {s : Session σ ω α} {w u : World σ} {r : Except Fault α}
    (run : s.run w = (r, u)) : w.Reaches u := by
  have reaches := Program.run_reaches s.lawful.choose w
  rw [show s.lawful.choose.run w = (r, u) from run] at reaches
  exact reaches

namespace Script

variable {w u u' : World Workspace} {frame : Ref .frame} {c c' : Workspace} {e : Expr} {v : Value}
  {es : List Expr} {vs : List Value} {n : Nat}

/-- Functions were added, and no frame was changed. Nothing was given to a thing or taken away from
one. -/
structure Workspace.Grows (c c' : Workspace) : Prop where
  functions : Store.Keeps id c.functions c'.functions
  frames : c'.frames = c.frames
  given : c'.given = c.given
  lost : c'.lost = c.lost
  strays : c'.strays = c.strays

theorem Workspace.Grows.refl (c : Workspace) : c.Grows c := ⟨.refl _ _, rfl, rfl, rfl, rfl⟩

theorem Workspace.Grows.trans {c'' : Workspace} (first : c.Grows c') (second : c'.Grows c'') :
    c.Grows c'' :=
  ⟨first.functions.trans second.functions, second.frames.trans first.frames,
    second.given.trans first.given, second.lost.trans first.lost,
    second.strays.trans first.strays⟩

/-- Apart from the functions that were added, the workspace goes on as it was. -/
theorem Workspace.Grows.continues (grows : c.Grows c') :
    { c with functions := c'.functions : Workspace }.Continues c' :=
  ⟨rfl, grows.given, grows.lost, grows.strays⟩

theorem Workspace.Grows.isAltered (grows : c.Grows c') (v : Value) :
    c'.isAltered v = c.isAltered v :=
  grows.continues.isAltered v

theorem Workspace.Grows.hasStrays (grows : c.Grows c') (v : Value) :
    c'.hasStrays v = c.hasStrays v :=
  grows.continues.hasStrays v

/-- Declarations were added to the objects of the model, and no others. -/
structure Adds (w u : World Workspace) : Prop where
  catalogs : u.heap.catalogs = w.heap.catalogs
  builders : u.heap.builders = w.heap.builders
  definitions : u.heap.definitions = w.heap.definitions
  classes : u.heap.classes = w.heap.classes
  declarations : Store.Keeps id w.heap.declarations u.heap.declarations
  client : w.client.Grows u.client

theorem Adds.refl (w : World Workspace) : Adds w w := ⟨rfl, rfl, rfl, rfl, .refl _ _, .refl _⟩

theorem Adds.trans (first : Adds w u) (second : Adds u u') : Adds w u' :=
  ⟨second.catalogs.trans first.catalogs, second.builders.trans first.builders,
    second.definitions.trans first.definitions, second.classes.trans first.classes,
    first.declarations.trans second.declarations, first.client.trans second.client⟩

theorem Adds.of_client (heap : u.heap = w.heap) (client : w.client.Grows u.client) : Adds w u := by
  refine ⟨?_, ?_, ?_, ?_, ?_, client⟩ <;> rw [heap]
  exact .refl _ _

section Members

/-- What can stand for a member: a number or a function, written down. -/
inductive IsWritten : Expr → Prop
  | int (i : Int) : IsWritten (.int i)
  | fn (params : List Param) (body : Expr) : IsWritten (.fn params body)

/-- The value of such an expression. A function is made in the frame of the class body. -/
inductive Denotes (frame : Ref .frame) (c : Workspace) : Expr → Value → Prop
  | int (i : Int) : Denotes frame c (.int i) (.int i)
  | fn {params : List Param} {body : Expr} {f : Ref .function}
    (there : c.functions.contains f = true) (closure : c.functions.get f = ⟨params, body, frame⟩) :
    Denotes frame c (.fn params body) (.function f)

theorem Denotes.grows (denotes : Denotes frame c e v) (grows : c.Grows c') :
    Denotes frame c' e v := by
  cases denotes with
  | int i => exact .int i
  | fn there closure =>
    obtain ⟨there', same⟩ := grows.functions _ there
    exact .fn there' (same.trans closure)

theorem denotes_grows (denote : List.Forall₂ (Denotes frame c) es vs) (grows : c.Grows c') :
    List.Forall₂ (Denotes frame c') es vs :=
  denote.imp (fun _ _ denotes => denotes.grows grows)

/-- The table of a class body as it is written down. -/
def writtenTable (entries : List (String × Expr)) : List (Expr × Expr) :=
  entries.map (fun e => (.text e.1, e.2))

/-- The table of the members with these values. -/
def memberTable (entries : List (String × Expr)) (vs : List Value) : Table Key Value :=
  ⟨List.zipWith (fun e v => (.text e.1, v)) entries vs⟩

theorem entries_memberTable {entries : List (String × Expr)} {P : Key → Prop} {Q : Value → Prop}
    (denote : List.Forall₂ (Denotes frame c) (entries.map Prod.snd) vs)
    (keys : ∀ e ∈ entries, P (.text e.1))
    (values : ∀ e ∈ entries, ∀ v, Denotes frame c e.2 v → Q v) :
    (memberTable entries vs).Entries P Q := by
  induction entries generalizing vs with
  | nil => exact fun _ there => nomatch there
  | cons e entries ih =>
    obtain ⟨v, rest, first, later, rfl⟩ := List.forall₂_cons_left_iff.mp denote
    have others := ih later (fun e' there => keys e' (List.mem_cons_of_mem _ there))
      (fun e' there => values e' (List.mem_cons_of_mem _ there))
    intro a there
    rcases List.mem_cons.mp there with rfl | there
    · exact ⟨keys e List.mem_cons_self, values e List.mem_cons_self v first⟩
    · exact others a there

end Members

namespace Machine

variable {m : Machine} {r : Ref .dict}

theorem exists_run_written (frame : Ref .frame) (written : IsWritten e) (w : World Workspace) :
    ∃ v u,
    ((ofDepth (n + 1)).eval frame e).run w = (.ok v, u) ∧ Adds w u ∧
      Denotes frame u.client e v ∧ u.client.dicts = w.client.dicts := by
  cases written with
  | int i => exact ⟨.int i, w, yields_int i, .refl w, .int i, rfl⟩
  | fn params body =>
    let closure : Closure := ⟨params, body, frame⟩
    let made := w.client.functions.push closure
    refine ⟨.function w.client.functions.next,
      { w with client := { w.client with functions := made } },
      Session.run_eq_iff.mpr (fun _ => rfl),
      .of_client rfl ⟨Store.keeps_push _ _ _, rfl, rfl, rfl, rfl⟩,
      .fn (Store.contains_push_next _ _) (Store.get_push_next _ _), rfl⟩

/-- The entries of a written table are put behind each other, in their order. -/
theorem exists_run_evalEntries (frame : Ref .frame) {entries : List (String × Expr)}
    (written : ∀ e ∈ entries, IsWritten e.2)
    (apart : (entries.map (fun e => KeyCode.ofText e.1)).Nodup)
    (made : w.client.dicts.contains r = true) (new : ∀ e ∈ entries, IsNew w r e.1) : ∃ vs u,
    ((ofDepth (n + 1)).evalEntries frame r (writtenTable entries)).run w = (.ok (), u) ∧
      Adds w u ∧ List.Forall₂ (Denotes frame u.client) (entries.map Prod.snd) vs ∧
      (u.client.dicts.get r).entries = (w.client.dicts.get r).entries ++
        List.zipWith (fun e v => ⟨KeyCode.ofText e.1, .text e.1, v⟩) entries vs := by
  induction entries generalizing w with
  | nil => exact ⟨[], w, Session.run_pure _ w, .refl w, .nil, by simp⟩
  | cons e entries ih =>
    obtain ⟨v, u₁, evaluated, adds₁, denotes, dicts⟩ :=
      exists_run_written (n := n) frame (written e List.mem_cons_self) w
    have made₁ : u₁.client.dicts.contains r = true := by rw [dicts, made]
    have new₁ : ∀ e' ∈ e :: entries, IsNew u₁ r e'.1 := by
      intro e' there
      rw [IsNew, dicts]
      exact new e' there
    obtain ⟨d, set, held⟩ := exists_run_setItem_of_new (n := n) made₁ (new₁ e List.mem_cons_self) v
    let u₂ := withDict u₁ r d
    have adds₂ : Adds u₁ u₂ := .of_client rfl ⟨.refl _ _, rfl, rfl, rfl, rfl⟩
    have got : u₂.client.dicts.get r = d := Store.get_set_self made₁ d
    obtain ⟨first, rest⟩ := List.nodup_cons.mp apart
    have new₂ : ∀ e' ∈ entries, IsNew u₂ r e'.1 := by
      intro e' there a listed
      rw [got, held] at listed
      rcases List.mem_append.mp listed with old | added
      · exact new₁ e' (List.mem_cons_of_mem _ there) a old
      · rw [List.mem_singleton.mp added]
        intro same
        exact first (List.mem_map.mpr ⟨e', there, same.symm⟩)
    obtain ⟨vs, u, filled, adds, denote, entries_⟩ := ih
      (fun e' there => written e' (List.mem_cons_of_mem _ there)) rest
      ((Store.contains_set _ _ _ _).trans made₁) new₂
    have grows := adds₂.trans adds
    refine ⟨v :: vs, u, ?_, adds₁.trans grows, .cons (denotes.grows grows.client) denote, ?_⟩
    · refine (Session.run_bind_of_ok (yields_text e.1)).trans ?_
      refine (Session.run_bind_of_ok evaluated).trans ?_
      exact (Session.run_bind_of_ok set).trans filled
    · rw [entries_, got, held, dicts, List.append_assoc]
      rfl

end Machine

section Items

/-- An item of a class body, as it is written down. -/
inductive BodyItem where
  | extend (name : String)
  | members (part : Section) (entries : List (String × Expr))

namespace BodyItem

def expr : BodyItem → Expr
  | extend name => .apply .extend [.text name]
  | members part entries => .apply (.members part) [.dict (writtenTable entries)]

/-- Different names, of members that the section takes. -/
inductive Sound : BodyItem → Prop
  | extend (name : String) : Sound (.extend name)
  | members {part : Section} {entries : List (String × Expr)} (member : part ≠ .operators)
    (apart : (entries.map (fun e => KeyCode.ofText e.1)).Nodup)
    (free : ∀ e ∈ entries, e.1 ≠ parentHandle) (written : ∀ e ∈ entries, IsWritten e.2)
    (functions : part ≠ .statics → ∀ e ∈ entries, ∃ params body, e.2 = .fn params body) :
    Sound (.members part entries)

/-- What an item declares. -/
inductive Declares (frame : Ref .frame) (c : Workspace) : BodyItem → Declaration → Prop
  | extend (name : String) : Declares frame c (.extend name) (.parent (.text name))
  | members {part : Section} {entries : List (String × Expr)} {vs : List Value}
    (denote : List.Forall₂ (Denotes frame c) (entries.map Prod.snd) vs) :
    Declares frame c (.members part entries) (.members part (memberTable entries vs))

variable {item : BodyItem} {d : Declaration}

theorem Declares.grows (declares : item.Declares frame c d) (grows : c.Grows c') :
    item.Declares frame c' d := by
  cases declares with
  | extend name => exact .extend name
  | members denote => exact .members (denotes_grows denote grows)

/-- What is declared is plain, and fits as long as functions can be called. -/
theorem Sound.fits (sound : item.Sound) (declares : item.Declares frame c d) (h : Heap) :
    d.Plain ∧ d.Fits h.callable := by
  cases declares with
  | extend name => exact ⟨.parent (.text name), trivial⟩
  | @members part entries vs denote =>
    cases sound with
    | members member apart free written functions =>
      have keys : PlainKeys part (memberTable entries vs) :=
        entries_memberTable denote (fun e _ => ⟨.text e.1, fun hooks => absurd hooks member⟩)
          (fun _ _ _ _ => trivial)
      refine ⟨.members keys, Section.check_eq_ok.mpr (entries_memberTable denote ?_ ?_)⟩
      · intro e there
        cases part with
        | operators => exact absurd rfl member
        | statics | privates | publics => simpa [Section.TakesKey] using free e there
      · intro e there v denotes
        cases part with
        | statics => trivial
        | privates | publics | operators =>
          obtain ⟨params, body, function⟩ := functions (by simp) e there
          rw [function] at denotes
          cases denotes with
          | fn => rfl

end BodyItem

namespace Machine

open World (withDeclaration)

variable {item : BodyItem}

theorem adds_withDeclaration (w : World Workspace) (d : Declaration) :
    Adds w (withDeclaration w d) :=
  ⟨rfl, rfl, rfl, rfl, Store.keeps_push _ _ _, .refl _⟩

/-- A written table is a new dictionary, of which all keys are texts. -/
theorem exists_run_dict (frame : Ref .frame) {entries : List (String × Expr)}
    (written : ∀ e ∈ entries, IsWritten e.2)
    (apart : (entries.map (fun e => KeyCode.ofText e.1)).Nodup) (w : World Workspace) :
    ∃ r vs u, ((ofDepth (n + 2)).eval frame (.dict (writtenTable entries))).run w =
        (.ok (.dict r), u) ∧
      Adds w u ∧ List.Forall₂ (Denotes frame u.client) (entries.map Prod.snd) vs ∧
      tableAt u r = memberTable entries vs := by
  let opened := withNewDict w .empty
  have added : Adds w opened := .of_client rfl ⟨.refl _ _, rfl, rfl, rfl, rfl⟩
  obtain ⟨vs, u, filled, adds, denote, held⟩ := exists_run_evalEntries (n := n) (w := opened)
    (r := w.client.dicts.next) frame written apart (Store.contains_push_next _ _)
    (fun e _ => isNew_next w e.1)
  refine ⟨w.client.dicts.next, vs, u, ?_, added.trans adds, denote, ?_⟩
  · refine (Session.run_bind_of_ok (run_newDict .empty w)).trans ?_
    exact (Session.run_bind_of_ok filled).trans (Session.run_pure _ u)
  · have empty : (opened.client.dicts.get w.client.dicts.next).entries = [] := by
      rw [show opened.client.dicts.get w.client.dicts.next = .empty from Store.get_push_next _ _]
      rfl
    rw [tableAt, held, empty, List.nil_append, memberTableOf, memberTable, List.map_zipWith]
    rfl

/-- An item is evaluated to a declaration of what is written. -/
theorem exists_run_item (frame : Ref .frame) (sound : item.Sound) (w : World Workspace) : ∃ r d u,
    ((ofDepth (n + 3)).eval frame item.expr).run w = (.ok (.declaration r), u) ∧ Adds w u ∧
      u.heap.declarations.contains r = true ∧ u.heap.declarations.get r = d ∧
      item.Declares frame u.client d := by
  have new (u : World Workspace) (d : Declaration) :
      (withDeclaration u d).heap.declarations.contains u.heap.declarations.next = true ∧
      (withDeclaration u d).heap.declarations.get u.heap.declarations.next = d :=
    ⟨Store.contains_push_next _ _, Store.get_push_next _ _⟩
  cases sound with
  | extend name =>
    obtain ⟨there, got⟩ := new w (.parent (.text name))
    refine ⟨_, _, withDeclaration w (.parent (.text name)), ?_, adds_withDeclaration w _, there,
      got, .extend name⟩
    refine (run_apply (.cons (yields_text name) .nil) (by simp)).trans ?_
    exact Session.run_eq_iff.mpr (fun _ => rfl)
  | @members part entries member apart free written functions =>
    obtain ⟨r, vs, u, filled, adds, denote, table⟩ :=
      exists_run_dict (n := n) frame written apart w
    have texts : Section.TextKeys (tableAt u r) := by
      rw [table]
      exact entries_memberTable denote (fun e _ => ⟨e.1, rfl⟩) (fun _ _ _ _ => trivial)
    have fits : part.check u.heap.callable (tableAt u r) = .ok () := by
      rw [table]
      exact ((BodyItem.Sound.members member apart free written functions).fits (.members denote)
        u.heap).2
    obtain ⟨there, got⟩ := new u (.members part (tableAt u r))
    refine ⟨_, _, withDeclaration u (.members part (tableAt u r)), ?_,
      adds.trans (adds_withDeclaration u _), there, got, ?_⟩
    · refine (run_apply (.cons filled .nil) (by simp)).trans ?_
      exact run_declareMembers_of_fits texts fits _
    · rw [table]
      exact .members denote

/-- So are all items of a class body. -/
theorem exists_run_items (frame : Ref .frame) {items : List BodyItem}
    (sound : ∀ item ∈ items, item.Sound)
    (w : World Workspace) : ∃ (rs : List (Ref .declaration)) (ds : List Declaration) (u : _),
      (ofDepth (n + 3)).Evaluates frame w (items.map BodyItem.expr) (rs.map .declaration) u ∧
      Adds w u ∧ (∀ r ∈ rs, u.heap.declarations.contains r = true) ∧
      rs.map u.heap.declarations.get = ds ∧
      List.Forall₂ (BodyItem.Declares frame u.client) items ds := by
  induction items generalizing w with
  | nil => exact ⟨[], [], w, .nil, .refl w, by simp, rfl, .nil⟩
  | cons item items ih =>
    obtain ⟨r, d, u, evaluated, added, there, got, declares⟩ :=
      exists_run_item (n := n) frame (sound item List.mem_cons_self) w
    obtain ⟨rs, ds, u', evaluates, adds, theres, gots, declare⟩ :=
      ih (fun item there => sound item (List.mem_cons_of_mem _ there)) u
    obtain ⟨there', same⟩ := adds.declarations r there
    refine ⟨r :: rs, d :: ds, u', .cons evaluated evaluates, added.trans adds,
      List.forall_mem_cons.mpr ⟨there', theres⟩, ?_, .cons (declares.grows adds.client) declare⟩
    rw [List.map_cons, gots, ← got]
    exact congrArg (· :: ds) same

end Machine

end Items

end Script

end ObjectModel
