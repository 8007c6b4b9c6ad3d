import ObjectModel.Proofs.CatalogQueries
import ObjectModel.Proofs.Redefinition

/-!
# The order of commits

What is registered in one catalog changes nothing of another. In one catalog, the lineages of all
definitions depend on the last registration of each name alone: the order in which the names were
registered, and what was registered under them before, have no part in how parents are resolved.
-/

namespace ObjectModel

theorem Action.Reports.elsewhere {σ : Type} {a : Action σ} (reports : a.Reports)
    (k : Ref .catalog) : a.catalog? ≠ some k := by
  cases a with
  | look | note _ => simp [Action.catalog?]
  | _ => cases reports

namespace Heap

variable {h h' : Heap} {k : Ref .catalog}

theorem lookup_text (name : String) :
    h.lookup k (.text name) =
      match h.current? k name with
      | some d => .ok d
      | none => .error (.undefinedClass (.text name)) := by
  simp only [lookup, importClass, current?]
  cases (h.catalogs.get k).classes.find? name <;> rfl

theorem lookup_congr (current : ∀ name, h'.current? k name = h.current? k name) (v : Value) :
    h'.lookup k v = h.lookup k v := by
  cases v with
  | text name => rw [lookup_text, lookup_text, current]
  | _ => rfl

section Lineage

variable (definitions : h'.definitions = h.definitions)
  (current : ∀ name, h'.current? k name = h.current? k name)

include definitions current

theorem climb_congr (steps : Nat) (chain : List (Ref .definition)) (seen : List Value)
    (v : Value) : h'.climb k steps chain seen v = h.climb k steps chain seen v := by
  have record := definition_congr definitions
  fun_induction Heap.climb h k steps chain seen v with
  | case1 | case2 => simp [Heap.climb]
  | case3 steps chain seen name notNull again =>
    rw [climb_succ notNull, if_pos again, cycleFault, cycleFault]
    simp only [record]
  | case4 steps chain seen name notNull fresh ih =>
    rw [climb_succ notNull, if_neg fresh, lookup_congr current]
    cases h.lookup k name with
    | error e => rfl
    | ok parent =>
      change h'.climb k steps _ _ (h'.definition parent).parent = _
      rw [record]
      exact ih parent

/-- A lineage depends on the definitions, on which of them has each name, and on how many names there
are. -/
theorem lineage_congr
    (size : (h'.catalogs.get k).classes.size = (h.catalogs.get k).classes.size)
    (d : Ref .definition) : h'.lineage k d = h.lineage k d := by
  simp only [lineage, definition_congr definitions, size, climb_congr definitions current]

end Lineage

theorem mem_names_iff {name : String} :
    name ∈ h.names k ↔ (h.current? k name).isSome = true := by
  rw [names, ← Table.contains_iff_mem_keys, Table.contains_eq_isSome_find?, current?,
    Option.isSome_map]

theorem size_eq_of_current (nodup : (h.names k).Nodup) (nodup' : (h'.names k).Nodup)
    (current : ∀ name, h'.current? k name = h.current? k name) :
    (h'.catalogs.get k).classes.size = (h.catalogs.get k).classes.size := by
  -- both list what is current, each name once, if perhaps in another order
  have perm : (h'.names k).Perm (h.names k) := by
    refine (List.perm_ext_iff_of_nodup nodup' nodup).mpr (fun name => ?_)
    rw [mem_names_iff, mem_names_iff, current]
  simpa [names, Table.keys, Table.size] using perm.length_eq

end Heap

/-- What is done to register definitions that are there. -/
def Action.Commits {σ : Type} : Action σ → Prop
  | .look | .note _ | .closeBuilder _ | .register _ _ => True
  | _ => False

theorem Action.Reports.commits {σ : Type} {a : Action σ} (reports : a.Reports) : a.Commits := by
  cases a with
  | look | note _ => exact trivial
  | _ => cases reports

theorem Heap.Step.definitions_eq {σ : Type} {a : Action σ} {h h' : Heap} (hs : h.Step a h')
    (commits : a.Commits) : h'.definitions = h.definitions := by
  cases hs with
  | stay _ | closeBuilder _ _ | register _ _ _ => rfl
  | setStatic view _ _ _ => cases view <;> cases commits
  | _ => cases commits

namespace World

variable {σ : Type} {w : World σ} {as bs : List (Action σ)} {k : Ref .catalog}

theorem Reachable.nodup_names (reachable : w.Reachable) : (w.heap.names k).Nodup := by
  obtain ⟨start, reaches⟩ := reachable
  obtain ⟨as, rfl⟩ := exists_actions_of_reaches reaches
  rw [Heap.names, classes_eq_ofList]
  exact Table.nodup_keys_ofList _

theorem Each.definitions_eq (commits : w.Each (fun _ a => a.Commits) as) :
    (w.after as).heap.definitions = w.heap.definitions := by
  induction as generalizing w with
  | nil => rfl
  | cons a as ih => exact (ih commits.2).trans ((perform_step w a).definitions_eq commits.1)

/-- Two runs that only register definitions, and that register the same one last under each name,
give each definition the same lineage. -/
theorem lineage_eq_of_last (reachable : w.Reachable) (commits : w.Each (fun _ a => a.Commits) as)
    (commits' : w.Each (fun _ a => a.Commits) bs)
    (same : ∀ name, w.last (committed? k name) bs = w.last (committed? k name) as)
    (d : Ref .definition) : (w.after bs).heap.lineage k d = (w.after as).heap.lineage k d := by
  have current (name : String) :
      (w.after bs).heap.current? k name = (w.after as).heap.current? k name := by
    rw [current?_after_of_registered reachable.registered,
      current?_after_of_registered reachable.registered, same]
  have size := Heap.size_eq_of_current (reachable.after (reaches_after w as)).nodup_names
    (reachable.after (reaches_after w bs)).nodup_names current
  exact Heap.lineage_congr (commits'.definitions_eq.trans commits.definitions_eq.symm) current size d

end World

namespace Heap

/-- What registrations leave as it is. The builders for which `keep` holds stay as open or closed as
they were. -/
structure SameBuilders (keep : Ref .builder → Prop) (h h' : Heap) : Prop where
  definitions : h'.definitions = h.definitions
  catalogs : ∀ c, h'.catalogs.contains c = h.catalogs.contains c
  builders : ∀ b, h'.builders.contains b = h.builders.contains b
  catalog : ∀ b, (h'.builders.get b).catalog = (h.builders.get b).catalog
  definition : ∀ b, h'.builderDefinition b = h.builderDefinition b
  finalized : ∀ b, keep b → h'.finalized b = h.finalized b

variable {keep : Ref .builder → Prop} {h h' h'' : Heap}

theorem SameBuilders.refl (keep : Ref .builder → Prop) (h : Heap) : h.SameBuilders keep h :=
  ⟨rfl, fun _ => rfl, fun _ => rfl, fun _ => rfl, fun _ => rfl, fun _ _ => rfl⟩

theorem SameBuilders.trans (first : h.SameBuilders keep h') (second : h'.SameBuilders keep h'') :
    h.SameBuilders keep h'' where
  definitions := second.definitions.trans first.definitions
  catalogs c := (second.catalogs c).trans (first.catalogs c)
  builders b := (second.builders b).trans (first.builders b)
  catalog b := (second.catalog b).trans (first.catalog b)
  definition b := (second.definition b).trans (first.definition b)
  finalized b kept := (second.finalized b kept).trans (first.finalized b kept)

theorem Step.sameBuilders {σ : Type} {a : Action σ} (hs : h.Step a h') (commits : a.Commits)
    (closes : ∀ b, keep b → a ≠ .closeBuilder b) : h.SameBuilders keep h' := by
  cases hs with
  | stay _ => exact .refl _ _
  | register inCatalog defined named =>
    exact ⟨rfl, fun c => Store.contains_modify _ _ _ _, fun _ => rfl, fun _ => rfl, fun _ => rfl,
      fun _ _ => rfl⟩
  | @closeBuilder b made isOpen =>
    have get (b' : Ref .builder) : ∃ closed, (h.builders.set b { h.builders.get b with
        finalized := true }).get b' = { h.builders.get b' with finalized := closed } ∧
        (b ≠ b' → closed = h.finalized b') := by
      rw [Store.get_set]
      split
      · rename_i same
        exact ⟨true, by rw [same.1], fun other => absurd same.1 other⟩
      · exact ⟨_, rfl, fun _ => rfl⟩
    refine ⟨rfl, fun _ => rfl, fun b' => Store.contains_set _ _ _ _, fun b' => ?_, fun b' => ?_,
      fun b' kept => ?_⟩
    · obtain ⟨_, set, -⟩ := get b'
      exact (congrArg Builder.catalog set).trans rfl
    · obtain ⟨_, set, -⟩ := get b'
      exact (congrArg Builder.definition set).trans rfl
    · obtain ⟨_, set, other⟩ := get b'
      exact (congrArg Builder.finalized set).trans
        (other (fun same => closes b' kept (congrArg Action.closeBuilder same)))
  | setStatic view _ _ _ => cases view <;> cases commits
  | _ => cases commits

end Heap

theorem World.Each.sameBuilders {σ : Type} {keep : Ref .builder → Prop} {w : World σ}
    {as : List (Action σ)}
    (each : w.Each (fun _ a => a.Commits ∧ ∀ b, keep b → a ≠ .closeBuilder b) as) :
    w.heap.SameBuilders keep (w.after as).heap := by
  induction as generalizing w with
  | nil => exact .refl _ _
  | cons a as ih =>
    exact ((perform_step w a).sameBuilders each.1.1 each.1.2).trans (ih each.2)

namespace ClassOp

open Program World

variable {σ : Type} (call : Value → Arguments → Program σ Value) (spoken : Value → Program σ String)
  (text : Definition → Except Fault String) {w : World σ} {op : ClassOp} {ops : List ClassOp}
  {k : Ref .catalog} {name : String}

/-- The operations that register definitions which are there. -/
def Commits : ClassOp → Prop
  | .commit _ _ | .finalize _ => True
  | _ => False

/-- The catalog and the definition that an operation is to register. -/
def target? (h : Heap) : ClassOp → Option (Ref .catalog × Ref .definition)
  | .commit c d => some (c, d)
  | .finalize b => some ((h.builders.get b).catalog, h.builderDefinition b)
  | _ => none

/-- The catalog and the name for which an operation is to register a definition. -/
def place? (h : Heap) (op : ClassOp) : Option (Ref .catalog × Value) :=
  (op.target? h).map (fun t => (t.1, (h.definition t.2).name))

/-- What holds of all that is done to register the target of an operation. -/
theorem each_of_target {P : Action σ → Prop} (commits : op.Commits)
    (reports : ∀ a : Action σ, a.Reports → P a)
    (closes : ∀ b, op = .finalize b → P (.closeBuilder b))
    (registers : ∀ t, op.target? w.heap = some t → P (.register t.1 t.2)) :
    w.Each (fun _ a => P a) ((op.program (.describing call spoken text)).trace w) := by
  have commit {u : World σ} {c : Ref .catalog} {d : Ref .definition} (here : P (.register c d)) :
      u.Each (fun _ a => P a) (((Client.describing call spoken text).commit c d).trace u) :=
    each_commit call spoken text (fun _ => reports _ trivial) (fun _ _ => reports _ trivial) here
  cases op with
  | commit c d =>
    rw [program, trace_bind_pure]
    exact commit (registers (c, d) rfl)
  | finalize b =>
    rw [program, trace_bind_pure]
    rcases trace_finalize call spoken text b w with ⟨made, isOpen, trace⟩ | ⟨-, trace⟩
    · rw [trace]
      refine ⟨closes b rfl, ?_⟩
      rw [perform_closeBuilder_of_open made isOpen]
      exact ⟨reports _ trivial, commit (registers _ rfl)⟩
    · rw [trace]
      exact ⟨closes b rfl, trivial⟩
  | _ => cases commits

/-- Whether an operation gets as far as its registration. -/
def isReady (h : Heap) : ClassOp → Bool
  | .finalize b => h.builders.contains b && !h.finalized b
  | _ => true

/-- The definition that an operation registers in the catalog `k` under a name. -/
def registers? (k : Ref .catalog) (name : String) (w : World σ) (op : ClassOp) :
    Option (Ref .definition) :=
  match op.target? w.heap with
  | some (c, d) =>
    if op.isReady w.heap = true then committed? k name w (.register c d) else none
  | none => none

theorem last_trace (commits : op.Commits) :
    w.last (committed? k name) ((op.program (.describing call spoken text)).trace w) =
      op.registers? k name w := by
  have commit (u : World σ) (c : Ref .catalog) (d : Ref .definition) :
      u.last (committed? k name) (((Client.describing call spoken text).commit c d).trace u) =
        committed? k name u (.register c d) := by
    obtain ⟨report, trace, reports⟩ := trace_commit call spoken text c d u
    have nothing : (u.perform (.register c d)).2.last (committed? k name) report = none :=
      last_eq_none (reports.mono (fun _ _ reporting => reporting.elsewhere k))
    rw [trace, last, nothing, Option.none_or]
  cases op with
  | commit c d =>
    rw [program, trace_bind_pure]
    exact commit w c d
  | finalize b =>
    rw [program, trace_bind_pure]
    rcases trace_finalize call spoken text b w with ⟨made, isOpen, trace⟩ | ⟨notReady, trace⟩
    · have ready : isReady w.heap (.finalize b) = true := by simp [isReady, made, isOpen]
      rw [trace, last, perform_closeBuilder_of_open made isOpen, last]
      change ((World.last _ (w.setHeap _) _).or none).or none = _
      rw [commit, Option.or_none, Option.or_none, registers?, target?]
      simp only [ready, if_true]
      refine committed?_register_congr ?_ ?_ _ _
      · rfl
      · exact fun _ => rfl
    · rw [trace, last, last, registers?, target?]
      simp only [isReady, notReady, Bool.false_eq_true, if_false]
      rfl
  | _ => cases commits

theorem registers?_eq_some {d : Ref .definition} (registers : op.registers? k name w = some d) :
    op.place? w.heap = some (k, .text name) := by
  rw [registers?] at registers
  rw [place?]
  cases target : op.target? w.heap with
  | none => simp [target] at registers
  | some t =>
    simp only [target, Option.ite_none_right_eq_some] at registers
    obtain ⟨rfl, -, named⟩ := committed?_register_eq_some registers.2
    rw [Option.map_some, named]

/-- An operation that registers a definition closes no builder but its own. -/
theorem sameBuilders_run (commits : op.Commits) :
    w.heap.SameBuilders (fun b => op ≠ .finalize b)
      ((op.program (.describing call spoken text)).run w).2.heap := by
  rw [← after_trace]
  refine Each.sameBuilders (each_of_target call spoken text
    (P := fun a => a.Commits ∧ ∀ b, op ≠ .finalize b → a ≠ .closeBuilder b) commits ?_ ?_ ?_)
  · intro a reports
    cases a with
    | look | note _ => exact ⟨trivial, fun _ _ => nofun⟩
    | _ => cases reports
  · rintro b rfl
    refine ⟨trivial, fun b' other same => other ?_⟩
    cases same
    rfl
  · exact fun t _ => ⟨trivial, fun _ _ => nofun⟩

theorem target?_congr {keep : Ref .builder → Prop} {h h' : Heap} (same : h.SameBuilders keep h') :
    op.target? h' = op.target? h := by
  cases op <;> simp only [target?, same.catalog, same.definition]

theorem place?_congr {keep : Ref .builder → Prop} {h h' : Heap} (same : h.SameBuilders keep h') :
    op.place? h' = op.place? h := by
  simp only [place?, target?_congr same, Heap.definition_congr same.definitions]

theorem registers?_congr {keep : Ref .builder → Prop} {u : World σ}
    (same : w.heap.SameBuilders keep u.heap) (kept : ∀ b, op = .finalize b → keep b) :
    op.registers? k name u = op.registers? k name w := by
  have ready : op.isReady u.heap = op.isReady w.heap := by
    cases op with
    | finalize b => simp only [isReady, same.builders, same.finalized b (kept b rfl)]
    | _ => rfl
  simp only [registers?, target?_congr same, ready,
    committed?_register_congr same.definitions same.catalogs]

/-- Operations for different places register what they would register alone. -/
theorem last_actions (commits : ∀ op ∈ ops, op.Commits)
    (apart : ops.Pairwise (fun p q => p.place? w.heap ≠ q.place? w.heap)) (d : Ref .definition) :
    w.last (committed? k name) (actions (.describing call spoken text) ops w) = some d ↔
      ∃ op ∈ ops, op.registers? k name w = some d := by
  induction ops generalizing w d with
  | nil => simp [actions, last]
  | cons op ops ih =>
    obtain ⟨commit, commits⟩ := List.forall_mem_cons.mp commits
    obtain ⟨others, apart⟩ := List.pairwise_cons.mp apart
    have same := sameBuilders_run call spoken text (w := w) commit
    have later := ih commits (apart.imp (fun h => by rwa [place?_congr same, place?_congr same]))
    have alone : ∀ p ∈ ops, p.registers? k name
        ((op.program (.describing call spoken text)).run w).2 = p.registers? k name w := by
      intro p hp
      refine registers?_congr same (fun b hb he => others p hp ?_)
      rw [hb, he]
    rw [actions, last_append, after_trace, last_trace call spoken text commit,
      Option.or_eq_some_iff, later]
    constructor
    · rintro (⟨p, hp, here⟩ | ⟨-, here⟩)
      · exact ⟨p, List.mem_cons_of_mem _ hp, (alone p hp).symm.trans here⟩
      · exact ⟨op, List.mem_cons_self, here⟩
    · rintro ⟨p, hp, here⟩
      rcases List.mem_cons.mp hp with rfl | hp
      -- a later registration of the same name would be for the same place
      · refine .inr ⟨Option.eq_none_iff_forall_ne_some.mpr (fun d' again => ?_), here⟩
        obtain ⟨q, hq, there⟩ := (later d').mp again
        rw [alone q hq] at there
        exact others q hq ((registers?_eq_some here).trans (registers?_eq_some there).symm)
      · exact .inl ⟨p, hp, (alone p hp).trans here⟩

/-- In whatever order operations for different places are done, they register the same. -/
theorem last_actions_perm {ops' : List ClassOp} (commits : ∀ op ∈ ops, op.Commits)
    (apart : ops.Pairwise (fun p q => p.place? w.heap ≠ q.place? w.heap)) (perm : ops.Perm ops') :
    w.last (committed? k name) (actions (.describing call spoken text) ops' w) =
      w.last (committed? k name) (actions (.describing call spoken text) ops w) := by
  have commits' : ∀ op ∈ ops', op.Commits := fun op hop => commits op (perm.mem_iff.mpr hop)
  have apart' := (perm.pairwise_iff (fun h => h.symm)).mp apart
  refine Option.ext (fun d => ?_)
  rw [last_actions call spoken text commits' apart', last_actions call spoken text commits apart]
  simp only [perm.mem_iff]

/-- What holds of all that is done to register the targets of some operations. -/
theorem each_of_targets {P : Action σ → Prop} (commits : ∀ op ∈ ops, op.Commits)
    (reports : ∀ a : Action σ, a.Reports → P a) (closes : ∀ b, P (.closeBuilder b))
    (registers : ∀ op ∈ ops, ∀ t, op.target? w.heap = some t → P (.register t.1 t.2)) :
    w.Each (fun _ a => P a) (actions (.describing call spoken text) ops w) := by
  induction ops generalizing w with
  | nil => trivial
  | cons op ops ih =>
    obtain ⟨commit, commits⟩ := List.forall_mem_cons.mp commits
    obtain ⟨first, rest⟩ := List.forall_mem_cons.mp registers
    have same := sameBuilders_run call spoken text (w := w) commit
    rw [actions, each_append, after_trace]
    refine ⟨each_of_target call spoken text commit reports (fun b _ => closes b) first, ?_⟩
    refine ih commits (fun p hp t target => rest p hp t ?_)
    rwa [target?_congr same] at target

theorem each_commits (commits : ∀ op ∈ ops, op.Commits) :
    w.Each (fun _ a => a.Commits) (actions (.describing call spoken text) ops w) :=
  each_of_targets call spoken text commits (fun _ reports => reports.commits) (fun _ => trivial)
    (fun _ _ _ _ => trivial)

theorem each_elsewhere (commits : ∀ op ∈ ops, op.Commits)
    (elsewhere : ∀ op ∈ ops, ∀ t, op.target? w.heap = some t → t.1 ≠ k) :
    w.Each (fun _ a => a.catalog? ≠ some k) (actions (.describing call spoken text) ops w) :=
  each_of_targets call spoken text commits (fun _ reports => reports.elsewhere k) (fun _ => nofun)
    (fun op hop t target same => elsewhere op hop t target (Option.some.inj same))

end ClassOp

namespace World

variable {σ : Type} (call : Value → Arguments → Program σ Value) (spoken : Value → Program σ String)
  (text : Definition → Except Fault String) {w : World σ}

/-- A commit that gives a class object has registered it. -/
theorem perform_of_commit {c : Ref .catalog} {d : Ref .definition} {cls : Ref .cls}
    {w' : World σ} (done : ((Client.describing call spoken text).commit c d).run w = (.ok cls, w')) :
    (w.perform (.register c d)).1 = .ok cls := by
  rw [Client.commit, Program.run_bind, Program.run_ask] at done
  cases registered : w.perform (.register c d) with
  | mk r u =>
    cases r with
    | error e => simp [registered] at done
    | ok made =>
      simp only [registered, Program.run_bind] at done
      cases described : ((Client.describing call spoken text).describe d).run u with
      | mk r v =>
        cases r with
        | error e => simp [described] at done
        | ok s =>
          simp only [described] at done
          cases done
          rfl

/-- The class object that a commit gives is the one that is found by the name of its definition. -/
theorem importClass_of_commit {c : Ref .catalog} {d : Ref .definition} {cls : Ref .cls}
    {w' : World σ} (done : ((Client.describing call spoken text).commit c d).run w = (.ok cls, w')) :
    w'.heap.importClass c (w.heap.definition d).name = .ok cls := by
  have made := perform_of_commit call spoken text done
  obtain ⟨report, trace, reports⟩ := ClassOp.trace_commit call spoken text c d w
  have last : w' = (w.perform (.register c d)).2.after report := by
    rw [← after_cons, ← trace, Program.after_trace, done]
  have classes : (w'.heap.catalogs.get c).classes =
      (w.heap.catalogs.get c).classes.insert (w.heap.definition d).name.plainText cls := by
    rw [last, (reports.mono (fun _ _ reporting => reporting.elsewhere c)).classes_eq,
      classes_perform]
    simp only [registered?, made, if_true]
    rfl
  rcases w.perform_register_cases c d with ⟨name, h, named, -, -⟩ | ⟨e, failed⟩
  · rw [named] at classes ⊢
    rw [Heap.importClass_text, classes, Table.find?_insert]
    exact if_pos (beq_self_eq_true _)
  · rw [failed] at made
    cases made

end World

/-- After every run, each catalog is a map in which the last registration of a name wins, and it answers
scripts accordingly; registrations that failed, or that were made in other catalogs, have no part in
it. What is committed in any order, with the same last registration of each name, gives all
definitions the same lineages. -/
theorem catalogs_lastWins (call : Value → Arguments → Program Script.Workspace Value)
    (spoken : Value → Program Script.Workspace String) (text : Definition → Except Fault String)
    (start : Script.Workspace) (as : List (Action Script.Workspace)) :
    let client := Client.describing call spoken text
    let w := (World.initial start).after as
    (∀ k, w.heap.LastWins k ((World.initial start).history (World.registered? k) as)) ∧
    (∀ k, w.client.isAltered (.catalog k) = false →
      ∀ n, (Script.Machine.ofDepth (n + 1)).Answers w k) ∧
    (∀ c d cls w', (client.commit c d).run w = (.ok cls, w') →
      w'.heap.importClass c (w.heap.definition d).name = .ok cls) ∧
    (∀ k bs, w.Each (fun _ a => a.catalog? ≠ some k) bs → w.heap.SameCatalog k (w.after bs).heap) ∧
    ∀ ops, (∀ op ∈ ops, op.Commits) →
      (∀ k, (∀ op ∈ ops, ∀ t, op.target? w.heap = some t → t.1 ≠ k) →
        w.heap.SameCatalog k (ClassOp.after client ops w).heap ∧
        ∀ d, (ClassOp.after client ops w).heap.lineage k d = w.heap.lineage k d) ∧
      (∀ k ops', (∀ op ∈ ops', op.Commits) →
        (∀ name, w.last (World.committed? k name) (ClassOp.actions client ops' w) =
          w.last (World.committed? k name) (ClassOp.actions client ops w)) →
        ∀ d, (ClassOp.after client ops' w).heap.lineage k d =
          (ClassOp.after client ops w).heap.lineage k d) ∧
      ∀ ops', ops.Perm ops' → ops.Pairwise (fun p q => p.place? w.heap ≠ q.place? w.heap) →
        ∀ k d, (ClassOp.after client ops' w).heap.lineage k d =
          (ClassOp.after client ops w).heap.lineage k d := by
  intro client w
  have reachable : w.Reachable := World.reachable_after start as
  have sameCatalog (k : Ref .catalog) (bs : List (Action Script.Workspace))
      (elsewhere : w.Each (fun _ a => a.catalog? ≠ some k) bs) :
      w.heap.SameCatalog k (w.after bs).heap :=
    Heap.sameCatalog_of_classes_eq reachable.registered (World.reaches_after w bs).extends
      elsewhere.classes_eq
  refine ⟨World.lastWins_after start as, fun k unaltered n => Script.Machine.answers unaltered n,
    fun c d cls w' done => World.importClass_of_commit call spoken text done, sameCatalog,
    fun ops commits => ⟨fun k elsewhere => ?_, fun k ops' commits' same => ?_,
      fun ops' perm apart k => ?_⟩⟩
  · have away := ClassOp.each_elsewhere call spoken text commits elsewhere
    refine ⟨sameCatalog k _ away, fun d => ?_⟩
    have none : w.Each (fun _ a => a.Commits) [] := trivial
    refine World.lineage_eq_of_last reachable none
      (ClassOp.each_commits call spoken text commits) (fun name => ?_) d
    rw [World.last_eq_none away]
    rfl
  · exact World.lineage_eq_of_last reachable (ClassOp.each_commits call spoken text commits)
      (ClassOp.each_commits call spoken text commits') same
  · have commits' : ∀ op ∈ ops', op.Commits := fun op hop => commits op (perm.mem_iff.mpr hop)
    exact World.lineage_eq_of_last reachable (ClassOp.each_commits call spoken text commits)
      (ClassOp.each_commits call spoken text commits')
      (fun name => ClassOp.last_actions_perm call spoken text commits apart perm)

namespace Program

/-- A class, two definitions that refer to its name, one of them under the same name, and a definition
whose name is no text. There is a second catalog, and an instance. -/
def reusedName : List (Action Script.Workspace) :=
  let catalog := Heap.defaultCatalog
  [ .newCatalog,
    .openBuilder catalog (.text "Base"),
    .closeBuilder ⟨0⟩,
    .register catalog ⟨0⟩,
    .openBuilder catalog (.text "Derived"),
    .setParent ⟨1⟩ (.text "Base"),
    .openBuilder catalog (.text "Base"),
    .openBuilder catalog (.int 3),
    .register catalog ⟨3⟩,
    .newLayer ⟨0⟩ none]

def reusedNameWorld : World Script.Workspace :=
  (World.initial Script.Workspace.initial).after reusedName

/-- All that is left to commit, and the older class for the second catalog. -/
def commits : List ClassOp := [.finalize ⟨1⟩, .finalize ⟨2⟩, .commit ⟨1⟩ ⟨0⟩, .finalize ⟨3⟩]

/-- A client that does not tell of classes which have a parent. -/
def tellsOfRoots : Client (Program Script.Workspace) :=
  .describing (fun _ _ => pure .null) (fun _ => pure "")
    (fun r => if r.parent = .null then .ok "" else .error .wrongType)

end Program

/-- Neither an instance nor a list is a name of the first catalog. A commit to the second catalog gives
the class that is found there, and nothing of it is seen in the first one. In whatever order the
rest is committed, the lineage of the derived class leads to the newer base. -/
theorem catalogs_lastWins_reusedName :
    Program.reusedNameWorld.heap.LastWins ⟨0⟩ [("Base", ⟨0⟩)] ∧
    Program.reusedNameWorld.client.isAltered (.catalog ⟨0⟩) = false ∧
    (∃ u, u.heap = Program.reusedNameWorld.heap ∧
      (Script.Machine.ofDepth 1).Misses Program.reusedNameWorld ⟨0⟩ (.facade ⟨0⟩)
        ((Script.Machine.ofDepth 1).refuse (.undefinedClass (.facade ⟨0⟩))) u) ∧
    (Script.Machine.ofDepth 1).Misses Program.reusedNameWorld ⟨0⟩ (.list ⟨0⟩) Script.wrongType
      (Script.handedOver Program.reusedNameWorld ⟨0⟩) ∧
    (∃ w', (Program.tellsOfRoots.commit ⟨1⟩ ⟨0⟩).run Program.reusedNameWorld = (.ok ⟨1⟩, w') ∧
      w'.heap.importClass ⟨1⟩ (.text "Base") = .ok ⟨1⟩) ∧
    Program.reusedNameWorld.heap.SameCatalog ⟨0⟩
      (Program.reusedNameWorld.after [.register ⟨1⟩ ⟨0⟩]).heap ∧
    (ClassOp.after Program.tellsOfRoots [.commit ⟨1⟩ ⟨0⟩] Program.reusedNameWorld).heap.lineage
      ⟨0⟩ ⟨1⟩ = .ok [⟨1⟩, ⟨0⟩] ∧
    (ClassOp.after Program.tellsOfRoots Program.commits.reverse Program.reusedNameWorld).heap.lineage
      ⟨0⟩ ⟨1⟩ = .ok [⟨1⟩, ⟨2⟩] := by
  obtain ⟨map, answers, found, elsewhere, order⟩ := catalogs_lastWins (fun _ _ => pure .null)
    (fun _ => pure "") (fun r => if r.parent = .null then .ok "" else .error .wrongType)
    Script.Workspace.initial Program.reusedName
  have unaltered : Program.reusedNameWorld.client.isAltered (.catalog ⟨0⟩) = false := by
    decide +kernel
  have asked := answers ⟨0⟩ unaltered 0
  have history : (World.initial Script.Workspace.initial).history (World.registered? ⟨0⟩)
      Program.reusedName = [("Base", ⟨0⟩)] := by decide +kernel
  refine ⟨history ▸ map ⟨0⟩, unaltered, ?_, ?_, ⟨_, rfl, found ⟨1⟩ ⟨0⟩ ⟨1⟩ _ rfl⟩, ?_, ?_, ?_⟩
  · exact asked.undefined_of_code (.facade ⟨0⟩) _ rfl (fun _ => by rfl) (by decide +kernel)
  · exact asked.unhashable (.list ⟨0⟩) .wrongType rfl rfl (fun _ => rfl)
  · exact elsewhere ⟨0⟩ [.register ⟨1⟩ ⟨0⟩] ⟨nofun, trivial⟩
  · obtain ⟨away, -, -⟩ := order [.commit ⟨1⟩ ⟨0⟩] (by simp [ClassOp.Commits])
    exact ((away ⟨0⟩ (by simp [ClassOp.target?])).2 ⟨1⟩).trans (by decide +kernel)
  · obtain ⟨-, -, reordered⟩ := order Program.commits (by simp [Program.commits, ClassOp.Commits])
    refine (reordered Program.commits.reverse (List.reverse_perm _).symm ?_ ⟨0⟩ ⟨1⟩).trans ?_
    · decide +kernel
    · decide +kernel

end ObjectModel
