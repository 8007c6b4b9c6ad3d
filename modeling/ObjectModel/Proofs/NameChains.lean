import Mathlib.Data.List.Nodup
import ObjectModel.Proofs.CatalogMaps
import ObjectModel.Script.Texts

/-!
# Chains of names

A definition names its parent, the class registered under that name names the next one, and so on. The
names that come up on this way say what the lineage of the definition is: as long as they differ and
are registered, the loop goes on, and it ends where there is no parent, where a name comes up again,
or where a name is not registered. A name that comes up again is a circle even if it is not
registered any more. Since a pass of the loop finds a new registered name or is the last one, there is
at most one pass more than there are registered names.

Classes are registered under texts, but a definition that was never registered can have any name. If
that is no text, the lineage is the same as long as it is not to be told that there is a circle: the
message cannot be put together.
-/

namespace ObjectModel

namespace Heap

variable {h : Heap} {k : Ref .catalog} {d : Ref .definition}

/-- The names on the way up from a definition, the definitions that they lead to, and the parent that
the last of these names. -/
inductive NameChain (h : Heap) (k : Ref .catalog) (d : Ref .definition) :
    List Value → List (Ref .definition) → Value → Prop where
  | start : NameChain h k d [(h.definition d).name] [d] (h.definition d).parent
  | next {ns : List Value} {ds : List (Ref .definition)} {v : Value} {p : Ref .definition}
      (below : NameChain h k d ns ds v) (found : h.lookup k v = .ok p) :
      NameChain h k d (ns ++ [v]) (ds ++ [p]) (h.definition p).parent

/-- What comes of the names on the way up from a definition. -/
inductive Resolution (h : Heap) (k : Ref .catalog) (d : Ref .definition) :
    Except Fault (List (Ref .definition)) → Prop where
  | root {ns : List Value} {ds : List (Ref .definition)} (chain : h.NameChain k d ns ds .null)
      (distinct : ns.Nodup) : Resolution h k d (.ok ds)
  | circle {ns : List Value} {ds : List (Ref .definition)} {v : Value}
      (chain : h.NameChain k d ns ds v) (distinct : ns.Nodup) (notNull : v ≠ .null)
      (again : ns.any v.alike = true) : Resolution h k d (.error (h.cycleFault ds v))
  | missing {ns : List Value} {ds : List (Ref .definition)} {v : Value} {e : Fault}
      (chain : h.NameChain k d ns ds v) (distinct : ns.Nodup) (notNull : v ≠ .null)
      (new : ns.any v.alike = false) (failed : h.lookup k v = .error e) :
      Resolution h k d (.error e)

/-- With what it holds, the loop that finds a lineage comes to its result in `n` passes. -/
inductive Passes (h : Heap) (k : Ref .catalog) : Nat → List (Ref .definition) → List Value →
    Value → Except Fault (List (Ref .definition)) → Prop where
  | root {chain : List (Ref .definition)} {seen : List Value} :
      Passes h k 0 chain seen .null (.ok chain)
  | circle {chain : List (Ref .definition)} {seen : List Value} {v : Value} (notNull : v ≠ .null)
      (again : seen.any v.alike = true) :
      Passes h k 1 chain seen v (.error (h.cycleFault chain v))
  | missing {chain : List (Ref .definition)} {seen : List Value} {v : Value} {e : Fault}
      (notNull : v ≠ .null) (new : seen.any v.alike = false) (failed : h.lookup k v = .error e) :
      Passes h k 1 chain seen v (.error e)
  | pass {n : Nat} {chain : List (Ref .definition)} {seen : List Value} {v : Value}
      {p : Ref .definition} {r : Except Fault (List (Ref .definition))}
      (new : seen.any v.alike = false) (found : h.lookup k v = .ok p)
      (rest : Passes h k n (chain ++ [p]) (v :: seen) (h.definition p).parent r) :
      Passes h k (n + 1) chain seen v r

variable {n m : Nat} {ns seen : List Value} {ds chain : List (Ref .definition)} {v : Value}
  {p : Ref .definition} {r r' : Except Fault (List (Ref .definition))}

theorem exists_text_of_lookup (found : h.lookup k v = .ok p) : ∃ name, v = .text name := by
  rw [lookup] at found
  cases imported : h.importClass k v with
  | ok c => exact exists_text_of_importClass imported
  | error e => simp [imported, Except.map] at found

theorem ne_null_of_lookup (found : h.lookup k v = .ok p) : v ≠ .null := by
  obtain ⟨name, rfl⟩ := exists_text_of_lookup found
  exact nofun

theorem any_alike_text {name : String} :
    ns.any (Value.text name).alike = true ↔ .text name ∈ ns := by
  rw [List.any_eq_true]
  constructor
  · rintro ⟨v, there, alike⟩
    rwa [← Value.alike_text.mp (Value.alike_symm alike)]
  · exact fun there => ⟨_, there, Value.alike_refl _⟩

/-- The loop has one result, and comes to it in one number of passes. -/
theorem Passes.unique (passes : h.Passes k n chain seen v r)
    (passes' : h.Passes k m chain seen v r') :
    n = m ∧ r = r' := by
  induction passes generalizing m with
  | root =>
    cases passes' with
    | root => exact ⟨rfl, rfl⟩
    | circle notNull | missing notNull => exact absurd rfl notNull
    | pass _ found => exact absurd rfl (ne_null_of_lookup found)
  | circle notNull again =>
    cases passes' with
    | root => exact absurd rfl notNull
    | circle => exact ⟨rfl, rfl⟩
    | missing _ new | pass new => simp [again] at new
  | missing notNull new failed =>
    cases passes' with
    | root => exact absurd rfl notNull
    | circle _ again => simp [new] at again
    | missing _ _ failed' =>
      rw [failed] at failed'
      cases failed'
      exact ⟨rfl, rfl⟩
    | pass _ found => simp [failed] at found
  | pass new found rest ih =>
    cases passes' with
    | root => exact absurd rfl (ne_null_of_lookup found)
    | circle _ again => simp [new] at again
    | missing _ _ failed => simp [found] at failed
    | pass _ found' rest' =>
      rw [found] at found'
      cases found'
      obtain ⟨rfl, rfl⟩ := ih rest'
      exact ⟨rfl, rfl⟩

theorem passes_climb {steps : Nat} (ended : h.climb k steps chain seen v ≠ .error .exhausted) :
    ∃ n ≤ steps, h.Passes k n chain seen v (h.climb k steps chain seen v) := by
  fun_induction Heap.climb h k steps chain seen v with
  | case1 => exact ⟨0, Nat.zero_le _, .root⟩
  | case2 => exact absurd rfl ended
  | case3 steps chain seen v notNull again =>
    exact ⟨1, Nat.le_add_left 1 steps, .circle notNull again⟩
  | case4 steps chain seen v notNull fresh ih =>
    have new : seen.any v.alike = false := Bool.eq_false_iff.mpr fresh
    cases found : h.lookup k v with
    | error e => exact ⟨1, Nat.le_add_left 1 steps, .missing notNull new found⟩
    | ok p =>
      rw [found] at ended
      obtain ⟨n, bound, rest⟩ := ih p ended
      exact ⟨n + 1, Nat.succ_le_succ bound, .pass new found rest⟩

/-- The loop comes to the lineage, in at most one pass more than there are registered names. -/
theorem passes_lineage (plain : (h.definition d).name.keyKind = .plain) :
    ∃ n ≤ (h.names k).length + 1,
      h.Passes k n [d] [(h.definition d).name] (h.definition d).parent (h.lineage k d) := by
  have size : (h.names k).length = (h.catalogs.get k).classes.size := List.length_map Prod.fst
  have ended : h.lineage k d ≠ .error .exhausted := lineage_ne_exhausted
  rw [lineage_eq plain] at ended ⊢
  rw [size]
  exact passes_climb ended

/-- The loop walks along a chain of different names, whatever it comes to behind it. -/
theorem NameChain.passes (way : h.NameChain k d ns ds v) (distinct : ns.Nodup)
    (rest : h.Passes k n ds ns.reverse v r) :
    ∃ m, h.Passes k m [d] [(h.definition d).name] (h.definition d).parent r := by
  induction way generalizing n with
  | start => exact ⟨n, rest⟩
  | @next ns ds v p below found ih =>
    obtain ⟨distinct, -, apart⟩ := List.nodup_append.mp distinct
    rw [List.reverse_concat] at rest
    refine ih distinct (.pass ?_ found rest)
    obtain ⟨name, rfl⟩ := exists_text_of_lookup found
    rw [List.any_reverse, Bool.eq_false_iff, ne_eq, any_alike_text]
    exact fun again => apart _ again _ (List.mem_singleton_self _) rfl

/-- Whatever the loop comes to behind a chain of different names is what comes of the names. -/
theorem Passes.resolution (passes : h.Passes k n ds seen v r) (hs : ns.reverse = seen)
    (way : h.NameChain k d ns ds v) (distinct : ns.Nodup) : h.Resolution k d r := by
  induction passes generalizing ns with
  | root => exact .root way distinct
  | circle notNull again =>
    rw [← hs, List.any_reverse] at again
    exact .circle way distinct notNull again
  | missing notNull new failed =>
    rw [← hs, List.any_reverse] at new
    exact .missing way distinct notNull new failed
  | @pass n chain seen v p r new found rest ih =>
    refine ih (by rw [List.reverse_concat, hs]) (way.next found) ?_
    refine List.nodup_append.mpr ⟨distinct, by simp, ?_⟩
    rintro a ha b hb rfl
    obtain rfl := List.mem_singleton.mp hb
    rw [← hs, List.any_reverse, Bool.eq_false_iff] at new
    exact new (List.any_eq_true.mpr ⟨_, ha, Value.alike_refl _⟩)

theorem Resolution.passes (resolution : h.Resolution k d r) :
    ∃ m, h.Passes k m [d] [(h.definition d).name] (h.definition d).parent r := by
  cases resolution with
  | root way distinct => exact way.passes distinct .root
  | circle way distinct notNull again =>
    exact way.passes distinct (.circle notNull (by rwa [List.any_reverse]))
  | missing way distinct notNull new failed =>
    exact way.passes distinct (.missing notNull (by rwa [List.any_reverse]) failed)

/-- The lineage of a definition is what comes of the names, and nothing else. -/
theorem lineage_eq_iff (plain : (h.definition d).name.keyKind = .plain) :
    h.lineage k d = r ↔ h.Resolution k d r := by
  obtain ⟨n, -, passes⟩ := passes_lineage (k := k) plain
  constructor
  · rintro rfl
    exact passes.resolution rfl .start (by simp)
  · intro resolution
    obtain ⟨m, passes'⟩ := resolution.passes
    exact (passes.unique passes').2

/-- Only the first name on the way up can be something else than a text. -/
theorem NameChain.texts (way : h.NameChain k d ns ds v) :
    ∃ above : List String, ns = (h.definition d).name :: above.map .text := by
  induction way with
  | start => exact ⟨[], rfl⟩
  | next below found ih =>
    obtain ⟨above, rfl⟩ := ih
    obtain ⟨name, rfl⟩ := exists_text_of_lookup found
    exact ⟨above ++ [name], by simp⟩

theorem NameChain.all_isText (way : h.NameChain k d ns ds v) :
    ns.all Value.isText = (h.definition d).name.isText := by
  obtain ⟨above, rfl⟩ := way.texts
  simp [List.all_map, Function.comp_def, Value.isText]

theorem NameChain.exists_texts (way : h.NameChain k d ns ds v)
    (isText : (h.definition d).name.isText = true) :
    ∃ names : List String, ns = names.map .text := by
  obtain ⟨above, rfl⟩ := way.texts
  cases named : (h.definition d).name with
  | text name => exact ⟨name :: above, rfl⟩
  | _ => simp [named, Value.isText] at isText

theorem lookup_text_error {name : String} {e : Fault} :
    h.lookup k (.text name) = .error e ↔ name ∉ h.names k ∧ e = .undefinedClass (.text name) := by
  have known : (h.importClass k (.text name)).isOk = true ↔ name ∈ h.names k := by
    rw [isOk_importClass]
    simp
  rw [← known, lookup]
  cases found : h.importClass k (.text name) with
  | ok c => simp [Except.map, Except.isOk, Except.toBool]
  | error e' =>
    obtain rfl := importClass_text_error found
    simp [Except.map, Except.isOk, Except.toBool, eq_comm]

/-- Each class is registered under the name of its definition. -/
def Faithful (h : Heap) (k : Ref .catalog) : Prop :=
  ∀ name p, h.lookup k (.text name) = .ok p → (h.definition p).name = .text name

theorem NameChain.names (faithful : h.Faithful k) (way : h.NameChain k d ns ds v) :
    ds.map (fun p => (h.definition p).name) = ns := by
  induction way with
  | start => rfl
  | next below found ih =>
    obtain ⟨name, rfl⟩ := exists_text_of_lookup found
    rw [List.map_append, ih, List.map_singleton, faithful name _ found]

/-- A circle is told by the names on it if the first of them is a text, as the others are. -/
theorem NameChain.cycleFault (faithful : h.Faithful k) (way : h.NameChain k d ns ds v)
    (next : Value) :
    h.cycleFault ds next =
      if (h.definition d).name.isText then .circularInheritance ns next else .wrongType := by
  rw [Heap.cycleFault, way.names faithful, way.all_isText]

/-- On the way up from a definition, every parent is a name or none. -/
def NamesParents (h : Heap) (k : Ref .catalog) (d : Ref .definition) : Prop :=
  ∀ ns ds v, h.NameChain k d ns ds v → v = .null ∨ ∃ next, v = .text next

theorem lookup_error {e : Fault} (failed : h.lookup k v = .error e) :
    e = .undefinedClass v ∨ e = .wrongType ∨ e = .unresolved v := by
  rw [lookup] at failed
  cases imported : h.importClass k v with
  | ok c => simp [imported, Except.map] at failed
  | error e' =>
    obtain rfl : e' = e := by simpa [imported, Except.map] using failed
    exact importClass_error imported

/-- The lineage of a definition, by the names on the way up from it. -/
structure FollowsNames (h : Heap) (k : Ref .catalog) (d : Ref .definition) : Prop where
  root : ∀ ds, h.lineage k d = .ok ds ↔ ∃ ns, h.NameChain k d ns ds .null ∧ ns.Nodup
  /-- A circle is told by the names on it. -/
  circle : ∀ e, e.kind = .definitionError → (h.lineage k d = .error e ↔
    ∃ (ns : List String) (ds : List (Ref .definition)) (next : String),
      h.NameChain k d (ns.map .text) ds (.text next) ∧ ns.Nodup ∧ next ∈ ns ∧
      e = .circularInheritance (ns.map .text) (.text next))
  /-- A circle cannot be told if the definition is called by something else than a text. -/
  untold : h.NamesParents k d → ∀ e, e.kind = .typeError → (h.lineage k d = .error e ↔
    ∃ ns ds next, h.NameChain k d ns ds (.text next) ∧ ns.Nodup ∧ .text next ∈ ns ∧
      (h.definition d).name.isText = false ∧ e = .wrongType)
  missing : h.NamesParents k d → ∀ e, e.kind = .undefinedClassError → (h.lineage k d = .error e ↔
    ∃ ns ds next, h.NameChain k d ns ds (.text next) ∧ ns.Nodup ∧ .text next ∉ ns ∧
      next ∉ h.names k ∧ e = .undefinedClass (.text next))
  /-- Nothing else comes up where every parent is a name or none. -/
  complete : h.NamesParents k d → ∀ e, h.lineage k d = .error e →
    e.kind = .definitionError ∨ e.kind = .typeError ∨ e.kind = .undefinedClassError
  passes : ∃ n ≤ (h.names k).length + 1,
    h.Passes k n [d] [(h.definition d).name] (h.definition d).parent (h.lineage k d)

section Following

variable (plain : (h.definition d).name.keyKind = .plain)

include plain

theorem lineage_ok_iff :
    h.lineage k d = .ok ds ↔ ∃ ns, h.NameChain k d ns ds .null ∧ ns.Nodup := by
  rw [lineage_eq_iff plain]
  constructor
  · rintro ⟨way, distinct⟩
    exact ⟨_, way, distinct⟩
  · rintro ⟨ns, way, distinct⟩
    exact .root way distinct

variable (faithful : h.Faithful k) {e : Fault}

include faithful

theorem lineage_circle_iff (kind : e.kind = .definitionError) : h.lineage k d = .error e ↔
    ∃ (ns : List String) (ds : List (Ref .definition)) (next : String),
      h.NameChain k d (ns.map .text) ds (.text next) ∧ ns.Nodup ∧ next ∈ ns ∧
      e = .circularInheritance (ns.map .text) (.text next) := by
  have injective : Function.Injective Value.text := fun _ _ => Value.text.inj
  rw [lineage_eq_iff plain]
  constructor
  · intro resolution
    cases resolution with
    | circle way distinct notNull again =>
      rw [way.cycleFault faithful] at kind ⊢
      split at kind
      · rename_i isText
        obtain ⟨names, rfl⟩ := way.exists_texts isText
        obtain ⟨_, there, alike⟩ := List.any_eq_true.mp again
        obtain ⟨next, listed, rfl⟩ := List.mem_map.mp there
        obtain rfl := Value.alike_text.mp alike
        exact ⟨names, _, next, way, distinct.of_map _, listed, if_pos isText⟩
      · cases kind
    | missing _ _ _ _ failed => rcases lookup_error failed with rfl | rfl | rfl <;> cases kind
  · rintro ⟨ns, ds, next, way, distinct, again, rfl⟩
    have isText : (h.definition d).name.isText = true := by
      rw [← way.all_isText]
      simp [Value.isText]
    have fault : h.cycleFault ds (.text next) =
        .circularInheritance (ns.map .text) (.text next) := by
      rw [way.cycleFault faithful, if_pos isText]
    rw [← fault]
    exact .circle way (distinct.map injective) nofun
      (any_alike_text.mpr (List.mem_map_of_mem again))

variable (parents : h.NamesParents k d)

include parents

theorem lineage_untold_iff (kind : e.kind = .typeError) : h.lineage k d = .error e ↔
    ∃ ns ds next, h.NameChain k d ns ds (.text next) ∧ ns.Nodup ∧ .text next ∈ ns ∧
      (h.definition d).name.isText = false ∧ e = .wrongType := by
  rw [lineage_eq_iff plain]
  constructor
  · intro resolution
    cases resolution with
    | circle way distinct notNull again =>
      rw [way.cycleFault faithful] at kind ⊢
      rcases parents _ _ _ way with rfl | ⟨next, rfl⟩
      · exact absurd rfl notNull
      · cases isText : (h.definition d).name.isText with
        | true => simp [isText, Fault.kind] at kind
        | false => exact ⟨_, _, next, way, distinct, any_alike_text.mp again, rfl, rfl⟩
    | missing way _ notNull _ failed =>
      rcases parents _ _ _ way with rfl | ⟨next, rfl⟩
      · exact absurd rfl notNull
      · obtain ⟨-, rfl⟩ := lookup_text_error.mp failed
        cases kind
  · rintro ⟨ns, ds, next, way, distinct, again, noText, rfl⟩
    have fault : h.cycleFault ds (.text next) = .wrongType := by
      rw [way.cycleFault faithful, noText]
      rfl
    rw [← fault]
    exact .circle way distinct nofun (any_alike_text.mpr again)

theorem lineage_missing_iff (kind : e.kind = .undefinedClassError) : h.lineage k d = .error e ↔
    ∃ ns ds next, h.NameChain k d ns ds (.text next) ∧ ns.Nodup ∧ .text next ∉ ns ∧
      next ∉ h.names k ∧ e = .undefinedClass (.text next) := by
  rw [lineage_eq_iff plain]
  constructor
  · intro resolution
    cases resolution with
    | circle way =>
      rw [way.cycleFault faithful] at kind
      split at kind <;> cases kind
    | missing way distinct notNull new failed =>
      rcases parents _ _ _ way with rfl | ⟨next, rfl⟩
      · exact absurd rfl notNull
      · obtain ⟨unregistered, rfl⟩ := lookup_text_error.mp failed
        rw [Bool.eq_false_iff, ne_eq, any_alike_text] at new
        exact ⟨_, _, next, way, distinct, new, unregistered, rfl⟩
  · rintro ⟨ns, ds, next, way, distinct, new, unregistered, rfl⟩
    refine .missing way distinct nofun ?_ (lookup_text_error.mpr ⟨unregistered, rfl⟩)
    rwa [Bool.eq_false_iff, ne_eq, any_alike_text]

theorem kind_of_lineage_error (failed : h.lineage k d = .error e) :
    e.kind = .definitionError ∨ e.kind = .typeError ∨ e.kind = .undefinedClassError := by
  rw [lineage_eq_iff plain] at failed
  cases failed with
  | circle way =>
    rw [way.cycleFault faithful]
    split
    · exact .inl rfl
    · exact .inr (.inl rfl)
  | missing way _ notNull _ failed =>
    rcases parents _ _ _ way with rfl | ⟨next, rfl⟩
    · exact absurd rfl notNull
    · obtain ⟨-, rfl⟩ := lookup_text_error.mp failed
      exact .inr (.inr rfl)

end Following

theorem Faithful.followsNames (faithful : h.Faithful k)
    (plain : (h.definition d).name.keyKind = .plain) : h.FollowsNames k d where
  root _ := lineage_ok_iff plain
  circle _ := lineage_circle_iff plain faithful
  untold parents _ := lineage_untold_iff plain faithful parents
  missing parents _ := lineage_missing_iff plain faithful parents
  complete parents _ := kind_of_lineage_error plain faithful parents
  passes := passes_lineage plain

end Heap

theorem World.Reachable.faithful {σ : Type} {w : World σ} (reachable : w.Reachable)
    (k : Ref .catalog) : w.heap.Faithful k := by
  obtain ⟨start, reaches⟩ := reachable
  obtain ⟨as, rfl⟩ := exists_actions_of_reaches reaches
  intro name p found
  rw [Heap.lookup] at found
  cases imported : ((initial start).after as).heap.importClass k (.text name) with
  | error e => simp [imported, Except.map] at found
  | ok c =>
    rw [imported] at found
    cases found
    exact ((lastWins_after start as k).bound name c imported).name

namespace Script.Machine

theorem mapM_hookText (ns : List String) :
    ((ns.map Value.text).mapM hookText : Prog (List String)) = pure ns := by
  have loop (acc : List String) :
      (List.mapM.loop hookText (ns.map Value.text) acc : Prog (List String)) =
        pure (acc.reverse ++ ns) := by
    induction ns generalizing acc with
    | nil =>
      rw [List.append_nil]
      rfl
    | cons s ns ih =>
      rw [List.append_cons, ← List.reverse_cons]
      exact ih (s :: acc)
  exact loop []

/-- A circle of names is shown by the names on it, in order, and the name that comes again. -/
theorem message?_circularInheritance (m : Machine) (ns : List String) (next : String) :
    (Fault.circularInheritance (ns.map .text) (.text next)).message? m.display =
      pure (some ("Circular inheritance: " ++ " -> ".intercalate ns ++ " -> " ++ next)) := by
  change ((ns.map Value.text).mapM hookText >>= _) = _
  rw [mapM_hookText]
  rfl

end Script.Machine

/-- In every reachable world, the lineage of a definition is found exactly where the names on the way
up from it differ, are registered, and end at a class without parent. It fails for a circle exactly
where a name comes up again behind names that differ, and shows these names if the definition is
called by a text. By any other name that is looked up as it is, it cannot show them, and fails for
that. It fails for want of a class exactly where a new name is not registered. There is at most one
pass of the loop more than there are registered names. A definition whose name cannot be a key has no
lineage. -/
theorem lineage_follows_names {σ : Type} {w : World σ} (reachable : w.Reachable) (k : Ref .catalog)
    (d : Ref .definition) :
    ((w.heap.definition d).name.keyKind = .plain → w.heap.FollowsNames k d) ∧
    ((w.heap.definition d).name.keyKind = .unhashable →
      w.heap.lineage k d = .error .wrongType) ∧
    ∀ (m : Script.Machine) (ns : List String) (next : String),
      (Fault.circularInheritance (ns.map .text) (.text next)).message? m.display =
        pure (some ("Circular inheritance: " ++ " -> ".intercalate ns ++ " -> " ++ next)) := by
  refine ⟨(reachable.faithful k).followsNames, fun unhashable => ?_,
    Script.Machine.message?_circularInheritance⟩
  simp only [Heap.lineage, unhashable]

namespace Program

/-- A class that is replaced by one which extends a class that was never registered, which extends
it in turn. -/
def replacedBase : List (Action Unit) :=
  let catalog := Heap.defaultCatalog
  [ .openBuilder catalog (.text "Base"),
    .register catalog ⟨0⟩,
    .openBuilder catalog (.text "Derived"),
    .setParent ⟨1⟩ (.text "Base"),
    .openBuilder catalog (.text "Base"),
    .setParent ⟨2⟩ (.text "Derived"),
    .register catalog ⟨2⟩]

def replacedBaseWorld : World Unit := (World.initial ()).after replacedBase

/-- A class that extends itself, and two definitions that are not called by texts: one without a name,
which extends the class, and one that is called by a list. -/
def strangeNames : List (Action Unit) :=
  let catalog := Heap.defaultCatalog
  [ .openBuilder catalog (.text "A"),
    .setParent ⟨0⟩ (.text "A"),
    .register catalog ⟨0⟩,
    .openBuilder catalog .null,
    .setParent ⟨1⟩ (.text "A"),
    .openBuilder catalog (.list ⟨0⟩)]

def strangeNamesWorld : World Unit := (World.initial ()).after strangeNames

end Program

/-- The class that was replaced still has a lineage. From the one that was never registered the names
lead back to it, and the other one misses it. -/
theorem lineage_follows_names_replacedBase :
    Program.replacedBaseWorld.Reachable ∧
    Program.replacedBaseWorld.heap.lineage ⟨0⟩ ⟨0⟩ = .ok [⟨0⟩] ∧
    Program.replacedBaseWorld.heap.lineage ⟨0⟩ ⟨1⟩ =
      .error (.circularInheritance [.text "Derived", .text "Base"] (.text "Derived")) ∧
    Program.replacedBaseWorld.heap.lineage ⟨0⟩ ⟨2⟩ =
      .error (.undefinedClass (.text "Derived")) := by
  have reachable : Program.replacedBaseWorld.Reachable := World.reachable_after _ _
  have derived : Program.replacedBaseWorld.heap.NameChain ⟨0⟩ ⟨1⟩
      (["Derived", "Base"].map .text) [⟨1⟩, ⟨2⟩] (.text "Derived") := .next .start (by rfl)
  refine ⟨reachable, ?_, ?_, ?_⟩
  · refine (((lineage_follows_names reachable ⟨0⟩ ⟨0⟩).1 rfl).root [⟨0⟩]).mpr ?_
    exact ⟨[.text "Base"], .start, by decide⟩
  · refine (((lineage_follows_names reachable ⟨0⟩ ⟨1⟩).1 rfl).circle _ rfl).mpr ?_
    exact ⟨["Derived", "Base"], [⟨1⟩, ⟨2⟩], "Derived", derived, by decide, by decide, rfl⟩
  · have only : ∀ ns ds v, Program.replacedBaseWorld.heap.NameChain ⟨0⟩ ⟨2⟩ ns ds v →
        v = .text "Derived" := by
      intro ns ds v way
      induction way with
      | start => rfl
      | next below found ih =>
        subst ih
        cases found
    refine (((lineage_follows_names reachable ⟨0⟩ ⟨2⟩).1 rfl).missing
      (fun _ _ _ way => .inr ⟨_, only _ _ _ way⟩) _ rfl).mpr ?_
    exact ⟨[.text "Base"], [⟨2⟩], "Derived", .start, by decide, by decide, by decide +kernel, rfl⟩

/-- A definition without a name runs into a circle, and fails without being told so. The one that is
called by a list has no lineage, although it extends nothing. -/
theorem circle_untold_without_name :
    Program.strangeNamesWorld.Reachable ∧
    (∃ ns ds next, Program.strangeNamesWorld.heap.NameChain ⟨0⟩ ⟨1⟩ ns ds (.text next) ∧
      ns.Nodup ∧ .text next ∈ ns) ∧
    (∀ e, Program.strangeNamesWorld.heap.lineage ⟨0⟩ ⟨1⟩ = .error e → e.kind ≠ .definitionError) ∧
    (∃ ns ds, Program.strangeNamesWorld.heap.NameChain ⟨0⟩ ⟨2⟩ ns ds .null ∧ ns.Nodup) ∧
    ∀ ds, Program.strangeNamesWorld.heap.lineage ⟨0⟩ ⟨2⟩ ≠ .ok ds := by
  have untold : Program.strangeNamesWorld.heap.lineage ⟨0⟩ ⟨1⟩ = .error .wrongType := rfl
  have alone : Program.strangeNamesWorld.heap.lineage ⟨0⟩ ⟨2⟩ = .error .wrongType := rfl
  refine ⟨World.reachable_after _ _, ?_, ?_, ?_, ?_⟩
  · have way : Program.strangeNamesWorld.heap.NameChain ⟨0⟩ ⟨1⟩ ([.null] ++ [.text "A"])
        ([⟨1⟩] ++ [⟨0⟩]) (.text "A") := .next .start (by rfl)
    exact ⟨_, _, "A", way, by decide, by decide⟩
  · intro e failed
    rw [untold] at failed
    cases failed
    decide
  · exact ⟨[.list ⟨0⟩], [⟨2⟩], .start, by decide⟩
  · intro ds found
    rw [alone] at found
    cases found

end ObjectModel
