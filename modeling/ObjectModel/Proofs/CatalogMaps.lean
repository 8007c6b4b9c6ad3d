import ObjectModel.Proofs.ClosedDefinitions
import ObjectModel.Proofs.Registrations
import ObjectModel.Script.Operations

/-!
# Catalogs as maps

A catalog is a map from names to class objects in which the last registration of a name wins. What it
holds after a run is what comes of writing down, one after the other, all classes that were registered
in it: its names are in the order in which they came first, and each of them stands for the class that
was registered last under it. Registrations that failed leave no trace, and what is done in another
catalog does not matter.
-/

namespace ObjectModel

namespace World

variable {σ : Type} {w : World σ} {a : Action σ} {as : List (Action σ)} {k : Ref .catalog}

/-- A name and the class object that the action gives, if it registers one in the catalog `k`. -/
def registered? (k : Ref .catalog) (w : World σ) : Action σ → Option (String × Ref .cls)
  | .register c d =>
    match (w.perform (.register c d)).1 with
    | .ok cls => if c = k then some ((w.heap.definition d).name.plainText, cls) else none
    | .error _ => none
  | .registerOutside c name hooks =>
    match (w.perform (.registerOutside c name hooks)).1 with
    | .ok cls => if c = k then some (name, cls) else none
    | .error _ => none
  | _ => none

/-- The class objects that are registered are those that are made, each of them as the next one. -/
theorem registered?_eq (w : World σ) (a : Action σ) :
    registered? k w a =
      match made? w a with
      | some r => if r.catalog = k then some (r.typeName, w.heap.classes.next) else none
      | none => none := by
  cases a with
  | register c d =>
    rcases w.perform_register_cases c d with ⟨name, h, -, run, -⟩ | ⟨e, failed⟩
    · simp only [registered?, made?, run]
      rfl
    · simp only [registered?, made?, failed]
      rfl
  | registerOutside c name hooks =>
    rcases w.perform_registerOutside_cases c name hooks with ⟨h, run, -⟩ | ⟨e, failed⟩
    · simp only [registered?, made?, run]
      rfl
    · simp only [registered?, made?, failed]
      rfl
  | _ => rfl

/-- A catalog takes what is registered in it. -/
theorem classes_perform (w : World σ) (a : Action σ) :
    ((w.perform a).2.heap.catalogs.get k).classes =
      (w.heap.catalogs.get k).classes.merge ⟨(registered? k w a).toList⟩ := by
  rw [registered?_eq]
  rcases w.perform_made? a with ⟨r, made, done⟩ | ⟨made, done⟩
  · simp only [made, done.catalogs, Store.get_modify]
    by_cases own : r.catalog = k
    · subst own
      simp only [done.inCatalog, and_self, if_true]
      rfl
    · simp only [own, false_and, if_false]
      rfl
  · simp only [made, done.catalogs]
    rfl

/-- In every run, a catalog takes what is registered in it, in this order. -/
theorem classes_after (w : World σ) (as : List (Action σ)) :
    ((w.after as).heap.catalogs.get k).classes =
      (w.heap.catalogs.get k).classes.merge ⟨w.history (registered? k) as⟩ := by
  induction as generalizing w with
  | nil => rfl
  | cons a as ih => rw [after_cons, ih, classes_perform, history, Table.merge_append]

theorem registered?_eq_none (elsewhere : a.catalog? ≠ some k) : registered? k w a = none := by
  rw [registered?_eq]
  cases made : made? w a with
  | none => rfl
  | some r =>
    rw [catalog?_of_made? made] at elsewhere
    exact if_neg (fun own => elsewhere (congrArg some own))

/-- A catalog in which nothing is registered keeps its classes. -/
theorem Each.classes_eq (elsewhere : w.Each (fun _ a => a.catalog? ≠ some k) as) :
    ((w.after as).heap.catalogs.get k).classes = (w.heap.catalogs.get k).classes := by
  induction as generalizing w with
  | nil => rfl
  | cons a as ih =>
    rw [after_cons, ih elsewhere.2, classes_perform, registered?_eq_none elsewhere.1]
    rfl

theorem classes_eq_ofList (start : σ) (as : List (Action σ)) :
    (((initial start).after as).heap.catalogs.get k).classes =
      .ofList ((initial start).history (registered? k) as) := by
  rw [classes_after]
  change (Heap.initial.catalogs.get k).classes.merge _ = _
  rw [Heap.catalog_initial]
  rfl

end World

namespace Heap

variable {h h' : Heap} {k : Ref .catalog}

/-- The class object `c` was made for the catalog `k` from a definition of the given name. -/
structure Bound (h : Heap) (k : Ref .catalog) (name : String) (c : Ref .cls) : Prop where
  made : h.classes.contains c = true
  catalog : (h.classes.get c).catalog = k
  name : h.className c = .text name

theorem Bound.extend {name : String} {c : Ref .cls} (bound : h.Bound k name c)
    (he : Extends h h') (built : h.Built) : h'.Bound k name c where
  made := (he.classes c bound.made).1
  catalog := by
    rw [he.class_eq bound.made]
    exact bound.catalog
  name := (he.className_eq built bound.made).trans bound.name

/-- The values that a catalog knows as names are the texts that are registered in it. -/
theorem isOk_importClass {name : Value} :
    (h.importClass k name).isOk = true ↔ name ∈ (h.names k).map Value.text := by
  cases name with
  | text s =>
    have known : (h.importClass k (.text s)).isOk = (h.catalogs.get k).classes.contains s := by
      rw [Table.contains_eq_isSome_find?, importClass]
      cases (h.catalogs.get k).classes.find? s <;> rfl
    rw [known, Table.contains_iff_mem_keys]
    simp [names]
  | _ => simp [importClass, Except.isOk, Except.toBool]

/-- The catalog `k` is the map in which the last of the given registrations of a name wins. -/
structure LastWins (h : Heap) (k : Ref .catalog) (es : List (String × Ref .cls)) : Prop where
  /-- The names are listed in the order in which they came first, each of them once. -/
  names : h.names k = (es.map Prod.fst).eraseDups
  size : (h.catalogs.get k).classes.size = (h.names k).length
  contains : ∀ name, (h.catalogs.get k).classes.contains name = true ↔ name ∈ h.names k
  importClass : ∀ name c, h.importClass k (.text name) = .ok c ↔ es.reverse.lookup name = some c
  lookup : ∀ name c, es.reverse.lookup name = some c →
    h.lookup k (.text name) = .ok (h.classes.get c).definition
  undefined : ∀ name, name ∉ es.map Prod.fst →
    h.importClass k (.text name) = .error (.undefinedClass (.text name)) ∧
    h.lookup k (.text name) = .error (.undefinedClass (.text name))
  bound : ∀ name c, h.importClass k (.text name) = .ok c → h.Bound k name c

/-- The catalog `k` is in `h'` as it is in `h`. -/
structure SameCatalog (k : Ref .catalog) (h h' : Heap) : Prop where
  names : h'.names k = h.names k
  size : (h'.catalogs.get k).classes.size = (h.catalogs.get k).classes.size
  contains : ∀ name, (h'.catalogs.get k).classes.contains name =
    (h.catalogs.get k).classes.contains name
  importClass : ∀ name, h'.importClass k name = h.importClass k name
  lookup : ∀ name, h'.lookup k name = h.lookup k name

theorem sameCatalog_of_classes_eq (registered : h.Registered) (he : Extends h h')
    (same : (h'.catalogs.get k).classes = (h.catalogs.get k).classes) : h.SameCatalog k h' := by
  have importClass (name : Value) : h'.importClass k name = h.importClass k name := by
    simp only [Heap.importClass, same]
  refine ⟨by rw [names, same]; rfl, by rw [same], fun _ => by rw [same], importClass, fun name => ?_⟩
  rw [lookup, lookup, importClass]
  cases found : h.importClass k name with
  | error e => rfl
  | ok c =>
    cases name with
    | text s =>
      have made := (registered k s c (importClass_text.mp found)).1
      exact congrArg (fun r => Except.ok r.definition) (he.class_eq made)
    | _ => cases found

end Heap

namespace World

variable {σ : Type} {k : Ref .catalog}

/-- What is registered is bound to the catalog and to a definition of its name. -/
theorem bound_perform {w : World σ} {a : Action σ} (named : (w.perform a).2.heap.Named)
    {e : String × Ref .cls} (registers : registered? k w a = some e) :
    (w.perform a).2.heap.Bound k e.1 e.2 := by
  rw [registered?_eq] at registers
  rcases w.perform_made? a with ⟨r, made, done⟩ | ⟨made, done⟩
  · simp only [made, Option.ite_none_right_eq_some, Option.some.injEq] at registers
    obtain ⟨rfl, rfl⟩ := registers
    have there : (w.perform a).2.heap.classes.contains w.heap.classes.next = true := by
      rw [done.classes]
      exact Store.contains_push_next _ _
    have get : (w.perform a).2.heap.classes.get w.heap.classes.next = r := by
      rw [done.classes, Store.get_push_next]
    exact ⟨there, by rw [get], by rw [named _ there, get]⟩
  · simp [made] at registers

theorem bound_of_mem_history (start : σ) (as : List (Action σ)) :
    ∀ e ∈ (initial start).history (registered? k) as,
      ((initial start).after as).heap.Bound k e.1 e.2 := by
  induction as using List.reverseRecOn with
  | nil => simp [history]
  | append_singleton as a ih =>
    have reachable : ((initial start).after (as ++ [a])).Reachable := reachable_after _ _
    rw [after_concat] at reachable ⊢
    intro e he
    -- what was bound stays so, for no class object changes
    rw [history_concat, List.mem_append, Option.mem_toList] at he
    rcases he with before | new
    · exact (ih e before).extend (perform_step _ a).extends (reachable_after start as).built
    · exact bound_perform reachable.named new

/-- In every run, each catalog is the map in which the last registration of a name wins. -/
theorem lastWins_after (start : σ) (as : List (Action σ)) (k : Ref .catalog) :
    ((initial start).after as).heap.LastWins k ((initial start).history (registered? k) as) := by
  have classes := classes_eq_ofList (k := k) start as
  have find (name : String) : (((initial start).after as).heap.catalogs.get k).classes.find? name =
      ((initial start).history (registered? k) as).reverse.lookup name := by
    rw [classes, Table.find?_ofList]
  refine ⟨?_, ?_, fun name => Table.contains_iff_mem_keys, fun name c => ?_, fun name c found => ?_,
    fun name new => ?_, fun name c found => ?_⟩
  · rw [Heap.names, classes, Table.keys_ofList]
  · exact (List.length_map Prod.fst).symm
  · rw [Heap.importClass_text, find]
  · rw [← find, ← Heap.importClass_text] at found
    rw [Heap.lookup, found]
    rfl
  · have missing : ((initial start).after as).heap.importClass k (.text name) =
        .error (.undefinedClass (.text name)) := by
      have unknown : ((initial start).history (registered? k) as).reverse.lookup name = none := by
        refine List.lookup_eq_none_iff.mpr (fun e he => bne_iff_ne.mpr ?_)
        rintro rfl
        exact new (List.mem_map_of_mem (List.mem_reverse.mp he))
      rw [Heap.importClass, find, unknown]
    exact ⟨missing, by rw [Heap.lookup, missing]; rfl⟩
  · rw [Heap.importClass_text, find] at found
    obtain ⟨newer, older, order, -⟩ := List.lookup_eq_some_iff.mp found
    refine bound_of_mem_history start as (name, c) (List.mem_reverse.mp ?_)
    rw [order]
    simp

end World

end ObjectModel
