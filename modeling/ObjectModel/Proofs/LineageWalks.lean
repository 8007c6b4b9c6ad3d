import ObjectModel.Lineage
import ObjectModel.Proofs.HeapSteps
import ObjectModel.Proofs.TableLaws

/-!
# Lineages and parent classes

A lineage is found by a loop that keeps the names it has seen, and an instance is made by going from
class object to class object. Both resolve the same names. The loop never runs out of steps; what it
finds are the definitions of the classes that the links lead through, and for a class that is
registered under its own name it complains of a circle exactly if the links never end.
-/

namespace ObjectModel.Heap

variable {h h' : Heap}

/-- What a catalog has under some name is a class that was made for this catalog. -/
def Registered (h : Heap) : Prop :=
  ∀ k name c, (h.catalogs.get k).classes.find? name = some c →
    h.classes.contains c = true ∧ (h.classes.get c).catalog = k

theorem catalog_initial (k : Ref .catalog) : (initial.catalogs.get k).classes = .empty := by
  simp only [initial, Store.get_push]
  split <;> rfl

theorem registered_initial : Registered initial := by
  intro k name c found
  rw [catalog_initial] at found
  cases found

/-- A new class that is put into its catalog. -/
theorem Registered.insert (registered : h.Registered) {r : Class} {name : String}
    (catalogs : h'.catalogs =
      h.catalogs.modify r.catalog (fun k => ⟨k.classes.insert name h.classes.next⟩))
    (classes : h'.classes = h.classes.push r) : h'.Registered := by
  intro k name' c found
  have old (found : (h.catalogs.get k).classes.find? name' = some c) :
      h'.classes.contains c = true ∧ (h'.classes.get c).catalog = k := by
    obtain ⟨made, bound⟩ := registered k name' c found
    rw [classes, Store.get_push_of_contains made]
    exact ⟨Store.contains_push _ made, bound⟩
  rw [catalogs, Store.get_modify] at found
  split at found
  · rename_i hk
    rw [Table.find?_insert] at found
    split at found
    · obtain rfl : h.classes.next = c := Option.some.inj found
      rw [classes]
      exact ⟨Store.contains_push_next _ _, by rw [Store.get_push_next, hk.1]⟩
    · exact old found
  · exact old found

theorem Registered.step {σ : Type} {a : Action σ} (registered : h.Registered)
    (hs : h.Step a h') : h'.Registered := by
  cases hs with
  | stay _ | openBuilder _ _ | setParent _ _ _ | addMembers _ _ _ | closeBuilder _ _ | declare _
  | keep _ | newLayer _ _ | setStatic _ _ _ _ | writeField _ _ _ _ | deleteField _ _
  | addExternal _ _ _ | deleteExternal _ _ => exact registered
  | newCatalog =>
    intro k name c found
    change ((h.catalogs.push default).get k).classes.find? name = some c at found
    rw [Store.get_push] at found
    split at found
    · cases found
    · exact registered k name c found
  | register inCatalog defined named => exact registered.insert rfl rfl
  | registerOutside name hooks inCatalog =>
    exact registered.insert (r := ⟨h.definitions.next, _, name, hooks⟩) rfl rfl

/-- The parent class of a class, as it is registered now. -/
def parentClass? (h : Heap) (c : Ref .cls) : Except Fault (Option (Ref .cls)) :=
  match (h.classDefinition c).parent with
  | .null => .ok none
  | name => (h.importClass (h.classes.get c).catalog name).map some

/-- The way from a class through its parent classes: the classes on it, lowest first, and the fault
of the look-up that failed, if the way does not end at a root. -/
inductive Ascent (h : Heap) : Ref .cls → List (Ref .cls) → Option Fault → Prop where
  | root {c : Ref .cls} (top : h.parentClass? c = .ok none) : Ascent h c [c] none
  | lost {c : Ref .cls} {e : Fault} (failed : h.parentClass? c = .error e) :
      Ascent h c [c] (some e)
  | layer {c p : Ref .cls} {ps : List (Ref .cls)} {fault : Option Fault}
      (link : h.parentClass? c = .ok (some p)) (above : Ascent h p ps fault) :
      Ascent h c (c :: ps) fault

variable {c : Ref .cls} {cs cs' : List (Ref .cls)} {fault fault' : Option Fault}

theorem Ascent.unique (hc : h.Ascent c cs fault) (hc' : h.Ascent c cs' fault') :
    cs = cs' ∧ fault = fault' := by
  induction hc generalizing cs' with
  | root top =>
    cases hc' with
    | root => exact ⟨rfl, rfl⟩
    | lost failed => simp [top] at failed
    | layer link above => simp [top] at link
  | lost failed =>
    cases hc' with
    | root top => simp [failed] at top
    | lost failed' =>
      rw [failed] at failed'
      cases failed'
      exact ⟨rfl, rfl⟩
    | layer link above => simp [failed] at link
  | layer link above ih =>
    cases hc' with
    | root top => simp [link] at top
    | lost failed => simp [link] at failed
    | layer link' above' =>
      rw [link] at link'
      cases link'
      obtain ⟨rfl, rfl⟩ := ih above'
      exact ⟨rfl, rfl⟩

theorem Ascent.eq_cons (way : h.Ascent c cs fault) : ∃ ps, cs = c :: ps := by
  cases way <;> exact ⟨_, rfl⟩

theorem importClass_text {k : Ref .catalog} {name : String} :
    h.importClass k (.text name) = .ok c ↔ (h.catalogs.get k).classes.find? name = some c := by
  simp only [importClass]
  split <;> simp_all

theorem importClass_text_error {k : Ref .catalog} {name : String} {e : Fault}
    (failed : h.importClass k (.text name) = .error e) : e = .undefinedClass (.text name) := by
  simp only [importClass] at failed
  split at failed <;> simp_all

theorem exists_text_of_importClass {k : Ref .catalog} {v : Value}
    (found : h.importClass k v = .ok c) : ∃ name, v = .text name := by
  cases v with
  | text name => exact ⟨name, rfl⟩
  | _ => simp [importClass] at found

theorem eq_of_alike_of_importClass {k : Ref .catalog} {u v : Value}
    (found : h.importClass k v = .ok c) (alike : u.alike v = true) : u = v := by
  obtain ⟨name, rfl⟩ := exists_text_of_importClass found
  exact Value.alike_text.mp alike

/-- What is found under a name is a class that was made for the catalog. -/
theorem Registered.of_importClass (registered : h.Registered) {k : Ref .catalog} {v : Value}
    (found : h.importClass k v = .ok c) :
    h.classes.contains c = true ∧ (h.classes.get c).catalog = k := by
  obtain ⟨name, rfl⟩ := exists_text_of_importClass found
  exact registered k name c (importClass_text.mp found)

theorem parentClass?_eq {v : Value} (hv : (h.classDefinition c).parent = v) (hne : v ≠ .null) :
    h.parentClass? c = (h.importClass (h.classes.get c).catalog v).map some := by
  simp only [parentClass?, hv]

theorem importClass_of_link {p : Ref .cls} (link : h.parentClass? c = .ok (some p)) :
    ∃ name, (h.classDefinition c).parent = .text name ∧
      h.importClass (h.classes.get c).catalog (.text name) = .ok p := by
  have hne : (h.classDefinition c).parent ≠ .null := by
    intro top
    simp [parentClass?, top] at link
  rw [parentClass?_eq rfl hne] at link
  cases hp : h.importClass (h.classes.get c).catalog (h.classDefinition c).parent with
  | error e => simp [hp, Except.map] at link
  | ok q =>
    obtain rfl : q = p := by simpa [hp, Except.map] using link
    obtain ⟨name, hv⟩ := exists_text_of_importClass hp
    exact ⟨name, hv, hv ▸ hp⟩

/-- What a name finds if it finds no class. -/
theorem importClass_error {k : Ref .catalog} {v : Value} {e : Fault}
    (failed : h.importClass k v = .error e) :
    e = .undefinedClass v ∨ e = .wrongType ∨ e = .unresolved v := by
  cases v with
  | text name => exact .inl (importClass_text_error failed)
  | _ =>
    obtain rfl : _ = e := by simpa [importClass] using failed
    simp [nameFault, Value.keyKind]

theorem importClass_ne_exhausted (k : Ref .catalog) (v : Value) :
    h.importClass k v ≠ .error .exhausted := by
  intro failed
  rcases importClass_error failed with h | h | h <;> cases h

theorem parentClass?_ne_exhausted : h.parentClass? c ≠ .error .exhausted := by
  by_cases top : (h.classDefinition c).parent = .null
  · simp [parentClass?, top]
  · rw [parentClass?_eq rfl top]
    intro failed
    cases hp : h.importClass (h.classes.get c).catalog (h.classDefinition c).parent with
    | ok p => simp [hp, Except.map] at failed
    | error e =>
      obtain rfl : e = .exhausted := by simpa [hp, Except.map] using failed
      exact importClass_ne_exhausted _ _ hp

theorem Ascent.fault_ne_exhausted {e : Fault} (way : h.Ascent c cs (some e)) :
    e ≠ .exhausted := by
  generalize hf : some e = fault at way
  induction way with
  | root top => cases hf
  | lost failed =>
    cases hf
    rintro rfl
    exact parentClass?_ne_exhausted failed
  | layer link above ih => exact ih hf

/-- The classes on the way exist. -/
theorem Ascent.made (registered : h.Registered) (way : h.Ascent c cs fault)
    (made : h.classes.contains c = true) : ∀ p ∈ cs, h.classes.contains p = true := by
  induction way with
  | root top => simpa using made
  | lost failed => simpa using made
  | layer link above ih =>
    obtain ⟨name, -, hp⟩ := importClass_of_link link
    have found := (registered _ _ _ (importClass_text.mp hp)).1
    exact List.forall_mem_cons.mpr ⟨made, ih found⟩

theorem climb_succ {k : Ref .catalog} {v : Value} (notNull : v ≠ .null) (steps : Nat)
    (chain : List (Ref .definition)) (seen : List Value) :
    h.climb k (steps + 1) chain seen v =
      if seen.any v.alike then .error (h.cycleFault chain v)
      else h.lookup k v >>= fun p =>
        h.climb k steps (chain ++ [p]) (v :: seen) (h.definition p).parent := by
  rw [climb]
  exact notNull

/-- What comes of the loop behind a class. It has followed the way up from the class to its end, or
it stopped on the way: because of a name that it had seen, or for want of steps. -/
inductive Climbed (h : Heap) (c : Ref .cls) (chain : List (Ref .definition)) :
    Except Fault (List (Ref .definition)) → Prop where
  | root {cs : List (Ref .cls)} (way : h.Ascent c (c :: cs) none) :
      Climbed h c chain (.ok (chain ++ cs.map (fun p => (h.classes.get p).definition)))
  | lost {cs : List (Ref .cls)} {e : Fault} (way : h.Ascent c (c :: cs) (some e)) :
      Climbed h c chain (.error e)
  | circle {cs : List (Ref .cls)} (made : ∀ p ∈ cs, h.classes.contains p = true) (next : Value) :
      Climbed h c chain
        (.error (h.cycleFault (chain ++ cs.map (fun p => (h.classes.get p).definition)) next))
  | exhausted : Climbed h c chain (.error .exhausted)

/-- What comes of the loop behind the parent class comes of it behind the class. -/
theorem Climbed.of_link {chain : List (Ref .definition)} {p : Ref .cls}
    {r : Except Fault (List (Ref .definition))} (link : h.parentClass? c = .ok (some p))
    (made : h.classes.contains p = true)
    (above : h.Climbed p (chain ++ [(h.classes.get p).definition]) r) : h.Climbed c chain r := by
  cases above with
  | @root cs way =>
    have ended : h.Climbed c chain
        (.ok (chain ++ (p :: cs).map (fun p => (h.classes.get p).definition))) :=
      .root (.layer link way)
    rwa [List.map_cons, List.append_cons] at ended
  | lost way => exact .lost (.layer link way)
  | @circle cs passed next =>
    have ended : h.Climbed c chain (.error
        (h.cycleFault (chain ++ (p :: cs).map (fun p => (h.classes.get p).definition)) next)) :=
      .circle (List.forall_mem_cons.mpr ⟨made, passed⟩) next
    rwa [List.map_cons, List.append_cons] at ended
  | exhausted => exact .exhausted

theorem climbed_climb (registered : h.Registered) {k : Ref .catalog} {steps : Nat}
    {chain : List (Ref .definition)} {seen : List Value} {v : Value}
    (bound : (h.classes.get c).catalog = k) (hv : (h.classDefinition c).parent = v) :
    h.Climbed c chain (h.climb k steps chain seen v) := by
  fun_induction Heap.climb h k steps chain seen v generalizing c with
  | case1 steps chain seen =>
    have top : h.parentClass? c = .ok none := by simp [parentClass?, hv]
    have ended : h.Climbed c chain (.ok (chain ++ [])) := .root (.root top)
    rwa [List.append_nil] at ended
  | case2 => exact .exhausted
  | case3 steps chain seen current _ again =>
    have stopped : h.Climbed c chain (.error (h.cycleFault (chain ++ []) current)) :=
      @Climbed.circle h c chain [] (by simp) current
    rwa [List.append_nil] at stopped
  | case4 steps chain seen current notNull fresh ih =>
    have link := parentClass?_eq hv notNull
    rw [bound] at link
    cases hp : h.importClass k current with
    | error e =>
      rw [hp] at link
      simp only [lookup, hp]
      exact .lost (.lost link)
    | ok p =>
      rw [hp] at link
      obtain ⟨made, bound'⟩ := registered.of_importClass hp
      simp only [lookup, hp]
      exact (ih (h.classes.get p).definition bound' rfl).of_link link made

theorem mem_names {k : Ref .catalog} {name : String}
    (found : (h.catalogs.get k).classes.find? name = some c) : name ∈ h.names k := by
  obtain ⟨⟨key, c'⟩, he, rfl⟩ := Option.map_eq_some_iff.mp found
  have hkey : key = name := by simpa using List.find?_some he
  exact hkey ▸ List.mem_map_of_mem (List.mem_of_find?_eq_some he)

theorem cycleFault_ne_exhausted (chain : List (Ref .definition)) (next : Value) :
    h.cycleFault chain next ≠ .exhausted := by
  rw [cycleFault]
  split <;> exact nofun

theorem cycleFault_of_classes (named : ∀ p ∈ cs, (h.className p).isText = true) (next : Value) :
    h.cycleFault (cs.map (fun p => (h.classes.get p).definition)) next =
      .circularInheritance (cs.map h.className) next := by
  have texts : (cs.map h.className).all Value.isText = true := by simpa using named
  rw [cycleFault, List.map_map]
  exact if_pos texts

/-- All names that the loop has seen are registered, but perhaps the first one. Since they differ, it
cannot see more than there are. -/
theorem climb_ne_exhausted {k : Ref .catalog} {steps : Nat} {chain : List (Ref .definition)}
    {seen : List Value} {v first : Value} (nodup : seen.Nodup)
    (known : seen ⊆ first :: (h.names k).map .text)
    (enough : (h.catalogs.get k).classes.size + 2 ≤ steps + seen.length) :
    h.climb k steps chain seen v ≠ .error .exhausted := by
  fun_induction Heap.climb h k steps chain seen v with
  | case1 => simp
  | case2 =>
    -- no steps are left only if more names were seen than the catalog has
    have bound := nodup.length_le_of_subset known
    simp only [names, Table.keys, List.length_cons, List.length_map, Table.size] at bound enough
    omega
  | case3 => simp [cycleFault_ne_exhausted]
  | case4 steps chain seen current _ fresh ih =>
    cases hp : h.importClass k current with
    | error e =>
      simp only [lookup, hp]
      rintro ⟨⟩
      exact importClass_ne_exhausted k current hp
    | ok p =>
      obtain ⟨name, rfl⟩ := exists_text_of_importClass hp
      have listed := List.mem_map_of_mem (f := Value.text) (mem_names (importClass_text.mp hp))
      have new : .text name ∉ seen := fun again =>
        fresh (List.any_eq_true.mpr ⟨_, again, Value.alike_refl _⟩)
      simp only [lookup, hp]
      refine ih _ (List.nodup_cons.mpr ⟨new, nodup⟩) ?_ ?_
      · exact List.cons_subset.mpr ⟨List.mem_cons_of_mem _ listed, known⟩
      · simp only [List.length_cons]
        omega

/-- The way from a parent class is one class shorter. -/
theorem Ascent.of_link {p : Ref .cls} (way : h.Ascent c (c :: cs) fault)
    (link : h.parentClass? c = .ok (some p)) : h.Ascent p cs fault := by
  cases way with
  | root top => simp [link] at top
  | lost failed => simp [link] at failed
  | layer link' above =>
    rw [link] at link'
    cases link'
    exact above

/-- Where the way from a class has an end, the loop sees no name twice: the class behind a name that
it has seen would have two ways of different length. -/
theorem climb_ne_circle (registered : h.Registered) {k : Ref .catalog} {steps : Nat}
    {chain : List (Ref .definition)} {seen : List Value} {v : Value}
    (bound : (h.classes.get c).catalog = k) (hv : (h.classDefinition c).parent = v)
    (way : h.Ascent c (c :: cs) fault)
    (longer : ∀ s ∈ seen, ∃ d ds fault', h.importClass k s = .ok d ∧
      h.Ascent d ds fault' ∧ cs.length < ds.length) (path : List Value) (next : Value) :
    h.climb k steps chain seen v ≠ .error (.circularInheritance path next) := by
  fun_induction Heap.climb h k steps chain seen v generalizing c cs with
  | case1 => simp
  | case2 => simp
  | case3 steps chain seen current notNull again =>
    -- the name that comes again names the parent class, whose way would be longer than it is
    obtain ⟨s, before, alike⟩ := List.any_eq_true.mp again
    obtain ⟨d, ds, fault', hd, way', hlt⟩ := longer s before
    obtain rfl := eq_of_alike_of_importClass hd alike
    have link := parentClass?_eq hv notNull
    rw [bound, hd] at link
    obtain ⟨rfl, -⟩ := way'.unique (way.of_link link)
    omega
  | case4 steps chain seen current notNull fresh ih =>
    have link := parentClass?_eq hv notNull
    rw [bound] at link
    cases hp : h.importClass k current with
    | error e =>
      simp only [lookup, hp]
      rintro ⟨⟩
      rcases importClass_error hp with h | h | h <;> cases h
    | ok p =>
      rw [hp] at link
      have above := way.of_link link
      obtain ⟨ps, rfl⟩ := above.eq_cons
      have bound' := (registered.of_importClass hp).2
      simp only [lookup, hp]
      refine ih _ bound' rfl above ?_
      intro s hs
      rcases List.mem_cons.mp hs with rfl | hs
      · exact ⟨p, _, fault, hp, above, by simp⟩
      · obtain ⟨d, ds, fault', hd, way', hlt⟩ := longer s hs
        simp only [List.length_cons] at hlt
        exact ⟨d, ds, fault', hd, way', by omega⟩

section Lineage

variable {k : Ref .catalog} {d : Ref .definition}

theorem lineage_eq (plain : (h.definition d).name.keyKind = .plain) :
    h.lineage k d =
      h.climb k ((h.catalogs.get k).classes.size + 1) [d] [(h.definition d).name]
        (h.definition d).parent := by
  simp only [lineage, plain]

theorem lineage_ne_exhausted : h.lineage k d ≠ .error .exhausted := by
  cases kind : (h.definition d).name.keyKind with
  | plain =>
    rw [lineage_eq kind]
    exact climb_ne_exhausted (by simp) (List.cons_subset_cons _ (List.nil_subset _)) (by simp)
  | unhashable | asked => simp [lineage, kind, Fault.wrongType]

/-- The lineage that is resolved when an instance of a class is made. -/
def classLineage (h : Heap) (c : Ref .cls) : Except Fault (List (Ref .definition)) :=
  h.lineage (h.classes.get c).catalog (h.classes.get c).definition

theorem classLineage_eq (plain : (h.className c).keyKind = .plain) :
    h.classLineage c =
      h.climb (h.classes.get c).catalog
        ((h.catalogs.get (h.classes.get c).catalog).classes.size + 1)
        [(h.classes.get c).definition] [h.className c] (h.classDefinition c).parent :=
  lineage_eq plain

theorem climbed_classLineage (registered : h.Registered)
    (plain : (h.className c).keyKind = .plain) :
    h.Climbed c [(h.classes.get c).definition] (h.classLineage c) := by
  rw [classLineage_eq plain]
  exact climbed_climb registered rfl rfl

/-- A lineage that is found consists of the definitions of the classes on the way to a root. -/
theorem ascent_of_classLineage (registered : h.Registered) {ds : List (Ref .definition)}
    (resolved : h.classLineage c = .ok ds) :
    ∃ ps, h.Ascent c (c :: ps) none ∧ ds = (c :: ps).map (fun p => (h.classes.get p).definition) := by
  cases kind : (h.className c).keyKind with
  | plain =>
    have climbed := climbed_classLineage registered kind
    rw [resolved] at climbed
    cases climbed with
    | root way => exact ⟨_, way, rfl⟩
  | unhashable | asked =>
    change (h.definition (h.classes.get c).definition).name.keyKind = _ at kind
    simp [classLineage, lineage, kind] at resolved

/-- For a class that is registered under its own name, the complaint of a circle comes exactly where
the way through the parent classes has no end. -/
theorem classLineage_circle_iff (registered : h.Registered)
    (named : ∀ p, h.classes.contains p = true → (h.className p).isText = true)
    (current : h.importClass (h.classes.get c).catalog (h.className c) = .ok c) :
    (∃ path next, h.classLineage c = .error (.circularInheritance path next)) ↔
      ∀ cs fault, ¬ h.Ascent c cs fault := by
  have plain : (h.className c).keyKind = .plain := by
    obtain ⟨name, hname⟩ := exists_text_of_importClass current
    exact Value.keyKind_of_text hname
  constructor
  · rintro ⟨path, next, circle⟩ cs fault way
    rw [classLineage_eq plain] at circle
    obtain ⟨ps, rfl⟩ := way.eq_cons
    refine climb_ne_circle registered rfl rfl way ?_ path next circle
    intro s hs
    obtain rfl : s = h.className c := by simpa using hs
    exact ⟨c, c :: ps, fault, current, way, by simp⟩
  · intro endless
    have enough : h.classLineage c ≠ .error .exhausted := lineage_ne_exhausted
    have climbed := climbed_classLineage registered plain
    generalize h.classLineage c = result at climbed enough ⊢
    cases climbed with
    | root way => exact absurd way (endless _ _)
    | lost way => exact absurd way (endless _ _)
    | @circle cs made next =>
      -- the classes on the circle have names that the message can be made of
      have named : ∀ p ∈ c :: cs, (h.className p).isText = true :=
        List.forall_mem_cons.mpr ⟨named c (registered.of_importClass current).1,
          fun p there => named p (made p there)⟩
      exact ⟨_, next, congrArg Except.error (cycleFault_of_classes named next)⟩
    | exhausted => exact absurd rfl enough

end Lineage

end ObjectModel.Heap

theorem ObjectModel.World.Reachable.registered {σ : Type} {w : World σ} (h : w.Reachable) :
    w.heap.Registered :=
  h.invariant Heap.registered_initial (fun _ _ _ hs registered => registered.step hs)
