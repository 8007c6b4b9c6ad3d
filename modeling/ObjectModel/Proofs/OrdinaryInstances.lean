import ObjectModel.Proofs.DictionaryRuns
import ObjectModel.Proofs.GuardedConstruction
import ObjectModel.Proofs.InstanceMembers

/-!
# Instances of ordinary classes in scripts

Where a class and its catalog are as they were made, a script makes instances of the class as the
model says. How many layers there are is asked first. If the catalog holds some other class that has
to be asked, then so is the lineage; this makes lists and dictionaries and changes nothing else.
-/

namespace ObjectModel.Script.Machine

variable {m : Machine} {w u : World Workspace} {n : Nat} {c p : Ref .cls} {name above : String}

/-- An ordinary class that is as it was made, in a catalog that is as it was made. -/
structure AsMade (w : World Workspace) (c : Ref .cls) : Prop extends Ordinary w c where
  cls : w.client.isAltered (.cls c) = false
  catalog : w.client.isAltered (.catalog (w.heap.classes.get c).catalog) = false

/-- A class without hooks, of which nothing was altered. -/
structure Intact (w : World Workspace) (c : Ref .cls) : Prop where
  made : w.heap.classes.contains c = true
  hookless : (w.heap.classes.get c).operators = .empty
  cls : w.client.isAltered (.cls c) = false
  definition : w.client.isAltered (.definition (w.heap.classes.get c).definition) = false
  catalog : w.client.isAltered (.catalog (w.heap.classes.get c).catalog) = false

theorem Intact.asMade (intact : Intact w c)
    (simple : isSimpleDefinition (w.heap.classDefinition c) = true) : AsMade w c where
  hookless := intact.hookless
  own := by
    have simple' : (classEntry w.heap c).isSimple = true := simple
    have unaltered : w.client.isAltered (.definition (classEntry w.heap c).definition) = false :=
      intact.definition
    rw [Workspace.standInFor?, unaltered, simple',
      show w.client.givenTo (.cls (classEntry w.heap c).cls) = .empty from
        givenTo_eq_empty intact.cls]
    rfl
  cls := intact.cls
  catalog := intact.catalog

theorem Intact.congr (intact : Intact w c) (classes : u.heap.classes = w.heap.classes)
    (continues : w.client.Continues u.client) : Intact u c where
  made := by rw [classes, intact.made]
  hookless := by rw [classes, intact.hookless]
  cls := by rw [continues.isAltered, intact.cls]
  definition := by rw [classes, continues.isAltered, intact.definition]
  catalog := by rw [classes, continues.isAltered, intact.catalog]

/-- What is only asked about such a class leaves it as it is. -/
theorem AsMade.printed {s : String} (asMade : AsMade w c) (printed : Printed w s u) :
    AsMade u c where
  hookless := by rw [printed.heap, asMade.hookless]
  own := by rw [printed.heap, printed.client.standInFor?, asMade.own]
  cls := by rw [printed.client.isAltered, asMade.cls]
  catalog := by rw [printed.heap, printed.client.isAltered, asMade.catalog]

section Steps

variable (asMade : AsMade w c)

include asMade

theorem run_isUnchanged : (isUnchanged c).run w = (.ok true, w) := by
  rw [isUnchanged, Session.run_bind_of_ok (run_seeing w _), run_viewing, asMade.cls, asMade.catalog]
  rfl

theorem run_client_standIn? (m : Machine) : (m.client.standIn? c).run w = (.ok none, w) := by
  refine (Session.run_bind_of_ok (run_isUnchanged asMade)).trans ?_
  exact (Session.run_bind_of_ok (run_standIn? asMade.toOrdinary)).trans (Session.run_pure _ w)

theorem run_client_parentClass? (m : Machine) :
    (m.client.parentClass? c).run w = (w.heap.parentClass? c, w) := by
  unfold Client.parentClass?
  refine (Session.run_bind_of_ok (run_client_standIn? asMade m)).trans ?_
  refine (Session.run_bind_of_ok (run_look w)).trans ?_
  split
  · rename_i top
    rw [Heap.parentClass?, top]
    exact Session.run_pure _ w
  · rename_i notNull
    rw [Heap.parentClass?_eq rfl notNull]
    cases w.heap.importClass (w.heap.classes.get c).catalog (w.heap.classDefinition c).parent with
    | ok p => exact (Session.run_bind_of_ok (Session.run_pure p w)).trans (Session.run_pure _ w)
    | error e => exact Session.run_bind_of_error (Session.run_throw e w)

theorem run_client_newLayer (m : Machine) (parent : Option (Ref .facade)) :
    (m.client.newLayer c parent).run w = w.perform (.newLayer c parent) :=
  (Session.run_bind_of_ok (run_client_standIn? asMade m)).trans (Session.run_ask _ w)

theorem run_client_constructor? (m : Machine) : (m.client.constructor? c).run w =
    (.ok ((w.heap.classDefinition c).publics.find? (.text "constructor")), w) := by
  refine (Session.run_bind_of_ok (run_client_standIn? asMade m)).trans ?_
  exact (Session.run_bind_of_ok (run_look w)).trans (Session.run_pure _ w)

theorem run_client_nameOf (m : Machine) :
    (m.client.nameOf c).run w = (.ok (w.heap.className c), w) := by
  refine (Session.run_bind_of_ok (run_client_standIn? asMade m)).trans ?_
  exact (Session.run_bind_of_ok (run_look w)).trans (Session.run_pure _ w)

/-- A new instance is reported in the log. -/
theorem exists_run_client_report (m : Machine) (layer : Layer) : ∃ r,
    (m.client.report c layer).run w = (.ok layer.facade, w.addLog r) := by
  obtain ⟨name, named⟩ := asMade.exists_name
  have spoken : (m.client.spoken (w.heap.className c)).run w = (.ok name, w) := by
    rw [show w.heap.className c = .text name from named]
    exact Session.run_pure name w
  refine ⟨.instantiated name, (Session.run_bind_of_ok (run_client_nameOf asMade m)).trans ?_⟩
  refine (Session.run_bind_of_ok spoken).trans ?_
  exact (Session.run_bind_of_ok (Session.run_ask _ w)).trans (Session.run_pure _ _)

theorem run_construct_of_root {m : Machine} (top : w.heap.parentClass? c = .ok none)
    (args : Arguments) (k : Nat) :
    (m.client.construct args (k + 1) c).run w = (m.client.addLayer args c none).run w := by
  have asked := run_client_parentClass? asMade m
  rw [top] at asked
  exact Session.run_bind_of_ok asked

theorem run_construct_of_link {m : Machine} (link : w.heap.parentClass? c = .ok (some p))
    (args : Arguments) (k : Nat) : (m.client.construct args (k + 1) c).run w =
      (m.client.construct args k p >>= fun parent =>
        m.client.addLayer args c (some parent.facade)).run w := by
  have asked := run_client_parentClass? asMade m
  rw [link] at asked
  exact Session.run_bind_of_ok asked

end Steps

section NewLayer

variable {parent : Option (Ref .facade)} {args : Arguments} {function : Value}

/-- The world in which a layer was added. -/
def withLayer (w : World Workspace) (c : Ref .cls) (parent : Option (Ref .facade)) :
    World Workspace :=
  w.setHeap (w.heap.newLayer c parent).2

theorem AsMade.withLayer (asMade : AsMade w c) (c' : Ref .cls) (parent : Option (Ref .facade)) :
    AsMade (withLayer w c' parent) c :=
  ⟨⟨asMade.hookless, asMade.own⟩, asMade.cls, asMade.catalog⟩

variable (asMade : AsMade w c) (made : w.heap.classes.contains c = true)
  (present : ∀ f, parent = some f → w.heap.facades.contains f = true)

include asMade made present

/-- A layer without a constructor is only added. -/
theorem run_addLayer_of_none
    (silent : (w.heap.classDefinition c).publics.find? (.text "constructor") = none) (m : Machine) :
    (m.client.addLayer args c parent).run w =
      (.ok (w.heap.newLayer c parent).1, withLayer w c parent) := by
  have asked := run_client_constructor? (asMade.withLayer c parent) m
  rw [show ((withLayer w c parent).heap.classDefinition c).publics.find? (.text "constructor") =
    none from silent] at asked
  refine (Session.run_bind_of_ok ((run_client_newLayer asMade m parent).trans
    (World.perform_newLayer made present))).trans ?_
  exact (Session.run_bind_of_ok asked).trans (Session.run_pure _ _)

/-- The constructor of a layer is called when the layer is there. -/
theorem run_addLayer_of_constructor
    (declared : (w.heap.classDefinition c).publics.find? (.text "constructor") = some function)
    (m : Machine) : (m.client.addLayer args c parent).run w =
      (m.call function (args.after (.state w.heap.states.next)) >>= fun _ =>
        pure (w.heap.newLayer c parent).1).run (withLayer w c parent) := by
  have asked := run_client_constructor? (asMade.withLayer c parent) m
  rw [show ((withLayer w c parent).heap.classDefinition c).publics.find? (.text "constructor") =
    some function from declared] at asked
  refine (Session.run_bind_of_ok ((run_client_newLayer asMade m parent).trans
    (World.perform_newLayer made present))).trans ?_
  exact Session.run_bind_of_ok asked

end NewLayer

section Depth

/-- What is asked to find out how many layers there are leaves nothing that matters. -/
theorem printed_withNewDict (w : World Workspace) (d : Dict) : Printed w "" (withNewDict w d) :=
  ⟨String.append_empty.symm, rfl, rfl, rfl, rfl, rfl⟩

theorem printed_withDict (w : World Workspace) (r : Ref .dict) (d : Dict) :
    Printed w "" (withDict w r d) :=
  ⟨String.append_empty.symm, rfl, rfl, rfl, rfl, rfl⟩

theorem exists_run_newList (vs : Array Value) (w : World Workspace) :
    ∃ v u, (newList vs).run w = (.ok v, u) ∧ Printed w "" u :=
  ⟨_, _, Session.run_eq_iff.mpr (fun _ => rfl), String.append_empty.symm, rfl, rfl, rfl, rfl, rfl⟩

theorem run_climbFrom_of_null (m : Machine) (k : Ref .catalog) (seen : Ref .dict) (steps : Nat)
    (chain : Array Value) : (m.climbFrom k seen (steps + 1) chain .null).run w = (.ok chain, w) :=
  Session.run_pure chain w

variable {k : Ref .catalog} {d : Ref .definition}

theorem run_read_parent (unaltered : w.client.isAltered (.definition d) = false) (n : Nat) :
    ((ofDepth (n + 1)).read (.definition d) "parent").run w =
      (.ok (w.heap.definition d).parent, w) :=
  run_notingMissing_of_ok (run_plainAttribute_of_record unaltered (run_seeing w _))

/-- The way up starts with the name of the definition alone. -/
theorem exists_run_lineageByAsking (unaltered : w.client.isAltered (.definition d) = false)
    (named : (w.heap.definition d).name = .text name) (n : Nat) : ∃ seen u,
      ((ofDepth (n + 1)).lineageByAsking k (.definition d)).run w =
        ((ofDepth (n + 1)).climbFrom k seen loopBound #[.definition d]
          (w.heap.definition d).parent).run u ∧
      Printed w "" u ∧ u.client.dicts.contains seen = true ∧
      ∀ key, KeyCode.ofText name ≠ KeyCode.ofText key → IsNew u seen key := by
  let seen := w.client.dicts.next
  let opened := withNewDict w .empty
  have keeps : KeepsName opened d :=
    ⟨by rw [show opened.client.givenTo _ = .empty from givenTo_eq_empty unaltered]; rfl,
      hasLost_eq_false unaltered "name"⟩
  have read : ((ofDepth (n + 1)).read (.definition d) "name").run opened =
      (.ok (.text name), opened) :=
    (run_read_name keeps n).trans (by rw [← named]; rfl)
  have made : opened.client.dicts.contains seen = true := Store.contains_push_next _ _
  obtain ⟨filled, set, entries⟩ := exists_run_setItem_of_new (n := n) made (isNew_next w name) .null
  let u := withDict opened seen filled
  have parent : ((ofDepth (n + 1)).read (.definition d) "parent").run u =
      (.ok (w.heap.definition d).parent, u) := run_read_parent (w := u) unaltered n
  refine ⟨seen, u, ?_, (printed_withNewDict w .empty).trans (printed_withDict opened seen filled),
    by simpa [u, withDict] using made, fun key other e there => ?_⟩
  · rw [lineageByAsking, Session.run_bind_of_ok (run_newDict .empty w)]
    refine (Session.run_bind_of_ok read).trans ?_
    refine (Session.run_bind_of_ok set).trans ?_
    exact Session.run_bind_of_ok parent
  · have held : u.client.dicts.get seen = filled := Store.get_set_self made filled
    have before : (opened.client.dicts.get seen).entries = [] := by
      rw [show opened.client.dicts.get seen = .empty from Store.get_push_next _ _]
      rfl
    rw [held, entries, before] at there
    rw [List.mem_singleton.mp there]
    exact other

/-- The way up ends at a root. -/
theorem exists_run_lineageByAsking_of_root
    (unaltered : w.client.isAltered (.definition d) = false)
    (named : (w.heap.definition d).name = .text name)
    (top : (w.heap.definition d).parent = .null) (n : Nat) :
    ∃ vs u, ((ofDepth (n + 1)).lineageByAsking k (.definition d)).run w = (.ok vs, u) ∧
      Printed w "" u := by
  obtain ⟨seen, u, run, printed, -, -⟩ :=
    exists_run_lineageByAsking (k := k) unaltered named n
  obtain ⟨steps, bound⟩ := Nat.exists_eq_succ_of_ne_zero (show loopBound ≠ 0 by decide)
  refine ⟨#[.definition d], u, ?_, printed⟩
  rw [run, top, bound]
  exact run_climbFrom_of_null _ k seen steps _

/-- The way up goes on from a parent that is found, if its name has a code of its own. -/
theorem exists_run_lineageByAsking_of_link (asMade : AsMade w p)
    (catalog : w.client.isAltered (.catalog k) = false)
    (unaltered : w.client.isAltered (.definition d) = false)
    (named : (w.heap.definition d).name = .text name)
    (link : (w.heap.definition d).parent = .text above)
    (other : KeyCode.ofText name ≠ KeyCode.ofText above)
    (found : w.heap.importClass k (.text above) = .ok p)
    (top : (w.heap.classDefinition p).parent = .null) (n : Nat) :
    ∃ vs u, ((ofDepth (n + 1)).lineageByAsking k (.definition d)).run w = (.ok vs, u) ∧
      Printed w "" u := by
  obtain ⟨seen, u, run, printed, made, new⟩ :=
    exists_run_lineageByAsking (k := k) unaltered named n
  obtain ⟨steps, bound⟩ : ∃ steps, loopBound = steps + 2 := ⟨loopBound - 2, by decide⟩
  obtain ⟨filled, set, -⟩ := exists_run_setItem_of_new (n := n) made (new above other) .null
  let u' := withDict u seen filled
  have printed' : Printed w "" u' := printed.trans (printed_withDict u seen filled)
  have asMade' : AsMade u' p := asMade.printed printed'
  have catalog' : u'.client.isAltered (.catalog k) = false := by
    rw [printed'.client.isAltered, catalog]
  have found' : u'.heap.importClass k (.text above) = .ok p := by rw [printed'.heap, found]
  have lookup : ((ofDepth (n + 1)).unlessGiven (.catalog k) "lookup" [.text above]
      ((ofDepth (n + 1)).lookup k (.text above))).run u' =
        (.ok (.definition (u'.heap.classes.get p).definition), u') := by
    rw [run_unlessGiven catalog']
    exact Session.run_eq_iff.mpr (run_lookup_of_ok _ catalog' rfl found' asMade'.cls asMade'.own)
  have parent := run_read_parent asMade'.definition.1 n
  rw [show (u'.heap.definition _).parent = .null from printed'.heap ▸ top] at parent
  refine ⟨#[.definition d, .definition (u'.heap.classes.get p).definition], u', ?_, printed'⟩
  rw [run, link, bound]
  refine (Session.run_bind_of_ok (run_containsKey_of_new (new above other))).trans ?_
  refine (Session.run_bind_of_ok set).trans ?_
  refine (Session.run_bind_of_ok lookup).trans ?_
  refine (Session.run_bind_of_ok parent).trans ?_
  exact run_climbFrom_of_null _ k seen steps _

section Asking

variable (asMade : AsMade w c)

include asMade

theorem run_keptDefinition : (keptDefinition (.cls c)).run w =
    (.ok (.definition (w.heap.classes.get c).definition), w) := by
  have cls : (definedClass (.cls c)).run w = (.ok c, w) :=
    (Session.run_bind_of_ok (run_requireSlot asMade.cls _)).trans (Session.run_pure c w)
  rw [keptDefinition, Session.run_bind_of_ok cls, classDefinition,
    Session.run_bind_of_ok (run_standIn? asMade.toOrdinary)]
  exact run_seeing w _

/-- The lineage is asked for if the catalog holds some class that has to be asked. -/
theorem run_client_depth? {plain : Bool} (m : Machine)
    (isPlain : (isPlainCatalog (w.heap.classes.get c).catalog).run w = (.ok plain, w)) :
    (m.client.depth? c).run w =
      (if plain then pure none else some <$> m.askedDepth c : Prog _).run w := by
  refine (Session.run_bind_of_ok (run_seeing w _)).trans ?_
  refine (Session.run_bind_of_ok (run_isUnchanged asMade)).trans ?_
  refine (Session.run_bind_of_ok (run_standIn? asMade.toOrdinary)).trans ?_
  refine (Session.run_bind_of_ok isPlain).trans ?_
  cases plain <;> rfl

/-- Once the lineage was asked for, the bound is that of all loops. -/
theorem exists_run_askedDepth {vs : Array Value}
    (isPlain : (isPlainCatalog (w.heap.classes.get c).catalog).run w = (.ok false, w))
    (asked : ((ofDepth (n + 1)).lineageByAsking (w.heap.classes.get c).catalog
      (.definition (w.heap.classes.get c).definition)).run w = (.ok vs, u))
    (printed : Printed w "" u) :
    ∃ u', ((ofDepth (n + 1)).askedDepth c).run w = (.ok loopBound, u') ∧ Printed w "" u' := by
  have lineageIn : ((ofDepth (n + 1)).lineageIn (w.heap.classes.get c).catalog
      (.definition (w.heap.classes.get c).definition)).run w = (.ok vs, u) := by
    refine (Session.run_bind_of_ok (run_seeing w _)).trans ?_
    refine (Session.run_bind_of_ok (run_isAltered asMade.definition.1)).trans ?_
    refine (Session.run_bind_of_ok isPlain).trans ?_
    rw [Bool.and_false]
    exact asked
  obtain ⟨v, u', listed, printed'⟩ := exists_run_newList vs u
  have resolved := (run_unlessGiven (m := ofDepth (n + 1)) asMade.catalog "lineage"
    [.definition (w.heap.classes.get c).definition] _).trans
      ((Session.run_bind_of_ok lineageIn).trans listed)
  refine ⟨u', ?_, printed.trans printed'⟩
  refine (Session.run_bind_of_ok (run_keptDefinition asMade)).trans ?_
  refine (Session.run_bind_of_ok (run_requireSlot asMade.cls _)).trans ?_
  refine (Session.run_bind_of_ok (run_seeing w _)).trans ?_
  exact (Session.run_bind_of_ok resolved).trans (Session.run_pure _ u')

/-- However the lineage of a class is found, it comes to a bound on the layers of an instance. -/
theorem exists_run_depthOf {ds : List (Ref .definition)}
    (lineage : w.heap.classLineage c = .ok ds) (few : ds.length ≤ loopBound)
    (asked : ∃ vs u, ((ofDepth (n + 1)).lineageByAsking (w.heap.classes.get c).catalog
      (.definition (w.heap.classes.get c).definition)).run w = (.ok vs, u) ∧ Printed w "" u) :
    ∃ more u, ((ofDepth (n + 1)).client.depthOf c).run w = (.ok (ds.length + more), u) ∧
      Printed w "" u := by
  obtain ⟨plain, isPlain⟩ : ∃ plain,
      (isPlainCatalog (w.heap.classes.get c).catalog).run w = (.ok plain, w) :=
    ⟨_, Session.run_eq_iff.mpr (fun _ => rfl)⟩
  have decided := run_client_depth? asMade (ofDepth (n + 1)) isPlain
  cases plain with
  | true =>
    have settled : (settle (w.heap.classLineage c) : Prog _).run w = (.ok ds, w) := by
      rw [lineage]
      exact Session.run_pure ds w
    refine ⟨0, w, ?_, .refl w⟩
    refine (Session.run_bind_of_ok (decided.trans (Session.run_pure _ w))).trans ?_
    refine (Session.run_bind_of_ok (run_look w)).trans ?_
    exact (Session.run_bind_of_ok settled).trans (Session.run_pure _ w)
  | false =>
    obtain ⟨vs, u, asked, printed⟩ := asked
    obtain ⟨u', bound, printed'⟩ := exists_run_askedDepth asMade isPlain asked printed
    have depth : ((ofDepth (n + 1)).client.depth? c).run w = (.ok (some loopBound), u') :=
      decided.trans ((Session.run_bind_of_ok bound).trans (Session.run_pure _ u'))
    refine ⟨loopBound - ds.length, u', ?_, printed'⟩
    rw [Nat.add_sub_cancel' few]
    exact (Session.run_bind_of_ok depth).trans (Session.run_pure _ u')

end Asking

theorem exists_run_depthOf_of_root (asMade : AsMade w c)
    (top : (w.heap.classDefinition c).parent = .null) (n : Nat) : ∃ more u,
      ((ofDepth (n + 1)).client.depthOf c).run w = (.ok (1 + more), u) ∧ Printed w "" u := by
  obtain ⟨name, named⟩ := asMade.exists_name
  have lineage : w.heap.classLineage c = .ok [(w.heap.classes.get c).definition] := by
    rw [Heap.classLineage_eq (Value.keyKind_of_text named), top, Heap.climb]
  exact exists_run_depthOf asMade lineage (show 1 ≤ loopBound by decide)
    (exists_run_lineageByAsking_of_root asMade.definition.1 named top n)

theorem exists_run_depthOf_of_link (asMade : AsMade w c) (asMade' : AsMade w p)
    (named : (w.heap.classDefinition c).name = .text name)
    (link : (w.heap.classDefinition c).parent = .text above)
    (other : KeyCode.ofText name ≠ KeyCode.ofText above)
    (found : w.heap.importClass (w.heap.classes.get c).catalog (.text above) = .ok p)
    (top : (w.heap.classDefinition p).parent = .null) (n : Nat) : ∃ more u,
      ((ofDepth (n + 1)).client.depthOf c).run w = (.ok (2 + more), u) ∧ Printed w "" u := by
  have lineage : w.heap.classLineage c =
      .ok [(w.heap.classes.get c).definition, (w.heap.classes.get p).definition] := by
    have unseen : [w.heap.className c].any (Value.text above).alike = false := by
      have unlike : above ≠ name := fun same => other (by rw [same])
      have named' : w.heap.className c = .text name := named
      rw [named', List.any_cons, List.any_nil, Bool.or_false]
      exact Bool.eq_false_iff.mpr (fun same => unlike (Value.text.inj (Value.alike_text.mp same)))
    have resolved : w.heap.lookup (w.heap.classes.get c).catalog (.text above) =
        .ok (w.heap.classes.get p).definition := by
      rw [Heap.lookup, found]
      rfl
    rw [Heap.classLineage_eq (Value.keyKind_of_text named), link, Heap.climb_succ (by simp), unseen,
      resolved]
    change w.heap.climb _ _ _ _ (w.heap.classDefinition p).parent = _
    rw [top, Heap.climb]
    rfl
  exact exists_run_depthOf asMade lineage (show 2 ≤ loopBound by decide)
    (exists_run_lineageByAsking_of_link asMade' asMade.catalog asMade.definition.1 named link other
      found top n)

end Depth

end ObjectModel.Script.Machine
