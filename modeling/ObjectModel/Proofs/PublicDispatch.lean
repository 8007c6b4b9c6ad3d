import ObjectModel.Proofs.LayerInvariants
import ObjectModel.Proofs.OutsideAccess
import ObjectModel.Script.StandIns

/-!
# Reading from outside in closed form

A read climbs from facade to facade and looks at each hop whether some class further up declares
the key public. All of this comes to one rule: the first level that knows the key decides alone, and
above the lowest level it is asked only if a class above the lowest one declares the key public.
-/

namespace ObjectModel

namespace Heap

variable (h : Heap) (key : String)

/-- The class of a facade declares the key public. -/
def declaresPublic (f : Ref .facade) : Bool := (h.facadeDefinition f).isPublic (.text key)

/-- The key was written onto a facade from outside, or its class declares it. -/
def answers (f : Ref .facade) : Bool :=
  (h.external f).contains key || (h.facadeDefinition f).isPrivate (.text key) ||
    h.declaresPublic key f || (h.facadeDefinition f).isStatic (.text key)

/-- What a level that knows the key says: what was written there from outside, a refusal for a
private name, a public method bound to the state of this level, or the static member. -/
def levelAnswer (f : Ref .facade) : Except Fault Reading :=
  match (h.external f).find? key with
  | some v => .ok (.value v)
  | none =>
    if (h.facadeDefinition f).isPrivate (.text key) then .error (.privateMember key)
    else
      match (h.facadeDefinition f).publics.find? (.text key),
        (h.facadeDefinition f).statics.find? (.text key) with
      | some method, _ => .ok (.method method (h.facadeState f))
      | none, some v => .ok (.value v)
      | none, none => .error (.noPublicMember key)

/-- The rule for a whole chain of facades, lowest first. -/
def dispatch (levels : List (Ref .facade)) : Except Fault Reading :=
  let i := levels.findIdx (h.answers key)
  match levels[i]? with
  | none => .error (.noPublicMember key)
  | some f =>
    if i = 0 || levels.tail.any (h.declaresPublic key) then h.levelAnswer key f
    else .error (.noPublicMember key)

variable {h key} {f : Ref .facade} {levels : List (Ref .facade)}

theorem answers_of_declaresPublic (public_ : h.declaresPublic key f = true) :
    h.answers key f = true := by
  simp [answers, public_]

/-- A level that knows the key never says that there is no such member. -/
theorem levelAnswer_kind (knows : h.answers key f = true) {e : Fault}
    (he : h.levelAnswer key f = .error e) : e = .privateMember key := by
  simp only [answers, declaresPublic, Definition.isPublic, Definition.isStatic,
    Table.contains_eq_isSome_find?] at knows
  simp only [levelAnswer] at he
  cases hx : (h.external f).find? key with
  | some v => simp [hx] at he
  | none =>
    cases hp : (h.facadeDefinition f).isPrivate (.text key) with
    | true => simpa [hx, hp, eq_comm] using he
    | false =>
      cases hq : (h.facadeDefinition f).publics.find? (.text key) with
      | some method => simp [hx, hp, hq] at he
      | none =>
        cases hs : (h.facadeDefinition f).statics.find? (.text key) with
        | some v => simp [hx, hp, hq, hs] at he
        | none => simp [hx, hp, hq, hs] at knows

/-- From inside, a key that is not private gives the public method or the static member, and never
what is stored in a field, provided that the class declares it. -/
theorem readPrivate_of_declared {s : Ref .state}
    (hp : (h.stateDefinition s).isPrivate (.text key) = false)
    (declared : ((h.stateDefinition s).isPublic (.text key) ||
      (h.stateDefinition s).isStatic (.text key)) = true) :
    h.readPrivate s key =
      match (h.stateDefinition s).publics.find? (.text key),
        (h.stateDefinition s).statics.find? (.text key) with
      | some method, _ => .ok (.method method s)
      | none, some v => .ok (.value v)
      | none, none => .error (.noPublicMember key) := by
  have hp' : (h.stateDefinition s).privates.find? (.text key) = none :=
    (Table.find?_eq_none_iff _ _).mpr hp
  simp only [Definition.isPublic, Definition.isStatic, Table.contains_eq_isSome_find?] at declared
  simp only [readPrivate, Definition.method?, hp']
  cases hq : (h.stateDefinition s).publics.find? (.text key) with
  | some method => rfl
  | none =>
    cases hs : (h.stateDefinition s).statics.find? (.text key) with
    | some v => rfl
    | none => simp [hq, hs] at declared

theorem readLevels_of_answers (knows : h.answers key f = true) (above : List (Ref .facade)) :
    h.readLevels key (f :: above) = h.levelAnswer key f := by
  simp only [readLevels, levelAnswer]
  cases hx : (h.external f).find? key with
  | some v => rfl
  | none =>
    cases hp : (h.facadeDefinition f).isPrivate (.text key) with
    | true => rfl
    | false =>
      have declared : ((h.facadeDefinition f).isPublic (.text key) ||
          (h.facadeDefinition f).isStatic (.text key)) = true := by
        have hx' := (Table.find?_eq_none_iff _ _).mp hx
        simpa [answers, declaresPublic, hx', hp] using knows
      simp only [declared, Bool.false_eq_true, if_false, if_true]
      exact readPrivate_of_declared hp declared

theorem readLevels_of_not_answers (silent : h.answers key f = false)
    (above : List (Ref .facade)) :
    h.readLevels key (f :: above) =
      if above.any (h.declaresPublic key) then h.readLevels key above
      else .error (.noPublicMember key) := by
  simp only [answers, declaresPublic, Bool.or_eq_false_iff] at silent
  obtain ⟨⟨⟨hx, hp⟩, hq⟩, hs⟩ := silent
  have hx' := (Table.find?_eq_none_iff _ _).mpr hx
  simp only [readLevels, hx', hp, hq, hs]
  rfl

theorem dispatch_of_answers (knows : h.answers key f = true) (above : List (Ref .facade)) :
    h.dispatch key (f :: above) = h.levelAnswer key f := by
  simp [dispatch, List.findIdx_cons, knows]

/-- Where some class of a chain declares the key public, the first level that knows the key is not
kept from answering. -/
theorem allowed_of_any (guard : levels.any (h.declaresPublic key) = true) :
    (decide (levels.findIdx (h.answers key) = 0) ||
      levels.tail.any (h.declaresPublic key)) = true := by
  cases levels with
  | nil => simp at guard
  | cons f above =>
    cases hf : h.answers key f with
    | true => simp [List.findIdx_cons, hf]
    | false =>
      have hne : h.declaresPublic key f = false := by
        cases hd : h.declaresPublic key f with
        | false => rfl
        | true => simp [answers_of_declaresPublic hd] at hf
      have inherited : above.any (h.declaresPublic key) = true := by simpa [hne] using guard
      simp [inherited]

theorem dispatch_of_any (guard : levels.any (h.declaresPublic key) = true) :
    ∃ f ∈ levels, h.answers key f = true ∧ h.dispatch key levels = h.levelAnswer key f := by
  obtain ⟨g, hg, public_⟩ := List.any_eq_true.mp guard
  have found : levels.findIdx (h.answers key) < levels.length :=
    List.findIdx_lt_length_of_exists ⟨g, hg, answers_of_declaresPublic public_⟩
  refine ⟨_, List.getElem_mem found, List.findIdx_getElem, ?_⟩
  simp only [dispatch, List.getElem?_eq_getElem found, allowed_of_any guard, if_true]

theorem dispatch_of_not_answers (silent : h.answers key f = false)
    (above : List (Ref .facade)) :
    h.dispatch key (f :: above) =
      if above.any (h.declaresPublic key) then h.dispatch key above
      else .error (.noPublicMember key) := by
  have next : (f :: above).findIdx (h.answers key) = above.findIdx (h.answers key) + 1 := by
    simp [List.findIdx_cons, silent]
  simp only [dispatch, next, List.getElem?_cons_succ, List.tail_cons]
  cases guard : above.any (h.declaresPublic key) with
  | true => simp only [allowed_of_any guard, Bool.or_true, if_true]
  | false => cases above[above.findIdx (h.answers key)]? <;> simp

/-- The climb with its guards comes to the rule. -/
theorem readLevels_eq_dispatch (levels : List (Ref .facade)) :
    h.readLevels key levels = h.dispatch key levels := by
  induction levels with
  | nil => rfl
  | cons f above ih =>
    cases hf : h.answers key f with
    | true => rw [readLevels_of_answers hf, dispatch_of_answers hf]
    | false => rw [readLevels_of_not_answers hf, dispatch_of_not_answers hf, ih]

end Heap

/-- In every reachable world, reading a name on a facade follows the rule for its chain of facades
and changes nothing. Once some class of the chain declares the name public, which is what the climb
makes sure of before each hop, the read can fail only for want of access and never because there is
no such member. -/
theorem readFacade_eq_dispatch {σ : Type} {w : World σ} (reachable : w.Reachable)
    (f : Ref .facade) {key : String} (plain : isSpecial key = false) :
    Chain w.heap.parentFacade f (w.heap.facadeLayers f) ∧
    (OutsideOp.readFacade f key).run w =
      ((w.heap.dispatch key (w.heap.facadeLayers f)).map .member, w) ∧
    ((w.heap.facadeLayers f).any (w.heap.declaresPublic key) = true →
      ∀ e w', (OutsideOp.readFacade f key).run w = (.error e, w') → e.kind = .accessError) := by
  have run : (OutsideOp.readFacade f key).run w =
      ((w.heap.dispatch key (w.heap.facadeLayers f)).map .member, w) := by
    rw [OutsideOp.run_readFacade f plain, Heap.readPublic, Heap.readLevels_eq_dispatch]
  refine ⟨chain_ascend_index reachable.layered.olderFacades f, run, fun guard e w' failed => ?_⟩
  obtain ⟨g, -, knows, answer⟩ := Heap.dispatch_of_any guard
  rw [run, answer] at failed
  cases hg : w.heap.levelAnswer key g with
  | ok r => simp [hg, Except.map] at failed
  | error e' =>
    simp only [hg, Except.map, Prod.mk.injEq, Except.error.injEq] at failed
    rw [← failed.1, Heap.levelAnswer_kind knows hg]
    rfl

/-- The method of the root is found through two levels that do not know it, and is bound to the
state of the root. -/
theorem readFacade_threeLayers :
    Program.threeLayersWorld.Reachable ∧ isSpecial "greet" = false ∧
    (OutsideOp.readFacade ⟨2⟩ "greet").run Program.threeLayersWorld =
      (.ok (.member (.method (.function ⟨0⟩) ⟨0⟩)), Program.threeLayersWorld) := by
  have plain : isSpecial "greet" = false := by decide
  have reachable := Program.reachable_threeLayersWorld
  exact ⟨reachable, plain, (readFacade_eq_dispatch reachable ⟨2⟩ plain).2.1.trans rfl⟩

namespace Script

/-- Nothing about these levels has to be asked: their classes go by their own definitions, and no
key was stored beside the record of a facade. -/
def Untouched (w : World Workspace) (levels : List (Ref .facade)) : Prop :=
  ∀ f ∈ levels, (w.client.standInFor? (classEntry w.heap (w.heap.facadeClass f))).isSome = false ∧
    w.client.hasStrays (.facade f) = false

/-- A script that reads a name on such a facade goes by the rule. -/
theorem Machine.run_readPublic (m : Machine) {w : World Workspace} {f : Ref .facade}
    (untouched : Untouched w (w.heap.facadeLayers f)) (key : String)
    (next : Except Fault Value → Program Workspace Form) :
    (m.readPublic f key next).run w =
      match w.heap.dispatch key (w.heap.facadeLayers f) with
      | .ok r => (ofReading r next).run w
      | .error e => (m.refuse e next).run w := by
  have noStandIn : ((w.heap.facadeLayers f).map
      (fun g => classEntry w.heap (w.heap.facadeClass g))).any
        (fun e => (w.client.standInFor? e).isSome) = false := by
    rw [List.any_map, List.any_eq_false]
    exact fun g hg => by simpa using (untouched g hg).1
  have noStray : (w.heap.facadeLayers f).any (fun g => w.client.hasStrays (.facade g)) = false := by
    rw [List.any_eq_false]
    exact fun g hg => by simp [(untouched g hg).2]
  have asked : (m.readPublic f key next).run w =
      ((if ((w.heap.facadeLayers f).map (fun g => classEntry w.heap (w.heap.facadeClass g))).any
            (fun e => (w.client.standInFor? e).isSome) ||
          (w.heap.facadeLayers f).any (fun g => w.client.hasStrays (.facade g)) then
        m.readPublicByAsking f key
      else do ofReading (← m.settled (← seeing (fun h => h.readPublic f key)))) next).run w := rfl
  rw [asked, noStandIn, noStray]
  change ((m.settled (w.heap.readPublic f key) >>= ofReading) next).run w = _
  rw [Heap.readPublic, Heap.readLevels_eq_dispatch]
  cases w.heap.dispatch key (w.heap.facadeLayers f) <;> rfl

end Script

end ObjectModel
