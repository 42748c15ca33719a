import Labeling.Proofs.Annotating.Identity
import Labeling.Proofs.Annotating.MadeUpIds
import Labeling.Store

/-!
# Consistent stores

The annotations of a store are in the lists of their kinds, no two of them have the same id, and the
selected id is that of one of them (`Consistent`). A new annotation gets an id that none has had
before, since the supply of ids makes up none twice; an operation on an annotation leaves its id and
its kind; a deleted annotation is no longer selected. So every operation keeps a store consistent
(`Consistent.perform`).
-/
namespace Labeling.Store

variable {store : Store} {id : String} {state next : AnnotationState}

/-! ## Ids -/

/-- The ids of the annotations, in the order of the lists. -/
def ids (store : Store) : List String := store.all.map (·.id)

/-- An annotation is found under an id that one of them has, and under no other one. -/
theorem get?_eq_none_iff : store.get? id = none ↔ id ∉ store.ids := by
  simp [get?, ids]

/-- An annotation is found under its own id. -/
theorem id_of_get? (found : store.get? id = some state) : state.id = id := by
  simpa using List.find?_some found

/-- The id of an annotation that is found is one of the ids. -/
theorem mem_ids_of_get? (found : store.get? id = some state) : id ∈ store.ids := by
  rw [← id_of_get? found]
  exact List.mem_map_of_mem (List.mem_of_find?_eq_some found)

/-! ## Lists by kind -/

/-- The annotations of a kind. -/
def ofKind (store : Store) : AnnotationKind → List AnnotationState
  | .manual => store.manual
  | .prediction => store.predictions
  | .history => store.history

/-- The store with other annotations of a kind. -/
def setKind (store : Store) (states : List AnnotationState) : AnnotationKind → Store
  | .manual => { store with manual := states }
  | .prediction => { store with predictions := states }
  | .history => { store with history := states }

/-- Other annotations of a kind leave how many there have been. -/
@[simp]
theorem created_setKind (store : Store) (states : List AnnotationState) (kind : AnnotationKind) :
    (store.setKind states kind).created = store.created := by
  cases kind <;> rfl

/-- Other annotations of a kind leave the supply of ids. -/
@[simp]
theorem supply_setKind (store : Store) (states : List AnnotationState) (kind : AnnotationKind) :
    (store.setKind states kind).supply = store.supply := by
  cases kind <;> rfl

/-- Other annotations of a kind leave the selected id. -/
@[simp]
theorem selected_setKind (store : Store) (states : List AnnotationState) (kind : AnnotationKind) :
    (store.setKind states kind).selected = store.selected := by
  cases kind <;> rfl

/-- The other annotations of a kind are of that kind, and the ones of other kinds stay. -/
theorem mem_ofKind_setKind {kind other : AnnotationKind} {states : List AnnotationState}
    (member : state ∈ (store.setKind states kind).ofKind other) :
    state ∈ states ∧ other = kind ∨ state ∈ store.ofKind other := by
  cases kind <;> cases other <;> first | exact Or.inl ⟨member, rfl⟩ | exact Or.inr member

/-- Every list of annotations is a part of all of them. -/
theorem ofKind_sublist (store : Store) (kind : AnnotationKind) :
    (store.ofKind kind).Sublist store.all := by
  cases kind with
  | manual => exact (List.sublist_append_left _ _).trans (List.sublist_append_left _ _)
  | prediction => exact (List.sublist_append_right _ _).trans (List.sublist_append_left _ _)
  | history => exact List.sublist_append_right _ _

/-- Annotations with the same ids in the place of those of a kind leave the ids. -/
theorem ids_setKind {kind : AnnotationKind} {states : List AnnotationState}
    (same : states.map (·.id) = (store.ofKind kind).map (·.id)) :
    (store.setKind states kind).ids = store.ids := by
  cases kind <;> simp_all [ids, all, setKind, ofKind]

/-- What is put behind the annotations of a kind is one more annotation. -/
theorem all_setKind_append (store : Store) (state : AnnotationState) (kind : AnnotationKind) :
    (store.setKind (store.ofKind kind ++ [state]) kind).all.Perm (state :: store.all) := by
  cases kind with
  | manual =>
    simp only [all, setKind, ofKind, List.append_assoc, List.singleton_append]
    exact List.perm_middle
  | prediction =>
    simp only [all, setKind, ofKind, List.append_assoc, List.singleton_append]
    rw [← List.append_assoc, ← List.append_assoc]
    exact List.perm_middle
  | history =>
    simp only [all, setKind, ofKind]
    rw [← List.append_assoc]
    exact List.perm_append_singleton state _

/-- The store without the selection of an id. -/
def unselected (store : Store) (id : String) : Store :=
  { store with selected := if store.selected = some id then none else store.selected }

/-- The selection is let go if it is that of the id. -/
theorem unselected_eq (store : Store) (id : String) :
    (if store.selected = some id then { store with selected := none } else store) =
      store.unselected id := by
  rw [unselected]
  split
  · rfl
  · rfl

/-- The annotation of an id in the first list that has one, with the kind of the list. -/
def holder? (store : Store) (id : String) : Option (AnnotationKind × AnnotationState) :=
  [.manual, .prediction, .history].findSome? fun kind =>
    ((store.ofKind kind).find? (·.id == id)).map (kind, ·)

/-- An annotation is found in the first list that has its id. -/
theorem get?_eq_holder? (store : Store) (id : String) :
    store.get? id = (store.holder? id).map Prod.snd := by
  rw [get?, all, List.find?_append, List.find?_append, holder?]
  simp only [List.findSome?_cons, ofKind]
  cases store.manual.find? (·.id == id) with
  | some state => rfl
  | none =>
    cases store.predictions.find? (·.id == id) with
    | some state => rfl
    | none =>
      cases store.history.find? (·.id == id) with
      | some state => rfl
      | none => rfl

/-- An annotation is deleted from the first list that has its id. -/
theorem delete_eq_holder? (store : Store) (id : String) : store.delete id =
    match store.holder? id with
    | some (kind, state) =>
      .ok ((store.unselected id).setKind (without id (store.ofKind kind)) kind, state)
    | none => .error (.unknownAnnotationId id) := by
  simp only [delete, unselected_eq, unselected, holder?, List.findSome?_cons, ofKind]
  cases store.manual.find? (·.id == id) with
  | some state => rfl
  | none =>
    cases store.predictions.find? (·.id == id) with
    | some state => rfl
    | none =>
      cases store.history.find? (·.id == id) with
      | some state => rfl
      | none => rfl

/-- Without an annotation of the id nothing is deleted. -/
theorem delete_of_get?_eq_none (missing : store.get? id = none) :
    store.delete id = .error (.unknownAnnotationId id) := by
  rw [get?_eq_holder?, Option.map_eq_none_iff] at missing
  rw [delete_eq_holder?, missing]

/-- An annotation is replaced in the first list that has its id. -/
theorem replace_of_holder? {kind : AnnotationKind} (found : store.holder? id = some (kind, state))
    (next : AnnotationState) :
    store.replace id next = store.setKind (replaceIn id next (store.ofKind kind)) kind := by
  have any (states : List AnnotationState) :
      states.any (·.id == id) = (states.find? (·.id == id)).isSome := by
    rw [Bool.eq_iff_iff, List.any_eq_true, List.find?_isSome]
  simp only [holder?, List.findSome?_cons, ofKind] at found
  rw [replace, any, any]
  cases manual : store.manual.find? (·.id == id) with
  | some made =>
    obtain ⟨rfl, -⟩ : AnnotationKind.manual = kind ∧ made = state := by simpa [manual] using found
    rfl
  | none =>
    cases prediction : store.predictions.find? (·.id == id) with
    | some made =>
      obtain ⟨rfl, -⟩ : AnnotationKind.prediction = kind ∧ made = state := by
        simpa [manual, prediction] using found
      rfl
    | none =>
      cases history : store.history.find? (·.id == id) with
      | some made =>
        obtain ⟨rfl, -⟩ : AnnotationKind.history = kind ∧ made = state := by
          simpa [manual, prediction, history] using found
        rfl
      | none => simp [manual, prediction, history] at found

/-- An annotation that is found is in the list of some kind. -/
theorem exists_holder? (found : store.get? id = some state) : ∃ kind,
    store.holder? id = some (kind, state) ∧ state ∈ store.ofKind kind := by
  rw [get?_eq_holder?, Option.map_eq_some_iff] at found
  obtain ⟨⟨kind, made⟩, held, rfl⟩ := found
  obtain ⟨other, -, inside⟩ := List.exists_of_findSome?_eq_some held
  obtain ⟨same, first, pair⟩ := Option.map_eq_some_iff.mp inside
  cases pair
  exact ⟨kind, held, List.mem_of_find?_eq_some first⟩

/-- An annotation is added at the end of the list of its kind. -/
theorem append_eq (store : Store) (state : AnnotationState) : (store.append state).1 =
    { store with session := state.session }.setKind
      (store.ofKind state.kind ++ [{ state with session := {} }]) state.kind := by
  cases kind : state.kind <;> simp only [append, kind, setKind, ofKind]

/-- A replacement with the same id leaves the ids. -/
theorem ids_replaceIn (same : next.id = id) (states : List AnnotationState) :
    (replaceIn id next states).map (·.id) = states.map (·.id) := by
  induction states with
  | nil => rfl
  | cons state rest hypothesis =>
    rw [replaceIn]
    split
    · rename_i own
      rw [List.map_cons, List.map_cons, same, own]
    · rw [List.map_cons, hypothesis, List.map_cons]

/-- What is in a list with a replacement was there before, or is the replacement. -/
theorem mem_replaceIn {states : List AnnotationState} {other : AnnotationState}
    (member : other ∈ replaceIn id next states) : other = next ∨ other ∈ states := by
  induction states with
  | nil => exact nomatch member
  | cons state rest hypothesis =>
    rw [replaceIn] at member
    split at member
    · exact (List.mem_cons.mp member).imp_right (List.mem_cons_of_mem state)
    · rcases List.mem_cons.mp member with rfl | later
      · exact Or.inr List.mem_cons_self
      · exact (hypothesis later).imp_right (List.mem_cons_of_mem state)

/-- Where the ids differ, all annotations but that of an id are left. -/
theorem without_eq_filter {states : List AnnotationState} (distinct : (states.map (·.id)).Nodup) :
    without id states = states.filter (·.id != id) := by
  induction states with
  | nil => rfl
  | cons state rest hypothesis =>
    obtain ⟨apart, distinct⟩ := List.nodup_cons.mp distinct
    rw [without, List.eraseP_cons, ← without, hypothesis distinct, List.filter_cons]
    cases own : state.id == id with
    | true =>
      have others : ∀ other ∈ rest, (other.id != id) = true := by
        rintro other member
        rw [bne_iff_ne, ← beq_iff_eq.mp own]
        exact fun same => apart (List.mem_map.mpr ⟨other, member, same⟩)
      rw [cond_true, bne, own, Bool.not_true, if_neg Bool.false_ne_true,
        List.filter_eq_self.mpr others]
    | false => rw [cond_false, bne, own, Bool.not_false, if_pos rfl]

/-- An operation on an annotation replaces it by one that is still the same, in the list where it
was. -/
theorem on_eq (found : store.get? id = some state) (operation : Operation) :
    ∃ kind session next, state.Remains next ∧ state ∈ store.ofKind kind ∧
      (store.on id operation).1 =
        { store with session := session }.setKind (replaceIn id next (store.ofKind kind)) kind := by
  let performed := { state with session := store.session }.perform operation
  have begun : state.Remains { state with session := store.session } := ⟨rfl, rfl⟩
  have remains : state.Remains performed.1 :=
    begun.trans (AnnotationState.remains_perform _ operation)
  let told : Store := { store with session := performed.1.session }
  have there : told.get? id = some state := found
  obtain ⟨kind, held, inside⟩ := exists_holder? there
  refine ⟨kind, performed.1.session, { performed.1 with session := {} },
    ⟨remains.id, remains.kind⟩, inside, ?_⟩
  rw [on, found]
  exact replace_of_holder? held _

/-- An operation on an annotation leaves the ids, how many there have been, their supply, and the
selected one. -/
theorem on_keeps (store : Store) (id : String) (operation : Operation) :
    (store.on id operation).1.ids = store.ids ∧
      (store.on id operation).1.created = store.created ∧
      (store.on id operation).1.supply = store.supply ∧
      (store.on id operation).1.selected = store.selected := by
  cases found : store.get? id with
  | none =>
    rw [on, found]
    exact ⟨rfl, rfl, rfl, rfl⟩
  | some state =>
    obtain ⟨kind, session, next, remains, -, made⟩ := on_eq found operation
    have own : next.id = id := remains.id.trans (id_of_get? found)
    rw [made]
    exact ⟨ids_setKind (ids_replaceIn own _), created_setKind _ _ _, supply_setKind _ _ _,
      selected_setKind _ _ _⟩

/-- The store without the annotation of an id, which is no longer selected. -/
def removed (store : Store) (id : String) : Store :=
  { store.unselected id with
    manual := store.manual.filter (·.id != id)
    predictions := store.predictions.filter (·.id != id)
    history := store.history.filter (·.id != id) }

/-- All annotations but that of the id are left. -/
theorem all_removed (store : Store) (id : String) :
    (store.removed id).all = store.all.filter (·.id != id) := by
  simp only [all, removed, List.filter_append]

/-- All ids but that one are left. -/
theorem ids_removed (store : Store) (id : String) :
    (store.removed id).ids = store.ids.filter (· != id) := by
  rw [ids, all_removed, ids, List.filter_map]
  rfl

/-- Nothing is found under the id of a removed annotation, and under every other one what was. -/
theorem get?_removed (store : Store) (id other : String) :
    (store.removed id).get? other = if other = id then none else store.get? other := by
  rw [get?, all_removed, List.find?_filter]
  split
  · rename_i same
    subst same
    refine List.find?_eq_none.mpr fun state _ => ?_
    simp
  · rename_i different
    refine congrArg (fun test => store.all.find? test) (funext fun state => ?_)
    cases own : state.id == other with
    | false => simp
    | true =>
      rw [beq_iff_eq.mp own]
      simp [different]

/-- The store with the areas of the selected annotation no longer selected. -/
def deselected (store : Store) : Store :=
  match store.selected with
  | some previous => (store.on previous .unselectAll).1
  | none => store

/-- An annotation that is found is selected in the place of the one before. -/
theorem select_of_get? (found : store.get? id = some state) : store.select id =
    .ok { store.deselected with
      selected := some id
      session := store.deselected.session.fire (.annotationSelected id) } := by
  rw [select, found]
  rfl

/-- Without an annotation of the id nothing is selected. -/
theorem select_of_get?_eq_none (missing : store.get? id = none) :
    store.select id = .error (.unknownAnnotationId id) := by
  rw [select, missing]

/-! ## Consistency -/

/-- What holds of a store between operations. -/
structure Consistent (store : Store) : Prop where
  /-- No two annotations have the same id. -/
  distinct : store.ids.Nodup
  /-- Every annotation is in the list of its kind. -/
  kinds : ∀ kind, ∀ state ∈ store.ofKind kind, state.kind = kind
  /-- The ids have been made here, none of them after the last one. -/
  made : ∀ id ∈ store.ids, ∃ place ≤ store.created, id = store.supply.name place
  /-- The selected id is that of an annotation. -/
  selected : ∀ id, store.selected = some id → id ∈ store.ids

/-- A store without annotations is consistent. -/
theorem consistent_start (tree : ElementTree) (settings : Settings) (session : Session)
    (supply : Session.Supply) :
    Consistent { tree := tree, settings := settings, session := session, supply := supply } where
  distinct := List.nodup_nil
  kinds kind state member := by cases kind <;> exact nomatch member
  made id member := nomatch member
  selected id chosen := nomatch chosen

namespace Consistent

/-- The next id has not been made before. -/
theorem name_not_mem (consistent : store.Consistent) :
    store.supply.name (store.created + 1) ∉ store.ids := by
  intro member
  obtain ⟨place, before, same⟩ := consistent.made _ member
  have next := store.supply.injective same
  omega

/-- A store stays consistent as an annotation with the next id is added. -/
theorem append (consistent : store.Consistent)
    (fresh : state.id = store.supply.name (store.created + 1)) :
    ({ store with created := store.created + 1 }.append state).1.Consistent := by
  let stored : AnnotationState := { state with session := {} }
  let begun : Store := { store with created := store.created + 1, session := state.session }
  rw [append_eq]
  show (begun.setKind (begun.ofKind state.kind ++ [stored]) state.kind).Consistent
  have ids : (begun.setKind (begun.ofKind state.kind ++ [stored]) state.kind).ids.Perm
      (store.supply.name (store.created + 1) :: store.ids) := by
    have all := (all_setKind_append begun stored state.kind).map AnnotationState.id
    rwa [List.map_cons, show stored.id = store.supply.name (store.created + 1) from fresh] at all
  refine ⟨ids.nodup_iff.mpr (List.nodup_cons.mpr ⟨consistent.name_not_mem, consistent.distinct⟩),
    fun kind other member => ?_, fun id member => ?_, fun id chosen => ?_⟩
  · rcases mem_ofKind_setKind member with ⟨changed, rfl⟩ | stays
    · rcases List.mem_append.mp changed with former | new
      · exact consistent.kinds _ other former
      · rw [List.mem_singleton.mp new]
    · exact consistent.kinds kind other stays
  · rw [created_setKind, supply_setKind]
    rcases List.mem_cons.mp (ids.mem_iff.mp member) with rfl | member
    · exact ⟨_, Nat.le_refl _, rfl⟩
    · obtain ⟨place, before, same⟩ := consistent.made id member
      exact ⟨place, Nat.le_succ_of_le before, same⟩
  · rw [selected_setKind] at chosen
    exact ids.mem_iff.mpr (List.mem_cons_of_mem _ (consistent.selected id chosen))

/-- A store stays consistent as annotations are changed that remain the same, and as one of them is
selected. -/
theorem of_ids (consistent : store.Consistent) {last : Store} (ids : last.ids = store.ids)
    (created : last.created = store.created) (supply : last.supply = store.supply)
    (selected : ∀ id, last.selected = some id → id ∈ store.ids)
    (kinds : ∀ kind, ∀ state ∈ last.ofKind kind, state.kind = kind) : last.Consistent where
  distinct := ids ▸ consistent.distinct
  kinds := kinds
  made := by
    rw [ids, created, supply]
    exact consistent.made
  selected id chosen := ids ▸ selected id chosen

/-- A store stays consistent in an operation on one of its annotations. -/
theorem on (consistent : store.Consistent) (id : String) (operation : Operation) :
    (store.on id operation).1.Consistent := by
  cases found : store.get? id with
  | none =>
    rw [Store.on, found]
    exact consistent
  | some state =>
    obtain ⟨kind, session, next, remains, inside, made⟩ := on_eq found operation
    have replaced (other : AnnotationKind) : ∀ state ∈ ({ store with session := session }.setKind
        (replaceIn id next (store.ofKind kind)) kind).ofKind other, state.kind = other := by
      intro annotation member
      rcases mem_ofKind_setKind member with ⟨changed, rfl⟩ | stays
      · rcases mem_replaceIn changed with rfl | former
        · exact remains.kind.trans (consistent.kinds other state inside)
        · exact consistent.kinds other annotation former
      · exact consistent.kinds other annotation stays
    obtain ⟨ids, created, supply, selected⟩ := on_keeps store id operation
    exact consistent.of_ids ids created supply (selected ▸ consistent.selected) (made ▸ replaced)

/-- Two annotations with the same id are the same one. -/
theorem eq_of_id (consistent : store.Consistent) {kind other : AnnotationKind}
    (first : state ∈ store.ofKind kind) (second : next ∈ store.ofKind other)
    (same : state.id = next.id) : state = next :=
  List.inj_on_of_nodup_map consistent.distinct ((ofKind_sublist store kind).subset first)
    ((ofKind_sublist store other).subset second) same

/-- Deleting takes out the annotation of the id, and no other one. -/
theorem delete_eq (consistent : store.Consistent) (found : store.get? id = some state) :
    store.delete id = .ok (store.removed id, state) := by
  obtain ⟨kind, held, inside⟩ := exists_holder? found
  have own := id_of_get? found
  have taken : without id (store.ofKind kind) = (store.ofKind kind).filter (·.id != id) :=
    without_eq_filter (consistent.distinct.sublist ((ofKind_sublist store kind).map _))
  -- An annotation of the id in another list would be the same one, and so of two kinds.
  have left (other : AnnotationKind) (apart : other ≠ kind) :
      (store.ofKind other).filter (·.id != id) = store.ofKind other := by
    refine List.filter_eq_self.mpr fun annotation member => bne_iff_ne.mpr fun same => apart ?_
    rw [← consistent.kinds other annotation member, ← consistent.kinds kind state inside,
      consistent.eq_of_id member inside (same.trans own.symm)]
  rw [delete_eq_holder?, held]
  dsimp only
  rw [taken, removed]
  cases kind with
  | manual =>
    have predictions := left .prediction nofun
    have history := left .history nofun
    simp only [ofKind] at predictions history
    rw [predictions, history]
    rfl
  | prediction =>
    have manual := left .manual nofun
    have history := left .history nofun
    simp only [ofKind] at manual history
    rw [manual, history]
    rfl
  | history =>
    have manual := left .manual nofun
    have predictions := left .prediction nofun
    simp only [ofKind] at manual predictions
    rw [manual, predictions]
    rfl

/-- An id without an annotation is not selected. -/
theorem unselected_eq_self (consistent : store.Consistent) (missing : store.get? id = none) :
    store.unselected id = store := by
  have other : store.selected ≠ some id := fun chosen =>
    get?_eq_none_iff.mp missing (consistent.selected id chosen)
  rw [unselected, if_neg other]

/-- A store stays consistent as an annotation is deleted. -/
theorem removed (consistent : store.Consistent) (id : String) :
    (store.removed id).Consistent where
  distinct := ids_removed store id ▸ consistent.distinct.filter _
  kinds kind state member := by
    cases kind <;> exact consistent.kinds _ state (List.mem_filter.mp member).1
  made other member := by
    rw [ids_removed] at member
    exact consistent.made other (List.mem_filter.mp member).1
  selected other chosen := by
    have kept : (if store.selected = some id then none else store.selected) = some other := chosen
    split at kept
    · contradiction
    · rename_i unlike
      rw [ids_removed]
      refine List.mem_filter.mpr ⟨consistent.selected other kept, bne_iff_ne.mpr ?_⟩
      rintro rfl
      exact unlike kept

/-- A store stays consistent as the areas of the selected annotation are no longer selected, and its
ids stay. -/
theorem deselected (consistent : store.Consistent) :
    store.deselected.Consistent ∧ store.deselected.ids = store.ids := by
  rw [Store.deselected]
  split
  · exact ⟨consistent.on _ _, (on_keeps store _ _).1⟩
  · exact ⟨consistent, rfl⟩

/-- A store stays consistent as a new annotation of it is loaded and added. -/
theorem appendLoaded (consistent : store.Consistent) {kind : AnnotationKind} {key : Option String}
    {loaded : AnnotationState}
    (remains : AnnotationState.Remains { (store.fresh kind).2 with key := key } loaded) :
    ((store.fresh kind).1.append loaded.resetHistory).1.Consistent := by
  have same : loaded.resetHistory.id = store.supply.name (store.created + 1) := remains.id
  exact consistent.append same

/-- Every operation keeps a store consistent. -/
theorem perform (consistent : store.Consistent) (operation : StoreOperation) :
    (store.perform operation).1.Consistent := by
  cases operation with
  | create =>
    have same : (store.fresh .manual).2.id = store.supply.name (store.created + 1) := rfl
    exact consistent.append same
  | add kind payload key =>
    exact consistent.appendLoaded
      (AnnotationState.remains_load { (store.fresh kind).2 with key := key } payload {})
  | fromPrediction id =>
    rw [Store.perform, fromPrediction]
    cases store.predictions.find? (·.id == id) with
    | none => exact consistent
    | some source =>
      exact consistent.appendLoaded
        (AnnotationState.remains_loadItems (store.fresh .manual).2 source.items {})
  | delete id =>
    rw [Store.perform]
    cases found : store.get? id with
    | none =>
      rw [delete_of_get?_eq_none found]
      exact consistent
    | some state =>
      rw [consistent.delete_eq found]
      exact consistent.removed id
  | select id =>
    rw [Store.perform]
    cases found : store.get? id with
    | none =>
      rw [select_of_get?_eq_none found]
      exact consistent
    | some state =>
      rw [select_of_get? found]
      obtain ⟨settled, ids⟩ := consistent.deselected
      refine settled.of_ids rfl rfl rfl ?_ settled.kinds
      rintro other ⟨⟩
      exact ids ▸ mem_ids_of_get? found
  | on id operation => exact consistent.on id operation

end Consistent

/-- A store stays consistent in any run. -/
theorem Consistent.run (consistent : store.Consistent) (operations : List StoreOperation) :
    (store.run operations).Consistent := by
  induction operations generalizing store with
  | nil => exact consistent
  | cons operation rest hypothesis => exact hypothesis (consistent.perform operation)

end Labeling.Store
