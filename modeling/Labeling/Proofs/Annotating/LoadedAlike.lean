import Labeling.Proofs.Annotating.FailedLoads
import Labeling.Proofs.Annotating.MadeUpIds
import Labeling.Proofs.Annotating.Written

/-!
# Loading one payload into two annotations

Two empty annotations of one configuration load one payload alike: they write the same items
afterwards, but for the ids that the loads made up. The first id that one load makes up stands for
the first one of the other, and so on (`Session.renamed`). The two loads go in
lockstep, item by item (`Lockstep.applyResult`), as long as the payload names no id that is made up
(`IsEmpty.writtenAlike_load`).
-/
namespace Labeling

/-! ## Ids that items name -/

namespace WireItem

/-- Whether an item is one of an id, or a relation that ends there. -/
def names (raw : String) : WireItem → Bool
  | .result item => item.id = some raw
  | .relation item => item.fromId = raw || item.toId = raw

/-- The item with another name for each id. -/
def renamed (rename : String → String) : WireItem → WireItem
  | .result item => .result { item with id := item.id.map rename }
  | .relation item =>
    .relation { item with fromId := rename item.fromId, toId := rename item.toId }

end WireItem

/-- Whether some item of a payload names an id. -/
def Payload.names (payload : Json) (raw : String) : Bool :=
  match Payload.items payload with
  | .ok items => items.any (·.names raw)
  | .error _ => false

namespace Repair

variable {tree : ElementTree}

/-- Repaired items name no further ids. -/
theorem names_of_mem_items {items : List WireItem} {kept : WireItem}
    (member : kept ∈ Repair.items tree items) {raw : String} (named : kept.names raw = true) :
    ∃ item ∈ items, item.names raw = true := by
  obtain ⟨item, inside, repairs⟩ := List.mem_filterMap.mp member
  refine ⟨item, inside, ?_⟩
  cases item with
  | relation relation =>
    cases repairs
    exact named
  | result result =>
    obtain ⟨fixed, found, same⟩ := Option.map_eq_some_iff.mp repairs
    rw [← same, WireItem.names, decide_eq_true_eq, (keeps_of_result? found).id] at named
    exact decide_eq_true named

end Repair

/-! ## Renaming made-up ids -/

namespace Session

variable {source target session : Session} {count place made : Nat} {raw other : String}
variable {given : String → Prop}

/-- The ids that a session makes up next, in order. -/
def upcoming (session : Session) (place : Nat) : String :=
  session.supply.name (session.generated + place + 1)

/-- What a session makes up at different places is different. -/
theorem upcoming_injective {first second : Nat}
    (same : session.upcoming first = session.upcoming second) : first = second := by
  have places := session.supply.injective same
  omega

/-- A session that has made up some more ids of the same supply. -/
structure Ahead (source : Session) (made : Nat) (session : Session) : Prop where
  /-- The supply is the same. -/
  supply : session.supply = source.supply
  /-- So many more ids have been made up. -/
  generated : session.generated = source.generated + made

/-- A session that is ahead makes up the ids that follow. -/
theorem Ahead.upcoming_eq (ahead : source.Ahead made session) (place : Nat) :
    session.upcoming place = source.upcoming (made + place) := by
  rw [upcoming, upcoming, ahead.supply, ahead.generated, Nat.add_assoc source.generated]

/-- An id is one of the next ones that a session makes up. -/
def MakesUp (source : Session) (count : Nat) (raw : String) : Prop :=
  ∃ place < count, source.upcoming place = raw

/-- The id that stands for one of the next ids of a session among those of another one; any other id
stands for itself. -/
def renamed (source target : Session) (count : Nat) (raw : String) : String :=
  match (List.range count).find? fun place => source.upcoming place = raw with
  | some place => target.upcoming place
  | none => raw

/-- What stands for an id is up to the ids that come. -/
theorem renamed_congr {next last : Session} (first : source.Ahead 0 next)
    (second : target.Ahead 0 last) : renamed next last = renamed source target := by
  have sameSource : next.upcoming = source.upcoming :=
    funext fun place => by rw [first.upcoming_eq, Nat.zero_add]
  have sameTarget : last.upcoming = target.upcoming :=
    funext fun place => by rw [second.upcoming_eq, Nat.zero_add]
  funext count raw
  rw [renamed, renamed, sameSource, sameTarget]

/-- A made-up id stands for the one in its place. -/
theorem renamed_upcoming (source target : Session) (within : place < count) :
    renamed source target count (source.upcoming place) = target.upcoming place := by
  rw [renamed]
  split
  · rename_i other found
    have named := List.find?_some found
    rw [decide_eq_true_eq] at named
    rw [upcoming_injective named]
  · rename_i none
    have absent := List.find?_eq_none.mp none place (List.mem_range.mpr within)
    exact absurd (decide_eq_true rfl) absent

example : renamed {} { generated := 7 } 2 "~002" = "~009" := by decide +kernel

/-- An id that is not made up stands for itself. -/
theorem renamed_eq_self (target : Session) (not : ¬ MakesUp source count raw) :
    renamed source target count raw = raw := by
  rw [renamed]
  split
  · rename_i place found
    have named := List.find?_some found
    rw [decide_eq_true_eq] at named
    exact absurd ⟨place, List.mem_range.mp (List.mem_of_find?_eq_some found), named⟩ not
  · rfl

/-- No given id is made up by the one session or by the other. -/
structure Spares (given : String → Prop) (source target : Session) (count : Nat) : Prop where
  /-- None is made up by the one session. -/
  source : ∀ raw, given raw → ¬ MakesUp source count raw
  /-- None is made up by the other one. -/
  target : ∀ raw, given raw → ¬ MakesUp target count raw

/-- What is spared of given ids is spared of some of them. -/
theorem Spares.mono (spares : Spares given source target count) {some : String → Prop}
    (each : ∀ raw, some raw → given raw) : Spares some source target count where
  source raw isGiven := spares.source raw (each raw isGiven)
  target raw isGiven := spares.target raw (each raw isGiven)

/-- Given and made-up ids stand for different ones. -/
theorem Spares.renamed_injective (spares : Spares given source target count)
    (known : given raw ∨ MakesUp source count raw)
    (otherKnown : given other ∨ MakesUp source count other)
    (same : renamed source target count raw = renamed source target count other) :
    raw = other := by
  have differ {raw : String} {place : Nat} (isGiven : given raw) (within : place < count) :
      renamed source target count raw ≠
        renamed source target count (source.upcoming place) := by
    rw [renamed_eq_self target (spares.source raw isGiven), renamed_upcoming source target within]
    exact fun made => spares.target raw isGiven ⟨place, within, made.symm⟩
  rcases known with isGiven | ⟨place, within, made⟩
  · rcases otherKnown with otherGiven | ⟨place, within, made⟩
    · rwa [renamed_eq_self target (spares.source raw isGiven),
        renamed_eq_self target (spares.source other otherGiven)] at same
    · rw [← made] at same
      exact absurd same (differ isGiven within)
  · rcases otherKnown with otherGiven | ⟨otherPlace, otherWithin, otherMade⟩
    · rw [← made] at same
      exact absurd same.symm (differ otherGiven within)
    · rw [← made, ← otherMade, renamed_upcoming source target within,
        renamed_upcoming source target otherWithin] at same
      rw [← made, ← otherMade, upcoming_injective same]

end Session

namespace Area

/-- The area wherever it stands in the order of creation. -/
def unplaced (area : Area) : Area := { area with seq := 0 }

/-- The area under another name of its id, wherever it stands in the order of creation. -/
def renamed (rename : String → String) (area : Area) : Area :=
  { area with id := ⟨rename area.id.raw, area.id.owner⟩, seq := 0 }

end Area

namespace AnnotationState

variable {state next other last : AnnotationState} {item : WireResult} {control object : Element}
variable {options : LoadOptions} {failure : Failure}

/-! ## How many ids a load makes up -/

/-- Whether an item gives no id. -/
def isUnnamed (item : WireResult) : Bool := (item.id.filter (· != "")).isNone

/-- Adding an item makes up an id just if the item gives none. -/
theorem generated_applyResult (applied : applyResult options state item = .ok next) :
    next.session.generated = state.session.generated + (isUnnamed item).toNat := by
  obtain ⟨_, _, _, _, made⟩ := applyResult_eq_ok applied
  rw [made, itemId, isUnnamed]
  split
  · rename_i given
    rw [given]
    rfl
  · rename_i none
    rw [none]
    rfl

/-- Adding an item leaves the supply of ids as it is. -/
theorem supply_applyResult (applied : applyResult options state item = .ok next) :
    next.session.supply = state.session.supply := by
  obtain ⟨_, _, _, _, made⟩ := applyResult_eq_ok applied
  rw [made, itemId]
  split
  · rfl
  · rfl

/-- Adding an item goes ahead in the supply, if the item gives no id. -/
theorem ahead_applyResult (applied : applyResult options state item = .ok next)
    {source : Session} {made : Nat} (ahead : source.Ahead made state.session) :
    source.Ahead (made + (isUnnamed item).toNat) next.session where
  supply := (supply_applyResult applied).trans ahead.supply
  generated := by rw [generated_applyResult applied, ahead.generated, Nat.add_assoc]

/-- Adding items makes up ids in order. -/
theorem generated_applyResults (options : LoadOptions) (items : List WireResult)
    (state : AnnotationState) :
    state.session.generated ≤ (applyResults options state items).1.session.generated := by
  induction items generalizing state with
  | nil => exact Nat.le_refl _
  | cons item rest hypothesis =>
    rw [applyResults]
    split
    · rename_i next applied
      have step := generated_applyResult applied
      have rest := hypothesis next
      omega
    · exact Nat.le_refl _

/-- Whether an item can be added, and why not, is up to the configuration. -/
theorem applyResult_eq_error (tree : other.tree = state.tree)
    (failed : applyResult options state item = .error failure) :
    applyResult options other item = .error failure := by
  rw [applyResult] at failed ⊢
  rw [tree]
  cases objectFound : objectElement state.tree item.toName with
  | error fault =>
    rw [objectFound] at failed
    exact failed
  | ok object =>
    cases controlFound : itemControl state.tree item.fromName with
    | error fault =>
      rw [objectFound, controlFound] at failed
      exact failed
    | ok control =>
      rw [objectFound, controlFound] at failed
      change (if options.suggestions then _ else _) = _ at failed
      split at failed
      · contradiction
      · contradiction

/-- An item that can be added to one annotation can be added to any one of the configuration. -/
theorem exists_applyResult (tree : other.tree = state.tree)
    (applied : applyResult options state item = .ok next) :
    ∃ last, applyResult options other item = .ok last := by
  cases result : applyResult options other item with
  | ok last => exact ⟨last, rfl⟩
  | error failure =>
    rw [applyResult_eq_error tree.symm result] at applied
    contradiction

/-- Two annotations of one configuration make up equally many ids as they add the same items. -/
theorem generated_applyResults_add (options : LoadOptions) (items : List WireResult)
    (tree : other.tree = state.tree) :
    (applyResults options other items).1.session.generated + state.session.generated =
      (applyResults options state items).1.session.generated + other.session.generated := by
  induction items generalizing state other with
  | nil => exact Nat.add_comm _ _
  | cons item rest hypothesis =>
    rw [applyResults, applyResults]
    cases applied : applyResult options state item with
    | error failure =>
      rw [applyResult_eq_error tree applied]
      exact Nat.add_comm _ _
    | ok next =>
      obtain ⟨last, otherApplied⟩ := exists_applyResult tree applied
      rw [otherApplied]
      have sameTree : last.tree = next.tree :=
        (continues_applyResult otherApplied).tree.trans
          (tree.trans (continues_applyResult applied).tree.symm)
      have ended := hypothesis sameTree
      have step := generated_applyResult applied
      have otherStep := generated_applyResult otherApplied
      dsimp only
      omega

/-! ## Adding an item -/

/-- The areas with a further item of an id. -/
def goneOn (control object : Element) (item : WireResult) (id : AreaId) (area : Area) : Area :=
  if area.id = id then continuedArea control object item area else area

/-- A further item keeps the id of each area. -/
theorem id_goneOn (control object : Element) (item : WireResult) (id : AreaId) (area : Area) :
    (goneOn control object item id area).id = area.id := by
  rw [goneOn]
  split
  · rfl
  · rfl

/-- A further item does not ask where an area stands in the order of creation. -/
theorem unplaced_goneOn (control object : Element) (item : WireResult) (id : AreaId)
    (area : Area) : (goneOn control object item id area).unplaced =
      goneOn control object item id area.unplaced := by
  show Area.unplaced (if _ then _ else _) = if area.id = id then _ else _
  split
  · rfl
  · rfl

/-- A further item does not ask for the name of an id, as long as it is the same area that has the
id. -/
theorem renamed_goneOn (control object : Element) (item : WireResult) {rename : String → String}
    {id otherId : AreaId} {area : Area}
    (same : area.id = id ↔ (area.renamed rename).id = otherId) :
    (goneOn control object item id area).renamed rename =
      goneOn control object item otherId (area.renamed rename) := by
  rw [goneOn, goneOn, ← if_congr same rfl rfl]
  split
  · rfl
  · rfl

/-- An item goes on with the area of its id where it stands, or begins one at the end. -/
theorem bySeq_addItem (sound : state.Sound)
    (objectFound : state.tree.get? item.toName = some object ∧ object.isObject = true)
    (controlFound : state.tree.get? item.fromName = some control ∧ control.isControl = true)
    (raw : String) :
    (addItem state.areas control object item options ⟨raw, state.id⟩ state.nextSeq).bySeq =
      if state.areas.has ⟨raw, state.id⟩ then
        state.areas.bySeq.map (goneOn control object item ⟨raw, state.id⟩)
      else state.areas.bySeq ++
        [begunArea control object item options ⟨raw, state.id⟩ state.nextSeq] := by
  rw [addItem_eq]
  split
  · exact sound.areas.bySeq_update _ fun _ => rfl
  · rename_i absent
    have fits : (begunArea control object item options ⟨raw, state.id⟩ state.nextSeq).WellFormed
        state.tree state.id :=
      wellFormed_areaOfItem objectFound controlFound sound.named rfl
    exact sound.areas.bySeq_put fits (Bool.eq_false_iff.mpr absent) rfl

/-! ## Loading in lockstep -/

variable {given : String → Prop} {source target : Session} {count : Nat}

/-- Two annotations of one configuration with the same areas but for ids that they made up in two
sessions. -/
structure Lockstep (given : String → Prop) (source target : Session) (count : Nat)
    (state other : AnnotationState) : Prop where
  /-- The configuration is the same. -/
  tree : other.tree = state.tree
  /-- The id is the same. -/
  id : other.id = state.id
  /-- The one annotation is sound. -/
  sound : state.Sound
  /-- The other one is sound. -/
  otherSound : other.Sound
  /-- Equally many ids have been made up. -/
  ahead : ∃ made, source.Ahead made state.session ∧ target.Ahead made other.session
  /-- The areas are the same but for made-up ids. -/
  areas : other.areas.bySeq.map Area.unplaced =
    state.areas.bySeq.map (Area.renamed (Session.renamed source target count))
  /-- The ids of the areas are given or made up. -/
  known : ∀ area ∈ state.areas.bySeq,
    given area.id.raw ∨ Session.MakesUp source count area.id.raw

namespace Lockstep

/-- Renamed, the same area has an id. -/
theorem renamed_eq_iff (lockstep : Lockstep given source target count state other)
    (spares : Session.Spares given source target count) {area : Area}
    (member : area ∈ state.areas.bySeq) {raw : String}
    (known : given raw ∨ Session.MakesUp source count raw) :
    area.id = ⟨raw, state.id⟩ ↔ (area.renamed (Session.renamed source target count)).id =
      ⟨Session.renamed source target count raw, state.id⟩ := by
  constructor
  · intro named
    rw [Area.renamed, named]
  · intro named
    have sameRaw := spares.renamed_injective (lockstep.known area member) known
      (AreaId.mk.inj named).1
    exact AreaId.eq_of_raw_eq sameRaw (lockstep.sound.areas.each_bySeq member).owner

/-- An id is one of an area in both annotations or in neither. -/
theorem has_eq (lockstep : Lockstep given source target count state other)
    (spares : Session.Spares given source target count) {raw : String}
    (known : given raw ∨ Session.MakesUp source count raw) :
    other.areas.has ⟨Session.renamed source target count raw, state.id⟩ =
      state.areas.has ⟨raw, state.id⟩ := by
  rw [Bool.eq_iff_iff, lockstep.otherSound.areas.has_iff, lockstep.sound.areas.has_iff]
  constructor
  · rintro ⟨copy, member, named⟩
    have image : copy.unplaced ∈ other.areas.bySeq.map Area.unplaced := List.mem_map_of_mem member
    rw [lockstep.areas] at image
    obtain ⟨area, inside, same⟩ := List.mem_map.mp image
    exact ⟨area, inside, (lockstep.renamed_eq_iff spares inside known).mpr
      ((congrArg Area.id same).trans named)⟩
  · rintro ⟨area, inside, named⟩
    have image : area.renamed (Session.renamed source target count) ∈
        state.areas.bySeq.map (Area.renamed (Session.renamed source target count)) :=
      List.mem_map_of_mem inside
    rw [← lockstep.areas] at image
    obtain ⟨copy, member, same⟩ := List.mem_map.mp image
    exact ⟨copy, member, (congrArg Area.id same).trans
      ((lockstep.renamed_eq_iff spares inside known).mp named)⟩

/-- An item gets the same id in both annotations, if it is not made up. -/
theorem itemId (lockstep : Lockstep given source target count state other)
    (spares : Session.Spares given source target count)
    (isGiven : ∀ raw, item.id = some raw → given raw)
    (room : state.session.generated + (isUnnamed item).toNat ≤ source.generated + count) :
    (given (state.itemId item).2.raw ∨
        Session.MakesUp source count (state.itemId item).2.raw) ∧
      (other.itemId item).2.raw =
        Session.renamed source target count (state.itemId item).2.raw := by
  obtain ⟨made, ahead, otherAhead⟩ := lockstep.ahead
  rw [AnnotationState.itemId, AnnotationState.itemId]
  rw [isUnnamed, ahead.generated] at room
  cases named : item.id.filter (· != "") with
  | some raw =>
    have rawGiven := isGiven raw (Option.filter_eq_some_iff.mp named).1
    exact ⟨Or.inl rawGiven, (Session.renamed_eq_self target (spares.source raw rawGiven)).symm⟩
  | none =>
    rw [named] at room
    have within : made < count := by
      simp only [Option.isNone_none, Bool.toNat_true] at room
      omega
    have raw : state.madeUpId.2.raw = source.upcoming made := ahead.upcoming_eq 0
    have otherRaw : other.madeUpId.2.raw = target.upcoming made := otherAhead.upcoming_eq 0
    show (given state.madeUpId.2.raw ∨ Session.MakesUp source count state.madeUpId.2.raw) ∧
      other.madeUpId.2.raw = Session.renamed source target count state.madeUpId.2.raw
    rw [raw, otherRaw, Session.renamed_upcoming source target within]
    exact ⟨Or.inr ⟨made, within, rfl⟩, rfl⟩

/-- Adding an item keeps the areas the same but for made-up ids. -/
theorem addItem (lockstep : Lockstep given source target count state other)
    (spares : Session.Spares given source target count)
    (objectFound : state.tree.get? item.toName = some object ∧ object.isObject = true)
    (controlFound : state.tree.get? item.fromName = some control ∧ control.isControl = true)
    {raw : String} (known : given raw ∨ Session.MakesUp source count raw) :
    let rename := Session.renamed source target count
    let areas := AnnotationState.addItem state.areas control object item {} ⟨raw, state.id⟩
      state.nextSeq
    let otherAreas := AnnotationState.addItem other.areas control object item {}
      ⟨rename raw, other.id⟩ other.nextSeq
    otherAreas.bySeq.map Area.unplaced = areas.bySeq.map (Area.renamed rename) ∧
      ∀ area ∈ areas.bySeq, given area.id.raw ∨ Session.MakesUp source count area.id.raw := by
  intro rename areas otherAreas
  have added : areas.bySeq = _ := bySeq_addItem lockstep.sound objectFound controlFound raw
  rw [← lockstep.tree] at objectFound controlFound
  have otherAdded : otherAreas.bySeq = _ :=
    bySeq_addItem lockstep.otherSound objectFound controlFound (rename raw)
  rw [lockstep.id, lockstep.has_eq spares known] at otherAdded
  rw [added, otherAdded]
  split
  · refine ⟨?_, fun area member => ?_⟩
    · calc (other.areas.bySeq.map (goneOn control object item ⟨rename raw, state.id⟩)).map
            Area.unplaced
          = (other.areas.bySeq.map Area.unplaced).map
              (goneOn control object item ⟨rename raw, state.id⟩) := by
            rw [List.map_map, List.map_map]
            exact List.map_congr_left fun area _ => unplaced_goneOn control object item _ area
        _ = (state.areas.bySeq.map (goneOn control object item ⟨raw, state.id⟩)).map
              (Area.renamed rename) := by
            rw [lockstep.areas, List.map_map, List.map_map]
            refine List.map_congr_left fun area member => ?_
            exact (renamed_goneOn control object item
              (lockstep.renamed_eq_iff spares member known)).symm
    · obtain ⟨former, inside, same⟩ := List.mem_map.mp member
      rw [← same, id_goneOn]
      exact lockstep.known former inside
  · refine ⟨?_, fun area member => ?_⟩
    · rw [List.map_append, List.map_append, lockstep.areas]
      rfl
    · rcases List.mem_append.mp member with old | new
      · exact lockstep.known area old
      · rw [List.mem_singleton.mp new]
        exact known

/-- Two annotations in lockstep add an item together. -/
theorem applyResult (lockstep : Lockstep given source target count state other)
    (spares : Session.Spares given source target count)
    (isGiven : ∀ raw, item.id = some raw → given raw)
    (applied : applyResult {} state item = .ok next)
    (otherApplied : AnnotationState.applyResult {} other item = .ok last)
    (room : next.session.generated ≤ source.generated + count) :
    Lockstep given source target count next last := by
  have step := generated_applyResult applied
  have continues := continues_applyResult applied
  have otherContinues := continues_applyResult otherApplied
  obtain ⟨known, sameRaw⟩ := lockstep.itemId spares isGiven (step ▸ room)
  obtain ⟨object, control, objectFound, controlFound, made⟩ := applyResult_eq_ok applied
  obtain ⟨otherObject, otherControl, otherObjectFound, otherControlFound, otherMade⟩ :=
    applyResult_eq_ok otherApplied
  rw [lockstep.tree, objectFound.1, Option.some.injEq] at otherObjectFound
  rw [lockstep.tree, controlFound.1, Option.some.injEq] at otherControlFound
  have areas := congrArg AnnotationState.areas made
  have otherAreas := congrArg AnnotationState.areas otherMade
  have own : (state.itemId item).2 = ⟨(state.itemId item).2.raw, state.id⟩ :=
    AreaId.eq_of_raw_eq rfl (owner_itemId state item)
  have otherOwn : (other.itemId item).2 =
      ⟨Session.renamed source target count (state.itemId item).2.raw, other.id⟩ :=
    AreaId.eq_of_raw_eq sameRaw (owner_itemId other item)
  rw [own] at areas
  rw [otherOwn, ← otherObjectFound.1, ← otherControlFound.1] at otherAreas
  obtain ⟨same, nextKnown⟩ := lockstep.addItem spares objectFound controlFound known
  refine ⟨?_, ?_, (advances_applyResult applied lockstep.sound).1,
    (advances_applyResult otherApplied lockstep.otherSound).1, ?_, ?_, ?_⟩
  · rw [otherContinues.tree, lockstep.tree, continues.tree]
  · rw [otherContinues.id, lockstep.id, continues.id]
  · obtain ⟨made, ahead, otherAhead⟩ := lockstep.ahead
    exact ⟨_, ahead_applyResult applied ahead, ahead_applyResult otherApplied otherAhead⟩
  · rw [areas, otherAreas]
    exact same
  · rw [areas]
    exact nextKnown

/-- Two annotations in lockstep add items together, up to the first one that fails. -/
theorem applyResults {items : List WireResult}
    (lockstep : Lockstep given source target count state other)
    (spares : Session.Spares given source target count)
    (isGiven : ∀ item ∈ items, ∀ raw, item.id = some raw → given raw)
    (room : (applyResults {} state items).1.session.generated ≤ source.generated + count) :
    Lockstep given source target count (AnnotationState.applyResults {} state items).1
        (AnnotationState.applyResults {} other items).1 ∧
      (AnnotationState.applyResults {} other items).2 =
        (AnnotationState.applyResults {} state items).2 := by
  induction items generalizing state other with
  | nil => exact ⟨lockstep, rfl⟩
  | cons item rest hypothesis =>
    rw [AnnotationState.applyResults] at room
    rw [AnnotationState.applyResults, AnnotationState.applyResults]
    cases applied : AnnotationState.applyResult {} state item with
    | error failure =>
      rw [applyResult_eq_error lockstep.tree applied]
      exact ⟨lockstep, rfl⟩
    | ok next =>
      rw [applied] at room
      obtain ⟨last, otherApplied⟩ := exists_applyResult lockstep.tree applied
      rw [otherApplied]
      have before := generated_applyResults {} rest next
      have step := lockstep.applyResult spares (isGiven item List.mem_cons_self) applied
        otherApplied (Nat.le_trans before room)
      exact hypothesis step (fun other member => isGiven other (List.mem_cons_of_mem _ member))
        room

end Lockstep

/-! ## What is written -/

/-- The items of an area do not ask for its place, and name its id. -/
theorem areaItems_renamed (state : AnnotationState) (area : Area) (rename : String → String) :
    state.areaItems (area.renamed rename) = (state.areaItems area).map (·.renamed rename) := by
  rw [areaItems, areaItems, List.map_map]
  rfl

/-- Two annotations stay in lockstep whatever relations they have. -/
theorem Lockstep.withRelations (lockstep : Lockstep given source target count state other)
    (relations otherRelations : Relations) : Lockstep given source target count
      { state with relations := relations } { other with relations := otherRelations } where
  tree := lockstep.tree
  id := lockstep.id
  sound := ⟨lockstep.sound.named, lockstep.sound.areas, lockstep.sound.suggestions,
    lockstep.sound.selection⟩
  otherSound := ⟨lockstep.otherSound.named, lockstep.otherSound.areas,
    lockstep.otherSound.suggestions, lockstep.otherSound.selection⟩
  ahead := lockstep.ahead
  areas := lockstep.areas
  known := lockstep.known

/-- Annotations of one configuration write the same items of an area. -/
theorem areaItems_congr (tree : other.tree = state.tree)
    (settings : other.settings = state.settings) (area : Area) :
    other.areaItems area = state.areaItems area := by
  have keeps : other.keepsResult = state.keepsResult := by
    funext result
    rw [keepsResult, keepsResult, tree, settings]
  rw [areaItems, areaItems, keeps]

/-- Two annotations in lockstep write the same items but for made-up ids, if they have the same
relations and these end at given ids. -/
theorem Lockstep.items (lockstep : Lockstep given source target count state other)
    (spares : Session.Spares given source target count)
    (settings : other.settings = state.settings) (relations : other.relations = state.relations)
    (ends : ∀ relation ∈ state.relations, ∀ id ∈ [relation.first, relation.second],
      given id.raw ∧ id.owner = state.id) :
    other.items =
      state.items.map (WireItem.renamed (Session.renamed source target count)) := by
  have areas : other.areas.bySeq.flatMap other.areaItems =
      (state.areas.bySeq.flatMap state.areaItems).map
        (WireItem.renamed (Session.renamed source target count)) := by
    calc other.areas.bySeq.flatMap other.areaItems
        = (other.areas.bySeq.map Area.unplaced).flatMap state.areaItems := by
          rw [List.flatMap_map]
          exact congrArg (List.flatMap · _)
            (funext fun area => areaItems_congr lockstep.tree settings area)
      _ = (state.areas.bySeq.flatMap state.areaItems).map
            (WireItem.renamed (Session.renamed source target count)) := by
          rw [lockstep.areas, List.flatMap_map, List.map_flatMap]
          exact congrArg (List.flatMap · _) (funext fun area => areaItems_renamed state area _)
  have has {id : AreaId} (known : given id.raw ∧ id.owner = state.id) :
      other.areas.has id = state.areas.has id := by
    have same := lockstep.has_eq spares (Or.inl known.1)
    rwa [Session.renamed_eq_self target (spares.source _ known.1), ← known.2] at same
  have visible : other.visibleRelations = state.visibleRelations := by
    rw [visibleRelations, visibleRelations, Relations.visible, Relations.visible, relations]
    refine List.filter_congr fun relation member => ?_
    rw [Relation.isVisible, Relation.isVisible, has (ends relation member _ (by simp)),
      has (ends relation member _ (by simp))]
  have written : (state.visibleRelations.map fun relation => WireItem.relation relation.toWire).map
      (WireItem.renamed (Session.renamed source target count)) =
        state.visibleRelations.map fun relation => WireItem.relation relation.toWire := by
    rw [List.map_map]
    refine List.map_congr_left fun relation member => ?_
    have stored := List.mem_of_mem_filter member
    have stays {id : AreaId} (known : given id.raw ∧ id.owner = state.id) :
        Session.renamed source target count id.raw = id.raw :=
      Session.renamed_eq_self target (spares.source _ known.1)
    show WireItem.relation { relation.toWire with
      fromId := Session.renamed source target count relation.first.raw
      toId := Session.renamed source target count relation.second.raw } = _
    rw [stays (ends relation stored _ (by simp)), stays (ends relation stored _ (by simp))]
    rfl
  rw [AnnotationState.items, AnnotationState.items, areas, visible, List.map_append, written]

/-! ## Loading a payload -/

/-- Two annotations write the same items, but for as many ids that each of them has made up since
its session was in some state. -/
def WrittenAlike (source target : Session) (state other : AnnotationState) : Prop :=
  ∃ count, state.session.generated = source.generated + count ∧
    other.session.generated = target.generated + count ∧
    other.items = state.items.map (WireItem.renamed (Session.renamed source target count))

/-- The sessions may be later ones that have made up no further ids. -/
theorem WrittenAlike.of_ahead {nextSource nextTarget : Session}
    (alike : WrittenAlike nextSource nextTarget state other) (first : source.Ahead 0 nextSource)
    (second : target.Ahead 0 nextTarget) : WrittenAlike source target state other := by
  obtain ⟨count, generated, otherGenerated, items⟩ := alike
  refine ⟨count, generated.trans ?_, otherGenerated.trans ?_, ?_⟩
  · rw [first.generated, Nat.add_zero]
  · rw [second.generated, Nat.add_zero]
  · rw [← Session.renamed_congr first second]
    exact items

/-- A relation behind the addition of some was there before, or is the one of an item. -/
theorem exists_of_mem_addRelations {owner : String} {relations : Relations}
    {items : List WireRelation} {relation : Relation}
    (member : relation ∈ addRelations owner relations items) :
    relation ∈ relations ∨ ∃ item ∈ items, relation = .ofWire owner item := by
  induction items generalizing relations with
  | nil => exact Or.inl member
  | cons item rest hypothesis =>
    rcases hypothesis member with before | ⟨later, inside, same⟩
    · change relation ∈ (Relations.insert relations (.ofWire owner item)).1 at before
      rw [Relations.insert] at before
      split at before
      · rcases List.mem_append.mp before with old | new
        · exact Or.inl old
        · exact Or.inr ⟨item, List.mem_cons_self, List.mem_singleton.mp new⟩
      · exact Or.inl before
    · exact Or.inr ⟨later, List.mem_cons_of_mem _ inside, same⟩

/-- The end of a load makes up no ids. -/
theorem generated_finishLoad (result : AnnotationState × Option Failure) :
    (finishLoad result).1.session.generated = result.1.session.generated := by
  obtain ⟨changed, failure⟩ := result
  cases failure with
  | none => rfl
  | some failure => rfl

/-- The end of a load leaves what is written as it is. -/
theorem items_finishLoad (result : AnnotationState × Option Failure) :
    (finishLoad result).1.items = result.1.items := by
  obtain ⟨changed, failure⟩ := result
  cases failure with
  | none => rfl
  | some failure => rfl

/-- The relations behind the addition of items to an annotation that has none: where a result
fails, none is added. -/
def relationsOf (owner : String) (items : List WireItem) : Option Failure → Relations
  | none => addRelations owner [] (WireItem.relations items)
  | some _ => []

/-- The relations behind the addition of items are those of some of the items. -/
theorem exists_of_mem_relationsOf {owner : String} {items : List WireItem}
    {failure : Option Failure} {relation : Relation}
    (member : relation ∈ relationsOf owner items failure) :
    ∃ item, .relation item ∈ items ∧ relation = .ofWire owner item := by
  cases failure with
  | some failure => contradiction
  | none =>
    rcases exists_of_mem_addRelations member with none | ⟨item, inside, same⟩
    · contradiction
    · obtain ⟨kept, stored, isRelation⟩ := List.mem_filterMap.mp inside
      cases kept with
      | result result => contradiction
      | relation relation =>
        rw [Option.some.inj isRelation] at stored
        exact ⟨item, stored, same⟩

/-- Items added to an annotation without relations are written as their results and relations. -/
theorem items_applyItems (empty : state.relations = []) (items : List WireItem) :
    let repaired := Repair.items state.tree items
    let applied := applyResults {} state (WireItem.results repaired)
    (applyItems {} state items).1.items =
      { applied.1 with relations := relationsOf state.id repaired applied.2 }.items := by
  intro repaired applied
  have relations : applied.1.relations = [] := (applyResults_keeps {} _ state).1.trans empty
  have sameId : applied.1.id = state.id := (continues_applyResults {} _ state).id
  have ends : applyResults {} state (WireItem.results repaired) = applied := rfl
  rw [applyItems]
  dsimp only
  rw [ends]
  obtain ⟨last, _ | failure⟩ := applied
  · rw [relationsOf, ← relations, ← sameId]
    rfl
  · rw [relationsOf, ← relations]

/-- Adding items makes up the ids that their results make up. -/
theorem generated_applyItems (options : LoadOptions) (state : AnnotationState)
    (items : List WireItem) :
    (applyItems options state items).1.session.generated =
      (applyResults options state
        (WireItem.results (Repair.items state.tree items))).1.session.generated := by
  rw [applyItems]
  dsimp only
  split
  · rename_i applied
    rw [applied]
  · rename_i applied
    rw [applied]
    split
    · rfl
    · rfl

/-- A load makes up ids in order. -/
theorem generated_load (state : AnnotationState) (payload : Json) (options : LoadOptions) :
    state.session.generated ≤ (state.load payload options).1.session.generated := by
  rw [load]
  split
  · rename_i items _
    rw [loadItems, generated_finishLoad, generated_applyItems]
    exact generated_applyResults options _ state.frozen
  · rw [generated_finishLoad]
    exact Nat.le_refl _

/-- Two annotations of one configuration make up equally many ids as they load a payload. -/
theorem generated_load_add (tree : other.tree = state.tree) (payload : Json)
    (options : LoadOptions) :
    (other.load payload options).1.session.generated + state.session.generated =
      (state.load payload options).1.session.generated + other.session.generated := by
  rw [load, load]
  cases Payload.items payload with
  | error fault =>
    rw [generated_finishLoad, generated_finishLoad]
    exact Nat.add_comm _ _
  | ok items =>
    show (finishLoad _).1.session.generated + _ = (finishLoad _).1.session.generated + _
    rw [generated_finishLoad, generated_finishLoad, generated_applyItems, generated_applyItems]
    have frozen : other.frozen.tree = state.frozen.tree := tree
    have equallyMany := generated_applyResults_add options
      (WireItem.results (Repair.items state.frozen.tree items)) frozen
    rw [frozen]
    exact equallyMany

/-- The ids that an annotation makes up as it loads a payload are new to the payload. -/
def LoadsNew (state : AnnotationState) (payload : Json) : Prop :=
  ∀ place, state.session.generated < place →
    place ≤ (state.load payload {}).1.session.generated →
      Payload.names payload (state.session.supply.name place) = false

/-- A payload to which made-up ids are new names none of them. -/
theorem LoadsNew.spares {payload : Json} (new : state.LoadsNew payload)
    (generated : (state.load payload {}).1.session.generated = state.session.generated + count)
    (raw : String) (named : Payload.names payload raw = true) :
    ¬ state.session.MakesUp count raw := by
  rintro ⟨place, within, made⟩
  have absent := new (state.session.generated + place + 1) (by omega) (by omega)
  rw [Session.upcoming] at made
  rw [made] at absent
  exact Bool.false_ne_true (absent.symm.trans named)

/-- An annotation of a configuration without areas and relations. -/
structure IsEmpty (tree : ElementTree) (owner : String) (settings : Settings)
    (state : AnnotationState) : Prop where
  /-- The annotation is one of the configuration. -/
  tree : state.tree = tree
  /-- The annotation has the id. -/
  id : state.id = owner
  /-- The annotation has the settings. -/
  settings : state.settings = settings
  /-- The annotation is sound. -/
  sound : state.Sound
  /-- There are no areas. -/
  areas : state.areas = []
  /-- There are no relations. -/
  relations : state.relations = []

namespace IsEmpty

variable {tree : ElementTree} {owner : String} {settings : Settings}

/-- An empty annotation is empty during a batch. -/
theorem frozen (empty : IsEmpty tree owner settings state) :
    IsEmpty tree owner settings state.frozen where
  tree := empty.tree
  id := empty.id
  settings := empty.settings
  sound := ⟨empty.sound.named, empty.sound.areas, empty.sound.suggestions, empty.sound.selection⟩
  areas := empty.areas
  relations := empty.relations

/-- An empty annotation writes nothing. -/
theorem items_eq_nil (empty : IsEmpty tree owner settings state) : state.items = [] := by
  have none : Areas.bySeq [] = [] := List.mergeSort_nil
  rw [items, visibleRelations, empty.areas, empty.relations, none]
  rfl

/-- Two empty annotations are in lockstep. -/
theorem lockstep (empty : IsEmpty tree owner settings state)
    (otherEmpty : IsEmpty tree owner settings other) (given : String → Prop) (count : Nat) :
    Lockstep given state.session other.session count state other := by
  have none : Areas.bySeq [] = [] := List.mergeSort_nil
  refine ⟨otherEmpty.tree.trans empty.tree.symm, otherEmpty.id.trans empty.id.symm, empty.sound,
    otherEmpty.sound, ⟨0, ⟨rfl, rfl⟩, ⟨rfl, rfl⟩⟩, ?_, ?_⟩
  · rw [empty.areas, otherEmpty.areas, none]
    rfl
  · intro area member
    rw [empty.areas, none] at member
    contradiction

/-- Two empty annotations add the same items alike, if none of these names an id that is made up. -/
theorem items_applyItems (empty : IsEmpty tree owner settings state)
    (otherEmpty : IsEmpty tree owner settings other) {items : List WireItem} {count : Nat}
    (spares : Session.Spares (fun raw => ∃ item ∈ items, item.names raw = true)
      state.session other.session count)
    (generated : (applyItems {} state items).1.session.generated =
      state.session.generated + count) :
    (applyItems {} other items).1.items =
      (applyItems {} state items).1.items.map (WireItem.renamed
        (Session.renamed state.session other.session count)) := by
  let results := WireItem.results (Repair.items state.tree items)
  have isGiven (item : WireResult) (member : item ∈ results) (raw : String)
      (named : item.id = some raw) : ∃ item ∈ items, item.names raw = true := by
    obtain ⟨kept, inside, same⟩ := List.mem_filterMap.mp member
    refine Repair.names_of_mem_items inside ?_
    cases kept with
    | relation relation => contradiction
    | result result =>
      rw [Option.some.inj same]
      exact decide_eq_true named
  rw [generated_applyItems] at generated
  obtain ⟨ended, sameFailure⟩ := (empty.lockstep otherEmpty _ count).applyResults spares isGiven
    (Nat.le_of_eq generated)
  have sameSettings : (applyResults {} other results).1.settings =
      (applyResults {} state results).1.settings := by
    rw [(continues_applyResults {} results other).settings,
      (continues_applyResults {} results state).settings, empty.settings, otherEmpty.settings]
  rw [AnnotationState.items_applyItems empty.relations,
    AnnotationState.items_applyItems otherEmpty.relations, otherEmpty.tree, otherEmpty.id,
    ← empty.tree, ← empty.id, sameFailure]
  refine (ended.withRelations _ _).items spares sameSettings rfl ?_
  intro relation member id isEnd
  obtain ⟨item, inside, same⟩ := exists_of_mem_relationsOf member
  have sameId : (applyResults {} state results).1.id = state.id :=
    (continues_applyResults {} results state).id
  have owned : id.owner = state.id ∧ (WireItem.relation item).names id.raw = true := by
    rw [WireItem.names, Bool.or_eq_true, decide_eq_true_eq, decide_eq_true_eq]
    rw [same] at isEnd
    rcases List.mem_pair.mp isEnd with first | second
    · rw [first]
      exact ⟨rfl, Or.inl rfl⟩
    · rw [second]
      exact ⟨rfl, Or.inr rfl⟩
  exact ⟨Repair.names_of_mem_items inside owned.2, owned.1.trans sameId.symm⟩

/-- Two empty annotations load a payload alike, if it names no id that is made up. -/
theorem writtenAlike_load (empty : IsEmpty tree owner settings state)
    (otherEmpty : IsEmpty tree owner settings other) {payload : Json}
    (new : state.LoadsNew payload) (otherNew : other.LoadsNew payload) :
    WrittenAlike state.session other.session (state.load payload {}).1
      (other.load payload {}).1 := by
  have equallyMany :=
    generated_load_add (otherEmpty.tree.trans empty.tree.symm) payload {}
  obtain ⟨count, generated⟩ := Nat.exists_eq_add_of_le (generated_load state payload {})
  have otherGenerated : (other.load payload {}).1.session.generated =
      other.session.generated + count := by omega
  have spares : Session.Spares (fun raw => Payload.names payload raw = true)
      state.session other.session count :=
    ⟨new.spares generated, otherNew.spares otherGenerated⟩
  refine ⟨count, generated, otherGenerated, ?_⟩
  rw [load] at generated
  rw [load, load]
  cases read : Payload.items payload with
  | error fault =>
    dsimp only
    rw [items_finishLoad, items_finishLoad]
    dsimp only
    rw [empty.frozen.items_eq_nil, otherEmpty.frozen.items_eq_nil]
    rfl
  | ok items =>
    rw [read] at generated
    dsimp only at generated ⊢
    rw [loadItems, generated_finishLoad] at generated
    rw [loadItems, loadItems, items_finishLoad, items_finishLoad]
    refine empty.frozen.items_applyItems otherEmpty.frozen (spares.mono ?_) generated
    rintro raw ⟨item, member, named⟩
    rw [Payload.names, read]
    exact List.any_eq_true.mpr ⟨item, member, named⟩

end IsEmpty

end AnnotationState
end Labeling
