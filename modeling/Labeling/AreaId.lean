import Labeling.Text

/-!
# Ids of areas

An area is known inside its annotation by a raw id, and everywhere by the raw id together with the
id of the annotation. Ids are ordered by raw id and then by annotation.
-/
namespace Labeling

/-- The id of an area. -/
structure AreaId where
  /-- The id inside the annotation. -/
  raw : String
  /-- The id of the annotation. -/
  owner : String
deriving DecidableEq, Repr, Inhabited

namespace AreaId

instance : LT AreaId :=
  ⟨fun left right =>
    left.raw < right.raw ∨ left.raw = right.raw ∧ left.owner < right.owner⟩

instance : DecidableLT AreaId := fun left right =>
  inferInstanceAs (Decidable
    (left.raw < right.raw ∨ left.raw = right.raw ∧ left.owner < right.owner))

/-- The id in one text: raw id, number sign, annotation. -/
def full (id : AreaId) : String := id.raw ++ "#" ++ id.owner

/-- The id that a full text writes, split at its last number sign; both parts are nonempty. -/
def parse? (text : String) : Option AreaId :=
  let reversed := text.toList.reverse
  let owner := (reversed.takeWhile (· != '#')).reverse
  match reversed.dropWhile (· != '#') with
  | [] => none
  | _ :: rest =>
    if rest.isEmpty || owner.isEmpty then none
    else some ⟨String.ofList rest.reverse, String.ofList owner⟩

/-- Another id in the same annotation. -/
def sibling (id : AreaId) (raw : String) : AreaId := ⟨raw, id.owner⟩

end AreaId
end Labeling
