import Labeling.AreaId
import Labeling.Json

/-!
# Notifications

What an annotation tells its host, in order, and what the annotations of one session share: the
notifications fired so far, whether the host refuses drafts at present, and the supply of ids that
are made up for areas, with the number of those that have been taken from it.
-/
namespace Labeling

/-- A notification to the host. -/
inductive Event where
  /-- A region was created. -/
  | created (area : AreaId)
  /-- An area was deleted. -/
  | deleted (area : AreaId)
  /-- The selection changed to these areas. -/
  | selectionChanged (selected : List AreaId)
  /-- An annotation was selected. -/
  | annotationSelected (owner : String)
  /-- The mark of an annotation as ground truth was set. -/
  | groundTruth (owner : String) (value : Bool)
  /-- A draft was handed over. -/
  | draftSubmitted (owner : String) (key : Option String) (items : List Json)
deriving BEq

namespace Session

/-- Digits with zeros before them up to a width. -/
def padded (width value : Nat) : String :=
  let digits := (Text.decimal value).toList
  String.ofList (List.replicate (width - digits.length) '0' ++ digits)

/-- A padded number can be read again. -/
theorem ofDigitChars_padded (width value : Nat) :
    Nat.ofDigitChars 10 (padded width value).toList 0 = value := by
  rw [padded, Text.decimal, String.toList_ofList, Nat.ofDigitChars_append,
    Nat.ofDigitChars_replicate_zero, Nat.mul_zero, Nat.toString_eq_ofList_toDigits,
    String.toList_ofList, Nat.ofDigitChars_ten_toDigits]

/-- A supply of ids: what is made up as the first one, as the second one, and so on. The ids are
different from one another, and none is empty. -/
structure Supply where
  /-- The id made up as the given one in order. -/
  name : Nat → String
  /-- Different places have different ids. -/
  injective : ∀ {first second : Nat}, name first = name second → first = second
  /-- No id is empty. -/
  nonempty : ∀ place, name place ≠ ""

/-- The supply of numbers in order, each behind a mark. -/
def Supply.numbered (mark : Char) (width : Nat) : Supply where
  name place := String.singleton mark ++ padded width place
  injective {first second} same := by
    have digits : padded width first = padded width second := String.append_right_inj _ |>.mp same
    rw [← ofDigitChars_padded width first, digits, ofDigitChars_padded]
  nonempty place empty := by
    have length := congrArg String.length empty
    rw [String.length_append, String.length_singleton, String.length_empty] at length
    omega

end Session

/-- What the annotations of a session share. -/
structure Session where
  /-- The notifications, oldest first. -/
  events : List Event := []
  /-- Whether the host refuses drafts. -/
  refusesDrafts : Bool := false
  /-- The ids that are made up for areas. -/
  supply : Session.Supply := .numbered '~' 3
  /-- How many ids of areas have been made up. -/
  generated : Nat := 0

namespace Session

/-- The session with one more notification. -/
def fire (session : Session) (event : Event) : Session :=
  { session with events := session.events ++ [event] }

/-- Make up a raw id. -/
def makeUp (session : Session) : Session × String :=
  let place := session.generated + 1
  ({ session with generated := place }, session.supply.name place)

end Session
end Labeling
