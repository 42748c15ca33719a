import Labeling.Text
import Mathlib.Data.List.Infix

/-!
# Replacing in text

Replacing goes through a text once, from left to right. A pattern that does not stand in the text
changes nothing (`replaced_eq_self`). A mark that shares no character with the replacement stands
in the result only if it stood in the text (`occursIn_replaced`), as it cannot reach into a replaced
place; so replacing such a mark itself leaves none (`occursIn_replaced_self`).
-/
namespace Labeling.Text

variable {pattern replacement mark text : List Char}

/-- A pattern stands somewhere in a text just if it is a run of its characters. -/
theorem occursIn_eq_true_iff : occursIn pattern text = true ↔ pattern <:+: text := by
  induction text with
  | nil => rw [occursIn, List.isEmpty_iff, List.infix_nil]
  | cons first rest hypothesis =>
    rw [occursIn, Bool.or_eq_true, List.isPrefixOf_iff_prefix, hypothesis, List.infix_cons_iff]

/-- A pattern stands nowhere in a text just if it is no run of its characters. -/
theorem occursIn_eq_false_iff : occursIn pattern text = false ↔ ¬ pattern <:+: text := by
  rw [← occursIn_eq_true_iff, Bool.not_eq_true]

/-- Where no copy begins the first character is kept. -/
theorem replaceFrom_cons_of_not (replacement : List Char) {first : Char} {rest : List Char}
    (other : ¬ pattern.isPrefixOf (first :: rest) = true) :
    replaceFrom pattern replacement 0 (first :: rest) =
      first :: replaceFrom pattern replacement 0 rest := by
  rw [replaceFrom, if_neg other]

/-- A pattern that does not stand in the text is not replaced. -/
theorem replaceFrom_eq_self (absent : ¬ pattern <:+: text) :
    replaceFrom pattern replacement 0 text = text := by
  induction text with
  | nil => rfl
  | cons first rest hypothesis =>
    rw [List.infix_cons_iff, not_or, ← List.isPrefixOf_iff_prefix] at absent
    rw [replaceFrom_cons_of_not _ absent.1, hypothesis absent.2]

/-- A pattern that is empty or does not stand in the text is not replaced. -/
theorem replaced_eq_self (absent : pattern = [] ∨ occursIn pattern text = false) :
    replaced pattern replacement text = text := by
  unfold replaced
  split
  · rfl
  · rename_i nonempty
    rcases absent with empty | absent
    · exact absurd (List.isEmpty_iff.mpr empty) nonempty
    · exact replaceFrom_eq_self (occursIn_eq_false_iff.mp absent)

section Apart

variable (apart : mark.Disjoint replacement) (written : replacement ≠ [])

include apart

/-- A mark behind characters that it does not have begins behind them. -/
theorem infix_of_infix_append (nonempty : mark ≠ []) {rest : List Char}
    (occurs : mark <:+: replacement ++ rest) : mark <:+: rest := by
  rcases List.infix_append_iff.mp occurs with inside | behind | ⟨front, back, split, left, right⟩
  · obtain ⟨first, member⟩ := List.exists_mem_of_ne_nil mark nonempty
    exact absurd (inside.subset member) (apart member)
  · exact behind
  · -- What reaches into the replacement is empty.
    have none : front = [] := by
      refine List.eq_nil_iff_forall_not_mem.mpr fun first member => ?_
      exact apart (split ▸ List.mem_append_left _ member) (left.subset member)
    rw [split, none, List.nil_append]
    exact right.isInfix

include written

/-- What a result begins with the text began with. -/
theorem prefix_of_prefix_replaceFrom (begins : mark <+: replaceFrom pattern replacement 0 text) :
    mark <+: text := by
  induction text generalizing mark with
  | nil => exact begins
  | cons first rest hypothesis =>
    cases mark with
    | nil => exact List.nil_prefix
    | cons head tail =>
      rw [replaceFrom] at begins
      split at begins
      · -- The result begins with the replacement, which has no character of the mark.
        obtain ⟨digit, others, split⟩ := List.exists_cons_of_ne_nil written
        rw [split, List.cons_append, List.cons_prefix_cons] at begins
        refine absurd ?_ (apart (List.mem_cons_self (a := head)))
        rw [split, begins.1]
        exact List.mem_cons_self
      · rw [List.cons_prefix_cons] at begins ⊢
        exact ⟨begins.1, hypothesis (List.disjoint_cons_left.mp apart).2 begins.2⟩

/-- What stands in a result stood in the text. -/
theorem infix_of_infix_replaceFrom (nonempty : mark ≠ []) {skip : Nat}
    (occurs : mark <:+: replaceFrom pattern replacement skip text) : mark <:+: text := by
  induction text generalizing skip with
  | nil =>
    cases skip with
    | zero => exact occurs
    | succ skip => exact occurs
  | cons first rest hypothesis =>
    cases skip with
    | succ skip =>
      rw [replaceFrom] at occurs
      exact List.infix_cons_iff.mpr (Or.inr (hypothesis occurs))
    | zero =>
      by_cases copy : pattern.isPrefixOf (first :: rest) = true
      · rw [replaceFrom, if_pos copy] at occurs
        have behind := infix_of_infix_append apart nonempty occurs
        exact List.infix_cons_iff.mpr (Or.inr (hypothesis behind))
      · have kept := replaceFrom_cons_of_not replacement copy
        rw [kept, List.infix_cons_iff, ← kept] at occurs
        rcases occurs with begins | behind
        · exact (prefix_of_prefix_replaceFrom apart written begins).isInfix
        · exact List.infix_cons_iff.mpr (Or.inr (hypothesis behind))

/-- Replacing a mark leaves none. -/
theorem not_infix_replaceFrom_self (nonempty : mark ≠ []) (skip : Nat) :
    ¬ mark <:+: replaceFrom mark replacement skip text := by
  induction text generalizing skip with
  | nil =>
    cases skip with
    | zero => rwa [replaceFrom, List.infix_nil]
    | succ skip => rwa [replaceFrom, List.infix_nil]
  | cons first rest hypothesis =>
    cases skip with
    | succ skip =>
      rw [replaceFrom]
      exact hypothesis skip
    | zero =>
      intro occurs
      by_cases copy : mark.isPrefixOf (first :: rest) = true
      · rw [replaceFrom, if_pos copy] at occurs
        exact hypothesis _ (infix_of_infix_append apart nonempty occurs)
      · have kept := replaceFrom_cons_of_not replacement copy
        rw [kept, List.infix_cons_iff, ← kept] at occurs
        rcases occurs with begins | behind
        · refine copy (List.isPrefixOf_iff_prefix.mpr ?_)
          exact prefix_of_prefix_replaceFrom apart written begins
        · exact hypothesis 0 behind

/-- A mark that does not stand in a text does not come in by a replacement without its
characters. -/
theorem occursIn_replaced (nonempty : mark ≠ []) (absent : occursIn mark text = false) :
    occursIn mark (replaced pattern replacement text) = false := by
  unfold replaced
  split
  · exact absent
  · rw [occursIn_eq_false_iff] at absent ⊢
    exact fun occurs => absent (infix_of_infix_replaceFrom apart written nonempty occurs)

/-- A mark that is replaced by other characters does not stand in the result. -/
theorem occursIn_replaced_self (nonempty : mark ≠ []) :
    occursIn mark (replaced mark replacement text) = false := by
  unfold replaced
  split
  · rename_i empty
    exact absurd (List.isEmpty_iff.mp empty) nonempty
  · rw [occursIn_eq_false_iff]
    exact not_infix_replaceFrom_self apart written nonempty 0

end Apart

/-! ## Decimal digits -/

/-- A number has a digit. -/
theorem toList_decimal_ne_nil (value : Nat) : (decimal value).toList ≠ [] := by
  rw [decimal, Nat.toString_eq_ofList_toDigits, String.toList_ofList]
  exact Nat.toDigits_ne_nil

/-- A number is written in digits. -/
theorem isDigit_of_mem_decimal {value : Nat} {character : Char}
    (member : character ∈ (decimal value).toList) : character.isDigit = true := by
  rw [decimal, Nat.toString_eq_ofList_toDigits, String.toList_ofList] at member
  exact Nat.isDigit_of_mem_toDigits (by decide) (by decide) member

/-- A mark without digits shares no character with a number. -/
theorem disjoint_decimal (noDigit : ∀ character ∈ mark, character.isDigit = false) (value : Nat) :
    mark.Disjoint (decimal value).toList := by
  intro character member digit
  exact Bool.false_ne_true ((noDigit character member).symm.trans (isDigit_of_mem_decimal digit))

end Labeling.Text
