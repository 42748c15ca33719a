import Labeling.Text
import Mathlib.Data.List.DropRight

/-!
# Splitting and trimming

Splitting at a separator is that of lists (`pieces_eq_splitOn`). What is written behind a text goes
to the last piece if it has no separator (`exists_pieces_append`), and to the end of the trimmed
text if neither of the two ends in a blank (`trim_append`).
-/
namespace Labeling.Text

/-- The pieces of a text are those of the list of its characters. -/
theorem pieces_eq_splitOn (separator : Char) (text : List Char) :
    pieces separator text = text.splitOn separator := by
  induction text with
  | nil => rfl
  | cons first rest hypothesis =>
    rw [pieces, List.splitOn_cons_eq_if_modifyHead, ← hypothesis]
    by_cases same : first = separator
    · rw [if_pos same, if_pos (beq_iff_eq.mpr same)]
    · rw [if_neg same, if_neg (by simpa using same)]
      cases split : pieces separator rest with
      | nil => exact absurd split (pieces_ne_nil separator rest)
      | cons piece others => rfl

/-- What has no separator goes to the last piece of the text in front of it. -/
theorem exists_pieces_append {separator : Char} {suffix : List Char} (apart : separator ∉ suffix)
    (text : List Char) :
    ∃ front last, pieces separator text = front ++ [last] ∧
      pieces separator (text ++ suffix) = front ++ [last ++ suffix] := by
  induction text with
  | nil =>
    refine ⟨[], [], rfl, ?_⟩
    rw [List.nil_append, pieces_eq_splitOn, List.splitOn_eq_singleton apart]
    rfl
  | cons first rest hypothesis =>
    obtain ⟨front, last, short, long⟩ := hypothesis
    rw [List.cons_append, pieces, pieces, short, long]
    by_cases same : first = separator
    · rw [if_pos same, if_pos same]
      exact ⟨[] :: front, last, rfl, rfl⟩
    · rw [if_neg same, if_neg same]
      cases front with
      | nil => exact ⟨[], first :: last, rfl, rfl⟩
      | cons piece others => exact ⟨(first :: piece) :: others, last, rfl, rfl⟩

/-- A joined text is split again into what was joined, if nothing of it has the separator. -/
theorem pieces_joined {separator : Char} {texts : List String} (some : texts ≠ [])
    (apart : ∀ text ∈ texts, separator ∉ text.toList) :
    pieces separator (joined (String.singleton separator) texts).toList =
      texts.map String.toList := by
  rw [pieces_eq_splitOn, joined, String.toList_intercalate, String.toList_singleton]
  refine List.splitOn_intercalate separator ?_ (by simpa using some)
  intro piece member
  obtain ⟨text, listed, rfl⟩ := List.mem_map.mp member
  exact apart text listed

/-- A cut is made no later for what is behind a character to cut at. -/
theorem cutAt_append {test : Char → Bool} {mark : Char} (stops : test mark = true)
    (text suffix : List Char) :
    cutAt test (text ++ mark :: suffix) =
      ((cutAt test text).1, (cutAt test text).2 ++ mark :: suffix) := by
  induction text with
  | nil => simp [cutAt, stops]
  | cons first rest hypothesis =>
    obtain ⟨front, back⟩ := Prod.mk.inj hypothesis
    cases cut : test first with
    | true => simp [cutAt, cut]
    | false => simp [cutAt, cut, front, back]

/-- A text without a character to cut at is not cut. -/
theorem cutAt_eq_self {test : Char → Bool} {text : List Char}
    (none : ∀ character ∈ text, test character = false) : cutAt test text = (text, []) := by
  rw [cutAt, List.takeWhile_eq_self_iff.mpr, List.dropWhile_eq_nil_iff.mpr]
  · intro character member
    rw [none character member, Bool.not_false]
  · intro character member
    rw [none character member, Bool.not_false]

/-! ## Trimming -/

/-- A text that does not end in a blank is trimmed at its front. -/
theorem trim_eq_dropWhile {text : List Char}
    (plain : ∀ last ∈ text.getLast?, isBlank last = false) :
    trim text = text.dropWhile isBlank := by
  have back : trim text = (text.dropWhile isBlank).rdropWhile isBlank := rfl
  rw [back, List.rdropWhile_eq_self_iff]
  intro some
  rw [(List.dropWhile_suffix isBlank).getLast, Bool.not_eq_true]
  exact plain _ (List.getLast?_eq_some_getLast _)

/-- A text without blanks is not trimmed. -/
theorem trim_eq_self {text : List Char} (plain : ∀ character ∈ text, isBlank character = false) :
    trim text = text := by
  rw [trim_eq_dropWhile fun last member => plain last (List.mem_of_getLast? member),
    List.dropWhile_eq_self_iff]
  intro some blank
  rw [plain _ (List.getElem_mem some)] at blank
  contradiction

/-- What is written behind a text is not trimmed if neither of the two ends in a blank. -/
theorem trim_append {text suffix : List Char} (written : text ≠ [])
    (plain : ∀ last ∈ text.getLast?, isBlank last = false)
    (closed : ∀ last ∈ (text ++ suffix).getLast?, isBlank last = false) :
    trim (text ++ suffix) = trim text ++ suffix ∧ trim text ≠ [] := by
  have some : text.dropWhile isBlank ≠ [] := by
    intro none
    have blank := List.dropWhile_eq_nil_iff.mp none _ (List.getLast_mem written)
    rw [plain _ (List.getLast?_eq_some_getLast written)] at blank
    contradiction
  rw [trim_eq_dropWhile closed, trim_eq_dropWhile plain, List.dropWhile_append,
    if_neg (by simpa using some)]
  exact ⟨rfl, some⟩

end Labeling.Text
