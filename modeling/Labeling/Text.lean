/-!
# Text rules

The text operations that every other module shares: blank characters and trimming, letter case,
splitting at a separator, replacing a placeholder, and numbers in text. Each works on a
list of characters, so that it is a plain recursion; the versions on strings only convert.
-/
namespace Labeling.Text

/-- The characters with the Unicode property White_Space. -/
def isBlank (character : Char) : Bool :=
  let code := character.toNat
  (9 ≤ code && code ≤ 13) || code == 32 || code == 133 || code == 160 || code == 5760 ||
    (8192 ≤ code && code ≤ 8202) || code == 8232 || code == 8233 || code == 8239 ||
    code == 8287 || code == 12288

/-- The text without the blanks around it. -/
def trim (text : List Char) : List Char :=
  ((text.dropWhile isBlank).reverse.dropWhile isBlank).reverse

/-- The string without the blanks around it. -/
def trimmed (text : String) : String := String.ofList (trim text.toList)

/-- The string with its ASCII capitals in lower case; every other character stays. -/
def lowered (text : String) : String := String.ofList (text.toList.map Char.toLower)

/-- Equality up to the case of ASCII letters. -/
def sameIgnoringCase (left right : String) : Bool := lowered left == lowered right

/-- The pieces between the separators; one separator more than none gives one piece more. -/
def pieces (separator : Char) : List Char → List (List Char)
  | [] => [[]]
  | first :: rest =>
    if first = separator then [] :: pieces separator rest
    else
      match pieces separator rest with
      | [] => [[first]]
      | piece :: others => (first :: piece) :: others

/-- Splitting never returns an empty list of pieces. -/
theorem pieces_ne_nil (separator : Char) (text : List Char) : pieces separator text ≠ [] := by
  cases text with
  | nil => simp [pieces]
  | cons first rest =>
    unfold pieces
    split
    · simp
    · split <;> simp

/-- The characters before the first one that satisfies the test, and those from it on. -/
def cutAt (test : Char → Bool) (text : List Char) : List Char × List Char :=
  (text.takeWhile (!test ·), text.dropWhile (!test ·))

/-- Whether the pattern stands somewhere in the text. -/
def occursIn (pattern : List Char) : List Char → Bool
  | [] => pattern.isEmpty
  | first :: rest => pattern.isPrefixOf (first :: rest) || occursIn pattern rest

/-- Replace the copies of a nonempty pattern from left to right, first leaving out the characters
that still belong to a copy already replaced. -/
def replaceFrom (pattern replacement : List Char) : Nat → List Char → List Char
  | _, [] => []
  | skip + 1, _ :: rest => replaceFrom pattern replacement skip rest
  | 0, first :: rest =>
    if pattern.isPrefixOf (first :: rest) then
      replacement ++ replaceFrom pattern replacement (pattern.length - 1) rest
    else
      first :: replaceFrom pattern replacement 0 rest

/-- The text with every copy of the pattern replaced; an empty pattern has no copies. -/
def replaced (pattern replacement text : List Char) : List Char :=
  if pattern.isEmpty then text else replaceFrom pattern replacement 0 text

/-- The value of a digit: letters of either case go on from ten. -/
def digit? (character : Char) : Option Nat :=
  if character.isDigit then some (character.toNat - 48)
  else if character.isLower then some (character.toNat - 87)
  else if character.isUpper then some (character.toNat - 55)
  else none

/-- Whether the character is a digit of the base. -/
def isDigit (base : Nat) (character : Char) : Bool := (digit? character).any (· < base)

/-- The value of a text of digits of a base only, read after a prefix of that value. -/
def readDigits (base : Nat) : Nat → List Char → Option Nat
  | value, [] => some value
  | value, character :: rest =>
    match digit? character with
    | some digit => if digit < base then readDigits base (base * value + digit) rest else none
    | none => none

/-- The number that a nonempty text of digits of a base writes. -/
def readNumber (base : Nat) (text : List Char) : Option Nat :=
  if text.isEmpty then none else readDigits base 0 text

/-- The number that a nonempty text of decimal digits writes. -/
def readDecimal (text : List Char) : Option Nat := readNumber 10 text

/-- The least number that needs more than 64 bits. -/
def wordLimit : Nat := 18446744073709551616

/-- An index in text: an optional plus sign and decimal digits, of 64 bits. -/
def readIndex (text : List Char) : Option Nat :=
  let digits := match text with
    | '+' :: rest => rest
    | _ => text
  (readDecimal digits).filter (· < wordLimit)

/-- The decimal digits of a number. -/
def decimal (value : Nat) : String := toString value

/-- The texts with a separator between each two. -/
def joined (separator : String) (texts : List String) : String := String.intercalate separator texts

end Labeling.Text
