import Labeling.Text.Unseen

/-!
# Quoted text

A text in double quotes as it is shown in messages: quotes and backslashes are escaped, line breaks
and tabulators by a letter, and characters that cannot be seen on their own by their code.
-/
namespace Labeling.Text

/-- A character as it is shown between quotes. -/
def shown (character : Char) : List Char :=
  match character with
  | '"' => ['\\', '"']
  | '\\' => ['\\', '\\']
  | '\n' => ['\\', 'n']
  | '\r' => ['\\', 'r']
  | '\t' => ['\\', 't']
  | _ =>
    if character.toNat = 0 then ['\\', '0']
    else if isUnseen character then
      '\\' :: 'u' :: '\x7b' :: (Nat.toDigits 16 character.toNat ++ ['\x7d'])
    else [character]

/-- The text in double quotes. -/
def inQuotes (text : String) : String :=
  "\"" ++ String.ofList (text.toList.flatMap shown) ++ "\""

end Labeling.Text
