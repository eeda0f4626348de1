import SignalBox.Text.Hidden

namespace SignalBox

/-!
# Quoted text

A text between double quotes, as paths are shown in messages.  Double quotes, backslashes
and characters without a printed form are escaped; other characters stand for themselves.
-/

namespace Text.Quoted

/-- The digits of a number in base sixteen. -/
def hexadecimal (number : Nat) : List Char :=
  Nat.toDigits 16 number

/-- A character as it stands between the quotes. -/
def escape (character : Char) : List Char :=
  match character with
  | '"' => ['\\', '"']
  | '\\' => ['\\', '\\']
  | '\n' => ['\\', 'n']
  | '\r' => ['\\', 'r']
  | '\t' => ['\\', 't']
  | character =>
    if character.toNat = 0 then ['\\', '0']
    else if isHidden character then
      ['\\', 'u', '\x7b'] ++ hexadecimal character.toNat ++ ['\x7d']
    else [character]

end Text.Quoted

/-- A text between double quotes. -/
def Text.quoted (text : String) : String :=
  String.ofList ('"' :: (text.toList.flatMap Text.Quoted.escape ++ ['"']))

end SignalBox
