import SignalBox.Text.Numeral

namespace SignalBox
namespace Naming

/-!
# Names of objects

Interlocking tables refer to objects by short tokens.  The functions below give the names
under which the objects that a token stands for are stored: the plant, an underscore, and
the token in the form that its kind of object asks for.
-/

/-- A switching machine is stored under its number after a W. -/
def switchingMachine (plant number : String) : String :=
  plant ++ "_W" ++ number

/-- A lever is stored under its number: the letters of its sides are no part of it. -/
def lever (plant start : String) : String :=
  plant ++ "_" ++ String.ofList (start.toList.filter fun c => c != 'R' && c != 'L')

/-- A direction route is stored under the number of its lever before an F. -/
def directionRoute (plant start : String) : String :=
  plant ++ "_" ++ start ++ "F"

/-- A destination button is stored under the end of its routes before a P, without
parentheses. -/
def button (plant destination : String) : String :=
  plant ++ "_" ++ String.ofList (destination.toList.filter fun c => c != '(' && c != ')') ++ "P"

/-- A route is stored under its start and its end; an end in parentheses is no part of
the name. -/
def route (plant start destination : String) : String :=
  if destination.toList.head? = some '(' then plant ++ "_" ++ start
  else plant ++ "_" ++ start ++ destination

/-- The full-width form of the katakana that some tables write in half width. -/
def fullWidthChar : Char → Char
  | 'ｲ' => 'イ'
  | 'ﾛ' => 'ロ'
  | character => character

/-- A name with the katakana of the tables in full width. -/
def fullWidth (name : String) : String :=
  String.ofList (name.toList.map fullWidthChar)

/-- A track circuit of a block section: even numbers are on the up track, odd numbers on
the down track. -/
def blockTrackCircuit (number : Nat) : String :=
  (if number % 2 = 0 then "上り" else "下り") ++ Text.ofNat number ++ "T"

end Naming
end SignalBox
