import SignalBox.Json.Basic

namespace SignalBox
namespace Json

/-!
# Reading JSON

Readers for RFC 8259 text.  They take the characters that are left and return what they
read with the characters after it.  Arrays and objects are read by a machine that keeps what
is still open on a stack, so a text may nest as deep as it likes.

A document may hold values that nobody can read.  A value on its own may not: everything in
it is readable, arrays and objects are nested `maxDepth` deep at most, and of members of one
name the last one counts.  Either way a text with anything but blanks after its value is
refused, and so are unescaped control characters.
-/

/-- How deep arrays and objects of a value may be nested. -/
def maxDepth : Nat := 127

/-- A reader at the head of a text. -/
abbrev Reader (α : Type) := List Char → Option (α × List Char)

/-- Whether JSON allows the character between its tokens. -/
def isSpace (character : Char) : Bool :=
  character == ' ' || character == '\n' || character == '\r' || character == '\t'

/-- The text without the blanks at its head. -/
def skipSpaces (text : List Char) : List Char :=
  text.dropWhile isSpace

/-- Read a given word. -/
def word (expected : List Char) : Reader Unit := fun text =>
  if expected.isPrefixOf text then some ((), text.drop expected.length) else none

/-- The value of a hexadecimal digit. -/
def hexValue? (character : Char) : Option Nat :=
  if character.isDigit then some (character.toNat - '0'.toNat)
  else if 'a' ≤ character ∧ character ≤ 'f' then some (character.toNat - 'a'.toNat + 10)
  else if 'A' ≤ character ∧ character ≤ 'F' then some (character.toNat - 'A'.toNat + 10)
  else none

/-- Read the four hexadecimal digits of an escaped code unit. -/
def codeUnit : Reader Nat
  | a :: b :: c :: d :: rest => do
    let digits ← [a, b, c, d].mapM hexValue?
    some (digits.foldl (fun value digit => 16 * value + digit) 0, rest)
  | _ => none

/-- The characters of a string as far as they have been read, the last one first. -/
structure Characters where
  read : List Char := []
  /-- Whether an escape has been read. -/
  escaped : Bool := false
  /-- Whether half of a surrogate pair has been read without the other half. -/
  halved : Bool := false

namespace Characters

/-- One more character, which stands for itself. -/
def plain (characters : Characters) (c : Char) : Characters :=
  { characters with read := c :: characters.read }

/-- One more character, which is written as an escape. -/
def escape (characters : Characters) (c : Char) : Characters :=
  { characters with read := c :: characters.read, escaped := true }

/-- Half of a surrogate pair on its own. -/
def halve (characters : Characters) : Characters :=
  { characters with escaped := true, halved := true }

/-- The text of the characters, which halves of surrogate pairs have none. -/
def text? (characters : Characters) : Option String :=
  if characters.halved then none else some (String.ofList characters.read.reverse)

end Characters

/-- The character of an escape with a single letter. -/
def shortEscape? : Char → Option Char
  | '"' => some '"'
  | '\\' => some '\\'
  | '/' => some '/'
  | 'b' => some (Char.ofNat 8)
  | 'f' => some (Char.ofNat 12)
  | 'n' => some '\n'
  | 'r' => some '\r'
  | 't' => some '\t'
  | _ => none

/-- Read the second half of a surrogate pair. -/
def secondHalf : Reader Nat
  | '\\' :: 'u' :: rest => do
    let (unit, rest) ← codeUnit rest
    if 0xDC00 ≤ unit ∧ unit ≤ 0xDFFF then some (unit - 0xDC00, rest) else none
  | _ => none

/-- Read the rest of an escape after its backslash.  The first half of a surrogate pair
takes the second half right behind it along. -/
def escapeRest (characters : Characters) : Reader Characters
  | 'u' :: rest => do
    let (unit, rest) ← codeUnit rest
    if unit < 0xD800 ∨ 0xDFFF < unit then some (characters.escape (Char.ofNat unit), rest)
    else if unit < 0xDC00 then
      match secondHalf rest with
      | some (low, rest) =>
        some (characters.escape (Char.ofNat (0x10000 + (unit - 0xD800) * 0x400 + low)), rest)
      | none => some (characters.halve, rest)
    else some (characters.halve, rest)
  | letter :: rest => (shortEscape? letter).map fun c => (characters.escape c, rest)
  | [] => none

/-- Read the characters of a string up to its closing quote.  The first argument bounds
the number of characters. -/
def stringBody : Nat → Characters → Reader Characters
  | 0, _, _ => none
  | bound + 1, characters, text =>
    match text with
    | '"' :: rest => some (characters, rest)
    | '\\' :: rest =>
      match escapeRest characters rest with
      | some (characters, rest) => stringBody bound characters rest
      | none => none
    | c :: rest => if c.toNat < 0x20 then none else stringBody bound (characters.plain c) rest
    | [] => none

/-- Read a string whose opening quote has been read. -/
def stringRest : Reader Characters := fun text =>
  stringBody text.length {} text

/-- Split a text after its leading digits. -/
def digits (text : List Char) : List Char × List Char :=
  (text.takeWhile Char.isDigit, text.dropWhile Char.isDigit)

/-- Read the fraction of a number, if there is one. -/
def fraction : Reader (List Char)
  | '.' :: rest =>
    match digits rest with
    | ([], _) => none
    | (read, rest) => some ('.' :: read, rest)
  | rest => some ([], rest)

/-- Read the exponent of a number, if there is one. -/
def exponent : Reader (List Char)
  | mark :: rest =>
    if mark == 'e' || mark == 'E' then
      let (sign, rest) := match rest with
        | '+' :: rest => (['+'], rest)
        | '-' :: rest => (['-'], rest)
        | rest => ([], rest)
      match digits rest with
      | ([], _) => none
      | (read, rest) => some (mark :: (sign ++ read), rest)
    else some ([], mark :: rest)
  | [] => some ([], [])

/-- The number written by decimal digits. -/
def decimalValue (read : List Char) : Nat :=
  read.foldl (fun value digit => 10 * value + (digit.toNat - '0'.toNat)) 0

/-- The number written by an exponent with its mark, zero where there is none. -/
def exponentValue : List Char → Int
  | _ :: '-' :: read => -(decimalValue read : Int)
  | _ :: '+' :: read => decimalValue read
  | _ :: read => decimalValue read
  | [] => 0

/-- Whether digits, scaled by a power of ten, are nearer to infinity than to any double. -/
def exceedsDouble (read : List Char) (scale : Int) : Bool :=
  let significant := read.dropWhile (· == '0')
  let places := significant.length + scale
  if significant.isEmpty || places < 308 then false
  else if 310 < places then true
  else
    let limit := Nat.pow 2 1024 - Nat.pow 2 970
    limit * Nat.pow 10 (-scale).toNat ≤ decimalValue significant * Nat.pow 10 scale.toNat

/-- Read a number.  Its whole part has no leading zeros.  A number beyond every double
cannot be read. -/
def number : Reader Json := fun text => do
  let (sign, unsigned) := match text with
    | '-' :: rest => (['-'], rest)
    | rest => ([], rest)
  let (whole, rest) := digits unsigned
  if whole.isEmpty || (whole.length > 1 && whole.head? == some '0') then none
  let (fractional, rest) ← fraction rest
  let (scaling, rest) ← exponent rest
  let behindPoint := fractional.drop 1
  if exceedsDouble (whole ++ behindPoint) (exponentValue scaling - behindPoint.length) then
    some (unreadable, rest)
  else if fractional.isEmpty && scaling.isEmpty && !(sign == ['-'] && whole == ['0']) then
    let magnitude : Int := decimalValue whole
    some (integer (if sign.isEmpty then magnitude else -magnitude), rest)
  else
    some (decimal (String.ofList (sign ++ whole ++ fractional ++ scaling)), rest)

/-- Read a value that is neither array nor object. -/
def scalar : Reader Json
  | '"' :: rest =>
    (stringRest rest).map fun (characters, rest) =>
      (characters.text?.elim unreadable string, rest)
  | 'n' :: rest => (word ['u', 'l', 'l'] rest).map fun read => (null, read.2)
  | 't' :: rest => (word ['r', 'u', 'e'] rest).map fun read => (bool true, read.2)
  | 'f' :: rest => (word ['a', 'l', 's', 'e'] rest).map fun read => (bool false, read.2)
  | text => number text

/-! ## Arrays and objects -/

/-- An array or object that has been opened, with what was read of it, the last item first.
An object waits for the value of a name; there is no name where it cannot be read. -/
inductive Opened where
  | array (items : List Json)
  | object (members : List (Option Name × Json)) (name : Option Name)

/-- The object of members, which cannot be read if one of its names cannot. -/
def ofMembers (members : List (Option Name × Json)) : Json :=
  match members.mapM fun entry => entry.1.map fun name => (name, entry.2) with
  | some members => object members
  | none => unreadable

/-- How far a text has been read. -/
structure Progress where
  /-- What is open, innermost first. -/
  opened : List Opened
  /-- The value that has just been completed, where one has. -/
  completed : Option Json
  rest : List Char

/-- Read the name of a member and the colon behind it. -/
def memberName : Reader (Option Name)
  | '"' :: rest => do
    let (characters, rest) ← stringRest rest
    match skipSpaces rest with
    | ':' :: rest =>
      some (characters.text?.map fun text => ⟨text, characters.escaped⟩, rest)
    | _ => none
  | _ => none

section Nesting

variable (mayNest : List Opened → Bool)

/-- Open an array or object whose bracket has been read, if it may be nested in what is
open. -/
def openBracket (opened : List Opened) (bracket : Char) (text : List Char) : Option Progress :=
  if !mayNest opened then none
  else if bracket = '[' then
    match skipSpaces text with
    | ']' :: rest => some ⟨opened, some (array []), rest⟩
    | rest => some ⟨.array [] :: opened, none, rest⟩
  else
    match skipSpaces text with
    | '\x7d' :: rest => some ⟨opened, some (object []), rest⟩
    | rest => (memberName rest).map fun (name, rest) => ⟨.object [] name :: opened, none, rest⟩

/-- Begin a value at the head of a text. -/
def begin (opened : List Opened) (text : List Char) : Option Progress :=
  match skipSpaces text with
  | '[' :: rest => openBracket mayNest opened '[' rest
  | '\x7b' :: rest => openBracket mayNest opened '\x7b' rest
  | rest => (scalar rest).map fun (value, rest) => ⟨opened, some value, rest⟩

/-- Put a completed value into the innermost array or object, and read what is behind it. -/
def proceed (value : Json) (innermost : Opened) (outer : List Opened) (text : List Char) :
    Option Progress :=
  match innermost, skipSpaces text with
  | .array items, ',' :: rest => some ⟨.array (value :: items) :: outer, none, rest⟩
  | .array items, ']' :: rest => some ⟨outer, some (array (value :: items).reverse), rest⟩
  | .object members name, ',' :: rest =>
    (memberName (skipSpaces rest)).map fun (next, rest) =>
      ⟨.object ((name, value) :: members) next :: outer, none, rest⟩
  | .object members name, '\x7d' :: rest =>
    some ⟨outer, some (ofMembers ((name, value) :: members).reverse), rest⟩
  | _, _ => none

/-- Read a value to its end.  The first argument bounds the number of steps, each of which
takes a character. -/
def run : Nat → Progress → Option (Json × List Char)
  | 0, _ => none
  | bound + 1, ⟨opened, completed, rest⟩ =>
    match completed, opened with
    | some value, [] => some (value, rest)
    | some value, innermost :: outer =>
      match proceed value innermost outer rest with
      | some progress => run bound progress
      | none => none
    | none, opened =>
      match begin mayNest opened rest with
      | some progress => run bound progress
      | none => none

/-- Read a whole text as one value. -/
def whole? (text : String) : Option Json :=
  let characters := text.toList
  match run mayNest (characters.length + 2) ⟨[], none, characters⟩ with
  | some (read, rest) => if (skipSpaces rest).isEmpty then some read else none
  | none => none

end Nesting

/-- Read a whole text as a document. -/
def document? (text : String) : Option Json :=
  whole? (fun _ => true) text

/-- Read a whole text as a value. -/
def parse? (text : String) : Option Json :=
  (whole? (fun opened => opened.length < maxDepth) text).bind fun read =>
    if read.isReadable then some read.distinct else none

end Json
end SignalBox
