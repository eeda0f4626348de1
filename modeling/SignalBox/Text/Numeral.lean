namespace SignalBox

/-!
# Decimal numerals

Reading and writing natural numbers in ASCII digits.  A written numeral has no leading
zeros; reading accepts them.  `value_write` states that a written number reads back.
-/

namespace Text.Numeral

/-- The number a digit stands for. -/
def digitValue (digit : Char) : Nat :=
  digit.toNat - '0'.toNat

/-- The digit that stands for a number below ten. -/
def digit (number : Nat) : Char :=
  Char.ofNat ('0'.toNat + number)

/-- The number written by a run of digits, most significant digit first. -/
def value (digits : List Char) : Nat :=
  digits.foldl (fun number digit => 10 * number + digitValue digit) 0

/-- The digits of a number, without leading zeros. -/
def write (number : Nat) : List Char :=
  if number < 10 then [digit number] else write (number / 10) ++ [digit (number % 10)]

/-- The number written by a text that consists of digits and has at least one. -/
def read? (text : List Char) : Option Nat :=
  if text.isEmpty || !text.all Char.isDigit then none else some (value text)

/-- As `read?`, with one plus sign allowed in front. -/
def readSigned? : List Char → Option Nat
  | '+' :: digits => read? digits
  | digits => read? digits

/-- A number that fits into the given number of bits. -/
def within (bits : Nat) (number : Nat) : Option Nat :=
  if number < Nat.pow 2 bits then some number else none

private theorem digitValue_digit : ∀ number, number < 10 → digitValue (digit number) = number := by
  decide

theorem value_append_digit (digits : List Char) (last : Char) :
    value (digits ++ [last]) = 10 * value digits + digitValue last := by
  simp [value, List.foldl_append]

theorem value_write (number : Nat) : value (write number) = number := by
  induction number using Nat.strongRecOn with
  | _ number inductionHypothesis =>
    rw [write]
    split
    · next small => simp [value, digitValue_digit number small]
    · next large =>
      rw [value_append_digit, inductionHypothesis (number / 10) (by omega),
        digitValue_digit (number % 10) (by omega)]
      omega

theorem write_ne_nil (number : Nat) : write number ≠ [] := by
  rw [write]
  split
  · exact List.cons_ne_nil _ _
  · exact List.append_ne_nil_of_right_ne_nil _ (List.cons_ne_nil _ _)

private theorem isDigit_digit : ∀ number, number < 10 → (digit number).isDigit = true := by
  decide

theorem isDigit_of_mem_write {number : Nat} {letter : Char} (member : letter ∈ write number) :
    letter.isDigit = true := by
  induction number using Nat.strongRecOn with
  | _ number inductionHypothesis =>
    rw [write] at member
    split at member
    · next small =>
      rw [List.mem_singleton.1 member]
      exact isDigit_digit number small
    · next large =>
      rcases List.mem_append.1 member with before | last
      · exact inductionHypothesis (number / 10) (by omega) before
      · rw [List.mem_singleton.1 last]
        exact isDigit_digit (number % 10) (by omega)

end Text.Numeral

/-- A natural number in decimal digits. -/
def Text.ofNat (number : Nat) : String :=
  String.ofList (Text.Numeral.write number)

end SignalBox
