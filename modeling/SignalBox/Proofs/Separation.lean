import SignalBox.Proofs.Adjoining

namespace SignalBox
namespace Notation

/-!
# Tokens with separators between them

Tokens that are written one behind the other run together: two parentheses become a double
one, runs of brackets one longer run, names one name or even an or sign, and an exception
sign makes a timer of the digits behind it.  With a separator between every two neighbours
nothing of this happens, and the tokens are read back as they are.

What a token itself has to fulfil for this is said by `IsProper`.  It rules out the empty run of
square brackets and texts that are no single name.  The tokens of a text are always proper.
-/

namespace Token

/-- The token stands for a text of its own: a run of square brackets has at least one, and a
name is one from its beginning to its end. -/
def IsProper : Token → Prop
  | opening bracket => bracket ≠ .neighbour 0
  | closing bracket => bracket ≠ .neighbour 0
  | name text => IsName text.toList
  | _ => True

end Token

/-- Tokens in writing, with a separator between every two neighbours. -/
def separated (tokens : List Token) : String :=
  String.intercalate "、" (tokens.map Token.text)

variable {text rest : List Char} {token : Token} {tokens : List Token}

theorem toList_separated (tokens : List Token) :
    (separated tokens).toList = ['、'].intercalate (tokens.map Token.chars) := by
  rw [separated, String.toList_intercalate, List.map_map]
  congr 1
  exact List.map_congr_left fun token _ => String.toList_ofList

/-! ## Single tokens -/

theorem isProper_of_scan (scanned : scan text = .ok tokens) (member : token ∈ tokens) :
    token.IsProper := by
  have counted := (keepsText_of_scan scanned).counted
  cases token with
  | opening bracket =>
    rintro rfl
    exact absurd (counted 0 (.inl member)) (by decide)
  | closing bracket =>
    rintro rfl
    exact absurd (counted 0 (.inr member)) (by decide)
  | name text => exact isName_of_scan scanned member
  | timer seconds => exact True.intro
  | unlessSign => exact True.intro
  | orSign => exact True.intro

/-- A proper token that stands alone is read back. -/
theorem scan_chars (proper : token.IsProper) : scan token.chars = .ok [token] := by
  have nothing : scan [] = .ok [] := by rw [scan]
  cases token with
  | opening bracket =>
    have alone := @scan_opening [] [] bracket proper (by simp) nothing
    rwa [List.append_nil] at alone
  | closing bracket =>
    have alone := @scan_closing [] [] bracket proper (by simp) nothing
    rwa [List.append_nil] at alone
  | name text => exact (Spells.name proper).scan_eq
  | timer seconds => exact (Spells.nil.append_timer List.not_mem_nil seconds).scan_eq
  | unlessSign => exact scan_token (by decide) rfl nothing
  | orSign => exact scan_token (by decide) rfl nothing

/-! ## Separators -/

/-- No token goes on behind a separator. -/
theorem apart_separator (text rest : List Char) : Apart text ('、' :: rest) where
  unnamed := by
    intro head first
    rw [skipBlanks_cons (by decide)] at first
    cases first
    decide
  single := by
    intro head first doubled
    cases first
    exact absurd doubled (by decide)

theorem scan_intercalate (proper : ∀ token ∈ tokens, token.IsProper) :
    scan (['、'].intercalate (tokens.map Token.chars)) = .ok tokens := by
  induction tokens with
  | nil => exact Spells.nil.scan_eq
  | cons token rest inductionHypothesis =>
    rw [List.forall_mem_cons] at proper
    have first := scan_chars proper.1
    cases rest with
    | nil => rwa [List.map_singleton, List.intercalate_singleton]
    | cons next others =>
      have later := inductionHypothesis proper.2
      rw [List.map_cons, List.map_cons, List.intercalate_cons_cons, List.append_assoc]
      refine (splits_of_scan first).scan_append (apart_separator _ _) ?_
      rw [List.singleton_append, scan_skip (by decide)]
      exact later

/-- Tokens with separators between them are read back exactly if each of them is proper. -/
theorem tokenize_separated_iff :
    tokenize (separated tokens) = .ok tokens ↔ ∀ token ∈ tokens, token.IsProper := by
  rw [tokenize, toList_separated]
  exact ⟨fun scanned _ member => isProper_of_scan scanned member, scan_intercalate⟩

/-- The tokens of a text, written with a separator between every two neighbours, are read back
as they are. -/
theorem separated_tokens_are_read_back {cell : String} (split : tokenize cell = .ok tokens) :
    tokenize (separated tokens) = .ok tokens :=
  tokenize_separated_iff.2 fun _ member => isProper_of_scan split member

/-- Every kind of token beside one that it could run together with. -/
def crowdedText : String :=
  "(・([[・[又・は又は又,30秒]]・]但・30秒但 0030秒5T但4294967296秒｣・｣))・)"

def crowdedTokens : List Token :=
  [.opening .paren, .opening .paren, .opening (.neighbour 2), .opening (.neighbour 1),
    .name "又", .name "は", .orSign, .name "又", .name "30秒", .closing (.neighbour 2),
    .closing (.neighbour 1), .unlessSign, .name "30秒", .timer 30, .name "5T", .unlessSign,
    .name "4294967296秒", .closing .unlock, .closing .unlock, .closing .totalControl,
    .closing .paren]

/-- The crowded tokens are read back with separators, and without them they run together. -/
theorem crowded_tokens_are_read_back :
    tokenize crowdedText = .ok crowdedTokens ∧
      separated crowdedTokens =
        "(、(、[[、[、又、は、又は、又、30秒、]]、]、但、30秒、但30秒、5T、但、4294967296秒、｣、｣、))、)" ∧
      tokenize (separated crowdedTokens) = .ok crowdedTokens ∧
      tokenize (String.join (crowdedTokens.map Token.text)) ≠ .ok crowdedTokens := by
  have split : tokenize crowdedText = .ok crowdedTokens := by decide +kernel
  exact ⟨split, by decide +kernel, separated_tokens_are_read_back split, by decide +kernel⟩

end Notation
end SignalBox
