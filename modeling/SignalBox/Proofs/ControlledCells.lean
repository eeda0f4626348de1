import SignalBox.Proofs.Adjoining
import SignalBox.Proofs.Grammar
import SignalBox.Proofs.Lists
import SignalBox.Proofs.Rendering

namespace SignalBox
namespace Notation

/-!
# Cells in total control

A cell can be put into total control by double parentheses around its text, and stands behind
another cell then without a change of what that one says.  This rests on the closing
parentheses, which are taken in pairs from the left.  Where the cell ends with an even number
of them, the last two close the total control.  Where it ends with an odd number, the last one
of the cell is taken together with the first one behind it: the pair stands in the place of a
single parenthesis, and the text is refused there.

The second case follows from what a list of tokens looks like to the reader up to a closing
token.  A list that is read can have no other closing token in the place of one of its own,
whatever stands behind it.
-/

open Printer

variable {site : Site} {scope : Scope} {items read held : List Tree}
  {tokens front behind remaining : List Token} {expected found : Bracket}

/-! ## Another closing token -/

/-- What a sequence reads up to a closing token does not depend on the closing token. -/
theorem Reads.stops_at (reads : Reads site scope [] (front ++ remaining) read remaining)
    (stops : Stops behind) : Reads site scope [] (front ++ behind) read behind := by
  rcases reads_iff_derives.1 reads with ⟨consumed, whole, derived, _⟩
  rw [List.append_cancel_right whole]
  exact derived.reads stops

theorem stops_closing (bracket : Bracket) (rest : List Token) :
    Stops (.closing bracket :: rest) := by
  intro token first
  cases first
  rfl

theorem exists_front {token : Token} {rest : List Token} (other : token.isClosing = false)
    (whole : token :: rest = front ++ .closing expected :: behind) :
    ∃ tail, front = token :: tail ∧ rest = tail ++ .closing expected :: behind := by
  cases front with
  | nil =>
    cases whole
    cases other
  | cons head tail =>
    cases whole
    exact ⟨tail, rfl, rfl⟩

/-- A list that is read can have no other closing token in the place of one of its own. -/
theorem Reads.refused (reads : Reads site scope items tokens read remaining)
    (whole : tokens = front ++ .closing expected :: behind)
    (consumed : remaining.length ≤ behind.length) (other : found ≠ expected)
    (more : List Token) :
    sequence site scope items (front ++ .closing found :: more) =
      .error (.unclosedBracket (.closing expected)) := by
  induction reads generalizing front behind expected with
  | ending => simp at whole
  | closing bracket rest =>
    have length := congrArg List.length whole
    simp only [List.length_cons, List.length_append] at length consumed
    omega
  | name later inductionHypothesis =>
    rcases exists_front rfl whole with ⟨tail, rfl, rfl⟩
    rw [List.cons_append, sequence, inductionHypothesis rfl consumed other]
    rfl
  | timer set later inductionHypothesis =>
    rcases exists_front rfl whole with ⟨tail, rfl, rfl⟩
    rw [List.cons_append, sequence, Fallible.bind_of_eq_ok set,
      inductionHypothesis rfl consumed other]
    rfl
  | unlessSign before later after inductionHypothesis =>
    rcases exists_front rfl whole with ⟨tail, rfl, rfl⟩
    rw [List.cons_append, sequence, Fallible.bind_of_eq_ok before,
      inductionHypothesis rfl consumed other]
    rfl
  | orSign before later after inductionHypothesis =>
    rcases exists_front rfl whole with ⟨tail, rfl, rfl⟩
    rw [List.cons_append, sequence, Fallible.bind_of_eq_ok before,
      inductionHypothesis rfl consumed other]
    rfl
  | @bracket scope inner items held contributed read rest after remaining bracket entered inside
      left outside nested later =>
    rcases exists_front rfl whole with ⟨tail, rfl, rfl⟩
    rcases inside.remaining_suffix with ⟨content, parted⟩
    rw [List.cons_append, sequence, Fallible.bind_of_eq_ok entered]
    -- The token may stand behind the bracket, be the one that closes it, or stand inside.
    rcases Lists.split_cases parted with ⟨rfl, same, rfl⟩ | ⟨between, rfl, rfl⟩ | ⟨between, rfl, rfl⟩
    · cases same
      rcases (inside.stops_at (stops_closing found more)).sequence_eq with
        ⟨⟨reading, short⟩, result, rfl⟩
      rw [Fallible.bind_of_eq_ok result]
      exact Fallible.bind_eq_error.2 (.inl (if_neg fun equal => other (Token.closing.inj equal)))
    · rw [List.append_assoc] at inside
      have stops := stops_closing bracket (between ++ .closing found :: more)
      rcases (inside.stops_at stops).sequence_eq with ⟨⟨reading, short⟩, result, rfl⟩
      rw [List.append_assoc, List.cons_append, Fallible.bind_of_eq_ok result]
      refine (Fallible.bind_of_eq_ok (expect_self _ _) _).trans ?_
      refine (Fallible.bind_of_eq_ok left _).trans ?_
      exact Fallible.bind_eq_error.2 (.inl (later rfl consumed other))
    · refine Fallible.bind_eq_error.2 (.inl (nested rfl ?_ other))
      simp

theorem parseTokens_refused {cell : Option Cell}
    (accepted : parseTokens site (front ++ .closing expected :: behind) = .ok cell)
    (other : found ≠ expected) (more : List Token) :
    parseTokens site (front ++ .closing found :: more) =
      .error (.unclosedBracket (.closing expected)) := by
  rcases parseTokens_eq_ok.1 accepted with ⟨items, reads, _⟩
  exact Fallible.bind_eq_error.2 (.inl (reads.refused rfl (Nat.zero_le _) other more))

/-! ## Total control behind a cell -/

/-- Total control behind a sequence belongs to its last operand. -/
theorem Derives.append_controlled {phrase : Phrase} {controlled : List Token}
    (derived : Derives site phrase scope tokens items) (last : phrase = .sequence)
    (inside : Derives site .sequence scope controlled held) :
    Derives site .sequence scope (tokens ++ enclosed .totalControl controlled) items := by
  induction derived with
  | operand whole =>
    have extended := Derives.atom whole (.totalControl inside)
    rw [List.append_nil] at extended
    exact .operand extended
  | exception before first behind second _ inductionHypothesis =>
    rw [List.append_assoc]
    exact .exception before first (inductionHypothesis rfl inside) second
  | alternative before first behind second continued _ inductionHypothesis =>
    rw [List.append_assoc]
    exact .alternative before first (inductionHypothesis rfl inside) second continued
  | _ => cases last

/-- Total control behind a list of tokens changes nothing of what that says. -/
theorem parseTokens_append_controlled {said inner : Option Cell} {controlled : List Token}
    (accepted : parseTokens site tokens = .ok said)
    (inside : parseTokens site controlled = .ok inner) :
    parseTokens site (tokens ++ enclosed .totalControl controlled) = .ok said := by
  rcases parseTokens_eq_ok.1 accepted with ⟨items, reads, meaning⟩
  rcases parseTokens_eq_ok.1 inside with ⟨held, within, _⟩
  have derived := (reads_to_end_iff_derives.1 reads).append_controlled rfl
    (reads_to_end_iff_derives.1 within)
  exact parseTokens_eq_ok.2 ⟨items, reads_to_end_iff_derives.2 derived, meaning⟩

/-! ## Texts that end with closing parentheses -/

/-- The number of closing parentheses that a text ends with. -/
def endParens (text : List Char) : Nat :=
  (text.reverse.takeWhile (· == ')')).length

/-- The tokens that closing parentheses are taken as, in pairs from the left. -/
def closingParens : Nat → List Token
  | 0 => []
  | 1 => [.closing .paren]
  | count + 2 => .closing .totalControl :: closingParens count

theorem closingParens_even (half : Nat) :
    closingParens (2 * half) = List.replicate half (.closing .totalControl) := by
  induction half with
  | zero => rfl
  | succ half inductionHypothesis =>
    rw [Nat.mul_succ, closingParens, inductionHypothesis, List.replicate_succ]

theorem closingParens_odd (half : Nat) :
    closingParens (2 * half + 1) =
      List.replicate half (.closing .totalControl) ++ [.closing .paren] := by
  induction half with
  | zero => rfl
  | succ half inductionHypothesis =>
    rw [Nat.mul_succ, Nat.add_right_comm, closingParens, inductionHypothesis,
      List.replicate_succ, List.cons_append]

theorem scan_closingParens (count : Nat) :
    scan (List.replicate count ')') = .ok (closingParens count) := by
  induction count using closingParens.induct with
  | case1 => decide +kernel
  | case2 => decide +kernel
  | case3 count inductionHypothesis => exact scan_token (by decide) rfl inductionHypothesis

variable {text : List Char}

/-- In front of the closing parentheses that a text ends with stands none. -/
theorem exists_body (text : List Char) :
    ∃ body, text = body ++ List.replicate (endParens text) ')' ∧ body.getLast? ≠ some ')' := by
  refine ⟨(text.reverse.dropWhile (· == ')')).reverse, ?_, ?_⟩
  · have parted := congrArg List.reverse (replicate_append_dropWhile ')' text.reverse)
    rw [List.reverse_append, List.reverse_replicate, List.reverse_reverse] at parted
    exact parted.symm
  · rw [List.getLast?_reverse]
    intro first
    have stopped := List.head?_dropWhile_not (· == ')') text.reverse
    rw [first] at stopped
    simp at stopped

/-- Closing parentheses adjoin a text that ends with none. -/
theorem apart_closingParens {body : List Char} (other : body.getLast? ≠ some ')') (count : Nat) :
    Apart body (List.replicate count ')') := by
  cases count with
  | zero =>
    refine ⟨?_, ?_⟩
    · intro head first
      cases first
    · intro head first
      cases first
  | succ count =>
    refine ⟨?_, ?_⟩
    · rw [List.replicate_succ, skipBlanks_cons (by decide)]
      intro head first
      cases first
      decide
    · intro head first _
      cases first
      exact other

/-- Two closing parentheses behind a text are taken together with those that it ends with. -/
theorem exists_scan_append_closing (scanned : scan text = .ok tokens) :
    ∃ before, tokens = before ++ closingParens (endParens text) ∧
      scan (text ++ [')', ')']) = .ok (before ++ closingParens (endParens text + 2)) := by
  rcases exists_body text with ⟨body, whole, other⟩
  cases split : scan body with
  | error fault =>
    -- A character that is foreign in the body is so in the text.
    rcases scan_eq_error.1 split with ⟨letter, foreign, _⟩
    have refused : scan text = .error (.unknownCharacter letter) := by
      refine scan_eq_error.2 ⟨letter, ?_, rfl⟩
      rw [whole, List.find?_append, foreign]
      rfl
    rw [scanned] at refused
    cases refused
  | ok before =>
    have extended : ∀ count, scan (body ++ List.replicate count ')') =
        .ok (before ++ closingParens count) := by
      intro count
      have apart := apart_closingParens other count
      exact (splits_of_scan split).scan_append apart (scan_closingParens count)
    refine ⟨before, ?_, ?_⟩
    · rw [whole, extended] at scanned
      exact (Except.ok.inj scanned).symm
    · have longer := extended (endParens text + 2)
      rw [List.replicate_add, ← List.append_assoc, ← whole] at longer
      exact longer

/-- The two close total control where the text ends with an even number of them. -/
theorem scan_append_closing_of_even (scanned : scan text = .ok tokens)
    (even : endParens text % 2 = 0) :
    scan (text ++ [')', ')']) = .ok (tokens ++ [.closing .totalControl]) := by
  rcases exists_scan_append_closing scanned with ⟨before, rfl, closed⟩
  have half : endParens text = 2 * (endParens text / 2) := by omega
  rw [half] at closed ⊢
  rw [closed, ← Nat.mul_succ, closingParens_even, closingParens_even, List.replicate_succ',
    List.append_assoc]

/-- The first of the two turns the last closing parenthesis of the text into a pair where the
text ends with an odd number of them. -/
theorem scan_append_closing_of_odd (scanned : scan text = .ok tokens)
    (odd : endParens text % 2 = 1) :
    ∃ front, tokens = front ++ [.closing .paren] ∧
      scan (text ++ [')', ')']) = .ok (front ++ [.closing .totalControl, .closing .paren]) := by
  rcases exists_scan_append_closing scanned with ⟨before, rfl, closed⟩
  have half : endParens text = 2 * (endParens text / 2) + 1 := by omega
  refine ⟨before ++ List.replicate (endParens text / 2) (.closing .totalControl), ?_, ?_⟩
  · rw [half, closingParens_odd, ← half, List.append_assoc]
  · rw [closed, half, Nat.add_right_comm, ← Nat.mul_succ, closingParens_odd,
      List.replicate_succ', ← half]
    simp

/-! ## Cells in total control -/

theorem toList_controlled (cell : String) :
    (bracketed .totalControl cell).toList = '(' :: '(' :: (cell.toList ++ [')', ')']) := by
  rw [bracketed, String.toList_append, String.toList_append, String.toList_ofList,
    String.toList_ofList, List.append_assoc]
  rfl

/-- Total control is read apart from the cell in front of it. -/
theorem tokenize_append_controlled {other cell : String} {others : List Token}
    (scanned : tokenize other = .ok others)
    (controlled : tokenize (bracketed .totalControl cell) = .ok tokens) :
    tokenize (other ++ " " ++ bracketed .totalControl cell) = .ok (others ++ tokens) := by
  have apart : Apart other.toList (' ' :: (bracketed .totalControl cell).toList) := by
    rw [toList_controlled]
    refine ⟨?_, ?_⟩
    · intro head first
      cases first
      decide
    · intro head first doubled
      cases first
      exact absurd doubled (by decide)
  rw [tokenize, String.toList_append, String.toList_append, List.append_assoc]
  refine (splits_of_scan scanned).scan_append apart ?_
  exact (scan_skip (by decide)).trans controlled

/-- The tokens of a cell in total control. -/
theorem exists_tokenize_controlled {cell : String} (scanned : tokenize cell = .ok tokens) :
    (endParens cell.toList % 2 = 0 →
      tokenize (bracketed .totalControl cell) = .ok (enclosed .totalControl tokens)) ∧
    (endParens cell.toList % 2 = 1 →
      ∃ front, tokens = front ++ [.closing .paren] ∧
        tokenize (bracketed .totalControl cell) = .ok (.opening .totalControl ::
          (front ++ [.closing .totalControl, .closing .paren]))) := by
  have opened : ∀ {closed}, scan (cell.toList ++ [')', ')']) = .ok closed →
      tokenize (bracketed .totalControl cell) = .ok (.opening .totalControl :: closed) := by
    intro closed split
    rw [tokenize, toList_controlled]
    exact scan_token (by decide) rfl split
  constructor
  · intro even
    exact opened (scan_append_closing_of_even scanned even)
  · intro odd
    rcases scan_append_closing_of_odd scanned odd with ⟨front, whole, closed⟩
    exact ⟨front, whole, opened closed⟩

/-- Of a cell that ends with an odd number of closing parentheses the last one is no longer
found, in total control behind any other cell. -/
theorem parseTokens_refuses_controlled {said inner : Option Cell} {others : List Token}
    (accepted : parseTokens site others = .ok said)
    (inside : parseTokens site (front ++ [.closing .paren]) = .ok inner) :
    parseTokens site (others ++ .opening .totalControl ::
        (front ++ [.closing .totalControl, .closing .paren])) =
      .error (.unclosedBracket (.closing .paren)) := by
  have extended := parseTokens_append_controlled accepted inside
  have whole : others ++ enclosed .totalControl (front ++ [.closing .paren]) =
      (others ++ .opening .totalControl :: front) ++
        .closing .paren :: [.closing .totalControl] := by
    simp [enclosed]
  rw [whole] at extended
  have other : Bracket.totalControl ≠ .paren := nofun
  have refused := parseTokens_refused extended other [.closing .paren]
  rw [List.append_assoc] at refused
  exact refused

/-- A cell that ends with an even number of closing parentheses says nothing in total control,
and changes no cell that it stands behind so.  One that ends with an odd number of them can not
be put into total control: the first parenthesis behind it is taken together with its last
one, which is missed then. -/
theorem evenly_closed_cells_are_controlled {site : Site} {cell : String} {held : Option Cell}
    (accepted : parse site cell = .ok held) :
    (endParens cell.toList % 2 = 0 →
      parse site (bracketed .totalControl cell) = .ok none ∧
        ∀ other said, parse site other = .ok said →
          parse site (other ++ " " ++ bracketed .totalControl cell) = .ok said) ∧
    (endParens cell.toList % 2 = 1 →
      parse site (bracketed .totalControl cell) = .error (.unclosedBracket (.closing .paren)) ∧
        ∀ other said, parse site other = .ok said →
          parse site (other ++ " " ++ bracketed .totalControl cell) =
            .error (.unclosedBracket (.closing .paren))) := by
  rcases parse_eq_ok.1 accepted with ⟨tokens, scanned, inside⟩
  rcases exists_tokenize_controlled scanned with ⟨even, odd⟩
  have nothing : parseTokens site [] = .ok none := by
    rw [parseTokens_eq_ok_none]
    exact .ending
  constructor
  · intro evenly
    have controlled := even evenly
    refine ⟨parse_eq_ok.2 ⟨_, controlled, parseTokens_append_controlled nothing inside⟩, ?_⟩
    intro other said whole
    rcases parse_eq_ok.1 whole with ⟨others, split, read⟩
    exact parse_eq_ok.2 ⟨_, tokenize_append_controlled split controlled,
      parseTokens_append_controlled read inside⟩
  · intro oddly
    rcases odd oddly with ⟨front, rfl, controlled⟩
    refine ⟨?_, ?_⟩
    · rw [parse, Fallible.bind_of_eq_ok controlled]
      exact parseTokens_refuses_controlled nothing inside
    · intro other said whole
      rcases parse_eq_ok.1 whole with ⟨others, split, read⟩
      rw [parse, Fallible.bind_of_eq_ok (tokenize_append_controlled split controlled)]
      exact parseTokens_refuses_controlled read inside

/-- A text without closing parentheses and one that ends with two of them behind a timer, and
one that ends with a reversed name. -/
theorem closed_cells_behind_a_timer :
    ∃ said, parse ⟨.line, "TH71", .directLock⟩ "1T 但 30秒" = .ok said ∧
      (∀ cell ∈ ["3T [2R]", "3T ((2R))"],
        parse ⟨.line, "TH71", .directLock⟩ (bracketed .totalControl cell) = .ok none ∧
          parse ⟨.line, "TH71", .directLock⟩
            ("1T 但 30秒" ++ " " ++ bracketed .totalControl cell) = .ok said) ∧
      parse ⟨.line, "TH71", .directLock⟩
        ("1T 但 30秒" ++ " " ++ bracketed .totalControl "3T (2R)") =
          .error (.unclosedBracket (.closing .paren)) := by
  have timed : Succeeds (parse ⟨.line, "TH71", .directLock⟩ "1T 但 30秒") := by
    decide +kernel
  have even : ∀ cell ∈ ["3T [2R]", "3T ((2R))"],
      Succeeds (parse ⟨.line, "TH71", .directLock⟩ cell) ∧ endParens cell.toList % 2 = 0 := by
    decide +kernel
  have odd : Succeeds (parse ⟨.line, "TH71", .directLock⟩ "3T (2R)") := by
    decide +kernel
  rcases timed with ⟨said, timed⟩
  rcases odd with ⟨held, odd⟩
  refine ⟨said, timed, ?_, ?_⟩
  · intro cell listed
    rcases even cell listed with ⟨⟨inner, accepted⟩, evenly⟩
    rcases (evenly_closed_cells_are_controlled accepted).1 evenly with ⟨alone, behind⟩
    exact ⟨alone, behind _ _ timed⟩
  · exact ((evenly_closed_cells_are_controlled odd).2 (by decide)).2 _ _ timed

/-- A cell that ends with a reversed name is no longer read in total control, neither alone nor
behind another cell. -/
theorem a_reversed_last_name_is_not_controlled :
    Succeeds (parse ⟨.line, "TH71", .directLock⟩ "1R (2L)") ∧
      Succeeds (parse ⟨.line, "TH71", .directLock⟩ "3T") ∧
      parse ⟨.line, "TH71", .directLock⟩ "((1R (2L)))" =
        .error (.unclosedBracket (.closing .paren)) ∧
      parse ⟨.line, "TH71", .directLock⟩ "3T ((1R (2L)))" =
        .error (.unclosedBracket (.closing .paren)) := by
  decide +kernel

end Notation
end SignalBox
