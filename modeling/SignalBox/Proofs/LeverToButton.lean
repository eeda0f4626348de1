import SignalBox.Proofs.RouteIndices
import SignalBox.Lock.Resolve
import SignalBox.Proofs.Lists

namespace SignalBox

/-!
# From a lever to a button

A name that begins like a route and goes on behind it can stand for a throw-out control: from a
route that starts at the lever to one that ends at the button.  The control is looked up by three
indices, one inside of the other.  `Database.controlsBetween` says without any of them which
controls are meant, and `LeverStart` which lever and which end a token names.

The lookup goes through the routes of the lever one after another, so it finds the controls in
another order than they were added in, but each as often as it was added.  That takes a plant
without replaced definitions: a route that is listed twice at its lever would have its controls
counted twice.
-/

open Notation (Reference)

/-! ## Tokens that begin like a route -/

/-- The token begins like a route, and a text stands behind its beginning.  A Z behind the side
belongs to the number of the lever. -/
inductive LeverStart : (token number rest : List Char) → Prop
  | plain {digits rest : List Char} {side : Char} (nonempty : digits ≠ [])
    (decimal : ∀ c ∈ digits, Text.isDecimalDigit c = true) (sided : side = 'R' ∨ side = 'L')
    (ended : rest.head? ≠ some 'Z') : LeverStart (digits ++ side :: rest) digits rest
  | marked {digits rest : List Char} {side : Char} (nonempty : digits ≠ [])
    (decimal : ∀ c ∈ digits, Text.isDecimalDigit c = true) (sided : side = 'R' ∨ side = 'L') :
    LeverStart (digits ++ side :: 'Z' :: rest) (digits ++ ['Z']) rest

namespace LeverStart

variable {token number digits rest : List Char} {side : Char}

private theorem side_not_decimal (sided : side = 'R' ∨ side = 'L') :
    ¬ Text.isDecimalDigit side = true := by
  rcases sided with rfl | rfl
  · decide
  · decide

/-- The digits end at the side. -/
private theorem digits_of_append (decimal : ∀ c ∈ digits, Text.isDecimalDigit c = true)
    (sided : side = 'R' ∨ side = 'L') :
    (digits ++ side :: rest).takeWhile Text.isDecimalDigit = digits ∧
      (digits ++ side :: rest).dropWhile Text.isDecimalDigit = side :: rest := by
  have ended := side_not_decimal sided
  rw [List.takeWhile_append_of_pos decimal, List.dropWhile_append_of_pos decimal,
    List.takeWhile_cons_of_neg ended, List.dropWhile_cons_of_neg ended, List.append_nil]
  exact ⟨rfl, rfl⟩

theorem splitLever?_eq_some_iff :
    splitLever? token = some (number, rest) ↔ LeverStart token number rest := by
  constructor
  · intro taken
    have parted := List.takeWhile_append_dropWhile (p := Text.isDecimalDigit) (l := token)
    have decimal := List.all_eq_true.1 (List.all_takeWhile (p := Text.isDecimalDigit) (l := token))
    simp only [splitLever?] at taken
    split at taken
    · cases taken
    · rename_i nonempty
      rw [List.isEmpty_iff] at nonempty
      split at taken
      · rename_i side tail behind
        split at taken
        · rename_i lettered
          have sided : side = 'R' ∨ side = 'L' := by simpa using lettered
          rw [← parted, behind]
          split at taken
          · cases taken
            exact .marked nonempty decimal sided
          · rename_i unmarked
            cases taken
            refine .plain nonempty decimal sided fun marked => ?_
            rcases List.head?_eq_some_iff.1 marked with ⟨others, same⟩
            exact unmarked others same
        · cases taken
      · cases taken
  · intro start
    cases start with
    | plain nonempty decimal sided ended =>
      rcases @digits_of_append _ rest _ decimal sided with ⟨taken, dropped⟩
      simp only [splitLever?, taken, dropped]
      rw [if_neg (mt List.isEmpty_iff.1 nonempty), if_pos (by simpa using sided)]
      split
      · exact absurd rfl ended
      · rfl
    | @marked digits _ _ nonempty decimal sided =>
      rcases @digits_of_append _ ('Z' :: rest) _ decimal sided with ⟨taken, dropped⟩
      simp only [splitLever?, taken, dropped]
      rw [if_neg (mt List.isEmpty_iff.1 nonempty), if_pos (by simpa using sided)]

/-- The number of a lever has neither of the letters that names of levers leave out. -/
theorem name_eq (start : LeverStart token number rest) (plant : String) :
    Naming.lever plant (String.ofList number) = plant ++ "_" ++ String.ofList number := by
  have unlettered : ∀ {letter : Char}, Text.isDecimalDigit letter = true →
      (letter != 'R' && letter != 'L') = true := by
    intro letter digit
    rw [Bool.and_eq_true, bne_iff_ne, bne_iff_ne]
    exact ⟨fun same => side_not_decimal (.inl same) digit,
      fun same => side_not_decimal (.inr same) digit⟩
  have kept : ∀ letter ∈ number, (letter != 'R' && letter != 'L') = true := by
    cases start with
    | plain nonempty decimal sided ended => exact fun letter listed => unlettered (decimal _ listed)
    | marked nonempty decimal sided =>
      rw [List.forall_mem_append, List.forall_mem_singleton]
      exact ⟨fun letter listed => unlettered (decimal _ listed), rfl⟩
  rw [Naming.lever, String.toList_ofList, List.filter_eq_self.2 kept]

end LeverStart

/-! ## Controls between levers and buttons -/

namespace Database

variable {plant : Database} {column : LockColumn} {reference : Reference}

/-- The controls from a route that is defined to start at the lever to one that is defined to end
at the button, in the order of their addition. -/
def controlsBetween (plant : Database) (lever : ObjectId) (button : String) : List ThrowOut :=
  plant.throwOuts.filter fun control =>
    (plant.route? control.source).any (fun route => route.lever == some lever) &&
      (plant.route? control.target).any fun route => route.button == some button

/-- The lists of an index have the routes with the value, as the definitions say. -/
theorem Indexes.contains_eq {α : Type} [BEq α] [LawfulBEq α] {index : α → List ObjectId}
    {field : RouteDefinition → Option α} (indexes : plant.Indexes index field) (key : α)
    (id : ObjectId) :
    (index key).contains id = (plant.route? id).any fun route => field route == some key := by
  rw [Bool.eq_iff_iff, List.contains_iff_mem, indexes.mem_iff, Option.any_eq_true]
  simp only [beq_iff_eq]

/-- The lookup finds each control as often as there is one. -/
theorem throwOutsBetween_perm (once : (plant.definitions.map RouteDefinition.id).Nodup)
    (lever : ObjectId) (button : String) :
    (plant.throwOutsBetween lever button).Perm (plant.controlsBetween lever button) := by
  have starts : plant.Indexes plant.routesFromLever RouteDefinition.lever :=
    indexes_definedWith_iff.2 fun _ _ replaces => absurd replaces (not_replaces once)
  have ends : plant.Indexes plant.routesToButton RouteDefinition.button :=
    indexes_definedWith_iff.2 fun _ _ replaces => absurd replaces (not_replaces once)
  -- No route is listed twice at the lever, so none of its controls is collected twice.
  have collected := Lists.flatMap_filter_perm ThrowOut.source plant.throwOuts (starts.nodup lever)
  refine (collected.filter _).trans (List.Perm.of_eq ?_)
  rw [List.filter_filter]
  refine List.filter_congr fun control _ => ?_
  rw [starts.contains_eq, ends.contains_eq, Bool.and_comm]

/-! ## Names that stand for a control -/

/-- The name stands in a station, outside of the column of switching machines, and reads as the
number of a lever of its plant with an end behind it, which without its parentheses names the
button. -/
structure NamesEnds (plant : Database) (column : LockColumn) (reference : Reference)
    (lever : ObjectId) (button : String) : Prop where
  column : column ≠ .switchingMachine
  station : reference.plant ≠ blockSectionPlant
  read : ∃ number rest : List Char, LeverStart reference.token.toList number rest ∧ rest ≠ [] ∧
    (∃ object ∈ plant.objects, object.id = lever ∧ object.kind = .lever ∧
      object.name = reference.plant ++ "_" ++ String.ofList number) ∧
    button = reference.plant ++ "_" ++
      String.ofList (rest.filter fun letter => letter != '(' && letter != ')') ++ "P"

theorem splitLever?_eq_some_iff (consistent : plant.Consistent) {lever : PlantObject}
    {rest : List Char} :
    plant.splitLever? reference = some (lever, rest) ↔
      ∃ number, LeverStart reference.token.toList number rest ∧ lever ∈ plant.objects ∧
        lever.kind = .lever ∧ lever.name = reference.plant ++ "_" ++ String.ofList number := by
  constructor
  · intro taken
    rcases Option.bind_eq_some_iff.1 taken with ⟨⟨number, behind⟩, split, later⟩
    rcases Option.bind_eq_some_iff.1 later with ⟨object, named, same⟩
    cases same
    have start := LeverStart.splitLever?_eq_some_iff.1 split
    rw [start.name_eq] at named
    rcases Option.filter_eq_some_iff.1 named with ⟨stored, kind⟩
    have name := List.find?_some stored
    exact ⟨number, start, List.mem_of_find?_eq_some stored, beq_iff_eq.1 kind, beq_iff_eq.1 name⟩
  · rintro ⟨number, start, member, kind, name⟩
    refine Option.bind_eq_some_iff.2 ⟨_, LeverStart.splitLever?_eq_some_iff.2 start, ?_⟩
    refine Option.bind_eq_some_iff.2 ⟨lever, ?_, rfl⟩
    rw [start.name_eq, ← name]
    exact Option.filter_eq_some_iff.2 ⟨consistent.named lever member, beq_iff_eq.2 kind⟩

/-- The strategy looks for controls where the name reads as a lever and a button. -/
theorem attempt_of_namesEnds (consistent : plant.Consistent) {lever : ObjectId} {button : String}
    (names : plant.NamesEnds column reference lever button) :
    Strategy.leverToButton.attempt plant column reference =
      match plant.throwOutsBetween lever button with
      | [] => .ok none
      | [control] => .ok (some [control.source, control.target])
      | controls => .error (.ambiguous reference.token reference.plant controls.length) := by
  rcases names.read with ⟨number, rest, start, nonempty, ⟨object, member, rfl, kind, name⟩, rfl⟩
  rcases List.exists_cons_of_ne_nil nonempty with ⟨head, others, rfl⟩
  have split := (splitLever?_eq_some_iff consistent).2 ⟨number, start, member, kind, name⟩
  have applies : Strategy.leverToButton.applies column reference.plant = true :=
    Bool.and_eq_true_iff.2 ⟨bne_iff_ne.2 names.column, bne_iff_ne.2 names.station⟩
  rw [Strategy.attempt, if_pos applies]
  rcases between : plant.throwOutsBetween object.id _ with _ | ⟨first, _ | ⟨second, further⟩⟩
  · simp only [Strategy.find, split, Naming.button, String.toList_ofList, between]
  · simp only [Strategy.find, split, Naming.button, String.toList_ofList, between]
  · simp only [Strategy.find, split, Naming.button, String.toList_ofList, between]

theorem attempt_of_other (consistent : plant.Consistent)
    (other : ∀ lever button, ¬ plant.NamesEnds column reference lever button) :
    Strategy.leverToButton.attempt plant column reference = .ok none := by
  unfold Strategy.attempt
  split
  · rename_i applies
    rcases Bool.and_eq_true_iff.1 applies with ⟨column, station⟩
    simp only [Strategy.find]
    split
    · rename_i lever head rest split
      rcases (splitLever?_eq_some_iff consistent).1 split with ⟨number, start, member, kind, name⟩
      exact absurd ⟨bne_iff_ne.1 column, bne_iff_ne.1 station, number, head :: rest, start,
        List.cons_ne_nil head rest, ⟨lever, member, rfl, kind, name⟩, rfl⟩ (other lever.id _)
    · rfl
  · rfl

/-- In a database that additions have made and in which no route is defined twice, a name that
reads as a lever and a button stands for the two ends of the one control between them.  It stands
for nothing where there is none, and is ambiguous where there are several, of which it tells the
number.  Any other name stands for nothing. -/
theorem lever_to_button_finds_the_single_control (adjacency : Adjacency)
    (additions : List Addition)
    (once : ((ofAdditions adjacency additions).definitions.map RouteDefinition.id).Nodup)
    (column : LockColumn) (reference : Reference) :
    (∀ lever button, (ofAdditions adjacency additions).NamesEnds column reference lever button →
      ((ofAdditions adjacency additions).controlsBetween lever button = [] →
        Strategy.leverToButton.attempt (ofAdditions adjacency additions) column reference =
          .ok none) ∧
      (∀ control, (ofAdditions adjacency additions).controlsBetween lever button = [control] →
        Strategy.leverToButton.attempt (ofAdditions adjacency additions) column reference =
          .ok (some [control.source, control.target])) ∧
      (1 < ((ofAdditions adjacency additions).controlsBetween lever button).length →
        Strategy.leverToButton.attempt (ofAdditions adjacency additions) column reference =
          .error (.ambiguous reference.token reference.plant
            ((ofAdditions adjacency additions).controlsBetween lever button).length))) ∧
    ((∀ lever button,
        ¬ (ofAdditions adjacency additions).NamesEnds column reference lever button) →
      Strategy.leverToButton.attempt (ofAdditions adjacency additions) column reference =
        .ok none) := by
  have consistent := consistent_ofAdditions adjacency additions
  refine ⟨fun lever button names => ?_, attempt_of_other consistent⟩
  have found := throwOutsBetween_perm once lever button
  rw [attempt_of_namesEnds consistent names]
  refine ⟨fun none => ?_, fun control single => ?_, fun several => ?_⟩
  · rw [none] at found
    rw [found.eq_nil]
  · rw [single] at found
    rw [found.eq_singleton]
  · rw [← found.length_eq] at several ⊢
    generalize (ofAdditions adjacency additions).throwOutsBetween lever button = controls
      at several ⊢
    rcases controls with _ | ⟨first, _ | ⟨second, further⟩⟩
    · cases several
    · exact absurd several (Nat.lt_irrefl 1)
    · rfl

/-- A lever with two routes that both control the route of another lever, and one of them a route
without lever, too. -/
def branchedAdditions : List Addition :=
  [.object ⟨1, "TH71_1Z", .lever, "TH71"⟩, .object ⟨2, "TH71_2", .lever, "TH71"⟩,
    .object ⟨10, "TH71_1RZA", .route, "TH71"⟩, .object ⟨11, "TH71_1RZB", .route, "TH71"⟩,
    .object ⟨12, "TH71_2RC", .route, "TH71"⟩, .object ⟨13, "TH71_5R", .route, "TH71"⟩,
    .route ⟨10, some 1, some "TH71_AP", none⟩, .route ⟨11, some 1, some "TH71_BP", none⟩,
    .route ⟨12, some 2, some "TH71_CP", none⟩, .route ⟨13, none, some "TH71_DP", none⟩,
    .throwOut ⟨11, 12, .withLever, none, none, none⟩,
    .throwOut ⟨10, 13, .withoutLever, none, none, none⟩,
    .throwOut ⟨10, 12, .withLever, none, none, none⟩]

/-- The name of the first lever stands for a control to the route without lever.  To the route of
the other lever there are two, to a button without routes there is none, and without the Z it is
no lever's name. -/
theorem branched_names_find_controls :
    ((ofAdditions {} branchedAdditions).definitions.map RouteDefinition.id).Nodup ∧
      Strategy.leverToButton.attempt (ofAdditions {} branchedAdditions) .directLock
        ⟨"1RZ(D)", "TH71", false, false, none⟩ = .ok (some [10, 13]) ∧
      Strategy.leverToButton.attempt (ofAdditions {} branchedAdditions) .directLock
        ⟨"1RZ(C)", "TH71", false, false, none⟩ = .error (.ambiguous "1RZ(C)" "TH71" 2) ∧
      Strategy.leverToButton.attempt (ofAdditions {} branchedAdditions) .directLock
        ⟨"1RZ(E)", "TH71", false, false, none⟩ = .ok none ∧
      Strategy.leverToButton.attempt (ofAdditions {} branchedAdditions) .directLock
        ⟨"1R(D)", "TH71", false, false, none⟩ = .ok none := by
  have once : ((ofAdditions {} branchedAdditions).definitions.map RouteDefinition.id).Nodup := by
    decide +kernel
  have named : "TH71_1Z" = "TH71" ++ "_" ++ String.ofList ['1', 'Z'] := by decide +kernel
  have names : ∀ ends ∈ [("1RZ(D)", "TH71_DP"), ("1RZ(C)", "TH71_CP"), ("1RZ(E)", "TH71_EP")],
      (ofAdditions {} branchedAdditions).NamesEnds .directLock
        ⟨ends.1, "TH71", false, false, none⟩ 1 ends.2 := by
    intro ends listed
    refine ⟨nofun, (show "TH71" ≠ blockSectionPlant by decide), ['1', 'Z'], ends.1.toList.drop 3,
      LeverStart.splitLever?_eq_some_iff.1 ?_, ?_,
      ⟨⟨1, "TH71_1Z", .lever, "TH71"⟩, (by decide +kernel), rfl, rfl, named⟩, ?_⟩
    all_goals
      revert ends
      decide +kernel
  have found := fun reference =>
    lever_to_button_finds_the_single_control {} branchedAdditions once .directLock reference
  have single := ((found _).1 1 _ (names _ (.head _))).2.1
  have several := ((found _).1 1 _ (names _ (.tail _ (.head _)))).2.2
  have nothing := ((found _).1 1 _ (names _ (.tail _ (.tail _ (.head _))))).1
  have two : ((ofAdditions {} branchedAdditions).controlsBetween 1 "TH71_CP").length = 2 := by
    decide +kernel
  rw [two] at several
  refine ⟨once, single ⟨10, 13, .withoutLever, none, none, none⟩ (by decide +kernel),
    several (by decide), nothing (by decide +kernel), (found _).2 fun lever button unnamed => ?_⟩
  rcases unnamed.read with ⟨number, rest, start, _, ⟨object, member, _, _, name⟩, _⟩
  have read : SignalBox.splitLever? "1R(D)".toList = some (['1'], ['(', 'D', ')']) := by
    decide +kernel
  cases read.symm.trans (LeverStart.splitLever?_eq_some_iff.2 start)
  have absent : ∀ object ∈ (ofAdditions {} branchedAdditions).objects,
      object.name ≠ "TH71" ++ "_" ++ String.ofList ['1'] := by decide +kernel
  exact absent object member name

end Database

end SignalBox
