namespace SignalBox

/-!
# Conditions

Conjunctions, disjunctions and negations over leaves of any type.  Cells of an
interlocking table are parsed into conditions over references by name; resolving them
gives conditions over requirements on objects.  What a leaf means is supplied by whoever
evaluates the condition.

`holds` is the value of a condition.  `evaluate` computes it with as few questions to the
leaves as possible, and `survey` asks every leaf, so that a leaf that cannot answer is
found wherever it stands.
-/

inductive Condition (α : Type) where
  | leaf (value : α)
  | all (parts : List (Condition α))
  | any (parts : List (Condition α))
  | not (part : Condition α)
deriving Repr

namespace Condition

variable {α β ε : Type}

mutual

/-- The value of a condition where the leaves have values. -/
def holds (value : α → Bool) : Condition α → Bool
  | leaf condition => value condition
  | all parts => holdsAll value parts
  | any parts => holdsAny value parts
  | not part => !holds value part

/-- Whether every part holds. -/
def holdsAll (value : α → Bool) : List (Condition α) → Bool
  | [] => true
  | part :: rest => holds value part && holdsAll value rest

/-- Whether some part holds. -/
def holdsAny (value : α → Bool) : List (Condition α) → Bool
  | [] => false
  | part :: rest => holds value part || holdsAny value rest

end

mutual

/-- The leaves from left to right. -/
def leaves : Condition α → List α
  | leaf condition => [condition]
  | all parts => leavesOf parts
  | any parts => leavesOf parts
  | not part => leaves part

/-- The leaves of several conditions from left to right. -/
def leavesOf : List (Condition α) → List α
  | [] => []
  | part :: rest => leaves part ++ leavesOf rest

end

section Asking

variable {m : Type → Type} [Monad m]

mutual

/-- Evaluate from left to right and stop where the value is decided. -/
def evaluate (ask : α → m Bool) : Condition α → m Bool
  | leaf condition => ask condition
  | all parts => evaluateAll ask parts
  | any parts => evaluateAny ask parts
  | not part => do
    let value ← evaluate ask part
    pure !value

/-- Evaluate parts until one does not hold. -/
def evaluateAll (ask : α → m Bool) : List (Condition α) → m Bool
  | [] => pure true
  | part :: rest => do
    if ← evaluate ask part then evaluateAll ask rest else pure false

/-- Evaluate parts until one holds. -/
def evaluateAny (ask : α → m Bool) : List (Condition α) → m Bool
  | [] => pure false
  | part :: rest => do
    if ← evaluate ask part then pure true else evaluateAny ask rest

end

mutual

/-- Evaluate from left to right and ask every leaf. -/
def survey (ask : α → m Bool) : Condition α → m Bool
  | leaf condition => ask condition
  | all parts => surveyAll ask parts
  | any parts => surveyAny ask parts
  | not part => do
    let value ← survey ask part
    pure !value

/-- Survey every part for whether all hold. -/
def surveyAll (ask : α → m Bool) : List (Condition α) → m Bool
  | [] => pure true
  | part :: rest => do
    let value ← survey ask part
    let others ← surveyAll ask rest
    pure (value && others)

/-- Survey every part for whether one holds. -/
def surveyAny (ask : α → m Bool) : List (Condition α) → m Bool
  | [] => pure false
  | part :: rest => do
    let value ← survey ask part
    let others ← surveyAny ask rest
    pure (value || others)

end

end Asking

/-- One condition for several: a single one stands for itself. -/
def conjunction : List (Condition α) → Condition α
  | [part] => part
  | parts => all parts

mutual

/-- Replace every leaf by the conjunction of the leaves it stands for; the leftmost leaf
that stands for nothing decides the failure. -/
def expand (targets : α → Except ε (List β)) : Condition α → Except ε (Condition β)
  | leaf condition => (targets condition).map fun values => conjunction (values.map leaf)
  | all parts => (expandAll targets parts).map all
  | any parts => (expandAll targets parts).map any
  | not part => (expand targets part).map not

/-- Expand several conditions from left to right. -/
def expandAll (targets : α → Except ε (List β)) :
    List (Condition α) → Except ε (List (Condition β))
  | [] => .ok []
  | part :: rest => do
    let first ← expand targets part
    let others ← expandAll targets rest
    .ok (first :: others)

end

section Equality

variable [DecidableEq α]

mutual

/-- Structural equality of conditions. -/
def same : Condition α → Condition α → Bool
  | leaf first, leaf second => first = second
  | all first, all second => sameAll first second
  | any first, any second => sameAll first second
  | not first, not second => same first second
  | _, _ => false

/-- Structural equality of lists of conditions. -/
def sameAll : List (Condition α) → List (Condition α) → Bool
  | [], [] => true
  | first :: firsts, second :: seconds => same first second && sameAll firsts seconds
  | _, _ => false

end

mutual

private theorem same_iff :
    (first second : Condition α) → (same first second = true ↔ first = second)
  | leaf first, leaf second => by simp [same]
  | all first, all second => by simp [same, sameAll_iff first second]
  | any first, any second => by simp [same, sameAll_iff first second]
  | not first, not second => by simp [same, same_iff first second]
  | leaf _, all _ => by simp [same]
  | leaf _, any _ => by simp [same]
  | leaf _, not _ => by simp [same]
  | all _, leaf _ => by simp [same]
  | all _, any _ => by simp [same]
  | all _, not _ => by simp [same]
  | any _, leaf _ => by simp [same]
  | any _, all _ => by simp [same]
  | any _, not _ => by simp [same]
  | not _, leaf _ => by simp [same]
  | not _, all _ => by simp [same]
  | not _, any _ => by simp [same]

private theorem sameAll_iff :
    (first second : List (Condition α)) → (sameAll first second = true ↔ first = second)
  | [], [] => by simp [sameAll]
  | [], _ :: _ => by simp [sameAll]
  | _ :: _, [] => by simp [sameAll]
  | first :: firsts, second :: seconds => by
    simp [sameAll, same_iff first second, sameAll_iff firsts seconds]

end

instance : DecidableEq (Condition α) := fun first second =>
  decidable_of_iff _ (same_iff first second)

end Equality

end Condition

end SignalBox
