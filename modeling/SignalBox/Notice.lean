import SignalBox.Lock.Row
import SignalBox.Text.Numeral

namespace SignalBox

/-!
# Notices

What loading reports besides its result, as values.  A notice has a level and words.
-/

inductive NoticeLevel where
  | info
  | warning
deriving DecidableEq, Repr

inductive Notice where
  | loading (rows : Nat)
  | databaseBuilt (plants objects routes throwOuts : Nat)
  /-- The owner of a row is in a known gap. -/
  | rowSkipped (context : LockContext)
  /-- A direction-lock cell does not name one lever. -/
  | leverCount (context : LockContext) (found : Nat)
  /-- A token of a condition is in a known gap. -/
  | clauseSkipped (context : LockContext) (token plant : String)
  | lockTableBuilt (trees objects directionRoutes skipped : Nat)
  | networkBuilt (signals types records depth : Nat)
  | loaded
deriving DecidableEq, Repr

namespace Notice

def level : Notice → NoticeLevel
  | rowSkipped _ => .warning
  | leverCount _ _ => .warning
  | clauseSkipped _ _ _ => .warning
  | _ => .info

def message : Notice → String
  | loading rows => "Loading interlocking (" ++ Text.ofNat rows ++ " lock-table rows)"
  | databaseBuilt plants objects routes throwOuts =>
    "Plant database built: " ++ Text.ofNat plants ++ " plants, " ++ Text.ofNat objects ++
      " objects, " ++ Text.ofNat routes ++ " routes, " ++ Text.ofNat throwOuts ++
      " throw-out controls"
  | rowSkipped context =>
    "Skipping " ++ context.description ++ ": owner is in a known data gap"
  | leverCount context found =>
    "Skipping " ++ context.description ++ ": expected one lock lever, found " ++
      Text.ofNat found
  | clauseSkipped context token plant =>
    "Skipping clause of " ++ context.description ++ ": '" ++ token ++ "' at " ++ plant ++
      " is in a known data gap"
  | lockTableBuilt trees objects directionRoutes skipped =>
    "Lock table built: " ++ Text.ofNat trees ++ " trees for " ++ Text.ofNat objects ++
      " objects, " ++ Text.ofNat directionRoutes ++ " direction routes with lock levers (" ++
      Text.ofNat skipped ++ " clauses skipped)"
  | networkBuilt signals types records depth =>
    "Signal network built: " ++ Text.ofNat signals ++ " signals, " ++ Text.ofNat types ++
      " types, " ++ Text.ofNat records ++ " next-signal records (depth " ++
      Text.ofNat depth ++ ")"
  | loaded => "Interlocking loaded successfully"

end Notice

end SignalBox
