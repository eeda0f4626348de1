import SignalBox.Lock.Column

namespace SignalBox

/-!
# Rows of an interlocking table

One cell of a table with the object that owns its condition.
-/

/-- Where the text of a condition comes from. -/
structure LockContext where
  plant : String
  object : String
  kind : LockKind
  raw : String
deriving DecidableEq, Repr

/-- The words for a place in messages. -/
def LockContext.description (context : LockContext) : String :=
  context.plant ++ " " ++ context.object ++ " [" ++ context.kind.description ++ "] \"" ++
    context.raw ++ "\""

/-- One cell of an interlocking table. -/
structure LockRow where
  /-- The plant whose table holds the cell. -/
  plant : String
  /-- The stored name of the object that owns the condition. -/
  object : String
  column : LockColumn
  raw : String
deriving DecidableEq, Repr

namespace LockRow

def context (row : LockRow) : LockContext where
  plant := row.plant
  object := row.object
  kind := row.column.lockKind
  raw := row.raw

/-- The name of the owner without its plant and the underscore behind it. -/
def localOwner (row : LockRow) : String :=
  let stem := row.plant.toList ++ ['_']
  if stem.isPrefixOf row.object.toList then String.ofList (row.object.toList.drop stem.length)
  else row.object

end LockRow

end SignalBox
