import SignalBox.Json.Decode

namespace SignalBox
namespace Json

/-!
# Fields of records

A record takes its fields in order from a written form.  The members of an object stay where
they are, so what a field reads there does not depend on the fields before it; a list loses
its first value with every field that it has one for.
-/

/-- The written form of a record, if the value is one. -/
def fields? : Json → Option Fields
  | .object members => some (.named members)
  | .array items => some (.listed items)
  | _ => none

/-- What a written form holds for a field that no other is taken before: the member of its name,
or the first value of a list. -/
def Fields.first? (name : String) : Fields → Option Json
  | .named members => lastMember? name members
  | .listed items => items.head?

namespace Record

variable {α : Type} {name : String} {default value : α} {decode : Decoder α}
  {fields rest : Fields} {members : List (Name × Json)} {taken : Option Json}

theorem openDecoder_eq_some {record : Record α} {json : Json} :
    openDecoder record json = some value ↔
      ∃ fields rest, json.fields? = some fields ∧ record fields = some (value, rest) := by
  cases json <;> simp [openDecoder, fields?]

/-- A field that can be taken is what the written form holds for it. -/
theorem take_first? (found : take name fields = some (taken, rest)) :
    taken = fields.first? name := by
  cases fields with
  | listed items =>
    cases items with
    | nil =>
      cases found
      rfl
    | cons item items =>
      cases found
      rfl
  | named members =>
    unfold Fields.first? lastMember?
    dsimp only
    rw [← List.getLast?_filter]
    unfold take at found
    dsimp only at found
    split at found
    case h_1 none =>
      cases found
      rw [none]
      rfl
    case h_2 entry only =>
      cases found
      rw [only]
      rfl
    case h_3 =>
      cases found

/-- A field with a default is decoded where it is written. -/
theorem defaulting_first?
    (read : defaulting name default decode fields = some (value, rest)) :
    (fields.first? name).elim (some default) decode = some value := by
  rcases Option.bind_eq_some_iff.1 read with ⟨⟨taken, after⟩, found, given⟩
  rw [← take_first? found]
  cases taken with
  | none =>
    cases given
    rfl
  | some json =>
    rcases Option.bind_eq_some_iff.1 given with ⟨decoded, own, same⟩
    cases same
    exact own

/-- Taking a field of an object leaves the members where they are. -/
theorem take_named (found : take name (.named members) = some (taken, fields)) :
    fields = .named members := by
  unfold take at found
  dsimp only at found
  split at found <;> cases found <;> rfl

theorem required_named (read : required name decode (.named members) = some (value, fields)) :
    fields = .named members := by
  rcases Option.bind_eq_some_iff.1 read with ⟨⟨taken, rest⟩, found, given⟩
  cases taken with
  | none => cases given
  | some json =>
    rcases Option.bind_eq_some_iff.1 given with ⟨_, _, same⟩
    cases same
    exact take_named found

theorem defaulting_named
    (read : defaulting name default decode (.named members) = some (value, fields)) :
    fields = .named members := by
  rcases Option.bind_eq_some_iff.1 read with ⟨⟨taken, rest⟩, found, given⟩
  cases taken with
  | none =>
    cases given
    exact take_named found
  | some json =>
    rcases Option.bind_eq_some_iff.1 given with ⟨_, _, same⟩
    cases same
    exact take_named found

/-- What a record says after a field is read from the same members. -/
theorem exists_of_bind_named {β : Type} {field : Record α} {next : α → Record β}
    {result : β × Fields}
    (kept : ∀ value fields, field (.named members) = some (value, fields) →
      fields = .named members)
    (read : (field >>= next) (.named members) = some result) :
    ∃ value, next value (.named members) = some result := by
  rcases Option.bind_eq_some_iff.1 read with ⟨⟨value, fields⟩, own, later⟩
  rw [kept value fields own] at later
  exact ⟨value, later⟩

/-- A field that no member has the name of has its default. -/
theorem defaulting_of_absent (absent : ∀ member, member ∈ members → member.1.text ≠ name) :
    defaulting name default decode (.named members) = some (default, .named members) := by
  have none : members.filter (fun entry => entry.1.text == name) = [] :=
    List.filter_eq_nil_iff.2 fun member listed named => absent member listed (beq_iff_eq.1 named)
  have nothing : take name (.named members) = some (Option.none, .named members) := by
    unfold take
    dsimp only
    rw [none]
  exact Option.bind_eq_some_iff.2 ⟨_, nothing, rfl⟩

end Record

end Json
end SignalBox
