import EntityLink.Json.Magnitude

/-!
# JSON values

The values in which classes, settings and analyses are written and read.  The
members of an object keep their order and may repeat a name, because a reader of
records has to notice that.

A *record* is an object with members of fixed names.  `record` writes one and
leaves absent members out; `members?` reads one back, from an object or from an
array that lists the members in order.  `members?_record` says that reading
finds exactly what was written.  A reader undoes a writer when it reads back
each value that was written; a value that the writer leaves out is the one that
the reader puts in its place.
-/

namespace EntityLink

/-- A JSON value.  Numbers are integers, or keep their text; `unreadable` stands
for a value whose outline was recognised in a text but which no reader may use
(nested too deep, or with half a surrogate pair in a string). -/
inductive Json where
  | null
  | bool (value : Bool)
  | integer (value : Int)
  | decimal (text : String)
  | string (value : String)
  | array (items : List Json)
  | object (members : List (String × Json))
  | unreadable
  deriving Inhabited

namespace Json

/-- Writes a record, leaving out the members without a value. -/
def record (fields : List (String × Option Json)) : Json :=
  .object (fields.filterMap fun field => field.2.map (field.1, ·))

/-- Reads the members of a record in the order of their names.  A member of
another name is passed over, a repeated one is refused.  An array gives the
members by position; the last ones may be missing, but there may be no more than
the record has. -/
def members? (names : List String) : Json → Option (List (Option Json))
  | .object members =>
      if names.all fun name =>
          (members.filter fun member => member.1 == name).length ≤ 1 then
        some (names.map fun name => members.lookup name)
      else none
  | .array items =>
      if items.length ≤ names.length then
        some ((List.range names.length).map fun position => items[position]?)
      else none
  | _ => none

/-- Says whether an object has members of the given names only. -/
def onlyMembers (names : List String) : Json → Bool
  | .object members => members.all fun member => names.contains member.1
  | _ => true

/-- Drops the elements of an array beyond a count. -/
def truncated (count : Nat) : Json → Json
  | .array items => .array (items.take count)
  | json => json

mutual

/-- Says whether a value is readable in all its parts, its numbers in double
precision. -/
def isReadable : Json → Bool
  | .array items => areReadable items
  | .object members => membersReadable members
  | .integer value => (Scaled.ofChars (toString value).toList).fits
  | .decimal text => (Scaled.ofChars text.toList).fits
  | .unreadable => false
  | .null | .bool _ | .string _ => true

/-- Says whether every value of a list is readable in all its parts. -/
def areReadable : List Json → Bool
  | [] => true
  | item :: items => item.isReadable && areReadable items

/-- Says whether every member's value is readable in all its parts. -/
def membersReadable : List (String × Json) → Bool
  | [] => true
  | (_, value) :: members => value.isReadable && membersReadable members

end

def string? : Json → Option String
  | .string value => some value
  | _ => none

def bool? : Json → Option Bool
  | .bool value => some value
  | _ => none

/-- Reads a number of sixty-four bits. -/
def int64? : Json → Option Int64
  | .integer value =>
      if Int64.minValue.toInt ≤ value ∧ value ≤ Int64.maxValue.toInt then
        some (.ofInt value)
      else none
  | _ => none

/-- Reads a list, each element by a reader of its own. -/
def list? {α : Type} (read? : Json → Option α) : Json → Option (List α)
  | .array items => items.mapM read?
  | _ => none

/-- Reads the name of an alternative without contents: the name, or an object
with the name as its only member and nothing in it. -/
def alternative? : Json → Option String
  | .string name => some name
  | .object [(name, .null)] => some name
  | _ => none

/-- The value of a member that a writer leaves out under some condition. -/
def omitIf (leftOut : Bool) (json : Json) : Option Json :=
  if leftOut then none else some json

/-- Reads a member that has to be there. -/
def required {α : Type} (read? : Json → Option α) : Option Json → Option α
  | some json => read? json
  | none => none

/-- Reads a member that may be missing or null. -/
def optional {α : Type} (read? : Json → Option α) :
    Option Json → Option (Option α)
  | none | some .null => some none
  | some json => (read? json).map some

/-- Reads a member that has a value of its own when missing. -/
def defaulted {α : Type} (read? : Json → Option α) (missing : α) :
    Option Json → Option α
  | none => some missing
  | some json => read? json

theorem sizeOf_lt_of_members? {names : List String} {json value : Json}
    {values : List (Option Json)} (found : json.members? names = some values)
    (member : some value ∈ values) : sizeOf value < sizeOf json := by
  match json with
  | .object members =>
      simp only [members?] at found
      split at found
      · cases found
        obtain ⟨name, _, looked⟩ := List.mem_map.1 member
        have inMembers : (name, value) ∈ members := by
          obtain ⟨before, after, split, _⟩ := List.lookup_eq_some_iff.1 looked
          simp [split]
        have := List.sizeOf_lt_of_mem inMembers
        simp only [Prod.mk.sizeOf_spec, Json.object.sizeOf_spec] at this ⊢
        omega
      · cases found
  | .array items =>
      simp only [members?] at found
      split at found
      · cases found
        obtain ⟨position, _, stored⟩ := List.mem_map.1 member
        have := List.sizeOf_lt_of_mem (List.mem_of_getElem? stored)
        simp only [Json.array.sizeOf_spec]
        omega
      · cases found
  | .null | .bool _ | .integer _ | .decimal _ | .string _ | .unreadable =>
      cases found

private theorem lookup_filterMap_of_not_mem
    {fields : List (String × Option Json)} {name : String}
    (absent : name ∉ fields.map Prod.fst) :
    (fields.filterMap fun field => field.2.map (field.1, ·)).lookup
      name = none := by
  induction fields with
  | nil => rfl
  | cons field rest induction =>
      obtain ⟨first, value⟩ := field
      simp only [List.map_cons, List.mem_cons, not_or] at absent
      have different : (name == first) = false := by simpa using absent.1
      cases value with
      | none => simpa using induction absent.2
      | some json =>
          simpa [List.lookup_cons, different] using induction absent.2

private theorem filter_filterMap_of_not_mem
    {fields : List (String × Option Json)} {name : String}
    (absent : name ∉ fields.map Prod.fst) :
    (fields.filterMap fun field => field.2.map (field.1, ·)).filter
      (fun member => member.1 == name) = [] := by
  induction fields with
  | nil => rfl
  | cons field rest induction =>
      obtain ⟨first, value⟩ := field
      simp only [List.map_cons, List.mem_cons, not_or] at absent
      have different : (first == name) = false := by
        simpa using Ne.symm absent.1
      cases value with
      | none => simpa using induction absent.2
      | some json =>
          simpa [List.filter_cons, different] using induction absent.2

private theorem lookup_filterMap {fields : List (String × Option Json)}
    (distinct : (fields.map Prod.fst).Nodup) {field : String × Option Json}
    (member : field ∈ fields) :
    (fields.filterMap fun field => field.2.map (field.1, ·)).lookup field.1 =
      field.2 := by
  induction fields with
  | nil => cases member
  | cons head rest induction =>
      obtain ⟨first, value⟩ := head
      simp only [List.map_cons, List.nodup_cons] at distinct
      rcases List.mem_cons.1 member with same | inRest
      · subst same
        cases value with
        | none => simpa using lookup_filterMap_of_not_mem distinct.1
        | some json => simp
      · have different : (field.1 == first) = false := by
          have : field.1 ≠ first := fun same =>
            distinct.1 (same ▸ List.mem_map_of_mem inRest)
          simpa using this
        cases value with
        | none => simpa using induction distinct.2 inRest
        | some json => simpa [List.lookup_cons,
          different] using induction distinct.2 inRest

private theorem length_filter_filterMap_le
    {fields : List (String × Option Json)}
    (distinct : (fields.map Prod.fst).Nodup) (name : String) :
    ((fields.filterMap fun field => field.2.map (field.1, ·)).filter
      (fun member => member.1 == name)).length ≤ 1 := by
  induction fields with
  | nil => simp
  | cons head rest induction =>
      obtain ⟨first, value⟩ := head
      simp only [List.map_cons, List.nodup_cons] at distinct
      cases value with
      | none => simpa using induction distinct.2
      | some json =>
          by_cases same : first = name
          · subst same
            simp [filter_filterMap_of_not_mem distinct.1]
          · have different : (first == name) = false := by simpa using same
            simpa [List.filter_cons, different] using induction distinct.2

/-- Asking a record for some of its members finds each as it was written, the
absent ones included. -/
theorem members?_record_of_mem (fields : List (String × Option Json))
    (distinct : (fields.map Prod.fst).Nodup)
    (asked : List (String × Option Json))
    (written : ∀ field ∈ asked, field ∈ fields) :
    (record fields).members? (asked.map Prod.fst) =
      some (asked.map Prod.snd) := by
  have single : (asked.map Prod.fst).all (fun name =>
      ((fields.filterMap fun field => field.2.map (field.1, ·)).filter
        fun member => member.1 == name).length ≤ 1) = true := by
    simp only [List.all_eq_true, decide_eq_true_eq]
    exact fun name _ => length_filter_filterMap_le distinct name
  simp only [record, members?, single, if_true, Option.some.injEq, List.map_map]
  exact List.map_congr_left fun field member =>
    lookup_filterMap distinct (written field member)

/-- Reading a record finds all members as they were written. -/
theorem members?_record (fields : List (String × Option Json))
    (distinct : (fields.map Prod.fst).Nodup) :
    (record fields).members? (fields.map Prod.fst) =
      some (fields.map Prod.snd) :=
  members?_record_of_mem fields distinct fields fun _ member => member

theorem members?_of_eq_record {json : Json} {names : List String}
    {fields : List (String × Option Json)} (written : json = record fields)
    (named : fields.map Prod.fst = names) (distinct : names.Nodup) :
    json.members? names = some (fields.map Prod.snd) := by
  subst written named
  exact members?_record fields distinct

@[simp]
theorem string?_string (value : String) :
    string? (.string value) = some value := rfl

@[simp]
theorem bool?_bool (value : Bool) : bool? (.bool value) = some value := rfl

@[simp]
theorem int64?_integer (value : Int64) :
    int64? (.integer value.toInt) = some value := by
  have bounds :
      Int64.minValue.toInt ≤ value.toInt ∧ value.toInt ≤ Int64.maxValue.toInt :=
    ⟨Int64.minValue_le_toInt value, Int64.toInt_le value⟩
  rw [int64?, if_pos bounds, Int64.ofInt_toInt]

section

variable {α : Type} {read? : Json → Option α} {write : α → Json}

@[simp]
theorem required_some (json : Json) :
    required read? (some json) = read? json := rfl

@[simp]
theorem defaulted_some (missing : α) (json : Json) :
    defaulted read? missing (some json) = read? json := rfl

@[simp]
theorem list?_map (undone : ∀ value, read? (write value) = some value)
    (values : List α) :
    list? read? (.array (values.map write)) = some values := by
  rw [list?]
  induction values with
  | nil => rfl
  | cons value values induction => simp [undone, induction]

theorem optional_of_ne_null {json : Json} (notNull : json ≠ .null) :
    optional read? (some json) = (read? json).map some := by
  rw [optional]
  exact notNull

/-- A reader that refuses null finds an absent value absent and a written one
written. -/
theorem optional_map (undone : ∀ value, read? (write value) = some value)
    (refusesNull : read? .null = none) (value : Option α) :
    optional read? (value.map write) = some value := by
  cases value with
  | none => rfl
  | some value =>
      have notNull : write value ≠ .null := by
        intro null
        have read := undone value
        rw [null, refusesNull] at read
        cases read
      rw [Option.map_some, optional_of_ne_null notNull, undone, Option.map_some]

theorem defaulted_omitIf {leftOut : Bool} {missing value : α} {json : Json}
    (undone : read? json = some value)
    (same : leftOut = true → value = missing) :
    defaulted read? missing (omitIf leftOut json) = some value := by
  cases leftOut with
  | false => exact undone
  | true => exact congrArg some (same rfl).symm

@[simp]
theorem defaulted_list (undone : ∀ value, read? (write value) = some value)
    (values : List α) :
    defaulted (list? read?) []
        (omitIf values.isEmpty (.array (values.map write))) =
      some values :=
  defaulted_omitIf (list?_map undone values) List.isEmpty_iff.1

end

@[simp]
theorem optional_text (text : Option String) :
    optional string? (text.map .string) = some text :=
  @optional_map String string? .string (fun _ => rfl) rfl text

@[simp]
theorem defaulted_text (text : String) :
    defaulted string? "" (omitIf text.isEmpty (.string text)) = some text :=
  defaulted_omitIf rfl String.isEmpty_iff.1

@[simp]
theorem defaulted_flag (flag : Bool) :
    defaulted bool? false (omitIf (!flag) (.bool flag)) = some flag := by
  cases flag with
  | false => rfl
  | true => rfl

end Json

end EntityLink
