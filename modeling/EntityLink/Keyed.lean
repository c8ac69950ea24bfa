/-!
# Collections in ascending key order

A `Keyed` collection holds at most one value per key and lists its values in
ascending order of their keys, so two collections with the same values are
equal.  The order is part of the type: `insert` is the only way in, and `toList`
the only way out.

`get?_insert` says what a lookup finds after an insertion, and
`get?_eq_some_iff` that lookup and membership agree.
-/

namespace EntityLink

/-- A finite collection with one value per key, listed in ascending key
order. -/
structure Keyed (α : Type) (key : α → String) where
  toList : List α
  ascending : toList.Pairwise fun left right => key left < key right

namespace Keyed

variable {α : Type} {key : α → String}

theorem ext {left right : Keyed α key} (same : left.toList = right.toList) :
    left = right := by
  cases left
  cases right
  cases same
  rfl

instance [DecidableEq α] : DecidableEq (Keyed α key) := fun left right =>
  if same : left.toList = right.toList then isTrue (ext same)
  else isFalse fun equality => same (equality ▸ rfl)

def empty : Keyed α key := ⟨[], .nil⟩

instance : Inhabited (Keyed α key) := ⟨empty⟩

instance : EmptyCollection (Keyed α key) := ⟨empty⟩

/-- Places a value at its key in an ascending list; a value with the same key
gives way to it. -/
def place (key : α → String) (value : α) : List α → List α
  | [] => [value]
  | head :: tail =>
      if key value < key head then value :: head :: tail
      else if key value = key head then value :: tail
      else head :: place key value tail

theorem mem_of_mem_place {value candidate : α} {values : List α}
    (member : candidate ∈ place key value values) :
    candidate = value ∨ candidate ∈ values := by
  induction values with
  | nil => simpa [place] using member
  | cons head tail induction =>
      simp only [place] at member
      split at member
      · simpa using member
      · split at member
        · rcases List.mem_cons.1 member with same | inTail
          · exact .inl same
          · exact .inr (List.mem_cons_of_mem _ inTail)
        · rcases List.mem_cons.1 member with same | inTail
          · exact .inr (same ▸ List.mem_cons_self)
          · rcases induction inTail with same | inTail
            · exact .inl same
            · exact .inr (List.mem_cons_of_mem _ inTail)

private theorem lt_of_not_lt_of_ne {left right : String}
    (notLess : ¬left < right) (different : left ≠ right) :
    right < left := by
  rcases Std.lt_trichotomy left right with less | same | greater
  · exact absurd less notLess
  · exact absurd same different
  · exact greater

theorem pairwise_place (value : α) {values : List α}
    (ascending : values.Pairwise fun left right => key left < key right) :
    (place key value values).Pairwise fun left right =>
      key left < key right := by
  induction values with
  | nil => simp [place]
  | cons head tail induction =>
      have ⟨headLess, tailAscending⟩ := List.pairwise_cons.1 ascending
      simp only [place]
      split
      next less =>
        refine List.pairwise_cons.2 ⟨?_, ascending⟩
        intro other member
        rcases List.mem_cons.1 member with same | inTail
        · exact same ▸ less
        · exact String.lt_trans less (headLess other inTail)
      next notLess =>
        split
        next same =>
          refine List.pairwise_cons.2 ⟨?_, tailAscending⟩
          intro other inTail
          exact same ▸ headLess other inTail
        next different =>
          refine List.pairwise_cons.2 ⟨?_, induction tailAscending⟩
          intro other member
          rcases mem_of_mem_place member with same | inTail
          · exact same ▸ lt_of_not_lt_of_ne notLess different
          · exact headLess other inTail

/-- Adds a value, in place of an earlier one with the same key. -/
def insert (collection : Keyed α key) (value : α) : Keyed α key :=
  ⟨place key value collection.toList, pairwise_place value collection.ascending⟩

/-- Collects a list of values; of several with one key the last stays. -/
def ofList (values : List α) : Keyed α key :=
  values.foldl insert empty

def get? (collection : Keyed α key) (sought : String) : Option α :=
  collection.toList.find? fun value => key value == sought

def contains (collection : Keyed α key) (sought : String) : Bool :=
  (collection.get? sought).isSome

def size (collection : Keyed α key) : Nat :=
  collection.toList.length

def isEmpty (collection : Keyed α key) : Bool :=
  collection.toList.isEmpty

/-- Lists the keys in ascending order. -/
def keys (collection : Keyed α key) : List String :=
  collection.toList.map key

theorem key_of_get? {collection : Keyed α key} {sought : String} {value : α}
    (found : collection.get? sought = some value) : key value = sought := by
  simpa using List.find?_some found

theorem mem_of_get? {collection : Keyed α key} {sought : String} {value : α}
    (found : collection.get? sought = some value) : value ∈ collection.toList :=
  List.mem_of_find?_eq_some found

private theorem find?_eq_of_mem {values : List α}
    (ascending : values.Pairwise fun left right => key left < key right)
    {value : α} (member : value ∈ values) :
    values.find? (fun candidate => key candidate == key value) =
      some value := by
  induction values with
  | nil => cases member
  | cons head tail induction =>
      have ⟨headLess, tailAscending⟩ := List.pairwise_cons.1 ascending
      rcases List.mem_cons.1 member with same | inTail
      · simp [same]
      · have different : key head ≠ key value := fun same =>
          String.lt_irrefl _ (same ▸ headLess value inTail)
        rw [List.find?_cons_of_neg (by simpa using different)]
        exact induction tailAscending inTail

theorem get?_of_mem {collection : Keyed α key} {value : α}
    (member : value ∈ collection.toList) :
    collection.get? (key value) = some value :=
  find?_eq_of_mem collection.ascending member

/-- A lookup finds exactly the listed value with that key. -/
theorem get?_eq_some_iff {collection : Keyed α key} {sought : String}
    {value : α} :
    collection.get? sought = some value ↔
      value ∈ collection.toList ∧ key value = sought :=
  ⟨fun found => ⟨mem_of_get? found, key_of_get? found⟩,
    fun ⟨member, same⟩ => same ▸ get?_of_mem member⟩

@[simp]
theorem get?_empty (sought : String) :
    (empty : Keyed α key).get? sought = none := rfl

private theorem find?_place (value : α) (sought : String) {values : List α}
    (ascending : values.Pairwise fun left right => key left < key right) :
    (place key value values).find? (fun candidate => key candidate == sought) =
      if key value = sought then some value
      else values.find? fun candidate => key candidate == sought := by
  induction values with
  | nil => by_cases same : key value = sought <;> simp [place, same]
  | cons head tail induction =>
      have ⟨_, tailAscending⟩ := List.pairwise_cons.1 ascending
      simp only [place]
      split
      · by_cases same : key value = sought <;> simp [List.find?_cons, same]
      · split
        next valueKey =>
          by_cases same : key value = sought
          · simp [same]
          · have headDifferent : ¬key head = sought := valueKey ▸ same
            simp [same, headDifferent]
        next valueKey =>
          by_cases headSame : key head = sought
          · have different : ¬key value = sought := fun same =>
              valueKey (same.trans headSame.symm)
            simp [headSame, different]
          · simp [headSame, induction tailAscending]

/-- The only listed value with a key is the one that a lookup finds. -/
theorem filter_key_toList (collection : Keyed α key) (sought : String) :
    (collection.toList.filter fun value => key value == sought) =
      (collection.get? sought).toList := by
  obtain ⟨values, ascending⟩ := collection
  change _ = (values.find? _).toList
  induction values with
  | nil => rfl
  | cons head tail induction =>
      have ⟨headLess, tailAscending⟩ := List.pairwise_cons.1 ascending
      by_cases same : key head = sought
      · have noOther : tail.filter (fun value => key value == sought) = [] := by
          refine List.filter_eq_nil_iff.2 fun value member => ?_
          have less := headLess value member
          simpa using fun equal : key value = sought =>
            String.lt_irrefl _ ((same.trans equal.symm) ▸ less)
        simp [same, noOther]
      · simp [same, induction tailAscending]

private theorem length_le_length_place (value : α) (values : List α) :
    values.length ≤ (place key value values).length := by
  induction values with
  | nil => simp [place]
  | cons head tail induction =>
      simp only [place]
      split
      · simp
      · split
        · simp
        · simpa using induction

theorem size_le_size_insert (collection : Keyed α key) (value : α) :
    collection.size ≤ (collection.insert value).size :=
  length_le_length_place value collection.toList

theorem pairwise_keys (collection : Keyed α key) :
    collection.keys.Pairwise (· < ·) :=
  List.pairwise_map.2 collection.ascending

theorem nodup_keys (collection : Keyed α key) : collection.keys.Nodup := by
  apply collection.pairwise_keys.imp
  intro left right less same
  exact String.lt_irrefl _ (same ▸ less)

/-- After an insertion a lookup finds the new value at its key and the old ones
elsewhere. -/
theorem get?_insert (collection : Keyed α key) (value : α) (sought : String) :
    (collection.insert value).get? sought =
      if key value = sought then some value else collection.get? sought :=
  find?_place value sought collection.ascending

/-- After several insertions a lookup finds the last value that was inserted at
its key. -/
theorem get?_foldl_insert (start : Keyed α key) (values : List α)
    (sought : String) :
    (values.foldl insert start).get? sought =
      (values.reverse.find? fun value => key value == sought).or
        (start.get? sought) := by
  induction values generalizing start with
  | nil => rfl
  | cons value values induction =>
      rw [List.foldl_cons, induction, get?_insert, List.reverse_cons,
        List.find?_append, Option.or_assoc]
      congr 1
      by_cases same : key value = sought
      · simp [same]
      · simp [same]

private theorem place_of_above {value : α} {values : List α}
    (above : ∀ earlier ∈ values, key earlier < key value) :
    place key value values = values ++ [value] := by
  induction values with
  | nil => rfl
  | cons head tail induction =>
      have headLess : key head < key value := above head List.mem_cons_self
      have different : key value ≠ key head := fun same =>
        String.lt_irrefl _ (same ▸ headLess)
      rw [place, if_neg (String.lt_asymm headLess), if_neg different,
        induction fun earlier member =>
          above earlier (List.mem_cons_of_mem _ member)]
      rfl

private theorem toList_foldl_insert (start : Keyed α key) {values : List α}
    (ascending : (start.toList ++ values).Pairwise
      fun left right => key left < key right) :
    (values.foldl insert start).toList = start.toList ++ values := by
  induction values generalizing start with
  | nil => exact (List.append_nil _).symm
  | cons value values induction =>
      have placed : (start.insert value).toList = start.toList ++ [value] :=
        place_of_above fun earlier member =>
          (List.pairwise_append.1 ascending).2.2 earlier member value
            List.mem_cons_self
      rw [List.append_cons] at ascending ⊢
      rw [← placed] at ascending ⊢
      exact induction (start.insert value) ascending

/-- A list in ascending key order is collected as it is. -/
theorem toList_ofList {values : List α}
    (ascending : values.Pairwise fun left right => key left < key right) :
    (ofList values : Keyed α key).toList = values :=
  toList_foldl_insert empty ascending

end Keyed

/-- Among pairs with distinct names a lookup finds exactly the listed pairs. -/
theorem lookup_eq_some_iff_of_nodup {β : Type} {pairs : List (String × β)}
    (distinct : (pairs.map Prod.fst).Nodup) {name : String} {value : β} :
    pairs.lookup name = some value ↔ (name, value) ∈ pairs := by
  induction pairs with
  | nil => simp
  | cons pair pairs induction =>
      obtain ⟨first, stored⟩ := pair
      have ⟨firstAbsent, restDistinct⟩ := List.nodup_cons.1 distinct
      by_cases same : name = first
      · subst same
        have notLater : (name, value) ∉ pairs := fun member =>
          firstAbsent (List.mem_map.2 ⟨(name, value), member, rfl⟩)
        simp [notLater, eq_comm]
      · have differs : (name == first) = false := by simpa using same
        simp [List.lookup_cons, differs, same, induction restDistinct]

/-- A table from strings to values, in ascending order of the strings. -/
abbrev Dict (β : Type) : Type := Keyed (String × β) Prod.fst

namespace Dict

variable {β : Type}

def find? (table : Dict β) (sought : String) : Option β :=
  (table.get? sought).map Prod.snd

/-- Stores a value under a string, in place of an earlier one. -/
def set (table : Dict β) (name : String) (value : β) : Dict β :=
  table.insert (name, value)

/-- Stores the pairs of a list one after the other, so that the last pair with a
name stays. -/
def setAll (table : Dict β) (pairs : List (String × β)) : Dict β :=
  pairs.foldl (fun current pair => current.set pair.1 pair.2) table

@[simp]
theorem find?_empty (sought : String) :
    find? (Keyed.empty : Dict β) sought = none := rfl

theorem find?_set (table : Dict β) (name : String) (value : β)
    (sought : String) :
    (table.set name value).find? sought =
      if name = sought then some value else table.find? sought := by
  simp only [find?, set, Keyed.get?_insert]
  split <;> rfl

/-- A lookup finds the last pair of its name, else what was stored before. -/
theorem find?_setAll (table : Dict β) (pairs : List (String × β))
    (sought : String) :
    (table.setAll pairs).find? sought =
      (pairs.reverse.lookup sought).or (table.find? sought) := by
  induction pairs generalizing table with
  | nil => rfl
  | cons pair pairs induction =>
      obtain ⟨name, value⟩ := pair
      have step : table.setAll ((name, value) :: pairs) =
          (table.set name value).setAll pairs := rfl
      rw [step, induction, find?_set, List.reverse_cons, List.lookup_append,
        Option.or_assoc]
      congr 1
      by_cases same : name = sought
      · simp [same]
      · have different : (sought == name) = false := by
          simpa using fun equal => same equal.symm
        simp [List.lookup_cons, same, different]

theorem find?_setAll_of_nodup (table : Dict β) {pairs : List (String × β)}
    (distinct : (pairs.map Prod.fst).Nodup) (sought : String) :
    (table.setAll pairs).find? sought =
      (pairs.lookup sought).or (table.find? sought) := by
  have reversed : (pairs.reverse.map Prod.fst).Nodup := by
    rw [List.map_reverse]
    exact List.pairwise_reverse.2 (distinct.imp Ne.symm)
  have same : pairs.reverse.lookup sought = pairs.lookup sought := by
    apply Option.ext
    intro value
    rw [lookup_eq_some_iff_of_nodup reversed,
      lookup_eq_some_iff_of_nodup distinct, List.mem_reverse]
  rw [find?_setAll, same]

theorem isEmpty_eq_false_of_find? {table : Dict β} {name : String} {value : β}
    (found : table.find? name = some value) : table.isEmpty = false := by
  obtain ⟨pair, pairFound, _⟩ := Option.map_eq_some_iff.1 found
  have member := Keyed.mem_of_get? pairFound
  cases listed : table.toList with
  | nil => simp [listed] at member
  | cons first rest => simp [Keyed.isEmpty, listed]

end Dict

end EntityLink
