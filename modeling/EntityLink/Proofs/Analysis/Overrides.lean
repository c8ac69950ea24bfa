import EntityLink.Proofs.Class.Chain
import EntityLink.Replacement

/-!
# Overrides along a chain

The stored names given along the lineage of a class are written into one table,
the farthest class first.  What is left in the end comes from the nearest class
that says anything of a property: from the last of its getters that does, or
from the last of its fields if no getter does (`find?_classMappings_nearest`).
A chain that runs in a circle writes some classes several times, and the first
of them still counts.
-/

namespace EntityLink

section Lookup

variable {α β : Type} {entry : α → Option (String × β)} {items : List α}
  {name : String}

/-- The value with which an item is listed under a name. -/
def valueUnder? (entry : α → Option (String × β)) (name : String) (item : α) :
    Option β :=
  (entry item).bind fun pair => if name = pair.1 then some pair.2 else none

theorem valueUnder?_eq_some_iff {item : α} {value : β} :
    valueUnder? entry name item = some value ↔
      entry item = some (name, value) := by
  unfold valueUnder?
  cases entry item with
  | none => simp
  | some pair =>
      obtain ⟨first, second⟩ := pair
      simp [eq_comm]

theorem valueUnder?_eq_none_iff {item : α} :
    valueUnder? entry name item = none ↔
      ∀ value, entry item ≠ some (name, value) := by
  simp only [Option.eq_none_iff_forall_ne_some, ne_eq, valueUnder?_eq_some_iff]

theorem lookup_filterMap_eq_findSome? :
    (items.filterMap entry).lookup name =
      items.findSome? (valueUnder? entry name) := by
  induction items with
  | nil => rfl
  | cons item items induction =>
      cases made : entry item with
      | none =>
          rw [List.filterMap_cons_none made, induction, List.findSome?_cons,
            valueUnder?, made]
          rfl
      | some pair =>
          rw [List.filterMap_cons_some made, List.lookup_cons,
            List.findSome?_cons, induction, valueUnder?, made, Option.bind_some]
          by_cases same : name = pair.1
          · simp [same]
          · have differs : (name == pair.1) = false := by simpa using same
            simp [same, differs]

theorem lookup_reverse_filterMap_eq_some_iff {value : β} :
    (items.filterMap entry).reverse.lookup name = some value ↔
      ∃ before item after, items = before ++ item :: after ∧
        entry item = some (name, value) ∧
        ∀ later ∈ after, ∀ other, entry later ≠ some (name, other) := by
  rw [← List.filterMap_reverse, lookup_filterMap_eq_findSome?,
    List.findSome?_eq_some_iff]
  simp only [valueUnder?_eq_some_iff, valueUnder?_eq_none_iff]
  constructor
  · rintro ⟨after, item, before, split, made, last⟩
    refine ⟨before.reverse, item, after.reverse, ?_, made, ?_⟩
    · simpa using congrArg List.reverse split
    · intro later member
      exact last later (List.mem_reverse.1 member)
  · rintro ⟨before, item, after, rfl, made, last⟩
    refine ⟨after.reverse, item, before.reverse, by simp, made, ?_⟩
    intro later member
    exact last later (List.mem_reverse.1 member)

theorem lookup_reverse_filterMap_eq_none_iff :
    (items.filterMap entry).reverse.lookup name = none ↔
      ∀ item ∈ items, ∀ value, entry item ≠ some (name, value) := by
  rw [← List.filterMap_reverse, lookup_filterMap_eq_findSome?,
    List.findSome?_eq_none_iff]
  simp only [List.mem_reverse, valueUnder?_eq_none_iff]

/-- Of pairs that are listed layer by layer, the farthest layer first, the last
of a name comes from the nearest layer that has one. -/
theorem lookup_reverse_flatMap (pairsOf : α → List (String × β))
    (layers : List α) :
    (layers.reverse.flatMap pairsOf).reverse.lookup name =
      layers.findSome? fun layer => (pairsOf layer).reverse.lookup name := by
  induction layers with
  | nil => rfl
  | cons layer layers induction =>
      rw [List.reverse_cons, List.flatMap_append,
        List.reverse_append, List.lookup_append, induction, List.findSome?_cons,
        List.flatMap_singleton]
      cases (pairsOf layer).reverse.lookup name <;> rfl

end Lookup

/-- A method is a getter of a property and gives it a stored name. -/
structure MethodDecl.Renames (config : Config) (property stored : String)
    (method : MethodDecl) : Prop where
  notStatic : method.isStatic = false
  reads : Accessor.getterProperty? config.getterPrefix method.name =
    some property
  given : method.property = some stored

/-- A field is a property and gives it a stored name. -/
structure FieldDecl.Renames (property stored : String) (field : FieldDecl) :
    Prop where
  named : field.name = property
  given : field.property = some stored

namespace ClassDecl

variable {config : Config} {decl : ClassDecl} {property stored : String}

/-- Some getter or field of a class gives a property a stored name. -/
def GivesName (config : Config) (property : String) (decl : ClassDecl) : Prop :=
  (∃ method ∈ decl.methods, ∃ stored, method.Renames config property stored) ∨
    ∃ field ∈ decl.fields, ∃ stored, field.Renames property stored

/-- What a class says of a property in the end: the last of its getters that say
something decides, or the last of its fields if no getter does. -/
inductive Renames (config : Config) (property stored : String)
    (decl : ClassDecl) : Prop where
  | getter {before after : List MethodDecl} {method : MethodDecl}
      (split : decl.methods = before ++ method :: after)
      (renames : method.Renames config property stored)
      (last : ∀ later ∈ after, ∀ other, ¬later.Renames config property other)
  | field {before after : List FieldDecl} {field : FieldDecl}
      (noGetter : ∀ method ∈ decl.methods, ∀ other,
        ¬method.Renames config property other)
      (split : decl.fields = before ++ field :: after)
      (renames : field.Renames property stored)
      (last : ∀ later ∈ after, ∀ other, ¬later.Renames property other)

theorem fieldOverride_eq_some_iff {field : FieldDecl} :
    field.property.map (field.name, ·) = some (property, stored) ↔
      field.Renames property stored := by
  constructor
  · intro made
    obtain ⟨given, found, equality⟩ := Option.map_eq_some_iff.1 made
    cases equality
    exact ⟨rfl, found⟩
  · rintro ⟨rfl, given⟩
    rw [given]
    rfl

theorem getterOverrides_eq (config : Config) (decl : ClassDecl) :
    decl.getterOverrides config = decl.methods.filterMap fun method =>
      if method.isStatic then none
      else (Accessor.getterProperty? config.getterPrefix method.name).bind
          fun name =>
            method.property.map (name, ·) := by
  rw [getterOverrides, List.filterMap_filter]
  refine congrArg (decl.methods.filterMap ·) (funext fun method => ?_)
  cases method.isStatic <;> cases method.property <;>
    cases Accessor.getterProperty? config.getterPrefix method.name <;> rfl

theorem getterOverride_eq_some_iff {method : MethodDecl} :
    (if method.isStatic then none
      else (Accessor.getterProperty? config.getterPrefix method.name).bind
          fun name =>
            method.property.map (name, ·)) = some (property, stored) ↔
      method.Renames config property stored := by
  constructor
  · intro made
    split at made
    · cases made
    next notStatic =>
      obtain ⟨name, reads, made⟩ := Option.bind_eq_some_iff.1 made
      obtain ⟨given, found, equality⟩ := Option.map_eq_some_iff.1 made
      cases equality
      exact ⟨by simpa using notStatic, reads, found⟩
  · rintro ⟨notStatic, reads, given⟩
    simp [notStatic, reads, given]

theorem lookup_overrides_eq_some_iff :
    (decl.overrides config).reverse.lookup property = some stored ↔
      decl.Renames config property stored := by
  rw [overrides, List.reverse_append, List.lookup_append, Option.or_eq_some_iff,
    getterOverrides_eq, fieldOverrides, lookup_reverse_filterMap_eq_some_iff,
    lookup_reverse_filterMap_eq_some_iff, lookup_reverse_filterMap_eq_none_iff]
  simp only [ne_eq, getterOverride_eq_some_iff, fieldOverride_eq_some_iff]
  constructor
  · rintro (⟨before, method, after, split, renames, last⟩ |
      ⟨noGetter, before, field, after, split, renames, last⟩)
    · exact .getter split renames last
    · exact .field noGetter split renames last
  · intro renames
    cases renames with
    | getter split renames last => exact .inl ⟨_, _, _, split, renames, last⟩
    | field noGetter split renames last =>
        exact .inr ⟨noGetter, _, _, _, split, renames, last⟩

theorem lookup_overrides_eq_none_iff :
    (decl.overrides config).reverse.lookup property = none ↔
      ¬decl.GivesName config property := by
  rw [overrides, List.reverse_append, List.lookup_append, Option.or_eq_none_iff,
    getterOverrides_eq, fieldOverrides, lookup_reverse_filterMap_eq_none_iff,
    lookup_reverse_filterMap_eq_none_iff]
  simp only [ne_eq, getterOverride_eq_some_iff, fieldOverride_eq_some_iff]
  simp [GivesName]

end ClassDecl

namespace ClassIndex

variable {index : ClassIndex} {config : Config} {decl : ClassDecl}
  {property : String}

theorem find?_classMappings (indexed : index.get? decl.path = some decl) :
    (index.classMappings config decl.path).find? property =
      (index.chain config.rootType decl).findSome? fun link =>
        (link.overrides config).reverse.lookup property := by
  have mappings : index.classMappings config decl.path =
      Dict.setAll .empty ((index.lineage config.rootType decl).flatMap
        (ClassDecl.overrides config)) := by
    rw [classMappings, indexed]
  rw [mappings, Dict.find?_setAll, Dict.find?_empty, Option.or_none,
    lineage_eq_reverse_chain, lookup_reverse_flatMap]

/-- The table of a class has a property exactly when some class of its chain
says something of it, and the stored name is what the nearest such class
says. -/
theorem find?_classMappings_nearest (index : ClassIndex) (config : Config)
    (decl : ClassDecl) (indexed : index.get? decl.path = some decl)
    (property : String) :
    (((index.classMappings config decl.path).find? property).isSome = true ↔
      ∃ link ∈ index.chain config.rootType decl,
        link.GivesName config property) ∧
    ∀ stored, (index.classMappings config decl.path).find? property =
        some stored ↔
      ∃ below link above,
        index.chain config.rootType decl = below ++ link :: above ∧
        link.Renames config property stored ∧
        ∀ lower ∈ below, ¬lower.GivesName config property := by
  rw [find?_classMappings indexed]
  constructor
  · rw [Option.isSome_iff_ne_none, ne_eq, List.findSome?_eq_none_iff]
    simp only [ClassDecl.lookup_overrides_eq_none_iff, Classical.not_forall,
      Classical.not_not, exists_prop]
  · intro stored
    simp only [List.findSome?_eq_some_iff,
      ClassDecl.lookup_overrides_eq_some_iff,
      ClassDecl.lookup_overrides_eq_none_iff]

end ClassIndex

namespace Bakery

/-- Two of its three getters speak for its weight, the last of these as
`getWeight`. -/
def loaf : ClassDecl where
  path := "app::Loaf"
  superclass := some "app::Dough"
  fields :=
    [{ name := "weight", type := .named "i64", property := some "mass" }]
  methods := [
    { name := "get_weight", property := some "net" },
    { name := "getWeight", property := some "gross" },
    { name := "get_weight", isStatic := true, property := some "tare" }]

def dough : ClassDecl where
  path := "app::Dough"
  superclass := some "app::Loaf"
  fields := [
    { name := "weight", type := .named "i64", property := some "raw" },
    { name := "flour", type := .named "String", property := some "grain" }]

def index : ClassIndex := .ofList [loaf, dough]

end Bakery

/-- The chain of the loaf comes back to it, behind the dough. -/
theorem ClassIndex.find?_classMappings_nearest_loaf :
    Bakery.index.get? "app::Loaf" = some Bakery.loaf ∧
      Bakery.index.chain "object" Bakery.loaf =
        [Bakery.loaf, Bakery.dough, Bakery.loaf] ∧
      (Bakery.index.classMappings {} "app::Loaf").find? "weight" =
        some "gross" ∧
      (Bakery.index.classMappings {} "app::Loaf").find? "flour" =
        some "grain" := by
  have facts : Bakery.index.get? "app::Loaf" = some Bakery.loaf ∧
      Bakery.index.chain "object" Bakery.loaf =
        [Bakery.loaf, Bakery.dough, Bakery.loaf] ∧
      (Bakery.loaf.overrides {}).reverse.lookup "weight" = some "gross" ∧
      (Bakery.loaf.overrides {}).reverse.lookup "flour" = none ∧
      (Bakery.dough.overrides {}).reverse.lookup "flour" = some "grain" := by
    decide +kernel
  obtain ⟨indexed, chain, loafWeight, loafFlour, doughFlour⟩ := facts
  have nearest :=
    find?_classMappings_nearest Bakery.index {} Bakery.loaf indexed
  refine ⟨indexed, chain, ((nearest "weight").2 "gross").2 ?_,
    ((nearest "flour").2 "grain").2 ?_⟩
  · exact ⟨[], _, _, chain,
      ClassDecl.lookup_overrides_eq_some_iff.1 loafWeight, by simp⟩
  · refine ⟨[Bakery.loaf], _, _, chain,
      ClassDecl.lookup_overrides_eq_some_iff.1 doughFlour, ?_⟩
    intro lower member
    rw [List.mem_singleton.1 member]
    exact ClassDecl.lookup_overrides_eq_none_iff.1 loafFlour

end EntityLink
