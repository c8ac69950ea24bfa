import EntityLink.BuildError
import EntityLink.Resolution.ModelField

/-!
# Models of entity classes

The fields of one entity class, those of its ancestors first.  A field declared
again by a subclass takes the place of its ancestor's, so names are distinct and
keep the order in which they first came up.  References and their holders pair
up: `relations` lists the pairs, and `unpaired?` finds a field without its
counterpart.
-/

namespace EntityLink

/-- The fields of an entity class, in order and with distinct names. -/
structure EntityModel where
  path : String
  fields : List ModelField
  distinct : (fields.map ModelField.name).Nodup

namespace EntityModel

theorem ext {left right : EntityModel} (paths : left.path = right.path)
    (fields : left.fields = right.fields) : left = right := by
  cases left
  cases right
  cases paths
  cases fields
  rfl

instance : DecidableEq EntityModel := fun left right =>
  if same : left.path = right.path ∧ left.fields = right.fields then
    isTrue (ext same.1 same.2)
  else isFalse fun equality => same (equality ▸ ⟨rfl, rfl⟩)

/-- The model without fields. -/
def empty (path : String) : EntityModel := ⟨path, [], .nil⟩

instance : Inhabited EntityModel := ⟨empty ""⟩

/-- Puts a field in the place of the one with its name, or at the end. -/
def place (field : ModelField) : List ModelField → List ModelField
  | [] => [field]
  | head :: tail =>
      if head.name = field.name then field :: tail else head :: place field tail

/-- Putting a field into its place keeps the names in order and adds a new name
at the end. -/
theorem map_name_place (field : ModelField) (fields : List ModelField) :
    (place field fields).map ModelField.name =
      if field.name ∈ fields.map ModelField.name then fields.map ModelField.name
      else fields.map ModelField.name ++ [field.name] := by
  induction fields with
  | nil => simp [place]
  | cons head tail induction =>
      by_cases same : head.name = field.name
      · simp [place, same]
      · have different : ¬field.name = head.name :=
          fun equality => same equality.symm
        simp only [place, same, if_false, List.map_cons, induction,
          List.mem_cons, different, false_or]
        split <;> simp

theorem nodup_place (field : ModelField) {fields : List ModelField}
    (distinct : (fields.map ModelField.name).Nodup) :
    ((place field fields).map ModelField.name).Nodup := by
  rw [map_name_place]
  split
  · exact distinct
  next absent =>
    refine List.nodup_append.2 ⟨distinct, by simp, ?_⟩
    intro name member other inSingle same
    simp only [List.mem_singleton] at inSingle
    exact absent (inSingle ▸ same ▸ member)

/-- Adds a field, in the place of an earlier one with its name. -/
def insert (model : EntityModel) (field : ModelField) : EntityModel :=
  ⟨model.path, place field model.fields, nodup_place field model.distinct⟩

def insertAll (model : EntityModel) (fields : List ModelField) : EntityModel :=
  fields.foldl insert model

def get? (model : EntityModel) (name : String) : Option ModelField :=
  model.fields.find? fun field => field.name == name

def names (model : EntityModel) : List String :=
  model.fields.map ModelField.name

def holder? (model : EntityModel) (name : String) : Option Holder :=
  (model.get? name).bind ModelField.holder?

def reference? (model : EntityModel) (name : String) : Option Reference :=
  (model.get? name).bind ModelField.reference?

/-- Lists the references in order, each with its holder. -/
def relations (model : EntityModel) : List (Reference × Holder) :=
  (model.fields.filterMap ModelField.reference?).filterMap fun reference =>
    (model.holder? reference.holderName).map (reference, ·)

def hasRelations (model : EntityModel) : Bool :=
  !model.relations.isEmpty

/-- Says what is wrong with a reference without its holder or a holder without
its reference. -/
def fieldFault? (model : EntityModel) : ModelField → Option BuildError
  | .plain _ _ => none
  | .reference reference =>
      if (model.holder? reference.holderName).any fun holder =>
        holder.ownerName == reference.name then none
      else some (.nameCollision model.path reference.name reference.holderName
        .slotTaken)
  | .holder holder =>
      if (model.reference? holder.ownerName).any fun reference =>
        reference.holderName == holder.name then none
      else some
        (.nameCollision model.path holder.ownerName holder.name .ownerShadowed)

/-- Finds the first reference without its holder or holder without its
reference. -/
def unpaired? (model : EntityModel) : Option BuildError :=
  model.fields.findSome? model.fieldFault?

end EntityModel

end EntityLink
