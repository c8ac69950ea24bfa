import EntityLink.Proofs.Class.Chain
import EntityLink.Proofs.Class.Superclasses

/-!
# Ancestors and subclasses

Two walks go up the superclass links of a class.  The one that lists ancestors
counts its steps and lists no more classes than there are; the one that collects
names stops at the first that comes again.  The first never ends too early: as
long as the second goes on, each step lists a class that was not seen before, so
there are steps for all of them (`mem_ancestors_iff_extends`).

It follows that the ancestors of a class are the scanned classes that it
extends, itself apart, that extending is transitive also where links run in a
circle or leave the scan, and what the list of the subclasses of a class holds.
-/

namespace EntityLink

namespace ClassIndex

variable {index : ClassIndex} {root : String}

/-- Where a walk up a chain stands: how many classes it may still list, and the
name that it has come to. -/
structure Walk where
  remaining : Nat
  next : Option String

/-- Lists the class that a walk has come to and goes on to its superclass,
unless the walk is at its end. -/
def Walk.step? (index : ClassIndex) (root : String) (walk : Walk) :
    Option (ClassDecl × Walk) :=
  match walk.next with
  | none => none
  | some name =>
      if name = root ∨ walk.remaining = 0 then none
      else (index.get? name).map fun decl =>
        (decl, ⟨walk.remaining - 1, decl.superclass⟩)

/-- A walk that comes to its end lists some classes on its way. -/
inductive Walk.Lists (index : ClassIndex) (root : String) :
    Walk → List ClassDecl → Prop where
  | ended {walk : Walk} (noStep : walk.step? index root = none) :
      Lists index root walk []
  | listed {walk later : Walk} {decl : ClassDecl} {links : List ClassDecl}
      (step : walk.step? index root = some (decl, later))
      (rest : Lists index root later links) :
      Lists index root walk (decl :: links)

theorem Walk.lists_ancestorsFrom (bound : Nat) (start : Option String) :
    Walk.Lists index root ⟨bound, start⟩
      (index.ancestorsFrom root bound start) := by
  fun_induction ancestorsFrom index root bound start with
  | case1 start => exact .ended (by cases start <;> simp [Walk.step?])
  | case2 bound => exact .ended rfl
  | case3 bound => exact .ended (by simp [Walk.step?])
  | case4 bound name _ missing => exact .ended (by simp [Walk.step?, missing])
  | case5 bound name notRoot decl found induction =>
      exact .listed (by simp [Walk.step?, notRoot, found]) induction

theorem length_ancestorsFrom_le (bound : Nat) (start : Option String) :
    (index.ancestorsFrom root bound start).length ≤ bound := by
  fun_induction ancestorsFrom index root bound start with
  | case1 => exact Nat.le_refl 0
  | case2 => exact Nat.zero_le _
  | case3 => exact Nat.zero_le _
  | case4 => exact Nat.zero_le _
  | case5 bound name _ decl _ induction => exact Nat.succ_le_succ induction

theorem countOutside_nil : index.countOutside [] = index.size := by
  simp [countOutside, Keyed.size]

/-- A walk with a step for each class that has not been visited yet lists every
scanned class whose name the other walk adds to the visited ones. -/
theorem mem_ancestorsFrom_of_mem_namesFrom {bound : Nat} {visited : List String}
    {start : Option String} (enough : index.countOutside visited ≤ bound)
    {link : ClassDecl} (indexed : index.get? link.path = some link)
    (unvisited : link.path ∉ visited)
    (member : link.path ∈ index.namesFrom root visited start) :
    link ∈ index.ancestorsFrom root bound start := by
  fun_induction namesFrom index root visited start generalizing bound with
  | case1 => exact absurd member unvisited
  | case2 => exact absurd member unvisited
  | case3 visited name _ missing =>
      rcases List.mem_cons.1 member with same | visitedBefore
      · rw [← same, indexed] at missing
        cases missing
      · exact absurd visitedBefore unvisited
  | case4 visited name goesOn decl found induction =>
      obtain ⟨notRoot, nameUnvisited⟩ := not_or.1 goesOn
      have fewer := countOutside_cons_lt found nameUnvisited
      obtain ⟨bound, rfl⟩ : ∃ left, bound = left + 1 := ⟨bound - 1, by omega⟩
      rw [ancestorsFrom_succ notRoot, found]
      by_cases here : link.path = name
      · rw [here, found] at indexed
        cases indexed
        exact List.mem_cons_self
      · have stillUnvisited : link.path ∉ name :: visited := by
          simp [here, unvisited]
        exact List.mem_cons_of_mem _
          (induction (by omega) stillUnvisited member)

/-- The ancestors of a class are the scanned classes that it extends. -/
theorem mem_ancestors_iff_extends {path : String} {link : ClassDecl} :
    link ∈ index.ancestors root path ↔
      index.get? link.path = some link ∧ index.Extends root path link.path := by
  constructor
  · intro member
    exact ⟨get?_of_mem_ancestorsFrom member, extends_of_mem_ancestors member⟩
  · rintro ⟨indexed, reached⟩
    have enough : index.countOutside [] ≤ index.size :=
      Nat.le_of_eq countOutside_nil
    exact mem_ancestorsFrom_of_mem_namesFrom enough indexed List.not_mem_nil
      (mem_superclassNames_iff.2 reached)

/-- The walk up a chain ends and lists no more classes than there are, among
them every other class that a subclass test finds the class to extend. -/
theorem mem_ancestors_iff_isSubclassOf (index : ClassIndex)
    (root path : String) :
    (∀ base ∈ index.toList, base.path ≠ path →
      (base ∈ index.ancestors root path ↔
        index.isSubclassOf root path base.path = true)) ∧
    Walk.Lists index root ⟨index.size, index.superclass? path⟩
      (index.ancestors root path) ∧
    (index.ancestors root path).length ≤ index.size := by
  refine ⟨?_, Walk.lists_ancestorsFrom _ _, length_ancestorsFrom_le _ _⟩
  intro base member apart
  rw [mem_ancestors_iff_extends, isSubclassOf_iff,
    and_iff_right (Keyed.get?_of_mem member), and_iff_right apart.symm]

end ClassIndex

namespace Roundabout

/-- Leads onto the circle. -/
def lane : ClassDecl where
  path := "app::Lane"
  superclass := some "app::North"

def north : ClassDecl where
  path := "app::North"
  superclass := some "app::South"

def south : ClassDecl where
  path := "app::South"
  superclass := some "app::North"

/-- Its superclass was not scanned. -/
def byway : ClassDecl where
  path := "app::Byway"
  superclass := some "lib::Road"

def index : ClassIndex := .ofList [lane, north, south, byway]

end Roundabout

/-- The walk from the lane goes round twice before its steps are used up. -/
theorem ClassIndex.mem_ancestors_iff_isSubclassOf_lane :
    Roundabout.south ∈ Roundabout.index.toList ∧
      Roundabout.south.path ≠ "app::Lane" ∧
      Roundabout.index.ancestors "object" "app::Lane" =
        [Roundabout.north, Roundabout.south, Roundabout.north,
          Roundabout.south] ∧
      Roundabout.index.isSubclassOf "object" "app::Lane" "app::South" = true ∧
      (Roundabout.index.ancestors "object" "app::Lane").length ≤
        Roundabout.index.size := by
  have facts : Roundabout.south ∈ Roundabout.index.toList ∧
      Roundabout.south.path ≠ "app::Lane" ∧
      Roundabout.index.ancestors "object" "app::Lane" =
        [Roundabout.north, Roundabout.south, Roundabout.north,
          Roundabout.south] := by
    decide
  obtain ⟨member, apart, listed⟩ := facts
  obtain ⟨listed_iff, _, few⟩ :=
    mem_ancestors_iff_isSubclassOf Roundabout.index "object" "app::Lane"
  refine ⟨member, apart, listed, (listed_iff _ member apart).1 ?_, few⟩
  simp [listed]

namespace ClassIndex

variable {index : ClassIndex} {root : String}

theorem isSubclassOf_trans {first second third : String}
    (lower : index.isSubclassOf root first second = true)
    (upper : index.isSubclassOf root second third = true)
    (apart : first ≠ third) :
    index.isSubclassOf root first third = true := by
  rw [isSubclassOf_iff] at lower upper ⊢
  exact ⟨apart, lower.2.trans upper.2⟩

theorem mem_knownSubclasses_iff {base : String} {decl : ClassDecl} :
    decl ∈ index.knownSubclasses root base ↔
      index.get? decl.path = some decl ∧
        index.isSubclassOf root decl.path base = true := by
  have listed_iff : decl ∈ index.toList ↔ index.get? decl.path = some decl :=
    ⟨Keyed.get?_of_mem, Keyed.mem_of_get?⟩
  rw [knownSubclasses, List.mem_filter, listed_iff]

theorem pairwise_knownSubclasses (base : String) :
    ((index.knownSubclasses root base).map ClassDecl.path).Pairwise (· < ·) :=
  List.pairwise_map.2 (index.ascending.filter _)

/-- A class extends those that links lead to, itself apart, so what extends a
class extends what that one extends.  The known subclasses of a class are the
scanned classes that extend it, in the order of their paths. -/
theorem isSubclassOf_knownSubclasses (index : ClassIndex) (root : String) :
    (∀ path base, index.isSubclassOf root path base = true ↔
      path ≠ base ∧ index.Extends root path base) ∧
    (∀ first second third, index.isSubclassOf root first second = true →
      index.isSubclassOf root second third = true → first ≠ third →
      index.isSubclassOf root first third = true) ∧
    ∀ base,
      ((index.knownSubclasses root base).map ClassDecl.path).Pairwise (· < ·) ∧
      ∀ decl, decl ∈ index.knownSubclasses root base ↔
        index.get? decl.path = some decl ∧
          index.isSubclassOf root decl.path base = true := by
  refine ⟨fun path base => isSubclassOf_iff,
    fun first second third lower upper apart => ?_, fun base =>
    ⟨pairwise_knownSubclasses base, fun decl => mem_knownSubclasses_iff⟩⟩
  exact isSubclassOf_trans lower upper apart

end ClassIndex

/-- The lane extends the south by way of the north, and the byway a class that
was not scanned. -/
theorem ClassIndex.isSubclassOf_knownSubclasses_lane :
    Roundabout.index.isSubclassOf "object" "app::Lane" "app::North" = true ∧
      Roundabout.index.isSubclassOf "object" "app::North" "app::South" = true ∧
      Roundabout.index.isSubclassOf "object" "app::Lane" "app::South" = true ∧
      Roundabout.lane ∈ Roundabout.index.knownSubclasses "object" "app::South" ∧
      Roundabout.byway ∈
        Roundabout.index.knownSubclasses "object" "lib::Road" := by
  have facts :
      Roundabout.index.isSubclassOf "object" "app::Lane" "app::North" = true ∧
      Roundabout.index.isSubclassOf "object" "app::North" "app::South" = true ∧
      Roundabout.index.isSubclassOf "object" "app::Byway" "lib::Road" = true ∧
      Roundabout.index.get? "app::Lane" = some Roundabout.lane ∧
      Roundabout.index.get? "app::Byway" = some Roundabout.byway := by
    decide +kernel
  obtain ⟨lower, upper, leaves, laneIndexed, bywayIndexed⟩ := facts
  obtain ⟨_, transitive, known⟩ :=
    isSubclassOf_knownSubclasses Roundabout.index "object"
  have reached := transitive _ _ _ lower upper (by decide)
  exact ⟨lower, upper, reached, ((known _).2 _).2 ⟨laneIndexed, reached⟩,
    ((known _).2 _).2 ⟨bywayIndexed, leaves⟩⟩

end EntityLink
