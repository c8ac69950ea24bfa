import EntityLink.Class.Index

/-!
# Names up a chain of superclasses

The walk up the superclass links keeps the names that it has visited and stops
at the first that comes again.  It still finds every name that links lead to
(`mem_superclassNames_iff`): when it stops, the names that it has visited are
closed under links.
-/

namespace EntityLink.ClassIndex

variable {index : ClassIndex} {root : String}

/-- Links from the given names lead to these names again, or to the one where a
walk goes on. -/
def ClosedUpTo (index : ClassIndex) (root : String) (next : Option String)
    (names : List String) : Prop :=
  ∀ name ∈ names, ∀ upper, index.superclass? name = some upper → upper ≠ root →
    upper ∈ names ∨ next = some upper

theorem mem_namesFrom_of_mem {visited : List String} {start : Option String}
    {name : String} (member : name ∈ visited) :
    name ∈ index.namesFrom root visited start := by
  fun_induction namesFrom index root visited start with
  | case1 => exact member
  | case2 => exact member
  | case3 => exact List.mem_cons_of_mem _ member
  | case4 _ _ _ _ _ induction => exact induction (List.mem_cons_of_mem _ member)

theorem start_mem_namesFrom {visited : List String} {name : String}
    (notRoot : name ≠ root) :
    name ∈ index.namesFrom root visited (some name) := by
  rw [namesFrom]
  split
  next stop => exact stop.resolve_left notRoot
  · split
    · exact List.mem_cons_self
    · exact mem_namesFrom_of_mem List.mem_cons_self

/-- A walk that starts where the links from the visited names lead ends with
names that are closed under links. -/
theorem closed_namesFrom {visited : List String} {start : Option String}
    (closed : index.ClosedUpTo root start visited) :
    index.ClosedUpTo root none (index.namesFrom root visited start) := by
  fun_induction namesFrom index root visited start with
  | case1 => exact closed
  | case2 visited name stop =>
      intro lower member upper link notRoot
      rcases closed lower member upper link notRoot with visitedBefore | isNext
      · exact .inl visitedBefore
      · cases isNext
        exact .inl (stop.resolve_left notRoot)
  | case3 visited name _ missing =>
      intro lower member upper link notRoot
      rcases List.mem_cons.1 member with rfl | visitedBefore
      · simp [superclass?, missing] at link
      · rcases closed lower visitedBefore upper link notRoot with known | isNext
        · exact .inl (List.mem_cons_of_mem _ known)
        · cases isNext
          exact .inl List.mem_cons_self
  | case4 visited name _ decl found induction =>
      apply induction
      intro lower member upper link notRoot
      rcases List.mem_cons.1 member with rfl | visitedBefore
      · exact .inr (by simpa [superclass?, found] using link)
      · rcases closed lower visitedBefore upper link notRoot with known | isNext
        · exact .inl (List.mem_cons_of_mem _ known)
        · cases isNext
          exact .inl List.mem_cons_self

theorem extends_of_mem_namesFrom {path : String} {visited : List String}
    {start : Option String}
    (visitedExtends : ∀ name ∈ visited, index.Extends root path name)
    (startExtends : ∀ name, start = some name → name ≠ root →
      index.Extends root path name) {name : String}
    (member : name ∈ index.namesFrom root visited start) :
    index.Extends root path name := by
  fun_induction namesFrom index root visited start with
  | case1 => exact visitedExtends name member
  | case2 => exact visitedExtends name member
  | case3 visited next stop =>
      have nextExtends := startExtends next rfl fun isRoot => stop (.inl isRoot)
      rcases List.mem_cons.1 member with rfl | visitedBefore
      · exact nextExtends
      · exact visitedExtends name visitedBefore
  | case4 visited next stop decl found induction =>
      have nextExtends := startExtends next rfl fun isRoot => stop (.inl isRoot)
      refine induction ?_ ?_ member
      · intro lower lowerMember
        rcases List.mem_cons.1 lowerMember with rfl | visitedBefore
        · exact nextExtends
        · exact visitedExtends lower visitedBefore
      · intro upper link notRoot
        exact .further nextExtends
          (by simpa [superclass?, found] using link) notRoot

/-- The names up the chain of a class are those that it extends. -/
theorem mem_superclassNames_iff {path name : String} :
    name ∈ index.superclassNames root path ↔ index.Extends root path name := by
  constructor
  · intro member
    refine extends_of_mem_namesFrom (fun _ none => ?_)
      (fun upper link notRoot => ?_) member
    · cases none
    · exact .direct link notRoot
  · intro reached
    induction reached with
    | direct link notRoot =>
        rw [superclassNames, link]
        exact start_mem_namesFrom notRoot
    | further _ link notRoot induction =>
        have closed :
            index.ClosedUpTo root none (index.superclassNames root path) :=
          closed_namesFrom (by simp [ClosedUpTo])
        exact (closed _ induction _ link notRoot).resolve_right (by simp)

theorem isSubclassOf_iff {path base : String} :
    index.isSubclassOf root path base = true ↔
      path ≠ base ∧ index.Extends root path base := by
  simp [isSubclassOf, mem_superclassNames_iff]

theorem exists_superclass_of_extends {path name : String}
    (reached : index.Extends root path name) :
    ∃ upper, index.superclass? path = some upper := by
  induction reached with
  | direct link _ => exact ⟨_, link⟩
  | further _ _ _ induction => exact induction

theorem exists_get?_of_extends {path name : String}
    (reached : index.Extends root path name) :
    ∃ decl, index.get? path = some decl := by
  obtain ⟨upper, link⟩ := exists_superclass_of_extends reached
  obtain ⟨decl, found, _⟩ := Option.bind_eq_some_iff.1 link
  exact ⟨decl, found⟩

/-- A class below the root type extends nothing. -/
theorem not_extends_of_superclass_root {path name : String}
    (atRoot : index.superclass? path = some root) :
    ¬index.Extends root path name := by
  intro reached
  induction reached with
  | direct link notRoot =>
      exact notRoot (Option.some.inj (link.symm.trans atRoot))
  | further _ _ _ induction => exact induction

end EntityLink.ClassIndex
