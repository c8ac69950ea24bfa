import EntityLink.Class.Index

/-!
# Chains of superclasses

The chain of a scanned class is the class itself and then its ancestors, the
nearest first.  From each of its classes on, a chain goes the way of that
class's own chain; it may only end earlier, which happens when superclass links
run in a circle (`prefix_ancestors_of_chain`).
-/

namespace EntityLink.ClassIndex

variable {index : ClassIndex} {root : String}

/-- A class and its ancestors, the nearest first. -/
def chain (index : ClassIndex) (root : String) (decl : ClassDecl) :
    List ClassDecl :=
  decl :: index.ancestors root decl.path

theorem lineage_eq_reverse_chain (decl : ClassDecl) :
    index.lineage root decl = (index.chain root decl).reverse := by
  simp [lineage, chain]

theorem ancestorsFrom_root (bound : Nat) :
    index.ancestorsFrom root bound (some root) = [] := by
  cases bound with
  | zero => rfl
  | succ bound => simp [ancestorsFrom]

theorem ancestorsFrom_succ {bound : Nat} {name : String}
    (notRoot : name ≠ root) :
    index.ancestorsFrom root (bound + 1) (some name) =
      match index.get? name with
      | none => []
      | some decl => decl :: index.ancestorsFrom root bound decl.superclass :=
  if_neg notRoot

theorem get?_of_mem_ancestorsFrom {bound : Nat} {start : Option String}
    {link : ClassDecl} (member : link ∈ index.ancestorsFrom root bound start) :
    index.get? link.path = some link := by
  fun_induction ancestorsFrom index root bound start with
  | case1 => cases member
  | case2 => cases member
  | case3 => cases member
  | case4 => cases member
  | case5 bound name notRoot decl found induction =>
      rcases List.mem_cons.1 member with same | later
      · have path : decl.path = name := Keyed.key_of_get? found
        rw [same, path, found]
      · exact induction later

theorem extends_of_mem_ancestorsFrom {path : String} {bound : Nat}
    {start : Option String}
    (startExtends : ∀ name, start = some name → name ≠ root →
      index.Extends root path name) {link : ClassDecl}
    (member : link ∈ index.ancestorsFrom root bound start) :
    index.Extends root path link.path := by
  fun_induction ancestorsFrom index root bound start with
  | case1 => cases member
  | case2 => cases member
  | case3 => cases member
  | case4 => cases member
  | case5 bound name notRoot decl found induction =>
      have reached := startExtends name rfl notRoot
      rcases List.mem_cons.1 member with same | later
      · rw [same, Keyed.key_of_get? found]
        exact reached
      · refine induction ?_ later
        intro upper link upperNotRoot
        exact .further reached (by simpa [superclass?, found] using link)
          upperNotRoot

/-- The ancestors of a class are classes that it extends. -/
theorem extends_of_mem_ancestors {path : String} {link : ClassDecl}
    (member : link ∈ index.ancestors root path) :
    index.Extends root path link.path :=
  extends_of_mem_ancestorsFrom
    (fun _ direct notRoot => .direct direct notRoot) member

theorem ancestorsFrom_prefix_succ (bound : Nat) (start : Option String) :
    index.ancestorsFrom root bound start <+:
      index.ancestorsFrom root (bound + 1) start := by
  induction bound generalizing start with
  | zero => exact List.nil_prefix
  | succ bound induction =>
      cases start with
      | none => exact List.nil_prefix
      | some name =>
          by_cases isRoot : name = root
          · rw [isRoot, ancestorsFrom_root]
            exact List.nil_prefix
          · rw [ancestorsFrom_succ isRoot, ancestorsFrom_succ isRoot]
            cases index.get? name with
            | none => exact List.nil_prefix
            | some decl =>
                exact List.prefix_cons_inj decl |>.2 (induction decl.superclass)

/-- Behind each of its classes a walk goes on from that class's superclass, with
a bound that is lower. -/
theorem prefix_of_ancestorsFrom_eq {bound : Nat} {start : Option String}
    {below above : List ClassDecl} {link : ClassDecl}
    (split : index.ancestorsFrom root bound start = below ++ link :: above) :
    above <+: index.ancestorsFrom root bound link.superclass := by
  induction bound generalizing start below with
  | zero => simp [ancestorsFrom] at split
  | succ bound induction =>
      cases start with
      | none => simp [ancestorsFrom] at split
      | some name =>
          by_cases isRoot : name = root
          · simp [isRoot, ancestorsFrom_root] at split
          · rw [ancestorsFrom_succ isRoot] at split
            cases found : index.get? name with
            | none => simp [found] at split
            | some decl =>
                rw [found] at split
                refine List.IsPrefix.trans ?_
                  (ancestorsFrom_prefix_succ bound link.superclass)
                cases below with
                | nil =>
                    obtain ⟨rfl, rfl⟩ := List.cons.inj split
                    exact List.prefix_rfl
                | cons first below => exact induction (List.cons.inj split).2

theorem get?_of_mem_chain {decl link : ClassDecl}
    (indexed : index.get? decl.path = some decl)
    (member : link ∈ index.chain root decl) :
    index.get? link.path = some link := by
  rcases List.mem_cons.1 member with same | ancestor
  · rw [same, indexed]
  · exact get?_of_mem_ancestorsFrom ancestor

theorem eq_of_path_eq {first second : ClassDecl}
    (firstIndexed : index.get? first.path = some first)
    (secondIndexed : index.get? second.path = some second)
    (paths : first.path = second.path) :
    first = second := by
  rw [paths, secondIndexed] at firstIndexed
  exact (Option.some.inj firstIndexed).symm

theorem prefix_ancestors_of_chain {decl link : ClassDecl}
    {below above : List ClassDecl} (indexed : index.get? decl.path = some decl)
    (split : index.chain root decl = below ++ link :: above) :
    above <+: index.ancestors root link.path := by
  cases below with
  | nil =>
      obtain ⟨rfl, rfl⟩ := List.cons.inj split
      exact List.prefix_rfl
  | cons first below =>
      have ancestorsSplit := (List.cons.inj split).2
      have linkMember : link ∈ index.chain root decl := by
        rw [split]
        simp
      have linkIndexed := get?_of_mem_chain indexed linkMember
      have next : index.superclass? link.path = link.superclass := by
        simp [superclass?, linkIndexed]
      rw [ancestors, next]
      exact prefix_of_ancestorsFrom_eq ancestorsSplit

/-- The nearest declaration of a field in a chain. -/
def declarationIn? (name : String) (links : List ClassDecl) :
    Option (ClassDecl × FieldDecl) :=
  links.findSome? fun link => (link.field? name).map (link, ·)

theorem declarationIn?_eq_none {name : String} {links : List ClassDecl} :
    declarationIn? name links = none ↔
      ∀ link ∈ links, link.field? name = none := by
  simp [declarationIn?]

theorem declarationIn?_eq_some {name : String} {links : List ClassDecl}
    {owner : ClassDecl} {declared : FieldDecl}
    (found : declarationIn? name links = some (owner, declared)) :
    owner ∈ links ∧ declared ∈ owner.fields ∧ declared.name = name := by
  obtain ⟨link, member, declaration⟩ := List.exists_of_findSome?_eq_some found
  obtain ⟨field, fieldFound, equality⟩ := Option.map_eq_some_iff.1 declaration
  cases equality
  exact ⟨member, List.mem_of_find?_eq_some fieldFound,
    by simpa using List.find?_some fieldFound⟩

theorem fieldInChain?_eq {decl : ClassDecl}
    (indexed : index.get? decl.path = some decl) (name : String) :
    index.fieldInChain? root decl.path name =
      declarationIn? name (index.chain root decl) := by
  simp [fieldInChain?, indexed, declarationIn?, chain]

/-- The class's own declaration is the nearest one. -/
theorem fieldInChain?_of_field? (root : String) {decl : ClassDecl}
    (indexed : index.get? decl.path = some decl) {name : String}
    {field : FieldDecl} (own : decl.field? name = some field) :
    index.fieldInChain? root decl.path name = some (decl, field) := by
  rw [fieldInChain?_eq indexed, declarationIn?, chain, List.findSome?_cons, own]
  rfl

end EntityLink.ClassIndex
