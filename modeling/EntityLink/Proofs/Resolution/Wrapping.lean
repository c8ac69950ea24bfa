import EntityLink.Resolution.Unwrapped

/-!
# Wrappers taken off and put back

Stripping the wrappers off a type and rebuilding the type around an identifier
are two recursions over the same layers.  `rewrap` puts wrappers around a type,
and with it each says what the other does: a type with a class at its core is
that class with its wrappers put back (`eq_rewrap_of_core`), and the type
rebuilt around an identifier is the identifier's type with the same wrappers,
their containers mapped (`holderType?_eq`).

Which wrappers a type has is settled by `unwrap_eq_iff` without the recursion:
they are the only ones, with each list among them known to the settings, that
give the type when put around its core.  `holderType?_agrees_unwrap` brings
these together.
-/

namespace EntityLink

theorem Unwrapped.path?_eq_some_iff {unwrapped : Unwrapped} {path : String} :
    unwrapped.path? = some path ↔ unwrapped.core = .named path := by
  unfold path?
  cases unwrapped.core <;> simp

namespace TypeRef

variable {config : Config}

/-- Puts wrappers around a type, the outermost first, each list container
replaced by its mapping if it has one. -/
def rewrap (mappings : Dict String) (inner : TypeRef) : List Wrapper → TypeRef
  | [] => inner
  | .array :: wrappers => .array (rewrap mappings inner wrappers)
  | .list container :: wrappers =>
      .parameterized ((mappings.find? container).getD container)
        [rewrap mappings inner wrappers]

theorem eq_rewrap_of_core {type : TypeRef} {path : String}
    (core : (type.unwrap config).core = .named path) :
    type = rewrap .empty (.named path) (type.unwrap config).wrappers := by
  fun_induction unwrap config type with
  | case1 => cases core
  | case2 =>
      cases core
      rfl
  | case3 component induction => exact congrArg array (induction core)
  | case4 container argument _ induction =>
      exact congrArg (fun inner => parameterized container [inner])
        (induction core)
  | case5 => cases core
  | case6 => cases core
  | case7 => cases core

theorem isList_of_mem_wrappers {type : TypeRef} {container : String}
    (member : .list container ∈ (type.unwrap config).wrappers) :
    config.isList container = true := by
  fun_induction unwrap config type with
  | case1 => cases member
  | case2 => cases member
  | case3 component induction =>
      rcases List.mem_cons.1 member with here | deeper
      · cases here
      · exact induction deeper
  | case4 other argument isList induction =>
      rcases List.mem_cons.1 member with here | deeper
      · cases here
        exact isList
      · exact induction deeper
  | case5 => cases member
  | case6 => cases member
  | case7 => cases member

theorem unwrap_rewrap {wrappers : List Wrapper}
    (lists : ∀ container, .list container ∈ wrappers →
      config.isList container = true) (inner : TypeRef) :
    (rewrap .empty inner wrappers).unwrap config =
      ⟨(inner.unwrap config).core,
        wrappers ++ (inner.unwrap config).wrappers⟩ := by
  induction wrappers with
  | nil => rfl
  | cons wrapper wrappers induction =>
      have deeper := induction fun container member =>
        lists container (List.mem_cons_of_mem _ member)
      cases wrapper with
      | array =>
          rw [rewrap, unwrap, deeper]
          rfl
      | list container =>
          have isList := lists container List.mem_cons_self
          rw [rewrap, Dict.find?_empty, Option.getD_none, unwrap,
            if_pos isList, deeper]
          rfl

theorem unwrap_eq_iff {type : TypeRef} {path : String}
    {wrappers : List Wrapper} :
    type.unwrap config = ⟨.named path, wrappers⟩ ↔
      type = rewrap .empty (.named path) wrappers ∧
        ∀ container, .list container ∈ wrappers →
          config.isList container = true := by
  constructor
  · intro unwrapped
    have rebuilt :
        type = rewrap .empty (.named path) (type.unwrap config).wrappers :=
      eq_rewrap_of_core (congrArg Unwrapped.core unwrapped)
    have sameWrappers : (type.unwrap config).wrappers = wrappers :=
      congrArg Unwrapped.wrappers unwrapped
    refine ⟨sameWrappers ▸ rebuilt, fun container member => ?_⟩
    exact isList_of_mem_wrappers (sameWrappers ▸ member)
  · rintro ⟨rfl, lists⟩
    rw [unwrap_rewrap lists, unwrap, List.append_nil]

/-- A type is rebuilt around an identifier exactly when the target is its
core. -/
theorem holderType?_eq (target : String) (idType : TypeRef)
    (mappings : Dict String) (type : TypeRef) :
    holderType? config target idType mappings type =
      if (type.unwrap config).core = .named target then
        some (rewrap mappings idType (type.unwrap config).wrappers)
      else none := by
  fun_induction unwrap config type with
  | case1 => rfl
  | case2 path =>
      rw [holderType?]
      by_cases same : path = target
      · rw [if_pos same, if_pos (congrArg Core.named same), rewrap]
      · rw [if_neg same, if_neg (fun equal => same (Core.named.inj equal))]
  | case3 component induction =>
      rw [holderType?, induction, Unwrapped.wrap]
      split <;> rfl
  | case4 container argument isList induction =>
      rw [holderType?, if_pos isList, induction, Unwrapped.wrap]
      split <;> rfl
  | case5 container argument notList => rw [holderType?, if_neg notList]; rfl
  | case6 container arguments notSingle =>
      rw [holderType?]
      · rfl
      · exact notSingle
  | case7 => rfl

theorem holderType?_eq_some_iff {target : String} {idType holderType : TypeRef}
    {mappings : Dict String} {type : TypeRef} :
    holderType? config target idType mappings type = some holderType ↔
      (type.unwrap config).path? = some target ∧
        holderType = rewrap mappings idType (type.unwrap config).wrappers := by
  rw [holderType?_eq, Unwrapped.path?_eq_some_iff]
  split
  next core => simp [core, eq_comm]
  next notCore => simp [notCore]

/-- A holder's type can be derived exactly when the target is the core of the
type.  It is then the identifier's type under the wrappers of the type, their
containers mapped, and the type itself if nothing is mapped and the target
stands for its own identifier. -/
theorem holderType?_agrees_unwrap (config : Config) (target : String)
    (idType : TypeRef) (mappings : Dict String) (type : TypeRef) :
    ((∃ holderType,
        holderType? config target idType mappings type = some holderType) ↔
      (type.unwrap config).path? = some target) ∧
    (∀ holderType,
      holderType? config target idType mappings type = some holderType →
      holderType = rewrap mappings idType (type.unwrap config).wrappers ∧
        (mappings = .empty → idType = .named target → holderType = type)) ∧
    (∀ wrappers, type.unwrap config = ⟨.named target, wrappers⟩ ↔
      type = rewrap .empty (.named target) wrappers ∧
        ∀ container, .list container ∈ wrappers →
          config.isList container = true) := by
  refine ⟨⟨?_, ?_⟩, ?_, fun wrappers => unwrap_eq_iff⟩
  · rintro ⟨holderType, derived⟩
    exact (holderType?_eq_some_iff.1 derived).1
  · intro isCore
    exact ⟨_, holderType?_eq_some_iff.2 ⟨isCore, rfl⟩⟩
  · intro holderType derived
    obtain ⟨isCore, rewrapped⟩ := holderType?_eq_some_iff.1 derived
    refine ⟨rewrapped, ?_⟩
    rintro rfl rfl
    exact rewrapped.trans
      (eq_rewrap_of_core (Unwrapped.path?_eq_some_iff.1 isCore)).symm

end TypeRef

namespace Shelves

/-- Arrays of lists of arrays of books. -/
def type : TypeRef :=
  .array (.parameterized "Vec" [.array (.named "app::Book")])

def mappings : Dict String := Dict.set .empty "Vec" "app::Shelf"

end Shelves

theorem TypeRef.holderType?_agrees_unwrap_shelves :
    Shelves.type.unwrap {} =
        ⟨.named "app::Book", [.array, .list "Vec", .array]⟩ ∧
      holderType? {} "app::Book" (.named "Id") Shelves.mappings Shelves.type =
        some (.array (.parameterized "app::Shelf" [.array (.named "Id")])) ∧
      holderType? {} "app::Book" (.named "app::Book") .empty Shelves.type =
        some Shelves.type := by
  obtain ⟨derivable, rebuilt, unwrapped⟩ := holderType?_agrees_unwrap {}
    "app::Book" (.named "Id") Shelves.mappings Shelves.type
  obtain ⟨derivableUnmapped, unmapped, -⟩ := holderType?_agrees_unwrap {}
    "app::Book" (.named "app::Book") .empty Shelves.type
  have layers : Shelves.type.unwrap {} =
      ⟨.named "app::Book", [.array, .list "Vec", .array]⟩ := by
    refine (unwrapped _).2 ⟨rfl, fun container member => ?_⟩
    obtain rfl : container = "Vec" := by simpa using member
    decide
  have isCore : (Shelves.type.unwrap {}).path? = some "app::Book" :=
    congrArg Unwrapped.path? layers
  have mapped : Shelves.mappings.find? "Vec" = some "app::Shelf" := by
    rw [Shelves.mappings, Dict.find?_set, if_pos rfl]
  refine ⟨layers, ?_, ?_⟩
  · obtain ⟨holderType, derived⟩ := derivable.2 isCore
    rw [derived, (rebuilt holderType derived).1, layers]
    simp only [rewrap, mapped, Option.getD_some]
  · obtain ⟨holderType, derived⟩ := derivableUnmapped.2 isCore
    rw [derived, (unmapped holderType derived).2 rfl rfl]

end EntityLink
