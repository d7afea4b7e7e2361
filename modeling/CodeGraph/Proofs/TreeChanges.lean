import CodeGraph.Files.Tree
import Mathlib

/-!
# What changes in a tree of files

Writing and removing a file change what is at one place.  Paths are followed
through directories only, so every path that leads elsewhere leads there still.
-/

namespace CodeGraph.Files.Tree

/-! ## Nodes -/

theorem ne_nil_of_not_directory {tree : Tree} {place : List String}
    (plain : tree.node? place ≠ some .directory) : place ≠ [] := by
  rintro rfl
  exact plain rfl

theorem node?_of_ne_nil (tree : Tree) {place : List String} (named : place ≠ []) :
    tree.node? place = (tree.nodes.find? (·.1 == place)).map (·.2) := by
  rw [node?, if_neg]
  simpa using named

theorem find?_replace (nodes : List (List String × Node)) (place other : List String)
    (node : Node) :
    (nodes.map fun entry => if entry.1 == place then (place, node) else entry).find?
        (·.1 == other) =
      (nodes.find? (·.1 == other)).map fun entry =>
        if entry.1 == place then (place, node) else entry := by
  have keys : (fun entry : List String × Node => entry.1 == other) ∘
      (fun entry => if entry.1 == place then (place, node) else entry) =
        fun entry => entry.1 == other := by
    funext entry
    by_cases same : entry.1 = place
    · simp [same]
    · simp [same]
  rw [List.find?_map, keys]

section SetNode

variable (tree : Tree) {place : List String} (named : place ≠ []) (node : Node)

include named

theorem node?_setNode_self : (tree.setNode place node).node? place = some node := by
  rw [node?_of_ne_nil _ named, setNode]
  by_cases listed : tree.nodes.any (·.1 == place) = true
  · obtain ⟨entry, found⟩ : ∃ entry, tree.nodes.find? (·.1 == place) = some entry :=
      Option.isSome_iff_exists.mp (by rwa [List.find?_isSome, ← List.any_eq_true])
    have key := List.find?_some found
    rw [if_pos listed, find?_replace, found]
    simp [eq_of_beq key]
  · have absent : tree.nodes.find? (·.1 == place) = none := by
      rw [List.find?_eq_none]
      intro entry member key
      exact listed (List.any_eq_true.mpr ⟨entry, member, key⟩)
    rw [if_neg listed]
    simp [List.find?_append, absent]

theorem node?_setNode (other : List String) :
    (tree.setNode place node).node? other = if other = place then some node
      else tree.node? other := by
  by_cases same : other = place
  · rw [same, if_pos rfl, node?_setNode_self tree named]
  rw [if_neg same]
  by_cases root : other = []
  · rw [root]
    rfl
  rw [node?_of_ne_nil _ root, node?_of_ne_nil _ root, setNode]
  by_cases listed : tree.nodes.any (·.1 == place) = true
  · rw [if_pos listed]
    simp only [find?_replace, Option.map_map]
    cases elsewhere : tree.nodes.find? (·.1 == other) with
    | none => rfl
    | some entry =>
        have key := List.find?_some elsewhere
        have apart : entry.1 ≠ place := fun here => same ((eq_of_beq key).symm.trans here)
        simp [apart]
  · rw [if_neg listed]
    simp [List.find?_append, Ne.symm same]

end SetNode

/-- The tree without what is at a place. -/
def without (tree : Tree) (place : List String) : Tree :=
  { tree with nodes := tree.nodes.filter (·.1 != place) }

theorem node?_without (tree : Tree) {place : List String} (named : place ≠ [])
    (other : List String) :
    (tree.without place).node? other = if other = place then none else tree.node? other := by
  by_cases root : other = []
  · subst root
    rw [if_neg named.symm]
    rfl
  rw [node?_of_ne_nil _ root, node?_of_ne_nil _ root, without, List.find?_filter]
  by_cases same : other = place
  · subst same
    rw [if_pos rfl]
    simp
  · rw [if_neg same]
    congr 2
    funext entry
    by_cases here : entry.1 = other
    · simp [here, same]
    · simp [here]

/-! ## Writing and removing -/

theorem write_eq_ok_iff {tree after : Tree} {path : Path} {content : Bytes} :
    tree.write path content = .ok after ↔
      ∃ place, tree.resolve path = .ok place ∧ tree.node? place ≠ some .directory ∧
        after = tree.setNode place (.file content) := by
  unfold write
  cases tree.resolve path with
  | error error => simp [bind, Except.bind]
  | ok place =>
      simp only [bind, Except.bind, Except.ok.injEq, exists_eq_left']
      cases tree.node? place with
      | none => simp [pure, Except.pure, eq_comm]
      | some node =>
          cases node with
          | directory => simp [throw, throwThe, MonadExceptOf.throw]
          | file old => simp [pure, Except.pure, eq_comm]

theorem write_eq_error_iff {tree : Tree} {path : Path} {content : Bytes} {error : FileError} :
    tree.write path content = .error error ↔
      tree.resolve path = .error error ∨
        tree.find path = .ok .directory ∧ error = .isDirectory := by
  unfold write find
  cases tree.resolve path with
  | error given => simp [bind, Except.bind]
  | ok place =>
      simp only [bind, Except.bind, reduceCtorEq, false_or]
      cases tree.node? place with
      | none => simp [pure, Except.pure, throw, throwThe, MonadExceptOf.throw]
      | some node =>
          cases node with
          | directory => simp [pure, Except.pure, throw, throwThe, MonadExceptOf.throw, eq_comm]
          | file old => simp [pure, Except.pure]

theorem remove_eq_ok_iff {tree after : Tree} {path : Path} :
    tree.remove path = .ok after ↔
      ∃ place content, tree.resolve path = .ok place ∧
        tree.node? place = some (.file content) ∧ after = tree.without place := by
  unfold remove
  cases tree.resolve path with
  | error error => simp [bind, Except.bind]
  | ok place =>
      simp only [bind, Except.bind, Except.ok.injEq, exists_and_left, exists_eq_left']
      cases held : tree.node? place with
      | none => simp [throw, throwThe, MonadExceptOf.throw]
      | some node =>
          cases node with
          | directory => simp [throw, throwThe, MonadExceptOf.throw]
          | file old => simp [pure, Except.pure, without, eq_comm]

theorem remove_eq_error_iff {tree : Tree} {path : Path} {error : FileError} :
    tree.remove path = .error error ↔
      tree.resolve path = .error error ∨
        tree.find path = .ok .directory ∧ error = .isDirectory ∨
          (∃ place, tree.resolve path = .ok place ∧ tree.node? place = none) ∧
            error = .notFound := by
  unfold remove find
  cases tree.resolve path with
  | error given => simp [bind, Except.bind]
  | ok place =>
      simp only [bind, Except.bind, reduceCtorEq, false_or, Except.ok.injEq, exists_eq_left']
      cases tree.node? place with
      | none => simp [throw, throwThe, MonadExceptOf.throw, eq_comm]
      | some node =>
          cases node with
          | directory => simp [pure, Except.pure, throw, throwThe, MonadExceptOf.throw, eq_comm]
          | file old => simp [pure, Except.pure]

theorem find_eq_ok_iff {tree : Tree} {path : Path} {node : Node} :
    tree.find path = .ok node ↔
      ∃ place, tree.resolve path = .ok place ∧ tree.node? place = some node := by
  unfold find
  cases tree.resolve path with
  | error error => simp [bind, Except.bind]
  | ok place =>
      simp only [bind, Except.bind, Except.ok.injEq, exists_eq_left']
      cases tree.node? place with
      | none => simp [throw, throwThe, MonadExceptOf.throw]
      | some node => simp [pure, Except.pure]

theorem read_eq_ok_iff {tree : Tree} {path : Path} {content : Bytes} :
    tree.read path = .ok content ↔ tree.find path = .ok (.file content) := by
  unfold read
  cases tree.find path with
  | error error => simp [bind, Except.bind]
  | ok node =>
      cases node with
      | file held => simp [bind, Except.bind, pure, Except.pure]
      | directory => simp [bind, Except.bind, throw, throwThe, MonadExceptOf.throw]

theorem contains_eq_false_iff {tree : Tree} {path : Path} :
    tree.contains path = false ↔ ∀ node, tree.find path ≠ .ok node := by
  unfold contains
  cases tree.find path with
  | error error => simp [Except.toOption]
  | ok node => simp [Except.toOption]

/-- What a file held makes no difference once it is removed. -/
theorem without_setNode (tree : Tree) (place : List String) (node : Node) :
    (tree.setNode place node).without place = tree.without place := by
  unfold setNode without
  split
  · simp only [List.filter_map, mk.injEq, and_true]
    have keys : (fun entry : List String × Node => entry.1 != place) ∘
        (fun entry => if entry.1 == place then (place, node) else entry) =
          fun entry => entry.1 != place := by
      funext entry
      by_cases same : entry.1 = place
      · simp [same]
      · simp [same]
    have kept : ∀ entry ∈ tree.nodes.filter (·.1 != place),
        (if entry.1 == place then (place, node) else entry) = id entry := by
      intro entry member
      have apart := (List.mem_filter.mp member).2
      rw [if_neg (by simpa using apart), id]
    rw [keys, List.map_congr_left kept, List.map_id]
  · simp

/-! ## Trees that agree elsewhere -/

/-- Two trees differ at most in what is at a place. -/
structure AgreeBut (place : List String) (before after : Tree) : Prop where
  current : after.current = before.current
  nodes : ∀ other, other ≠ place → after.node? other = before.node? other

theorem AgreeBut.refl (place : List String) (tree : Tree) : AgreeBut place tree tree :=
  ⟨rfl, fun _ _ => rfl⟩

theorem AgreeBut.symm {place : List String} {before after : Tree}
    (agree : AgreeBut place before after) : AgreeBut place after before := by
  refine ⟨agree.current.symm, ?_⟩
  intro other apart
  exact (agree.nodes other apart).symm

theorem AgreeBut.trans {place : List String} {before middle after : Tree}
    (first : AgreeBut place before middle) (second : AgreeBut place middle after) :
    AgreeBut place before after := by
  refine ⟨second.current.trans first.current, ?_⟩
  intro other apart
  exact (second.nodes other apart).trans (first.nodes other apart)

theorem agreeBut_setNode (tree : Tree) {place : List String} (named : place ≠ []) (node : Node) :
    AgreeBut place tree (tree.setNode place node) := by
  constructor
  · unfold setNode
    split
    · rfl
    · rfl
  · intro other apart
    rw [node?_setNode tree named, if_neg apart]

theorem agreeBut_without (tree : Tree) {place : List String} (named : place ≠ []) :
    AgreeBut place tree (tree.without place) := by
  refine ⟨rfl, ?_⟩
  intro other apart
  rw [node?_without tree named, if_neg apart]

section Agree

variable {place : List String} {before after : Tree} (agree : AgreeBut place before after)
  (plain : before.node? place ≠ some .directory)

include agree plain

/-- Names are followed through directories, so not through the place. -/
theorem resolveFrom_of_agreeBut {start final names : List String}
    (leads : before.resolveFrom start names = .ok final) :
    after.resolveFrom start names = .ok final := by
  induction names generalizing start with
  | nil => exact leads
  | cons name rest induction =>
      rw [resolveFrom] at leads ⊢
      cases held : before.node? start with
      | none =>
          rw [held] at leads
          cases leads
      | some node =>
          cases node with
          | file content =>
              rw [held] at leads
              cases leads
          | directory =>
              have apart : start ≠ place := by
                rintro rfl
                exact plain held
              rw [held] at leads
              rw [agree.nodes start apart, held]
              dsimp only at leads ⊢
              split_ifs at leads ⊢ with stays up long
              · exact induction leads
              · exact induction leads
              · exact induction leads

theorem resolve_of_agreeBut {path : Path} {final : List String}
    (leads : before.resolve path = .ok final) : after.resolve path = .ok final := by
  unfold resolve at leads ⊢
  rcases ite_eq_iff.mp leads with ⟨_, refused⟩ | ⟨spelled, within⟩
  · cases refused
  rcases ite_eq_iff.mp within with ⟨_, refused⟩ | ⟨short, followed⟩
  · cases refused
  rw [if_neg spelled, if_neg short, startOf, agree.current]
  exact resolveFrom_of_agreeBut agree plain followed

theorem find_of_agreeBut {path : Path} {node : Node} (apart : before.resolve path ≠ .ok place)
    (found : before.find path = .ok node) : after.find path = .ok node := by
  obtain ⟨final, leads, held⟩ := find_eq_ok_iff.mp found
  have elsewhere : final ≠ place := by
    rintro rfl
    exact apart leads
  refine find_eq_ok_iff.mpr ⟨final, resolve_of_agreeBut agree plain leads, ?_⟩
  rw [agree.nodes final elsewhere, held]

end Agree

/-- Two trees are the same but for what is at the end of a path: at every other
place there is what there was, and every path that leads elsewhere leads to what
it led to. -/
structure SameApartFrom (path : Path) (before after : Tree) : Prop where
  current : after.current = before.current
  nodes : ∀ place, before.resolve path ≠ .ok place → after.node? place = before.node? place
  paths : ∀ other, (∀ place, before.resolve path = .ok place → before.resolve other ≠ .ok place) →
    ∀ node, after.find other = .ok node ↔ before.find other = .ok node

theorem SameApartFrom.refl (path : Path) (tree : Tree) : SameApartFrom path tree tree :=
  ⟨rfl, fun _ _ => rfl, fun _ _ _ => Iff.rfl⟩

theorem AgreeBut.sameApartFrom {place : List String} {before after : Tree}
    (agree : AgreeBut place before after) {path : Path} (leads : before.resolve path = .ok place)
    (plain : before.node? place ≠ some .directory) (kept : after.node? place ≠ some .directory) :
    SameApartFrom path before after := by
  refine ⟨agree.current, ?_, ?_⟩
  · intro other apart
    apply agree.nodes
    rintro rfl
    exact apart leads
  · intro other apart node
    have elsewhere := apart place leads
    constructor
    · intro found
      refine find_of_agreeBut agree.symm kept ?_ found
      intro here
      exact elsewhere (resolve_of_agreeBut agree.symm kept here)
    · exact find_of_agreeBut agree plain elsewhere

/-- Nothing is at the path, and nothing else has changed. -/
structure Cleared (path : Path) (before after : Tree) : Prop where
  nothing : after.contains path = false
  others : SameApartFrom path before after

/-- The file at the path has a content, and nothing else has changed. -/
structure Holds (path : Path) (content : Bytes) (before after : Tree) : Prop where
  content : after.read path = .ok content
  others : SameApartFrom path before after

theorem cleared_of_agreeBut {path : Path} {before after : Tree} {place : List String}
    (agree : AgreeBut place before after) (leads : before.resolve path = .ok place)
    (plain : before.node? place ≠ some .directory) (absent : after.node? place = none) :
    Cleared path before after := by
  refine ⟨contains_eq_false_iff.mpr ?_, agree.sameApartFrom leads plain (by simp [absent])⟩
  intro node found
  obtain ⟨other, leadsToo, held⟩ := find_eq_ok_iff.mp found
  have same := (resolve_of_agreeBut agree plain leads).symm.trans leadsToo
  obtain rfl := Except.ok.inj same
  rw [absent] at held
  cases held

theorem holds_of_agreeBut {path : Path} {before after : Tree} {place : List String}
    (agree : AgreeBut place before after) (leads : before.resolve path = .ok place)
    (plain : before.node? place ≠ some .directory) {content : Bytes}
    (held : after.node? place = some (.file content)) : Holds path content before after := by
  refine ⟨read_eq_ok_iff.mpr (find_eq_ok_iff.mpr ⟨place, ?_, held⟩), ?_⟩
  · exact resolve_of_agreeBut agree plain leads
  · exact agree.sameApartFrom leads plain (by simp [held])

/-! ## Content -/

section Write

variable {tree opened : Tree} {path : Path} {content : Bytes}
  (written : tree.write path content = .ok opened)

include written

theorem exists_place_of_write : ∃ place, tree.resolve path = .ok place := by
  obtain ⟨place, leads, _⟩ := write_eq_ok_iff.mp written
  exact ⟨place, leads⟩

/-- The path leads where it led, to the file that was written. -/
theorem agreeBut_of_write {place : List String} (leads : tree.resolve path = .ok place) :
    tree.node? place ≠ some .directory ∧ AgreeBut place tree opened ∧
      opened.resolve path = .ok place ∧ opened.node? place = some (.file content) := by
  obtain ⟨other, leadsToo, plain, rfl⟩ := write_eq_ok_iff.mp written
  obtain rfl := Except.ok.inj (leads.symm.trans leadsToo)
  have named := ne_nil_of_not_directory plain
  have agree := agreeBut_setNode tree named (.file content)
  exact ⟨plain, agree, resolve_of_agreeBut agree plain leads, node?_setNode_self tree named _⟩

end Write

/-- The tree with the content of a file that is there. -/
def withContent (tree : Tree) (path : Path) (content : Bytes) : Tree :=
  (tree.write path content).toOption.getD tree

theorem write_withContent {tree : Tree} {path : Path} {place : List String} {held : Bytes}
    (leads : tree.resolve path = .ok place) (holds : tree.node? place = some (.file held))
    (content : Bytes) :
    tree.write path content = .ok (tree.withContent path content) ∧
      (tree.withContent path content).without place = tree.without place := by
  have written : tree.write path content = .ok (tree.setNode place (.file content)) :=
    write_eq_ok_iff.mpr ⟨place, leads, by simp [holds], rfl⟩
  rw [withContent, written]
  exact ⟨rfl, without_setNode tree place _⟩

/-- What a file held before it was emptied and written makes no difference. -/
theorem holds_withContent {path : Path} {tree opened : Tree}
    (written : tree.write path [] = .ok opened) (content : Bytes) :
    Holds path content tree (opened.withContent path content) := by
  obtain ⟨place, leads⟩ := exists_place_of_write written
  obtain ⟨plain, emptied, leadsOpened, held⟩ := agreeBut_of_write written leads
  obtain ⟨again, _⟩ := write_withContent leadsOpened held content
  obtain ⟨_, changed, _, heldToo⟩ := agreeBut_of_write again leadsOpened
  exact holds_of_agreeBut (emptied.trans changed) leads plain heldToo

end CodeGraph.Files.Tree
