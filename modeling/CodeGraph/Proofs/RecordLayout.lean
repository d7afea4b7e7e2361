import CodeGraph.Container.Layout
import Mathlib

/-!
# The order of records in a container

Records are ordered by where they start, and those that start at the same place
by their rank.  No record ends before it starts.
-/

namespace CodeGraph.Container

namespace Placement

theorem before_iff {left right : Placement} :
    left.before right = true ↔ left.offset < right.offset ∨
      left.offset = right.offset ∧ left.key.rank ≤ right.key.rank := by
  simp [before]

theorem before_trans (first second third : Placement) (left : first.before second = true)
    (right : second.before third = true) : first.before third = true := by
  rw [before_iff] at left right ⊢
  omega

theorem before_total (left right : Placement) :
    (left.before right || right.before left) = true := by
  rw [Bool.or_eq_true, before_iff, before_iff]
  omega

theorem offset_le_of_before {left right : Placement} (ordered : left.before right = true) :
    left.offset ≤ right.offset := by
  rw [before_iff] at ordered
  omega

end Placement

/-! ## Where a record ends -/

/-- The first record with a key ends where the next one starts. -/
theorem endOf_append (size : Int) {earlier : List Placement} (placement : Placement)
    (rest : List Placement) (fresh : ∀ other ∈ earlier, other.key ≠ placement.key) :
    endOf size placement.key (earlier ++ placement :: rest) =
      (rest.head?.map (·.offset)).getD size := by
  induction earlier with
  | nil => simp [endOf]
  | cons other others induction =>
      obtain ⟨different, later⟩ := List.forall_mem_cons.mp fresh
      rw [List.cons_append, endOf, if_neg different, induction later]

namespace Index

theorem mem_placements {index : Index} {placement : Placement} :
    placement ∈ index.placements ↔
      placement = ⟨index.metaOffset, .metadata⟩ ∨ placement = ⟨index.callGraphOffset, .callGraph⟩ ∨
        ∃ (position : Nat) (entry : Entry), index.entries[position]? = some entry ∧
          placement = ⟨entry.offset, .flowGraph position⟩ := by
  simp only [placements, List.mem_cons, List.mem_map, Prod.exists,
    List.mk_mem_zipIdx_iff_getElem?]
  constructor
  · rintro (same | same | ⟨entry, position, listed, same⟩)
    · exact .inl same
    · exact .inr (.inl same)
    · exact .inr (.inr ⟨position, entry, listed, same.symm⟩)
  · rintro (same | same | ⟨position, entry, listed, same⟩)
    · exact .inl same
    · exact .inr (.inl same)
    · exact .inr (.inr ⟨entry, position, listed, same.symm⟩)

theorem layout_perm (index : Index) : index.layout.Perm index.placements :=
  List.mergeSort_perm index.placements Placement.before

theorem layout_pairwise (index : Index) :
    index.layout.Pairwise fun left right => left.before right = true :=
  List.pairwise_mergeSort Placement.before_trans Placement.before_total index.placements

/-- Records that are ordered in the index already lie in the data like that. -/
theorem layout_of_pairwise {index : Index}
    (ordered : index.placements.Pairwise fun left right => left.before right = true) :
    index.layout = index.placements :=
  List.mergeSort_of_pairwise ordered

theorem nodup_keys_placements (index : Index) : (index.placements.map (·.key)).Nodup := by
  have positions : (index.entries.zipIdx.map Prod.snd).Nodup := by
    rw [List.zipIdx_map_snd]
    exact List.nodup_range'
  have flowGraphs : (index.entries.zipIdx.map fun item => RecordKey.flowGraph item.2).Nodup := by
    have mapped := positions.map (f := RecordKey.flowGraph) fun _ _ => RecordKey.flowGraph.inj
    rwa [List.map_map] at mapped
  have split : index.placements.map (·.key) = .metadata :: .callGraph ::
      index.entries.zipIdx.map fun item => RecordKey.flowGraph item.2 := by
    simp [placements, Function.comp_def]
  rw [split]
  simp [flowGraphs]

theorem nodup_keys_layout (index : Index) : (index.layout.map (·.key)).Nodup :=
  (index.layout_perm.map _).nodup_iff.mpr index.nodup_keys_placements

/-- A record ends where the next one of the layout starts. -/
theorem endOf_layout {index : Index} {earlier rest : List Placement} {placement : Placement}
    (split : index.layout = earlier ++ placement :: rest) (size : Int) :
    endOf size placement.key index.layout = (rest.head?.map (·.offset)).getD size := by
  have distinct := index.nodup_keys_layout
  rw [split, List.map_append, List.map_cons] at distinct
  have disjoint := (List.nodup_append.mp distinct).2.2
  rw [split]
  apply endOf_append
  intro other found same
  exact disjoint other.key (List.mem_map_of_mem found) placement.key List.mem_cons_self same

/-- No record that starts in the data ends before it starts. -/
theorem le_endOf_layout {index : Index} {placement : Placement}
    (member : placement ∈ index.placements) {size : Int} (within : placement.offset ≤ size) :
    placement.offset ≤ endOf size placement.key index.layout := by
  have listed := index.layout_perm.mem_iff.mpr member
  obtain ⟨earlier, rest, split⟩ := List.append_of_mem listed
  have ordered := index.layout_pairwise
  rw [endOf_layout split]
  rw [split] at ordered
  cases rest with
  | nil => exact within
  | cons next others =>
      have following := (List.pairwise_append.mp ordered).2.1
      exact Placement.offset_le_of_before (List.rel_of_pairwise_cons following List.mem_cons_self)

end Index

end CodeGraph.Container
