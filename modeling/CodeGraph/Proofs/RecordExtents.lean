import CodeGraph.Proofs.ReaderSafety
import Mathlib

/-!
# Records tile the data

The parts of the data that a reader takes for its records do not overlap, and
joined in their order they are the data from the first record on, however the
offsets of the index are chosen.  So what is read of a record depends on the
index and on the record's own part alone.
-/

namespace CodeGraph.Container

open Sequencing

/-! ## The order of records is total -/

theorem RecordKey.rank_injective {left right : RecordKey} (same : left.rank = right.rank) :
    left = right := by
  cases left <;> cases right <;> simp [RecordKey.rank] at same ⊢
  exact same

theorem Placement.before_antisymm {left right : Placement} (forward : left.before right = true)
    (backward : right.before left = true) : left = right := by
  rw [before_iff] at forward backward
  obtain ⟨leftOffset, leftKey⟩ := left
  obtain ⟨rightOffset, rightKey⟩ := right
  simp only at forward backward
  obtain rfl : leftOffset = rightOffset := by omega
  obtain rfl : leftKey = rightKey := RecordKey.rank_injective (by omega)
  rfl

namespace Index

/-- The records that start in data of a size, or at its end. -/
def startingWithin (index : Index) (size : Nat) : List Placement :=
  index.placements.filter fun placement => decide (placement.offset ≤ (size : Int))

/-- The records that start in data of a size, in the order in which they lie. -/
structure Ordered (index : Index) (size : Nat) (ordered : List Placement) : Prop where
  complete : ordered.Perm (index.startingWithin size)
  sorted : ordered.Pairwise fun left right => left.before right = true

variable {index : Index} {size : Nat}

theorem mem_startingWithin {placement : Placement} :
    placement ∈ index.startingWithin size ↔
      placement ∈ index.placements ∧ placement.offset ≤ (size : Int) := by
  simp [startingWithin]

theorem ordered_layout (index : Index) (size : Nat) :
    index.Ordered size
      (index.layout.filter fun placement => decide (placement.offset ≤ (size : Int))) :=
  ⟨index.layout_perm.filter _, index.layout_pairwise.filter _⟩

/-- Records can be put in order in one way only. -/
theorem Ordered.eq_layout {ordered : List Placement} (inOrder : index.Ordered size ordered) :
    ordered = index.layout.filter fun placement => decide (placement.offset ≤ (size : Int)) := by
  have layout := index.ordered_layout size
  apply (inOrder.complete.trans layout.complete.symm).eq_of_pairwise
  · intro left right _ _ forward backward
    exact Placement.before_antisymm forward backward
  · exact inOrder.sorted
  · exact layout.sorted

end Index

/-! ## Parts of the data -/

/-- One of two requests ends before the other starts. -/
def Request.Apart (left right : Request) : Prop :=
  left.place + left.size ≤ right.place ∨ right.place + right.size ≤ left.place

/-- The bytes that a request asks for. -/
def Request.bytesOf (request : Request) (data : Bytes) : Bytes :=
  data.slice request.place.toNat request.size.toNat

/-- Data from a place on is the part up to a later place, which may lie past
the end, and the data from there on. -/
theorem slice_append_drop (data : Bytes) {low high : Nat} (ordered : low ≤ high) :
    data.slice low (min high data.length - low) ++ data.drop high = data.drop low := by
  have rest : data.drop high = (data.drop low).drop (high - low) := by
    rw [List.drop_drop, Nat.add_sub_cancel' ordered]
  rcases Nat.le_total high data.length with inside | past
  · rw [rest, Nat.min_eq_left inside]
    exact List.take_append_drop _ _
  · rw [Nat.min_eq_right past, List.drop_eq_nil_of_le past, List.append_nil, Bytes.slice,
      List.take_of_length_le]
    rw [List.length_drop]

namespace Reader

/-- The part of the data that a reader takes for a record. -/
def extent (reader : Reader) (placement : Placement) : Request :=
  ⟨placement.offset, reader.recordEnd placement.key - placement.offset⟩

/-- The bytes that a reader takes for a record. -/
def part (reader : Reader) (placement : Placement) : Bytes :=
  (reader.extent placement).bytesOf reader.store.bytes

theorem request?_of_within {reader : Reader} {placement : Placement}
    (within : placement.offset ≤ (reader.size : Int)) :
    reader.request? placement.key placement.offset = some (reader.extent placement) := by
  rw [request?, if_neg (not_lt.mpr within)]
  rfl

section Layout

variable {reader : Reader} {earlier rest : List Placement} {placement : Placement}
  (split : reader.index.layout = earlier ++ placement :: rest)
include split

theorem recordEnd_of_split :
    reader.recordEnd placement.key =
      min ((rest.head?.map (·.offset)).getD (reader.size : Int)) (reader.size : Int) := by
  rw [recordEnd, Index.endOf_layout split]

theorem offset_le_of_split {next : Placement} (member : next ∈ rest) :
    placement.offset ≤ next.offset := by
  have ordered := reader.index.layout_pairwise
  rw [split] at ordered
  have following := (List.pairwise_append.mp ordered).2.1
  exact Placement.offset_le_of_before (List.rel_of_pairwise_cons following member)

/-- A record ends before any later record starts. -/
theorem recordEnd_le_of_split {next : Placement} (member : next ∈ rest) :
    reader.recordEnd placement.key ≤ next.offset := by
  rw [recordEnd_of_split split]
  cases rest with
  | nil => cases member
  | cons first others =>
      have least : first.offset ≤ next.offset := by
        rcases List.mem_cons.mp member with rfl | later
        · exact le_refl _
        · exact offset_le_of_split (split.trans (List.append_cons ..)) later
      exact le_trans (min_le_left _ _) least

end Layout

theorem layout_apart (reader : Reader) {earlier later : List Placement}
    (split : reader.index.layout = earlier ++ later) :
    later.Pairwise fun left right => (reader.extent left).Apart (reader.extent right) := by
  induction later generalizing earlier with
  | nil => exact .nil
  | cons placement rest induction =>
      have shifted := split.trans (List.append_cons earlier placement rest)
      refine .cons ?_ (induction shifted)
      intro next member
      have before := recordEnd_le_of_split split member
      left
      simp only [extent]
      omega

/-- The parts of different records do not overlap. -/
theorem apart_of_ne {reader : Reader} {left right : Placement}
    (leftListed : left ∈ reader.index.placements) (rightListed : right ∈ reader.index.placements)
    (different : left ≠ right) : (reader.extent left).Apart (reader.extent right) := by
  have apart := reader.layout_apart (List.nil_append _).symm
  have symmetric : Std.Symm fun left right : Placement =>
      (reader.extent left).Apart (reader.extent right) := ⟨fun _ _ => Or.symm⟩
  have layout := reader.index.layout_perm
  exact apart.forall (layout.mem_iff.mpr leftListed) (layout.mem_iff.mpr rightListed) different

/-! ## Joining the parts -/

namespace Sound

variable {reader : Reader} (sound : reader.Sound)
include sound

theorem recordBytes_of_within {placement : Placement}
    (within : placement.offset ≤ (reader.size : Int)) (fail : RecordFault → ReadError) :
    reader.recordBytes placement.key placement.offset fail = .ok (reader.part placement) := by
  rw [recordBytes, request?_of_within within]
  simp only [sound.size, readAt_of_faultless sound.faultless]
  rfl

theorem part_of_split {earlier rest : List Placement} {placement : Placement}
    (split : reader.index.layout = earlier ++ placement :: rest) :
    reader.part placement ++
        (rest.head?.map fun next => reader.store.bytes.drop next.offset.toNat).getD [] =
      reader.store.bytes.drop placement.offset.toNat := by
  have listed : ∀ next ∈ placement :: rest, 0 ≤ next.offset := by
    intro next member
    apply sound.offset_nonneg
    rw [← reader.index.layout_perm.mem_iff, split]
    exact List.mem_append_right _ member
  have here := listed placement List.mem_cons_self
  have ends := recordEnd_of_split split
  rw [sound.size] at ends
  simp only [part, extent, Request.bytesOf]
  cases rest with
  | nil =>
      simp only [List.head?_nil, Option.map_none, Option.getD_none, min_self] at ends
      have size : (reader.recordEnd placement.key - placement.offset).toNat =
          reader.store.bytes.length - placement.offset.toNat := by omega
      simp [size, Bytes.slice]
  | cons next others =>
      have there := listed next (List.mem_cons_of_mem _ List.mem_cons_self)
      have ordered := offset_le_of_split split List.mem_cons_self
      simp only [List.head?_cons, Option.map_some, Option.getD_some] at ends ⊢
      have size : (reader.recordEnd placement.key - placement.offset).toNat =
          min next.offset.toNat reader.store.bytes.length - placement.offset.toNat := by omega
      rw [size]
      exact slice_append_drop _ (by omega)

/-- The records of the layout from some point on fill the data up to the end. -/
theorem joined_suffix {earlier later : List Placement}
    (split : reader.index.layout = earlier ++ later) :
    ((later.filter fun placement => decide (placement.offset ≤ (reader.size : Int))).map
        reader.part).flatten =
      (later.head?.map fun first => reader.store.bytes.drop first.offset.toNat).getD [] := by
  induction later generalizing earlier with
  | nil => rfl
  | cons placement rest induction =>
      have shifted := split.trans (List.append_cons earlier placement rest)
      by_cases within : placement.offset ≤ (reader.size : Int)
      · rw [List.filter_cons_of_pos (by simpa using within), List.map_cons, List.flatten_cons,
          induction shifted]
        exact sound.part_of_split split
      · -- all later records start past the end as well
        have beyond : (placement :: rest).filter
            (fun placement => decide (placement.offset ≤ (reader.size : Int))) = [] := by
          rw [List.filter_eq_nil_iff]
          intro next member inside
          have le : placement.offset ≤ next.offset := by
            rcases List.mem_cons.mp member with rfl | later
            · exact le_refl _
            · exact offset_le_of_split split later
          simp only [decide_eq_true_eq] at inside
          omega
        have size := sound.size
        rw [beyond]
        simp only [List.map_nil, List.flatten_nil, List.head?_cons, Option.map_some,
          Option.getD_some]
        exact (List.drop_eq_nil_of_le (by omega)).symm

theorem joined_of_ordered {ordered : List Placement}
    (inOrder : reader.index.Ordered reader.size ordered) {least : Int}
    (first : IsLeast {offset | ∃ placement ∈ reader.index.placements, placement.offset = offset}
      least) :
    (ordered.map reader.part).flatten = reader.store.bytes.drop least.toNat := by
  have whole := sound.joined_suffix (List.nil_append reader.index.layout).symm
  rw [inOrder.eq_layout, whole]
  have permuted := reader.index.layout_perm
  cases layout : reader.index.layout with
  | nil =>
      rw [layout] at permuted
      cases permuted.nil_eq
  | cons start rest =>
      have split : reader.index.layout = [] ++ start :: rest := layout
      have listed : start ∈ reader.index.placements := by
        rw [← permuted.mem_iff, layout]
        exact List.mem_cons_self
      obtain ⟨⟨placement, member, rfl⟩, lower⟩ := first
      have forward : placement.offset ≤ start.offset := lower ⟨start, listed, rfl⟩
      have backward : start.offset ≤ placement.offset := by
        rw [← permuted.mem_iff, layout] at member
        rcases List.mem_cons.mp member with rfl | later
        · exact le_refl _
        · exact offset_le_of_split split later
      simp [le_antisymm forward backward]

end Sound

/-- The parts that a reader takes for the records that start in the data do not
overlap, and joined in their order they are the data from the first record on. -/
structure Tiles (reader : Reader) (data : Bytes) : Prop where
  taken : ∀ placement ∈ reader.index.startingWithin data.length,
    reader.request? placement.key placement.offset = some (reader.extent placement)
  apart : ∀ left ∈ reader.index.startingWithin data.length,
    ∀ right ∈ reader.index.startingWithin data.length, left ≠ right →
      (reader.extent left).Apart (reader.extent right)
  orderable : ∃ ordered, reader.index.Ordered data.length ordered
  joined : ∀ ordered, reader.index.Ordered data.length ordered → ∀ least,
    IsLeast {offset | ∃ placement ∈ reader.index.placements, placement.offset = offset} least →
      ∀ fail, ∃ pieces,
        (ordered.mapM fun placement =>
          reader.recordBytes placement.key placement.offset fail) = .ok pieces ∧
          pieces.flatten = data.drop least.toNat

theorem Sound.tiles {reader : Reader} (sound : reader.Sound) :
    reader.Tiles reader.store.bytes := by
  have size := sound.size
  refine ⟨?_, ?_, ⟨_, reader.index.ordered_layout _⟩, ?_⟩
  · intro placement member
    obtain ⟨_, within⟩ := Index.mem_startingWithin.mp member
    exact request?_of_within (size ▸ within)
  · intro left leftListed right rightListed different
    exact apart_of_ne (Index.mem_startingWithin.mp leftListed).1
      (Index.mem_startingWithin.mp rightListed).1 different
  · intro ordered inOrder least first fail
    refine ⟨ordered.map reader.part, ?_, sound.joined_of_ordered (size ▸ inOrder) first⟩
    apply mapM_eq_ok_of_forall
    intro placement member
    obtain ⟨_, within⟩ := Index.mem_startingWithin.mp (inOrder.complete.mem_iff.mp member)
    exact sound.recordBytes_of_within (size ▸ within) fail

/-! ## Isolation -/

/-- The records of an open container tile its data.  What is read of a record
that starts in the data depends on the index and on the bytes of its own part
alone. -/
theorem records_tile_and_isolate (store : Store) (faultless : store.faults = {}) (strict : Bool)
    (reader : Reader) (opened : ofStore store strict = .ok reader) :
    reader.Tiles store.bytes ∧
      ∀ (other : Store), other.faults = {} → ∀ another, ofStore other strict = .ok another →
        another.index = reader.index → ∀ placement ∈ reader.index.placements,
          placement.offset ≤ (store.bytes.length : Int) →
            placement.offset ≤ (other.bytes.length : Int) →
              (reader.extent placement).bytesOf store.bytes =
                (another.extent placement).bytesOf other.bytes →
                reader.SameRead another placement.key := by
  obtain ⟨_, rfl⟩ := (ofStore_eq_ok_iff faultless).mp opened
  have sound := sound_of_trusted faultless strict
  refine ⟨sound.tiles, ?_⟩
  intro other otherFaultless another otherOpened index placement listed within otherWithin same
  obtain ⟨_, rfl⟩ := (ofStore_eq_ok_iff otherFaultless).mp otherOpened
  have otherSound := sound_of_trusted otherFaultless strict
  apply sameRead_of_recordBytes index.symm rfl listed
  intro fail
  rw [sound.recordBytes_of_within within, otherSound.recordBytes_of_within otherWithin]
  exact congrArg Except.ok same

/-- Three flow graphs behind a header of 48 bytes: the call graph is empty since
the first flow graph starts where it does, and the third starts past the end. -/
def tiedHeader : Bytes :=
  [48, 0, 0, 0, 50, 0, 0, 0, 3, 0, 0, 0,
   5, 0, 0, 0, 0, 0, 0, 0, 50, 0, 0, 0,
   6, 0, 0, 0, 0, 0, 0, 0, 52, 0, 0, 0,
   7, 0, 0, 0, 0, 0, 0, 0, 99, 0, 0, 0]

/-- A reader of the header and some bytes behind it. -/
def tiedReader (rest : Bytes) : Reader where
  store := { bytes := tiedHeader ++ rest }
  strict := true
  size := (tiedHeader ++ rest).length
  index := ⟨48, 50, [⟨5, 50⟩, ⟨6, 52⟩, ⟨7, 99⟩]⟩

/-- The first flow graph reads the same after the metadata are overwritten and
the second flow graph is extended past the end. -/
theorem tiedContainer_isolates :
    (tiedReader [8, 1, 18, 0, 9]).Tiles (tiedHeader ++ [8, 1, 18, 0, 9]) ∧
      (tiedReader [8, 1, 18, 0, 9]).SameRead (tiedReader [255, 255, 18, 0, 10, 11, 12])
        (.flowGraph 0) := by
  have opened : ofStore { bytes := tiedHeader ++ [8, 1, 18, 0, 9] } true =
    .ok (tiedReader [8, 1, 18, 0, 9]) := by decide
  have otherOpened : ofStore { bytes := tiedHeader ++ [255, 255, 18, 0, 10, 11, 12] } true =
    .ok (tiedReader [255, 255, 18, 0, 10, 11, 12]) := by decide
  have part : ((tiedReader [8, 1, 18, 0, 9]).extent ⟨50, .flowGraph 0⟩).bytesOf
        (tiedHeader ++ [8, 1, 18, 0, 9]) =
      ((tiedReader [255, 255, 18, 0, 10, 11, 12]).extent ⟨50, .flowGraph 0⟩).bytesOf
        (tiedHeader ++ [255, 255, 18, 0, 10, 11, 12]) := by cbv
  obtain ⟨tiles, isolates⟩ := records_tile_and_isolate _ rfl true _ opened
  exact ⟨tiles, isolates _ rfl _ otherOpened rfl ⟨50, .flowGraph 0⟩ (by decide) (by decide)
    (by decide) part⟩

end Reader

end CodeGraph.Container
