import CodeGraph.Container.Store
import Mathlib

/-!
# Writing to a store without faults

What is written from a place on lies there as one piece, however many writes it
took.  Data before the place is kept or filled up with zeros, and data behind
the written piece stays.
-/

namespace CodeGraph

namespace Bytes

/-- Data cut to a size, or filled up to it with zeros. -/
def resize (bytes : Bytes) (size : Nat) : Bytes :=
  bytes.take size ++ List.replicate (size - bytes.length) 0

@[simp] theorem length_resize (bytes : Bytes) (size : Nat) : (bytes.resize size).length = size := by
  simp only [resize, List.length_append, List.length_take, List.length_replicate]
  omega

theorem resize_append {front : Bytes} (rest : Bytes) {size : Nat} (same : front.length = size) :
    (front ++ rest).resize size = front := by
  subst same
  simp [resize]

theorem drop_append_of_length {front : Bytes} (rest : Bytes) {size more : Nat}
    (same : front.length = size) : (front ++ rest).drop (size + more) = rest.drop more := by
  subst same
  exact List.drop_length_add_append more

@[simp] theorem overwrite_nil (bytes : Bytes) (offset : Nat) : bytes.overwrite offset [] = bytes := by
  rfl

theorem overwrite_of_ne_nil (bytes : Bytes) (offset : Nat) {written : Bytes}
    (nonempty : written ≠ []) :
    bytes.overwrite offset written =
      bytes.resize offset ++ written ++ bytes.drop (offset + written.length) := by
  have content : written.isEmpty = false := by simpa using nonempty
  simp [overwrite, resize, content]

/-- Two writes in a row are one write. -/
@[simp] theorem nil_overwrite (written : Bytes) : overwrite [] 0 written = written := by
  by_cases empty : written = []
  · rw [empty, overwrite_nil]
  · simp [overwrite_of_ne_nil _ _ empty, resize]

theorem overwrite_overwrite (bytes : Bytes) (offset : Nat) (first second : Bytes) :
    (bytes.overwrite offset first).overwrite (offset + first.length) second =
      bytes.overwrite offset (first ++ second) := by
  by_cases firstEmpty : first = []
  · subst firstEmpty
    simp
  by_cases secondEmpty : second = []
  · subst secondEmpty
    simp
  have bothNonempty : first ++ second ≠ [] := by simp [firstEmpty]
  rw [overwrite_of_ne_nil bytes offset firstEmpty, overwrite_of_ne_nil bytes offset bothNonempty,
    overwrite_of_ne_nil _ _ secondEmpty]
  have kept : (bytes.resize offset ++ first ++ bytes.drop (offset + first.length)).resize
      (offset + first.length) = bytes.resize offset ++ first :=
    resize_append _ (by simp)
  have behind : (bytes.resize offset ++ first ++ bytes.drop (offset + first.length)).drop
      (offset + first.length + second.length) =
        bytes.drop (offset + (first ++ second).length) := by
    rw [drop_append_of_length _ (by simp), List.drop_drop, List.length_append, Nat.add_assoc]
  rw [kept, behind, List.append_assoc (bytes.resize offset)]

/-- A piece written over the start of another replaces that start. -/
theorem overwrite_overwrite_start (bytes : Bytes) (offset : Nat) {placeholder replacement : Bytes}
    (rest : Bytes) (sameLength : replacement.length = placeholder.length) :
    (bytes.overwrite offset (placeholder ++ rest)).overwrite offset replacement =
      bytes.overwrite offset (replacement ++ rest) := by
  by_cases empty : replacement = []
  · subst empty
    have nothing : placeholder = [] := List.length_eq_zero_iff.mp sameLength.symm
    subst nothing
    simp
  have placeholderNonempty : placeholder ++ rest ≠ [] := by
    intro nothing
    have both := List.append_eq_nil_iff.mp nothing
    rw [both.1] at sameLength
    exact empty (List.length_eq_zero_iff.mp sameLength)
  have replacementNonempty : replacement ++ rest ≠ [] := by simp [empty]
  rw [overwrite_of_ne_nil bytes offset placeholderNonempty,
    overwrite_of_ne_nil bytes offset replacementNonempty, overwrite_of_ne_nil _ _ empty]
  have kept : (bytes.resize offset ++ (placeholder ++ rest) ++
      bytes.drop (offset + (placeholder ++ rest).length)).resize offset = bytes.resize offset := by
    rw [List.append_assoc]
    exact resize_append _ (length_resize bytes offset)
  have behind : (bytes.resize offset ++ (placeholder ++ rest) ++
      bytes.drop (offset + (placeholder ++ rest).length)).drop (offset + replacement.length) =
        rest ++ bytes.drop (offset + (replacement ++ rest).length) := by
    rw [List.append_assoc, drop_append_of_length _ (length_resize bytes offset), sameLength,
      List.append_assoc, List.drop_left]
    simp [sameLength]
  rw [kept, behind]
  simp only [List.append_assoc]

end Bytes

namespace Container.Store

/-- A store after content was written from its place on. -/
def holding (store : Store) (content : Bytes) : Store :=
  { store with
    bytes := store.bytes.overwrite store.position content
    position := store.position + content.length }

theorem bytes_holding (store : Store) {content : Bytes} (nonempty : content ≠ []) :
    (store.holding content).bytes = store.bytes.resize store.position ++
      (content ++ store.bytes.drop (store.position + content.length)) := by
  rw [holding, Bytes.overwrite_of_ne_nil _ _ nonempty, List.append_assoc]

theorem holding_holding (store : Store) (content data : Bytes) :
    (store.holding content).holding data = store.holding (content ++ data) := by
  simp only [holding, Bytes.overwrite_overwrite, List.length_append, Nat.add_assoc]

/-- Moving back, writing over the start and moving behind the content again. -/
theorem holding_patched (store : Store) {placeholder header : Bytes} (rest : Bytes)
    (sameLength : header.length = placeholder.length) :
    let content := placeholder ++ rest
    { ({ store.holding content with position := store.position } : Store).holding header with
      position := store.position + content.length } = store.holding (header ++ rest) := by
  simp only [holding, Bytes.overwrite_overwrite_start _ _ rest sameLength, List.length_append,
    sameLength]

section Faultless

variable {store : Store} (faultless : store.faults = {})
include faultless

theorem tell_of_faultless : store.tell = store.position := by
  simp [tell, reported, faultless]

theorem seek_of_faultless (place : Nat) : store.seek place = { store with position := place } := by
  simp [seek, actual, faultless]

theorem faultless_holding (content : Bytes) : (store.holding content).faults = {} := faultless

theorem faultless_moved (place : Nat) : ({ store with position := place } : Store).faults = {} :=
  faultless

theorem write_of_faultless (data : Bytes) : store.write data = .ok (store.holding data) := by
  simp [write, holding, faultless]

end Faultless

end Container.Store

end CodeGraph
