import CodeGraph.Container.Validation
import CodeGraph.Proofs.MarkupModes
import Mathlib

/-!
# Strict readers

A reader that was opened strictly gives no warning, whichever records are read
through it.
-/

namespace CodeGraph

namespace Container.Reader

theorem warnings_flowGraphAt_strict {reader : Reader} (strict : reader.strict = true)
    (index : Int) : (reader.flowGraphAt index).2 = [] := by
  unfold flowGraphAt
  split
  · rfl
  cases reader.index.entries[index.toNat]? with
  | none => rfl
  | some entry =>
      simp only [flowGraphOfEntry]
      split
      · rfl
      · next data _ =>
          have none := Codec.warnings_decodeFlowGraph_strict data
          rw [strict]
          split
          · next outcome => simpa [outcome] using none
          · next outcome =>
              rw [outcome] at none
              split
              · exact none
              · exact none

theorem warnings_flowGraphsAt_strict {reader : Reader} (strict : reader.strict = true)
    (positions : List Nat) : (reader.flowGraphsAt positions).2.2 = [] := by
  induction positions with
  | nil => rfl
  | cons position rest induction =>
      have first := warnings_flowGraphAt_strict strict position
      unfold flowGraphsAt
      split
      · next outcome =>
          rw [outcome] at first
          exact first
      · next outcome =>
          rw [outcome] at first
          exact List.append_eq_nil_iff.mpr ⟨first, induction⟩

end Container.Reader

namespace Container

theorem warnings_readBodies_strict {reader : Reader} (strict : reader.strict = true)
    (positions : List Nat) : (readBodies reader positions).2 = [] := by
  induction positions with
  | nil => rfl
  | cons position rest induction =>
      have first := Reader.warnings_flowGraphAt_strict strict position
      cases outcome : reader.flowGraphAt position with
      | mk reached warnings =>
          rw [outcome] at first
          obtain rfl : warnings = [] := first
          unfold readBodies
          simp only [outcome]
          split
          · next same =>
              cases same
              exact induction
          · next same =>
              cases same
              exact induction
          · next same =>
              cases same
              rfl

theorem warnings_validate_strict {reader : Reader} (strict : reader.strict = true) :
    (validate reader).2 = [] := by
  unfold validate
  split
  · rfl
  · split
    · rfl
    · exact warnings_readBodies_strict strict _

end Container

end CodeGraph
