import CodeGraph.Proofs.AddressSearch
import CodeGraph.Proofs.DecodedFlowGraph
import CodeGraph.Proofs.ReaderSafety
import Mathlib

/-!
# Looking up an address

Looking an address up by halving comes to the same as going through the index
from its start, also where the index is in no order or an address occurs more
than once.  A flow graph that is found belongs to the entry it was found by.
-/

namespace CodeGraph.Container

open Sequencing

/-- The flow graph has a block and no empty block. -/
structure Bodied (graph : FlowGraph) : Prop where
  blocks : graph.blocks ≠ []
  instructions : ∀ block ∈ graph.blocks, block.instructions ≠ []

namespace Reader

/-- The first position of the index with an address, found by going through the
index. -/
def scan? (reader : Reader) (address : Int) : Option Nat :=
  reader.index.entries.findIdx? fun entry => entry.address == address

theorem getElem?_addresses_eq_some_iff {reader : Reader} {position : Nat} {address : Int} :
    reader.addresses[position]? = some address ↔
      ∃ inside : position < reader.index.entries.length,
        reader.index.entries[position].address = address := by
  rw [addresses, List.getElem?_map, Option.map_eq_some_iff]
  simp only [List.getElem?_eq_some_iff]
  constructor
  · intro holds
    obtain ⟨entry, ⟨inside, rfl⟩, same⟩ := holds
    exact ⟨inside, same⟩
  · intro holds
    obtain ⟨inside, same⟩ := holds
    exact ⟨_, ⟨inside, rfl⟩, same⟩

theorem position?_eq_scan? (reader : Reader) (address : Int) :
    reader.position? address = reader.scan? address := by
  apply Option.ext
  intro position
  rw [position?_eq_some_iff, scan?, List.findIdx?_eq_some_iff_getElem]
  simp only [getElem?_addresses_eq_some_iff, beq_iff_eq, ne_eq, not_exists]
  constructor
  · intro first
    obtain ⟨⟨inside, same⟩, fresh⟩ := first
    exact ⟨inside, same, fun earlier before => fresh earlier before (before.trans inside)⟩
  · intro first
    obtain ⟨inside, same, fresh⟩ := first
    exact ⟨⟨inside, same⟩, fun earlier before _ => fresh earlier before⟩

theorem hasFlowGraph_iff {reader : Reader} {address : Int} :
    reader.hasFlowGraph address = true ↔
      ∃ entry ∈ reader.index.entries, entry.address = address := by
  rw [hasFlowGraph, position?_eq_scan?, scan?, List.findIdx?_isSome, List.any_eq_true]
  simp only [beq_iff_eq]

/-! ## Records that are found -/

theorem bodied_of_decodeFlowGraph {strict : Bool} {data : Bytes} {graph : FlowGraph}
    (decoded : (Codec.decodeFlowGraph strict data).1 = .ok graph) : Bodied graph := by
  obtain ⟨encodable, _⟩ := Codec.encodable_of_decodeFlowGraph decoded
  exact ⟨encodable.blocks_ne_nil, encodable.instructions_ne_nil⟩

/-- A flow graph that was read has the address of its entry and a body. -/
theorem belongs_of_flowGraphOfEntry {reader : Reader} {position : Nat} {entry : Entry}
    {graph : FlowGraph} (read : (reader.flowGraphOfEntry position entry).1 = .ok graph) :
    graph.address = entry.address ∧ Bodied graph := by
  rw [flowGraphOfEntry] at read
  split at read
  · cases read
  · split at read
    · cases read
    · next found _ decoded =>
        have body := bodied_of_decodeFlowGraph (congrArg Prod.fst decoded)
        by_cases same : found.address = entry.address
        · rw [if_pos same] at read
          cases read
          exact ⟨same, body⟩
        · rw [if_neg same] at read
          cases read

theorem belongs_of_flowGraphAt {reader : Reader} {index : Int} {graph : FlowGraph}
    (read : (reader.flowGraphAt index).1 = .ok graph) :
    ∃ (position : Nat) (entry : Entry), index = position ∧
      reader.index.entries[position]? = some entry ∧ graph.address = entry.address ∧
        Bodied graph := by
  rw [flowGraphAt] at read
  by_cases negative : index < 0
  · rw [if_pos negative] at read
    cases read
  · rw [if_neg negative] at read
    cases listed : reader.index.entries[index.toNat]? with
    | none =>
        rw [listed] at read
        cases read
    | some entry =>
        rw [listed] at read
        obtain ⟨same, body⟩ := belongs_of_flowGraphOfEntry read
        exact ⟨index.toNat, entry, by omega, listed, same, body⟩

theorem belongs_of_flowGraphFor {reader : Reader} {address : Int} {graph : FlowGraph}
    (read : (reader.flowGraphFor address).1 = .ok graph) :
    graph.address = address ∧ Bodied graph := by
  rw [flowGraphFor] at read
  cases found : reader.position? address with
  | none =>
      rw [found] at read
      cases read
  | some position =>
      rw [found] at read
      obtain ⟨other, entry, place, listed, same, body⟩ := belongs_of_flowGraphAt read
      obtain ⟨holds, _⟩ := reader.first_of_position? found
      obtain ⟨first, firstListed, firstSame⟩ := getElem?_addresses holds
      obtain rfl := Int.ofNat_inj.mp place
      rw [firstListed, Option.some.injEq] at listed
      subst listed
      exact ⟨same.trans firstSame, body⟩

/-! ## Halving and scanning -/

/-- The search by halving agrees with a scan of the index: an address is known
if an entry has it, and leads to the flow graph of the first such entry, whether
that can be read or not.  Every flow graph that is read is the one asked for. -/
theorem lookup_agrees_with_scan (reader : Reader) (address : Int) :
    (reader.hasFlowGraph address = true ↔
        ∃ entry ∈ reader.index.entries, entry.address = address) ∧
      (reader.flowGraphFor address =
        match reader.index.entries.findIdx? fun entry => entry.address == address with
        | some position => reader.flowGraphAt position
        | none => (.error (.noSuchAddress address), [])) ∧
      (∀ (index : Int) (graph : FlowGraph), (reader.flowGraphAt index).1 = .ok graph →
        ∃ (position : Nat) (entry : Entry), index = position ∧
          reader.index.entries[position]? = some entry ∧ graph.address = entry.address ∧
            Bodied graph) ∧
      ∀ graph, (reader.flowGraphFor address).1 = .ok graph →
        graph.address = address ∧ Bodied graph := by
  refine ⟨hasFlowGraph_iff, ?_, ?_, ?_⟩
  · rw [flowGraphFor, position?_eq_scan?, scan?]
    cases reader.index.entries.findIdx? fun entry => entry.address == address <;> rfl
  · intro index graph read
    exact belongs_of_flowGraphAt read
  · intro graph read
    exact belongs_of_flowGraphFor read

/-- A container whose index names address 5 twice and is in no order. -/
def repeatingReader : Reader where
  store := { bytes :=
    [48, 0, 0, 0, 48, 0, 0, 0, 3, 0, 0, 0,
     5, 0, 0, 0, 0, 0, 0, 0, 60, 0, 0, 0,
     3, 0, 0, 0, 0, 0, 0, 0, 99, 0, 0, 0,
     5, 0, 0, 0, 0, 0, 0, 0, 48, 0, 0, 0,
     8, 5, 18, 8, 8, 0, 18, 4, 8, 5, 16, 0] }
  strict := true
  size := 60
  index := ⟨48, 48, [⟨5, 60⟩, ⟨3, 99⟩, ⟨5, 48⟩]⟩

def onlyBlock : FlowGraph where
  address := 5
  blocks := [{ prime := 0, instructions := [{ address := 5, prime := 0 }] }]

/-- The second entry of address 5 has a flow graph that can be read, but the
first one is looked up, and no entry has address 4. -/
theorem repeatingReader_looked_up :
    ofStore repeatingReader.store true = .ok repeatingReader ∧
      repeatingReader.hasFlowGraph 5 = true ∧
      repeatingReader.flowGraphFor 5 = repeatingReader.flowGraphAt 0 ∧
      repeatingReader.flowGraphFor 4 = (.error (.noSuchAddress 4), []) ∧
      (repeatingReader.flowGraphAt 2).1 = .ok onlyBlock ∧
      ∃ entry, repeatingReader.index.entries[2]? = some entry ∧
        onlyBlock.address = entry.address ∧ Bodied onlyBlock := by
  have opened : ofStore repeatingReader.store true = .ok repeatingReader := by decide
  have read : (repeatingReader.flowGraphAt 2).1 = .ok onlyBlock := by cbv
  obtain ⟨known, first, belongs, _⟩ := lookup_agrees_with_scan repeatingReader 5
  obtain ⟨_, missing, _⟩ := lookup_agrees_with_scan repeatingReader 4
  obtain ⟨position, entry, place, listed, same, body⟩ := belongs 2 onlyBlock read
  obtain rfl : 2 = position := Int.ofNat_inj.mp place
  exact ⟨opened, known.mpr ⟨⟨5, 60⟩, by decide, rfl⟩, first, missing, read, entry, listed, same,
    body⟩

end Reader

end CodeGraph.Container
