import CodeGraph.Container.Validation
import CodeGraph.Proofs.AddressSearch
import CodeGraph.Proofs.ReaderOpening
import CodeGraph.Proofs.RecordChecks
import CodeGraph.Proofs.RecordLayout
import Mathlib

/-!
# Reading arbitrary data is safe

Whatever the data are, opening them succeeds or reports a malformed header.
Every call on an open container succeeds or reports which record is at fault
and where it is, and no read reaches outside the data.
-/

namespace CodeGraph.Container

open Sequencing

/-! ## Failures that name their record -/

/-- A record is read, or the failure is its fault. -/
def ReadsRecord {α : Type} (outcome : Except ReadError α)
    (named : RecordFault → RecordError) : Prop :=
  (∃ value, outcome = .ok value) ∨ ∃ fault, outcome = .error (.record (named fault))

namespace Reader

def metadataError (reader : Reader) (fault : RecordFault) : RecordError where
  kind := .metadata
  fault := fault
  offset := some reader.index.metaOffset

def callGraphError (reader : Reader) (fault : RecordFault) : RecordError where
  kind := .callGraph
  fault := fault
  offset := some reader.index.callGraphOffset

/-- The error of the flow graph of an entry. -/
def flowGraphError (position : Nat) (entry : Entry) (fault : RecordFault) : RecordError where
  kind := .flowGraph
  fault := fault
  position := some position
  address := some entry.address
  offset := some entry.offset

/-- The bytes of a record are fetched by one read inside the data, unless the
record starts past their end. -/
inductive FetchesInside (reader : Reader) (data : Bytes) (placement : Placement) : Prop
  | past (beyond : data.length < placement.offset)
      (unrequested : reader.request? placement.key placement.offset = none)
      (missing : ∀ fail, reader.recordBytes placement.key placement.offset fail =
        .error (fail (.pastEnd data.length)))
  | inside (place size : Nat) (starts : placement.offset = place)
      (within : place + size ≤ data.length)
      (requested : reader.request? placement.key placement.offset = some ⟨place, size⟩)
      (fetched : ∀ fail, reader.recordBytes placement.key placement.offset fail =
        .ok (data.slice place size))

/-- Two stores answer every read inside some data alike. -/
def AgreeInside (data : Bytes) (store other : Store) : Prop :=
  ∀ place size, place + size ≤ data.length → store.read place size = other.read place size

/-- All calls on two containers have the same outcome. -/
structure Alike (left right : Reader) : Prop where
  metadata : left.metadata = right.metadata
  callGraph : left.callGraph = right.callGraph
  flowGraphAt : ∀ position, left.flowGraphAt position = right.flowGraphAt position
  flowGraphFor : ∀ address, left.flowGraphFor address = right.flowGraphFor address
  flowGraphs : left.flowGraphs = right.flowGraphs
  validate : validate left = validate right

/-- What the calls on an open container do, whatever its data are.  Records have
their offsets, numbers and addresses from the index that the data start with.
What the store would answer to a read that reaches outside the data is never seen. -/
structure Safe (reader : Reader) (data : Bytes) : Prop where
  index : reader.index = storedIndex data
  metadata : ReadsRecord reader.metadata reader.metadataError
  callGraph : ReadsRecord reader.callGraph reader.callGraphError
  flowGraphAt : ∀ position < declaredCount data,
    ReadsRecord (reader.flowGraphAt position).1
      (flowGraphError position (storedEntry data position))
  outOfRange : ∀ position : Int, position < 0 ∨ declaredCount data ≤ position →
    (reader.flowGraphAt position).1 = .error (.noSuchIndex position)
  flowGraphFor : ∀ address, (reader.flowGraphFor address).1 = .error (.noSuchAddress address) ∨
    ∃ position < declaredCount data, (storedEntry data position).address = address ∧
      ReadsRecord (reader.flowGraphFor address).1
        (flowGraphError position (storedEntry data position))
  flowGraphs : ∀ error, reader.flowGraphs.2.1 = some error →
    ∃ position < declaredCount data, ∃ fault,
      error = .record (flowGraphError position (storedEntry data position) fault)
  validate : (∃ report, (validate reader).1 = .ok report) ∨
    (∃ fault, (validate reader).1 = .error (.record (reader.metadataError fault))) ∨
      ∃ fault, (validate reader).1 = .error (.record (reader.callGraphError fault))
  fetches : ∀ placement ∈ (storedIndex data).placements, reader.FetchesInside data placement
  confined : ∀ other : Store, AgreeInside data reader.store other →
    reader.Alike { reader with store := other }

/-! ## Open containers -/

theorem getElem?_storedIndex {data : Bytes} {position : Nat} {entry : Entry} :
    (storedIndex data).entries[position]? = some entry ↔
      position < declaredCount data ∧ entry = storedEntry data position := by
  rw [List.getElem?_eq_some_iff]
  simp [storedIndex, eq_comm]

theorem offset_nonneg_of_stored {data : Bytes} {placement : Placement}
    (member : placement ∈ (storedIndex data).placements) : 0 ≤ placement.offset := by
  rcases Index.mem_placements.mp member with rfl | rfl | ⟨position, entry, stored, rfl⟩
  · exact Int.natCast_nonneg _
  · exact Int.natCast_nonneg _
  · obtain ⟨_, rfl⟩ := getElem?_storedIndex.mp stored
    exact Int.natCast_nonneg _

/-- The store of the reader delivers what the reader expects, and the index of the
reader is the one that the data start with. -/
structure Sound (reader : Reader) : Prop where
  faultless : reader.store.faults = {}
  size : reader.size = reader.store.bytes.length
  index : reader.index = storedIndex reader.store.bytes

theorem sound_of_trusted {store : Store} (faultless : store.faults = {}) (strict : Bool) :
    Sound ⟨store, strict, store.bytes.length, storedIndex store.bytes⟩ :=
  ⟨faultless, rfl, rfl⟩

theorem sound_of_ofStore {store : Store} (faultless : store.faults = {}) {strict : Bool}
    {reader : Reader} (opened : ofStore store strict = .ok reader) : reader.Sound := by
  obtain ⟨_, rfl⟩ := (ofStore_eq_ok_iff faultless).mp opened
  exact sound_of_trusted faultless strict

namespace Sound

variable {reader : Reader} (sound : reader.Sound)
include sound

theorem offset_nonneg {placement : Placement} (member : placement ∈ reader.index.placements) :
    0 ≤ placement.offset := by
  rw [sound.index] at member
  exact offset_nonneg_of_stored member

theorem count_eq : reader.count = declaredCount reader.store.bytes := by
  rw [count, sound.index]
  simp [storedIndex]

theorem listed_iff {position : Nat} {entry : Entry} :
    reader.index.entries[position]? = some entry ↔
      position < declaredCount reader.store.bytes ∧
        entry = storedEntry reader.store.bytes position := by
  rw [sound.index]
  exact getElem?_storedIndex

theorem fetchesInside {placement : Placement} (member : placement ∈ reader.index.placements) :
    reader.FetchesInside reader.store.bytes placement := by
  have size := sound.size
  by_cases past : (reader.size : Int) < placement.offset
  · have unrequested : reader.request? placement.key placement.offset = none := if_pos past
    refine .past (size ▸ past) unrequested ?_
    intro fail
    rw [recordBytes, unrequested, size]
  · have nonnegative := sound.offset_nonneg member
    have ends := Index.le_endOf_layout member (not_lt.mp past)
    have room : 0 ≤ reader.recordEnd placement.key - placement.offset := by
      simp only [recordEnd]
      omega
    have inside : reader.recordEnd placement.key ≤ reader.store.bytes.length := by
      simp only [recordEnd]
      omega
    obtain ⟨place, starts⟩ := Int.eq_ofNat_of_zero_le nonnegative
    obtain ⟨length, takes⟩ := Int.eq_ofNat_of_zero_le room
    have requested : reader.request? placement.key placement.offset = some ⟨place, length⟩ := by
      rw [request?, if_neg past, takes, starts]
    refine .inside place length starts (by omega) requested ?_
    intro fail
    rw [recordBytes, requested]
    simp only [Int.toNat_natCast, size, readAt_of_faultless sound.faultless]

theorem recordBytes_agree {other : Store}
    (agree : AgreeInside reader.store.bytes reader.store other) {placement : Placement}
    (member : placement ∈ reader.index.placements) (fail : RecordFault → ReadError) :
    reader.recordBytes placement.key placement.offset fail =
      { reader with store := other }.recordBytes placement.key placement.offset fail := by
  have request : { reader with store := other }.request? placement.key placement.offset =
      reader.request? placement.key placement.offset := rfl
  rw [recordBytes, recordBytes, request]
  cases sound.fetchesInside member with
  | past _ unrequested => rw [unrequested]
  | inside place size _ within requested =>
      rw [requested]
      simp only [Int.toNat_natCast, readAt, agree place size within]

theorem recordBytes_cases (key : RecordKey) (offset : Int) (fail : RecordFault → ReadError) :
    (∃ data, reader.recordBytes key offset fail = .ok data) ∨
      reader.recordBytes key offset fail = .error (fail (.pastEnd reader.size)) := by
  unfold recordBytes
  cases reader.request? key offset with
  | none => exact .inr rfl
  | some request =>
      simp only [sound.size, readAt_of_faultless sound.faultless]
      exact .inl ⟨_, rfl⟩

theorem readsRecord_of_decode {α : Type} (decode : Bytes → Except Codec.DecodeError α)
    (key : RecordKey) (offset : Int) (named : RecordFault → RecordError) :
    ReadsRecord
      (do
        let data ← reader.recordBytes key offset fun fault => .record (named fault)
        (decode data).mapError fun fault => .record (named (.decode fault))) named := by
  rcases sound.recordBytes_cases key offset fun fault => .record (named fault) with
    ⟨data, fetched⟩ | missing
  · rw [fetched, ok_bind]
    cases decode data with
    | error fault => exact .inr ⟨_, rfl⟩
    | ok value => exact .inl ⟨value, rfl⟩
  · rw [missing]
    exact .inr ⟨_, rfl⟩

theorem readsRecord_metadata : ReadsRecord reader.metadata reader.metadataError :=
  sound.readsRecord_of_decode Codec.decodeMetadata _ _ _

theorem readsRecord_callGraph : ReadsRecord reader.callGraph reader.callGraphError :=
  sound.readsRecord_of_decode Codec.decodeCallGraph _ _ _

theorem readsRecord_flowGraphOfEntry (position : Nat) (entry : Entry) :
    ReadsRecord (reader.flowGraphOfEntry position entry).1 (flowGraphError position entry) := by
  unfold flowGraphOfEntry
  rcases sound.recordBytes_cases (.flowGraph position) entry.offset
    fun fault => .record (flowGraphError position entry fault) with ⟨data, fetched⟩ | missing
  · simp only [flowGraphError] at fetched
    simp only [fetched]
    cases Codec.decodeFlowGraph reader.strict data with
    | mk outcome warnings =>
        cases outcome with
        | error fault => exact .inr ⟨.decode fault, rfl⟩
        | ok graph =>
            by_cases same : graph.address = entry.address
            · simp only [if_pos same]
              exact .inl ⟨graph, rfl⟩
            · simp only [if_neg same]
              exact .inr ⟨.addressMismatch graph.address, rfl⟩
  · simp only [flowGraphError] at missing
    simp only [missing]
    exact .inr ⟨.pastEnd reader.size, rfl⟩

end Sound

theorem flowGraphAt_of_getElem? {reader : Reader} {position : Nat} {entry : Entry}
    (listed : reader.index.entries[position]? = some entry) :
    reader.flowGraphAt position = reader.flowGraphOfEntry position entry := by
  have nonnegative : ¬ (position : Int) < 0 := by omega
  rw [flowGraphAt, if_neg nonnegative, Int.toNat_natCast, listed]

theorem flowGraphAt_of_outOfRange {reader : Reader} {position : Int}
    (outside : position < 0 ∨ reader.count ≤ position) :
    reader.flowGraphAt position = (.error (.noSuchIndex position), []) := by
  unfold flowGraphAt
  by_cases negative : position < 0
  · rw [if_pos negative]
  · have past : reader.index.entries[position.toNat]? = none := by
      rw [List.getElem?_eq_none_iff]
      unfold count at outside
      omega
    rw [if_neg negative, past]

theorem getElem?_addresses {reader : Reader} {position : Nat} {address : Int}
    (holds : reader.addresses[position]? = some address) :
    ∃ entry, reader.index.entries[position]? = some entry ∧ entry.address = address := by
  unfold addresses at holds
  rw [List.getElem?_map] at holds
  obtain ⟨entry, listed, same⟩ := Option.map_eq_some_iff.mp holds
  exact ⟨entry, listed, same⟩

/-! ## Two readers -/

/-- What is read of the record with a key is the same in two containers. -/
def SameRead (left right : Reader) : RecordKey → Prop
  | .metadata => left.metadata = right.metadata
  | .callGraph => left.callGraph = right.callGraph
  | .flowGraph position =>
      left.flowGraphAt position = right.flowGraphAt position ∧
        ∀ address, left.position? address = some position →
          left.flowGraphFor address = right.flowGraphFor address

section TwoRuns

variable {left right : Reader}

theorem flowGraphsAt_congr
    (same : ∀ position, left.flowGraphAt position = right.flowGraphAt position)
    (positions : List Nat) : left.flowGraphsAt positions = right.flowGraphsAt positions := by
  induction positions with
  | nil => rfl
  | cons position rest induction => simp only [flowGraphsAt, same, induction]

theorem readBodies_congr
    (same : ∀ position, left.flowGraphAt position = right.flowGraphAt position)
    (positions : List Nat) : readBodies left positions = readBodies right positions := by
  induction positions with
  | nil => rfl
  | cons position rest induction => simp only [readBodies, same, induction]

variable (index : left.index = right.index)
include index

theorem position?_eq_of_index (address : Int) :
    left.position? address = right.position? address := by
  simp only [position?, sortedAddresses, addresses, index]

theorem sameRead_of_recordBytes (strict : left.strict = right.strict) {placement : Placement}
    (listed : placement ∈ left.index.placements)
    (same : ∀ fail, left.recordBytes placement.key placement.offset fail =
      right.recordBytes placement.key placement.offset fail) :
    left.SameRead right placement.key := by
  rcases Index.mem_placements.mp listed with rfl | rfl | ⟨position, entry, here, rfl⟩
  · simp only [SameRead, metadata, ← index, same]
  · simp only [SameRead, callGraph, ← index, same]
  · have there := here
    rw [index] at there
    have read : left.flowGraphAt position = right.flowGraphAt position := by
      rw [flowGraphAt_of_getElem? here, flowGraphAt_of_getElem? there]
      simp only [flowGraphOfEntry, same, strict]
    refine ⟨read, ?_⟩
    intro address found
    have foundThere := found
    rw [position?_eq_of_index index] at foundThere
    simp only [flowGraphFor, found, foundThere, read]

theorem flowGraphAt_eq_of_sameRead
    (same : ∀ placement ∈ left.index.placements, left.SameRead right placement.key)
    (position : Int) : left.flowGraphAt position = right.flowGraphAt position := by
  by_cases inside : 0 ≤ position ∧ position < left.count
  · obtain ⟨place, rfl⟩ := Int.eq_ofNat_of_zero_le inside.1
    have listed := List.getElem?_eq_getElem (Int.ofNat_lt.mp inside.2)
    exact (same _ (Index.mem_placements.mpr (.inr (.inr ⟨_, _, listed, rfl⟩)))).1
  · have outside : position < 0 ∨ left.count ≤ position := by omega
    have count : left.count = right.count := by rw [Reader.count, Reader.count, index]
    rw [flowGraphAt_of_outOfRange outside, flowGraphAt_of_outOfRange (count ▸ outside)]

/-- Readers with one index that fetch the same bytes answer all calls alike. -/
theorem alike_of_recordBytes (strict : left.strict = right.strict)
    (same : ∀ placement ∈ left.index.placements, ∀ fail,
      left.recordBytes placement.key placement.offset fail =
        right.recordBytes placement.key placement.offset fail) : left.Alike right := by
  have read : ∀ placement ∈ left.index.placements, left.SameRead right placement.key :=
    fun placement listed => sameRead_of_recordBytes index strict listed (same placement listed)
  have metadata : left.metadata = right.metadata := read _ (Index.mem_placements.mpr (.inl rfl))
  have callGraph : left.callGraph = right.callGraph :=
    read _ (Index.mem_placements.mpr (.inr (.inl rfl)))
  have flowGraphAt := flowGraphAt_eq_of_sameRead index read
  have count : left.count = right.count := by rw [Reader.count, Reader.count, index]
  refine ⟨metadata, callGraph, flowGraphAt, ?_, ?_, ?_⟩
  · intro address
    simp only [flowGraphFor, position?_eq_of_index index, flowGraphAt]
  · rw [flowGraphs, flowGraphs, flowGraphsAt_congr flowGraphAt, count]
  · simp only [validate, metadata, callGraph, readBodies_congr flowGraphAt, count]

end TwoRuns

namespace Sound

variable {reader : Reader} (sound : reader.Sound)
include sound

theorem readsRecord_flowGraphAt {position : Nat} {entry : Entry}
    (listed : reader.index.entries[position]? = some entry) :
    ReadsRecord (reader.flowGraphAt position).1 (flowGraphError position entry) := by
  rw [flowGraphAt_of_getElem? listed]
  exact sound.readsRecord_flowGraphOfEntry position entry

theorem flowGraphFor_cases (address : Int) :
    (reader.flowGraphFor address).1 = .error (.noSuchAddress address) ∨
      ∃ (position : Nat) (entry : Entry), reader.index.entries[position]? = some entry ∧
        entry.address = address ∧
          ReadsRecord (reader.flowGraphFor address).1 (flowGraphError position entry) := by
  unfold flowGraphFor
  cases found : reader.position? address with
  | none => exact .inl rfl
  | some position =>
      obtain ⟨holds, _⟩ := reader.first_of_position? found
      obtain ⟨entry, listed, same⟩ := getElem?_addresses holds
      exact .inr ⟨position, entry, listed, same, sound.readsRecord_flowGraphAt listed⟩

/-- Iteration stops at the first flow graph that is at fault. -/
theorem error_of_flowGraphsAt {positions : List Nat}
    (inRange : ∀ position ∈ positions, position < reader.count) {error : ReadError}
    (stopped : (reader.flowGraphsAt positions).2.1 = some error) :
    ∃ (position : Nat) (entry : Entry) (fault : RecordFault),
      reader.index.entries[position]? = some entry ∧
        error = .record (flowGraphError position entry fault) := by
  induction positions with
  | nil => cases stopped
  | cons position rest induction =>
      obtain ⟨first, others⟩ := List.forall_mem_cons.mp inRange
      have listed := List.getElem?_eq_getElem first
      have outcome := sound.readsRecord_flowGraphAt listed
      unfold flowGraphsAt at stopped
      cases read : reader.flowGraphAt position with
      | mk result warnings =>
          rw [read] at outcome stopped
          rcases outcome with ⟨graph, same⟩ | ⟨fault, same⟩
          · simp only at same
            subst same
            exact induction others stopped
          · simp only at same
            subst same
            cases stopped
            exact ⟨position, _, fault, listed, rfl⟩

theorem readBodies_succeeds {positions : List Nat}
    (inRange : ∀ position ∈ positions, position < reader.count) :
    ∃ bodies, (readBodies reader positions).1 = .ok bodies := by
  simp only [readBodies_eq_ok_iff]
  induction positions with
  | nil => exact ⟨[], .nil⟩
  | cons position rest induction =>
      obtain ⟨first, others⟩ := List.forall_mem_cons.mp inRange
      obtain ⟨bodies, more⟩ := induction others
      rcases sound.readsRecord_flowGraphAt (List.getElem?_eq_getElem first) with
        ⟨graph, same⟩ | ⟨fault, same⟩
      · exact ⟨.ok graph :: bodies, .cons same more⟩
      · exact ⟨.error _ :: bodies, .cons same more⟩

theorem validate_cases :
    (∃ report, (validate reader).1 = .ok report) ∨
      (∃ fault, (validate reader).1 = .error (.record (reader.metadataError fault))) ∨
        ∃ fault, (validate reader).1 = .error (.record (reader.callGraphError fault)) := by
  unfold validate
  rcases sound.readsRecord_metadata with ⟨metadata, read⟩ | ⟨fault, failed⟩
  · rw [read]
    rcases sound.readsRecord_callGraph with ⟨callGraph, read⟩ | ⟨fault, failed⟩
    · rw [read]
      have inRange : ∀ position ∈ List.range reader.count, position < reader.count :=
        fun position member => List.mem_range.mp member
      obtain ⟨bodies, succeeded⟩ := sound.readBodies_succeeds inRange
      refine .inl ⟨reportOn metadata callGraph bodies, ?_⟩
      simp only [succeeded]
      rfl
    · rw [failed]
      exact .inr (.inr ⟨fault, rfl⟩)
  · rw [failed]
    exact .inr (.inl ⟨fault, rfl⟩)

theorem safe : reader.Safe reader.store.bytes where
  index := sound.index
  metadata := sound.readsRecord_metadata
  callGraph := sound.readsRecord_callGraph
  flowGraphAt _ bound := sound.readsRecord_flowGraphAt (sound.listed_iff.mpr ⟨bound, rfl⟩)
  outOfRange _ outside := by rw [flowGraphAt_of_outOfRange (sound.count_eq ▸ outside)]
  flowGraphFor address := by
    rcases sound.flowGraphFor_cases address with missing | ⟨position, entry, listed, same, reads⟩
    · exact .inl missing
    · obtain ⟨bound, rfl⟩ := sound.listed_iff.mp listed
      exact .inr ⟨position, bound, same, reads⟩
  flowGraphs error stopped := by
    obtain ⟨position, entry, fault, listed, same⟩ :=
      sound.error_of_flowGraphsAt (fun _ => List.mem_range.mp) stopped
    obtain ⟨bound, rfl⟩ := sound.listed_iff.mp listed
    exact ⟨position, bound, fault, same⟩
  validate := sound.validate_cases
  fetches _ member := sound.fetchesInside (sound.index ▸ member)
  confined _ agree :=
    alike_of_recordBytes rfl rfl fun _ member => sound.recordBytes_agree agree member

end Sound

/-! ## Safety -/

/-- Arbitrary data are opened exactly if their header can be trusted, and are
called malformed otherwise.  An open container is safe to read. -/
theorem ofStore_safe (store : Store) (faultless : store.faults = {}) (strict : Bool) :
    ((∃ reader, ofStore store strict = .ok reader) ↔ TrustedHeader store.bytes) ∧
      (∀ error, ofStore store strict = .error error → ∃ fault, error = .malformed fault) ∧
        ∀ reader, ofStore store strict = .ok reader → reader.Safe store.bytes := by
  refine ⟨?_, ?_, ?_⟩
  · simp only [ofStore_eq_ok_iff faultless]
    exact ⟨fun opened => opened.choose_spec.1, fun trusted => ⟨_, trusted, rfl⟩⟩
  · intro error failed
    exact malformed_of_ofStore_eq_error faultless failed
  · intro reader opened
    obtain ⟨_, rfl⟩ := (ofStore_eq_ok_iff faultless).mp opened
    exact (sound_of_trusted faultless strict).safe

/-- A header that declares one flow graph, which starts past the end; metadata
and call graph are empty. -/
def cutContainer : Bytes :=
  [24, 0, 0, 0, 24, 0, 0, 0, 1, 0, 0, 0, 5, 0, 0, 0, 0, 0, 0, 0, 25, 0, 0, 0]

theorem trustedHeader_cutContainer : TrustedHeader cutContainer := by
  refine ⟨by decide, by decide, by decide, by decide, ?_⟩
  intro position bound
  have first : position = 0 := Nat.lt_one_iff.mp bound
  subst first
  decide

theorem cutContainer_safe :
    ∃ reader, ofStore { bytes := cutContainer, position := 7 } true = .ok reader ∧
      reader.Safe cutContainer ∧ reader.index.entries = [⟨5, 25⟩] ∧
        (reader.flowGraphAt 0).1 = .error (.record (flowGraphError 0 ⟨5, 25⟩ (.pastEnd 24))) := by
  have safe := ofStore_safe { bytes := cutContainer, position := 7 } rfl true
  obtain ⟨reader, opened⟩ := safe.1.mpr trustedHeader_cutContainer
  have index := ((ofStore_eq_ok_iff rfl).mp opened).2
  refine ⟨reader, opened, safe.2.2 reader opened, ?_⟩
  rw [index]
  exact ⟨rfl, rfl⟩

end Reader

end CodeGraph.Container
