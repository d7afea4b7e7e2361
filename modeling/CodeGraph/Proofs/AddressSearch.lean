import CodeGraph.Container.Reader
import Mathlib

/-!
# Finding a flow graph by its address

Halving keeps the place of a key inside the range that is searched.  Equal
addresses are sorted by their positions, so the search finds the first position
of the index with an address.
-/

namespace CodeGraph.Container

/-! ## Halving -/

def SortedKeys (keys : Array Int) : Prop :=
  ∀ left right, left ≤ right → right < keys.size → keys.getD left 0 ≤ keys.getD right 0

/-- All keys before the range are less than the target, and none behind it is. -/
structure Brackets (keys : Array Int) (target : Int) (low high : Nat) : Prop where
  ordered : low ≤ high
  inside : high ≤ keys.size
  below : ∀ position < low, keys.getD position 0 < target
  above : ∀ position, high ≤ position → position < keys.size → target ≤ keys.getD position 0

theorem brackets_whole (keys : Array Int) (target : Int) : Brackets keys target 0 keys.size := by
  refine ⟨Nat.zero_le _, le_refl _, ?_, ?_⟩
  · intro position impossible
    omega
  · intro position past inside
    omega

theorem Brackets.upper {keys : Array Int} {target : Int} {low high : Nat}
    (brackets : Brackets keys target low high) (sorted : SortedKeys keys) {middle : Nat}
    (within : low ≤ middle ∧ middle < high) (less : keys.getD middle 0 < target) :
    Brackets keys target (middle + 1) high := by
  obtain ⟨ordered, inside, below, above⟩ := brackets
  refine ⟨by omega, inside, ?_, above⟩
  intro position before
  have le := sorted position middle (by omega) (by omega)
  omega

theorem Brackets.lower {keys : Array Int} {target : Int} {low high : Nat}
    (brackets : Brackets keys target low high) (sorted : SortedKeys keys) {middle : Nat}
    (within : low ≤ middle ∧ middle < high) (notLess : ¬ keys.getD middle 0 < target) :
    Brackets keys target low middle := by
  obtain ⟨ordered, inside, below, above⟩ := brackets
  refine ⟨by omega, by omega, below, ?_⟩
  intro position past bound
  have le := sorted middle position past bound
  omega

theorem brackets_lowerBound {keys : Array Int} {target : Int} (sorted : SortedKeys keys)
    {low high : Nat} (brackets : Brackets keys target low high) :
    Brackets keys target (lowerBound keys target low high)
      (lowerBound keys target low high) := by
  fun_induction lowerBound keys target low high with
  | case1 low high open_ middle less induction =>
      exact induction (brackets.upper sorted (by omega) less)
  | case2 low high open_ middle notLess induction =>
      exact induction (brackets.lower sorted (by omega) notLess)
  | case3 low high closed =>
      have same : low = high := by
        have ordered := brackets.ordered
        omega
      subst same
      exact brackets

theorem getD_of_getElem? {keys : Array Int} {place : Nat} {key : Int}
    (found : keys[place]? = some key) : place < keys.size ∧ keys.getD place 0 = key := by
  obtain ⟨inside, same⟩ := Array.getElem?_eq_some_iff.mp found
  exact ⟨inside, by simp [Array.getD, inside, same]⟩

theorem getElem?_of_getD {keys : Array Int} {place : Nat} {key : Int} (inside : place < keys.size)
    (same : keys.getD place 0 = key) : keys[place]? = some key := by
  rw [Array.getElem?_eq_getElem inside]
  simpa [Array.getD, inside] using same

/-- A key is found exactly at the first place that holds it. -/
theorem findSorted?_eq_some_iff {keys : Array Int} {target : Int} (sorted : SortedKeys keys)
    {place : Nat} :
    findSorted? keys target = some place ↔
      keys[place]? = some target ∧ ∀ earlier < place, keys[earlier]? ≠ some target := by
  obtain ⟨_, inside, below, above⟩ := brackets_lowerBound sorted (brackets_whole keys target)
  unfold findSorted?
  constructor
  · intro found
    simp only at found
    split at found
    · rename_i holds
      cases found
      refine ⟨holds, ?_⟩
      intro earlier before same
      have less := below earlier before
      have equal := (getD_of_getElem? same).2
      omega
    · cases found
  · intro first
    obtain ⟨holds, fresh⟩ := first
    obtain ⟨bound, equal⟩ := getD_of_getElem? holds
    have atMost : lowerBound keys target 0 keys.size ≤ place := by
      by_contra later
      have less := below place (by omega)
      omega
    have notLess := above _ (le_refl _) (by omega)
    have le := sorted _ place atMost bound
    have here := getElem?_of_getD (lt_of_le_of_lt atMost bound)
      (show keys.getD (lowerBound keys target 0 keys.size) 0 = target by omega)
    have notEarlier : ¬ lowerBound keys target 0 keys.size < place :=
      fun earlier => fresh _ earlier here
    have exact : lowerBound keys target 0 keys.size = place := by omega
    simp only [exact, holds, if_true]

theorem findSorted?_eq_none_iff {keys : Array Int} {target : Int} (sorted : SortedKeys keys) :
    findSorted? keys target = none ↔ target ∉ keys := by
  constructor
  · intro missing member
    have holder := Array.mem_iff_getElem?.mp member
    have found := (findSorted?_eq_some_iff sorted).mpr
      ⟨Nat.find_spec holder, fun earlier before => Nat.find_min holder before⟩
    rw [missing] at found
    cases found
  · intro missing
    cases found : findSorted? keys target with
    | none => rfl
    | some place =>
        have holds := ((findSorted?_eq_some_iff sorted).mp found).1
        exact (missing (Array.mem_of_getElem? holds)).elim

/-! ## Sorted addresses -/

theorem AddressKey.before_iff {left right : AddressKey} :
    left.before right = true ↔ left.1 < right.1 ∨ left.1 = right.1 ∧ left.2 ≤ right.2 := by
  simp [AddressKey.before]

theorem AddressKey.before_trans (first second third : AddressKey)
    (left : first.before second = true) (right : second.before third = true) :
    first.before third = true := by
  rw [before_iff] at left right ⊢
  omega

theorem AddressKey.before_total (left right : AddressKey) :
    (left.before right || right.before left) = true := by
  rw [Bool.or_eq_true, before_iff, before_iff]
  omega

namespace Reader

variable (reader : Reader)

theorem mem_sortedAddresses_iff {address : Int} {position : Nat} :
    (address, position) ∈ reader.sortedAddresses ↔ reader.addresses[position]? = some address := by
  unfold sortedAddresses
  rw [List.mem_mergeSort, List.mk_mem_zipIdx_iff_getElem?]

theorem sortedAddresses_pairwise :
    reader.sortedAddresses.Pairwise fun left right => left.before right = true :=
  List.pairwise_mergeSort AddressKey.before_trans AddressKey.before_total _

/-- The addresses in ascending order. -/
def sortedKeys : Array Int :=
  reader.sortedAddresses.toArray.map (·.1)

theorem getElem?_sortedKeys (place : Nat) :
    reader.sortedKeys[place]? = reader.sortedAddresses[place]?.map (·.1) := by
  simp [sortedKeys]

theorem sortedKeys_sorted : SortedKeys reader.sortedKeys := by
  intro left right le inside
  have bound : right < reader.sortedAddresses.length := by simpa [sortedKeys] using inside
  have ordered := List.pairwise_iff_getElem.mp reader.sortedAddresses_pairwise
  have leftKey : reader.sortedKeys.getD left 0 = (reader.sortedAddresses[left]).1 := by
    simp [sortedKeys, Array.getD, show left < reader.sortedAddresses.length by omega]
  have rightKey : reader.sortedKeys.getD right 0 = (reader.sortedAddresses[right]).1 := by
    simp [sortedKeys, Array.getD, bound]
  rw [leftKey, rightKey]
  rcases Nat.lt_or_eq_of_le le with less | same
  · have before := AddressKey.before_iff.mp (ordered left right (by omega) bound less)
    omega
  · subst same
    exact le_refl _

theorem mem_sortedKeys_iff {address : Int} :
    address ∈ reader.sortedKeys ↔ address ∈ reader.addresses := by
  have permuted := (List.mergeSort_perm reader.addresses.zipIdx AddressKey.before).map Prod.fst
  rw [List.zipIdx_map_fst] at permuted
  have keys : reader.sortedKeys.toList = reader.sortedAddresses.map Prod.fst := by
    simp [sortedKeys]
  rw [← Array.mem_toList_iff, keys]
  exact permuted.mem_iff

theorem position?_eq (address : Int) :
    reader.position? address =
      (findSorted? reader.sortedKeys address).bind fun place =>
        reader.sortedAddresses[place]?.map (·.2) := by
  unfold position?
  cases searched : findSorted? (reader.sortedAddresses.toArray.map (·.1)) address with
  | none =>
      rw [sortedKeys, searched]
      simp only [searched, Option.bind_none]
  | some place =>
      rw [sortedKeys, searched]
      simp only [searched, Option.bind_some, List.getElem?_toArray]

/-- The search finds the first of the sorted addresses that is equal. -/
theorem sorted_of_position? {address : Int} {position : Nat}
    (found : reader.position? address = some position) :
    ∃ place : Nat, reader.sortedAddresses[place]? = some (address, position) ∧
      ∀ earlier < place, reader.sortedKeys[earlier]? ≠ some address := by
  rw [position?_eq] at found
  cases searched : findSorted? reader.sortedKeys address with
  | none =>
      rw [searched] at found
      cases found
  | some place =>
      rw [searched] at found
      obtain ⟨⟨key, listed⟩, holds, rfl⟩ := Option.map_eq_some_iff.mp found
      obtain ⟨here, fresh⟩ := (findSorted?_eq_some_iff reader.sortedKeys_sorted).mp searched
      rw [getElem?_sortedKeys, holds] at here
      cases here
      exact ⟨place, holds, fresh⟩

theorem position?_eq_none_iff {address : Int} :
    reader.position? address = none ↔ address ∉ reader.addresses := by
  rw [position?_eq, ← mem_sortedKeys_iff, ← findSorted?_eq_none_iff reader.sortedKeys_sorted]
  cases searched : findSorted? reader.sortedKeys address with
  | none => simp
  | some place =>
      obtain ⟨here, _⟩ := (findSorted?_eq_some_iff reader.sortedKeys_sorted).mp searched
      rw [getElem?_sortedKeys] at here
      obtain ⟨listed, holds, _⟩ := Option.map_eq_some_iff.mp here
      simp [holds]

theorem first_of_position? {address : Int} {position : Nat}
    (found : reader.position? address = some position) :
    reader.addresses[position]? = some address ∧
      ∀ earlier < position, reader.addresses[earlier]? ≠ some address := by
  obtain ⟨place, holds, fresh⟩ := reader.sorted_of_position? found
  refine ⟨reader.mem_sortedAddresses_iff.mp (List.mem_of_getElem? holds), ?_⟩
  intro earlier before same
  have listed := reader.mem_sortedAddresses_iff.mpr same
  obtain ⟨other, otherHolds⟩ := List.mem_iff_getElem?.mp listed
  obtain ⟨placeBound, placeEq⟩ := List.getElem?_eq_some_iff.mp holds
  obtain ⟨otherBound, otherEq⟩ := List.getElem?_eq_some_iff.mp otherHolds
  have ordered := List.pairwise_iff_getElem.mp reader.sortedAddresses_pairwise
  rcases Nat.lt_trichotomy other place with less | equal | greater
  · have notHere := fresh other less
    rw [getElem?_sortedKeys, otherHolds] at notHere
    exact notHere rfl
  · subst equal
    have samePosition := placeEq.symm.trans otherEq
    simp only [Prod.mk.injEq, true_and] at samePosition
    omega
  · have before := ordered place other placeBound otherBound greater
    rw [placeEq, otherEq, AddressKey.before_iff] at before
    simp only at before
    omega

/-- A position is found exactly if it is the first one with the address. -/
theorem position?_eq_some_iff {address : Int} {position : Nat} :
    reader.position? address = some position ↔
      reader.addresses[position]? = some address ∧
        ∀ earlier < position, reader.addresses[earlier]? ≠ some address := by
  constructor
  · exact reader.first_of_position?
  · intro first
    obtain ⟨holds, fresh⟩ := first
    cases found : reader.position? address with
    | none =>
        have missing := reader.position?_eq_none_iff.mp found
        exact (missing (List.mem_of_getElem? holds)).elim
    | some other =>
        obtain ⟨otherHolds, otherFresh⟩ := reader.first_of_position? found
        rcases Nat.lt_trichotomy other position with less | equal | greater
        · exact (fresh other less otherHolds).elim
        · rw [equal]
        · exact (otherFresh position greater holds).elim

/-- Where addresses are distinct, an address leads to its flow graph. -/
theorem flowGraphFor_of_nodup {reader : Reader} (distinct : reader.addresses.Nodup)
    {position : Nat} {address : Int} (holds : reader.addresses[position]? = some address) :
    reader.flowGraphFor address = reader.flowGraphAt position := by
  have found : reader.position? address = some position := by
    apply reader.position?_eq_some_iff.mpr
    refine ⟨holds, ?_⟩
    intro earlier before same
    have bound := (List.getElem?_eq_some_iff.mp same).1
    have equal := (List.getElem?_inj bound distinct).mp (same.trans holds.symm)
    omega
  rw [flowGraphFor, found]

end Reader

end CodeGraph.Container
