import CodeGraph.Bytes

/-!
# Seekable stores

A store is data with a position that is read from and written to.  A store may
have faults: places that cannot be read, a capacity, or a range that it
reports higher up than the data lies.  An operation that fails leaves the data
as it was.
-/

namespace CodeGraph.Container

/-- Data from `start` on is reported and sought `size` bytes higher up. -/
structure Gap where
  start : Nat
  size : Nat
  deriving DecidableEq, Repr

/-- What a store fails to do. -/
structure Faults where
  /-- Its size cannot be determined. -/
  noSize : Bool := false
  /-- A read that starts at one of these positions of the data fails. -/
  badReads : List Nat := []
  /-- A read that starts at a position of the data returns at most that many
  bytes. -/
  shortReads : List (Nat × Nat) := []
  /-- A write may not end beyond this position. -/
  capacity : Option Nat := none
  gap : Option Gap := none
  deriving DecidableEq, Repr, Inhabited

/-- Data with a position. -/
structure Store where
  bytes : Bytes
  position : Nat := 0
  faults : Faults := {}
  deriving DecidableEq, Repr, Inhabited

/-- Why a store refuses an operation. -/
inductive StoreError
  | sizeUnavailable
  | badSector
  | full
  /-- Whoever follows the writing stopped it. -/
  | stopped (reason : String)
  deriving DecidableEq, Repr

def StoreError.message : StoreError → String
  | .sizeUnavailable => "size unavailable"
  | .badSector => "bad sector"
  | .full => "disk full"
  | .stopped reason => reason

namespace Store

/-- Where the store says that a position of its data is. -/
def reported (store : Store) (position : Nat) : Nat :=
  match store.faults.gap with
  | none => position
  | some gap => if gap.start ≤ position then position + gap.size else position

/-- The position of the data that the store says is at a place. -/
def actual (store : Store) (place : Nat) : Nat :=
  match store.faults.gap with
  | none => place
  | some gap => if gap.start + gap.size ≤ place then place - gap.size else place

/-- The current place. -/
def tell (store : Store) : Nat := store.reported store.position

/-- Moves to a place, which may lie past the end. -/
def seek (store : Store) (place : Nat) : Store :=
  { store with position := store.actual place }

/-- Writes at the current place and moves past what was written. -/
def write (store : Store) (data : Bytes) : Except StoreError Store :=
  let finish := store.position + data.length
  let refused := match store.faults.capacity with
    | none => false
    | some capacity => decide (capacity < finish)
  if refused then .error .full
  else .ok { store with bytes := store.bytes.overwrite store.position data, position := finish }

/-- The size that the store reports. -/
def size (store : Store) : Except StoreError Nat :=
  if store.faults.noSize then .error .sizeUnavailable
  else .ok (store.reported store.bytes.length)

/-- Reads up to `size` bytes from a place on. -/
def read (store : Store) (place size : Nat) : Except StoreError Bytes :=
  let position := store.actual place
  if store.faults.badReads.contains position then .error .badSector
  else
    let limit := match store.faults.shortReads.find? (·.1 == position) with
      | none => size
      | some (_, most) => min most size
    .ok (store.bytes.slice position limit)

end Store

end CodeGraph.Container
