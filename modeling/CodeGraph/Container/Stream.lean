import CodeGraph.Container.Store

/-!
# Seekable streams

A stream may refuse to tell its place, to write, to move or to flush at any
time.  A store is a stream that refuses nothing but writes.
-/

namespace CodeGraph.Container

/-- What is tried may fail, and leaves the stream in some state in either case. -/
abbrev Attempt (σ α : Type) := σ → Except StoreError α × σ

/-- A seekable stream with states `σ`.  Every operation may fail at any time.
If telling the place succeeds the place is true, and what is written takes its
room. -/
structure Stream (σ : Type) where
  place : σ → Nat
  tell : Attempt σ Nat
  write : Bytes → Attempt σ Unit
  seek : Nat → Attempt σ Unit
  flush : Attempt σ Unit
  place_tell : ∀ {state after : σ} {told : Nat},
    tell state = (.ok told, after) → told = place state ∧ place after = place state
  place_write : ∀ {data : Bytes} {state after : σ},
    write data state = (.ok (), after) → place state + data.length ≤ place after

namespace Store

theorem write_eq_ok {store after : Store} {data : Bytes} (written : store.write data = .ok after) :
    after = { store with
      bytes := store.bytes.overwrite store.position data
      position := store.position + data.length } := by
  have stored : ∀ {refused : Bool} {next : Store},
      (if refused then .error StoreError.full else .ok next) = Except.ok after → after = next := by
    intro refused next succeeded
    cases refused with
    | true => cases succeeded
    | false => exact (Except.ok.inj succeeded).symm
  exact stored written

theorem tell_write {store after : Store} {data : Bytes} (written : store.write data = .ok after) :
    store.tell + data.length ≤ after.tell := by
  obtain rfl := write_eq_ok written
  unfold tell reported
  cases store.faults.gap with
  | none => exact Nat.le_refl _
  | some gap =>
      simp only
      split
      · split
        · omega
        · omega
      · split
        · omega
        · omega

/-- A store tells its place, moves and flushes without fail. -/
def asStream : Stream Store where
  place := Store.tell
  tell store := (.ok store.tell, store)
  write data store :=
    match store.write data with
    | .ok after => (.ok (), after)
    | .error error => (.error error, store)
  seek place store := (.ok (), store.seek place)
  flush store := (.ok (), store)
  place_tell := by
    intro state after told tried
    cases tried
    exact ⟨rfl, rfl⟩
  place_write := by
    intro data state after tried
    split at tried
    · next written =>
        cases tried
        exact tell_write written
    · cases tried

end Store

end CodeGraph.Container
