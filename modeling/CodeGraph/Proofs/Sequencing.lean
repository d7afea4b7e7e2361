import Mathlib

/-!
# Computations in sequence

A sequence of steps that may fail succeeds when every step does.  These
equivalences take such a sequence apart without unfolding its monad.
-/

namespace CodeGraph.Sequencing

theorem bind_eq_ok_iff {ε α β : Type} {first : Except ε α} {next : α → Except ε β} {result : β} :
    first >>= next = .ok result ↔ ∃ value, first = .ok value ∧ next value = .ok result := by
  cases first with
  | error error => simp [bind, Except.bind]
  | ok value => simp [bind, Except.bind]

theorem bind_eq_error_iff {ε α β : Type} {first : Except ε α} {next : α → Except ε β}
    {error : ε} :
    first >>= next = .error error ↔
      first = .error error ∨ ∃ value, first = .ok value ∧ next value = .error error := by
  cases first with
  | error given => simp [bind, Except.bind]
  | ok value => simp [bind, Except.bind]

theorem ok_bind {ε α β : Type} (value : α) (next : α → Except ε β) :
    Except.ok value >>= next = next value := rfl

theorem ok_mapError {ε ε' α : Type} (value : α) (function : ε → ε') :
    (Except.ok value : Except ε α).mapError function = .ok value := rfl

theorem pure_eq_ok_iff {ε α : Type} {value result : α} :
    (pure value : Except ε α) = .ok result ↔ result = value := by
  simp [pure, Except.pure, eq_comm]

theorem map_eq_ok_iff {ε α β : Type} {first : Except ε α} {function : α → β} {result : β} :
    first.map function = .ok result ↔ ∃ value, first = .ok value ∧ result = function value := by
  cases first with
  | error error => simp [Except.map]
  | ok value => simp [Except.map, eq_comm]

theorem exists_map_eq_ok_iff {ε α β : Type} {first : Except ε α} {function : α → β} :
    (∃ result, first.map function = .ok result) ↔ ∃ value, first = .ok value := by
  simp only [map_eq_ok_iff]
  constructor
  · intro found
    obtain ⟨_, value, succeeds, _⟩ := found
    exact ⟨value, succeeds⟩
  · intro found
    obtain ⟨value, succeeds⟩ := found
    exact ⟨_, value, succeeds, rfl⟩

theorem map_eq_error_iff {ε α β : Type} {first : Except ε α} {function : α → β} {error : ε} :
    first.map function = .error error ↔ first = .error error := by
  cases first with
  | error error => simp [Except.map]
  | ok value => simp [Except.map]

theorem mapError_eq_ok_iff {ε ε' α : Type} {first : Except ε α} {function : ε → ε'} {result : α} :
    first.mapError function = .ok result ↔ first = .ok result := by
  cases first with
  | error error => simp [Except.mapError]
  | ok value => simp [Except.mapError]

theorem mapError_eq_error_iff {ε ε' α : Type} {first : Except ε α} {function : ε → ε'}
    {error : ε'} :
    first.mapError function = .error error ↔
      ∃ cause, first = .error cause ∧ error = function cause := by
  cases first with
  | error error => simp [Except.mapError, eq_comm]
  | ok value => simp [Except.mapError]

/-- Checks in sequence succeed when each of them does. -/
theorem forM_eq_ok_iff {ε α : Type} {check : α → Except ε Unit} {items : List α} {done : Unit} :
    items.forM check = .ok done ↔ ∀ item ∈ items, check item = .ok () := by
  induction items with
  | nil => exact ⟨fun _ => List.forall_mem_nil _, fun _ => rfl⟩
  | cons item items induction =>
      change (check item >>= fun _ => items.forM check) = .ok done ↔ _
      rw [bind_eq_ok_iff, List.forall_mem_cons, ← induction]
      constructor
      · intro run
        obtain ⟨_, first, rest⟩ := run
        exact ⟨first, rest⟩
      · intro checked
        obtain ⟨first, rest⟩ := checked
        exact ⟨(), first, rest⟩

theorem mapM_nil_eq_ok_iff {ε α β : Type} {step : α → Except ε β} {results : List β} :
    [].mapM step = .ok results ↔ results = [] := by
  rw [List.mapM_nil, pure_eq_ok_iff]

theorem mapM_cons_eq_ok_iff {ε α β : Type} {step : α → Except ε β} {item : α} {items : List α}
    {results : List β} :
    (item :: items).mapM step = .ok results ↔
      ∃ head tail, step item = .ok head ∧ items.mapM step = .ok tail ∧ results = head :: tail := by
  simp only [List.mapM_cons, bind_eq_ok_iff, pure_eq_ok_iff]
  constructor
  · intro run
    obtain ⟨head, first, tail, rest, same⟩ := run
    exact ⟨head, tail, first, rest, same⟩
  · intro parts
    obtain ⟨head, tail, first, rest, same⟩ := parts
    exact ⟨head, first, tail, rest, same⟩

theorem length_of_mapM_eq_ok {ε α β : Type} {step : α → Except ε β} {items : List α}
    {results : List β} (run : items.mapM step = .ok results) : results.length = items.length := by
  induction items generalizing results with
  | nil =>
      obtain rfl := mapM_nil_eq_ok_iff.mp run
      rfl
  | cons item items induction =>
      obtain ⟨head, tail, _, rest, rfl⟩ := mapM_cons_eq_ok_iff.mp run
      rw [List.length_cons, List.length_cons, induction rest]

/-- Steps that each check a condition and then give a fixed value check the
condition of every element and give the value of every element. -/
theorem mapM_eq_ok_iff {ε α β : Type} {step : α → Except ε β} {accepted : α → Prop}
    {value : α → β} (characterized : ∀ item result,
      step item = .ok result ↔ accepted item ∧ result = value item)
    {items : List α} {results : List β} :
    items.mapM step = .ok results ↔
      (∀ item ∈ items, accepted item) ∧ results = items.map value := by
  induction items generalizing results with
  | nil =>
      rw [mapM_nil_eq_ok_iff]
      simp
  | cons item items induction =>
      simp only [mapM_cons_eq_ok_iff, characterized, induction, List.forall_mem_cons,
        List.map_cons]
      constructor
      · intro run
        obtain ⟨head, tail, ⟨headAccepted, rfl⟩, ⟨tailAccepted, rfl⟩, rfl⟩ := run
        exact ⟨⟨headAccepted, tailAccepted⟩, rfl⟩
      · intro described
        obtain ⟨⟨headAccepted, tailAccepted⟩, rfl⟩ := described
        exact ⟨_, _, ⟨headAccepted, rfl⟩, ⟨tailAccepted, rfl⟩, rfl⟩

theorem mapM_eq_ok_of_forall {ε α β : Type} {step : α → Except ε β} {value : α → β}
    {items : List α} (all : ∀ item ∈ items, step item = .ok (value item)) :
    items.mapM step = .ok (items.map value) := by
  induction items with
  | nil => rfl
  | cons item items induction =>
      obtain ⟨head, tail⟩ := List.forall_mem_cons.mp all
      rw [List.mapM_cons, head, induction tail]
      rfl

theorem map_eq_self_of_forall {α : Type} {function : α → α} {items : List α}
    (fixed : ∀ item ∈ items, function item = item) : items.map function = items := by
  rw [List.map_congr_left fixed]
  exact List.map_id' items

/-- The same for steps that may give no value. -/
theorem mapM_eq_some_iff {α β : Type} {step : α → Option β} {accepted : α → Prop}
    {value : α → β} (characterized : ∀ item result,
      step item = some result ↔ accepted item ∧ result = value item)
    {items : List α} {results : List β} :
    items.mapM step = some results ↔
      (∀ item ∈ items, accepted item) ∧ results = items.map value := by
  induction items generalizing results with
  | nil => simp [eq_comm]
  | cons item items induction =>
      simp only [List.mapM_cons, Option.bind_eq_bind, Option.bind_eq_some_iff, Option.pure_def,
        Option.some.injEq, characterized, induction, List.forall_mem_cons, List.map_cons]
      constructor
      · intro found
        obtain ⟨head, ⟨headAccepted, rfl⟩, tail, ⟨tailAccepted, rfl⟩, rfl⟩ := found
        exact ⟨⟨headAccepted, tailAccepted⟩, rfl⟩
      · intro described
        obtain ⟨⟨headAccepted, tailAccepted⟩, rfl⟩ := described
        exact ⟨_, ⟨headAccepted, rfl⟩, _, ⟨tailAccepted, rfl⟩, rfl⟩

theorem mapM_eq_some_of_forall {α β : Type} {step : α → Option β} {value : α → β}
    {items : List α} (all : ∀ item ∈ items, step item = some (value item)) :
    items.mapM step = some (items.map value) := by
  induction items with
  | nil => rfl
  | cons item items induction =>
      obtain ⟨head, tail⟩ := List.forall_mem_cons.mp all
      rw [List.mapM_cons, head, induction tail]
      rfl

/-- What each step gives has a property, so all results have it. -/
theorem forall_of_mapM_eq_ok {ε α β : Type} {step : α → Except ε β} {property : β → Prop}
    (each : ∀ item value, step item = .ok value → property value) {items : List α}
    {results : List β} (run : items.mapM step = .ok results) :
    ∀ value ∈ results, property value := by
  induction items generalizing results with
  | nil =>
      obtain rfl := mapM_nil_eq_ok_iff.mp run
      simp
  | cons item items induction =>
      obtain ⟨head, tail, first, rest, rfl⟩ := mapM_cons_eq_ok_iff.mp run
      exact List.forall_mem_cons.mpr ⟨each item head first, induction rest⟩

/-- Each item has its result among the results. -/
theorem exists_mem_of_mapM_eq_ok {ε α β : Type} {step : α → Except ε β} {items : List α}
    {results : List β} (run : items.mapM step = .ok results) {item : α} (member : item ∈ items) :
    ∃ value ∈ results, step item = .ok value := by
  induction items generalizing results with
  | nil => cases member
  | cons head rest induction =>
      obtain ⟨value, values, first, others, rfl⟩ := mapM_cons_eq_ok_iff.mp run
      rcases List.mem_cons.mp member with rfl | later
      · exact ⟨value, List.mem_cons_self, first⟩
      · obtain ⟨found, among, same⟩ := induction others later
        exact ⟨found, List.mem_cons_of_mem _ among, same⟩

/-- Each result is that of an item. -/
theorem exists_item_of_mapM_eq_ok {ε α β : Type} {step : α → Except ε β} {items : List α}
    {results : List β} (run : items.mapM step = .ok results) {value : β}
    (member : value ∈ results) : ∃ item ∈ items, step item = .ok value := by
  induction items generalizing results with
  | nil =>
      obtain rfl := mapM_nil_eq_ok_iff.mp run
      cases member
  | cons item items induction =>
      obtain ⟨head, tail, first, others, rfl⟩ := mapM_cons_eq_ok_iff.mp run
      rcases List.mem_cons.mp member with rfl | later
      · exact ⟨item, List.mem_cons_self, first⟩
      · obtain ⟨found, among, same⟩ := induction others later
        exact ⟨found, List.mem_cons_of_mem _ among, same⟩

theorem mapM_cons_eq_some_iff {α β : Type} {step : α → Option β} {item : α} {items : List α}
    {results : List β} :
    (item :: items).mapM step = some results ↔
      ∃ head tail, step item = some head ∧ items.mapM step = some tail ∧
        results = head :: tail := by
  simp only [List.mapM_cons, Option.bind_eq_bind, Option.bind_eq_some_iff, Option.pure_def,
    Option.some.injEq]
  constructor
  · intro run
    obtain ⟨head, first, tail, rest, same⟩ := run
    exact ⟨head, tail, first, rest, same.symm⟩
  · intro parts
    obtain ⟨head, tail, first, rest, same⟩ := parts
    exact ⟨head, first, tail, rest, same.symm⟩

theorem forall_of_mapM_eq_some {α β : Type} {step : α → Option β} {property : β → Prop}
    (each : ∀ item value, step item = some value → property value) {items : List α}
    {results : List β} (run : items.mapM step = some results) :
    ∀ value ∈ results, property value := by
  induction items generalizing results with
  | nil =>
      cases run
      simp
  | cons item items induction =>
      obtain ⟨head, tail, first, rest, rfl⟩ := mapM_cons_eq_some_iff.mp run
      exact List.forall_mem_cons.mpr ⟨each item head first, induction rest⟩

end CodeGraph.Sequencing
