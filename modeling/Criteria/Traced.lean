import Criteria.Event
import Criteria.Fault

/-!
# Traced computations

A traced computation leaves the log entries it wrote, and a value or the fault that stopped it.
Entries written before a fault stay written.
-/

namespace Criteria

/-- The entries that a computation wrote and what came of it. -/
structure Traced (α : Type) where
  /-- The entries, the earliest first. -/
  entries : List Entry
  /-- The value, or the fault that stopped the computation. -/
  outcome : Except Fault α

namespace Traced

variable {α β : Type}

/-- Go on with a computation where another one left off, unless that one was stopped. -/
def andThen (first : Traced α) (next : α → Traced β) : Traced β :=
  match first.outcome with
  | .error fault => ⟨first.entries, .error fault⟩
  | .ok value =>
    let second := next value
    ⟨first.entries ++ second.entries, second.outcome⟩

instance : Monad Traced where
  pure value := ⟨[], .ok value⟩
  bind := andThen

/-- Write one event. -/
def emit (event : Event) : Traced Unit := ⟨[event.entry], .ok ()⟩

/-- Write some events. -/
def emitAll (events : List Event) : Traced Unit := ⟨events.map Event.entry, .ok ()⟩

/-- Stop with a fault. -/
def fail (fault : Fault) : Traced α := ⟨[], .error fault⟩

/-- Turn a result into a computation that writes nothing. -/
def ofExcept (result : Except Fault α) : Traced α := ⟨[], result⟩

/-- Put a computation inside a vector. -/
def within (vector : String) (computation : Traced α) : Traced α :=
  { computation with entries := computation.entries.map (Entry.within vector) }

/-- Change the fault of a computation that was stopped. -/
def mapFault (change : Fault → Fault) (computation : Traced α) : Traced α :=
  { computation with outcome := computation.outcome.mapError change }

@[simp]
theorem outcome_pure (value : α) : (pure value : Traced α).outcome = .ok value := rfl

/-- A stopped computation is not continued. -/
theorem bind_of_error {first : Traced α} {fault : Fault} (h : first.outcome = .error fault)
    (next : α → Traced β) : first >>= next = ⟨first.entries, .error fault⟩ := by
  change andThen first next = _
  simp [andThen, h]

/-- A computation that gave a value is continued with it. -/
theorem bind_of_ok {first : Traced α} {value : α} (h : first.outcome = .ok value)
    (next : α → Traced β) :
    first >>= next = ⟨first.entries ++ (next value).entries, (next value).outcome⟩ := by
  change andThen first next = _
  simp [andThen, h]

/-- Two computations in a row write what the first writes and then, if that one gave a value, what
the second does. -/
theorem entries_bind (first : Traced α) (next : α → Traced β) :
    (first >>= next).entries = first.entries ++
      match first.outcome with
      | .ok value => (next value).entries
      | .error _ => [] := by
  cases h : first.outcome with
  | error fault => rw [bind_of_error h, List.append_nil]
  | ok value => rw [bind_of_ok h]

/-- A value that comes of two computations comes of the second, continued with that of the first. -/
theorem outcome_bind_eq_ok_iff {first : Traced α} {next : α → Traced β} {result : β} :
    (first >>= next).outcome = .ok result ↔
      ∃ value, first.outcome = .ok value ∧ (next value).outcome = .ok result := by
  cases h : first.outcome with
  | error fault => simp [bind_of_error h]
  | ok value => simp [bind_of_ok h]

/-- A fault of two computations is that of the first, or that of the second, continued with the
value of the first. -/
theorem outcome_bind_eq_error_iff {first : Traced α} {next : α → Traced β} {fault : Fault} :
    (first >>= next).outcome = .error fault ↔
      first.outcome = .error fault ∨
        ∃ value, first.outcome = .ok value ∧ (next value).outcome = .error fault := by
  cases h : first.outcome with
  | error other => simp [bind_of_error h]
  | ok value => simp [bind_of_ok h]

/-- A computation whose value is changed writes what it would. -/
theorem entries_map (change : α → β) (computation : Traced α) :
    (change <$> computation).entries = computation.entries := by
  obtain ⟨entries, outcome⟩ := computation
  cases outcome with
  | error fault => rfl
  | ok value => exact List.append_nil entries

/-- A computation whose value is changed ends as it would, with the changed value. -/
theorem outcome_map (change : α → β) (computation : Traced α) :
    (change <$> computation).outcome = computation.outcome.map change := by
  obtain ⟨entries, outcome⟩ := computation
  cases outcome <;> rfl

/-- A changed value is the change of a value. -/
theorem outcome_map_eq_ok_iff {change : α → β} {computation : Traced α} {result : β} :
    (change <$> computation).outcome = .ok result ↔
      ∃ value, computation.outcome = .ok value ∧ change value = result := by
  change (computation >>= fun value => pure (change value)).outcome = .ok result ↔ _
  simp [outcome_bind_eq_ok_iff]

/-- Changing the value does not change the fault. -/
theorem outcome_map_eq_error_iff {change : α → β} {computation : Traced α} {fault : Fault} :
    (change <$> computation).outcome = .error fault ↔ computation.outcome = .error fault := by
  rw [outcome_map]
  cases computation.outcome <;> simp [Except.map]

instance : LawfulMonad Traced :=
  LawfulMonad.mk' Traced
    (by
      intro α first
      obtain ⟨entries, outcome⟩ := first
      cases outcome <;> simp [Functor.map, andThen])
    (by
      intro α β value next
      simp [bind, pure, andThen])
    (by
      intro α β γ first next last
      obtain ⟨entries, outcome⟩ := first
      cases outcome with
      | error fault => rfl
      | ok value => cases h : (next value).outcome <;> simp [bind, andThen, h])

end Traced

end Criteria
