import Mathlib.Tactic.Common
import Mathlib.Data.List.Basic

/-! A bounded queue that sends what it holds as one batch, when it is full or when it is flushed. -/

namespace Machine

variable {α : Type} {capacity : Nat}

/-- The queue takes an item, and sends all that it holds if that fills it. -/
inductive Takes (capacity : Nat) (item : α) : List α → List (List α) → List α → Prop where
  | more {queue : List α} : queue.length + 1 < capacity → Takes capacity item queue [] (queue ++ [item])
  | full {queue : List α} : queue.length + 1 = capacity → Takes capacity item queue [queue ++ [item]] []

theorem Takes.kept {item : α} {queue queue' : List α} {sent : List (List α)} (takes : Takes capacity item queue sent queue')
    (room : queue.length + 1 < capacity) : sent = [] ∧ queue' = queue ++ [item] := by
  cases takes with
  | more _ => exact ⟨rfl, rfl⟩
  | full all => exact absurd all (Nat.ne_of_lt room)

def flushed (queue : List α) : List (List α) :=
  match queue with
  | [] => []
  | item :: rest => [item :: rest]

theorem flatten_flushed (queue : List α) : (flushed queue).flatten = queue := by
  cases queue with
  | nil => rfl
  | cons item rest => exact List.flatten_singleton

/-- What was sent and what is queued, in order, are the items taken, and every batch has a lawful size. -/
structure Conserved (capacity : Nat) (items : List α) (sent : List (List α)) (queue : List α) : Prop where
  order : sent.flatten ++ queue = items
  sizes : ∀ batch ∈ sent, 1 ≤ batch.length ∧ batch.length ≤ capacity
  room : queue.length < capacity

namespace Conserved

variable {items queue queue' : List α} {sent more : List (List α)} {item : α}

theorem start (positive : 0 < capacity) : Conserved capacity ([] : List α) [] [] where
  order := rfl
  sizes := by
    intro batch member
    cases member
  room := positive

theorem next (held : Conserved capacity items sent queue) {new : List α} (same : more.flatten ++ queue' = queue ++ new)
    (sizes : ∀ batch ∈ more, 1 ≤ batch.length ∧ batch.length ≤ capacity) (room : queue'.length < capacity) :
    Conserved capacity (items ++ new) (sent ++ more) queue' where
  order := by rw [List.flatten_append, List.append_assoc, same, ← List.append_assoc, held.order]
  sizes := by
    intro batch member
    rcases List.mem_append.mp member with old | new
    · exact held.sizes batch old
    · exact sizes batch new
  room := room

theorem take (held : Conserved capacity items sent queue) (takes : Takes capacity item queue more queue') :
    Conserved capacity (items ++ [item]) (sent ++ more) queue' := by
  cases takes with
  | more room =>
    apply held.next rfl
    · intro batch member
      cases member
    · rwa [List.length_append]
  | full full =>
    have length : (queue ++ [item]).length = capacity := by rwa [List.length_append]
    apply held.next
    · rw [List.flatten_singleton, List.append_nil]
    · intro batch member
      rw [List.mem_singleton.mp member, length]
      omega
    · rw [List.length_nil]
      omega

theorem flush (held : Conserved capacity items sent queue) : Conserved capacity items (sent ++ flushed queue) [] := by
  have room := held.room
  cases queue with
  | nil =>
    rw [flushed, List.append_nil]
    exact held
  | cons item rest =>
    have moved : [item :: rest].flatten ++ [] = (item :: rest) ++ [] := by rw [List.flatten_singleton]
    have next := held.next moved ?_ ?_
    · rwa [List.append_nil] at next
    · intro batch member
      rw [List.mem_singleton.mp member]
      exact ⟨Nat.succ_pos _, Nat.le_of_lt room⟩
    · exact Nat.zero_lt_of_lt room

/-- A batch is a stretch of the items taken. -/
theorem stretch (held : Conserved capacity items sent queue) {batch : List α} (member : batch ∈ sent) :
    ∃ before after, items = before ++ batch ++ after := by
  obtain ⟨earlier, later, rfl⟩ := List.append_of_mem member
  refine ⟨earlier.flatten, later.flatten ++ queue, ?_⟩
  rw [← held.order, List.flatten_append, List.flatten_cons]
  simp only [List.append_assoc]

end Conserved

end Machine
