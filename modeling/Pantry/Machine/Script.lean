import Pantry.Machine.Program

namespace Machine

/-- A program of which others may run between any two accesses to the state. An access changes
    the state at once, and what follows depends on the state it found. -/
inductive Script (ε σ α : Type) where
  | done (value : α)
  | fault (reason : ε)
  | cut
  | access (move : σ → σ) (rest : σ → Script ε σ α)

namespace Script

variable {ε σ α β : Type}

def bind (f : α → Script ε σ β) : Script ε σ α → Script ε σ β
  | done value => f value
  | fault reason => fault reason
  | cut => cut
  | access move rest => access move fun s => (rest s).bind f

instance : Monad (Script ε σ) where
  pure := done
  bind script f := script.bind f

/-- The script with nothing else running. -/
def run : Script ε σ α → σ → Ending ε σ α
  | done value, s => .done value s
  | fault reason, _ => .fault reason
  | cut, _ => .cut
  | access move rest, s => (rest s).run (move s)

def read (f : σ → α) : Script ε σ α := access id fun s => done (f s)

def write (move : σ → σ) : Script ε σ Unit := access move fun _ => done ()

def Finishes (script : Script ε σ α) (s : σ) (value : α) (t : σ) : Prop := script.run s = .done value t

/-- Run alone from `s` the script finishes as `Q` says, or stops in a fault that `E` allows. -/
def Safe (E : ε → Prop) (script : Script ε σ α) (s : σ) (Q : α → σ → Prop) : Prop :=
  match script.run s with
  | .done value t => Q value t
  | .fault reason => E reason
  | .cut => False

section Rules

variable {E : ε → Prop} {script : Script ε σ α} {f : α → Script ε σ β} {s t : σ} {value : α} {Q R : α → σ → Prop}
  {P : β → σ → Prop}

@[simp] theorem safe_pure : Safe E (pure value) s Q ↔ Q value s := Iff.rfl

@[simp] theorem safe_fault {reason : ε} : Safe E (fault reason) s Q ↔ E reason := Iff.rfl

@[simp] theorem safe_read {g : σ → α} : Safe E (read g) s Q ↔ Q (g s) s := Iff.rfl

@[simp] theorem safe_write {move : σ → σ} {Q : Unit → σ → Prop} : Safe E (write move) s Q ↔ Q () (move s) := Iff.rfl

@[simp] theorem safe_access {move : σ → σ} {rest : σ → Script ε σ α} :
    Safe E (access move rest) s Q ↔ Safe E (rest s) (move s) Q := Iff.rfl

@[simp] theorem safe_bind : Safe E (script >>= f) s P ↔ Safe E script s fun value t => Safe E (f value) t P := by
  change Safe E (script.bind f) s P ↔ _
  induction script generalizing s with
  | done value => rfl
  | fault reason => rfl
  | cut => rfl
  | access move rest ih => exact ih s

theorem Safe.mono (safe : Safe E script s Q) (imp : ∀ value t, Q value t → R value t) : Safe E script s R := by
  unfold Safe at safe ⊢
  split
  · rename_i value t ending
    rw [ending] at safe
    exact imp value t safe
  · rename_i reason ending
    rw [ending] at safe
    exact safe
  · rename_i ending
    rw [ending] at safe
    exact safe

theorem Safe.weaken {E' : ε → Prop} (safe : Safe E script s Q) (imp : ∀ reason, E reason → E' reason) :
    Safe E' script s Q := by
  unfold Safe at safe ⊢
  split
  · rename_i value t ending
    rw [ending] at safe
    exact safe
  · rename_i reason ending
    rw [ending] at safe
    exact imp reason safe
  · rename_i ending
    rw [ending] at safe
    exact safe

theorem Safe.finishes (safe : Safe E script s Q) (finishes : script.Finishes s value t) : Q value t := by
  unfold Safe at safe
  rw [finishes] at safe
  exact safe

theorem Safe.cases (safe : Safe E script s Q) :
    (∃ value t, script.Finishes s value t ∧ Q value t) ∨ ∃ reason, script.run s = .fault reason ∧ E reason := by
  unfold Safe at safe
  unfold Finishes
  cases ending : script.run s with
  | done value t =>
    rw [ending] at safe
    exact .inl ⟨value, t, rfl, safe⟩
  | fault reason =>
    rw [ending] at safe
    exact .inr ⟨reason, rfl, safe⟩
  | cut =>
    rw [ending] at safe
    exact safe.elim

end Rules

end Script

end Machine
