import Pantry.Machine.Loop
import Pantry.Machine.Footprint

namespace Machine

variable {ω ε σ α β ι : Type}

def Result.carry (f : σ → σ) (r : Result ω ε σ α) : Result ω ε σ α :=
  ⟨r.out, match r.ending with
    | .done a s => .done a (f s)
    | .fault reason => .fault reason
    | .cut => .cut⟩

namespace Program

/-- From `f s` the program does what it does from `s`, with `f` applied to the state it leaves. -/
def Commutes (f : σ → σ) (p : Program ω ε σ α) (s : σ) : Prop := p (f s) = Result.carry f (p s)

section Commutes

variable {f : σ → σ} {p : Program ω ε σ α} {k : α → Program ω ε σ β} {s t : σ} {out : List ω} {a : α}

theorem commutes_pure : Commutes f (pure a : Program ω ε σ α) s := rfl

theorem commutes_put {items : List ω} : Commutes f (put items : Program ω ε σ Unit) s := rfl

theorem commutes_stop : Commutes f (stop : Program ω ε σ α) s := rfl

theorem commutes_modify {g : σ → σ} (swap : g (f s) = f (g s)) :
    Commutes f (modify g : Program ω ε σ Unit) s := by
  show (⟨[], .done () (g (f s))⟩ : Result ω ε σ Unit) = ⟨[], .done () (f (g s))⟩
  rw [swap]

theorem Commutes.runs (first : Commutes f p s) (runs : Runs p s out a t) : Runs p (f s) out a (f t) := by
  unfold Commutes at first
  rw [Runs, first, runs]
  rfl

theorem Commutes.bind (first : Commutes f p s)
    (second : ∀ out a t, Runs p s out a t → Commutes f (k a) t) : Commutes f (p >>= k) s := by
  unfold Commutes at first ⊢
  rcases ending_cases p s with ⟨out, a, t, runs⟩ | ⟨reason, faults⟩ | cuts
  · have later : k a (f t) = Result.carry f (k a t) := second out a t runs
    rw [bind_run runs, bind_run (Commutes.runs first runs), later]
    rfl
  · have faults' : Faults p (f s) reason := by
      unfold Faults at faults ⊢
      rw [first, Result.carry, faults]
    rw [bind_fault faults, bind_fault faults', first]
    rfl
  · have cuts' : Cuts p (f s) := by
      unfold Cuts at cuts ⊢
      rw [first, Result.carry, cuts]
    rw [bind_cut cuts, bind_cut cuts', first]
    rfl

theorem Commutes.whenever {c : Prop} [Decidable c] {p : Program ω ε σ Unit} (h : c → Commutes f p s) :
    Commutes f (whenever c p) s := by
  unfold Program.whenever
  split
  · rename_i holds
    exact h holds
  · exact commutes_pure

/-- `inv` holds in every situation that the rounds of the loop lead to. -/
theorem commutes_loop {step : Nat → ι → Program ω ε σ (Option ι)} {inv : σ → ι → Prop}
    (each : ∀ n s i, inv s i → Commutes f (step n i) s)
    (stays : ∀ n s i out j t, inv s i → Runs (step n i) s out (some j) t → inv t j)
    (fuel : Nat) {i : ι} (start : inv s i) : Commutes f (loop step fuel i) s := by
  induction fuel generalizing s i with
  | zero => exact commutes_stop
  | succ fuel ih =>
    rw [loop_succ]
    apply (each fuel s i start).bind
    intro out next t runs
    cases next with
    | none => exact commutes_pure
    | some j => exact ih (stays fuel s i out j t start runs)

end Commutes

end Program

namespace Memory

variable {w : Nat}

/-- A memory that agrees with `m` nowhere. -/
def flip (m : Memory w) : Memory w := fun a => if m a = 0#8 then 1#8 else 0#8

theorem flip_zero_iff {m : Memory w} {a : BitVec w} : m.flip a = 0#8 ↔ m a ≠ 0#8 := by
  unfold flip
  split <;> simp_all

theorem flip_ne (m : Memory w) (a : BitVec w) : m.flip a ≠ m a := by
  intro same
  have zero : m a = 0#8 ↔ m a ≠ 0#8 := by rw [← flip_zero_iff, same]
  exact absurd zero (by tauto)

/-- The bytes of `m` in `R`, those of `other` elsewhere. -/
noncomputable def overlay (R : Set (BitVec w)) (other m : Memory w) : Memory w := by
  classical exact fun a => if a ∈ R then m a else other a

section Overlay

variable {R : Set (BitVec w)} {other m : Memory w} {p a : BitVec w} {off width : Nat}

theorem overlay_inside (inside : a ∈ R) : overlay R other m a = m a := if_pos inside

theorem overlay_outside (outside : a ∉ R) : overlay R other m a = other a := if_neg outside

theorem overlay_self : overlay R m m = m := by
  funext a
  by_cases inside : a ∈ R
  · exact overlay_inside inside
  · exact overlay_outside inside

theorem read_overlay (bound : width / 8 ≤ 2 ^ w) (inside : region (p + BitVec.ofNat w off) (width / 8) ⊆ R) :
    (overlay R other m).read width p off = m.read width p off :=
  read_congr bound fun _ member => overlay_inside (inside member)

theorem write_overlay {value : BitVec width} (inside : region (p + BitVec.ofNat w off) (width / 8) ⊆ R) :
    (overlay R other m).write p off value = overlay R other (m.write p off value) := by
  funext a
  by_cases member : a ∈ R
  · rw [overlay_inside member]
    unfold write store
    rw [overlay_inside member]
  · rw [overlay_outside member, write_other fun within => member (inside within), overlay_outside member]

end Overlay

end Memory

end Machine
