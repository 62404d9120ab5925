import Pantry.Machine.Program
import Mathlib.Logic.Relation

namespace Machine

namespace Program

variable {ω ε σ α β ι : Type}

/-- More fuel only carries a program of the family further. -/
def Fuelled (p : Nat → Program ω ε σ α) : Prop := ∀ n m : Nat, n ≤ m → Approximates (p n) (p m)

/-- With enough fuel the program finishes. -/
def Converges (p : Nat → Program ω ε σ α) (s : σ) (out : List ω) (a : α) (s' : σ) : Prop :=
  ∃ fuel, Runs (p fuel) s out a s'

def Leaves (p : Nat → Program ω ε σ α) (s : σ) (a : α) (s' : σ) : Prop := ∃ out, Converges p s out a s'

def Breaks (p : Nat → Program ω ε σ α) (s : σ) (reason : ε) : Prop :=
  ∃ fuel, Faults (p fuel) s reason

section Fuelled

variable {p : Nat → Program ω ε σ α} {f : α → Nat → Program ω ε σ β} {s t u : σ} {out out' : List ω}
  {a a' : α} {b : β} {reason : ε}

theorem fuelled_const (q : Program ω ε σ α) : Fuelled fun _ => q := fun _ _ _ => .refl q

theorem Fuelled.bind (first : Fuelled p) (second : ∀ a, Fuelled (f a)) :
    Fuelled fun n => p n >>= fun a => f a n :=
  fun n m le => (first n m le).bind fun a => second a n m le

theorem fuelled_ite {c : Prop} [Decidable c] {q : Nat → Program ω ε σ α} (yes : Fuelled p) (no : Fuelled q) :
    Fuelled fun n => if c then p n else q n := by
  by_cases holds : c
  · simp only [if_pos holds]
    exact yes
  · simp only [if_neg holds]
    exact no

theorem Fuelled.whenever {q : Nat → Program ω ε σ Unit} (h : Fuelled q) (c : Prop) [Decidable c] :
    Fuelled fun n => whenever c (q n) := fun n m le => (h n m le).whenever

theorem Converges.at_fuel (fuelled : Fuelled p) (converges : Converges p s out a t) (n : Nat) :
    Cuts (p n) s ∨ Runs (p n) s out a t := by
  obtain ⟨fuel, runs⟩ := converges
  rcases Nat.le_total n fuel with le | le
  · rcases fuelled n fuel le s with cuts | same
    · exact .inl cuts
    · exact .inr (by simpa only [Runs, same] using runs)
  · exact .inr ((fuelled fuel n le).runs runs)

theorem Converges.at_max (fuelled : Fuelled p) (converges : Converges p s out a t) :
    ∃ fuel, ∀ n, fuel ≤ n → Runs (p n) s out a t := by
  obtain ⟨fuel, runs⟩ := converges
  exact ⟨fuel, fun n le => (fuelled fuel n le).runs runs⟩

theorem Converges.unique (fuelled : Fuelled p) (first : Converges p s out a t)
    (second : Converges p s out' a' u) : out = out' ∧ a = a' ∧ t = u := by
  obtain ⟨fuel, runs⟩ := second
  rcases first.at_fuel fuelled fuel with cuts | runs'
  · exact absurd cuts runs.not_cuts
  · exact runs'.unique runs

theorem Converges.not_breaks (fuelled : Fuelled p) (converges : Converges p s out a t) :
    ¬ Breaks p s reason := by
  rintro ⟨fuel, faults⟩
  rcases converges.at_fuel fuelled fuel with cuts | runs
  · simp only [Faults] at faults
    simp only [Cuts, faults, reduceCtorEq] at cuts
  · exact runs.not_faults faults

theorem breaks_const {q : Program ω ε σ α} : Breaks (fun _ => q) s reason ↔ Faults q s reason :=
  ⟨fun ⟨_, faults⟩ => faults, fun faults => ⟨0, faults⟩⟩

theorem converges_bind (first : Fuelled p) (second : ∀ a, Fuelled (f a)) :
    Converges (fun n => p n >>= fun a => f a n) s out b u ↔
      ∃ out₁ a t out₂, Converges p s out₁ a t ∧ Converges (f a) t out₂ b u ∧ out = out₁ ++ out₂ := by
  constructor
  · rintro ⟨fuel, runs⟩
    obtain ⟨out₁, a, t, out₂, left, right, rfl⟩ := runs_bind.mp runs
    exact ⟨out₁, a, t, out₂, ⟨fuel, left⟩, ⟨fuel, right⟩, rfl⟩
  · rintro ⟨out₁, a, t, out₂, left, right, rfl⟩
    obtain ⟨n, left⟩ := left.at_max first
    obtain ⟨m, right⟩ := right.at_max (second a)
    exact ⟨max n m, (left _ (Nat.le_max_left n m)).bind (right _ (Nat.le_max_right n m))⟩

theorem breaks_bind (first : Fuelled p) (second : ∀ a, Fuelled (f a)) :
    Breaks (fun n => p n >>= fun a => f a n) s reason ↔
      Breaks p s reason ∨ ∃ out a t, Converges p s out a t ∧ Breaks (f a) t reason := by
  constructor
  · rintro ⟨fuel, faults⟩
    rcases faults_bind.mp faults with faults | ⟨out, a, t, runs, faults⟩
    · exact .inl ⟨fuel, faults⟩
    · exact .inr ⟨out, a, t, ⟨fuel, runs⟩, ⟨fuel, faults⟩⟩
  · rintro (⟨fuel, faults⟩ | ⟨out, a, t, left, ⟨m, faults⟩⟩)
    · exact ⟨fuel, faults_bind.mpr (.inl faults)⟩
    · obtain ⟨n, left⟩ := left.at_max first
      refine ⟨max n m, faults_bind.mpr (.inr ⟨out, a, t, left _ (Nat.le_max_left n m), ?_⟩)⟩
      exact (second a m _ (Nat.le_max_right n m)).faults faults

theorem breaks_bind_leaves (first : Fuelled p) (second : ∀ a, Fuelled (f a)) :
    Breaks (fun n => p n >>= fun a => f a n) s reason ↔
      Breaks p s reason ∨ ∃ a t, Leaves p s a t ∧ Breaks (f a) t reason := by
  rw [breaks_bind first second]
  constructor
  · rintro (now | ⟨out, a, t, left, later⟩)
    · exact .inl now
    · exact .inr ⟨a, t, ⟨out, left⟩, later⟩
  · rintro (now | ⟨a, t, ⟨out, left⟩, later⟩)
    · exact .inl now
    · exact .inr ⟨out, a, t, left, later⟩

end Fuelled

/-- Repeat `step`, each round on the index the one before it gave, until a round gives none. -/
def loop (step : Nat → ι → Program ω ε σ (Option ι)) : Nat → ι → Program ω ε σ Unit
  | 0, _ => stop
  | fuel + 1, i => do
    match ← step fuel i with
    | none => pure ()
    | some j => loop step fuel j

section Loop

variable {step : Nat → ι → Program ω ε σ (Option ι)} {s t u : σ} {i j k : ι} {out out' : List ω}
  {path path' : List ι} {reason : ε}

theorem loop_fuelled (fuelled : ∀ i, Fuelled fun n => step n i) (i : ι) : Fuelled fun n => loop step n i := by
  intro n m le
  induction n generalizing m i with
  | zero => exact stop_approximates _
  | succ n ih =>
    obtain ⟨m, rfl⟩ := Nat.exists_eq_succ_of_ne_zero (Nat.ne_of_gt (Nat.lt_of_lt_of_le n.succ_pos le))
    apply (fuelled i n m (Nat.le_of_succ_le_succ le)).bind
    intro next
    cases next with
    | none => exact .refl _
    | some j => exact ih j m (Nat.le_of_succ_le_succ le)

/-- Rounds at the indices `path`, from state `s` and index `i` to state `t` and index `j`. -/
inductive Path (step : Nat → ι → Program ω ε σ (Option ι)) : σ → ι → List ι → List ω → σ → ι → Prop where
  | nil (s : σ) (i : ι) : Path step s i [] [] s i
  | cons {s t u : σ} {i j k : ι} {path : List ι} {out₁ out₂ : List ω} :
      Converges (fun n => step n i) s out₁ (some j) t → Path step t j path out₂ u k →
      Path step s i (i :: path) (out₁ ++ out₂) u k

theorem loop_succ {fuel : Nat} :
    loop step (fuel + 1) i = step fuel i >>= fun next =>
      match next with
      | none => pure ()
      | some j => loop step fuel j := rfl

theorem loop_converges_iff (fuelled : ∀ i, Fuelled fun n => step n i) :
    Converges (fun n => loop step n i) s out () u ↔
      ∃ path out₁ t j out₂, Path step s i path out₁ t j ∧
        Converges (fun n => step n j) t out₂ none u ∧ out = out₁ ++ out₂ := by
  constructor
  · rintro ⟨fuel, runs⟩
    induction fuel generalizing i s out with
    | zero => exact absurd runs not_runs_stop
    | succ fuel ih =>
      dsimp only at runs
      rw [loop_succ] at runs
      obtain ⟨out₁, next, t, out₂, first, rest, rfl⟩ := runs_bind.mp runs
      cases next with
      | none =>
        obtain ⟨rfl, -, rfl⟩ := runs_pure.mp rest
        exact ⟨[], [], s, i, out₁, .nil s i, ⟨fuel, first⟩, by rw [List.append_nil, List.nil_append]⟩
      | some j =>
        obtain ⟨path, out₃, v, k, out₄, later, last, rfl⟩ := ih rest
        exact ⟨i :: path, out₁ ++ out₃, v, k, out₄, .cons ⟨fuel, first⟩ later, last,
          by rw [List.append_assoc]⟩
  · rintro ⟨path, out₁, t, j, out₂, rounds, last, rfl⟩
    induction rounds with
    | nil s i =>
      obtain ⟨fuel, runs⟩ := last
      refine ⟨fuel + 1, ?_⟩
      dsimp only
      rw [List.nil_append, loop_succ, ← List.append_nil out₂]
      exact runs.bind (runs_pure.mpr ⟨rfl, rfl, rfl⟩)
    | cons first _ ih =>
      obtain ⟨n, rest⟩ := (ih last).at_max (loop_fuelled fuelled _)
      obtain ⟨m, first⟩ := first.at_max (fuelled _)
      refine ⟨max n m + 1, ?_⟩
      dsimp only
      rw [loop_succ, List.append_assoc]
      exact (first _ (Nat.le_max_right n m)).bind (rest _ (Nat.le_max_left n m))

theorem loop_breaks_iff (fuelled : ∀ i, Fuelled fun n => step n i) :
    Breaks (fun n => loop step n i) s reason ↔
      ∃ path out t j, Path step s i path out t j ∧ Breaks (fun n => step n j) t reason := by
  constructor
  · rintro ⟨fuel, faults⟩
    induction fuel generalizing i s with
    | zero => exact absurd faults not_faults_stop
    | succ fuel ih =>
      dsimp only at faults
      rw [loop_succ] at faults
      rcases faults_bind.mp faults with faults | ⟨out, next, t, first, faults⟩
      · exact ⟨[], [], s, i, .nil s i, ⟨fuel, faults⟩⟩
      · cases next with
        | none => exact absurd faults not_faults_pure
        | some j =>
          obtain ⟨path, out', v, k, later, last⟩ := ih faults
          exact ⟨i :: path, out ++ out', v, k, .cons ⟨fuel, first⟩ later, last⟩
  · rintro ⟨path, out, t, j, rounds, last⟩
    induction rounds with
    | nil s i =>
      obtain ⟨fuel, faults⟩ := last
      exact ⟨fuel + 1, faults_bind.mpr (.inl faults)⟩
    | cons first _ ih =>
      obtain ⟨n, faults⟩ := ih last
      obtain ⟨m, first⟩ := first.at_max (fuelled _)
      refine ⟨max n m + 1, faults_bind.mpr (.inr ⟨_, _, _, first _ (Nat.le_max_right n m), ?_⟩)⟩
      exact (loop_fuelled fuelled _ n _ (Nat.le_max_left n m)).faults faults

theorem loop_out {P : List ω → Prop} (append : ∀ first second, P first → P second → P (first ++ second))
    (each : ∀ {i s out next t}, Converges (fun n => step n i) s out next t → P out)
    (converges : Converges (fun n => loop step n i) s out () u) : P out := by
  obtain ⟨fuel, runs⟩ := converges
  induction fuel generalizing i s out with
  | zero => exact absurd runs not_runs_stop
  | succ fuel ih =>
    dsimp only at runs
    rw [loop_succ] at runs
    obtain ⟨out₁, next, t, out₂, first, rest, rfl⟩ := runs_bind.mp runs
    have now : P out₁ := each ⟨fuel, first⟩
    cases next with
    | none =>
      obtain ⟨rfl, -, -⟩ := runs_pure.mp rest
      rwa [List.append_nil]
    | some j => exact append _ _ now (ih rest)

theorem emits_loop {P : ω → Prop} (each : ∀ n i, Emits P (step n i)) (fuel : Nat) (i : ι) :
    Emits P (loop step fuel i) := by
  induction fuel generalizing i with
  | zero => exact emits_stop
  | succ fuel ih =>
    rw [loop_succ]
    apply (each fuel i).bind
    intro next
    cases next with
    | none => exact emits_pure ()
    | some j => exact ih j

/-- A loop whose every round from a set of situations leads back into the set never ends. -/
theorem loop_diverges (fuelled : ∀ i, Fuelled fun n => step n i) {within : σ → ι → Prop}
    (stays : ∀ s i, within s i → ∃ out j t, Converges (fun n => step n i) s out (some j) t ∧ within t j)
    (fuel : Nat) (start : within s i) : Cuts (loop step fuel i) s := by
  induction fuel generalizing s i with
  | zero => rfl
  | succ fuel ih =>
    obtain ⟨out, j, t, converges, next⟩ := stays s i start
    rw [loop_succ]
    rcases converges.at_fuel (fuelled i) fuel with cuts | runs
    · simp only [Cuts, bind_cut cuts]
    · simpa only [Cuts, bind_run runs] using ih next

theorem Path.cycle_diverges (fuelled : ∀ i, Fuelled fun n => step n i)
    (cycle : Path step s i (k :: path) out s i) (fuel : Nat) : Cuts (loop step fuel i) s := by
  let within : σ → ι → Prop := fun t j => ∃ k path out, Path step t j (k :: path) out s i
  have stays : ∀ t j, within t j → ∃ out k u, Converges (fun n => step n j) t out (some k) u ∧ within u k := by
    rintro t j ⟨_, path', _, rounds⟩
    cases rounds with
    | cons first rest =>
      refine ⟨_, _, _, first, ?_⟩
      cases rest with
      | nil => exact ⟨k, path, out, cycle⟩
      | cons second later => exact ⟨_, _, _, .cons second later⟩
  exact loop_diverges fuelled stays fuel ⟨k, path, out, cycle⟩

def Hop (step : Nat → ι → Program ω ε σ (Option ι)) (now next : σ × ι) : Prop :=
  Leaves (fun n => step n now.2) now.1 (some next.2) next.1

open Relation in
theorem Path.of_hops {a b : σ × ι} (hops : ReflTransGen (Hop step) a b) :
    ∃ path out, Path step a.1 a.2 path out b.1 b.2 := by
  induction hops using ReflTransGen.head_induction_on with
  | refl => exact ⟨[], [], .nil _ _⟩
  | head first _ ih =>
    obtain ⟨out, first⟩ := first
    obtain ⟨path, out', rounds⟩ := ih
    exact ⟨_, _, .cons first rounds⟩

open Relation in
theorem Path.hops (rounds : Path step s i path out t j) : ReflTransGen (Hop step) (s, i) (t, j) := by
  induction rounds with
  | nil => exact .refl
  | cons first _ ih => exact .head (b := (_, _)) ⟨_, first⟩ ih

open Relation in
theorem path_iff_hops : (∃ path out, Path step s i path out t j) ↔ ReflTransGen (Hop step) (s, i) (t, j) :=
  ⟨fun ⟨_, _, rounds⟩ => rounds.hops, Path.of_hops⟩

open Relation in
theorem loop_leaves_iff (fuelled : ∀ i, Fuelled fun n => step n i) :
    Leaves (fun n => loop step n i) s () u ↔
      ∃ t j, ReflTransGen (Hop step) (s, i) (t, j) ∧ Leaves (fun n => step n j) t none u := by
  simp only [Leaves, loop_converges_iff fuelled, ← path_iff_hops]
  constructor
  · rintro ⟨_, path, out₁, t, j, out₂, rounds, last, rfl⟩
    exact ⟨t, j, ⟨path, out₁, rounds⟩, out₂, last⟩
  · rintro ⟨t, j, ⟨path, out₁, rounds⟩, out₂, last⟩
    exact ⟨_, path, out₁, t, j, out₂, rounds, last, rfl⟩

open Relation in
theorem loop_breaks_hops (fuelled : ∀ i, Fuelled fun n => step n i) :
    Breaks (fun n => loop step n i) s reason ↔
      ∃ t j, ReflTransGen (Hop step) (s, i) (t, j) ∧ Breaks (fun n => step n j) t reason := by
  simp only [loop_breaks_iff fuelled, ← path_iff_hops]
  constructor
  · rintro ⟨path, out, t, j, rounds, last⟩
    exact ⟨t, j, ⟨path, out, rounds⟩, last⟩
  · rintro ⟨t, j, ⟨path, out, rounds⟩, last⟩
    exact ⟨path, out, t, j, rounds, last⟩

end Loop

end Program

end Machine
