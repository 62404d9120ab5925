import Pantry.Machine.Loop
import Mathlib.Data.Fintype.Order
import Mathlib.Data.Fintype.Option
import Mathlib.Logic.Function.Basic

/-! A function of a list as a tree of searches: each may depend on the answers to those before. -/

namespace Machine

inductive Query (ι β : Type) where
  | answer (value : β)
  | find (test : ι → Bool) (rest : Option ι → Query ι β)

namespace Query

variable {ι β γ : Type}

def eval : Query ι β → List ι → β
  | answer value, _ => value
  | find test rest, l => (rest (l.find? test)).eval l

def bind (f : β → Query ι γ) : Query ι β → Query ι γ
  | answer value => f value
  | find test rest => find test fun found => (rest found).bind f

theorem eval_bind (f : β → Query ι γ) (q : Query ι β) (l : List ι) : (q.bind f).eval l = (f (q.eval l)).eval l := by
  induction q with
  | answer value => rfl
  | find test rest ih => exact ih _

end Query

theorem Query.eval_congr {ι β : Type} {l l' : List ι} (same : ∀ test, l.find? test = l'.find? test) (q : Query ι β) :
    q.eval l = q.eval l' := by
  induction q with
  | answer value => rfl
  | find test rest ih =>
    unfold eval
    rw [same test]
    exact ih _

variable {ι β γ : Type}

/-- All that the function makes of the list it learns by searching it. -/
def Asks (f : List ι → β) : Prop := ∃ q : Query ι β, ∀ l, q.eval l = f l

section Asks

variable {f : List ι → β}

theorem asks_const (b : β) : Asks fun _ : List ι => b := ⟨.answer b, fun _ => rfl⟩

theorem asks_find (test : ι → Bool) : Asks fun l : List ι => l.find? test := ⟨.find test .answer, fun _ => rfl⟩

theorem Asks.congr (asks : Asks f) {l l' : List ι} (same : ∀ test, l.find? test = l'.find? test) : f l = f l' := by
  obtain ⟨q, evals⟩ := asks
  rw [← evals, ← evals, q.eval_congr same]

theorem Asks.bind {g : β → List ι → γ} (first : Asks f) (rest : ∀ b, Asks (g b)) : Asks fun l => g (f l) l := by
  obtain ⟨q, evals⟩ := first
  choose later answers using rest
  refine ⟨q.bind later, ?_⟩
  intro l
  rw [Query.eval_bind, answers, evals]

theorem Asks.map (asks : Asks f) (g : β → γ) : Asks fun l => g (f l) := asks.bind fun b => asks_const (g b)

theorem asks_of_find [Nonempty β] (test : ι → Bool) (same : ∀ l l', l.find? test = l'.find? test → f l = f l') : Asks f := by
  have through : Function.FactorsThrough f fun l : List ι => l.find? test := fun l l' => same l l'
  obtain ⟨g, rfl⟩ := (Function.factorsThrough_iff f).mp through
  exact (asks_find test).map g

end Asks

variable {ω ε σ α : Type} {p : List ι → Program ω ε σ α} {q : List ι → α → Program ω ε σ β}

namespace Program

/-- A program that learns of a list what it learns by searching it. -/
def Queried (p : List ι → Program ω ε σ α) : Prop := ∀ s, Asks fun l => p l s

theorem queried_const (p : Program ω ε σ α) : Queried fun _ : List ι => p := fun s => asks_const (p s)

theorem queried_by_find (test : ι → Bool)
    (each : ∀ found, ∃ k, (∀ l : List ι, l.find? test = found → p l = k l) ∧ Queried k) : Queried p := by
  intro s
  choose k same queried using each
  have onward : Asks fun l => k (l.find? test) l s := (asks_find test).bind fun found => queried found s
  have alike (l : List ι) : p l = k (l.find? test) l := same _ l rfl
  simpa only [alike] using onward

theorem queried_of_find (test : ι → Bool) (same : ∀ l l', l.find? test = l'.find? test → p l = p l') : Queried p := by
  intro s
  have inhabited : Nonempty (Result ω ε σ α) := ⟨p [] s⟩
  exact asks_of_find test fun l l' found => congrFun (same l l' found) s

theorem Queried.bind (first : Queried p) (rest : ∀ a, Queried fun l => q l a) : Queried fun l => p l >>= q l := by
  intro s
  let later : Result ω ε σ α → List ι → Result ω ε σ β := fun r l => Program.bind (fun _ : σ => r) (q l) s
  have each : ∀ r, Asks (later r) := by
    intro r
    obtain ⟨out, ending⟩ := r
    cases ending with
    | done a t =>
      have tail : Asks fun l => q l a t := rest a t
      exact tail.map fun r => (⟨out ++ r.out, r.ending⟩ : Result ω ε σ β)
    | fault reason => exact asks_const _
    | cut => exact asks_const _
  exact (first s).bind each

theorem queried_after {first : Program ω ε σ α} (rest : ∀ a, Queried fun l => q l a) : Queried fun l => first >>= q l :=
  (queried_const first).bind rest

theorem queried_ite {c : Prop} [Decidable c] {p' : List ι → Program ω ε σ α} (yes : Queried p) (no : Queried p') :
    Queried fun l => if c then p l else p' l := by
  by_cases holds : c
  · simp only [if_pos holds]
    exact yes
  · simp only [if_neg holds]
    exact no

theorem queried_whenever {c : Prop} [Decidable c] {p : List ι → Program ω ε σ Unit} (queried : Queried p) :
    Queried fun l => whenever c (p l) := queried_ite queried (queried_const _)

theorem queried_forEach {body : List ι → γ → Program ω ε σ Unit} (each : ∀ c, Queried fun l => body l c)
    (items : List γ) : Queried fun l => forEach (body l) items := by
  induction items with
  | nil => exact queried_const _
  | cons c rest ih => exact (each c).bind fun _ => ih

theorem queried_loop {step : List ι → Nat → γ → Program ω ε σ (Option γ)} (each : ∀ n c, Queried fun l => step l n c)
    (fuel : Nat) (c : γ) : Queried fun l => loop (step l) fuel c := by
  induction fuel generalizing c with
  | zero => exact queried_const _
  | succ fuel ih =>
    simp only [loop_succ]
    apply (each fuel c).bind
    intro next
    cases next with
    | none => exact queried_const _
    | some c' => exact ih c'

/-- Of finitely many entries only so much can be learnt. Where the program comes back at all, it comes back with
    an amount of fuel that is the same for every list. -/
theorem exists_fuel [Finite ι] {p : Nat → List ι → Program ω ε σ α} (queried : ∀ n, Queried (p n))
    (fuelled : ∀ l, Fuelled fun n => p n l) (s : σ) : ∃ fuel, ∀ l, (∃ n, Returns (p n l) s) → Returns (p fuel l) s := by
  have each (answers : (ι → Bool) → Option ι) :
      ∃ fuel, ∀ l, (fun test => l.find? test) = answers → (∃ n, Returns (p n l) s) → Returns (p fuel l) s := by
    by_cases some : ∃ l, (fun test => l.find? test) = answers ∧ ∃ n, Returns (p n l) s
    · obtain ⟨l, rfl, n, returned⟩ := some
      refine ⟨n, ?_⟩
      intro l' same _
      have alike : p n l' s = p n l s := (queried n s).congr fun test => congrFun same test
      unfold Returns Runs at returned ⊢
      rwa [alike]
    · exact ⟨0, fun l same ends => absurd ⟨l, same, ends⟩ some⟩
  choose fuel enough using each
  obtain ⟨most, above⟩ := Finite.exists_le fuel
  refine ⟨most, ?_⟩
  intro l ends
  obtain ⟨out, a, t, runs⟩ := enough _ l rfl ends
  exact ⟨out, a, t, (fuelled l _ _ (above _)).runs runs⟩

def returned (r : Result ω ε σ α) : Bool :=
  match r.ending with
  | .done _ _ => true
  | _ => false

theorem returned_iff {p : Program ω ε σ α} {s : σ} : returned (p s) = true ↔ Returns p s := by
  unfold Returns Runs
  obtain ⟨out, ending⟩ := p s
  cases ending <;> simp [returned]

theorem asks_returns [Finite ι] {p : Nat → List ι → Program ω ε σ α} (queried : ∀ n, Queried (p n))
    (fuelled : ∀ l, Fuelled fun n => p n l) (s : σ) :
    ∃ q : Query ι Bool, ∀ l, q.eval l = true ↔ ∃ n, Returns (p n l) s := by
  obtain ⟨fuel, enough⟩ := exists_fuel queried fuelled s
  obtain ⟨q, evals⟩ := (queried fuel s).map returned
  refine ⟨q, ?_⟩
  intro l
  rw [evals, returned_iff]
  exact ⟨fun ends => ⟨fuel, ends⟩, enough l⟩

end Program

end Machine
