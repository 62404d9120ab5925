import Pantry.Decoder.Context
import Pantry.Machine.Loop

namespace Decoder

open Machine Panwrap Program

variable {w : Nat} {α β : Type}

/-- `p` goes through exactly where `c` holds, and reads through a null pointer elsewhere. -/
structure Checked (p : Decode w α) (s : Proc w) (c : Prop) (marks : List Mark) (a : α) (s' : Proc w) : Prop where
  traces : c → Traces p s marks a s'
  faults : ¬ c → p.Faults s .nullDeref

section Checked

variable {s s' t u : Proc w} {c d : Prop} {marks marks' : List Mark} {a : α} {b : β} {reason : Fault}
  {p : Decode w α} {f : α → Decode w β}

theorem Checked.traces_iff (checked : Checked p s c marks a t) {a' : α} :
    Traces p s marks' a' s' ↔ c ∧ marks' = marks ∧ a' = a ∧ s' = t := by
  constructor
  · intro traced
    have holds : c := by
      by_contra fails
      obtain ⟨_, runs, -⟩ := traced
      exact runs.not_faults (checked.faults fails)
    obtain ⟨rfl, rfl, rfl⟩ := traced.unique (checked.traces holds)
    exact ⟨holds, rfl, rfl, rfl⟩
  · rintro ⟨holds, rfl, rfl, rfl⟩
    exact checked.traces holds

theorem Checked.faults_iff (checked : Checked p s c marks a t) :
    p.Faults s reason ↔ ¬ c ∧ reason = .nullDeref := by
  by_cases holds : c
  · obtain ⟨_, runs, -⟩ := checked.traces holds
    simp only [holds, not_true_eq_false, false_and, iff_false]
    exact runs.not_faults
  · have faults := checked.faults holds
    simp only [Faults] at faults ⊢
    simp only [faults, holds, not_false_eq_true, true_and, Ending.fault.injEq]
    exact eq_comm

theorem Checked.bind (first : Checked p s c marks a t) (second : c → Checked (f a) t d marks' b u) :
    Checked (p >>= f) s (c ∧ d) (marks ++ marks') b u where
  traces := fun ⟨left, right⟩ => (first.traces left).bind ((second left).traces right)
  faults := by
    intro fails
    by_cases left : c
    · rw [faults_after (first.traces left)]
      exact (second left).faults fun right => fails ⟨left, right⟩
    · exact faults_bind.mpr (.inl (first.faults left))

theorem Checked.seq (first : Checked p s c [] a t) (second : c → Checked (f a) t d marks b u) :
    Checked (p >>= f) s (c ∧ d) marks b u := first.bind second

theorem Checked.congr (checked : Checked p s c marks a t) (same : c ↔ d) : Checked p s d marks a t where
  traces := fun holds => checked.traces (same.mpr holds)
  faults := fun fails => checked.faults fun holds => fails (same.mp holds)

theorem checked_of_traces (traced : Traces p s marks a t) : Checked p s True marks a t where
  traces := fun _ => traced
  faults := fun fails => absurd trivial fails

theorem checked_pure : Checked (pure a : Decode w α) s True [] a s := checked_of_traces traces_pure

theorem checked_deref {q : BitVec w} {g : Memory w → α} : Checked (deref q g) s (q ≠ 0#w) [] (g s.mem) s where
  traces := fun nonnull => traces_deref nonnull g
  faults := fun null => faults_deref.mpr ⟨not_not.mp null, rfl⟩

theorem Checked.after (traced : Traces p s [] a t) (second : Checked (f a) t c marks b u) :
    Checked (p >>= f) s c marks b u :=
  ((checked_of_traces traced).bind fun _ => second).congr (iff_of_eq (true_and c))

theorem Checked.whenever {q : Decode w Unit} {e : Prop} [Decidable e]
    (checked : e → Checked q s c [] () s) : Checked (whenever e q) s (e → c) [] () s := by
  unfold Program.whenever
  by_cases h : e
  · simpa only [h, ↓reduceIte, forall_const] using checked h
  · simpa only [h, ↓reduceIte, false_implies] using checked_pure

theorem Checked.forEach {ι : Type} {body : ι → Decode w Unit} {needs : ι → Prop}
    (checked : ∀ item, Checked (body item) s (needs item) [] () s) (items : List ι) :
    Checked (forEach body items) s (∀ item ∈ items, needs item) [] () s := by
  induction items with
  | nil =>
    have all : True ↔ ∀ item ∈ ([] : List ι), needs item := by simp
    exact checked_pure.congr all
  | cons item rest ih =>
    rw [List.forall_mem_cons]
    exact (checked item).bind fun _ => ih

end Checked

section Silent

variable {s : Proc w}

theorem Silent.checked {p : Decode w Unit} (silent : Silent p) : Checked p s True [] () s :=
  checked_of_traces (silent s)

theorem checked_deref_silent {p : BitVec w} {g : Memory w → α} {f : α → Decode w Unit}
    (rest : ∀ a, Silent (f a)) : Checked (deref p g >>= f) s (p ≠ 0#w) [] () s :=
  (checked_deref.bind fun _ => (rest _).checked).congr (iff_of_eq (and_true _))

theorem silent_whenever {p : Decode w Unit} {c : Prop} [Decidable c] (silent : c → Silent p) :
    Silent (whenever c p) := by
  unfold Program.whenever
  split
  · exact silent ‹_›
  · exact silent_pure

theorem silent_forEach {ι : Type} {body : ι → Decode w Unit} (silent : ∀ item, Silent (body item))
    (items : List ι) : Silent (forEach body items) := by
  induction items with
  | nil => exact silent_pure
  | cons item rest ih => exact (silent item).bind ih

theorem silent_deref_bind {p : BitVec w} {g : Memory w → α} {f : α → Decode w Unit} (nonnull : p ≠ 0#w)
    (rest : ∀ a, Silent (f a)) : Silent (deref p g >>= f) :=
  fun s => (traces_deref nonnull g).bind (rest _ s)

end Silent

/-- With enough fuel the program finishes, having recognised `marks`. -/
def Yields (p : Nat → Decode w α) (s : Proc w) (marks : List Mark) (a : α) (s' : Proc w) : Prop :=
  ∃ fuel, Traces (p fuel) s marks a s'

section Yields

variable {s t u : Proc w} {marks marks' : List Mark} {a : α} {b : β} {reason : Fault}
  {p : Nat → Decode w α} {f : α → Nat → Decode w β}

theorem yields_iff_converges :
    Yields p s marks a t ↔ ∃ out, Converges p s out a t ∧ out.filterMap Out.found = marks := by
  constructor
  · rintro ⟨fuel, out, runs, rfl⟩
    exact ⟨out, ⟨fuel, runs⟩, rfl⟩
  · rintro ⟨out, ⟨fuel, runs⟩, rfl⟩
    exact ⟨fuel, out, runs, rfl⟩

theorem leaves_iff_yields : Leaves p s a t ↔ ∃ marks, Yields p s marks a t := by
  simp only [Leaves, yields_iff_converges]
  constructor
  · rintro ⟨out, converges⟩
    exact ⟨_, out, converges, rfl⟩
  · rintro ⟨_, out, converges, rfl⟩
    exact ⟨out, converges⟩

theorem Yields.unique {a' : α} (fuelled : Fuelled p) (first : Yields p s marks a t)
    (second : Yields p s marks' a' u) : marks = marks' ∧ a = a' ∧ t = u := by
  obtain ⟨out, converges, rfl⟩ := yields_iff_converges.mp first
  obtain ⟨out', converges', rfl⟩ := yields_iff_converges.mp second
  obtain ⟨rfl, rfl, rfl⟩ := converges.unique fuelled converges'
  exact ⟨rfl, rfl, rfl⟩

theorem Yields.not_breaks (fuelled : Fuelled p) (yields : Yields p s marks a t) : ¬ Breaks p s reason := by
  obtain ⟨out, converges, -⟩ := yields_iff_converges.mp yields
  exact converges.not_breaks fuelled

theorem yields_bind (first : Fuelled p) (second : ∀ a, Fuelled (f a)) :
    Yields (fun n => p n >>= fun a => f a n) s marks b u ↔
      ∃ m₁ a t m₂, Yields p s m₁ a t ∧ Yields (f a) t m₂ b u ∧ marks = m₁ ++ m₂ := by
  simp only [yields_iff_converges, converges_bind first second]
  constructor
  · rintro ⟨_, ⟨out₁, a, t, out₂, left, right, rfl⟩, rfl⟩
    exact ⟨_, a, t, _, ⟨out₁, left, rfl⟩, ⟨out₂, right, rfl⟩, List.filterMap_append ..⟩
  · rintro ⟨_, a, t, _, ⟨out₁, left, rfl⟩, ⟨out₂, right, rfl⟩, rfl⟩
    exact ⟨_, ⟨out₁, a, t, out₂, left, right, rfl⟩, List.filterMap_append ..⟩

@[simp] theorem yields_pure {a' : α} :
    Yields (fun _ => (pure a : Decode w α)) s marks a' t ↔ marks = [] ∧ a' = a ∧ t = s := by
  simp only [Yields, traces_pure_iff, exists_const]

theorem yields_const {q : Decode w α} : Yields (fun _ => q) s marks a t ↔ Traces q s marks a t := by
  simp only [Yields, exists_const]

theorem not_yields_fail {reason' : Fault} : ¬ Yields (fun _ => (fail reason' : Decode w α)) s marks a t := by
  rintro ⟨_, _, runs, -⟩
  exact not_runs_fail runs

/-- After a step that needs no fuel and is known to finish, only the rest of the program matters. -/
theorem yields_after {q : Decode w α} {g : Nat → α → Decode w β} (first : Traces q s marks a t) :
    Yields (fun n => q >>= g n) s marks' b u ↔
      ∃ rest, Yields (fun n => g n a) t rest b u ∧ marks' = marks ++ rest := by
  simp only [Yields, traces_after first]
  constructor
  · rintro ⟨fuel, rest, traced, rfl⟩
    exact ⟨rest, ⟨fuel, traced⟩, rfl⟩
  · rintro ⟨rest, ⟨fuel, traced⟩, rfl⟩
    exact ⟨fuel, rest, traced, rfl⟩

theorem breaks_after {q : Decode w α} {g : Nat → α → Decode w β} (first : Traces q s marks a t) :
    Breaks (fun n => q >>= g n) s reason ↔ Breaks (fun n => g n a) t reason := by
  simp only [Breaks, faults_after first]

theorem Checked.yields_bind {q : Decode w α} {g : Nat → α → Decode w β} {c : Prop}
    (checked : Checked q s c marks a t) :
    Yields (fun n => q >>= g n) s marks' b u ↔
      c ∧ ∃ rest, Yields (fun n => g n a) t rest b u ∧ marks' = marks ++ rest := by
  by_cases holds : c
  · simp only [holds, true_and]
    exact yields_after (checked.traces holds)
  · simp only [holds, false_and, iff_false]
    rintro ⟨fuel, _, runs, -⟩
    exact runs.not_faults (faults_bind.mpr (.inl (checked.faults holds)))

theorem Checked.breaks_bind {q : Decode w α} {g : Nat → α → Decode w β} {c : Prop}
    (checked : Checked q s c marks a t) :
    Breaks (fun n => q >>= g n) s .nullDeref ↔ (c → Breaks (fun n => g n a) t .nullDeref) := by
  by_cases holds : c
  · simp only [holds, forall_const]
    exact breaks_after (checked.traces holds)
  · simp only [holds, false_implies, iff_true]
    exact ⟨0, faults_bind.mpr (.inl (checked.faults holds))⟩

theorem yields_bind_silent {r : Nat → Decode w Unit} {q : Decode w Unit} (silent : Silent q) :
    Yields (fun n => r n >>= fun _ => q) s marks () t ↔ Yields r s marks () t := by
  constructor
  · rintro ⟨fuel, traced⟩
    obtain ⟨m₁, _, t₁, m₂, first, last, rfl⟩ := traces_bind.mp traced
    obtain ⟨rfl, -, rfl⟩ := last.unique (silent t₁)
    exact ⟨fuel, by rwa [List.append_nil]⟩
  · rintro ⟨fuel, traced⟩
    refine ⟨fuel, ?_⟩
    rw [← List.append_nil marks]
    exact traced.bind (silent t)

theorem breaks_bind_silent {r : Nat → Decode w Unit} {q : Decode w Unit} (silent : Silent q) :
    Breaks (fun n => r n >>= fun _ => q) s reason ↔ Breaks r s reason := by
  constructor
  · rintro ⟨fuel, faults⟩
    rcases faults_bind.mp faults with faults | ⟨_, _, t, -, faults⟩
    · exact ⟨fuel, faults⟩
    · obtain ⟨_, runs, -⟩ := silent t
      exact absurd faults runs.not_faults
  · rintro ⟨fuel, faults⟩
    exact ⟨fuel, faults_bind.mpr (.inl faults)⟩

theorem yields_bind_pure {r : Nat → Decode w Unit} {b' : β} :
    Yields (fun n => r n >>= fun _ => pure b) s marks b' t ↔ Yields r s marks () t ∧ b' = b := by
  constructor
  · rintro ⟨fuel, traced⟩
    obtain ⟨m₁, _, t₁, m₂, first, last, rfl⟩ := traces_bind.mp traced
    obtain ⟨rfl, rfl, rfl⟩ := traces_pure_iff.mp last
    exact ⟨⟨fuel, by rwa [List.append_nil]⟩, rfl⟩
  · rintro ⟨⟨fuel, traced⟩, rfl⟩
    refine ⟨fuel, ?_⟩
    rw [← List.append_nil marks]
    exact traced.bind traces_pure

theorem breaks_bind_pure {r : Nat → Decode w Unit} :
    Breaks (fun n => r n >>= fun _ => (pure b : Decode w β)) s reason ↔ Breaks r s reason := by
  constructor
  · rintro ⟨fuel, faults⟩
    rcases faults_bind.mp faults with faults | ⟨_, _, t, -, faults⟩
    · exact ⟨fuel, faults⟩
    · exact absurd faults not_faults_pure
  · rintro ⟨fuel, faults⟩
    exact ⟨fuel, faults_bind.mpr (.inl faults)⟩

variable {k : Nat → Unit → Decode w β}

@[simp] theorem yields_log_bind {format : String} {args : List Arg} :
    Yields (fun n => panwrapLog format args >>= k n) s marks b t ↔ Yields (fun n => k n ()) s marks b t := by
  simp only [Yields, traces_log_bind]

@[simp] theorem breaks_log_bind {format : String} {args : List Arg} :
    Breaks (fun n => panwrapLog format args >>= k n) s reason ↔ Breaks (fun n => k n ()) s reason := by
  simp only [Breaks, faults_log_bind]

@[simp] theorem yields_mark_bind {found : Mark} :
    Yields (fun n => mark found >>= k n) s marks b t ↔
      ∃ rest, Yields (fun n => k n ()) s rest b t ∧ marks = found :: rest := by
  simpa only [List.singleton_append] using yields_after (traces_mark found)

@[simp] theorem breaks_mark_bind {found : Mark} :
    Breaks (fun n => mark found >>= k n) s reason ↔ Breaks (fun n => k n ()) s reason := by
  simp only [Breaks, faults_mark_bind]

variable {g : Nat → BitVec w → Decode w β}

@[simp] theorem yields_fetch_bind {env : Env w} {gpuAddr : BitVec 64} {sz : BitVec w} :
    Yields (fun n => fetch env gpuAddr sz >>= g n) s marks b t ↔
      Yields (fun n => g n (fetchMappedGpu env.mmaps gpuAddr sz)) s marks b t := by
  simp only [Yields, traces_fetch_bind]

@[simp] theorem breaks_fetch_bind {env : Env w} {gpuAddr : BitVec 64} {sz : BitVec w} :
    Breaks (fun n => fetch env gpuAddr sz >>= g n) s reason ↔
      Breaks (fun n => g n (fetchMappedGpu env.mmaps gpuAddr sz)) s reason := by
  simp only [Breaks, faults_fetch_bind]

variable {h : Nat → α → Decode w β}

@[simp] theorem yields_deref_bind {q : BitVec w} {e : Memory w → α} :
    Yields (fun n => deref q e >>= h n) s marks b t ↔
      q ≠ 0#w ∧ Yields (fun n => h n (e s.mem)) s marks b t := by
  simp only [Yields, traces_deref_bind, exists_and_left]

@[simp] theorem breaks_deref_bind {q : BitVec w} {e : Memory w → α} :
    Breaks (fun n => deref q e >>= h n) s reason ↔
      (q = 0#w ∧ reason = .nullDeref) ∨ (q ≠ 0#w ∧ Breaks (fun n => h n (e s.mem)) s reason) := by
  simp only [Breaks, faults_deref_bind, exists_or, exists_const, exists_and_left]

end Yields

section Loop

variable {ι : Type} {step : Nat → ι → Decode w (Option ι)} {s t u : Proc w} {i j : ι} {marks marks' : List Mark}

theorem Yields.last (fuelled : ∀ i, Fuelled fun n => step n i) (final : Yields (fun n => step n i) s marks none t) :
    Yields (fun n => loop step n i) s marks () t := by
  obtain ⟨out, round, rfl⟩ := yields_iff_converges.mp final
  refine yields_iff_converges.mpr ⟨out, (loop_converges_iff fuelled).mpr ?_, rfl⟩
  exact ⟨[], [], s, i, out, .nil s i, round, rfl⟩

theorem Yields.next (fuelled : ∀ i, Fuelled fun n => step n i) (first : Yields (fun n => step n i) s marks (some j) t)
    (rest : Yields (fun n => loop step n j) t marks' () u) : Yields (fun n => loop step n i) s (marks ++ marks') () u := by
  obtain ⟨out, round, rfl⟩ := yields_iff_converges.mp first
  obtain ⟨out', rounds, rfl⟩ := yields_iff_converges.mp rest
  obtain ⟨path, out₁, v, k, out₂, later, final, rfl⟩ := (loop_converges_iff fuelled).mp rounds
  refine yields_iff_converges.mpr ⟨out ++ (out₁ ++ out₂), (loop_converges_iff fuelled).mpr ?_, List.filterMap_append ..⟩
  exact ⟨i :: path, out ++ out₁, v, k, out₂, .cons round later, final, (List.append_assoc ..).symm⟩

end Loop

end Decoder
