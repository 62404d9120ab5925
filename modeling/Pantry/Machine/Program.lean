import Mathlib.Tactic.Common
import Mathlib.Data.List.Basic

namespace Machine

/-- How a program stops: with a value and the state it leaves, in a fault, or cut
    short because its fuel ran out. -/
inductive Ending (ε σ α : Type) where
  | done (value : α) (state : σ)
  | fault (reason : ε)
  | cut

structure Result (ω ε σ α : Type) where
  out : List ω
  ending : Ending ε σ α

/-- A deterministic program over a state `σ` that puts out items `ω` and may fault. -/
def Program (ω ε σ α : Type) : Type := σ → Result ω ε σ α

namespace Program

variable {ω ω' ε σ τ α β γ : Type}

def bind (p : Program ω ε σ α) (f : α → Program ω ε σ β) : Program ω ε σ β := fun s =>
  match (p s).ending with
  | .done a s' => ⟨(p s).out ++ (f a s').out, (f a s').ending⟩
  | .fault reason => ⟨(p s).out, .fault reason⟩
  | .cut => ⟨(p s).out, .cut⟩

instance : Monad (Program ω ε σ) where
  pure a := fun s => ⟨[], .done a s⟩
  bind := bind

def put (items : List ω) : Program ω ε σ Unit := fun s => ⟨items, .done () s⟩

def fail (reason : ε) : Program ω ε σ α := fun _ => ⟨[], .fault reason⟩

def stop : Program ω ε σ α := fun _ => ⟨[], .cut⟩

def get : Program ω ε σ σ := fun s => ⟨[], .done s s⟩

def modify (f : σ → σ) : Program ω ε σ Unit := fun s => ⟨[], .done () (f s)⟩

def whenever (c : Prop) [Decidable c] (p : Program ω ε σ Unit) : Program ω ε σ Unit :=
  if c then p else pure ()

def forEach (body : β → Program ω ε σ Unit) : List β → Program ω ε σ Unit
  | [] => pure ()
  | item :: rest => do
    body item
    forEach body rest

/-- Run a program over a part of a larger state, relabelling what it puts out. -/
def embed (part : τ → σ) (put : σ → τ → τ) (label : ω → ω') (p : Program ω ε σ α) :
    Program ω' ε τ α := fun t =>
  ⟨(p (part t)).out.map label,
    match (p (part t)).ending with
    | .done a s => .done a (put s t)
    | .fault reason => .fault reason
    | .cut => .cut⟩

def Runs (p : Program ω ε σ α) (s : σ) (out : List ω) (a : α) (s' : σ) : Prop :=
  p s = ⟨out, .done a s'⟩

def Faults (p : Program ω ε σ α) (s : σ) (reason : ε) : Prop :=
  (p s).ending = .fault reason

def Cuts (p : Program ω ε σ α) (s : σ) : Prop := (p s).ending = .cut

def Emits (P : ω → Prop) (p : Program ω ε σ α) : Prop :=
  ∀ s, ∀ item ∈ (p s).out, P item

theorem ending_cases (p : Program ω ε σ α) (s : σ) :
    (∃ out a s', Runs p s out a s') ∨ (∃ reason, Faults p s reason) ∨ Cuts p s := by
  cases h : p s with
  | mk out ending =>
    cases ending with
    | done a s' => exact .inl ⟨out, a, s', h⟩
    | fault reason => exact .inr (.inl ⟨reason, by simp only [Faults, h]⟩)
    | cut => exact .inr (.inr (by simp only [Cuts, h]))

theorem Runs.unique {p : Program ω ε σ α} {s : σ} {out out' : List ω} {a a' : α} {s' s'' : σ}
    (first : Runs p s out a s') (second : Runs p s out' a' s'') :
    out = out' ∧ a = a' ∧ s' = s'' := by
  have same := Eq.trans (Eq.symm first) second
  simpa only [Result.mk.injEq, Ending.done.injEq] using same

theorem Runs.not_faults {p : Program ω ε σ α} {s s' : σ} {out : List ω} {a : α} {reason : ε}
    (runs : Runs p s out a s') : ¬ Faults p s reason := by
  intro faults
  simp only [Runs] at runs
  simp only [Faults, runs, reduceCtorEq] at faults

theorem Runs.not_cuts {p : Program ω ε σ α} {s s' : σ} {out : List ω} {a : α}
    (runs : Runs p s out a s') : ¬ Cuts p s := by
  intro cuts
  simp only [Runs] at runs
  simp only [Cuts, runs, reduceCtorEq] at cuts

theorem Runs.out_eq {p : Program ω ε σ α} {s s' : σ} {out : List ω} {a : α}
    (runs : Runs p s out a s') : (p s).out = out := by
  rw [runs]

theorem bind_run {p : Program ω ε σ α} {f : α → Program ω ε σ β} {s s' : σ} {out : List ω} {a : α}
    (runs : Runs p s out a s') :
    (p >>= f) s = ⟨out ++ (f a s').out, (f a s').ending⟩ := by
  change bind p f s = _
  simp only [Runs] at runs
  simp only [bind, runs]

theorem bind_fault {p : Program ω ε σ α} {f : α → Program ω ε σ β} {s : σ} {reason : ε}
    (faults : Faults p s reason) : (p >>= f) s = ⟨(p s).out, .fault reason⟩ := by
  change bind p f s = _
  simp only [Faults] at faults
  simp only [bind, faults]

theorem bind_cut {p : Program ω ε σ α} {f : α → Program ω ε σ β} {s : σ}
    (cuts : Cuts p s) : (p >>= f) s = ⟨(p s).out, .cut⟩ := by
  change bind p f s = _
  simp only [Cuts] at cuts
  simp only [bind, cuts]

section Runs

variable {s s' : σ} {out : List ω} {a : α} {b : β}

@[simp] theorem runs_pure {a' : α} :
    Runs (pure a : Program ω ε σ α) s out a' s' ↔ out = [] ∧ a' = a ∧ s' = s := by
  change (⟨[], .done a s⟩ : Result ω ε σ α) = ⟨out, .done a' s'⟩ ↔ _
  simp only [Result.mk.injEq, Ending.done.injEq]
  constructor <;> rintro ⟨rfl, rfl, rfl⟩ <;> exact ⟨rfl, rfl, rfl⟩

@[simp] theorem runs_put {items : List ω} {u : Unit} :
    Runs (put items : Program ω ε σ Unit) s out u s' ↔ out = items ∧ s' = s := by
  simp only [Runs, put, Result.mk.injEq, Ending.done.injEq, true_and]
  constructor <;> rintro ⟨rfl, rfl⟩ <;> exact ⟨rfl, rfl⟩

@[simp] theorem not_runs_fail {reason : ε} : ¬ Runs (fail reason : Program ω ε σ α) s out a s' := by
  simp [Runs, fail]

@[simp] theorem not_runs_stop : ¬ Runs (stop : Program ω ε σ α) s out a s' := by
  simp [Runs, stop]

@[simp] theorem runs_get {t : σ} :
    Runs (get : Program ω ε σ σ) s out t s' ↔ out = [] ∧ t = s ∧ s' = s := by
  simp only [Runs, get, Result.mk.injEq, Ending.done.injEq]
  constructor <;> rintro ⟨rfl, rfl, rfl⟩ <;> exact ⟨rfl, rfl, rfl⟩

@[simp] theorem runs_modify {f : σ → σ} {u : Unit} :
    Runs (modify f : Program ω ε σ Unit) s out u s' ↔ out = [] ∧ s' = f s := by
  simp only [Runs, modify, Result.mk.injEq, Ending.done.injEq, true_and]
  constructor <;> rintro ⟨rfl, rfl⟩ <;> exact ⟨rfl, rfl⟩

theorem runs_bind {p : Program ω ε σ α} {f : α → Program ω ε σ β} :
    Runs (p >>= f) s out b s' ↔
      ∃ out₁ a t out₂, Runs p s out₁ a t ∧ Runs (f a) t out₂ b s' ∧ out = out₁ ++ out₂ := by
  constructor
  · intro runs
    rcases ending_cases p s with ⟨out₁, a, t, first⟩ | ⟨reason, faults⟩ | cuts
    · simp only [Runs, bind_run first, Result.mk.injEq] at runs
      exact ⟨out₁, a, t, (f a t).out, first, by simp only [Runs, ← runs.2], runs.1.symm⟩
    · simp [Runs, bind_fault faults] at runs
    · simp [Runs, bind_cut cuts] at runs
  · rintro ⟨out₁, a, t, out₂, first, second, rfl⟩
    simp only [Runs] at second ⊢
    rw [bind_run first, second]

theorem Runs.bind {p : Program ω ε σ α} {f : α → Program ω ε σ β} {t : σ} {out₂ : List ω}
    (first : Runs p s out a t) (second : Runs (f a) t out₂ b s') :
    Runs (p >>= f) s (out ++ out₂) b s' :=
  runs_bind.mpr ⟨_, _, _, _, first, second, rfl⟩

theorem runs_embed {part : τ → σ} {put : σ → τ → τ} {label : ω → ω'} {p : Program ω ε σ α}
    {t t' : τ} {out' : List ω'} :
    Runs (embed part put label p) t out' a t' ↔
      ∃ out s', Runs p (part t) out a s' ∧ out' = out.map label ∧ t' = put s' t := by
  rcases ending_cases p (part t) with ⟨out, b, s', runs⟩ | ⟨reason, faults⟩ | cuts
  · have same : embed part put label p t = ⟨out.map label, .done b (put s' t)⟩ := by
      simp only [Runs] at runs
      simp only [embed, runs]
    constructor
    · intro whole
      simp only [Runs, same, Result.mk.injEq, Ending.done.injEq] at whole
      obtain ⟨rfl, rfl, rfl⟩ := whole
      exact ⟨out, s', runs, rfl, rfl⟩
    · rintro ⟨out₁, s₁, runs₁, rfl, rfl⟩
      obtain ⟨rfl, rfl, rfl⟩ := runs.unique runs₁
      exact same
  · simp only [Faults] at faults
    simp [Runs, embed, faults]
    intro out s' whole
    simp [whole] at faults
  · simp only [Cuts] at cuts
    simp [Runs, embed, cuts]
    intro out s' whole
    simp [whole] at cuts

end Runs

section Faults

variable {s : σ} {reason : ε}

@[simp] theorem not_faults_pure {a : α} : ¬ Faults (pure a : Program ω ε σ α) s reason := by
  change ¬ (Ending.done a s : Ending ε σ α) = .fault reason
  simp

@[simp] theorem not_faults_put {items : List ω} :
    ¬ Faults (put items : Program ω ε σ Unit) s reason := by
  simp [Faults, put]

@[simp] theorem faults_fail {reason' : ε} :
    Faults (fail reason' : Program ω ε σ α) s reason ↔ reason' = reason := by
  simp [Faults, fail]

@[simp] theorem not_faults_stop : ¬ Faults (stop : Program ω ε σ α) s reason := by
  simp [Faults, stop]

@[simp] theorem not_faults_get : ¬ Faults (get : Program ω ε σ σ) s reason := by
  simp [Faults, get]

@[simp] theorem not_faults_modify {f : σ → σ} :
    ¬ Faults (modify f : Program ω ε σ Unit) s reason := by
  simp [Faults, modify]

theorem faults_bind {p : Program ω ε σ α} {f : α → Program ω ε σ β} :
    Faults (p >>= f) s reason ↔
      Faults p s reason ∨ ∃ out a s', Runs p s out a s' ∧ Faults (f a) s' reason := by
  rcases ending_cases p s with ⟨out, a, s', runs⟩ | ⟨reason', faults⟩ | cuts
  · have first : ¬ Faults p s reason := runs.not_faults
    simp only [first, false_or]
    constructor
    · intro whole
      exact ⟨out, a, s', runs, by simpa only [Faults, bind_run runs] using whole⟩
    · rintro ⟨out', a', s'', runs', faults⟩
      obtain ⟨rfl, rfl, rfl⟩ := runs.unique runs'
      simpa only [Faults, bind_run runs] using faults
  · have none : ¬ ∃ out a s', Runs p s out a s' ∧ Faults (f a) s' reason := by
      rintro ⟨out, a, s', runs, -⟩
      exact runs.not_faults faults
    have same : (p >>= f) s = ⟨(p s).out, .fault reason'⟩ := bind_fault faults
    simp only [Faults] at faults
    rw [iff_false_intro none, or_false]
    simp only [Faults, same, faults, Ending.fault.injEq]
  · have none : ¬ ∃ out a s', Runs p s out a s' ∧ Faults (f a) s' reason := by
      rintro ⟨out, a, s', runs, -⟩
      exact runs.not_cuts cuts
    have same : (p >>= f) s = ⟨(p s).out, .cut⟩ := bind_cut cuts
    simp only [Cuts] at cuts
    rw [iff_false_intro none, or_false]
    simp only [Faults, same, cuts, reduceCtorEq]

end Faults

section Emits

variable {P : ω → Prop}

theorem emits_pure (a : α) : Emits P (pure a : Program ω ε σ α) := by
  intro s item member
  change item ∈ ([] : List ω) at member
  cases member

theorem emits_put {items : List ω} (h : ∀ item ∈ items, P item) :
    Emits P (put items : Program ω ε σ Unit) := fun _ item member => h item member

theorem emits_one {item : ω} (h : P item) : Emits P (put [item] : Program ω ε σ Unit) :=
  emits_put (List.forall_mem_singleton.mpr h)

theorem emits_fail (reason : ε) : Emits P (fail reason : Program ω ε σ α) := by
  intro s item member
  cases member

theorem emits_stop : Emits P (stop : Program ω ε σ α) := by
  intro s item member
  cases member

theorem emits_get : Emits P (get : Program ω ε σ σ) := by
  intro s item member
  cases member

theorem emits_modify (f : σ → σ) : Emits P (modify f : Program ω ε σ Unit) := by
  intro s item member
  cases member

theorem forall_out_bind {p : Program ω ε σ α} {f : α → Program ω ε σ β} {s : σ}
    (first : ∀ item ∈ (p s).out, P item)
    (second : ∀ out a t, Runs p s out a t → ∀ item ∈ (f a t).out, P item) :
    ∀ item ∈ ((p >>= f) s).out, P item := by
  intro item member
  rcases ending_cases p s with ⟨out, a, s', runs⟩ | ⟨reason, faults⟩ | cuts
  · rw [bind_run runs] at member
    rcases List.mem_append.mp member with member | member
    · exact first item (by rw [runs.out_eq]; exact member)
    · exact second out a s' runs item member
  · rw [bind_fault faults] at member
    exact first item member
  · rw [bind_cut cuts] at member
    exact first item member

theorem Emits.bind {p : Program ω ε σ α} {f : α → Program ω ε σ β}
    (first : Emits P p) (second : ∀ a, Emits P (f a)) : Emits P (p >>= f) :=
  fun s => forall_out_bind (first s) fun _ a t _ => second a t

theorem Emits.whenever {c : Prop} [Decidable c] {p : Program ω ε σ Unit} (h : Emits P p) :
    Emits P (whenever c p) := by
  unfold Program.whenever
  split
  · exact h
  · exact emits_pure ()

theorem Emits.forEach {body : β → Program ω ε σ Unit} (h : ∀ item, Emits P (body item))
    (items : List β) : Emits P (forEach body items) := by
  induction items with
  | nil => exact emits_pure ()
  | cons item rest ih => exact (h item).bind fun _ => ih

end Emits

section Out

variable {s s' : σ} {out : List ω} {a : α} {item : ω}

theorem out_bind_first {p : Program ω ε σ α} {f : α → Program ω ε σ β} (member : item ∈ (p s).out) :
    item ∈ ((p >>= f) s).out := by
  rcases ending_cases p s with ⟨out, a, s', runs⟩ | ⟨reason, faults⟩ | cuts
  · rw [bind_run runs]
    rw [runs.out_eq] at member
    exact List.mem_append_left _ member
  · rw [bind_fault faults]
    exact member
  · rw [bind_cut cuts]
    exact member

theorem out_bind_after {p : Program ω ε σ α} {f : α → Program ω ε σ β} (runs : Runs p s out a s')
    (member : item ∈ (f a s').out) : item ∈ ((p >>= f) s).out := by
  rw [bind_run runs]
  exact List.mem_append_right _ member

theorem out_bind_quiet {p : Program ω ε σ α} {f : α → Program ω ε σ β} (quiet : ∀ a t, (f a t).out = []) :
    ((p >>= f) s).out = (p s).out := by
  rcases ending_cases p s with ⟨out, a, s', runs⟩ | ⟨reason, faults⟩ | cuts
  · rw [bind_run runs, runs.out_eq, quiet]
    exact List.append_nil out
  · rw [bind_fault faults]
  · rw [bind_cut cuts]

theorem out_bind_pure {p : Program ω ε σ α} {g : α → β} :
    ((p >>= fun a => pure (g a)) s).out = (p s).out := out_bind_quiet fun _ _ => rfl

end Out

/-- `Q` holds of what `p` puts out, of its value and of the state it leaves, where it finishes. -/
def After (p : Program ω ε σ α) (s : σ) (Q : List ω → α → σ → Prop) : Prop :=
  ∀ out a s', Runs p s out a s' → Q out a s'

section After

variable {s : σ} {Q R : List ω → α → σ → Prop}

@[simp] theorem after_pure {a : α} : After (pure a : Program ω ε σ α) s Q ↔ Q [] a s := by
  constructor
  · exact fun after => after [] a s (runs_pure.mpr ⟨rfl, rfl, rfl⟩)
  · intro holds out a' s' runs
    obtain ⟨rfl, rfl, rfl⟩ := runs_pure.mp runs
    exact holds

@[simp] theorem after_put {items : List ω} {Q : List ω → Unit → σ → Prop} :
    After (put items : Program ω ε σ Unit) s Q ↔ Q items () s := by
  constructor
  · exact fun after => after items () s (runs_put.mpr ⟨rfl, rfl⟩)
  · intro holds out _ s' runs
    obtain ⟨rfl, rfl⟩ := runs_put.mp runs
    exact holds

@[simp] theorem after_get {Q : List ω → σ → σ → Prop} : After (get : Program ω ε σ σ) s Q ↔ Q [] s s := by
  constructor
  · exact fun after => after [] s s (runs_get.mpr ⟨rfl, rfl, rfl⟩)
  · intro holds out t s' runs
    obtain ⟨rfl, rfl, rfl⟩ := runs_get.mp runs
    exact holds

@[simp] theorem after_modify {f : σ → σ} {Q : List ω → Unit → σ → Prop} :
    After (modify f : Program ω ε σ Unit) s Q ↔ Q [] () (f s) := by
  constructor
  · exact fun after => after [] () (f s) (runs_modify.mpr ⟨rfl, rfl⟩)
  · intro holds out _ s' runs
    obtain ⟨rfl, rfl⟩ := runs_modify.mp runs
    exact holds

@[simp] theorem after_bind {p : Program ω ε σ α} {f : α → Program ω ε σ β} {Q : List ω → β → σ → Prop} :
    After (p >>= f) s Q ↔
      After p s fun out a t => After (f a) t fun out' b u => Q (out ++ out') b u := by
  constructor
  · exact fun after out a t first out' b u second => after _ b u (first.bind second)
  · intro after out b u runs
    obtain ⟨out₁, a, t, out₂, first, second, rfl⟩ := runs_bind.mp runs
    exact after out₁ a t first out₂ b u second

@[simp] theorem after_whenever {c : Prop} [Decidable c] {p : Program ω ε σ Unit} {Q : List ω → Unit → σ → Prop} :
    After (whenever c p) s Q ↔ (c → After p s Q) ∧ (¬ c → Q [] () s) := by
  unfold whenever
  by_cases h : c <;> simp [h]

theorem after_embed {part : τ → σ} {put : σ → τ → τ} {label : ω → ω'} {p : Program ω ε σ α} {t : τ}
    {Q : List ω' → α → τ → Prop} :
    After (embed part put label p) t Q ↔
      After p (part t) fun out a s' => Q (out.map label) a (put s' t) := by
  constructor
  · exact fun after out a s' runs => after _ a _ (runs_embed.mpr ⟨out, s', runs, rfl, rfl⟩)
  · intro after out a t' runs
    obtain ⟨out₁, s', inner, rfl, rfl⟩ := runs_embed.mp runs
    exact after out₁ a s' inner

theorem After.mono {p : Program ω ε σ α} (after : After p s Q) (imp : ∀ out a t, Q out a t → R out a t) :
    After p s R := fun out a t runs => imp out a t (after out a t runs)

end After

/-- `p` finishes, and `Q` holds of what it puts out, of its value and of the state it leaves. -/
def Meets (p : Program ω ε σ α) (s : σ) (Q : List ω → α → σ → Prop) : Prop :=
  ∃ out a s', Runs p s out a s' ∧ Q out a s'

section Meets

variable {s s' : σ} {out : List ω} {a : α} {Q R : List ω → α → σ → Prop}

theorem Runs.meets {p : Program ω ε σ α} (runs : Runs p s out a s') : Meets p s Q ↔ Q out a s' := by
  constructor
  · rintro ⟨_, _, _, runs', holds⟩
    obtain ⟨rfl, rfl, rfl⟩ := runs.unique runs'
    exact holds
  · exact fun holds => ⟨out, a, s', runs, holds⟩

theorem Meets.mono {p : Program ω ε σ α} (meets : Meets p s Q) (imp : ∀ out a t, Q out a t → R out a t) :
    Meets p s R := by
  obtain ⟨out, a, t, runs, holds⟩ := meets
  exact ⟨out, a, t, runs, imp out a t holds⟩

theorem Meets.and {p : Program ω ε σ α} (meets : Meets p s Q) (after : After p s R) :
    Meets p s fun out a t => Q out a t ∧ R out a t := by
  obtain ⟨out, a, t, runs, holds⟩ := meets
  exact ⟨out, a, t, runs, holds, after out a t runs⟩

theorem meets_bind {p : Program ω ε σ α} {f : α → Program ω ε σ β} {Q : List ω → β → σ → Prop} :
    Meets (p >>= f) s Q ↔
      Meets p s fun out a t => Meets (f a) t fun out' b u => Q (out ++ out') b u := by
  constructor
  · rintro ⟨_, b, u, runs, holds⟩
    obtain ⟨out₁, a, t, out₂, first, second, rfl⟩ := runs_bind.mp runs
    exact ⟨out₁, a, t, first, out₂, b, u, second, holds⟩
  · rintro ⟨out₁, a, t, first, out₂, b, u, second, holds⟩
    exact ⟨_, b, u, first.bind second, holds⟩

theorem Meets.bind {p : Program ω ε σ α} {f : α → Program ω ε σ β} {Q : List ω → β → σ → Prop}
    (first : Meets p s R)
    (second : ∀ out a t, R out a t → Meets (f a) t fun out' b u => Q (out ++ out') b u) :
    Meets (p >>= f) s Q := meets_bind.mpr (first.mono second)

@[simp] theorem meets_pure : Meets (pure a : Program ω ε σ α) s Q ↔ Q [] a s :=
  Runs.meets (runs_pure.mpr ⟨rfl, rfl, rfl⟩)

@[simp] theorem meets_put {items : List ω} {Q : List ω → Unit → σ → Prop} :
    Meets (put items : Program ω ε σ Unit) s Q ↔ Q items () s := Runs.meets (runs_put.mpr ⟨rfl, rfl⟩)

@[simp] theorem meets_get {Q : List ω → σ → σ → Prop} : Meets (get : Program ω ε σ σ) s Q ↔ Q [] s s :=
  Runs.meets (runs_get.mpr ⟨rfl, rfl, rfl⟩)

@[simp] theorem meets_put_bind {items : List ω} {f : Unit → Program ω ε σ β} {Q : List ω → β → σ → Prop} :
    Meets (put items >>= f) s Q ↔ Meets (f ()) s fun out => Q (items ++ out) := by
  rw [meets_bind, meets_put]

@[simp] theorem meets_get_bind {f : σ → Program ω ε σ β} {Q : List ω → β → σ → Prop} :
    Meets (get >>= f) s Q ↔ Meets (f s) s Q := by
  rw [meets_bind, meets_get]
  rfl

@[simp] theorem meets_modify_bind {g : σ → σ} {f : Unit → Program ω ε σ β} {Q : List ω → β → σ → Prop} :
    Meets (modify g >>= f) s Q ↔ Meets (f ()) (g s) Q := by
  rw [meets_bind]
  exact Runs.meets (runs_modify.mpr ⟨rfl, rfl⟩)

@[simp] theorem meets_modify {f : σ → σ} {Q : List ω → Unit → σ → Prop} :
    Meets (modify f : Program ω ε σ Unit) s Q ↔ Q [] () (f s) := Runs.meets (runs_modify.mpr ⟨rfl, rfl⟩)

theorem meets_embed {part : τ → σ} {put : σ → τ → τ} {label : ω → ω'} {p : Program ω ε σ α} {t : τ}
    {Q : List ω' → α → τ → Prop} :
    Meets (embed part put label p) t Q ↔ Meets p (part t) fun out a s' => Q (out.map label) a (put s' t) := by
  constructor
  · intro meets
    obtain ⟨out, a, t', runs, holds⟩ := meets
    obtain ⟨out₁, s', inner, rfl, rfl⟩ := runs_embed.mp runs
    exact ⟨out₁, a, s', inner, holds⟩
  · intro meets
    obtain ⟨out, a, s', runs, holds⟩ := meets
    exact ⟨_, a, _, runs_embed.mpr ⟨out, s', runs, rfl, rfl⟩, holds⟩

theorem meets_whenever_bind {c : Prop} [Decidable c] {p : Program ω ε σ Unit} {f : Unit → Program ω ε σ β}
    {Q : List ω → β → σ → Prop} :
    Meets (whenever c p >>= f) s Q ↔ if c then Meets (p >>= f) s Q else Meets (f ()) s Q := by
  unfold whenever
  by_cases h : c
  · simp only [h, ↓reduceIte]
  · simp only [h, ↓reduceIte]
    rw [meets_bind, meets_pure]
    rfl

end Meets

def Returns (p : Program ω ε σ α) (s : σ) : Prop := ∃ out a s', Runs p s out a s'

section Returns

variable {s s' : σ} {out : List ω} {a : α}

theorem Meets.returns {p : Program ω ε σ α} {Q : List ω → α → σ → Prop} (meets : Meets p s Q) : Returns p s := by
  obtain ⟨out, a, t, runs, -⟩ := meets
  exact ⟨out, a, t, runs⟩

theorem returns_bind {p : Program ω ε σ α} {f : α → Program ω ε σ β} :
    Returns (p >>= f) s ↔ ∃ out a t, Runs p s out a t ∧ Returns (f a) t := by
  constructor
  · rintro ⟨_, b, u, runs⟩
    obtain ⟨out₁, a, t, out₂, first, second, rfl⟩ := runs_bind.mp runs
    exact ⟨out₁, a, t, first, out₂, b, u, second⟩
  · rintro ⟨out₁, a, t, first, out₂, b, u, second⟩
    exact ⟨_, b, u, first.bind second⟩

@[simp] theorem returns_pure : Returns (pure a : Program ω ε σ α) s :=
  ⟨[], a, s, runs_pure.mpr ⟨rfl, rfl, rfl⟩⟩

@[simp] theorem returns_put {items : List ω} : Returns (put items : Program ω ε σ Unit) s :=
  ⟨items, (), s, runs_put.mpr ⟨rfl, rfl⟩⟩

theorem returns_after {p : Program ω ε σ α} {f : α → Program ω ε σ β} (first : Runs p s out a s') :
    Returns (p >>= f) s ↔ Returns (f a) s' := by
  rw [returns_bind]
  constructor
  · rintro ⟨_, _, _, runs, rest⟩
    obtain ⟨rfl, rfl, rfl⟩ := first.unique runs
    exact rest
  · exact fun rest => ⟨out, a, s', first, rest⟩

@[simp] theorem returns_put_bind {items : List ω} {f : Unit → Program ω ε σ β} :
    Returns (put items >>= f) s ↔ Returns (f ()) s := returns_after (runs_put.mpr ⟨rfl, rfl⟩)

@[simp] theorem returns_get_bind {f : σ → Program ω ε σ β} : Returns (get >>= f) s ↔ Returns (f s) s :=
  returns_after (runs_get.mpr ⟨rfl, rfl, rfl⟩)

@[simp] theorem returns_modify_bind {g : σ → σ} {f : Unit → Program ω ε σ β} :
    Returns (modify g >>= f) s ↔ Returns (f ()) (g s) := returns_after (runs_modify.mpr ⟨rfl, rfl⟩)

def Total (p : Program ω ε σ α) : Prop := ∀ s, Returns p s

theorem total_pure : Total (pure a : Program ω ε σ α) := fun _ => returns_pure

theorem total_put {items : List ω} : Total (put items : Program ω ε σ Unit) := fun _ => returns_put

theorem total_get : Total (get : Program ω ε σ σ) := fun s => ⟨[], s, s, rfl⟩

theorem total_modify {f : σ → σ} : Total (modify f : Program ω ε σ Unit) := fun s => ⟨[], (), f s, rfl⟩

theorem Total.bind {p : Program ω ε σ α} {f : α → Program ω ε σ β} (first : Total p)
    (second : ∀ a, Total (f a)) : Total (p >>= f) := by
  intro s
  obtain ⟨out, a, t, runs⟩ := first s
  exact returns_bind.mpr ⟨out, a, t, runs, second a t⟩

theorem Total.whenever {c : Prop} [Decidable c] {p : Program ω ε σ Unit} (total : Total p) :
    Total (whenever c p) := by
  unfold Program.whenever
  split
  · exact total
  · exact total_pure

end Returns

/-- `p` does what `q` does unless its fuel runs out. -/
def Approximates (p q : Program ω ε σ α) : Prop := ∀ s, Cuts p s ∨ p s = q s

theorem Approximates.refl (p : Program ω ε σ α) : Approximates p p := fun _ => .inr rfl

theorem stop_approximates (q : Program ω ε σ α) : Approximates stop q := fun _ => .inl rfl

theorem Approximates.bind {p q : Program ω ε σ α} {f g : α → Program ω ε σ β}
    (first : Approximates p q) (second : ∀ a, Approximates (f a) (g a)) :
    Approximates (p >>= f) (q >>= g) := by
  intro s
  rcases first s with cuts | same
  · left
    simp only [Cuts, bind_cut cuts]
  · rcases ending_cases p s with ⟨out, a, s', runs⟩ | ⟨reason, faults⟩ | cuts
    · have runs' : Runs q s out a s' := by simpa only [Runs, same] using runs
      rw [bind_run runs']
      rcases second a s' with cuts | same'
      · left
        simpa only [Cuts, bind_run runs] using cuts
      · right
        rw [bind_run runs, same']
    · right
      have faults' : Faults q s reason := by simpa only [Faults, same] using faults
      rw [bind_fault faults, bind_fault faults', same]
    · left
      simp only [Cuts, bind_cut cuts]

theorem Approximates.whenever {c : Prop} [Decidable c] {p q : Program ω ε σ Unit}
    (h : Approximates p q) : Approximates (whenever c p) (whenever c q) := by
  unfold Program.whenever
  split
  · exact h
  · exact .refl _

theorem Approximates.runs {p q : Program ω ε σ α} {s s' : σ} {out : List ω} {a : α}
    (h : Approximates p q) (runs : Runs p s out a s') : Runs q s out a s' := by
  rcases h s with cuts | same
  · exact absurd cuts runs.not_cuts
  · simpa only [Runs, same] using runs

theorem Approximates.faults {p q : Program ω ε σ α} {s : σ} {reason : ε}
    (h : Approximates p q) (faults : Faults p s reason) : Faults q s reason := by
  rcases h s with cuts | same
  · simp only [Faults] at faults
    simp only [Cuts, faults, reduceCtorEq] at cuts
  · simpa only [Faults, same] using faults

end Program

end Machine
