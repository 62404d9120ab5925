import Pantry.Machine.Program
import Pantry.Machine.Memory
import Pantry.Panwrap.Log
import Pantry.Panwrap.Tracker

namespace Decoder

open Machine Panwrap

inductive Fault where
  | nullDeref
  | divByZero
  deriving DecidableEq, Repr

/-- What a decode depends on and does not change: the tracked mappings, the trimming switch,
    and what `+= (float) (rand() & 0xFF) / 1024.0f` makes of a word at the n-th `rand()`. -/
structure Env (w : Nat) where
  mmaps : List (MappedMemory w)
  enableHexdumpTrimming : Bool
  flare : Nat → BitVec 32 → BitVec 32

/-- What a decode may change: the memory of the traced process and the count of `rand()` calls. -/
structure Proc (w : Nat) where
  mem : Memory w
  rands : Nat

abbrev Decode (w : Nat) (α : Type) : Type := Program Out Fault (Proc w) α

variable {w : Nat} {α β : Type}

def panwrapLog (format : String) (args : List Arg) : Decode w Unit :=
  Program.put [.log format args]

def printf (format : String) (args : List Arg) : Decode w Unit :=
  Program.put [.print format args]

def mark (found : Mark) : Decode w Unit := Program.put [.mark found]

def deref (p : BitVec w) (f : Memory w → α) : Decode w α := fun σ =>
  if p = 0#w then ⟨[], .fault .nullDeref⟩ else ⟨[], .done (f σ.mem) σ⟩

def fetchMappedGpuLog (mmaps : List (MappedMemory w)) (gpuAddr : BitVec 64) (sz : BitVec w) : List Out :=
  if gpuAddr = 0#64 then [.log "Tried to dereference GPU null!\n" []]
  else match findGpuMappedMem mmaps gpuAddr with
    | none => [.log "Unmapped GPU mem %PRIx64\n" [.nat gpuAddr.toNat]]
    | some mem =>
      if gpuAddr - mem.gpuVa + sz.setWidth 64 > mem.length.setWidth 64 then
        [.log "GPU memory overflow @ %PRIx64\n" [.nat gpuAddr.toNat]]
      else []

def fetch (env : Env w) (gpuAddr : BitVec 64) (sz : BitVec w) : Decode w (BitVec w) := fun σ =>
  ⟨fetchMappedGpuLog env.mmaps gpuAddr sz, .done (fetchMappedGpu env.mmaps gpuAddr sz) σ⟩

def hexdumpTrimmed (env : Env w) (p : BitVec w) (n : Nat) (indent : String) : Decode w Unit := fun σ =>
  ⟨panwrapLogHexdumpTrimmed env.enableHexdumpTrimming (if p = 0#w then none else some (σ.mem.bytes p n)) indent,
    .done () σ⟩

/-- `p` finishes from `s` with `a` and `s'`, having recognised `marks`. -/
def Traces (p : Decode w α) (s : Proc w) (marks : List Mark) (a : α) (s' : Proc w) : Prop :=
  ∃ out, p.Runs s out a s' ∧ out.filterMap Out.found = marks

def Silent (p : Decode w Unit) : Prop := ∀ s, Traces p s [] () s

section Traces

variable {s s' t : Proc w} {marks marks' : List Mark} {a : α} {b : β} {f : α → Decode w β}
  {k : Unit → Decode w β}

theorem traces_bind {p : Decode w α} :
    Traces (p >>= f) s marks b s' ↔
      ∃ m₁ a t m₂, Traces p s m₁ a t ∧ Traces (f a) t m₂ b s' ∧ marks = m₁ ++ m₂ := by
  simp only [Traces, Program.runs_bind]
  constructor
  · rintro ⟨_, ⟨out₁, a, t, out₂, first, second, rfl⟩, rfl⟩
    exact ⟨_, a, t, _, ⟨out₁, first, rfl⟩, ⟨out₂, second, rfl⟩, List.filterMap_append ..⟩
  · rintro ⟨_, a, t, _, ⟨out₁, first, rfl⟩, ⟨out₂, second, rfl⟩, rfl⟩
    exact ⟨_, ⟨out₁, a, t, out₂, first, second, rfl⟩, List.filterMap_append ..⟩

theorem Traces.bind {p : Decode w α} (first : Traces p s marks a t) (second : Traces (f a) t marks' b s') :
    Traces (p >>= f) s (marks ++ marks') b s' :=
  traces_bind.mpr ⟨_, _, _, _, first, second, rfl⟩

theorem Traces.unique {p : Decode w α} {a' : α} (first : Traces p s marks a t)
    (second : Traces p s marks' a' s') : marks = marks' ∧ a = a' ∧ t = s' := by
  obtain ⟨out, runs, rfl⟩ := first
  obtain ⟨out', runs', rfl⟩ := second
  obtain ⟨rfl, rfl, rfl⟩ := runs.unique runs'
  exact ⟨rfl, rfl, rfl⟩

/-- After a step known to finish, a program traces what its rest does. -/
theorem traces_after {p : Decode w α} (first : Traces p s marks a t) :
    Traces (p >>= f) s marks' b s' ↔ ∃ rest, Traces (f a) t rest b s' ∧ marks' = marks ++ rest := by
  rw [traces_bind]
  constructor
  · rintro ⟨m₁, a', t', m₂, first', second, rfl⟩
    obtain ⟨rfl, rfl, rfl⟩ := first.unique first'
    exact ⟨m₂, second, rfl⟩
  · rintro ⟨rest, second, rfl⟩
    exact ⟨_, _, _, _, first, second, rfl⟩

theorem faults_after {p : Decode w α} {reason : Fault} (first : Traces p s marks a t) :
    (p >>= f).Faults s reason ↔ (f a).Faults t reason := by
  obtain ⟨out, runs, -⟩ := first
  rw [Program.faults_bind]
  constructor
  · rintro (faults | ⟨out', a', t', runs', faults⟩)
    · exact absurd faults runs.not_faults
    · obtain ⟨rfl, rfl, rfl⟩ := runs.unique runs'
      exact faults
  · exact fun faults => .inr ⟨out, a, t, runs, faults⟩

theorem traces_pure : Traces (pure a : Decode w α) s [] a s :=
  ⟨[], Program.runs_pure.mpr ⟨rfl, rfl, rfl⟩, rfl⟩

@[simp] theorem traces_pure_iff {a' : α} :
    Traces (pure a : Decode w α) s marks a' s' ↔ marks = [] ∧ a' = a ∧ s' = s := by
  constructor
  · intro traced
    obtain ⟨rfl, rfl, rfl⟩ := traces_pure.unique traced
    exact ⟨rfl, rfl, rfl⟩
  · rintro ⟨rfl, rfl, rfl⟩
    exact traces_pure

theorem traces_put (items : List Out) :
    Traces (Program.put items : Decode w Unit) s (items.filterMap Out.found) () s :=
  ⟨items, Program.runs_put.mpr ⟨rfl, rfl⟩, rfl⟩

theorem traces_mark (found : Mark) : Traces (mark found : Decode w Unit) s [found] () s :=
  traces_put _

theorem traces_modify (g : Proc w → Proc w) : Traces (Program.modify g : Decode w Unit) s [] () (g s) :=
  ⟨[], rfl, rfl⟩

theorem traces_fetch (env : Env w) (gpuAddr : BitVec 64) (sz : BitVec w) :
    Traces (fetch env gpuAddr sz) s [] (fetchMappedGpu env.mmaps gpuAddr sz) s := by
  refine ⟨_, rfl, ?_⟩
  unfold fetchMappedGpuLog
  split
  · rfl
  · split
    · rfl
    · split <;> rfl

theorem runs_deref {p : BitVec w} (nonnull : p ≠ 0#w) (g : Memory w → α) :
    (deref p g).Runs s [] (g s.mem) s := by
  rw [Program.Runs, deref, if_neg nonnull]

theorem traces_deref {p : BitVec w} (nonnull : p ≠ 0#w) (g : Memory w → α) :
    Traces (deref p g) s [] (g s.mem) s := ⟨[], runs_deref nonnull g, rfl⟩

theorem faults_deref {p : BitVec w} {g : Memory w → α} {reason : Fault} :
    (deref p g).Faults s reason ↔ p = 0#w ∧ reason = .nullDeref := by
  by_cases null : p = 0#w
  · simp [Program.Faults, deref, null, eq_comm]
  · simp [Program.Faults, deref, null]

theorem silent_log (format : String) (args : List Arg) : Silent (panwrapLog format args : Decode w Unit) :=
  fun _ => traces_put _

theorem silent_printf (format : String) (args : List Arg) : Silent (printf format args : Decode w Unit) :=
  fun _ => traces_put _

theorem silent_hexdumpTrimmed (env : Env w) (p : BitVec w) (n : Nat) (indent : String) :
    Silent (hexdumpTrimmed env p n indent) := fun _ => ⟨_, rfl, panwrapLogHexdumpTrimmed_unmarked _ _ _⟩

theorem Silent.bind {p : Decode w Unit} {q : Unit → Decode w Unit} (first : Silent p)
    (second : Silent (q ())) : Silent (p >>= q) := fun s => (first s).bind (second s)

theorem silent_pure : Silent (pure () : Decode w Unit) := fun _ => traces_pure

theorem silent_fetch_bind {env : Env w} {gpuAddr : BitVec 64} {sz : BitVec w} {q : BitVec w → Decode w Unit}
    (rest : ∀ p, Silent (q p)) : Silent (fetch env gpuAddr sz >>= q) :=
  fun s => (traces_fetch env gpuAddr sz).bind (rest _ s)

end Traces

/-! The same facts about a step followed by the rest of a program, for symbolic execution. -/

section Rules

variable {s s' : Proc w} {marks : List Mark} {b : β} {reason : Fault} {k : Unit → Decode w β}

theorem Silent.traces_bind {p : Decode w Unit} (silent : Silent p) :
    Traces (p >>= k) s marks b s' ↔ Traces (k ()) s marks b s' := by
  simp [traces_after (silent s)]

theorem Silent.faults_bind {p : Decode w Unit} (silent : Silent p) :
    (p >>= k).Faults s reason ↔ (k ()).Faults s reason := faults_after (silent s)

@[simp] theorem traces_log_bind {format : String} {args : List Arg} :
    Traces (panwrapLog format args >>= k) s marks b s' ↔ Traces (k ()) s marks b s' :=
  (silent_log format args).traces_bind

@[simp] theorem faults_log_bind {format : String} {args : List Arg} :
    (panwrapLog format args >>= k).Faults s reason ↔ (k ()).Faults s reason :=
  (silent_log format args).faults_bind

@[simp] theorem traces_printf_bind {format : String} {args : List Arg} :
    Traces (printf format args >>= k) s marks b s' ↔ Traces (k ()) s marks b s' :=
  (silent_printf format args).traces_bind

@[simp] theorem faults_printf_bind {format : String} {args : List Arg} :
    (printf format args >>= k).Faults s reason ↔ (k ()).Faults s reason :=
  (silent_printf format args).faults_bind

@[simp] theorem traces_hexdumpTrimmed_bind {env : Env w} {p : BitVec w} {n : Nat} {indent : String} :
    Traces (hexdumpTrimmed env p n indent >>= k) s marks b s' ↔ Traces (k ()) s marks b s' :=
  (silent_hexdumpTrimmed env p n indent).traces_bind

@[simp] theorem faults_hexdumpTrimmed_bind {env : Env w} {p : BitVec w} {n : Nat} {indent : String} :
    (hexdumpTrimmed env p n indent >>= k).Faults s reason ↔ (k ()).Faults s reason :=
  (silent_hexdumpTrimmed env p n indent).faults_bind

@[simp] theorem traces_mark_bind {found : Mark} :
    Traces (mark found >>= k) s marks b s' ↔
      ∃ rest, Traces (k ()) s rest b s' ∧ marks = found :: rest := by
  simp [traces_after (traces_mark found)]

@[simp] theorem faults_mark_bind {found : Mark} :
    (mark found >>= k).Faults s reason ↔ (k ()).Faults s reason := faults_after (traces_mark found)

variable {f : BitVec w → Decode w β}

@[simp] theorem traces_fetch_bind {env : Env w} {gpuAddr : BitVec 64} {sz : BitVec w} :
    Traces (fetch env gpuAddr sz >>= f) s marks b s' ↔
      Traces (f (fetchMappedGpu env.mmaps gpuAddr sz)) s marks b s' := by
  simp [traces_after (traces_fetch env gpuAddr sz)]

@[simp] theorem faults_fetch_bind {env : Env w} {gpuAddr : BitVec 64} {sz : BitVec w} :
    (fetch env gpuAddr sz >>= f).Faults s reason ↔
      (f (fetchMappedGpu env.mmaps gpuAddr sz)).Faults s reason :=
  faults_after (traces_fetch env gpuAddr sz)

variable {h : α → Decode w β}

@[simp] theorem traces_deref_bind {p : BitVec w} {g : Memory w → α} :
    Traces (deref p g >>= h) s marks b s' ↔ p ≠ 0#w ∧ Traces (h (g s.mem)) s marks b s' := by
  by_cases null : p = 0#w
  · have faults : (deref p g).Faults s .nullDeref := faults_deref.mpr ⟨null, rfl⟩
    rw [Decoder.traces_bind]
    constructor
    · rintro ⟨_, _, _, _, ⟨_, runs, -⟩, -, -⟩
      exact absurd faults runs.not_faults
    · exact fun traced => absurd null traced.1
  · simp [traces_after (traces_deref null g), null]

@[simp] theorem faults_deref_bind {p : BitVec w} {g : Memory w → α} :
    (deref p g >>= h).Faults s reason ↔
      (p = 0#w ∧ reason = .nullDeref) ∨ (p ≠ 0#w ∧ (h (g s.mem)).Faults s reason) := by
  by_cases null : p = 0#w
  · have faults : (deref p g).Faults s .nullDeref := faults_deref.mpr ⟨null, rfl⟩
    rw [Program.faults_bind, faults_deref]
    constructor
    · rintro (now | ⟨_, _, _, runs, -⟩)
      · exact .inl now
      · exact absurd faults runs.not_faults
    · rintro (now | later)
      · exact .inl now
      · exact absurd null later.1
  · rw [faults_after (traces_deref null g)]
    simp [null]

end Rules

end Decoder
