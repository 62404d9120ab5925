import Pantry.Driver.Shim
import Pantry.Machine.Batching
import Pantry.Machine.Transition

namespace Driver

open Machine Panwrap Decoder Program

def Event.batch? : Event → Option (List (MaliJdAtomV2 32))
  | .jobSubmit _ atoms => some atoms
  | _ => none

/-- The batches of atoms that were passed to the kernel, in order. -/
def batches (out : List Event) : List (List (MaliJdAtomV2 32)) := out.filterMap Event.batch?

@[simp] theorem batches_append (first second : List Event) : batches (first ++ second) = batches first ++ batches second :=
  List.filterMap_append ..

/-- The entries of `atom_queue` that are in use. -/
def State.queued (d : State) : List (MaliJdAtomV2 32) := (List.range d.atomQueueSize).map d.atomQueue

theorem queued_length (d : State) : d.queued.length = d.atomQueueSize := by
  simp only [State.queued, List.length_map, List.length_range]

theorem queued_empty {d : State} (empty : d.atomQueueSize = 0) : d.queued = [] := by
  rw [State.queued, empty, List.range_zero, List.map_nil]

theorem queued_update (d : State) (atom : MaliJdAtomV2 32) :
    (List.range (d.atomQueueSize + 1)).map (Function.update d.atomQueue d.atomQueueSize atom) = d.queued ++ [atom] := by
  have older : (List.range d.atomQueueSize).map (Function.update d.atomQueue d.atomQueueSize atom) = d.queued := by
    apply List.map_congr_left
    intro i member
    exact Function.update_of_ne (Nat.ne_of_lt (List.mem_range.mp member)) _ _
  rw [List.range_succ, List.map_append, older, List.map_singleton, Function.update_self]

section Specs

variable {kernel : Kernel} {fd : BitVec 32} {d : State}

theorem ioctlJobSubmit_after {atoms : List (MaliJdAtomV2 32)} :
    After (ioctlJobSubmit kernel fd atoms) d fun out _ d' =>
      batches out = [atoms] ∧ submitted out = [] ∧ d' = { d with calls := d.calls + 1 } := by
  unfold ioctlJobSubmit
  simp only [after_bind, after_get, after_put, after_modify]
  split
  · rw [after_pure]
    exact ⟨rfl, rfl, rfl⟩
  · exact after_badIoctl

theorem flushJobQueue_after :
    After (flushJobQueue kernel fd) d fun out _ d' =>
      batches out = flushed d.queued ∧ submitted out = [] ∧ d'.queued = [] ∧ d'.atomCount = d.atomCount := by
  unfold flushJobQueue
  rw [after_bind, after_get]
  by_cases some : d.atomQueueSize ≠ 0
  · rw [if_pos some, after_bind]
    refine After.mono ioctlJobSubmit_after ?_
    rintro out _ _ ⟨batch, silent, rfl⟩
    rw [after_modify]
    refine ⟨?_, ?_, rfl, rfl⟩
    · have full : flushed d.queued = [d.queued] := by
        cases queue : d.queued with
        | nil => exact absurd (by rw [← queued_length, queue, List.length_nil]) some
        | cons atom rest => rfl
      rw [List.nil_append, List.append_nil, full]
      exact batch
    · rw [List.nil_append, List.append_nil]
      exact silent
  · have empty : d.queued = [] := queued_empty (not_not.mp some)
    rw [if_neg some, empty]
    unfold printf
    rw [after_put]
    exact ⟨rfl, rfl, empty, rfl⟩

/-- A call of `submit_job` that returns queues the atom, and flushes the queue if that fills it. -/
theorem submitJob_after {atom : MaliJdAtomV2 32} :
    After (submitJob kernel fd atom) d fun out _ d' =>
      submitted out = [atom] ∧ Takes atomQueueMax atom d.queued (batches out) d'.queued ∧
        d'.atomCount = d.atomCount := by
  have length := queued_length d
  have added := queued_update d atom
  unfold submitJob
  rw [after_bind, after_put, after_bind, after_get]
  by_cases room : d.atomQueueSize < atomQueueMax
  · rw [if_pos room, after_bind, after_modify, after_whenever]
    constructor
    · intro full
      refine After.mono flushJobQueue_after ?_
      rintro out _ d' ⟨batch, silent, empty, same⟩
      have sent : flushed (d.queued ++ [atom]) = [d.queued ++ [atom]] := by cases d.queued <;> rfl
      unfold State.queued at batch
      rw [added, sent] at batch
      simp only [submitted_append, batches_append, silent, batch, empty]
      exact ⟨rfl, .full (by rwa [length]), same⟩
    · intro more
      refine ⟨rfl, ?_, rfl⟩
      change Takes atomQueueMax atom d.queued [] ((List.range (d.atomQueueSize + 1)).map _)
      rw [added]
      exact .more (by rw [length]; omega)
  · rw [if_neg room]
    intro _ _ _ runs
    exact absurd runs not_runs_fail

theorem flushJobQueue_returns (accepts : ∀ n, kernel.jobSubmit n = true) : Returns (flushJobQueue kernel fd) d := by
  by_cases some : d.atomQueueSize ≠ 0
  · exact (flushJobQueue_meets some (accepts d.calls)).returns
  · unfold flushJobQueue printf
    rw [returns_get_bind, if_neg some]
    exact returns_put

theorem submitJob_returns (accepts : ∀ n, kernel.jobSubmit n = true) {atom : MaliJdAtomV2 32}
    (room : d.atomQueueSize < atomQueueMax) : Returns (submitJob kernel fd atom) d :=
  (submitJob_meets room fun _ => accepts d.calls).returns

end Specs

inductive QueueCall where
  | submit (fd : BitVec 32) (atom : MaliJdAtomV2 32)
  | flush (fd : BitVec 32)

def QueueCall.atom? : QueueCall → Option (MaliJdAtomV2 32)
  | .submit _ atom => some atom
  | .flush _ => none

def QueueCall.perform (kernel : Kernel) : QueueCall → Drive Unit
  | .submit fd atom => submitJob kernel fd atom
  | .flush fd => flushJobQueue kernel fd

def QueueStep (kernel : Kernel) (d : State) (label : QueueCall × List Event) (d' : State) : Prop :=
  Runs (label.1.perform kernel) d label.2 () d'

def atomsOf (labels : List (QueueCall × List Event)) : List (MaliJdAtomV2 32) :=
  labels.filterMap fun label => label.1.atom?

def batchesOf {ι : Type} (labels : List (ι × List Event)) : List (List (MaliJdAtomV2 32)) :=
  labels.flatMap fun label => batches label.2

@[simp] theorem batchesOf_snoc {ι : Type} (labels : List (ι × List Event)) (label : ι × List Event) :
    batchesOf (labels ++ [label]) = batchesOf labels ++ batches label.2 := by
  simp only [batchesOf, List.flatMap_append, List.flatMap_singleton]

section Runs

variable {kernel : Kernel} {d d' : State} {labels : List (QueueCall × List Event)}

theorem atomsOf_snoc (label : QueueCall × List Event) :
    atomsOf (labels ++ [label]) = atomsOf labels ++ label.1.atom?.toList := by
  simp only [atomsOf, List.filterMap_append]
  cases h : label.1.atom? <;> simp [h]

/-- What every run keeps: the atoms sent are those of the batches, in order, and then those queued. -/
def Kept (labels : List (QueueCall × List Event)) (d : State) : Prop :=
  Conserved atomQueueMax (atomsOf labels) (batchesOf labels) d.queued

theorem Kept.step (held : Kept labels d) {label : QueueCall × List Event} (step : QueueStep kernel d label d') :
    Kept (labels ++ [label]) d' := by
  obtain ⟨call, out⟩ := label
  unfold Kept
  rw [atomsOf_snoc, batchesOf_snoc]
  cases call with
  | submit fd atom =>
    obtain ⟨-, takes, -⟩ := submitJob_after out () d' step
    exact held.take takes
  | flush fd =>
    obtain ⟨sent, -, empty, -⟩ := flushJobQueue_after out () d' step
    rw [sent, empty]
    change Conserved atomQueueMax (atomsOf labels ++ []) _ []
    rw [List.append_nil]
    exact held.flush

theorem kept (empty : d.atomQueueSize = 0) (run : Run (QueueStep kernel) d labels d') : Kept labels d' := by
  refine run.history (fun step held => held.step step) ?_
  unfold Kept
  rw [queued_empty empty]
  exact Conserved.start (by decide)

theorem QueueCall.returns (accepts : ∀ n, kernel.jobSubmit n = true) (room : d.atomQueueSize < atomQueueMax)
    (call : QueueCall) : ∃ out d', QueueStep kernel d (call, out) d' := by
  have returns : Returns (call.perform kernel) d := by
    cases call with
    | submit fd atom => exact submitJob_returns accepts room
    | flush fd => exact flushJobQueue_returns accepts
  obtain ⟨out, _, d', runs⟩ := returns
  exact ⟨out, d', runs⟩

theorem atomsOf_calls : atomsOf labels = (labels.map Prod.fst).filterMap QueueCall.atom? := by
  rw [List.filterMap_map]
  rfl

theorem queue_performs (accepts : ∀ n, kernel.jobSubmit n = true) (empty : d.atomQueueSize = 0) (calls : List QueueCall) :
    ∃ labels d', labels.map Prod.fst = calls ∧ Run (QueueStep kernel) d labels d' := by
  induction calls using List.reverseRecOn with
  | nil => exact ⟨[], d, rfl, .nil d⟩
  | append_singleton calls call ih =>
    obtain ⟨labels, d₁, same, run⟩ := ih
    have room := (kept empty run).room
    rw [queued_length] at room
    obtain ⟨out, d', step⟩ := QueueCall.returns accepts room call
    refine ⟨labels ++ [(call, out)], d', ?_, run.append (.single step)⟩
    rw [List.map_append, same]
    rfl

/-- The atom queue loses, duplicates and reorders nothing, and is never written to behind its end. -/
theorem queue_conserves (accepts : ∀ n, kernel.jobSubmit n = true) (empty : d.atomQueueSize = 0) :
    ∀ labels d', Run (QueueStep kernel) d labels d' →
      (batchesOf labels).flatten ++ d'.queued = atomsOf labels ∧
        (∀ batch ∈ batchesOf labels, 1 ≤ batch.length ∧ batch.length ≤ 16) ∧
        d'.atomQueueSize ≤ 15 ∧
        (∀ call, ∃ out d'', QueueStep kernel d' (call, out) d'') ∧
        ∀ fd out d'', QueueStep kernel d' (.flush fd, out) d'' → d''.atomQueueSize = 0 := by
  intro labels d' run
  have held := kept empty run
  have room := held.room
  rw [queued_length] at room
  refine ⟨held.order, held.sizes, Nat.lt_succ_iff.mp room, QueueCall.returns accepts room, ?_⟩
  intro fd out d'' step
  obtain ⟨-, -, empty, -⟩ := flushJobQueue_after out () d'' step
  rw [← queued_length, empty, List.length_nil]

end Runs

def numberedAtom (n : Nat) : MaliJdAtomV2 32 := { blankAtom with atomNumber := BitVec.ofNat 8 n }

/-- The sixteenth of seventeen atoms fills the queue, and a flush sends the last. -/
theorem full_queue_conserved :
    ∃ labels d', labels.map Prod.fst = (List.range 17).map (fun n => .submit 3 (numberedAtom n)) ++ [.flush 3] ∧
      Run (QueueStep grantingKernel) (.start fun _ => 0#8) labels d' ∧
      (batchesOf labels).flatten = (List.range 17).map numberedAtom ∧
      ∀ batch ∈ batchesOf labels, 1 ≤ batch.length ∧ batch.length ≤ 16 := by
  have accepts : ∀ n, grantingKernel.jobSubmit n = true := fun _ => rfl
  obtain ⟨labels, d, calls, run⟩ := queue_performs (d := .start fun _ => 0#8) accepts rfl
    ((List.range 17).map fun n => .submit 3 (numberedAtom n))
  obtain ⟨-, -, -, returns, empties⟩ := queue_conserves accepts rfl labels d run
  obtain ⟨out, d', flush⟩ := returns (.flush 3)
  have whole : Run (QueueStep grantingKernel) (.start fun _ => 0#8) (labels ++ [(.flush 3, out)]) d' :=
    run.append (.single flush)
  obtain ⟨atoms, sizes, -⟩ := queue_conserves accepts rfl _ d' whole
  rw [queued_empty (empties 3 out d' flush), List.append_nil, atomsOf_snoc, atomsOf_calls, calls] at atoms
  refine ⟨_, d', ?_, whole, atoms, sizes⟩
  rw [List.map_append, calls]
  rfl

end Driver
