import Pantry.Driver.Queue
import Pantry.Driver.Synthesise

namespace Driver

open Machine Panwrap Decoder Program

structure Kernel.Grants (kernel : Kernel) : Prop where
  memAlloc : ∀ n, (kernel.memAlloc n).isSome
  mmap64 : ∀ n, kernel.mmap64 n ≠ mapFailed
  jobSubmit : ∀ n, kernel.jobSubmit n = true

structure SameQueue (d d' : State) : Prop where
  atomCount : d'.atomCount = d.atomCount
  queued : d'.queued = d.queued

/-- `p` submits nothing and leaves the counter and the queue alone. -/
structure Quiet (kernel : Kernel) {α : Type} (p : Drive α) : Prop where
  keeps : ∀ d, After p d fun out _ d' => submitted out = [] ∧ batches out = [] ∧ SameQueue d d'
  returns : kernel.Grants → Total p

theorem SameQueue.refl (d : State) : SameQueue d d := ⟨rfl, rfl⟩

theorem SameQueue.trans {d d' d'' : State} (first : SameQueue d d') (second : SameQueue d' d'') : SameQueue d d'' :=
  ⟨second.atomCount.trans first.atomCount, second.queued.trans first.queued⟩

section Quiet

variable {kernel : Kernel} {fd : BitVec 32} {α β : Type}

theorem Quiet.bind {p : Drive α} {f : α → Drive β} (first : Quiet kernel p) (second : ∀ a, Quiet kernel (f a)) :
    Quiet kernel (p >>= f) where
  keeps := by
    intro d
    rw [after_bind]
    refine (first.keeps d).mono ?_
    intro out a d' ⟨atoms, sent, same⟩
    refine ((second a).keeps d').mono ?_
    intro out' b d'' ⟨atoms', sent', same'⟩
    refine ⟨?_, ?_, same.trans same'⟩
    · rw [submitted_append, atoms, atoms', List.append_nil]
    · rw [batches_append, sent, sent', List.append_nil]
  returns := fun grants => (first.returns grants).bind fun a => (second a).returns grants

theorem quiet_pure {a : α} : Quiet kernel (pure a : Drive α) where
  keeps := fun d => after_pure.mpr ⟨rfl, rfl, .refl d⟩
  returns := fun _ => total_pure

theorem quiet_get : Quiet kernel (get : Drive State) where
  keeps := fun d => after_get.mpr ⟨rfl, rfl, .refl d⟩
  returns := fun _ => total_get

theorem quiet_modify {f : State → State} (same : ∀ d, SameQueue d (f d)) : Quiet kernel (modify f : Drive Unit) where
  keeps := fun d => after_modify.mpr ⟨rfl, rfl, same d⟩
  returns := fun _ => total_modify

theorem quiet_put {items : List Event} (atoms : submitted items = []) (sent : batches items = []) :
    Quiet kernel (put items : Drive Unit) where
  keeps := fun d => after_put.mpr ⟨atoms, sent, .refl d⟩
  returns := fun _ => total_put

theorem Quiet.whenever {c : Prop} [Decidable c] {p : Drive Unit} (quiet : Quiet kernel p) :
    Quiet kernel (whenever c p) := by
  unfold Program.whenever
  split
  · exact quiet
  · exact quiet_pure

theorem printf_quiet {format : String} {args : List Arg} : Quiet kernel (printf format args) := quiet_put rfl rfl

theorem memcpy_quiet {p : BitVec 32} {off : Nat} {content : List Byte} : Quiet kernel (memcpy p off content) :=
  quiet_modify fun _ => ⟨rfl, rfl⟩

theorem assign_quiet {p : BitVec 32} {off width : Nat} {value : BitVec width} : Quiet kernel (assign p off value) :=
  quiet_modify fun _ => ⟨rfl, rfl⟩

theorem galloc_quiet {sz : BitVec 32} : Quiet kernel (galloc sz) := by
  unfold galloc
  refine (quiet_modify ?_).bind fun _ => quiet_get.bind fun _ => quiet_pure
  exact fun _ => ⟨rfl, rfl⟩

theorem ioctlMemAlloc_quiet {vaPages commitPages extent flags : BitVec 64} :
    Quiet kernel (ioctlMemAlloc kernel fd vaPages commitPages extent flags) where
  keeps := by
    intro d
    unfold ioctlMemAlloc
    simp only [after_bind, after_get, after_put, after_modify]
    split
    · rw [after_pure]
      exact ⟨rfl, rfl, rfl, rfl⟩
    · exact after_badIoctl
  returns := by
    intro grants d
    obtain ⟨gpuVa, granted⟩ := Option.isSome_iff_exists.mp (grants.memAlloc d.calls)
    exact (ioctlMemAlloc_meets granted).returns

theorem mmap64_quiet {length : BitVec 32} {offset : BitVec 64} : Quiet kernel (mmap64 kernel fd length offset) := by
  unfold mmap64
  refine quiet_get.bind fun _ => (quiet_put rfl rfl).bind fun _ => (quiet_modify ?_).bind fun _ => quiet_pure
  exact fun _ => ⟨rfl, rfl⟩

theorem allocGpuPages_quiet {pages eFlags : BitVec 32} : Quiet kernel (allocGpuPages kernel fd pages eFlags) := by
  unfold allocGpuPages
  refine printf_quiet.bind fun _ => ioctlMemAlloc_quiet.bind fun _ => ?_
  split
  · exact mmap64_quiet.bind fun _ => quiet_pure
  · exact quiet_pure

theorem mmapGpu_quiet {addr : BitVec 64} {pageCount : BitVec 32} : Quiet kernel (mmapGpu kernel fd addr pageCount) where
  keeps := by
    intro d
    unfold mmapGpu printf
    rw [after_bind, after_get, after_bind]
    refine (mmap64_quiet.keeps d).mono ?_
    intro out buffer d' ⟨atoms, sent, same⟩
    split
    · rw [after_bind, after_put]
      intro _ _ _ runs
      exact absurd runs not_runs_fail
    · rw [after_pure, List.nil_append, List.append_nil]
      exact ⟨atoms, sent, same⟩
  returns := fun grants d => (mmapGpu_meets (grants.mmap64 d.calls)).returns

theorem setValueHelper_quiet {out : BitVec 64} : Quiet kernel (setValueHelper out) := by
  unfold setValueHelper
  exact galloc_quiet.bind fun _ => memcpy_quiet.bind fun _ => memcpy_quiet.bind fun _ => quiet_pure

theorem makeMfbd_quiet {tiler : Bool} {heapFreeAddress scratchpad : BitVec 64} :
    Quiet kernel (makeMfbd tiler heapFreeAddress scratchpad) := by
  unfold makeMfbd
  refine galloc_quiet.bind fun _ => ?_
  iterate 8 refine assign_quiet.bind fun _ => ?_
  refine assign_quiet.whenever.bind fun _ => ?_
  iterate 5 refine assign_quiet.bind fun _ => ?_
  exact quiet_get.bind fun _ => memcpy_quiet.bind fun _ => quiet_pure

theorem importShader_quiet {shader : Buffer} {fragment : Bool} : Quiet kernel (importShader kernel fd shader fragment) := by
  unfold importShader
  exact allocGpuPages_quiet.bind fun _ => mmapGpu_quiet.bind fun _ => memcpy_quiet.bind fun _ => quiet_pure

theorem uploadVertices_quiet {vertices : Buffer} : Quiet kernel (uploadVertices vertices) := by
  unfold uploadVertices
  refine galloc_quiet.bind fun _ => galloc_quiet.bind fun _ => memcpy_quiet.bind fun _ => ?_
  iterate 3 refine assign_quiet.bind fun _ => ?_
  exact quiet_get.bind fun _ => assign_quiet.bind fun _ => quiet_pure

theorem vertexTilerPayload_quiet {tiler : Bool} {fbd vertexBuffer zeroBuffer mode : BitVec 32} :
    Quiet kernel (vertexTilerPayload tiler fbd vertexBuffer zeroBuffer mode) := by
  unfold vertexTilerPayload
  iterate 7 refine galloc_quiet.bind fun _ => ?_
  exact quiet_pure

theorem vertexTilerHelper_quiet {tiler : Bool} {fbd vertexBuffer zeroBuffer mode : BitVec 32} {shader : Buffer} :
    Quiet kernel (vertexTilerHelper kernel fd tiler fbd vertexBuffer zeroBuffer mode shader) := by
  unfold vertexTilerHelper
  refine galloc_quiet.bind fun _ => vertexTilerPayload_quiet.bind fun _ => importShader_quiet.bind fun _ => ?_
  refine assign_quiet.bind fun _ => memcpy_quiet.whenever.bind fun _ => ?_
  iterate 3 refine assign_quiet.bind fun _ => ?_
  refine memcpy_quiet.bind fun _ => memcpy_quiet.whenever.bind fun _ => ?_
  iterate 2 refine assign_quiet.bind fun _ => ?_
  refine galloc_quiet.bind fun _ => assign_quiet.bind fun _ => assign_quiet.bind fun _ => ?_
  exact memcpy_quiet.bind fun _ => memcpy_quiet.bind fun _ => quiet_pure

theorem linkJobs_quiet {set vertex tiler : BitVec 32} : Quiet kernel (linkJobs set vertex tiler) := by
  unfold linkJobs
  iterate 5 refine assign_quiet.bind fun _ => ?_
  exact quiet_get.bind fun _ => assign_quiet.bind fun _ => quiet_get.bind fun _ => assign_quiet

end Quiet

/-- `atom` is numbered next to `count`, and names `count` wherever it waits for data. -/
structure Follows (count : BitVec 32) (atom : MaliJdAtomV2 32) : Prop where
  number : atom.atomNumber = (count + 1#32).setWidth 8
  data : ∀ i, atom.preDepType i = maliJdDepTypeData → atom.preDepAtomId i = count.setWidth 8

def Alone (atom : MaliJdAtomV2 32) : Prop := ∀ i, atom.preDepType i ≠ maliJdDepTypeData

/-- From a state that counts `count`, `p` submits one atom, an allowed one, and counts `next`. -/
structure Chains (kernel : Kernel) (allowed : MaliJdAtomV2 32 → Prop) (count next : BitVec 32) {α : Type}
    (p : Drive α) : Prop where
  submits : ∀ d, d.atomCount = count → After p d fun out _ d' => ∃ atom, submitted out = [atom] ∧ allowed atom ∧
    Takes atomQueueMax atom d.queued (batches out) d'.queued ∧ d'.atomCount = next
  returns : kernel.Grants → ∀ d, d.atomCount = count → d.queued.length < atomQueueMax → Returns p d

section Chains

variable {kernel : Kernel} {fd count next : BitVec 32} {allowed : MaliJdAtomV2 32 → Prop} {α β : Type}

theorem Quiet.chains {p : Drive α} {f : α → Drive β} (first : Quiet kernel p)
    (second : ∀ a, Chains kernel allowed count next (f a)) : Chains kernel allowed count next (p >>= f) where
  submits := by
    intro d counts
    rw [after_bind]
    refine (first.keeps d).mono ?_
    intro out a d' ⟨silent, sent, same⟩
    refine ((second a).submits d' (same.atomCount.trans counts)).mono ?_
    intro out' _ d'' ⟨atom, atoms, ok, takes, counted⟩
    rw [same.queued] at takes
    rw [submitted_append, batches_append, silent, sent, List.nil_append, List.nil_append]
    exact ⟨atom, atoms, ok, takes, counted⟩
  returns := by
    intro grants d counts room
    obtain ⟨out, a, d', runs⟩ := first.returns grants d
    obtain ⟨-, -, same⟩ := first.keeps d out a d' runs
    rw [← same.queued] at room
    exact (returns_after runs).mpr ((second a).returns grants d' (same.atomCount.trans counts) room)

theorem Chains.get_bind {f : State → Drive α}
    (rest : ∀ d, d.atomCount = count → Chains kernel allowed count next (f d)) :
    Chains kernel allowed count next (get >>= f) where
  submits := by
    intro d counts
    rw [after_bind, after_get]
    exact (rest d counts).submits d counts
  returns := fun grants d counts room => returns_get_bind.mpr ((rest d counts).returns grants d counts room)

theorem Chains.count_bind {f : Unit → Drive α} (rest : Chains kernel allowed (count + 1#32) next (f ())) :
    Chains kernel allowed count next (modify (fun d => { d with atomCount := d.atomCount + 1#32 }) >>= f) where
  submits := by
    intro d counts
    rw [after_bind, after_modify]
    exact rest.submits _ (congrArg (· + 1#32) counts)
  returns := fun grants d counts room =>
    returns_modify_bind.mpr (rest.returns grants _ (congrArg (· + 1#32) counts) room)

theorem Chains.mono {p : Drive α} {wider : MaliJdAtomV2 32 → Prop} (chains : Chains kernel allowed count next p)
    (imp : ∀ atom, allowed atom → wider atom) : Chains kernel wider count next p where
  submits := by
    intro d counts
    refine (chains.submits d counts).mono ?_
    intro out _ d' ⟨atom, atoms, ok, rest⟩
    exact ⟨atom, atoms, imp atom ok, rest⟩
  returns := chains.returns

theorem Chains.bind {p : Drive α} {f : α → Drive β} (first : Chains kernel allowed count next p)
    (second : ∀ a, Quiet kernel (f a)) : Chains kernel allowed count next (p >>= f) where
  submits := by
    intro d counts
    rw [after_bind]
    refine (first.submits d counts).mono ?_
    intro out a d' ⟨atom, atoms, ok, takes, counted⟩
    refine ((second a).keeps d').mono ?_
    intro out' _ d'' ⟨silent, sent, same⟩
    rw [submitted_append, batches_append, silent, sent, List.append_nil, List.append_nil, same.queued, same.atomCount]
    exact ⟨atom, atoms, ok, takes, counted⟩
  returns := by
    intro grants d counts room
    obtain ⟨out, a, d', runs⟩ := first.returns grants d counts room
    exact (returns_after runs).mpr ((second a).returns grants d')

theorem submitJob_chains {atom : MaliJdAtomV2 32} (ok : allowed atom) :
    Chains kernel allowed count count (submitJob kernel fd atom) where
  submits := by
    intro d counts
    refine submitJob_after.mono ?_
    intro out _ d' ⟨atoms, takes, same⟩
    exact ⟨atom, atoms, ok, takes, same.trans counts⟩
  returns := by
    intro grants d _ room
    rw [queued_length] at room
    exact submitJob_returns grants.jobSubmit room

theorem vertexTilerAtom_alone {jc : BitVec 64} {number : BitVec 8} : Alone (vertexTilerAtom jc number) :=
  fun _ => (by decide : maliJdDepTypeInvalid ≠ maliJdDepTypeData)

theorem jobChainVertexTiler_chains {vertices vertexShader fragmentShader : Buffer} {mode : BitVec 32}
    {heapFreeAddress scratchpad : BitVec 64} :
    Chains kernel (fun atom => Follows count atom ∧ Alone atom) count (count + 1#32)
      (jobChainVertexTiler kernel fd vertices mode vertexShader fragmentShader heapFreeAddress scratchpad) := by
  unfold jobChainVertexTiler
  refine uploadVertices_quiet.chains fun _ => makeMfbd_quiet.chains fun _ => allocGpuPages_quiet.chains fun _ => ?_
  refine setValueHelper_quiet.chains fun set => ?_
  refine vertexTilerHelper_quiet.chains fun _ => vertexTilerHelper_quiet.chains fun _ => ?_
  refine linkJobs_quiet.chains fun _ => Chains.count_bind (Chains.get_bind fun d counts => ?_)
  have alone : Alone (vertexTilerAtom (set.setWidth 64) (d.atomCount.setWidth 8)) := vertexTilerAtom_alone
  have follows : Follows count (vertexTilerAtom (set.setWidth 64) (d.atomCount.setWidth 8)) := by
    refine ⟨congrArg (BitVec.setWidth 8) counts, fun i waits => absurd waits (alone i)⟩
  exact (submitJob_chains ⟨follows, alone⟩).bind fun _ => quiet_pure

theorem dependentAtom_follows {jc : BitVec 64} {resource coreReq : BitVec 32} {prio : BitVec 8} {before behind : State}
    (counts : before.atomCount = count) (counted : behind.atomCount = count + 1#32) :
    Follows count (dependentAtom jc resource coreReq prio (before.atomCount.setWidth 8) (behind.atomCount.setWidth 8)) where
  number := congrArg (BitVec.setWidth 8) counted
  data := by
    intro i waits
    by_cases first : i = 0
    · rw [← counts]
      exact if_pos first
    · have invalid : (dependentAtom jc resource coreReq prio (before.atomCount.setWidth 8)
          (behind.atomCount.setWidth 8)).preDepType i = maliJdDepTypeInvalid := if_neg first
      rw [invalid] at waits
      exact absurd waits (by decide)

theorem jobChainFragment_chains {framebuffer heapFreeAddress scratchpad : BitVec 64} {resource : BitVec 32} :
    Chains kernel (Follows count) count (count + 1#32)
      (jobChainFragment kernel fd framebuffer heapFreeAddress scratchpad resource) := by
  unfold jobChainFragment
  refine galloc_quiet.chains fun _ => makeMfbd_quiet.chains fun _ => ?_
  refine memcpy_quiet.chains fun _ => memcpy_quiet.chains fun _ => Chains.get_bind fun d counts => ?_
  refine assign_quiet.chains fun _ => Chains.count_bind (Chains.get_bind fun d' counted => ?_)
  exact (submitJob_chains (dependentAtom_follows counts counted)).bind fun _ => quiet_pure

theorem jobChainReplay_chains {tilerJc fragmentJc : BitVec 32} {heapFreeAddress framebuffer : BitVec 64}
    {resource : BitVec 32} :
    Chains kernel (Follows count) count (count + 1#32)
      (jobChainReplay kernel fd tilerJc fragmentJc heapFreeAddress framebuffer resource) := by
  unfold jobChainReplay
  refine Chains.get_bind fun d counts => galloc_quiet.chains fun _ => ?_
  iterate 9 refine assign_quiet.chains fun _ => ?_
  refine Chains.count_bind (Chains.get_bind fun d' counted => ?_)
  exact submitJob_chains (dependentAtom_follows counts counted)

end Chains

inductive JobCall where
  | vertexTiler (fd : BitVec 32) (vertices : Buffer) (mode : BitVec 32) (vertexShader fragmentShader : Buffer)
      (heapFreeAddress scratchpad : BitVec 64)
  | fragment (fd : BitVec 32) (framebuffer heapFreeAddress scratchpad : BitVec 64) (resource : BitVec 32)
  | replay (fd tilerJc fragmentJc : BitVec 32) (heapFreeAddress framebuffer : BitVec 64) (resource : BitVec 32)
  | flush (fd : BitVec 32)

def JobCall.isVertexTiler : JobCall → Bool
  | .vertexTiler .. => true
  | _ => false

def JobCall.isChain : JobCall → Bool
  | .flush _ => false
  | _ => true

def JobCall.perform (kernel : Kernel) : JobCall → Drive Unit
  | .vertexTiler fd vertices mode vertexShader fragmentShader heapFreeAddress scratchpad => do
    let _ ← jobChainVertexTiler kernel fd vertices mode vertexShader fragmentShader heapFreeAddress scratchpad
    pure ()
  | .fragment fd framebuffer heapFreeAddress scratchpad resource => do
    let _ ← jobChainFragment kernel fd framebuffer heapFreeAddress scratchpad resource
    pure ()
  | .replay fd tilerJc fragmentJc heapFreeAddress framebuffer resource =>
    jobChainReplay kernel fd tilerJc fragmentJc heapFreeAddress framebuffer resource
  | .flush fd => flushJobQueue kernel fd

def JobStep (kernel : Kernel) (d : State) (label : JobCall × List Event) (d' : State) : Prop :=
  Runs (label.1.perform kernel) d label.2 () d'

def submittedOf {ι : Type} (labels : List (ι × List Event)) : List (MaliJdAtomV2 32) :=
  labels.flatMap fun label => submitted label.2

def chainsOf (labels : List (JobCall × List Event)) : List (JobCall × List Event) :=
  labels.filter fun label => label.1.isChain

/-- What the numbers and the dependencies of a run's atoms are meant to be. -/
structure Meaningful {ι : Type} (labels : List (ι × List Event)) : Prop where
  numbered : ∀ atom ∈ submittedOf labels, atom.atomNumber ≠ 0#8
  distinct : ∀ batch ∈ batchesOf labels, (batch.map (·.atomNumber)).Nodup
  named : ∀ (n : Nat) atom i, (submittedOf labels)[n]? = some atom → atom.preDepType i = maliJdDepTypeData →
    ∃ previous, 0 < n ∧ (submittedOf labels)[n - 1]? = some previous ∧ atom.preDepAtomId i = previous.atomNumber
  grounded : ∀ atom ∈ submittedOf labels, ∀ i, atom.preDepType i = maliJdDepTypeData → atom.preDepAtomId i ≠ 0#8

section Runs

variable {kernel : Kernel} {d d' : State} {labels : List (JobCall × List Event)}

@[simp] theorem submittedOf_snoc {ι : Type} (labels : List (ι × List Event)) (label : ι × List Event) :
    submittedOf (labels ++ [label]) = submittedOf labels ++ submitted label.2 := by
  simp only [submittedOf, List.flatMap_append, List.flatMap_singleton]

theorem chainsOf_snoc_length (call : JobCall) (out : List Event) :
    (chainsOf (labels ++ [(call, out)])).length = (chainsOf labels).length + if call.isChain then 1 else 0 := by
  rw [chainsOf, List.filter_append, List.length_append, ← chainsOf]
  cases chain : call.isChain <;> simp [chain]

theorem chainsOf_length : (chainsOf labels).length = (labels.map Prod.fst).countP JobCall.isChain := by
  rw [chainsOf, ← List.countP_eq_length_filter, List.countP_map]
  rfl

/-- What every run keeps: the n-th atom follows the count n. -/
structure Numbered (labels : List (JobCall × List Event)) (d : State) : Prop where
  kept : Conserved atomQueueMax (submittedOf labels) (batchesOf labels) d.queued
  chains : (submittedOf labels).length = (chainsOf labels).length
  count : d.atomCount = BitVec.ofNat 32 (submittedOf labels).length
  follows : ∀ (n : Nat) atom, (submittedOf labels)[n]? = some atom → Follows (BitVec.ofNat 32 n) atom

theorem JobCall.vertexTiler_chains {count : BitVec 32} {call : JobCall} (first : call.isVertexTiler) :
    Chains kernel (fun atom => Follows count atom ∧ Alone atom) count (count + 1#32) (call.perform kernel) := by
  cases call with
  | vertexTiler => exact jobChainVertexTiler_chains.bind fun _ => quiet_pure
  | _ => cases first

theorem JobCall.chains {count : BitVec 32} {call : JobCall} (chain : call.isChain) :
    Chains kernel (Follows count) count (count + 1#32) (call.perform kernel) := by
  cases call with
  | vertexTiler => exact (JobCall.vertexTiler_chains rfl).mono fun _ allowed => allowed.1
  | fragment => exact jobChainFragment_chains.bind fun _ => quiet_pure
  | replay => exact jobChainReplay_chains
  | flush => cases chain

theorem Numbered.chain (held : Numbered labels d) {call : JobCall} {out : List Event} (chain : call.isChain)
    (step : JobStep kernel d (call, out) d') : Numbered (labels ++ [(call, out)]) d' := by
  obtain ⟨atom, atoms, follows, takes, counted⟩ := (JobCall.chains chain).submits d rfl out () d' step
  have one : submittedOf (labels ++ [(call, out)]) = submittedOf labels ++ [atom] := by rw [submittedOf_snoc, atoms]
  refine ⟨?_, ?_, ?_, ?_⟩
  · rw [one, batchesOf_snoc]
    exact held.kept.take takes
  · rw [one, List.length_append, held.chains, chainsOf_snoc_length, if_pos chain]
    rfl
  · rw [one, counted, held.count, List.length_append, BitVec.ofNat_add]
    rfl
  · intro n other found
    rw [one] at found
    rcases Nat.lt_or_ge n (submittedOf labels).length with old | new
    · rw [List.getElem?_append_left old] at found
      exact held.follows n other found
    · rw [List.getElem?_append_right new, List.getElem?_singleton] at found
      split at found
      · have last : n = (submittedOf labels).length := by omega
        rw [last, ← held.count, ← Option.some.inj found]
        exact follows
      · cases found

theorem Numbered.flush (held : Numbered labels d) {fd : BitVec 32} {out : List Event}
    (step : JobStep kernel d (.flush fd, out) d') : Numbered (labels ++ [(.flush fd, out)]) d' := by
  obtain ⟨sent, silent, empty, same⟩ := flushJobQueue_after out () d' step
  have none : submittedOf (labels ++ [(.flush fd, out)]) = submittedOf labels := by
    rw [submittedOf_snoc, silent, List.append_nil]
  refine ⟨?_, ?_, ?_, ?_⟩
  · rw [none, batchesOf_snoc, sent, empty]
    exact held.kept.flush
  · rw [none, chainsOf_snoc_length]
    exact held.chains
  · rw [none, same]
    exact held.count
  · rw [none]
    exact held.follows

theorem Numbered.step (held : Numbered labels d) {label : JobCall × List Event} (step : JobStep kernel d label d') :
    Numbered (labels ++ [label]) d' := by
  obtain ⟨call, out⟩ := label
  cases call with
  | flush => exact held.flush step
  | _ => exact held.chain rfl step

theorem numbered_start (empty : d.atomQueueSize = 0) (fresh : d.atomCount = 0#32) : Numbered [] d where
  kept := by
    rw [queued_empty empty]
    exact Conserved.start (by decide)
  chains := rfl
  count := fresh
  follows := by
    intro n atom found
    cases found

theorem numbered (empty : d.atomQueueSize = 0) (fresh : d.atomCount = 0#32) (run : Run (JobStep kernel) d labels d') :
    Numbered labels d' :=
  run.history (fun step held => held.step step) (numbered_start empty fresh)

theorem follows_number {n : Nat} {atom : MaliJdAtomV2 32} (follows : Follows (BitVec.ofNat 32 n) atom) :
    atom.atomNumber = BitVec.ofNat 8 (n + 1) := by
  have next : BitVec.ofNat 32 n + 1#32 = BitVec.ofNat 32 (n + 1) := (BitVec.ofNat_add n 1).symm
  rw [follows.number, next]
  apply BitVec.eq_of_toNat_eq
  rw [BitVec.toNat_setWidth, BitVec.toNat_ofNat, BitVec.toNat_ofNat]
  omega

theorem follows_data {n : Nat} {atom : MaliJdAtomV2 32} (follows : Follows (BitVec.ofNat 32 n) atom) {i : Fin 2}
    (waits : atom.preDepType i = maliJdDepTypeData) : atom.preDepAtomId i = BitVec.ofNat 8 n := by
  rw [follows.data i waits]
  apply BitVec.eq_of_toNat_eq
  rw [BitVec.toNat_setWidth, BitVec.toNat_ofNat, BitVec.toNat_ofNat]
  omega

/-- A batch is too short for the 8-bit number to come round in it. -/
theorem Numbered.distinct (held : Numbered labels d) : ∀ batch ∈ batchesOf labels, (batch.map (·.atomNumber)).Nodup := by
  intro batch member
  obtain ⟨-, short⟩ := held.kept.sizes batch member
  obtain ⟨before, after, whole⟩ := held.kept.stretch member
  have number : ∀ i atom, batch[i]? = some atom → atom.atomNumber = BitVec.ofNat 8 (before.length + i + 1) := by
    intro i atom found
    apply follows_number
    apply held.follows
    have inside : i < batch.length := (List.getElem?_eq_some_iff.mp found).1
    rw [whole, List.append_assoc, List.getElem?_append_right (Nat.le_add_right _ _), Nat.add_sub_cancel_left,
      List.getElem?_append_left inside]
    exact found
  rw [List.nodup_iff_getElem?_ne_getElem?]
  intro i j ordered inside same
  rw [List.length_map] at inside
  have earlier : i < batch.length := Nat.lt_trans ordered inside
  rw [List.getElem?_map, List.getElem?_map, List.getElem?_eq_getElem inside, List.getElem?_eq_getElem earlier] at same
  have equal : batch[i].atomNumber = batch[j].atomNumber := Option.some.inj same
  rw [number i _ (List.getElem?_eq_getElem earlier), number j _ (List.getElem?_eq_getElem inside)] at equal
  have values := congrArg BitVec.toNat equal
  rw [BitVec.toNat_ofNat, BitVec.toNat_ofNat] at values
  unfold atomQueueMax at short
  omega

theorem Numbered.named (held : Numbered labels d) {n : Nat} {atom : MaliJdAtomV2 32} {i : Fin 2}
    (found : (submittedOf labels)[n]? = some atom) (behind : 0 < n) (waits : atom.preDepType i = maliJdDepTypeData) :
    ∃ previous, 0 < n ∧ (submittedOf labels)[n - 1]? = some previous ∧ atom.preDepAtomId i = previous.atomNumber := by
  have inside : n < (submittedOf labels).length := (List.getElem?_eq_some_iff.mp found).1
  have present := List.getElem?_eq_getElem (Nat.lt_of_le_of_lt (Nat.sub_le n 1) inside)
  refine ⟨_, behind, present, ?_⟩
  rw [follows_data (held.follows n atom found) waits, follows_number (held.follows _ _ present), Nat.sub_add_cancel behind]

theorem Numbered.meaningful_iff (held : Numbered labels d)
    (first : ∀ atom, (submittedOf labels)[0]? = some atom → Alone atom) :
    Meaningful labels ↔ (chainsOf labels).length < 256 := by
  rw [← held.chains]
  constructor
  · intro meaningful
    by_contra many
    have inside : 255 < (submittedOf labels).length := by omega
    have present := List.getElem?_eq_getElem inside
    exact meaningful.numbered _ (List.mem_of_getElem? present) (follows_number (held.follows 255 _ present))
  · intro few
    have positive : ∀ n, 0 < n → n < 256 → BitVec.ofNat 8 n ≠ 0#8 := by
      intro n positive small zero
      have value := congrArg BitVec.toNat zero
      rw [BitVec.toNat_ofNat, BitVec.toNat_ofNat] at value
      omega
    refine ⟨?_, held.distinct, ?_, ?_⟩
    · intro atom member
      obtain ⟨n, inside, rfl⟩ := List.mem_iff_getElem.mp member
      rw [follows_number (held.follows n _ (List.getElem?_eq_getElem inside))]
      exact positive _ (Nat.succ_pos n) (by omega)
    · intro n atom i found waits
      rcases Nat.eq_zero_or_pos n with rfl | behind
      · exact absurd waits (first atom found i)
      · exact held.named found behind waits
    · intro atom member i waits
      obtain ⟨n, inside, rfl⟩ := List.mem_iff_getElem.mp member
      have found := List.getElem?_eq_getElem inside
      rcases Nat.eq_zero_or_pos n with rfl | behind
      · exact absurd waits (first _ found i)
      · rw [follows_data (held.follows n _ found) waits]
        exact positive n behind (by omega)

/-- The atoms of a run from a fresh queue mean what they should if and only if there are fewer
    than 256 of them. -/
theorem atoms_meaningful (empty : d.atomQueueSize = 0) (fresh : d.atomCount = 0#32) {call : JobCall} {out : List Event}
    (first : call.isVertexTiler) (run : Run (JobStep kernel) d ((call, out) :: labels) d') :
    Meaningful ((call, out) :: labels) ↔ (chainsOf ((call, out) :: labels)).length < 256 := by
  apply (numbered empty fresh run).meaningful_iff
  intro atom found
  cases run with
  | cons step rest =>
    obtain ⟨front, atoms, ⟨-, waits⟩, -⟩ := (JobCall.vertexTiler_chains first).submits d rfl out () _ step
    have whole : submittedOf ((call, out) :: labels) = front :: submittedOf labels := by
      rw [submittedOf, List.flatMap_cons, atoms]
      rfl
    rw [whole, List.getElem?_cons_zero] at found
    rw [← Option.some.inj found]
    exact waits

theorem performs (grants : kernel.Grants) (calls : List JobCall) {past : List (JobCall × List Event)}
    (held : Numbered past d) :
    ∃ labels d', labels.map Prod.fst = calls ∧ Run (JobStep kernel) d labels d' := by
  induction calls generalizing past d with
  | nil => exact ⟨[], d, rfl, .nil d⟩
  | cons call rest ih =>
    have room := held.kept.room
    have returns : Returns (call.perform kernel) d := by
      cases call with
      | flush => exact flushJobQueue_returns grants.jobSubmit
      | _ => exact (JobCall.chains rfl).returns grants d rfl room
    obtain ⟨out, _, d₁, runs⟩ := returns
    have step : JobStep kernel d (call, out) d₁ := runs
    obtain ⟨labels, d', same, run⟩ := ih (held.step step)
    refine ⟨(call, out) :: labels, d', ?_, .cons step run⟩
    rw [List.map_cons, same]

end Runs

theorem grantingKernel_grants : grantingKernel.Grants :=
  ⟨fun _ => rfl, fun _ => (by decide : 0x10000000#32 ≠ mapFailed), fun _ => rfl⟩

def emptyChain : JobCall := .vertexTiler 3#32 ⟨[], by decide⟩ 0#32 ⟨[], by decide⟩ ⟨[], by decide⟩ 0#64 0#64

/-- The calls that draw a frame: each atom but the first waits for the data of the one before, and one batch is sent. -/
def frameCalls : List JobCall :=
  [emptyChain, .fragment 3#32 0#64 0#64 0#64 0x30000000#32, .replay 3#32 0#32 0#32 0#64 0#64 0x30000000#32, .flush 3#32]

theorem frame_calls_meaningful :
    ∃ labels d', labels.map Prod.fst = frameCalls ∧ Run (JobStep grantingKernel) (.start fun _ => 0#8) labels d' ∧
      Meaningful labels ∧ (submittedOf labels).length = 3 := by
  have start := numbered_start (d := .start fun _ => 0#8) rfl rfl
  obtain ⟨labels, d', calls, run⟩ := performs grantingKernel_grants frameCalls start
  have chains : (chainsOf labels).length = 3 := by
    rw [chainsOf_length, calls]
    rfl
  have three : (submittedOf labels).length = 3 := (numbered rfl rfl run).chains.trans chains
  obtain ⟨⟨call, out⟩, rest, rfl, rfl, tail⟩ := List.map_eq_cons_iff.mp calls
  exact ⟨_, d', calls, run, (atoms_meaningful rfl rfl rfl run).mpr (by rw [chains]; decide), three⟩

/-- The 256th atom is numbered zero, and the 257th waits for the data of atom zero. -/
theorem atom_number_wraps :
    ∃ labels d', labels.map Prod.fst = List.replicate 256 emptyChain ++ [.fragment 3#32 0#64 0#64 0#64 0x30000000#32] ∧
      Run (JobStep grantingKernel) (.start fun _ => 0#8) labels d' ∧ ¬ Meaningful labels := by
  have start := numbered_start (d := .start fun _ => 0#8) rfl rfl
  obtain ⟨labels, d', calls, run⟩ := performs grantingKernel_grants _ start
  refine ⟨labels, d', calls, run, ?_⟩
  intro meaningful
  have held := numbered rfl rfl run
  have chains : (chainsOf labels).length = 257 := by
    rw [chainsOf_length, calls, List.countP_append, List.countP_replicate]
    rfl
  have inside : 255 < (submittedOf labels).length := by rw [held.chains, chains]; decide
  have present := List.getElem?_eq_getElem inside
  exact meaningful.numbered _ (List.mem_of_getElem? present) (follows_number (held.follows 255 _ present))

end Driver
