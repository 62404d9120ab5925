import Pantry.Driver.Batch
import Pantry.Driver.Fragment

/-! The chains that wait in the queue, and what panwrap finds when it traces them. -/

namespace Driver

open Machine Panwrap Decoder Program

theorem ChainLaid.keep {base : BitVec 32} {b f k l : Nat} {vertices vertexShader : Buffer} {scratchpad gpu : BitVec 64}
    {cpu : BitVec 32} {vertex tiler : PayloadVertexTiler32} {m m' : Memory 32}
    (laid : ChainLaid base b f k vertices vertexShader scratchpad gpu cpu vertex tiler m)
    (order : b ≤ f ∧ b ≤ k) (before : b < l ∧ f < l ∧ k + 10 < l)
    (same : ∀ i, b ≤ i → i < l → ∀ width off, off + width / 8 ≤ 0x400 →
      m'.read width (slot base i) off = m.read width (slot base i) off)
    (code : m'.bytes cpu vertexShader.bytes.length = m.bytes cpu vertexShader.bytes.length) :
    ChainLaid base b f k vertices vertexShader scratchpad gpu cpu vertex tiler m' where
  attributes := by
    rw [← laid.attributes]
    unfold AttributeBuffer.load
    rw [same b (Nat.le_refl b) before.1 64 _ (by decide), same b (Nat.le_refl b) before.1 32 _ (by decide),
      same b (Nat.le_refl b) before.1 32 _ (by decide)]
  framebuffer := (same f order.1 before.2.1 64 _ (by decide)).trans laid.framebuffer
  set := (load_header_congr fun width off part => same k order.2 (by omega) width off (by omega)).trans laid.set
  setValue := (same k order.2 (by omega) 64 _ (by decide)).trans laid.setValue
  vertex := laid.vertex.keep (same (k + 1) (by omega) (by omega))
  shader := (same (k + 4) (by omega) (by omega) 64 _ (by decide)).trans laid.shader
  metadata := by
    rw [same (k + 5) (by omega) (by omega) 64 0 (by decide), same (k + 5) (by omega) (by omega) 64 8 (by decide)]
    exact laid.metadata
  tiler := laid.tiler.keep (same (k + 10) (by omega) before.2.2)
  code := code.trans laid.code

/-- A chain in the arena: its first slot, and what the driver was asked to build there. -/
inductive Job where
  | vertexTiler (b : Nat) (vertices vertexShader : Buffer) (mode : BitVec 32) (scratchpad gpu : BitVec 64) (cpu : BitVec 32)
  | fragment (b : Nat) (heap scratchpad : BitVec 64)
  | replay (b : Nat) (tilerJc fragmentJc : BitVec 32) (heap : BitVec 64)

namespace Job

def first : Job → Nat
  | .vertexTiler b .. => b
  | .fragment b .. => b
  | .replay b .. => b

def start : Job → Nat
  | .vertexTiler b vertices .. => b + (2 + vertices.kilobytes) + 1
  | .fragment b .. => b
  | .replay b .. => b

def behind : Job → Nat
  | .vertexTiler b vertices .. => b + (2 + vertices.kilobytes) + 20
  | .fragment b .. => b + 2
  | .replay b .. => b + 1

def code : Job → Set (BitVec 32)
  | .vertexTiler _ _ vertexShader _ _ _ cpu => region cpu vertexShader.bytes.length
  | _ => ∅

def coreReq : Job → BitVec 32
  | .vertexTiler .. => maliJdReqCs ||| maliJdReqT ||| maliJdReqCf ||| maliJdReqCoherentGroup
  | .fragment .. => Driver.maliJdReqExternalResources ||| Driver.maliJdReqFs
  | .replay .. => Driver.maliJdReqExternalResources ||| maliJdReqSoftReplay

def Clean (base : BitVec 32) : Job → Prop
  | .vertexTiler b vertices _ _ _ gpu cpu =>
    sabotaged (slot base (b + (2 + vertices.kilobytes) + 5)) = false ∧ gpu.toNat % 0x1000 = 0 ∧ cpu ≠ 0#32
  | _ => True

def Stands (base : BitVec 32) (m : Memory 32) : Job → Prop
  | .vertexTiler b vertices vertexShader mode scratchpad gpu cpu =>
    let f := b + (2 + vertices.kilobytes)
    ∃ zeroes, ChainLaid base b f (f + 1) vertices vertexShader scratchpad gpu cpu
      (chainPayload base b f (f + 1) false zeroes mode) (chainPayload base b f (f + 1) true zeroes mode) m
  | .fragment b heap scratchpad => FragmentLaid base b heap scratchpad m
  | .replay b tilerJc fragmentJc heap => MaliJdReplayPayload.load m (slot base b) = replayPayload tilerJc fragmentJc heap

def Found (env : Env 32) : Job → Prop
  | .vertexTiler _ _ vertexShader _ _ gpu cpu => Resolves env gpu cpu (importedLength vertexShader)
  | _ => True

def marks (base : BitVec 32) : Job → List Mark
  | .vertexTiler b vertices _ _ scratchpad gpu _ =>
    let f := b + (2 + vertices.kilobytes)
    [.descriptor (jobAddress base (f + 1)) jobTypeSetValue.toNat, .setValue (scratchpad + svOffset),
      .descriptor (jobAddress base (f + 2)) jobTypeVertex.toNat, .shader gpu, .attribute 0#64,
      .framebuffer (jobAddress base f), .descriptor (jobAddress base (f + 11)) jobTypeTiler.toNat]
  | .fragment b _ _ =>
    [.descriptor (jobAddress base b) jobTypeFragment.toNat, .framebuffer (jobAddress base (b + 1))]
  | .replay .. => []

def traced (env : Env 32) (base : BitVec 32) : Job → Proc 32 → Proc 32
  | .vertexTiler b vertices .., s => flared env base b vertices s
  | _, s => s

def Names (base : BitVec 32) (job : Job) (atom : MaliJdAtomV2 32) : Prop :=
  atom.jc = jobAddress base job.start ∧ atom.coreReq = job.coreReq

theorem start_lt (job : Job) : job.start < job.behind := by
  cases job with
  | vertexTiler b vertices => exact Nat.add_lt_add_left (by decide) (b + (2 + vertices.kilobytes))
  | fragment b => exact Nat.lt_add_of_pos_right (by decide)
  | replay b => exact Nat.lt_succ_self b

theorem first_le (job : Job) : job.first ≤ job.behind := by
  cases job with
  | vertexTiler b vertices => exact Nat.le_trans (Nat.le_add_right b _) (Nat.le_add_right _ 20)
  | fragment b => exact Nat.le_add_right b 2
  | replay b => exact Nat.le_succ b

section Trace

variable {base : BitVec 32} {env : Env 32} {s : Proc 32} {m m' : Memory 32} {R : Set (BitVec 32)} {job : Job}

theorem Stands.keep (stands : job.Stands base m) (placed : Placed base) (inside : job.behind ≤ arenaSlots)
    (changes : Changes R m m') (apart : Disjoint (slots base job.first job.behind ∪ job.code) R) : job.Stands base m' := by
  have arena : Disjoint (slots base job.first job.behind) R := apart.mono_left Set.subset_union_left
  have same (i : Nat) (low : job.first ≤ i) (high : i < job.behind) (width off : Nat) (part : off + width / 8 ≤ 0x400) :
      m'.read width (slot base i) off = m.read width (slot base i) off :=
    placed.read_apart changes (arena.mono_left (slots_mono low high)) (by omega) part
  cases job with
  | vertexTiler b vertices vertexShader mode scratchpad gpu cpu =>
    obtain ⟨zeroes, chain⟩ := stands
    refine ⟨zeroes, chain.keep (l := b + (2 + vertices.kilobytes) + 20) (by omega) (by omega) same ?_⟩
    exact changes.bytes (Nat.le_of_lt vertexShader.fits) (apart.mono_left Set.subset_union_right)
  | fragment b heap scratchpad => exact FragmentLaid.keep stands same
  | replay b tilerJc fragmentJc heap =>
    refine (load_replay_congr fun width off part => same b (Nat.le_refl b) (Nat.lt_succ_self b) width off ?_).trans stands
    unfold MaliJdReplayPayload.size at part
    omega

theorem traced_changes (placed : Placed base) (resolves : ArenaResolves env base) (inside : job.behind ≤ arenaSlots)
    (s : Proc 32) : Changes (slots base job.first job.behind) s.mem (job.traced env base s).mem := by
  cases job with
  | vertexTiler b vertices =>
    have room : b + (2 + vertices.kilobytes) + 20 ≤ arenaSlots := inside
    apply (flared_changes placed resolves (by omega) s).mono
    exact slots_mono (Nat.le_succ b) (Nat.le_add_right _ _)
  | _ => exact Changes.refl _ s.mem

theorem Stands.yields (stands : job.Stands base s.mem) (placed : Placed base) (resolves : ArenaResolves env base)
    (positive : 0 < job.first) (inside : job.behind ≤ arenaSlots) (clean : job.Clean base) (found : job.Found env) :
    Yields (fun n => chaiTraceAtom env n (jobAddress base job.start) job.coreReq) s (job.marks base) ()
      (job.traced env base s) := by
  cases job with
  | vertexTiler b vertices vertexShader mode scratchpad gpu cpu =>
    have some : 0 < b := positive
    have room : b + (2 + vertices.kilobytes) + 1 + 19 ≤ arenaSlots := inside
    have hard : (maliJdReqCs ||| maliJdReqT ||| maliJdReqCf ||| maliJdReqCoherentGroup) &&& maliJdReqSoftJob = 0#32 := by
      decide
    obtain ⟨zeroes, chain⟩ := stands
    obtain ⟨untrapped, aligned, nonnull⟩ := clean
    exact (yields_chainAtom env hard).mpr (chain_yields placed resolves some (Nat.le_refl _) (Nat.lt_succ_self _) room
      chain untrapped aligned found nonnull)
  | fragment b heap scratchpad =>
    have hard : (Driver.maliJdReqExternalResources ||| Driver.maliJdReqFs) &&& maliJdReqSoftJob = 0#32 := by decide
    exact (yields_chainAtom env hard).mpr (fragment_yields placed positive inside resolves stands)
  | replay b tilerJc fragmentJc heap =>
    have some : 0 < b := positive
    have room : b + 1 ≤ arenaSlots := inside
    have soft : (Driver.maliJdReqExternalResources ||| maliJdReqSoftReplay) &&& maliJdReqSoftJob ≠ 0#32 ∧
        (Driver.maliJdReqExternalResources ||| maliJdReqSoftReplay) &&& maliJdReqSoftReplay ≠ 0#32 := ⟨by decide, by decide⟩
    apply yields_replayAtom env soft
    rw [Mapped, start, jobAddress, fetch_slot placed resolves some (by decide) (by unfold MaliJdReplayPayload.size; omega)]
    exact placed.slot_ne_zero positive (by omega)

end Trace

/-- What panwrap shows of the chain besides the marks: jobs in an order they can run in, the framebuffer and the code
    that they name, or the jobs that are run again. -/
def Shown (env : Env 32) (base : BitVec 32) (m : Memory 32) : Job → Prop
  | .vertexTiler b vertices vertexShader _ scratchpad gpu _ =>
    let f := b + (2 + vertices.kilobytes)
    Ordered ([f + 1, f + 2, f + 11].map fun i => JobDescriptorHeader.load m (headerOf env (jobAddress base i))) ∧
      (TentativeMfbd.load m (fetchMappedGpu env.mmaps (jobAddress base f) (BitVec.ofNat 32 TentativeMfbd.size))).block2 0 =
        scratchpad + svOffset ∧
      m.bytes (fetchMappedGpu env.mmaps gpu (BitVec.ofNat 32 (0x880 - 0x540))) vertexShader.bytes.length = vertexShader.bytes
  | .fragment b heap scratchpad =>
    FragmentFbd heap scratchpad (TentativeMfbd.load m
      (fetchMappedGpu env.mmaps (jobAddress base (b + 1)) (BitVec.ofNat 32 TentativeMfbd.size)))
  | .replay b tilerJc fragmentJc heap =>
    MaliJdReplayPayload.load m (fetchMappedGpu env.mmaps (jobAddress base b) (BitVec.ofNat 32 MaliJdReplayPayload.size)) =
      replayPayload tilerJc fragmentJc heap

theorem Stands.shown {base : BitVec 32} {env : Env 32} {m : Memory 32} {job : Job} (stands : job.Stands base m)
    (placed : Placed base) (resolves : ArenaResolves env base) (positive : 0 < job.first) (inside : job.behind ≤ arenaSlots)
    (found : job.Found env) : job.Shown env base m := by
  cases job with
  | vertexTiler b vertices vertexShader mode scratchpad gpu cpu =>
    have room : b + (2 + vertices.kilobytes) + 20 ≤ arenaSlots := inside
    obtain ⟨zeroes, chain⟩ := stands
    refine ⟨?_, ?_, ?_⟩
    · rw [List.map_cons, List.map_cons, List.map_cons, List.map_nil, header_found placed (by omega) resolves (by omega),
        header_found placed (by omega) resolves (by omega), header_found placed (by omega) resolves (by omega), chain.set, chain.vertex.header,
        chain.tiler.header]
      exact chain_ordered ⟨rfl, rfl, rfl⟩ ⟨rfl, rfl⟩ ⟨rfl, rfl⟩ ⟨rfl, rfl⟩
    · rw [jobAddress, fetch_slot placed resolves (by omega) (by decide) (by unfold TentativeMfbd.size; omega)]
      exact chain.framebuffer
    · rw [shader_page found]
      exact chain.code
  | fragment b heap scratchpad =>
    have room : b + 2 ≤ arenaSlots := inside
    rw [Shown, jobAddress, fetch_slot placed resolves (Nat.succ_pos b) (by decide) (by unfold TentativeMfbd.size; omega)]
    exact stands.framebuffer
  | replay b tilerJc fragmentJc heap =>
    have some : 0 < b := positive
    have room : b + 1 ≤ arenaSlots := inside
    rw [Shown, jobAddress, fetch_slot placed resolves some (by decide) (by unfold MaliJdReplayPayload.size; omega)]
    exact stands

end Job

/-- The memory holds the chains that a batch names, one behind the other. -/
structure JobsLaid (base : BitVec 32) (jobs : List Job) (atoms : List (MaliJdAtomV2 32)) (m : Memory 32) : Prop where
  stands : ∀ job ∈ jobs, job.Stands base m
  ordered : jobs.Pairwise fun job later => job.behind ≤ later.first
  inside : ∀ job ∈ jobs, 0 < job.first ∧ job.behind ≤ arenaSlots
  apart : ∀ job ∈ jobs, Disjoint (slots base 0 arenaSlots) job.code
  clean : ∀ job ∈ jobs, job.Clean base
  named : List.Forall₂ (Job.Names base) jobs atoms

def batchMarks (base : BitVec 32) : Nat → List Job → List Mark
  | _, [] => []
  | i, job :: rest => .atom i :: job.marks base ++ batchMarks base (i + 1) rest

def batchTraced (env : Env 32) (base : BitVec 32) (jobs : List Job) (s : Proc 32) : Proc 32 :=
  jobs.foldl (fun s job => job.traced env base s) s

section Batch

variable {base ptr p : BitVec 32} {env : Env 32} {s : Proc 32} {m m' : Memory 32} {jobs : List Job}
  {atoms : List (MaliJdAtomV2 32)}

theorem JobsLaid.keep {R : Set (BitVec 32)} (laid : JobsLaid base jobs atoms m) (placed : Placed base) (changes : Changes R m m')
    (apart : ∀ job ∈ jobs, Disjoint (slots base job.first job.behind ∪ job.code) R) : JobsLaid base jobs atoms m' where
  stands := fun job member => (laid.stands job member).keep placed (laid.inside job member).2 changes (apart job member)
  ordered := laid.ordered
  inside := laid.inside
  apart := laid.apart
  clean := laid.clean
  named := laid.named

theorem JobsLaid.rest {job : Job} {atom : MaliJdAtomV2 32} (laid : JobsLaid base (job :: jobs) (atom :: atoms) s.mem)
    (placed : Placed base) (resolves : ArenaResolves env base) :
    JobsLaid base jobs atoms (job.traced env base s).mem := by
  obtain ⟨ahead, ordered⟩ := List.pairwise_cons.mp laid.ordered
  have inside := (List.forall_mem_cons.mp laid.inside).1.2
  have later : JobsLaid base jobs atoms s.mem := {
    stands := (List.forall_mem_cons.mp laid.stands).2
    ordered := ordered
    inside := (List.forall_mem_cons.mp laid.inside).2
    apart := (List.forall_mem_cons.mp laid.apart).2
    clean := (List.forall_mem_cons.mp laid.clean).2
    named := (List.forall₂_cons.mp laid.named).2 }
  apply later.keep placed (Job.traced_changes placed resolves inside s)
  intro other member
  rw [Set.disjoint_union_left]
  refine ⟨slots_disjoint (.inr (ahead other member)), ?_⟩
  exact (later.apart other member).symm.mono_right (slots_mono (Nat.zero_le _) inside)

theorem JobsLaid.loop_yields (done : List (MaliJdAtomV2 32)) (laid : JobsLaid base jobs atoms s.mem) (placed : Placed base)
    (resolves : ArenaResolves env base) (tracked : ∀ i < arenaSlots, Gated env (jobAddress base i))
    (found : ∀ job ∈ jobs, job.Found env) (batch : BatchLaid s.mem ptr p (done ++ atoms))
    (small : MaliJdAtomV2.size * (done ++ atoms).length ≤ 2 ^ 32)
    (apart : Disjoint (batchRegion ptr p (done ++ atoms).length) (slots base 0 arenaSlots)) :
    Yields (fun n => loop (traceSubmittedAtom env ptr p) n (BitVec.ofNat 32 done.length)) s (batchMarks base done.length jobs) ()
      (batchTraced env base jobs s) := by
  induction jobs generalizing done atoms s with
  | nil =>
    obtain rfl : atoms = [] := List.forall₂_nil_left_iff.mp laid.named
    rw [List.append_nil] at batch
    exact batch.last
  | cons job rest ih =>
    obtain ⟨atom, others, names, named, rfl⟩ := List.forall₂_cons_left_iff.mp laid.named
    have inside := (List.forall_mem_cons.mp laid.inside).1
    have stands : job.Stands base s.mem := laid.stands job List.mem_cons_self
    have start : job.start < arenaSlots := Nat.lt_of_lt_of_le job.start_lt inside.2
    have member : (done ++ atom :: others)[done.length]? = some atom := by
      rw [List.getElem?_append_right (Nat.le_refl _), Nat.sub_self]
      rfl
    have step := stands.yields placed resolves inside.1 inside.2
      (laid.clean job List.mem_cons_self) (found job List.mem_cons_self)
    rw [← names.1, ← names.2] at step
    have changes := job.traced_changes placed resolves inside.2 s
    have kept := batch_keep batch changes (apart.mono_right (slots_mono (Nat.zero_le _) inside.2)) small
    have split : done ++ atom :: others = (done ++ [atom]) ++ others := by
      rw [List.append_assoc]
      rfl
    have length : (done ++ [atom]).length = done.length + 1 := List.length_append
    rw [split] at kept small apart
    have later := ih _ (laid.rest placed resolves) (fun job member => found job (List.mem_cons_of_mem _ member)) kept small apart
    rw [length] at later
    exact batch.next member (by rw [names.1]; exact tracked _ start) step later

/-- Tracing the submission of a batch finds its chains, one after the other. -/
theorem JobsLaid.yields (laid : JobsLaid base jobs atoms s.mem) (placed : Placed base) (resolves : ArenaResolves env base)
    (tracked : ∀ i < arenaSlots, Gated env (jobAddress base i)) (found : ∀ job ∈ jobs, job.Found env)
    (batch : BatchLaid s.mem ptr p atoms) (small : MaliJdAtomV2.size * atoms.length ≤ 2 ^ 32)
    (apart : Disjoint (batchRegion ptr p atoms.length) (slots base 0 arenaSlots)) :
    Yields (fun n => ioctlDecodePreJobSubmit env n ptr) s (batchMarks base 0 jobs) () (batchTraced env base jobs s) :=
  batch.submission (laid.loop_yields [] placed resolves tracked found batch small apart)

end Batch

end Driver
