import Pantry.Driver.Jobs
import Pantry.Driver.Numbering

/-! Any work that is asked of the driver, and what panwrap finds of it. -/

namespace Driver

open Machine Panwrap Decoder Program

/-- The driver at work: the arena is free from slot `k` on, and the queue names chains that stand before it. -/
structure Working (base : BitVec 32) (k : Nat) (jobs : List Job) (d : State) : Prop where
  arena : Arena base k d
  started : 0 < k
  laid : JobsLaid base jobs d.queued d.mem
  before : ∀ job ∈ jobs, job.behind ≤ k
  room : d.queued.length < atomQueueMax

structure Adds (base : BitVec 32) (jobs : List Job) (job : Job) (atom : MaliJdAtomV2 32) (d : State) (events : List Event)
    (d' : State) : Prop where
  arena : Arena base job.behind d'
  submits : submitted events = [atom]
  takes : Takes atomQueueMax atom d.queued (batches events) d'.queued
  laid : JobsLaid base (jobs ++ [job]) (d.queued ++ [atom]) d'.mem
  before : ∀ other ∈ jobs, other.behind ≤ job.first

section Work

variable {kernel : Kernel} {fd base : BitVec 32} {k : Nat} {d d' : State} {jobs : List Job} {job : Job}
  {atom : MaliJdAtomV2 32} {events : List Event}

theorem jobsLaid_nil (m : Memory 32) : JobsLaid base [] [] m where
  stands := fun _ none => absurd none List.not_mem_nil
  ordered := .nil
  inside := fun _ none => absurd none List.not_mem_nil
  apart := fun _ none => absurd none List.not_mem_nil
  clean := fun _ none => absurd none List.not_mem_nil
  named := .nil

theorem working_start (arena : Arena base k d) (started : 0 < k) (empty : d.atomQueueSize = 0) : Working base k [] d where
  arena := arena
  started := started
  laid := by
    rw [queued_empty empty]
    exact jobsLaid_nil d.mem
  before := fun _ none => absurd none List.not_mem_nil
  room := by
    rw [queued_empty empty]
    decide

theorem Working.laid_snoc (working : Working base k jobs d) {other : Set (BitVec 32)} (behind : job.first = k)
    (inside : job.behind ≤ arenaSlots) (clean : job.Clean base) (code : Disjoint (slots base 0 arenaSlots) job.code)
    (later : Later base k other d.mem d'.mem) (apart : Disjoint (slots base 0 arenaSlots) other)
    (codes : ∀ earlier ∈ jobs, Disjoint earlier.code other) (stands : job.Stands base d'.mem) (names : job.Names base atom) :
    JobsLaid base (jobs ++ [job]) (d.queued ++ [atom]) d'.mem := by
  have kept : JobsLaid base jobs d.queued d'.mem := by
    apply working.laid.keep working.arena.cursor.placed later
    intro earlier member
    have before := working.before earlier member
    have all : slots base earlier.first earlier.behind ⊆ slots base 0 arenaSlots :=
      slots_mono (Nat.zero_le _) (working.laid.inside earlier member).2
    rw [Set.disjoint_union_left, Set.disjoint_union_right, Set.disjoint_union_right]
    refine ⟨⟨slots_disjoint (.inl before), apart.mono_left all⟩, ?_, codes earlier member⟩
    exact ((working.laid.apart earlier member).mono_left (slots_mono (Nat.zero_le k) (Nat.le_refl _))).symm
  have ahead : ∀ earlier ∈ jobs, earlier.behind ≤ job.first := by
    rw [behind]
    exact working.before
  exact {
    stands := List.forall_mem_append.mpr ⟨kept.stands, List.forall_mem_singleton.mpr stands⟩
    ordered := by
      rw [List.pairwise_append]
      refine ⟨kept.ordered, List.pairwise_singleton _ _, ?_⟩
      intro earlier member
      exact List.forall_mem_singleton.mpr (ahead earlier member)
    inside := by
      refine List.forall_mem_append.mpr ⟨kept.inside, List.forall_mem_singleton.mpr ⟨?_, inside⟩⟩
      rw [behind]
      exact working.started
    apart := List.forall_mem_append.mpr ⟨kept.apart, List.forall_mem_singleton.mpr code⟩
    clean := List.forall_mem_append.mpr ⟨kept.clean, List.forall_mem_singleton.mpr clean⟩
    named := List.rel_append kept.named (.cons names .nil) }

theorem Adds.working (adds : Adds base jobs job atom d events d') :
    Working base job.behind (if batches events = [] then jobs ++ [job] else []) d' := by
  have positive : 0 < job.behind := Nat.lt_of_le_of_lt (Nat.zero_le _) job.start_lt
  have takes := adds.takes
  generalize batches events = sent at takes ⊢
  generalize queue : d'.queued = left at takes
  cases takes with
  | more room =>
    rw [if_pos rfl]
    refine ⟨adds.arena, positive, by rw [queue]; exact adds.laid, ?_, ?_⟩
    · have order : ∀ other ∈ jobs, other.behind ≤ job.behind := by
        intro other member
        exact (adds.before other member).trans job.first_le
      exact List.forall_mem_append.mpr ⟨order, List.forall_mem_singleton.mpr (Nat.le_refl _)⟩
    · rw [queue, List.length_append]
      exact room
  | full all =>
    rw [if_neg (List.cons_ne_nil _ _)]
    refine ⟨adds.arena, positive, ?_, fun _ none => absurd none List.not_mem_nil, ?_⟩
    · rw [queue]
      exact jobsLaid_nil d'.mem
    · rw [queue]
      decide

theorem Adds.kept (adds : Adds base jobs job atom d events d') (room : d.queued.length + 1 < atomQueueMax) :
    batches events = [] ∧ d'.queued = d.queued ++ [atom] ∧ Working base job.behind (jobs ++ [job]) d' := by
  obtain ⟨silent, queued⟩ := adds.takes.kept room
  have working := adds.working
  rw [if_pos silent] at working
  exact ⟨silent, queued, working⟩

theorem Adds.sends (adds : Adds base jobs job atom d events d') {batch : List (MaliJdAtomV2 32)}
    (sent : batch ∈ batches events) : JobsLaid base (jobs ++ [job]) batch d'.mem ∧ batch.length ≤ atomQueueMax := by
  have takes := adds.takes
  generalize batches events = all at takes sent
  generalize d'.queued = left at takes
  cases takes with
  | more => cases sent
  | full all =>
    obtain rfl := List.mem_singleton.mp sent
    rw [List.length_append]
    exact ⟨adds.laid, Nat.le_of_eq all⟩

section Calls

variable {resource tilerJc fragmentJc mode cpu cpu' : BitVec 32} {vertices vertexShader fragmentShader : Buffer}
  {heap scratchpad framebuffer gpu gpu' : BitVec 64} (working : Working base k jobs d)
include working

theorem Working.queue : d.atomQueueSize < atomQueueMax := by
  rw [← queued_length]
  exact working.room

theorem Working.vertexTiler (room : k + (22 + vertices.kilobytes) ≤ arenaSlots)
    (serves : Serves kernel base d vertexShader fragmentShader gpu gpu' cpu cpu')
    (clean : (Job.vertexTiler k vertices vertexShader mode scratchpad gpu cpu).Clean base)
    (codes : ∀ earlier ∈ jobs, Disjoint earlier.code
      (region cpu vertexShader.bytes.length ∪ region cpu' fragmentShader.bytes.length)) :
    Meets (jobChainVertexTiler kernel fd vertices mode vertexShader fragmentShader heap scratchpad) d fun events packet d' =>
      packet = slot base (k + (2 + vertices.kilobytes) + 11) ∧ d'.atomCount = d.atomCount + 1#32 ∧
        Adds base jobs (.vertexTiler k vertices vertexShader mode scratchpad gpu cpu)
          (vertexTilerAtom (jobAddress base (k + (2 + vertices.kilobytes) + 1)) ((d.atomCount + 1#32).setWidth 8)) d events d' := by
  have chains : Chains kernel _ d.atomCount (d.atomCount + 1#32)
      (jobChainVertexTiler kernel fd vertices mode vertexShader fragmentShader heap scratchpad) := jobChainVertexTiler_chains
  refine ((jobChainVertexTiler_leaves working.arena room serves).and (chains.submits d rfl)).mono ?_
  intro events packet d' built
  obtain ⟨⟨rfl, atoms, stands, arena, later⟩, atom, atoms', -, takes, count⟩ := built
  obtain rfl := List.cons.inj (atoms'.symm.trans atoms) |>.1
  have codesApart := Set.disjoint_union_right.mpr ⟨serves.vertexApart, serves.fragmentApart⟩
  have inside : (Job.vertexTiler k vertices vertexShader mode scratchpad gpu cpu).behind ≤ arenaSlots := by
    change k + (2 + vertices.kilobytes) + 20 ≤ arenaSlots
    omega
  exact ⟨rfl, count, arena, atoms, takes,
    working.laid_snoc rfl inside clean serves.vertexApart later codesApart codes stands ⟨rfl, rfl⟩, working.before⟩

theorem Working.fragment (room : k + 2 ≤ arenaSlots) (accepts : ∀ n, kernel.jobSubmit n = true)
    (apart : Disjoint (slots base 0 arenaSlots) (region resource 8))
    (codes : ∀ earlier ∈ jobs, Disjoint earlier.code (region resource 8)) :
    Meets (jobChainFragment kernel fd framebuffer heap scratchpad resource) d fun events packet d' =>
      packet = slot base k ∧ d'.atomCount = d.atomCount + 1#32 ∧
        Adds base jobs (.fragment k heap scratchpad) (fragmentChainAtom base k resource d.atomCount) d events d' := by
  have chains : Chains kernel _ d.atomCount (d.atomCount + 1#32)
      (jobChainFragment kernel fd framebuffer heap scratchpad resource) := jobChainFragment_chains
  refine ((jobChainFragment_meets working.arena room apart working.queue fun _ => accepts _).and (chains.submits d rfl)).mono ?_
  intro events packet d' built
  obtain ⟨⟨rfl, atoms, stands, depends⟩, atom, atoms', -, takes, count⟩ := built
  obtain rfl := List.cons.inj (atoms'.symm.trans atoms) |>.1
  exact ⟨rfl, count, depends.arena, atoms, takes,
    working.laid_snoc rfl room trivial (Set.disjoint_empty _) depends.later apart codes stands ⟨rfl, rfl⟩, working.before⟩

theorem Working.replay (room : k + 1 ≤ arenaSlots) (accepts : ∀ n, kernel.jobSubmit n = true)
    (apart : Disjoint (slots base 0 arenaSlots) (region resource 8))
    (codes : ∀ earlier ∈ jobs, Disjoint earlier.code (region resource 8)) :
    Meets (jobChainReplay kernel fd tilerJc fragmentJc heap framebuffer resource) d fun events _ d' =>
      d'.atomCount = d.atomCount + 1#32 ∧
        Adds base jobs (.replay k tilerJc fragmentJc heap) (replayChainAtom base k resource d.atomCount) d events d' := by
  have chains : Chains kernel _ d.atomCount (d.atomCount + 1#32)
      (jobChainReplay kernel fd tilerJc fragmentJc heap framebuffer resource) := jobChainReplay_chains
  refine ((jobChainReplay_meets working.arena room apart working.queue fun _ => accepts _).and (chains.submits d rfl)).mono ?_
  intro events _ d' built
  obtain ⟨⟨atoms, stands, depends⟩, atom, atoms', -, takes, count⟩ := built
  obtain rfl := List.cons.inj (atoms'.symm.trans atoms) |>.1
  exact ⟨count, depends.arena, atoms, takes,
    working.laid_snoc rfl room trivial (Set.disjoint_empty _) depends.later apart codes stands ⟨rfl, rfl⟩, working.before⟩

theorem Working.flush : After (flushJobQueue kernel fd) d fun events _ d' =>
    batches events = flushed d.queued ∧ Working base k [] d' ∧ d'.mem = d.mem := by
  have kept : After (flushJobQueue kernel fd) d fun _ _ d' => d'.mem = d.mem ∧ d'.cbmaBottom = d.cbmaBottom := by
    unfold flushJobQueue ioctlJobSubmit printf
    rw [after_bind, after_get]
    split
    · simp only [after_bind, after_get, after_put, after_modify]
      split
      · rw [after_pure]
        exact ⟨rfl, rfl⟩
      · exact after_badIoctl
    · rw [after_put]
      exact ⟨rfl, rfl⟩
  intro events x d' runs
  obtain ⟨sent, -, empty, -⟩ := flushJobQueue_after events x d' runs
  obtain ⟨mem, bottom⟩ := kept events x d' runs
  refine ⟨sent, ⟨⟨?_, ?_⟩, working.started, ?_, fun _ none => absurd none List.not_mem_nil, ?_⟩, mem⟩
  · rw [bottom]
    exact working.arena.cursor
  · rw [mem]
    exact working.arena.zeroed
  · rw [empty]
    exact jobsLaid_nil d'.mem
  · rw [empty]
    decide

end Calls

end Work

structure Desk where
  next : Nat
  jobs : List Job
  state : State

/-- What a call does to a desk, as far as it is prepared for: the chains that wait once it has built its own, and the
    slot behind them. There is room for the chain, and the kernel grants what it takes apart from what waits already. -/
inductive Prepared (kernel : Kernel) (base : BitVec 32) (w : Desk) : JobCall → List Job → Nat → Prop where
  | vertexTiler {fd mode cpu cpu' : BitVec 32} {vertices vertexShader fragmentShader : Buffer}
      {heap scratchpad gpu gpu' : BitVec 64} (room : w.next + (22 + vertices.kilobytes) ≤ arenaSlots)
      (serves : Serves kernel base w.state vertexShader fragmentShader gpu gpu' cpu cpu')
      (clean : (Job.vertexTiler w.next vertices vertexShader mode scratchpad gpu cpu).Clean base)
      (codes : ∀ earlier ∈ w.jobs, Disjoint earlier.code
        (region cpu vertexShader.bytes.length ∪ region cpu' fragmentShader.bytes.length)) :
    Prepared kernel base w (.vertexTiler fd vertices mode vertexShader fragmentShader heap scratchpad)
      (w.jobs ++ [.vertexTiler w.next vertices vertexShader mode scratchpad gpu cpu])
      (w.next + (2 + vertices.kilobytes) + 20)
  | fragment {fd resource : BitVec 32} {framebuffer heap scratchpad : BitVec 64} (room : w.next + 2 ≤ arenaSlots)
      (apart : Disjoint (slots base 0 arenaSlots) (region resource 8))
      (codes : ∀ earlier ∈ w.jobs, Disjoint earlier.code (region resource 8)) :
    Prepared kernel base w (.fragment fd framebuffer heap scratchpad resource) (w.jobs ++ [.fragment w.next heap scratchpad])
      (w.next + 2)
  | replay {fd tilerJc fragmentJc resource : BitVec 32} {heap framebuffer : BitVec 64} (room : w.next + 1 ≤ arenaSlots)
      (apart : Disjoint (slots base 0 arenaSlots) (region resource 8))
      (codes : ∀ earlier ∈ w.jobs, Disjoint earlier.code (region resource 8)) :
    Prepared kernel base w (.replay fd tilerJc fragmentJc heap framebuffer resource)
      (w.jobs ++ [.replay w.next tilerJc fragmentJc heap]) (w.next + 1)
  | flush {fd : BitVec 32} : Prepared kernel base w (.flush fd) w.jobs w.next

structure Work where
  call : JobCall
  events : List Event
  jobs : List Job

structure WorkStep (kernel : Kernel) (base : BitVec 32) (w : Desk) (work : Work) (w' : Desk) : Prop where
  prepared : Prepared kernel base w work.call work.jobs w'.next
  runs : JobStep kernel w.state (work.call, work.events) w'.state
  left : w'.jobs = if batches work.events = [] then work.jobs else []

/-- The submission at `ptr` decodes to the chains: tracing it finds one after the other, and shows what they are. -/
def BatchDecodes (env : Env 32) (base : BitVec 32) (s : Proc 32) (ptr : BitVec 32) (jobs : List Job) : Prop :=
  Yields (fun n => ioctlDecodePreJobSubmit env n ptr) s (batchMarks base 0 jobs) () (batchTraced env base jobs s) ∧
    ∀ job ∈ jobs, job.Shown env base s.mem

def codes (jobs : List Job) : Set (BitVec 32) := { a | ∃ job ∈ jobs, a ∈ job.code }

theorem codes_singleton (job : Job) : codes [job] = job.code := by
  ext a
  simp [codes]

section Triangle

theorem arena_gated {env : Env 32} {block : MappedMemory 32} {i : Nat} (placed : Placed block.addr) (member : block ∈ env.mmaps)
    (length : block.length.toNat = 0x400 * arenaSlots) (inner : block.addr.toNat + 0x400 * arenaSlots < 2 ^ 32)
    (inside : i < arenaSlots) : Gated env (jobAddress block.addr i) := by
  have value := slot_value placed inside
  have stop : (block.addr + block.length).toNat = block.addr.toNat + 0x400 * arenaSlots := by
    rw [BitVec.toNat_add, length]
    exact Nat.mod_eq_of_lt inner
  rw [Gated, findMappedMemContaining, List.find?_isSome]
  refine ⟨block, member, ?_⟩
  rw [jobAddress, BitVec.setWidth_setWidth_of_le _ (by decide), BitVec.setWidth_eq, MappedMemory.cpuContains,
    Bool.and_eq_true, decide_eq_true_iff, decide_eq_true_iff, BitVec.le_def, BitVec.le_def, stop, value]
  constructor
  · exact Nat.le_add_right _ _
  · omega

theorem tracedMappings_gated {i : Nat} (inside : i < arenaSlots) : Gated tracedMappings (jobAddress 0x11000000#32 i) := by
  have placed : Placed arenaMapping.addr := initialised_arena.cursor.placed
  have member : arenaMapping ∈ tracedMappings.mmaps := List.mem_cons_self
  have length : arenaMapping.length.toNat = 0x400 * arenaSlots := by decide
  have inner : arenaMapping.addr.toNat + 0x400 * arenaSlots < 2 ^ 32 := by decide
  have gated := arena_gated placed member length inner inside
  exact gated

def triangleJob : Job := .vertexTiler 1 triangle tinyShader 4#32 0x30000000#64 0x24000000#64 0x15000000#32

theorem triangleJob_clean : triangleJob.Clean 0x11000000#32 := ⟨by decide, by decide, by decide⟩

theorem triangle_prepared :
    Prepared spreadingKernel 0x11000000#32 ⟨1, [], initialised⟩
      (.vertexTiler 3#32 triangle 4#32 tinyShader tinyShader 0x40000000#64 0x30000000#64) [triangleJob] triangleJob.behind :=
  .vertexTiler (by decide) spreadingKernel_serves triangleJob_clean fun _ member => absurd member List.not_mem_nil

end Triangle

section Runs

variable {kernel : Kernel} {base : BitVec 32} {k : Nat} {w w' : Desk} {work : Work} {events : List Event} {d d' : State}
  {works : List Work} {batch : List (MaliJdAtomV2 32)}

theorem runs_of_void {α : Type} {p : Drive α} (runs : Runs (do let _ ← p; pure ()) d events () d') :
    ∃ x, Runs p d events x d' := by
  obtain ⟨first, x, _, rest, ran, last, rfl⟩ := runs_bind.mp runs
  obtain ⟨rfl, -, rfl⟩ := runs_pure.mp last
  rw [List.append_nil]
  exact ⟨x, ran⟩

theorem WorkStep.working (step : WorkStep kernel base w work w') (accepts : ∀ n, kernel.jobSubmit n = true)
    (working : Working base w.next w.jobs w.state) :
    Working base w'.next w'.jobs w'.state ∧
      ∀ batch ∈ batches work.events, JobsLaid base work.jobs batch w'.state.mem ∧ batch.length ≤ atomQueueMax := by
  obtain ⟨prepared, runs, left⟩ := step
  have chain {job : Job} {atom : MaliJdAtomV2 32} (jobs : work.jobs = w.jobs ++ [job]) (next : w'.next = job.behind)
      (adds : Adds base w.jobs job atom w.state work.events w'.state) :
      Working base w'.next w'.jobs w'.state ∧
        ∀ batch ∈ batches work.events, JobsLaid base work.jobs batch w'.state.mem ∧ batch.length ≤ atomQueueMax := by
    rw [left, jobs, next]
    exact ⟨adds.working, fun batch sent => adds.sends sent⟩
  obtain ⟨call, events, jobs⟩ := work
  obtain ⟨next, jobs', d'⟩ := w'
  dsimp only at prepared runs left chain ⊢
  cases prepared with
  | vertexTiler room serves clean codes =>
    obtain ⟨packet, ran⟩ := runs_of_void runs
    exact chain rfl rfl (ran.meets.mp (working.vertexTiler room serves clean codes)).2.2
  | fragment room apart codes =>
    obtain ⟨packet, ran⟩ := runs_of_void runs
    exact chain rfl rfl (ran.meets.mp (working.fragment room accepts apart codes)).2.2
  | replay room apart codes => exact chain rfl rfl (runs.meets.mp (working.replay room accepts apart codes)).2
  | flush =>
    obtain ⟨sent, kept, mem⟩ := working.flush events () d' runs
    have laid := working.laid
    have room := working.room
    rw [← mem] at laid
    rw [left, sent]
    cases queue : w.state.queued with
    | nil =>
      rw [queue] at laid
      have none : w.jobs = [] := List.forall₂_nil_right_iff.mp laid.named
      rw [none]
      exact ⟨kept, fun _ member => absurd member List.not_mem_nil⟩
    | cons atom rest =>
      rw [queue] at laid room
      exact ⟨kept, List.forall_mem_singleton.mpr ⟨laid, Nat.le_of_lt room⟩⟩

theorem JobsLaid.decodes {env : Env 32} {s : Proc 32} {ptr p : BitVec 32} {jobs : List Job} {m : Memory 32}
    (laid : JobsLaid base jobs batch m) (placed : Placed base) (small : MaliJdAtomV2.size * batch.length ≤ 2 ^ 32)
    (resolves : ArenaResolves env base) (tracked : ∀ i < arenaSlots, Gated env (jobAddress base i))
    (found : ∀ job ∈ jobs, job.Found env) (hands : HandsIn (slots base 0 arenaSlots ∪ codes jobs) batch m s.mem ptr p) :
    BatchDecodes env base s ptr jobs := by
  have kept : JobsLaid base jobs batch s.mem := by
    apply laid.keep placed hands.changes
    intro job member
    apply hands.apart.symm.mono_left
    have all : slots base job.first job.behind ⊆ slots base 0 arenaSlots :=
      slots_mono (Nat.zero_le _) (laid.inside job member).2
    exact Set.union_subset_union all fun a inside => ⟨job, member, inside⟩
  refine ⟨kept.yields placed resolves tracked found hands.batch small (hands.apart.mono_right Set.subset_union_left), ?_⟩
  intro job member
  have stands : job.Stands base s.mem := kept.stands job member
  exact stands.shown placed resolves (kept.inside job member).1 (kept.inside job member).2 (found job member)

theorem work_working (accepts : ∀ n, kernel.jobSubmit n = true) (run : Run (WorkStep kernel base) w works w')
    (working : Working base w.next w.jobs w.state) : Working base w'.next w'.jobs w'.state := by
  induction run with
  | nil => exact working
  | cons step _ ih => exact ih (step.working accepts working).1

/-- Whatever chains a program has the driver build, in whatever order, and whenever the queue is sent: each batch
    decodes to the chains that were built for it. -/
theorem work_decodes (accepts : ∀ n, kernel.jobSubmit n = true) (start : Working base k [] d)
    (run : Run (WorkStep kernel base) ⟨k, [], d⟩ works w) (step : WorkStep kernel base w work w')
    (sent : batch ∈ batches work.events) {env : Env 32} {s : Proc 32} {ptr p : BitVec 32} (resolves : ArenaResolves env base)
    (tracked : ∀ i < arenaSlots, Gated env (jobAddress base i)) (found : ∀ job ∈ work.jobs, job.Found env)
    (hands : HandsIn (slots base 0 arenaSlots ∪ codes work.jobs) batch w'.state.mem s.mem ptr p) :
    BatchDecodes env base s ptr work.jobs := by
  obtain ⟨laid, length⟩ := (step.working accepts (work_working accepts run start)).2 batch sent
  have small : MaliJdAtomV2.size * batch.length ≤ 2 ^ 32 :=
    (Nat.mul_le_mul_left _ length).trans (Nat.le_of_ble_eq_true rfl)
  exact laid.decodes start.arena.cursor.placed small resolves tracked found hands

theorem triangle_work_decodes :
    ∃ work batch w w' works, Run (WorkStep spreadingKernel 0x11000000#32) ⟨1, [], initialised⟩ works w ∧
      WorkStep spreadingKernel 0x11000000#32 w work w' ∧ batches work.events = [batch] ∧ work.jobs = [triangleJob] ∧
      BatchDecodes tracedMappings 0x11000000#32 ⟨handedIn w'.state.mem 0x8000#32 0x8100#32 batch, 0⟩ 0x8000#32 work.jobs := by
  have start : Working 0x11000000#32 1 [] initialised := working_start initialised_arena (by decide) rfl
  have build : Meets (jobChainVertexTiler spreadingKernel 3#32 triangle 4#32 tinyShader tinyShader 0x40000000#64 0x30000000#64)
      initialised _ :=
    start.vertexTiler (by decide) spreadingKernel_serves triangleJob_clean fun _ member => absurd member List.not_mem_nil
  obtain ⟨e₁, packet, d₁, runs₁, -, -, adds⟩ := build
  obtain ⟨silent, queued, working⟩ := adds.kept (by decide)
  have waits : d₁.atomQueueSize ≠ 0 := by
    rw [← queued_length, queued]
    exact Nat.succ_ne_zero 0
  have flush : Meets (flushJobQueue spreadingKernel 3#32) d₁ _ := flushJobQueue_meets waits rfl
  obtain ⟨e₂, _, d₂, runs₂, -⟩ := flush
  have sent := (working.flush e₂ () d₂ runs₂).1
  rw [queued] at sent
  have built : JobStep spreadingKernel initialised
      (.vertexTiler 3#32 triangle 4#32 tinyShader tinyShader 0x40000000#64 0x30000000#64, e₁) d₁ :=
    runs_bind.mpr ⟨e₁, packet, d₁, [], runs₁, runs_pure.mpr ⟨rfl, rfl, rfl⟩, (List.append_nil e₁).symm⟩
  have first : WorkStep spreadingKernel 0x11000000#32 ⟨1, [], initialised⟩
      ⟨.vertexTiler 3#32 triangle 4#32 tinyShader tinyShader 0x40000000#64 0x30000000#64, e₁, [triangleJob]⟩
      ⟨triangleJob.behind, [triangleJob], d₁⟩ :=
    ⟨triangle_prepared, built, (if_pos silent).symm⟩
  have second : WorkStep spreadingKernel 0x11000000#32 ⟨triangleJob.behind, [triangleJob], d₁⟩
      ⟨.flush 3#32, e₂, [triangleJob]⟩ ⟨triangleJob.behind, [], d₂⟩ :=
    ⟨.flush, runs₂, by rw [sent]; rfl⟩
  refine ⟨_, _, _, _, _, .single first, second, sent, rfl, ?_⟩
  have found : ∀ job ∈ [triangleJob], job.Found tracedMappings := List.forall_mem_singleton.mpr tracedMappings_shader
  have code : triangleJob.code = between 32 0x15000000 0x15000003 := region_between (by decide)
  have array : region 0x8100#32 (MaliJdAtomV2.size * 1) = between 32 0x8100 0x8130 := region_between (by decide)
  have argument : region 0x8000#32 24 = between 32 0x8000 0x8018 := region_between (by decide)
  have member : [vertexTilerAtom (jobAddress 0x11000000#32 triangleJob.start) 1#8] ∈ batches e₂ := by
    rw [sent]
    exact List.mem_singleton_self _
  apply work_decodes (p := 0x8100#32) (fun _ => rfl) start (.single first) second member tracedMappings_arena
    (fun _ => tracedMappings_gated) found
  apply handedIn_handsIn ⟨by decide, by decide⟩ (by decide)
  · change Disjoint (region 0x8000#32 24) (region 0x8100#32 (MaliJdAtomV2.size * 1))
    rw [array, argument]
    exact between_disjoint (by decide)
  · change Disjoint (batchRegion 0x8000#32 0x8100#32 1) (slots 0x11000000#32 0 arenaSlots ∪ codes [triangleJob])
    rw [batchRegion, array, argument, codes_singleton, code, Set.disjoint_union_left, Set.disjoint_union_right,
      Set.disjoint_union_right]
    exact ⟨⟨between_disjoint (by decide), between_disjoint (by decide)⟩,
      between_disjoint (by decide), between_disjoint (by decide)⟩

end Runs

end Driver
