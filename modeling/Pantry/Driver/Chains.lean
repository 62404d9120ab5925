import Pantry.Driver.Linked

namespace Driver

open Machine Panwrap Decoder Program

variable {kernel : Kernel} {fd base : BitVec 32} {k : Nat} {d : State}
  {vertices vertexShader fragmentShader : Buffer} {mode : BitVec 32}
  {heapFreeAddress scratchpad gpu gpu' : BitVec 64} {cpu cpu' : BitVec 32}

/-- The kernel grants what a call of `job_chain_vertex_tiler` asks for, at addresses apart from each other. -/
structure Serves (kernel : Kernel) (base : BitVec 32) (d : State) (vertexShader fragmentShader : Buffer)
    (gpu gpu' : BitVec 64) (cpu cpu' : BitVec 32) : Prop where
  zeroes : (kernel.memAlloc d.calls).isSome
  vertex : Imports kernel (d.calls + 2) gpu cpu
  fragment : Imports kernel (d.calls + 4) gpu' cpu'
  vertexApart : Disjoint (slots base 0 arenaSlots) (region cpu vertexShader.bytes.length)
  fragmentApart : Disjoint (slots base 0 arenaSlots) (region cpu' fragmentShader.bytes.length)
  shadersApart : Disjoint (region cpu vertexShader.bytes.length) (region cpu' fragmentShader.bytes.length)
  room : d.atomQueueSize < atomQueueMax
  submits : d.atomQueueSize + 1 = atomQueueMax → kernel.jobSubmit (d.calls + 6) = true

/-- What the memory of a chain holds: the attribute buffer at slot `b`, the framebuffer descriptor at slot `f` and
    the jobs from slot `k` on. -/
structure ChainLaid (base : BitVec 32) (b f k : Nat) (vertices vertexShader : Buffer) (scratchpad gpu : BitVec 64)
    (cpu : BitVec 32) (vertex tiler : PayloadVertexTiler32) (m : Memory 32) : Prop where
  attributes : AttributeBuffer.load m (slot base b) =
    ⟨(slot base (b + 1)).setWidth 64 ||| 1#64, BitVec.ofNat 32 (4 * xyzComponentCount), vertices.size⟩
  framebuffer : m.read 64 (slot base f) TentativeMfbd.block2Offset = scratchpad + svOffset
  set : JobDescriptorHeader.load m (slot base k) =
    { setValueHeader with nextJob := (slot base (k + 1)).setWidth 64, jobIndex := 3#16 }
  setValue : m.read 64 (slot base k) JobDescriptorHeader.size = scratchpad + svOffset
  vertex : JobLaid base (k + 1) { vertexTilerHeader false with
    nextJob := (slot base (k + 10)).setWidth 64
    jobIndex := 1#16
    jobDependencyIndex2 := 3#16 } vertex m
  shader : m.read 64 (slot base (k + 4)) ShaderMeta.shader = taggedShader gpu false
  metadata : m.read 64 (slot base (k + 5)) 0 = 0x2DEA2200#64 ∧ m.read 64 (slot base (k + 5)) 8 = 0#64
  tiler : JobLaid base (k + 10) { vertexTilerHeader true with jobIndex := 2#16, jobDependencyIndex1 := 1#16 } tiler m
  code : m.bytes cpu vertexShader.bytes.length = vertexShader.bytes

def chainPayload (base : BitVec 32) (b f k : Nat) (tiler : Bool) (zeroes mode : BitVec 32) : PayloadVertexTiler32 :=
  (payloadAt base (if tiler then k + 10 else k + 1) tiler (slot base f ||| BitVec.ofNat 32 fbdType) (slot base b) zeroes
    mode).finished tiler

section Memory

variable {b f : Nat} {other : Set (BitVec 32)} {m m₁ m₂ m₄ m₅ m₆ : Memory 32}

theorem imported_later {writes : List SlotWrite} {content : List Byte} {n : Nat} (placed : Placed base)
    (ends : ∀ e ∈ writes, e.Ends n) (room : k + n ≤ arenaSlots) (inside : region cpu content.length ⊆ other) :
    Later base k other m (wrote base k writes (m.store cpu content)) := by
  have stored : Later base k other m (m.store cpu content) :=
    (Changes.refl _ m).store (inside.trans Set.subset_union_right)
  exact stored.trans (wrote_later placed ends room) (Nat.le_refl k)

theorem chain_laid {zeroes : BitVec 32} (placed : Placed base) (room : f + 20 ≤ arenaSlots) (order : b < f)
    (vertexApart : Disjoint (slots base 0 arenaSlots) (region cpu vertexShader.bytes.length))
    (fragmentApart : Disjoint (slots base 0 arenaSlots) (region cpu' fragmentShader.bytes.length))
    (shadersApart : Disjoint (region cpu vertexShader.bytes.length) (region cpu' fragmentShader.bytes.length))
    (attributes : AttributeBuffer.load m₂ (slot base b) =
      ⟨(slot base (b + 1)).setWidth 64 ||| 1#64, BitVec.ofNat 32 (4 * xyzComponentCount), vertices.size⟩)
    (framebuffer : m₂.read 64 (slot base f) TentativeMfbd.block2Offset = scratchpad + svOffset)
    (set : m₄ = wrote base (f + 1) (setValueWrites (scratchpad + svOffset)) m₂) (fresh : Zeroed base (f + 2) m₄)
    (vertex : m₅ = wrote base (f + 2) (vertexTilerWrites false (taggedShader gpu false) (slot base (f + 10))
      (chainPayload base b f (f + 1) false zeroes mode)) (m₄.store cpu vertexShader.bytes))
    (tiler : m₆ = wrote base (f + 11) (vertexTilerWrites true (taggedShader gpu' true) (slot base (f + 19))
      (chainPayload base b f (f + 1) true zeroes mode)) (m₅.store cpu' fragmentShader.bytes)) :
    ChainLaid base b f (f + 1) vertices vertexShader scratchpad gpu cpu (chainPayload base b f (f + 1) false zeroes mode)
      (chainPayload base b f (f + 1) true zeroes mode) (wrote base (f + 1) (linkWrites base (f + 1)) m₆) := by
  let other := region cpu vertexShader.bytes.length ∪ region cpu' fragmentShader.bytes.length
  have apart : Disjoint (slots base 0 arenaSlots) other := Set.disjoint_union_right.mpr ⟨vertexApart, fragmentApart⟩
  have fifth : Later base (f + 11) other m₅ m₆ := by
    rw [tiler]
    exact imported_later placed vertexTilerWrites_small.ends (by omega) Set.subset_union_right
  have fourth : Later base (f + 2) other m₄ m₅ := by
    rw [vertex]
    exact imported_later placed vertexTilerWrites_small.ends (by omega) Set.subset_union_left
  have jobs : Later base (f + 2) other m₄ m₆ := fourth.trans fifth (by omega)
  have third : Later base (f + 1) other m₂ m₄ := by
    rw [set]
    exact wrote_later placed setValueWrites_ends (by omega)
  have links {s : Set (BitVec 32)} : Later base (f + 1) s m₆ (wrote base (f + 1) (linkWrites base (f + 1)) m₆) :=
    wrote_later placed (linkWrites_small 7).ends (by omega)
  have whole := (third.trans jobs (by omega)).trans links (Nat.le_refl _)
  have imported : Later base (f + 1) (region cpu' fragmentShader.bytes.length) (m₄.store cpu vertexShader.bytes)
      (wrote base (f + 1) (linkWrites base (f + 1)) m₆) := by
    have written : Later base (f + 2) (region cpu' fragmentShader.bytes.length) (m₄.store cpu vertexShader.bytes) m₅ := by
      rw [vertex]
      exact wrote_later placed vertexTilerWrites_small.ends (by omega)
    have next : Later base (f + 11) (region cpu' fragmentShader.bytes.length) m₅ m₆ := by
      rw [tiler]
      exact imported_later placed vertexTilerWrites_small.ends (by omega) (Set.Subset.refl _)
    exact ((written.trans next (by omega)).lower (Nat.le_succ _)).trans links (Nat.le_refl _)
  rw [set] at jobs
  rw [vertex] at fifth
  obtain ⟨setHeader, setValue⟩ := set_laid placed (by omega) apart jobs
  exact {
    attributes := (whole.attributes placed apart (by omega) (by omega)).trans attributes
    framebuffer := by rw [whole.read placed apart (by omega) (by omega) (by decide), framebuffer]
    set := setHeader
    setValue := setValue
    vertex := vertex_laid placed (by omega) apart fifth
    shader := vertex_shader_laid placed (by omega) apart fifth
    metadata := by
      apply vertex_metadata_laid placed (by omega) apart fifth
      intro a member
      have inside : a ∈ slots base 0 arenaSlots := slots_mono (Nat.zero_le _) (by omega) member
      rw [Memory.store_other (Set.disjoint_left.mp vertexApart inside)]
      exact fresh a (slots_mono (by omega) (by omega) member)
    tiler := by
      rw [tiler]
      exact tiler_laid placed (by omega)
    code := by
      have fits : vertexShader.bytes.length ≤ 2 ^ 32 := Nat.le_of_lt vertexShader.fits
      rw [Changes.bytes imported fits, Memory.bytes_store_same _ _ fits]
      rw [Set.disjoint_union_right]
      exact ⟨(vertexApart.mono_left (slots_mono (Nat.zero_le _) (Nat.le_refl _))).symm, shadersApart⟩ }

/-- What the attribute buffer and the framebuffer descriptor hold before the jobs are built. -/
theorem buffers_laid {d₁ d₂ : State} {e₁ e₂ : List Event} {block2 : BitVec 64} (arena : Arena base k d)
    (room : f < arenaSlots) (split : f = k + (2 + vertices.kilobytes)) (upload : Built base k f 0 ∅ d e₁ d₁)
    (uploaded : d₁.mem = wrote base k (verticesWrites (slot base (k + 1)) vertices.size vertices.bytes
      ((slot base (k + 1)).setWidth 64 ||| 1#64)) d.mem)
    (mfbd : Built base f (f + 1) 0 ∅ d₁ e₂ d₂)
    (made : d₂.mem = wrote base f (mfbdWrites heapFreeAddress scratchpad block2) d₁.mem) :
    Arena base (f + 1) d₂ ∧
      AttributeBuffer.load d₂.mem (slot base k) =
        ⟨(slot base (k + 1)).setWidth 64 ||| 1#64, BitVec.ofNat 32 (4 * xyzComponentCount), vertices.size⟩ ∧
      d₂.mem.read 64 (slot base f) TentativeMfbd.block2Offset = scratchpad + svOffset := by
  have placed := arena.cursor.placed
  have none : Disjoint (slots base 0 arenaSlots) ∅ := Set.disjoint_empty _
  have later : Later base f ∅ d₁.mem d₂.mem := mfbd.later (by omega) (Set.Subset.refl _)
  refine ⟨mfbd.arena none (upload.arena none arena), ?_, ?_⟩
  · rw [later.attributes placed none (by omega) (by omega), uploaded]
    exact load_uploaded placed (by omega) d.mem
  · rw [made]
    exact mfbd_block2 d₁.mem block2

end Memory

theorem jobChainVertexTiler_leaves (arena : Arena base k d) (room : k + (22 + vertices.kilobytes) ≤ arenaSlots)
    (serves : Serves kernel base d vertexShader fragmentShader gpu gpu' cpu cpu') :
    Meets (jobChainVertexTiler kernel fd vertices mode vertexShader fragmentShader heapFreeAddress scratchpad) d
      fun events packet d' =>
        let f := k + (2 + vertices.kilobytes)
        packet = slot base (f + 11) ∧
          submitted events = [vertexTilerAtom ((slot base (f + 1)).setWidth 64) ((d.atomCount + 1#32).setWidth 8)] ∧
          (∃ zeroes, ChainLaid base k f (f + 1) vertices vertexShader scratchpad gpu cpu
            (chainPayload base k f (f + 1) false zeroes mode) (chainPayload base k f (f + 1) true zeroes mode) d'.mem) ∧
          Arena base (f + 20) d' ∧
          Later base k (region cpu vertexShader.bytes.length ∪ region cpu' fragmentShader.bytes.length) d.mem d'.mem := by
  have placed := arena.cursor.placed
  obtain ⟨zeroGpu, granted⟩ := Option.isSome_iff_exists.mp serves.zeroes
  unfold jobChainVertexTiler
  apply (uploadVertices_meets arena.cursor (by omega)).bind
  rintro e₁ _ d₁ ⟨rfl, upload, mem₁⟩
  apply (makeMfbd_meets upload.cursor (by omega)).bind
  rintro e₂ _ d₂ ⟨rfl, mfbd, block2, mem₂⟩
  have calls₂ : d₂.calls = d.calls := mfbd.calls.trans upload.calls
  rw [← calls₂] at granted
  apply (allocGpuPages_same_meets granted (by decide)).bind
  rintro e₃ _ _ ⟨silent₃, rfl, rfl⟩
  apply (setValueHelper_meets (by exact mfbd.cursor) (by omega)).bind
  rintro e₄ _ d₄ ⟨rfl, set, mem₄⟩
  have vertexImports : Imports kernel d₄.calls gpu cpu := by
    rw [set.calls]
    change Imports kernel (d₂.calls + 2) gpu cpu
    rw [calls₂]
    exact serves.vertex
  apply (vertexTilerHelper_meets set.cursor (by omega) vertexImports vertexShader).bind
  rintro e₅ _ d₅ ⟨rfl, vertex, mem₅⟩
  have fragmentImports : Imports kernel d₅.calls gpu' cpu' := by
    rw [vertex.calls, set.calls]
    change Imports kernel (d₂.calls + 4) gpu' cpu'
    rw [calls₂]
    exact serves.fragment
  apply (vertexTilerHelper_meets vertex.cursor (by omega) fragmentImports fragmentShader).bind
  rintro e₆ _ d₆ ⟨rfl, tiler, mem₆⟩
  apply (linkJobs_meets placed (by omega)).bind
  rintro _ _ _ ⟨rfl, rfl⟩
  rw [meets_modify_bind, meets_get_bind]
  have queue : d₆.atomQueueSize = d.atomQueueSize := by
    rw [tiler.atomQueueSize, vertex.atomQueueSize, set.atomQueueSize]
    exact mfbd.atomQueueSize.trans upload.atomQueueSize
  have calls : d₆.calls = d.calls + 6 := by
    rw [tiler.calls, vertex.calls, set.calls, ← calls₂]
  have count : d₆.atomCount = d.atomCount := by
    rw [tiler.atomCount, vertex.atomCount, set.atomCount]
    exact mfbd.atomCount.trans upload.atomCount
  refine (submitJob_meets ?_ ?_).bind ?_
  · change d₆.atomQueueSize < atomQueueMax
    rw [queue]
    exact serves.room
  · intro full
    change d₆.atomQueueSize + 1 = atomQueueMax at full
    change kernel.jobSubmit d₆.calls = true
    rw [queue] at full
    rw [calls]
    exact serves.submits full
  · rintro e₇ _ d₇ ⟨atoms, same, bottom⟩
    rw [meets_pure]
    have vertexFbd : ((slot base (k + (2 + vertices.kilobytes)) ||| BitVec.ofNat 32 fbdType).setWidth 64).setWidth 32 =
        slot base (k + (2 + vertices.kilobytes)) ||| BitVec.ofNat 32 fbdType :=
      BitVec.setWidth_setWidth_of_le _ (by decide)
    have silent : submitted e₁ = [] ∧ submitted e₂ = [] ∧ submitted e₄ = [] ∧ submitted e₅ = [] ∧ submitted e₆ = [] :=
      ⟨upload.silent, mfbd.silent, set.silent, vertex.silent, tiler.silent⟩
    obtain ⟨behind, attributes, framebuffer⟩ := buffers_laid arena (by omega) rfl upload mem₁ mfbd mem₂
    have fresh : Arena base (k + (2 + vertices.kilobytes) + 2) d₄ :=
      set.arena (Set.disjoint_empty _) ⟨behind.cursor, behind.zeroed⟩
    have unused : Arena base (k + (2 + vertices.kilobytes) + 20) d₆ :=
      tiler.arena serves.fragmentApart (vertex.arena serves.vertexApart fresh)
    let codes := region cpu vertexShader.bytes.length ∪ region cpu' fragmentShader.bytes.length
    have none : ∅ ⊆ codes := Set.empty_subset codes
    have buffers : Later base k codes d.mem d₂.mem :=
      (upload.later (by omega) none).trans (mfbd.later (by omega) none) (by omega)
    have jobs : Later base (k + (2 + vertices.kilobytes) + 1) codes d₂.mem d₅.mem :=
      (set.later (by omega) none).trans (vertex.later (by omega) Set.subset_union_left) (by omega)
    have later : Later base k codes d.mem d₆.mem :=
      (buffers.trans jobs (by omega)).trans (tiler.later (by omega) Set.subset_union_right) (by omega)
    refine ⟨rfl, ?_, ⟨(kernel.mmap64 (d₂.calls + 1)).setWidth 64 |>.setWidth 32, ?_⟩, ?_, ?_⟩
    · simp only [submitted_append, silent, silent₃, atoms, List.nil_append, List.append_nil, count]
    · rw [same]
      rw [vertexFbd] at mem₅ mem₆
      exact chain_laid placed (by omega) (by omega) serves.vertexApart serves.fragmentApart serves.shadersApart attributes
        framebuffer mem₄ fresh.zeroed mem₅ mem₆
    · refine ⟨bottom ▸ unused.cursor, ?_⟩
      rw [same]
      exact unused.zeroed.wrote placed (linkWrites_small 7).ends (by omega) (by omega)
    · rw [same]
      exact later.trans (wrote_later placed (linkWrites_small 7).ends (by omega)) (by omega)

theorem jobChainVertexTiler_meets (arena : Arena base k d) (room : k + (22 + vertices.kilobytes) ≤ arenaSlots)
    (serves : Serves kernel base d vertexShader fragmentShader gpu gpu' cpu cpu') :
    Meets (jobChainVertexTiler kernel fd vertices mode vertexShader fragmentShader heapFreeAddress scratchpad) d
      fun events _ d' =>
        let f := k + (2 + vertices.kilobytes)
        submitted events = [vertexTilerAtom ((slot base (f + 1)).setWidth 64) ((d.atomCount + 1#32).setWidth 8)] ∧
          ∃ zeroes, ChainLaid base k f (f + 1) vertices vertexShader scratchpad gpu cpu
            (chainPayload base k f (f + 1) false zeroes mode) (chainPayload base k f (f + 1) true zeroes mode) d'.mem := by
  refine (jobChainVertexTiler_leaves arena room serves).mono ?_
  intro events packet d' leaves
  obtain ⟨-, atoms, laid, -⟩ := leaves
  exact ⟨atoms, laid⟩

end Driver
