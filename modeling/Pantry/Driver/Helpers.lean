import Pantry.Driver.Building

namespace Driver

open Machine Panwrap Decoder Program

section Cursor

variable {base : BitVec 32} {k n c : Nat}

theorem Placed.small (placed : Placed base) (less : n < 0x400) (room : k < arenaSlots) :
    Cursor base (k + 1) (slot base k + BitVec.ofNat 32 n) := by
  have short : n / 0x400 = 0 := Nat.div_eq_of_lt less
  have cursor := placed.cursor (k := k) (n := n) (by omega)
  rwa [short, Nat.add_zero] at cursor

theorem Built.of_wrote {writes : List SlotWrite} {m : Memory 32} {other : Set (BitVec 32)} {d : State}
    {out : List Event} {bottom : BitVec 32} (cursor : Cursor base (k + n) bottom) (silent : submitted out = [])
    (ends : ∀ e ∈ writes, e.Ends n) (room : k + n ≤ arenaSlots) (imported : Changes other d.mem m) :
    Built base k (k + n) c other d out
      { d with cbmaBottom := bottom, mem := wrote base k writes m, calls := d.calls + c } where
  silent := silent
  order := Nat.le_add_right k n
  cursor := cursor
  calls := rfl
  atomCount := rfl
  atomQueue := rfl
  atomQueueSize := rfl
  changes := by
    apply (imported.mono Set.subset_union_right).trans
    exact (wrote_changes cursor.placed ends room).mono Set.subset_union_left

end Cursor

section SetValue

variable {base : BitVec 32} {k : Nat} {d : State} {out : BitVec 64}

def setValueHeader : JobDescriptorHeader :=
  { exceptionStatus := jobNotStarted, jobDescriptorSize := job64Bit, jobType := jobTypeSetValue }

def setValueWrites (out : BitVec 64) : List SlotWrite := [
  ⟨0, 0, Field.image (headerFields setValueHeader)⟩,
  ⟨0, JobDescriptorHeader.size, Field.image (setValueFields { out := out, unknown := 3#64 })⟩]

theorem setValueWrites_ends : ∀ e ∈ setValueWrites out, e.Ends 1 := by
  simp [setValueWrites, SlotWrite.Ends, Field.sizes, headerFields, setValueFields, Field.size, JobDescriptorHeader.size]

theorem setValueHelper_meets (cursor : Cursor base k d.cbmaBottom) (room : k + 1 ≤ arenaSlots) :
    Meets (setValueHelper out) d fun events packet d' =>
      packet = slot base k ∧ Built base k (k + 1) 0 ∅ d events d' ∧
        d'.mem = wrote base k (setValueWrites out) d.mem := by
  unfold setValueHelper
  rw [meets_galloc_bind cursor]
  simp only [meets_memcpy_bind, meets_pure]
  refine ⟨trivial, ?_, rfl⟩
  exact .of_wrote (cursor.placed.small (by decide) room) rfl setValueWrites_ends room (Changes.refl ∅ d.mem)

end SetValue

section Mfbd

variable {base : BitVec 32} {k : Nat} {d : State} {heapFreeAddress scratchpad : BitVec 64}

/-- The writes of `make_mfbd` for a tiler job; `block2` is what it reads back. -/
def mfbdWrites (heapFreeAddress scratchpad block2 : BitVec 64) : List SlotWrite := [
  .assign 0 64 (scratchpad + svOffset),
  .assign 0 72 (scratchpad + svOffset + 0x200#64),
  .assign 0 8 scratchpad,
  .assign 0 88 (heapFreeAddress ||| 0x8000000#64),
  .assign 0 60 0xF0#32,
  .assign 0 80 heapFreeAddress,
  .assign 0 0 0x1F00000000#64,
  .assign 0 56 0x1600#32,
  .assign 0 32 0x02D801C2#32,
  .assign 0 40 0x02D801C2#32,
  .assign 0 44 0x04001080#32,
  .assign 0 48 0x000000FF#32,
  .assign 0 52 0x3F800000#32,
  ⟨0, TentativeMfbd.block3Offset, Field.image (Field.array (mfbdBlock3 0x5ABA5ABA#64 block2))⟩]

theorem mfbdWrites_ends {block2 : BitVec 64} : ∀ e ∈ mfbdWrites heapFreeAddress scratchpad block2, e.Ends 1 := by
  simp only [mfbdWrites, List.forall_mem_cons, SlotWrite.assign_ends]
  simp [SlotWrite.Ends, Field.sizes_array, mfbdBlock3, TentativeMfbd.block3Offset]

theorem makeMfbd_meets (cursor : Cursor base k d.cbmaBottom) (room : k + 1 ≤ arenaSlots) :
    Meets (makeMfbd true heapFreeAddress scratchpad) d fun events fbd d' =>
      fbd = (slot base k ||| BitVec.ofNat 32 fbdType).setWidth 64 ∧ Built base k (k + 1) 0 ∅ d events d' ∧
        ∃ block2, d'.mem = wrote base k (mfbdWrites heapFreeAddress scratchpad block2) d.mem := by
  unfold makeMfbd
  rw [meets_galloc_bind cursor]
  simp only [meets_assign_bind, meets_whenever_bind, meets_get_bind, meets_memcpy_bind, meets_pure, Bool.true_eq_false,
    ↓reduceIte, fbdTiler, BitVec.or_zero]
  refine ⟨trivial, ?_, _, rfl⟩
  exact .of_wrote (cursor.placed.small (by decide) room) rfl mfbdWrites_ends room (Changes.refl ∅ d.mem)

theorem mfbd_block2 (m : Memory 32) (block2 : BitVec 64) :
    (wrote base k (mfbdWrites heapFreeAddress scratchpad block2) m).read 64 (slot base k) TentativeMfbd.block2Offset =
      scratchpad + svOffset := by
  have length : (Field.image (Field.array (mfbdBlock3 0x5ABA5ABA#64 block2))).length = 72 := by
    rw [Field.image_length, Field.sizes_array]
    rfl
  simp only [mfbdWrites, wrote_assign, wrote_store, wrote_nil, Nat.add_zero]
  rw [Memory.read_store_part (.inl (by decide)) (by decide) (by rw [length]; decide)]
  simp (disch := decide) only [TentativeMfbd.block2Offset, Memory.read_write_part, Memory.read_write]

end Mfbd

section Shader

variable {kernel : Kernel} {fd : BitVec 32} {d : State}

/-- The kernel's answers to the two calls that import a shader, from the call `c` on. -/
structure Imports (kernel : Kernel) (c : Nat) (gpu : BitVec 64) (cpu : BitVec 32) : Prop where
  granted : kernel.memAlloc c = some gpu
  mapped : kernel.mmap64 (c + 1) = cpu
  valid : cpu ≠ mapFailed
  nonnull : cpu ≠ 0#32

def taggedShader (gpu : BitVec 64) (fragment : Bool) : BitVec 64 :=
  gpu ||| shaderBit ||| (if fragment then shaderFragment else shaderVertex)

theorem importShader_meets {gpu : BitVec 64} {cpu : BitVec 32} (imports : Imports kernel d.calls gpu cpu)
    (shader : Buffer) (fragment : Bool) :
    Meets (importShader kernel fd shader fragment) d fun events imported d' =>
      submitted events = [] ∧ imported = taggedShader gpu fragment ∧
        d' = { d with mem := d.mem.store cpu shader.bytes, calls := d.calls + 2 } := by
  unfold importShader
  apply (allocGpuPages_meets imports.granted (by decide)).bind
  rintro events _ _ ⟨silent, rfl, rfl⟩
  have valid : kernel.mmap64 (d.calls + 1) ≠ mapFailed := by rw [imports.mapped]; exact imports.valid
  apply (mmapGpu_meets valid).bind
  rintro events' _ _ ⟨silent', rfl, rfl⟩
  rw [meets_memcpy_bind, meets_pure, submitted_append, submitted_append, silent, silent', BitVec.add_zero,
    imports.mapped]
  exact ⟨rfl, rfl, rfl⟩

end Shader

section Vertices

variable {base : BitVec 32} {k : Nat} {d : State} {vertices : Buffer}

def Buffer.kilobytes (buffer : Buffer) : Nat := buffer.bytes.length / 0x400

def verticesWrites (verts size : BitVec 32) (content : List Byte) (elements : BitVec 64) : List SlotWrite := [
  ⟨1, 0, content⟩,
  .assign 0 0 (verts.setWidth 64),
  .assign 0 8 (BitVec.ofNat 32 (4 * xyzComponentCount)),
  .assign 0 12 size,
  .assign 0 0 elements]

theorem verticesWrites_ends {verts size : BitVec 32} {elements : BitVec 64} :
    ∀ e ∈ verticesWrites verts size vertices.bytes elements, e.Ends (2 + vertices.kilobytes) := by
  simp only [verticesWrites, List.forall_mem_cons, SlotWrite.assign_ends]
  simp [SlotWrite.Ends, Buffer.kilobytes]
  omega

theorem uploadVertices_meets (cursor : Cursor base k d.cbmaBottom) (room : k + (2 + vertices.kilobytes) ≤ arenaSlots) :
    Meets (uploadVertices vertices) d fun events vb d' =>
      vb = slot base k ∧ Built base k (k + (2 + vertices.kilobytes)) 0 ∅ d events d' ∧
        d'.mem = wrote base k (verticesWrites (slot base (k + 1)) vertices.size vertices.bytes
          ((slot base (k + 1)).setWidth 64 ||| 1#64)) d.mem := by
  have kilobytes : vertices.kilobytes = vertices.bytes.length / 0x400 := rfl
  have count : k + 1 + vertices.bytes.length / 0x400 + 1 = k + (2 + vertices.kilobytes) := by omega
  have next : Cursor base (k + 1) (slot base k + BitVec.ofNat 32 (AttributeBuffer.size 32)) :=
    cursor.placed.small (by decide) (by omega)
  have last := cursor.placed.cursor (k := k + 1) (n := vertices.bytes.length) (by omega)
  rw [count] at last
  unfold uploadVertices
  rw [meets_galloc_bind cursor]
  rw [Buffer.size, meets_galloc_bind next]
  simp only [meets_assign_bind, meets_memcpy_bind, meets_get_bind, meets_pure]
  simp (disch := decide) only [Memory.read_write_part, Memory.read_write]
  refine ⟨trivial, ?_, rfl⟩
  exact .of_wrote last rfl verticesWrites_ends room (Changes.refl ∅ d.mem)

theorem load_uploaded (placed : Placed base) (room : k + (2 + vertices.kilobytes) ≤ arenaSlots)
    {verts size : BitVec 32} {elements : BitVec 64} (m : Memory 32) :
    AttributeBuffer.load (wrote base k (verticesWrites verts size vertices.bytes elements) m) (slot base k) =
      ⟨elements, BitVec.ofNat 32 (4 * xyzComponentCount), size⟩ := by
  have first (width off : Nat) (part : off + width / 8 ≤ 0x400) :
      (wrote base k (verticesWrites verts size vertices.bytes elements) m).read width (slot base k) off =
        (wrote base k [.assign 0 0 (verts.setWidth 64), .assign 0 8 (BitVec.ofNat 32 (4 * xyzComponentCount)),
          .assign 0 12 size, .assign 0 0 elements] m).read width (slot base k) off :=
    read_wrote (i := 0) rfl placed verticesWrites_ends room (fun _ _ less => absurd less (Nat.not_lt_zero _)) (by omega) part
  unfold AttributeBuffer.load
  rw [first 64 0 (by decide), first 32 8 (by decide), first 32 (8 + 32 / 8) (by decide)]
  simp only [wrote_assign, wrote_nil, Nat.add_zero]
  simp (disch := decide) only [Memory.read_write_part, Memory.read_write]

end Vertices

section VertexTiler

variable {base : BitVec 32} {k : Nat} {d : State} {kernel : Kernel} {fd : BitVec 32} {tiler : Bool}
  {fbd vertexBuffer zeroBuffer mode : BitVec 32}

def block1Of (tiler : Bool) (mode : BitVec 32) : List (BitVec 32) := [
  0x00000003#32, 0x28000000#32, 0x14000000#32 ||| (if tiler then 0x030000#32 ||| mode else 0#32), 0x00000000#32,
  0x00000000#32, if tiler then 0x00000003#32 else 0x00000000#32, 0x00000000#32, 0x00000000#32, 0x00000005#32,
  0x00000000#32, 0x00000000#32]

theorem zeroWords_length : (List.replicate 36 0#32).length = 36 := List.length_replicate

def payloadAt (base : BitVec 32) (k : Nat) (tiler : Bool) (fbd vertexBuffer zeroBuffer mode : BitVec 32) :
    PayloadVertexTiler32 where
  block1 := block1Of tiler mode
  zeroes := zeroBuffer
  unknown1 := slot base (k + 1)
  null1 := 0#32
  null2 := 0#32
  unknown2 := slot base (k + 2)
  shader := slot base (k + 3)
  attributes := vertexBuffer
  attributeMeta := slot base (k + 4)
  unknown5 := slot base (k + 5)
  unknown6 := slot base (k + 6)
  nullForVertex := if tiler then slot base (k + 7) else 0#32
  null4 := 0#32
  fbd := fbd
  unknown7 := if tiler then 0#32 else slot base (k + 7) ||| 1#32
  block2Length := zeroWords_length

theorem vertexTilerPayload_meets (cursor : Cursor base (k + 1) d.cbmaBottom) (room : k + 8 ≤ arenaSlots) :
    Meets (vertexTilerPayload tiler fbd vertexBuffer zeroBuffer mode) d fun events payload d' =>
      events = [] ∧ payload = payloadAt base k tiler fbd vertexBuffer zeroBuffer mode ∧
        d' = { d with cbmaBottom := slot base (k + 7) + BitVec.ofNat 32 64 } := by
  have placed := cursor.placed
  have second : Cursor base (k + 2) (slot base (k + 1) + BitVec.ofNat 32 16) := placed.small (by decide) (by omega)
  have third : Cursor base (k + 3) (slot base (k + 2) + BitVec.ofNat 32 32) := placed.small (by decide) (by omega)
  have fourth : Cursor base (k + 4) (slot base (k + 3) + BitVec.ofNat 32 ShaderMeta.size) :=
    placed.small (by decide) (by omega)
  have fifth : Cursor base (k + 5) (slot base (k + 4) + BitVec.ofNat 32 16) := placed.small (by decide) (by omega)
  have sixth : Cursor base (k + 6) (slot base (k + 5) + BitVec.ofNat 32 32) := placed.small (by decide) (by omega)
  have seventh : Cursor base (k + 7) (slot base (k + 6) + BitVec.ofNat 32 64) := placed.small (by decide) (by omega)
  unfold vertexTilerPayload
  apply (meets_galloc_bind (by exact cursor)).mpr
  apply (meets_galloc_bind (by exact second)).mpr
  apply (meets_galloc_bind (by exact third)).mpr
  apply (meets_galloc_bind (by exact fourth)).mpr
  apply (meets_galloc_bind (by exact fifth)).mpr
  apply (meets_galloc_bind (by exact sixth)).mpr
  apply (meets_galloc_bind (by exact seventh)).mpr
  rw [meets_pure]
  exact ⟨rfl, rfl, rfl⟩

def vertexTilerHeader (tiler : Bool) : JobDescriptorHeader where
  exceptionStatus := jobNotStarted
  jobDescriptorSize := job32Bit
  jobType := if tiler then jobTypeTiler else jobTypeVertex

/-- The payload as it is copied behind the header. -/
def PayloadVertexTiler32.finished (payload : PayloadVertexTiler32) (tiler : Bool) : PayloadVertexTiler32 :=
  let payload := { payload with
    unknown7 := if tiler then 0xDEADBA00#32 else 0xDEADFA00#32
    block2 := if tiler then tilerBlock2 else vertexBlock2
    block2Length := by cases tiler <;> rfl }
  if tiler then payload.trap else payload

def vertexTilerWrites (tiler : Bool) (imported : BitVec 64) (writeBuffer : BitVec 32) (payload : PayloadVertexTiler32) :
    List SlotWrite :=
  [.assign 3 ShaderMeta.shader imported] ++
    (if tiler then [] else [⟨2, 0, Field.image (Field.array viewport)⟩]) ++ [
    .assign 3 ShaderMeta.unknown1 (if tiler then 0x0007000000000000#64 else 0x0005000100000000#64),
    .assign 3 ShaderMeta.unknown2 (if tiler then 0x0000000000020602#64 else 0x0000000000420002#64),
    .assign 4 0 0x2DEA2200#32,
    ⟨6, 0, Field.image (Field.array pi)⟩] ++
    (if tiler then [⟨7, 0, Field.image (Field.array tilerBlock)⟩] else []) ++ [
    .assign 1 0 0x5a5a5a5a5a5a1001#64,
    .assign 1 8 0x5a5a5a5a5a5a3000#64,
    .assign 5 0 (((if tiler then 0xDB#64 else 0x7A#64) <<< 56) ||| writeBuffer.setWidth 64 ||| 1#64),
    .assign 5 8 0x0000004000000010#64,
    ⟨0, 0, Field.image (headerFields (vertexTilerHeader tiler))⟩,
    ⟨0, JobDescriptorHeader.size, Field.image (Field.array payload.words)⟩]

theorem vertexTilerWrites_small {imported : BitVec 64} {writeBuffer : BitVec 32} {payload : PayloadVertexTiler32} :
    SlotWrite.Small 9 (vertexTilerWrites tiler imported writeBuffer payload) := by
  unfold SlotWrite.Small
  have lengths : viewport.length = 8 ∧ pi.length = 7 ∧ tilerBlock.length = 12 := ⟨rfl, rfl, rfl⟩
  cases tiler <;>
    simp [vertexTilerWrites, SlotWrite.assign, SlotWrite.Ends, Field.sizes_array, headerFields_sizes, lengths,
      payload.words_length, JobDescriptorHeader.size, ShaderMeta.shader, ShaderMeta.unknown1, ShaderMeta.unknown2]

theorem vertexTilerHelper_meets (cursor : Cursor base k d.cbmaBottom) (room : k + 9 ≤ arenaSlots)
    {gpu : BitVec 64} {cpu : BitVec 32} (imports : Imports kernel d.calls gpu cpu) (shader : Buffer) :
    Meets (vertexTilerHelper kernel fd tiler fbd vertexBuffer zeroBuffer mode shader) d fun events packet d' =>
      packet = slot base k ∧ Built base k (k + 9) 2 (region cpu shader.bytes.length) d events d' ∧
        d'.mem = wrote base k (vertexTilerWrites tiler (taggedShader gpu tiler) (slot base (k + 8))
          ((payloadAt base k tiler fbd vertexBuffer zeroBuffer mode).finished tiler)) (d.mem.store cpu shader.bytes) := by
  have placed := cursor.placed
  have behind : Cursor base (k + 1)
      (slot base k + BitVec.ofNat 32 (JobDescriptorHeader.size + PayloadVertexTiler32.size)) :=
    placed.small (by decide) (by omega)
  have eighth : Cursor base (k + 8) (slot base (k + 7) + BitVec.ofNat 32 64) := placed.small (by decide) (by omega)
  have last : Cursor base (k + 9) (slot base (k + 8) + BitVec.ofNat 32 64) := placed.small (by decide) (by omega)
  unfold vertexTilerHelper
  rw [meets_galloc_bind cursor]
  apply (vertexTilerPayload_meets (by exact behind) (by omega)).bind
  rintro _ _ _ ⟨rfl, rfl, rfl⟩
  apply (importShader_meets (by exact imports) shader tiler).bind
  rintro events _ _ ⟨silent, rfl, rfl⟩
  have stored : Changes (region cpu shader.bytes.length) d.mem (d.mem.store cpu shader.bytes) :=
    (Changes.refl _ d.mem).store (Set.Subset.refl _)
  have quiet : submitted ([] ++ (events ++ [])) = [] := by
    rw [List.nil_append, List.append_nil]
    exact silent
  let writes := vertexTilerWrites tiler (taggedShader gpu tiler) (slot base (k + 8))
    ((payloadAt base k tiler fbd vertexBuffer zeroBuffer mode).finished tiler)
  have built : Built base k (k + 9) 2 (region cpu shader.bytes.length) d ([] ++ (events ++ []))
      { d with
        cbmaBottom := slot base (k + 8) + BitVec.ofNat 32 64
        mem := wrote base k writes (d.mem.store cpu shader.bytes)
        calls := d.calls + 2 } :=
    .of_wrote last quiet vertexTilerWrites_small.ends room stored
  cases tiler
  · simp only [meets_assign_bind, meets_memcpy_bind, meets_whenever_bind, Bool.false_eq_true, ↓reduceIte]
    apply (meets_galloc_bind (by exact eighth)).mpr
    simp only [meets_assign_bind, meets_memcpy_bind, meets_pure]
    exact ⟨trivial, built, rfl⟩
  · simp only [meets_assign_bind, meets_memcpy_bind, meets_whenever_bind, Bool.true_eq_false, ↓reduceIte]
    apply (meets_galloc_bind (by exact eighth)).mpr
    simp only [meets_assign_bind, meets_memcpy_bind, meets_pure]
    exact ⟨trivial, built, rfl⟩

end VertexTiler

end Driver
