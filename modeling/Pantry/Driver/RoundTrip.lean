import Pantry.Driver.Chains
import Pantry.Decoder.Traversal
import Pantry.Panwrap.Translate

namespace Driver

open Machine Panwrap Decoder Program

/-- `fetch_mapped_gpu` finds at `cpu` the `length` bytes that the GPU has at `gpu`. -/
def Resolves (env : Env 32) (gpu : BitVec 64) (cpu : BitVec 32) (length : Nat) : Prop :=
  ∀ off n : Nat, 0 < n → off + n ≤ length →
    fetchMappedGpu env.mmaps (gpu + BitVec.ofNat 64 off) (BitVec.ofNat 32 n) = cpu + BitVec.ofNat 32 off

/-- Where a mapping is found at each of its addresses from `skip` on, `fetch_mapped_gpu` resolves. -/
theorem fetch_of_found {env : Env 32} {e : MappedMemory 32} {skip off n : Nat} (nonnull : 0 < e.gpuVa.toNat)
    (noWrap : e.gpuSpan.stop < 2 ^ 64)
    (found : ∀ addr : BitVec 64, e.gpuVa.toNat + skip ≤ addr.toNat → addr.toNat < e.gpuSpan.stop →
      findGpuMappedMem env.mmaps addr = some e) (behind : skip ≤ off) (some : 0 < n) (fits : off + n ≤ e.length.toNat) :
    fetchMappedGpu env.mmaps (e.gpuVa + BitVec.ofNat 64 off) (BitVec.ofNat 32 n) = e.addr + BitVec.ofNat 32 off := by
  have length := e.length.isLt
  have stop : e.gpuSpan.stop = e.gpuVa.toNat + e.length.toNat := rfl
  rw [stop] at noWrap
  have value : (e.gpuVa + BitVec.ofNat 64 off).toNat = e.gpuVa.toNat + off := by
    rw [BitVec.toNat_add, BitVec.toNat_ofNat]
    omega
  have present : e.gpuVa + BitVec.ofNat 64 off ≠ 0#64 := by
    intro zero
    rw [zero, BitVec.toNat_ofNat] at value
    omega
  have count : (BitVec.ofNat 32 n).toNat = n := by
    rw [BitVec.toNat_ofNat, Nat.mod_eq_of_lt (by omega)]
  have distance : e.gpuVa + BitVec.ofNat 64 off - e.gpuVa = BitVec.ofNat 64 off := by ring
  have within : (e.gpuVa + BitVec.ofNat 64 off).toNat + (BitVec.ofNat 32 n).toNat ≤ e.gpuSpan.stop := by
    rw [value, count, stop]
    omega
  rw [fetch_hit (by decide) present (found _ (by omega) (by omega)) (by omega) within, distance, BitVec.setWidth_ofNat_of_le (by decide)]

theorem resolves_of_found {env : Env 32} {e : MappedMemory 32} (nonnull : 0 < e.gpuVa.toNat)
    (noWrap : e.gpuSpan.stop < 2 ^ 64)
    (found : ∀ addr : BitVec 64, e.gpuVa.toNat ≤ addr.toNat → addr.toNat < e.gpuSpan.stop →
      findGpuMappedMem env.mmaps addr = some e) : Resolves env e.gpuVa e.addr e.length.toNat :=
  fun off _ some fits => fetch_of_found nonnull noWrap found (Nat.zero_le off) some fits

/-- `fetch_mapped_gpu` finds the slots of the arena; slot 0 is never handed out. -/
def ArenaResolves (env : Env 32) (base : BitVec 32) : Prop :=
  ∀ off n : Nat, 0x400 ≤ off → 0 < n → off + n ≤ 0x400 * arenaSlots →
    fetchMappedGpu env.mmaps (base.setWidth 64 + BitVec.ofNat 64 off) (BitVec.ofNat 32 n) = base + BitVec.ofNat 32 off

section Fetch

variable {env : Env 32} {base : BitVec 32} {i off n : Nat} (placed : Placed base)
include placed

theorem slot_value (inside : i < arenaSlots) : (slot base i).toNat = base.toNat + 0x400 * i := by
  have value : (slot base i + BitVec.ofNat 32 0).toNat = base.toNat + 0x400 * i + 0 := placed.slot_toNat (by omega)
  rwa [BitVec.add_zero, Nat.add_zero] at value

theorem slot_aligned (inside : i < arenaSlots) : (slot base i).toNat % 0x400 = 0 := by
  have aligned := placed.aligned
  rw [slot_value placed inside]
  omega

theorem slot_gpu (inside : i < arenaSlots) :
    (slot base i).setWidth 64 = base.setWidth 64 + BitVec.ofNat 64 (0x400 * i) := by
  have fits := placed.fits
  apply BitVec.eq_of_toNat_eq
  rw [BitVec.toNat_add, BitVec.toNat_setWidth_of_le (by decide), BitVec.toNat_setWidth_of_le (by decide),
    slot_value placed inside, BitVec.toNat_ofNat]
  omega

theorem fetch_part (resolves : ArenaResolves env base) (positive : 0 < i) (some : 0 < n) (fits : 0x400 * i + off + n ≤ 0x400 * arenaSlots) :
    fetchMappedGpu env.mmaps ((slot base i).setWidth 64 + BitVec.ofNat 64 off) (BitVec.ofNat 32 n) =
      slot base i + BitVec.ofNat 32 off := by
  have found := resolves (0x400 * i + off) n (by omega) some fits
  rw [BitVec.ofNat_add, BitVec.ofNat_add, ← BitVec.add_assoc, ← BitVec.add_assoc,
    ← slot_gpu placed (by omega)] at found
  exact found

theorem fetch_slot (resolves : ArenaResolves env base) (positive : 0 < i) (some : 0 < n) (fits : 0x400 * i + n ≤ 0x400 * arenaSlots) :
    fetchMappedGpu env.mmaps ((slot base i).setWidth 64) (BitVec.ofNat 32 n) = slot base i := by
  have found : fetchMappedGpu env.mmaps ((slot base i).setWidth 64 + BitVec.ofNat 64 0) (BitVec.ofNat 32 n) =
      slot base i + BitVec.ofNat 32 0 := fetch_part placed resolves positive some fits
  rwa [BitVec.add_zero, BitVec.add_zero] at found

theorem fbdAddress_slot (inside : i < arenaSlots) :
    fbdAddress (slot base i ||| BitVec.ofNat 32 fbdType) = (slot base i).setWidth 64 := by
  have mask : fbdPointerMask 32 = ~~~lowMask 32 6 := by decide
  have aligned := slot_aligned placed inside
  rw [fbdAddress, mask, strip_tag (by omega) (by decide)]

theorem attributeData_slot {size total : BitVec 32} (inside : i < arenaSlots) :
    attributeData ⟨(slot base i).setWidth 64 ||| 1#64, size, total⟩ = (slot base i).setWidth 64 := by
  have mask : (3#64 : BitVec 64) = lowMask 64 2 := by decide
  have aligned := slot_aligned placed inside
  rw [attributeData, mask]
  apply strip_tag ?_ (by decide)
  rw [BitVec.toNat_setWidth_of_le (by decide)]
  omega

end Fetch

theorem taggedShader_stripped {gpu : BitVec 64} {fragment : Bool} (aligned : gpu.toNat % 0x1000 = 0) :
    taggedShader gpu fragment &&& ~~~15#64 = gpu := by
  have mask : (15#64 : BitVec 64) = lowMask 64 4 := by decide
  rw [taggedShader, mask, BitVec.or_assoc]
  apply strip_tag (by omega)
  cases fragment <;> decide

theorem JobLaid.word {base : BitVec 32} {k i : Nat} {header : JobDescriptorHeader} {payload : PayloadVertexTiler32}
    {m : Memory 32} {value : BitVec 32} (laid : JobLaid base k header payload m)
    (member : payload.pointers[i]? = some value) :
    m.read 32 (slot base k + BitVec.ofNat 32 JobDescriptorHeader.size) (Decoder.PayloadVertexTiler32.zeroes + 4 * i) =
      value := by
  rw [Memory.read_part]
  exact laid.pointer i value member

section Jobs

def jobAddress (base : BitVec 32) (i : Nat) : BitVec 64 := (slot base i).setWidth 64

variable {env : Env 32} {base : BitVec 32} {i : Nat} (placed : Placed base) (inside : i < arenaSlots) {s t : Proc 32}
  {found : List Mark} {header : JobDescriptorHeader}
include placed inside

theorem part_ne_zero {off : Nat} (behind : 0 < off) (part : off < 0x400) : slot base i + BitVec.ofNat 32 off ≠ 0#32 := by
  have value : (slot base i + BitVec.ofNat 32 off).toNat = base.toNat + 0x400 * i + off := placed.slot_toNat (by omega)
  intro zero
  rw [zero, BitVec.toNat_ofNat] at value
  omega

theorem payload_ne_zero : slot base i + BitVec.ofNat 32 JobDescriptorHeader.size ≠ 0#32 :=
  part_ne_zero placed inside (by decide) (by decide)

theorem jobAddress_ne_zero (positive : 0 < i) : jobAddress base i ≠ 0#64 := by
  intro zero
  apply placed.slot_ne_zero positive inside
  apply BitVec.eq_of_toNat_eq
  have value := congrArg BitVec.toNat zero
  rwa [jobAddress, BitVec.toNat_setWidth_of_le (by decide)] at value

variable (resolves : ArenaResolves env base) (positive : 0 < i)
include resolves positive

theorem header_found : headerOf env (jobAddress base i) = slot base i :=
  fetch_slot placed resolves positive (by decide) (by unfold JobDescriptorHeader.size; omega)

theorem payload_found {n : Nat} (some : 0 < n) (fits : JobDescriptorHeader.size + n ≤ 0x400) :
    fetchMappedGpu env.mmaps (payloadOf (jobAddress base i)) (BitVec.ofNat 32 n) =
      slot base i + BitVec.ofNat 32 JobDescriptorHeader.size :=
  fetch_part placed resolves positive some (by omega)

theorem job_yields
    (payload : Yields (fun n => tracePayload env n (slot base i) (payloadOf (jobAddress base i))) s found () t) :
    Yields (fun n => traceJob env n (jobAddress base i)) s
      (.descriptor (jobAddress base i) (JobDescriptorHeader.load s.mem (slot base i)).jobType.toNat :: found)
      (if (JobDescriptorHeader.load t.mem (slot base i)).nextJob = 0#64 then none
        else some (JobDescriptorHeader.load t.mem (slot base i)).nextJob) t := by
  have found := header_found placed inside resolves positive
  have next : nextJobOf env t.mem (jobAddress base i) = (JobDescriptorHeader.load t.mem (slot base i)).nextJob := by
    rw [nextJobOf, found]
  rw [yields_traceJob, found, next]
  exact .inr ⟨placed.slot_ne_zero positive inside, ⟨_, payload, rfl⟩, rfl⟩

theorem setValue_yields {out : BitVec 64} (head : JobDescriptorHeader.load s.mem (slot base i) = header)
    (type : header.jobType = jobTypeSetValue) (value : s.mem.read 64 (slot base i) JobDescriptorHeader.size = out) :
    Yields (fun n => traceJob env n (jobAddress base i)) s
      [.descriptor (jobAddress base i) jobTypeSetValue.toNat, .setValue out]
      (if header.nextJob = 0#64 then none else some header.nextJob) s := by
  have payload := payload_found placed inside resolves positive (n := PayloadSetValue.size) (by decide) (by decide)
  have named : (PayloadSetValue.load s.mem (slot base i + BitVec.ofNat 32 JobDescriptorHeader.size)).out = out := by
    change s.mem.read 64 (slot base i + BitVec.ofNat 32 JobDescriptorHeader.size) 0 = out
    rw [Memory.read_part]
    exact value
  have traced := (checked_traceSetValue env (payloadOf (jobAddress base i)) s).traces
    (by rw [Mapped, payload]; exact payload_ne_zero placed inside)
  rw [payload, named] at traced
  rw [← type, ← head]
  apply job_yields placed inside resolves positive
  unfold tracePayload
  rw [yields_deref_bind]
  refine ⟨placed.slot_ne_zero positive inside, ?_⟩
  simp only [head, if_pos type]
  exact yields_const.mpr traced

theorem vertexTiler_yields (head : JobDescriptorHeader.load s.mem (slot base i) = header)
    (type : header.jobType = jobTypeVertex ∨ header.jobType = jobTypeTiler)
    (same : JobDescriptorHeader.load t.mem (slot base i) = header)
    (payload : Yields (fun n => traceVertexTiler env n (slot base i) (payloadOf (jobAddress base i))) s found () t) :
    Yields (fun n => traceJob env n (jobAddress base i)) s
      (.descriptor (jobAddress base i) header.jobType.toNat :: found)
      (if header.nextJob = 0#64 then none else some header.nextJob) t := by
  have other : header.jobType ≠ jobTypeSetValue := by
    rcases type with vertex | tiler
    · rw [vertex]
      decide
    · rw [tiler]
      decide
  have switched : Yields (fun n => tracePayload env n (slot base i) (payloadOf (jobAddress base i))) s found () t := by
    unfold tracePayload
    rw [yields_deref_bind]
    refine ⟨placed.slot_ne_zero positive inside, ?_⟩
    simp only [head, if_neg other, if_pos type]
    exact payload
  have whole := job_yields placed inside resolves positive switched
  rwa [head, same] at whole

theorem trapped_yields {payload : PayloadVertexTiler32} (laid : JobLaid base i header payload s.mem)
    (type : header.jobType = jobTypeVertex ∨ header.jobType = jobTypeTiler) {shader : BitVec 32}
    (named : payload.pointers[5]? = some shader) (trap : sabotaged shader = true) :
    Yields (fun n => traceJob env n (jobAddress base i)) s [.descriptor (jobAddress base i) header.jobType.toNat]
      (if header.nextJob = 0#64 then none else some header.nextJob) s := by
  have nonnull := payload_ne_zero placed inside
  have place : fetchMappedGpu env.mmaps (payloadOf (jobAddress base i))
      (BitVec.ofNat 32 Decoder.PayloadVertexTiler32.size) = slot base i + BitVec.ofNat 32 JobDescriptorHeader.size :=
    payload_found placed inside resolves positive (by decide) (by decide)
  apply vertexTiler_yields placed inside resolves positive laid.header type laid.header
  rw [yields_traceVertexTiler env (placed.slot_ne_zero positive inside), Mapped, place]
  refine ⟨nonnull, .inl ⟨?_, rfl, rfl⟩⟩
  have fifth : Decoder.PayloadVertexTiler32.shader = Decoder.PayloadVertexTiler32.zeroes + 4 * 5 := rfl
  rw [trapped, fifth, laid.word named]
  exact trap

end Jobs

section Vertices

variable {env : Env 32} {base : BitVec 32} {b : Nat} {vertices : Buffer}

theorem Buffer.size_toNat (buffer : Buffer) : buffer.size.toNat = buffer.bytes.length := by
  rw [Buffer.size, BitVec.toNat_ofNat, Nat.mod_eq_of_lt buffer.fits]

/-- The process once the vertices behind the attribute buffer at slot `b` are traced. -/
def flared (env : Env 32) (base : BitVec 32) (b : Nat) (vertices : Buffer) (s : Proc 32) : Proc 32 :=
  flareVertices env 3#32 (vertices.bytes.length / 12)
    (fetchMappedGpu env.mmaps ((slot base (b + 1)).setWidth 64) vertices.size) s

variable (placed : Placed base) (resolves : ArenaResolves env base)
  (room : b + (2 + vertices.kilobytes) ≤ arenaSlots)
include placed resolves room

theorem vertices_found (some : 0 < vertices.bytes.length) :
    fetchMappedGpu env.mmaps ((slot base (b + 1)).setWidth 64) vertices.size = slot base (b + 1) := by
  have kilobytes : vertices.kilobytes = vertices.bytes.length / 0x400 := rfl
  exact fetch_slot placed resolves (Nat.succ_pos b) some (by omega)

theorem flared_changes (s : Proc 32) :
    Changes (slots base (b + 1) (b + (2 + vertices.kilobytes))) s.mem (flared env base b vertices s).mem := by
  unfold flared
  by_cases few : vertices.bytes.length / 12 = 0
  · rw [few]
    exact Changes.refl _ s.mem
  · rw [vertices_found placed resolves room (by omega)]
    apply (flareVertices_changes env _ _ s).mono
    have kilobytes : vertices.kilobytes = vertices.bytes.length / 0x400 := rfl
    have start : slot base (b + 1) = slot base (b + 1) + BitVec.ofNat 32 0 := (BitVec.add_zero _).symm
    rw [start]
    exact placed.region_slots (by omega) (by omega) (by omega)

theorem attribute_leaves {s : Proc 32} (positive : 0 < b)
    (uploaded : AttributeBuffer.load s.mem (slot base b) =
      ⟨(slot base (b + 1)).setWidth 64 ||| 1#64, BitVec.ofNat 32 (4 * xyzComponentCount), vertices.size⟩) :
    AttributeLeaves env s ((slot base b).setWidth 64) (flared env base b vertices s) := by
  have found : fetchMappedGpu env.mmaps ((slot base b).setWidth 64) (BitVec.ofNat 32 (AttributeBuffer.size 32)) =
      slot base b := fetch_slot placed resolves positive (by decide) (by unfold AttributeBuffer.size; omega)
  have buffer : attributeBuffer env s.mem ((slot base b).setWidth 64) =
      ⟨(slot base (b + 1)).setWidth 64 ||| 1#64, BitVec.ofNat 32 (4 * xyzComponentCount), vertices.size⟩ := by
    rw [attributeBuffer, found, uploaded]
  have count : (vertices.size / BitVec.ofNat 32 (4 * xyzComponentCount)).toNat = vertices.bytes.length / 12 := by
    rw [BitVec.toNat_udiv, vertices.size_toNat]
    rfl
  refine .inr ⟨?_, ?_⟩
  · rw [Mapped, found]
    exact placed.slot_ne_zero positive (by omega)
  · have stride : BitVec.ofNat 32 (4 * xyzComponentCount) ≠ 0#32 := by decide
    have components : BitVec.ofNat 32 (4 * xyzComponentCount) / 4#32 = 3#32 := by decide
    rw [buffer]
    refine ⟨stride, ?_⟩
    rw [attributeData_slot placed (by omega)]
    dsimp only
    rw [components]
    refine ⟨(vertices.size / _).isLt, ?_, ?_⟩
    · intro some
      have vertex := positive_of_ne_zero.mpr some
      rw [count] at vertex
      rw [vertices_found placed resolves room (by omega)]
      exact placed.slot_ne_zero (Nat.succ_pos b) (by omega)
    · rw [count]
      rfl

end Vertices

def importedLength (shader : Buffer) : Nat := 0x1000 * (1 + shader.bytes.length / 0x1000)

theorem shader_page {env : Env 32} {gpu : BitVec 64} {cpu : BitVec 32} {shader : Buffer}
    (resolves : Resolves env gpu cpu (importedLength shader)) :
    fetchMappedGpu env.mmaps gpu (BitVec.ofNat 32 (0x880 - 0x540)) = cpu := by
  have found := resolves 0 (0x880 - 0x540) (by decide) (by unfold importedLength; omega)
  rwa [BitVec.add_zero, BitVec.add_zero] at found

section Chain

variable {env : Env 32} {base : BitVec 32} {b f k : Nat} {s : Proc 32} {vertices vertexShader : Buffer}
  {scratchpad gpu : BitVec 64} {cpu zeroes mode : BitVec 32}
  (placed : Placed base) (resolves : ArenaResolves env base) (positive : 0 < b)
  (vertexRoom : b + (2 + vertices.kilobytes) ≤ f) (order : f < k) (room : k + 19 ≤ arenaSlots)
  (laid : ChainLaid base b f k vertices vertexShader scratchpad gpu cpu (chainPayload base b f k false zeroes mode)
    (chainPayload base b f k true zeroes mode) s.mem)

def vertexPayload (base : BitVec 32) (k : Nat) : BitVec 32 :=
  slot base (k + 1) + BitVec.ofNat 32 JobDescriptorHeader.size

section

include placed resolves room laid

theorem shader_found (aligned : gpu.toNat % 0x1000 = 0) :
    fetchMappedGpu env.mmaps (shaderMeta s.mem (vertexPayload base k)) 8#32 = slot base (k + 4) ∧
      shaderCode env s.mem (vertexPayload base k) = gpu := by
  have fifth : Decoder.PayloadVertexTiler32.shader = Decoder.PayloadVertexTiler32.zeroes + 4 * 5 := rfl
  have named : (chainPayload base b f k false zeroes mode).pointers[5]? = some (slot base (k + 4)) := rfl
  have metadata : shaderMeta s.mem (vertexPayload base k) = (slot base (k + 4)).setWidth 64 := by
    rw [shaderMeta, fifth, vertexPayload, laid.vertex.word named]
  have found : fetchMappedGpu env.mmaps (shaderMeta s.mem (vertexPayload base k)) 8#32 = slot base (k + 4) := by
    rw [metadata]
    exact fetch_slot placed resolves (Nat.succ_pos _) (by decide) (by omega)
  refine ⟨found, ?_⟩
  rw [shaderCode, found]
  have word : s.mem.read 64 (slot base (k + 4)) 0 = taggedShader gpu false := laid.shader
  rw [word]
  exact taggedShader_stripped aligned

theorem set_yields (started : 0 < k) :
    Yields (fun n => traceJob env n (jobAddress base k)) s
      [.descriptor (jobAddress base k) 2, .setValue (scratchpad + svOffset)] (some (jobAddress base (k + 1))) s := by
  have next : jobAddress base (k + 1) ≠ 0#64 := jobAddress_ne_zero placed (by omega) (by omega)
  have traced := setValue_yields placed (by omega) resolves started laid.set rfl laid.setValue
  have whole : Yields (fun n => traceJob env n (jobAddress base k)) s _
      (if jobAddress base (k + 1) = 0#64 then none else some (jobAddress base (k + 1))) s := traced
  rw [if_neg next] at whole
  exact whole

end

include placed vertexRoom order room

theorem flared_read {i width off : Nat} (resolves : ArenaResolves env base) (behind : f ≤ i) (inside : i < arenaSlots)
    (part : off + width / 8 ≤ 0x400) :
    (flared env base b vertices s).mem.read width (slot base i) off = s.mem.read width (slot base i) off :=
  placed.read_apart (flared_changes placed resolves (by omega) s) (slots_disjoint (.inr (by omega))) inside part

include resolves laid

theorem rest_mapped : RestMapped env (flared env base b vertices s).mem (slot base (k + 1)) (vertexPayload base k) ∧
    fbdAddress (payloadFbd (flared env base b vertices s).mem (vertexPayload base k)) = (slot base f).setWidth 64 := by
  have vertex := laid.vertex.keep fun _ _ part =>
    flared_read placed vertexRoom order room (s := s) resolves (by omega) (by omega) part
  have twelfth : Decoder.PayloadVertexTiler32.fbd = Decoder.PayloadVertexTiler32.zeroes + 4 * 12 := rfl
  have named : (chainPayload base b f k false zeroes mode).pointers[12]? = some (slot base f ||| BitVec.ofNat 32 fbdType) :=
    rfl
  have unknown5 : (chainPayload base b f k false zeroes mode).pointers[8]? = some (slot base (k + 6)) := rfl
  have unknown1 : (chainPayload base b f k false zeroes mode).pointers[1]? = some (slot base (k + 2)) := rfl
  have mapped (i n : Nat) (positive : 0 < i) (inside : i < arenaSlots) (some : 0 < n) (small : n ≤ 0x400) :
      Mapped env ((slot base i).setWidth 64) (BitVec.ofNat 32 n) := by
    rw [Mapped, fetch_slot placed resolves positive some (by omega)]
    exact placed.slot_ne_zero positive inside
  have framebuffer : fbdAddress (payloadFbd (flared env base b vertices s).mem (vertexPayload base k)) =
      (slot base f).setWidth 64 := by
    rw [payloadFbd, twelfth, vertexPayload, vertex.word named, fbdAddress_slot placed (by omega)]
  refine ⟨⟨?_, ?_⟩, framebuffer⟩
  · rw [FbdMapped, framebuffer]
    exact mapped f _ (by omega) (by omega) (by decide) (by decide)
  · intro addr _ looked _
    rw [vertex.header] at looked
    rcases looked with rfl | rfl | ⟨-, tiler⟩
    · rw [vertexPayload, vertex.word unknown5]
      exact mapped (k + 6) _ (by omega) (by omega) (by decide) (by decide)
    · rw [vertexPayload, vertex.word unknown1]
      exact mapped (k + 2) _ (by omega) (by omega) (by decide) (by decide)
    · have other : jobTypeVertex ≠ jobTypeTiler := by decide
      exact absurd tiler other

theorem tiler_yields :
    Yields (fun n => traceJob env n (jobAddress base (k + 10))) (flared env base b vertices s)
      [.descriptor (jobAddress base (k + 10)) 7] none (flared env base b vertices s) := by
  have tiler := laid.tiler.keep fun _ _ part =>
    flared_read placed vertexRoom order room (s := s) resolves (by omega) (by omega) part
  have named : (chainPayload base b f k true zeroes mode).pointers[5]? = some 0x5AB00A05#32 := rfl
  exact trapped_yields placed (by omega) resolves (Nat.succ_pos _) tiler (.inr rfl) named (by decide)

include positive

theorem attributes_yield :
    Yields (fun n => traceAttributes env (vertexPayload base k) n (attributeMeta s.mem (vertexPayload base k))) s
      [.attribute 0#64] () (flared env base b vertices s) := by
  have nonnull : vertexPayload base k ≠ 0#32 := payload_ne_zero placed (by omega)
  have seventh : Decoder.PayloadVertexTiler32.attributeMeta = Decoder.PayloadVertexTiler32.zeroes + 4 * 7 := rfl
  have metadata : (chainPayload base b f k false zeroes mode).pointers[7]? = some (slot base (k + 5)) := rfl
  have sixth : Decoder.PayloadVertexTiler32.attributes = Decoder.PayloadVertexTiler32.zeroes + 4 * 6 := rfl
  have attributes : (chainPayload base b f k false zeroes mode).pointers[6]? = some (slot base b) := rfl
  have start : attributeMeta s.mem (vertexPayload base k) = (slot base (k + 5)).setWidth 64 := by
    rw [attributeMeta, seventh, vertexPayload, laid.vertex.word metadata]
  have buffer : s.mem.read 32 (vertexPayload base k) Decoder.PayloadVertexTiler32.attributes = slot base b := by
    rw [sixth, vertexPayload, laid.vertex.word attributes]
  have firstFound : fetchMappedGpu env.mmaps ((slot base (k + 5)).setWidth 64) (BitVec.ofNat 32 attributeMetaSize) =
      slot base (k + 5) := fetch_slot placed resolves (Nat.succ_pos _) (by decide) (by unfold attributeMetaSize; omega)
  have secondFound : fetchMappedGpu env.mmaps ((slot base (k + 5)).setWidth 64 + BitVec.ofNat 64 attributeMetaSize)
      (BitVec.ofNat 32 attributeMetaSize) = slot base (k + 5) + BitVec.ofNat 32 attributeMetaSize :=
    fetch_part placed resolves (Nat.succ_pos _) (by decide) (by unfold attributeMetaSize; omega)
  have firstWord : metaWord env s.mem ((slot base (k + 5)).setWidth 64) = 0x2DEA2200#64 := by
    rw [metaWord, firstFound]
    exact laid.metadata.1
  have secondWord : metaWord env (flared env base b vertices s).mem
      ((slot base (k + 5)).setWidth 64 + BitVec.ofNat 64 attributeMetaSize) = 0#64 := by
    rw [metaWord, secondFound, Memory.read_part,
      flared_read placed vertexRoom order room resolves (by omega) (by omega) (by decide)]
    exact laid.metadata.2
  have selected : attributeAddress env (vertexPayload base k) s.mem ((slot base (k + 5)).setWidth 64) =
      (slot base b).setWidth 64 := by
    have number : attributeNo 0x2DEA2200#64 * BitVec.ofNat 64 (AttributeBuffer.size 32) = 0#64 := by decide
    rw [attributeAddress, firstWord, buffer, number, BitVec.add_zero]
  have fuelled := fuelled_traceAttributeWord env (vertexPayload base k)
  rw [start]
  have first : Yields (fun n => traceAttributeWord env (vertexPayload base k) n ((slot base (k + 5)).setWidth 64)) s
      [.attribute 0#64] (some ((slot base (k + 5)).setWidth 64 + BitVec.ofNat 64 attributeMetaSize))
      (flared env base b vertices s) := by
    rw [yields_traceAttributeWord env nonnull, firstWord, selected, Mapped, firstFound]
    refine ⟨placed.slot_ne_zero (Nat.succ_pos _) (by omega), .inr ⟨by decide, rfl, rfl, ?_⟩⟩
    exact attribute_leaves placed resolves (by omega) positive laid.attributes
  have last : Yields (fun n => traceAttributeWord env (vertexPayload base k) n
      ((slot base (k + 5)).setWidth 64 + BitVec.ofNat 64 attributeMetaSize)) (flared env base b vertices s) [] none
      (flared env base b vertices s) := by
    rw [yields_traceAttributeWord env nonnull, secondWord, Mapped, secondFound]
    exact ⟨part_ne_zero placed (by omega) (by decide) (by decide), .inl ⟨rfl, rfl, rfl, rfl⟩⟩
  exact first.next fuelled (last.last fuelled)

/-- Tracing the vertex job finds its shader, one attribute and the framebuffer descriptor. -/
theorem vertex_yields (untrapped : sabotaged (slot base (k + 4)) = false) (aligned : gpu.toNat % 0x1000 = 0)
    (shader : Resolves env gpu cpu (importedLength vertexShader)) (nonnull : cpu ≠ 0#32) :
    Yields (fun n => traceJob env n (jobAddress base (k + 1))) s
      [.descriptor (jobAddress base (k + 1)) 5, .shader gpu, .attribute 0#64, .framebuffer ((slot base f).setWidth 64)]
      (some (jobAddress base (k + 10))) (flared env base b vertices s) := by
  have vertex := laid.vertex.keep fun _ _ part =>
    flared_read placed vertexRoom order room (s := s) resolves (by omega) (by omega) part
  have place : fetchMappedGpu env.mmaps (payloadOf (jobAddress base (k + 1)))
      (BitVec.ofNat 32 Decoder.PayloadVertexTiler32.size) = vertexPayload base k :=
    payload_found placed (by omega) resolves (Nat.succ_pos k) (by decide) (by decide)
  have fifth : Decoder.PayloadVertexTiler32.shader = Decoder.PayloadVertexTiler32.zeroes + 4 * 5 := rfl
  have named : (chainPayload base b f k false zeroes mode).pointers[5]? = some (slot base (k + 4)) := rfl
  obtain ⟨metaFound, code⟩ := shader_found placed resolves room laid aligned
  obtain ⟨rest, framebuffer⟩ := rest_mapped placed resolves vertexRoom order room laid
  have attributes := attributes_yield placed resolves positive vertexRoom order room laid
  have payload : Yields (fun n => traceVertexTiler env n (slot base (k + 1)) (payloadOf (jobAddress base (k + 1)))) s
      [.shader gpu, .attribute 0#64, .framebuffer ((slot base f).setWidth 64)] () (flared env base b vertices s) := by
    rw [yields_traceVertexTiler env (placed.slot_ne_zero (Nat.succ_pos k) (by omega)), Mapped, place]
    refine ⟨payload_ne_zero placed (by omega), .inr ⟨?_, ⟨?_, ?_⟩, rest, [.attribute 0#64], attributes, ?_⟩⟩
    · rw [trapped, fifth, vertexPayload, laid.vertex.word named, untrapped]
      exact Bool.false_ne_true
    · rw [Mapped, metaFound]
      exact placed.slot_ne_zero (Nat.succ_pos _) (by omega)
    · rw [Mapped, code, shader_page shader]
      exact nonnull
    · rw [code, framebuffer]
      rfl
  have next : jobAddress base (k + 10) ≠ 0#64 := jobAddress_ne_zero placed (by omega) (by omega)
  have traced :=
    vertexTiler_yields placed (by omega) resolves (Nat.succ_pos k) laid.vertex.header (.inl rfl) vertex.header payload
  have whole : Yields (fun n => traceJob env n (jobAddress base (k + 1))) s _
      (if jobAddress base (k + 10) = 0#64 then none else some (jobAddress base (k + 10))) _ := traced
  rw [if_neg next] at whole
  exact whole

theorem chain_yields (untrapped : sabotaged (slot base (k + 4)) = false) (aligned : gpu.toNat % 0x1000 = 0)
    (shader : Resolves env gpu cpu (importedLength vertexShader)) (nonnull : cpu ≠ 0#32) :
    Yields (fun n => chaiTraceHwChain env n (jobAddress base k)) s [
      .descriptor (jobAddress base k) 2, .setValue (scratchpad + svOffset),
      .descriptor (jobAddress base (k + 1)) 5, .shader gpu, .attribute 0#64, .framebuffer ((slot base f).setWidth 64),
      .descriptor (jobAddress base (k + 10)) 7] () (flared env base b vertices s) := by
  have fuelled := fuelled_traceJob env
  have set := set_yields placed resolves room laid (by omega)
  have vertex := vertex_yields placed resolves positive vertexRoom order room laid untrapped aligned shader nonnull
  have tiler := tiler_yields placed resolves vertexRoom order room laid
  exact set.next fuelled (vertex.next fuelled (tiler.last fuelled))

end Chain

section RoundTrip

/-- Jobs that a scheduler can run one after the other: their indices name them, and none waits for a later one. -/
structure Ordered (jobs : List JobDescriptorHeader) : Prop where
  named : ∀ job ∈ jobs, job.jobIndex ≠ 0#16
  distinct : (jobs.map (·.jobIndex)).Nodup
  earlier : ∀ (i : Nat) job, jobs[i]? = some job →
    ∀ dependency ∈ [job.jobDependencyIndex1, job.jobDependencyIndex2], dependency ≠ 0#16 →
      dependency ∈ (jobs.take i).map (·.jobIndex)

/-- The chain at `jc` decodes to what `job_chain_vertex_tiler` was asked for. -/
def ChainDecodes (env : Env 32) (s : Proc 32) (jc scratchpad gpu : BitVec 64) (vertexShader : Buffer) : Prop :=
  ∃ set vertex tiler fbd t,
    Yields (fun fuel => chaiTraceHwChain env fuel jc) s [
      .descriptor set jobTypeSetValue.toNat, .setValue (scratchpad + svOffset),
      .descriptor vertex jobTypeVertex.toNat, .shader gpu, .attribute 0#64, .framebuffer fbd,
      .descriptor tiler jobTypeTiler.toNat] () t ∧
    Ordered ([set, vertex, tiler].map fun chain => JobDescriptorHeader.load s.mem (headerOf env chain)) ∧
    (TentativeMfbd.load s.mem (fetchMappedGpu env.mmaps fbd (BitVec.ofNat 32 TentativeMfbd.size))).block2 0 =
      scratchpad + svOffset ∧
    s.mem.bytes (fetchMappedGpu env.mmaps gpu (BitVec.ofNat 32 (0x880 - 0x540))) vertexShader.bytes.length =
      vertexShader.bytes

variable {kernel : Kernel} {fd base : BitVec 32} {k : Nat} {d : State}
  {vertices vertexShader fragmentShader : Buffer} {mode : BitVec 32}
  {heapFreeAddress scratchpad gpu gpu' : BitVec 64} {cpu cpu' : BitVec 32}

theorem chain_ordered {set vertex tiler : JobDescriptorHeader}
    (indices : set.jobIndex = 3#16 ∧ vertex.jobIndex = 1#16 ∧ tiler.jobIndex = 2#16)
    (setFree : set.jobDependencyIndex1 = 0#16 ∧ set.jobDependencyIndex2 = 0#16)
    (vertexWaits : vertex.jobDependencyIndex1 = 0#16 ∧ vertex.jobDependencyIndex2 = 3#16)
    (tilerWaits : tiler.jobDependencyIndex1 = 1#16 ∧ tiler.jobDependencyIndex2 = 0#16) :
    Ordered [set, vertex, tiler] where
  named := by simp [indices]
  distinct := by simp [indices]
  earlier := by
    intro i job found
    rcases i with _ | _ | _ | i
    · obtain rfl : set = job := Option.some.inj found
      simp [setFree]
    · obtain rfl : vertex = job := Option.some.inj found
      simp [vertexWaits, indices]
    · obtain rfl : tiler = job := Option.some.inj found
      simp [tilerWaits, indices]
    · cases found

/-- What `job_chain_vertex_tiler` synthesises decodes to what it synthesised. -/
theorem synthesised_decodes (arena : Arena base k d) (started : 0 < k)
    (room : k + (22 + vertices.kilobytes) ≤ arenaSlots)
    (serves : Serves kernel base d vertexShader fragmentShader gpu gpu' cpu cpu') (aligned : gpu.toNat % 0x1000 = 0)
    (untrapped : sabotaged (slot base (k + (2 + vertices.kilobytes) + 5)) = false) :
    Meets (jobChainVertexTiler kernel fd vertices mode vertexShader fragmentShader heapFreeAddress scratchpad) d
      fun events _ d' => ∃ atom, submitted events = [atom] ∧ ∀ env rands, ArenaResolves env base →
        Resolves env gpu cpu (importedLength vertexShader) →
          ChainDecodes env ⟨d'.mem, rands⟩ atom.jc scratchpad gpu vertexShader := by
  have placed := arena.cursor.placed
  refine (jobChainVertexTiler_meets arena room serves).mono ?_
  rintro events _ d' ⟨atoms, zeroes, laid⟩
  refine ⟨_, atoms, ?_⟩
  intro env rands resolves shader
  have yields := chain_yields (s := ⟨d'.mem, rands⟩) placed resolves started (Nat.le_refl _) (Nat.lt_succ_self _) (by omega)
    laid untrapped aligned shader serves.vertex.nonnull
  refine ⟨_, _, _, _, _, yields, ?_, ?_, ?_⟩
  · rw [List.map_cons, List.map_cons, List.map_cons, List.map_nil, header_found placed (by omega) resolves (by omega),
      header_found placed (by omega) resolves (by omega), header_found placed (by omega) resolves (by omega), laid.set, laid.vertex.header,
      laid.tiler.header]
    exact chain_ordered ⟨rfl, rfl, rfl⟩ ⟨rfl, rfl⟩ ⟨rfl, rfl⟩ ⟨rfl, rfl⟩
  · rw [fetch_slot placed resolves (by omega) (by decide) (by unfold TentativeMfbd.size; omega)]
    exact laid.framebuffer
  · rw [shader_page shader]
    exact laid.code

end RoundTrip

section Witness

def spreadingKernel : Kernel where
  memAlloc := fun n => some (BitVec.ofNat 64 (0x20000000 + 0x1000000 * n))
  mmap64 := fun n => BitVec.ofNat 32 (0x10000000 + 0x1000000 * n)
  jobSubmit := fun _ => true
  strerror := fun _ => ""

def initialised : State :=
  { State.start (fun _ => 0#8) with cbmaBottom := 0x11000000#32, cbmaTop := 0x11000000#32, calls := 2 }

def triangle : Buffer := ⟨List.replicate 36 0#8, by decide⟩
def tinyShader : Buffer := ⟨[0x1F#8, 0x00#8, 0x85#8], by decide⟩

def arenaMapping : MappedMemory 32 := ⟨0x400000#32, 0x11000000#32, 0x11000000#64⟩
def shaderMapping : MappedMemory 32 := ⟨0x1000#32, 0x15000000#32, 0x24000000#64⟩

def tracedMappings : Env 32 where
  mmaps := [arenaMapping, shaderMapping]
  enableHexdumpTrimming := true
  flare := fun _ word => word

theorem tracedMappings_arena : ArenaResolves tracedMappings 0x11000000#32 := by
  intro off n _ some fits
  have resolves : Resolves tracedMappings arenaMapping.gpuVa arenaMapping.addr arenaMapping.length.toNat := by
    apply resolves_of_found (by decide) (by decide)
    intro addr low high
    exact List.find?_cons_of_pos ((MappedMemory.gpuContains_iff (by decide) (by decide) addr).mpr ⟨low, Nat.le_of_lt high⟩)
  exact resolves off n some fits

theorem tracedMappings_shader : Resolves tracedMappings 0x24000000#64 0x15000000#32 (importedLength tinyShader) := by
  have resolves : Resolves tracedMappings shaderMapping.gpuVa shaderMapping.addr shaderMapping.length.toNat := by
    apply resolves_of_found (by decide) (by decide)
    intro addr low high
    have other : ¬ arenaMapping.gpuContains addr = true := by
      rw [MappedMemory.gpuContains_iff (by decide) (by decide)]
      rintro ⟨-, inside⟩
      have before : arenaMapping.gpuSpan.stop < shaderMapping.gpuVa.toNat := by decide
      omega
    have here : shaderMapping.gpuContains addr = true :=
      (MappedMemory.gpuContains_iff (by decide) (by decide) addr).mpr ⟨low, Nat.le_of_lt high⟩
    simp only [findGpuMappedMem, tracedMappings, List.find?_cons, other, here]
  exact resolves

theorem spreadingKernel_serves :
    Serves spreadingKernel 0x11000000#32 initialised tinyShader tinyShader 0x24000000#64 0x26000000#64 0x15000000#32
      0x17000000#32 where
  zeroes := rfl
  vertex := ⟨rfl, rfl, by decide, by decide⟩
  fragment := ⟨rfl, rfl, by decide, by decide⟩
  vertexApart := by
    rw [region_between (by decide)]
    exact between_disjoint (by decide)
  fragmentApart := by
    rw [region_between (by decide)]
    exact between_disjoint (by decide)
  shadersApart := by
    rw [region_between (by decide), region_between (by decide)]
    exact between_disjoint (by decide)
  room := by decide
  submits := fun _ => rfl

theorem initialised_arena : Arena 0x11000000#32 1 initialised where
  cursor := Placed.first ⟨by decide, by decide⟩
  zeroed := fun _ _ => rfl

theorem triangle_decodes :
    ∃ events packet d' atom,
      Runs (jobChainVertexTiler spreadingKernel 3#32 triangle 4#32 tinyShader tinyShader 0x40000000#64 0x30000000#64)
        initialised events packet d' ∧
      submitted events = [atom] ∧ ChainDecodes tracedMappings ⟨d'.mem, 0⟩ atom.jc 0x30000000#64 0x24000000#64 tinyShader := by
  have meets : Meets (jobChainVertexTiler spreadingKernel 3#32 triangle 4#32 tinyShader tinyShader 0x40000000#64
      0x30000000#64) initialised _ :=
    synthesised_decodes initialised_arena (by decide) (by decide) spreadingKernel_serves (by decide) (by decide)
  obtain ⟨events, packet, d', runs, atom, atoms, decodes⟩ := meets
  exact ⟨events, packet, d', atom, runs, atoms, decodes _ _ tracedMappings_arena tracedMappings_shader⟩

end Witness

end Driver
