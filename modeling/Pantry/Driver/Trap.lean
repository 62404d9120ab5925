import Pantry.Driver.Blocks
import Pantry.Driver.RoundTrip
import Pantry.Decoder.Lines

namespace Driver

open Machine Panwrap Decoder Program

/-- The addresses that the decoder takes for those of a trapped job. -/
def InTrapPages (a : BitVec 32) : Prop := 0x5AB00000 ≤ a.toNat ∧ a.toNat < 0x5AC00000

theorem sabotaged_iff (a : BitVec 32) : sabotaged a = true ↔ InTrapPages a := by
  have mask : 0xFFF00000#32 = ~~~lowMask 32 20 := by decide
  have value : (a &&& 0xFFF00000#32).toNat = a.toNat / 2 ^ 20 * 2 ^ 20 := by
    rw [mask, clear_low_toNat]
  unfold sabotaged InTrapPages
  rw [beq_iff_eq]
  constructor
  · intro same
    rw [same, BitVec.toNat_ofNat] at value
    omega
  · intro inside
    apply BitVec.eq_of_toNat_eq
    rw [value, BitVec.toNat_ofNat]
    omega

section Block

def nextBlock (bottom : BitVec 32) : BitVec 32 := (bottom &&& 0xFFFFFC00#32) + 0x400#32

theorem nextBlock_toNat (bottom : BitVec 32) :
    (nextBlock bottom).toNat = (bottom.toNat / 0x400 * 0x400 + 0x400) % 2 ^ 32 := by
  have mask : 0xFFFFFC00#32 = ~~~lowMask 32 10 := by decide
  rw [nextBlock, BitVec.toNat_add, mask, clear_low_toNat]
  show (bottom.toNat / 2 ^ 10 * 2 ^ 10 + 1024) % 2 ^ 32 = _
  omega

theorem nextBlock_add (bottom : BitVec 32) {n : Nat} (less : n < 0x400) :
    nextBlock (nextBlock bottom + BitVec.ofNat 32 n) = nextBlock bottom + 0x400#32 := by
  have first := nextBlock_toNat bottom
  have second := nextBlock_toNat (nextBlock bottom + BitVec.ofNat 32 n)
  apply BitVec.eq_of_toNat_eq
  rw [BitVec.toNat_add, BitVec.toNat_ofNat] at second
  rw [second, BitVec.toNat_add, BitVec.toNat_ofNat]
  omega

theorem nextBlock_part_ne_zero (bottom : BitVec 32) {off : Nat} (behind : 0 < off) (part : off < 0x400) :
    nextBlock bottom + BitVec.ofNat 32 off ≠ 0#32 := by
  have first := nextBlock_toNat bottom
  intro zero
  have value := congrArg BitVec.toNat zero
  rw [BitVec.toNat_add, BitVec.toNat_ofNat, BitVec.toNat_ofNat] at value
  omega

variable {d : State} {α : Type} {Q : α → State → Prop}

theorem after_galloc_bind {sz : BitVec 32} {f : BitVec 32 → Drive α} {Q : List Event → α → State → Prop} :
    After (galloc sz >>= f) d Q ↔
      After (f (nextBlock d.cbmaBottom)) { d with cbmaBottom := nextBlock d.cbmaBottom + sz } Q := by
  have returns := galloc_returns d sz
  rw [after_bind]
  constructor
  · exact fun after => after _ _ _ returns
  · intro after out p d' runs
    obtain ⟨rfl, rfl, rfl⟩ := runs.unique returns
    exact after

theorem after_bind_any {β : Type} {p : Drive β} {f : β → Drive α} (after : ∀ b d', After (f b) d' fun _ => Q) :
    After (p >>= f) d fun _ => Q := by
  rw [after_bind]
  exact fun _ b d' _ => after b d'

end Block

section Marker

variable {kernel : Kernel} {fd : BitVec 32} {tiler : Bool} {fbd vertexBuffer zeroBuffer mode : BitVec 32} {d : State}

/-- The block that a call of `vertex_tiler_helper` allocates for the job's shader: its fourth one. -/
def shaderBlock (d : State) : BitVec 32 := nextBlock d.cbmaBottom + 0xC00#32

theorem vertexTilerPayload_after {b : BitVec 32} {n : Nat} (less : n < 0x400)
    (start : d.cbmaBottom = nextBlock b + BitVec.ofNat 32 n) :
    After (vertexTilerPayload tiler fbd vertexBuffer zeroBuffer mode) d fun _ payload _ =>
      payload.shader = nextBlock b + 0xC00#32 := by
  unfold vertexTilerPayload
  simp only [after_galloc_bind, after_pure, start]
  rw [nextBlock_add _ (by decide), nextBlock_add _ (by decide), nextBlock_add b less, BitVec.add_assoc, BitVec.add_assoc]
  rfl

theorem vertexTilerHelper_shader {shader : Buffer} :
    After (vertexTilerHelper kernel fd tiler fbd vertexBuffer zeroBuffer mode shader) d fun _ packet d' =>
      packet = nextBlock d.cbmaBottom ∧
        d'.mem.read 32 (packet + BitVec.ofNat 32 JobDescriptorHeader.size) Decoder.PayloadVertexTiler32.shader =
          if tiler then 0x5AB00A05#32 else shaderBlock d := by
  have fifth : Decoder.PayloadVertexTiler32.shader = Decoder.PayloadVertexTiler32.zeroes + 4 * 5 := rfl
  unfold vertexTilerHelper
  rw [after_galloc_bind, after_bind]
  refine After.mono (vertexTilerPayload_after (n := 276) (by decide) rfl) ?_
  intro _ payload _ place
  -- of all the steps after that only the last copy reaches the payload's final bytes
  iterate 14
    apply after_bind_any
    intro _ _
  unfold memcpy
  rw [after_bind, after_modify, after_pure]
  refine ⟨rfl, ?_⟩
  rw [fifth]
  apply read_pointer
  cases tiler with
  | true => rfl
  | false => exact congrArg some place

theorem helper_logged_iff {shader : Buffer} {out : List Event} {packet : BitVec 32} {d' : State} {env : Env 32}
    {payload : BitVec 64} (runs : Runs (vertexTilerHelper kernel fd tiler fbd vertexBuffer zeroBuffer mode shader) d out packet d')
    (found : fetchMappedGpu env.mmaps payload (BitVec.ofNat 32 Decoder.PayloadVertexTiler32.size) =
      packet + BitVec.ofNat 32 JobDescriptorHeader.size) (fuel : Nat) (h : BitVec 32) {s : Proc 32}
    (left : s.mem.read 32 (packet + BitVec.ofNat 32 JobDescriptorHeader.size) Decoder.PayloadVertexTiler32.shader =
      d'.mem.read 32 (packet + BitVec.ofNat 32 JobDescriptorHeader.size) Decoder.PayloadVertexTiler32.shader) :
    .log sabotagedFormat [] ∈ (traceVertexTiler env fuel h payload s).out ↔ tiler = true ∨ InTrapPages (shaderBlock d) := by
  obtain ⟨rfl, word⟩ := vertexTilerHelper_shader _ _ _ runs
  have nonnull : nextBlock d.cbmaBottom + BitVec.ofNat 32 JobDescriptorHeader.size ≠ 0#32 :=
    nextBlock_part_ne_zero d.cbmaBottom (by decide) (by decide)
  rw [sabotaged_logged_iff found nonnull, left, word]
  cases tiler with
  | true => exact iff_of_true (show sabotaged 0x5AB00A05#32 = true by decide) (.inl rfl)
  | false =>
    have plain : (false = true ∨ InTrapPages (shaderBlock d)) ↔ InTrapPages (shaderBlock d) := by simp
    rw [plain]
    exact sabotaged_iff (shaderBlock d)

/-- The marker tells a call's job apart as trapped or not exactly if it is a tiler's or its shader's block
    lies elsewhere. -/
theorem marker_exact_iff {shader : Buffer} {out : List Event} {packet : BitVec 32} {d' : State} {env : Env 32}
    {payload : BitVec 64} (runs : Runs (vertexTilerHelper kernel fd tiler fbd vertexBuffer zeroBuffer mode shader) d out packet d')
    (found : fetchMappedGpu env.mmaps payload (BitVec.ofNat 32 Decoder.PayloadVertexTiler32.size) =
      packet + BitVec.ofNat 32 JobDescriptorHeader.size) (fuel : Nat) (h : BitVec 32) {s : Proc 32}
    (left : s.mem.read 32 (packet + BitVec.ofNat 32 JobDescriptorHeader.size) Decoder.PayloadVertexTiler32.shader =
      d'.mem.read 32 (packet + BitVec.ofNat 32 JobDescriptorHeader.size) Decoder.PayloadVertexTiler32.shader) :
    (.log sabotagedFormat [] ∈ (traceVertexTiler env fuel h payload s).out ↔ tiler = true) ↔
      (tiler = true ∨ ¬ InTrapPages (shaderBlock d)) := by
  rw [helper_logged_iff runs found fuel h left]
  cases tiler <;> simp

section Arena

variable {base : BitVec 32} {k : Nat}

theorem shaderBlock_slot (cursor : Cursor base k d.cbmaBottom) : shaderBlock d = slot base (k + 3) := by
  have next : nextBlock d.cbmaBottom = slot base k := cursor.next
  rw [shaderBlock, next, ← slot_succ, ← slot_succ, ← slot_succ, BitVec.add_assoc, BitVec.add_assoc]
  rfl

end Arena

theorem initialised_vertex_exact :
    ∃ out packet d', Runs (vertexTilerHelper spreadingKernel 3#32 false 0#32 0#32 0#32 4#32 tinyShader) initialised out
        packet d' ∧
      .log sabotagedFormat [] ∉
        (traceVertexTiler tracedMappings 0 packet (payloadOf (jobAddress 0x11000000#32 1)) ⟨d'.mem, 0⟩).out := by
  have cursor := initialised_arena.cursor
  have imports : Imports spreadingKernel initialised.calls 0x22000000#64 0x13000000#32 := ⟨rfl, rfl, by decide, by decide⟩
  have meets : Meets (vertexTilerHelper spreadingKernel 3#32 false 0#32 0#32 0#32 4#32 tinyShader) initialised _ :=
    vertexTilerHelper_meets cursor (by decide) imports tinyShader
  obtain ⟨out, packet, d', runs, place, -⟩ := meets
  have found : fetchMappedGpu tracedMappings.mmaps (payloadOf (jobAddress 0x11000000#32 1))
      (BitVec.ofNat 32 Decoder.PayloadVertexTiler32.size) = packet + BitVec.ofNat 32 JobDescriptorHeader.size := by
    rw [place]
    exact payload_found cursor.placed (by decide) tracedMappings_arena (by decide) (by decide) (by decide)
  have outside : ¬ InTrapPages (shaderBlock initialised) := by
    rw [shaderBlock_slot cursor]
    exact fun inside => absurd inside.1 (by decide)
  refine ⟨out, packet, d', runs, ?_⟩
  intro logged
  exact absurd (((marker_exact_iff runs found 0 packet rfl).mpr (.inr outside)).mp logged) Bool.false_ne_true

def trappingKernel : Kernel where
  memAlloc := fun _ => some 0x24000000#64
  mmap64 := fun n => if n = 1 then 0x5AB00000#32 else 0x13000000#32
  jobSubmit := fun _ => true
  strerror := fun _ => ""

def trappingMappings : Env 32 where
  mmaps := [⟨0x400000#32, 0x5AB00000#32, 0x5AB00000#64⟩]
  enableHexdumpTrimming := true
  flare := fun _ word => word

theorem vertex_reported_sabotaged :
    ∃ out d, Runs (initCbma trappingKernel 3#32) (State.start fun _ => 0#8) out () d ∧
      ∃ out' packet d', Runs (vertexTilerHelper trappingKernel 3#32 false 0#32 0#32 0#32 4#32 tinyShader) d out' packet d' ∧
        fetchMappedGpu trappingMappings.mmaps (payloadOf (packet.setWidth 64))
          (BitVec.ofNat 32 Decoder.PayloadVertexTiler32.size) = packet + BitVec.ofNat 32 JobDescriptorHeader.size ∧
        .log sabotagedFormat [] ∈
          (traceVertexTiler trappingMappings 0 packet (payloadOf (packet.setWidth 64)) ⟨d'.mem, 0⟩).out := by
  have placed : Placed (trappingKernel.mmap64 ((State.start fun _ => 0#8).calls + 1)) := ⟨by decide, by decide⟩
  have meets : Meets (initCbma trappingKernel 3#32) (State.start fun _ => 0#8) _ := initCbma_meets rfl placed
  obtain ⟨out, _, d, initialises, arena⟩ := meets
  have valid : trappingKernel.mmap64 (d.calls + 1) ≠ mapFailed ∧ trappingKernel.mmap64 (d.calls + 1) ≠ 0#32 := by
    unfold trappingKernel
    dsimp only
    split <;> decide
  have imports : Imports trappingKernel d.calls 0x24000000#64 (trappingKernel.mmap64 (d.calls + 1)) :=
    ⟨rfl, rfl, valid.1, valid.2⟩
  have vertex : Meets (vertexTilerHelper trappingKernel 3#32 false 0#32 0#32 0#32 4#32 tinyShader) d _ :=
    vertexTilerHelper_meets arena.cursor (by decide) imports tinyShader
  obtain ⟨out', packet, d', runs, place, -⟩ := vertex
  have found : fetchMappedGpu trappingMappings.mmaps (payloadOf (packet.setWidth 64))
      (BitVec.ofNat 32 Decoder.PayloadVertexTiler32.size) = packet + BitVec.ofNat 32 JobDescriptorHeader.size := by
    rw [place]
    decide
  have inside : InTrapPages (shaderBlock d) := by
    rw [shaderBlock_slot arena.cursor]
    exact ⟨by decide, by decide⟩
  exact ⟨out, d, initialises, out', packet, d', runs, found, (helper_logged_iff runs found 0 packet rfl).mpr (.inr inside)⟩

end Marker

end Driver
