import Pantry.Decoder.Trace
import Pantry.Decoder.Rules

namespace Decoder

open Machine Panwrap Program

variable {w : Nat}

/-- `fetch_mapped_gpu` translates the `sz` bytes at `addr`. -/
def Mapped (env : Env w) (addr : BitVec 64) (sz : BitVec w) : Prop := fetchMappedGpu env.mmaps addr sz ≠ 0#w

instance {env : Env w} {addr : BitVec 64} {sz : BitVec w} : Decidable (Mapped env addr sz) :=
  inferInstanceAs (Decidable (fetchMappedGpu env.mmaps addr sz ≠ 0#w))

section Reports

variable {s : Proc w}

theorem silent_put_print (halves : List (BitVec 16)) :
    Silent (put (halves.map fun u => .print "%f, " [.half u]) : Decode w Unit) := by
  intro s
  refine ⟨_, rfl, ?_⟩
  rw [List.filterMap_map]
  exact List.filterMap_eq_nil_iff.mpr fun _ _ => rfl

theorem silent_assertGpuSame (env : Env w) (addr : BitVec 64) (n : Nat) (synth : List Byte) :
    Silent (assertGpuSame env addr n synth) := by
  apply silent_fetch_bind
  intro buffer
  split
  · exact silent_log _ _
  · rename_i nonnull
    apply silent_deref_bind nonnull
    intro same
    apply silent_whenever
    intro _
    apply (silent_log _ _).bind
    have dumped : Silent (put (panwrapLogHexdumpTrimmed env.enableHexdumpTrimming (some synth) "\t\t") :
        Decode w Unit) := fun _ => ⟨_, rfl, panwrapLogHexdumpTrimmed_unmarked _ _ _⟩
    exact dumped.bind ((silent_log _ _).bind (silent_hexdumpTrimmed _ _ _ _))

theorem silent_assertGpuZeroes (env : Env w) (addr : BitVec 64) (n : Nat) :
    Silent (assertGpuZeroes env addr n) :=
  (silent_printf _ _).bind (silent_assertGpuSame _ _ _ _)

theorem silent_quickDumpGpu (env : Env w) (addr : BitVec 64) (n : Nat) : Silent (quickDumpGpu env addr n) := by
  unfold quickDumpGpu
  split
  · exact silent_log _ _
  · apply silent_fetch_bind
    intro buf
    apply (silent_log _ _).bind
    split
    · exact silent_log _ _
    · exact silent_hexdumpTrimmed _ _ _ _

theorem silent_traceFbdTable (env : Env w) (buf32 : BitVec w) : Silent (traceFbdTable env buf32) := by
  apply silent_whenever
  intro nonnull
  apply (silent_hexdumpTrimmed _ _ _ _).bind
  apply silent_forEach
  intro i
  apply silent_deref_bind nonnull
  intro addr
  exact silent_quickDumpGpu _ _ _

theorem traces_chaiJobTypeName (type : Nat) :
    ∃ name, Traces (chaiJobTypeName type : Decode w String) s [] name s := by
  unfold chaiJobTypeName
  split <;> first
    | exact ⟨_, traces_pure⟩
    | exact ⟨_, (silent_log _ _ s).bind traces_pure⟩

theorem traces_chaiGlModeName (b : BitVec 8) :
    ∃ name, Traces (chaiGlModeName b : Decode w String) s [] name s := by
  unfold chaiGlModeName
  split <;> first
    | exact ⟨_, traces_pure⟩
    | exact ⟨_, (silent_log _ _ s).bind traces_pure⟩

end Reports

def fbdAddress (fbd : BitVec 32) : BitVec 64 := (fbd &&& fbdPointerMask 32).setWidth 64

def FbdMapped (env : Env w) (fbd : BitVec 32) : Prop :=
  Mapped env (fbdAddress fbd) (BitVec.ofNat w TentativeMfbd.size)

theorem checked_chaiTraceFbd (env : Env w) (fbd : BitVec 32) (s : Proc w) :
    Checked (chaiTraceFbd env fbd) s (FbdMapped env fbd) [.framebuffer (fbdAddress fbd)] () s := by
  apply Checked.after (traces_fetch _ _ _)
  apply Checked.after (silent_log _ _ s)
  refine (checked_deref.bind fun _ => checked_of_traces ?_).congr (iff_of_eq (and_true _))
  apply (silent_log _ _ s).bind
  refine (traces_mark _).bind ?_
  simp only [traces_hexdumpTrimmed_bind, traces_log_bind, traces_fetch_bind,
    (silent_assertGpuZeroes _ _ _).traces_bind, (silent_traceFbdTable _ _).traces_bind]
  exact silent_quickDumpGpu _ _ _ s

theorem checked_traceSetValue (env : Env w) (payload : BitVec 64) (s : Proc w) :
    Checked (traceSetValue env payload) s (Mapped env payload (BitVec.ofNat w PayloadSetValue.size))
      [.setValue (PayloadSetValue.load s.mem
        (fetchMappedGpu env.mmaps payload (BitVec.ofNat w PayloadSetValue.size))).out] () s := by
  apply Checked.after (traces_fetch _ _ _)
  refine (checked_deref.bind fun _ => checked_of_traces ?_).congr (iff_of_eq (and_true _))
  exact (silent_log _ _ s).bind (traces_mark _)

def fragmentFbd (env : Env w) (m : Memory w) (payload : BitVec 64) : BitVec 32 :=
  (PayloadFragment.load m (fetchMappedGpu env.mmaps payload (BitVec.ofNat w PayloadFragment.size))).fragmentFbd.setWidth 32

def FragmentMapped (env : Env w) (m : Memory w) (payload : BitVec 64) : Prop :=
  Mapped env payload (BitVec.ofNat w PayloadFragment.size) ∧ FbdMapped env (fragmentFbd env m payload)

theorem checked_traceFragment (env : Env w) (payload : BitVec 64) (s : Proc w) :
    Checked (traceFragment env payload) s (FragmentMapped env s.mem payload)
      [.framebuffer (fbdAddress (fragmentFbd env s.mem payload))] () s := by
  apply Checked.after (traces_fetch _ _ _)
  refine checked_deref.bind fun _ => ?_
  apply Checked.after (silent_log _ _ s)
  exact checked_chaiTraceFbd _ _ s

theorem silent_traceUnknown (env : Env w) (jobType : BitVec 7) (payload : BitVec 64) :
    Silent (traceUnknown env jobType payload) := by
  intro s
  obtain ⟨name, named⟩ := traces_chaiJobTypeName jobType.toNat
  apply named.bind
  apply (silent_log _ _ s).bind
  exact (traces_fetch _ _ _).bind (silent_hexdumpTrimmed _ _ _ _ s)

theorem traces_traceHeader {h : BitVec w} (header : h ≠ 0#w) (chain : BitVec 64) (s : Proc w) :
    Traces (traceHeader h chain) s
      [.descriptor chain (JobDescriptorHeader.load s.mem h).jobType.toNat] () s := by
  apply (traces_deref header _).bind
  obtain ⟨name, named⟩ := traces_chaiJobTypeName (JobDescriptorHeader.load s.mem h).jobType.toNat
  apply named.bind
  exact (silent_log _ _ s).bind (traces_mark _)

section VertexTiler

def shaderMeta (m : Memory w) (v : BitVec w) : BitVec 64 :=
  (m.read 32 v PayloadVertexTiler32.shader).setWidth 64

def shaderCode (env : Env w) (m : Memory w) (v : BitVec w) : BitVec 64 :=
  m.read 64 (fetchMappedGpu env.mmaps (shaderMeta m v) 8#w) 0 &&& ~~~15#64

def ShaderMapped (env : Env w) (m : Memory w) (v : BitVec w) : Prop :=
  Mapped env (shaderMeta m v) 8#w ∧ Mapped env (shaderCode env m v) (BitVec.ofNat w (0x880 - 0x540))

theorem checked_traceShader (env : Env w) {h v : BitVec w} (header : h ≠ 0#w) (payload : v ≠ 0#w)
    (s : Proc w) : Checked (traceShader env h v) s (ShaderMapped env s.mem v)
      [.shader (shaderCode env s.mem v)] () s := by
  apply Checked.after (traces_deref payload _)
  apply Checked.after (traces_fetch _ _ _)
  refine checked_deref.bind fun _ => ?_
  apply Checked.after (traces_deref header _)
  apply Checked.after (silent_log _ _ s)
  refine ((checked_of_traces (traces_mark _)).bind fun _ => ?_).congr (iff_of_eq (true_and _))
  apply Checked.after (traces_fetch _ _ _)
  apply Checked.after (silent_hexdumpTrimmed _ _ _ _ s)
  exact checked_deref_silent fun code s => traces_put _

/-- The words of the pointer table that are not only dumped but looked into. -/
def LookedInto (jobType : BitVec 7) (addr : Nat) : Prop :=
  addr = 8 ∨ addr = 1 ∨ (addr = 4 ∧ jobType = jobTypeTiler)

def AddressMapped (env : Env w) (m : Memory w) (h v : BitVec w) (addr : Nat) : Prop :=
  LookedInto (JobDescriptorHeader.load m h).jobType addr →
    m.read 32 v (PayloadVertexTiler32.zeroes + 4 * addr) ≠ 0#32 →
    Mapped env ((m.read 32 v (PayloadVertexTiler32.zeroes + 4 * addr)).setWidth 64)
      (BitVec.ofNat w (addressSize addr))

theorem checked_traceAddress (env : Env w) {h v : BitVec w} (header : h ≠ 0#w) (payload : v ≠ 0#w)
    (addr : Nat) (s : Proc w) :
    Checked (traceAddress env h v addr) s (AddressMapped env s.mem h v addr) [] () s := by
  apply Checked.congr
  · apply Checked.after (traces_deref payload _)
    apply Checked.after (traces_deref header _)
    apply Checked.whenever
    intro _
    apply Checked.after (silent_log _ _ s)
    apply Checked.whenever
    intro _
    apply Checked.after (traces_fetch _ _ _)
    apply Checked.after (silent_hexdumpTrimmed _ _ _ _ s)
    apply Checked.seq
    · apply Checked.whenever
      intro _
      apply checked_deref_silent
      exact fun sub => silent_fetch_bind fun sbuf => (silent_log _ _).bind (silent_hexdumpTrimmed _ _ _ _)
    intro _
    apply Checked.seq
    · apply Checked.whenever
      intro _
      apply checked_deref_silent
      exact fun sub => silent_fetch_bind fun sbuf => (silent_log _ _).bind (silent_hexdumpTrimmed _ _ _ _)
    intro _
    apply Checked.whenever
    intro _
    apply Checked.after (silent_printf _ _ s)
    apply checked_deref_silent
    exact fun halves => (silent_put_print _).bind (silent_printf _ _)
  · constructor
    · intro needs looked nonzero
      have dumped : addr ∉ [2, 3, 6, 11, 12] ∧
          ¬ (addr = 10 ∧ (JobDescriptorHeader.load s.mem h).jobType = jobTypeVertex) := by
        rcases looked with rfl | rfl | ⟨rfl, -⟩ <;> simp
      obtain ⟨at8, at1, at4⟩ := needs dumped nonzero
      rcases looked with is8 | is1 | is4
      · exact at8 is8
      · exact at1 is1
      · exact at4 is4
    · intro mapped _ nonzero
      exact ⟨fun is8 => mapped (.inl is8) nonzero, fun is1 => mapped (.inr (.inl is1)) nonzero,
        fun is4 => mapped (.inr (.inr is4)) nonzero⟩

def payloadFbd (m : Memory w) (v : BitVec w) : BitVec 32 := m.read 32 v PayloadVertexTiler32.fbd

def RestMapped (env : Env w) (m : Memory w) (h v : BitVec w) : Prop :=
  FbdMapped env (payloadFbd m v) ∧ ∀ addr ∈ List.range 14, AddressMapped env m h v addr

theorem checked_traceVertexTilerRest (env : Env w) {h v : BitVec w} (header : h ≠ 0#w) (payload : v ≠ 0#w)
    (s : Proc w) : Checked (traceVertexTilerRest env h v) s (RestMapped env s.mem h v)
      [.framebuffer (fbdAddress (payloadFbd s.mem v))] () s := by
  have mode : Silent (do
      let b ← deref v fun m => m.read 8 v 8
      let mode ← chaiGlModeName b
      panwrapLog "Drawing in %s\n" [.str mode]) := by
    apply silent_deref_bind payload
    intro b s
    obtain ⟨name, named⟩ := traces_chaiGlModeName b
    exact named.bind (silent_log _ _ s)
  apply Checked.after (traces_deref header _)
  apply Checked.after (silent_whenever (fun _ => mode) s)
  apply Checked.after (traces_deref payload _)
  apply Checked.after (silent_assertGpuZeroes _ _ _ s)
  apply Checked.after (silent_whenever (fun _ => silent_log _ _) s)
  apply Checked.after (silent_log _ _ s)
  apply (checked_chaiTraceFbd _ _ s).bind
  intro _
  apply Checked.after (silent_hexdumpTrimmed _ _ _ _ s)
  refine ((Checked.forEach (fun addr => checked_traceAddress env header payload addr s) _).seq
    fun _ => ?_).congr (iff_of_eq (and_true _))
  exact (silent_hexdumpTrimmed _ _ _ _).checked

end VertexTiler

end Decoder
