import Mathlib.Data.FinEnum
import Pantry.Machine.Query
import Pantry.Panwrap.Submission
import Pantry.Panwrap.Wrappers

/-! All that the decoders make of the list of mappings they learn by looking addresses up in it. -/

namespace Panwrap

open Machine Decoder Program

variable {w : Nat} (cfg : Config)

section Trace

theorem queried_fetch (gpuAddr : BitVec 64) (sz : BitVec w) : Queried fun mmaps => fetch (cfg.env mmaps) gpuAddr sz := by
  apply queried_of_find fun pos : MappedMemory w => pos.gpuContains gpuAddr
  intro mmaps mmaps' same
  unfold fetch fetchMappedGpuLog fetchMappedGpu findGpuMappedMem
  simp only [Config.env, same]
  rfl

theorem queried_hexdumpTrimmed (p : BitVec w) (n : Nat) (indent : String) :
    Queried fun mmaps => hexdumpTrimmed (cfg.env mmaps) p n indent := queried_const fun s => hexdumpTrimmed (cfg.env []) p n indent s

theorem queried_assertGpuSame (addr : BitVec 64) (s : Nat) (synth : List Byte) :
    Queried fun mmaps : List (MappedMemory w) => assertGpuSame (cfg.env mmaps) addr s synth := by
  unfold assertGpuSame
  apply (queried_fetch cfg _ _).bind
  intro buffer
  split
  · exact queried_const _
  · apply queried_after
    intro same
    apply queried_whenever
    apply queried_after
    intro _
    apply (queried_const (put (panwrapLogHexdumpTrimmed cfg.enableHexdumpTrimming (some synth) "\t\t"))).bind
    intro _
    exact queried_after fun _ => queried_hexdumpTrimmed cfg _ _ _

theorem queried_assertGpuZeroes (addr : BitVec 64) (s : Nat) :
    Queried fun mmaps : List (MappedMemory w) => assertGpuZeroes (cfg.env mmaps) addr s :=
  queried_after fun _ => queried_assertGpuSame cfg addr s _

theorem queried_quickDumpGpu (addr : BitVec 64) (s : Nat) :
    Queried fun mmaps : List (MappedMemory w) => quickDumpGpu (cfg.env mmaps) addr s := by
  unfold quickDumpGpu
  split
  · exact queried_const _
  · apply (queried_fetch cfg _ _).bind
    intro buf
    apply queried_after
    intro _
    split
    · exact queried_const _
    · exact queried_hexdumpTrimmed cfg _ _ _

theorem queried_traceFbdTable (buf32 : BitVec w) : Queried fun mmaps => traceFbdTable (cfg.env mmaps) buf32 := by
  unfold traceFbdTable
  apply queried_whenever
  apply (queried_hexdumpTrimmed cfg _ _ _).bind
  intro _
  apply queried_forEach
  intro i
  exact queried_after fun addr => queried_quickDumpGpu cfg _ _

theorem queried_chaiTraceFbd (fbd : BitVec 32) :
    Queried fun mmaps : List (MappedMemory w) => chaiTraceFbd (cfg.env mmaps) fbd := by
  unfold chaiTraceFbd
  apply (queried_fetch cfg _ _).bind
  intro mfbd
  apply queried_after
  intro _
  apply queried_after
  intro f
  iterate 2
    apply queried_after
    intro _
  apply (queried_hexdumpTrimmed cfg _ _ _).bind
  intro _
  apply queried_after
  intro _
  apply (queried_fetch cfg _ _).bind
  intro buf
  apply (queried_hexdumpTrimmed cfg _ _ _).bind
  intro _
  iterate 4
    apply (queried_assertGpuZeroes cfg _ _).bind
    intro _
  iterate 2
    apply queried_after
    intro _
  apply (queried_fetch cfg _ _).bind
  intro buf'
  apply (queried_hexdumpTrimmed cfg _ _ _).bind
  intro _
  iterate 2
    apply queried_after
    intro _
  apply (queried_hexdumpTrimmed cfg _ _ _).bind
  intro _
  apply queried_after
  intro _
  apply (queried_hexdumpTrimmed cfg _ _ _).bind
  intro _
  apply queried_after
  intro _
  apply (queried_fetch cfg _ _).bind
  intro buf32
  apply (queried_traceFbdTable cfg _).bind
  intro _
  exact queried_quickDumpGpu cfg _ _

theorem queried_chaiTraceAttribute (fuel : Nat) (address : BitVec 64) :
    Queried fun mmaps : List (MappedMemory w) => chaiTraceAttribute (cfg.env mmaps) fuel address := by
  unfold chaiTraceAttribute
  apply (queried_fetch cfg _ _).bind
  intro vb
  apply queried_whenever
  apply queried_after
  intro b
  split
  · exact queried_const _
  · apply (queried_fetch cfg _ _).bind
    intro v
    apply queried_after
    intro _
    apply (queried_const (traceVertices (cfg.env []) v (b.totalSize / b.elementSize) (b.elementSize / 4#w) fuel)).bind
    intro _
    exact queried_const _

theorem queried_traceAttributes (v : BitVec w) (fuel : Nat) (s : BitVec 64) :
    Queried fun mmaps => traceAttributes (cfg.env mmaps) v fuel s := by
  apply queried_loop
  intro n s
  unfold traceAttributeWord
  apply (queried_fetch cfg _ _).bind
  intro attrMeta
  apply queried_after
  intro word
  split
  · exact queried_const _
  · apply queried_after
    intro _
    apply queried_after
    intro _
    apply queried_after
    intro attributes
    apply (queried_chaiTraceAttribute cfg _ _).bind
    intro _
    exact queried_const _

theorem queried_traceAddress (h v : BitVec w) (addr : Nat) : Queried fun mmaps => traceAddress (cfg.env mmaps) h v addr := by
  unfold traceAddress
  apply queried_after
  intro address
  apply queried_after
  intro jobType
  apply queried_whenever
  apply queried_after
  intro _
  apply queried_whenever
  apply (queried_fetch cfg _ _).bind
  intro buf
  apply (queried_hexdumpTrimmed cfg _ _ _).bind
  intro _
  have dumps (sub : BitVec 64) (format : String) (args : List Arg) :
      Queried fun mmaps : List (MappedMemory w) => (do
        let sbuf ← fetch (cfg.env mmaps) sub 64#w
        panwrapLog format args
        hexdumpTrimmed (cfg.env mmaps) sbuf 64 "\t\t") := by
    apply (queried_fetch cfg _ _).bind
    intro sbuf
    exact queried_after fun _ => queried_hexdumpTrimmed cfg _ _ _
  apply (queried_whenever (queried_after fun _ => dumps _ _ _)).bind
  intro _
  apply (queried_whenever (queried_after fun _ => dumps _ _ _)).bind
  intro _
  exact queried_const _

theorem queried_traceShader (h v : BitVec w) : Queried fun mmaps => traceShader (cfg.env mmaps) h v := by
  unfold traceShader
  apply queried_after
  intro shaderMeta
  apply (queried_fetch cfg _ _).bind
  intro iShader
  apply queried_after
  intro word
  apply queried_after
  intro jobType
  apply queried_after
  intro _
  apply queried_after
  intro _
  apply (queried_fetch cfg _ _).bind
  intro shader
  apply (queried_hexdumpTrimmed cfg _ _ _).bind
  intro _
  exact queried_const _

theorem queried_traceVertexTilerRest (h v : BitVec w) :
    Queried fun mmaps => traceVertexTilerRest (cfg.env mmaps) h v := by
  unfold traceVertexTilerRest
  apply queried_after
  intro jobType
  apply queried_after
  intro _
  apply queried_after
  intro word
  apply (queried_assertGpuZeroes cfg _ _).bind
  intro _
  apply queried_after
  intro _
  apply queried_after
  intro _
  apply (queried_chaiTraceFbd cfg _).bind
  intro _
  apply (queried_hexdumpTrimmed cfg _ _ _).bind
  intro _
  apply (queried_forEach (fun addr => queried_traceAddress cfg h v addr) _).bind
  intro _
  exact queried_hexdumpTrimmed cfg _ _ _

theorem queried_traceVertexTiler (fuel : Nat) (h : BitVec w) (payload : BitVec 64) :
    Queried fun mmaps => traceVertexTiler (cfg.env mmaps) fuel h payload := by
  unfold traceVertexTiler
  apply (queried_fetch cfg _ _).bind
  intro v
  apply queried_after
  intro shader
  split
  · exact queried_const _
  · apply (queried_traceShader cfg _ _).bind
    intro _
    apply queried_after
    intro attributeMeta
    apply (queried_traceAttributes cfg _ _ _).bind
    intro _
    exact queried_traceVertexTilerRest cfg _ _

theorem queried_tracePayload (fuel : Nat) (h : BitVec w) (payload : BitVec 64) :
    Queried fun mmaps => tracePayload (cfg.env mmaps) fuel h payload := by
  unfold tracePayload
  apply queried_after
  intro jobType
  split
  · exact (queried_fetch cfg _ _).bind fun _ => queried_const _
  · split
    · exact queried_traceVertexTiler cfg _ _ _
    · split
      · exact (queried_fetch cfg _ _).bind fun _ => queried_after fun _ => queried_after fun _ => queried_chaiTraceFbd cfg _
      · exact queried_after fun _ => queried_after fun _ => (queried_fetch cfg _ _).bind fun _ => queried_hexdumpTrimmed cfg _ _ _

theorem queried_chaiTraceHwChain (fuel : Nat) (jc : BitVec 64) :
    Queried fun mmaps : List (MappedMemory w) => chaiTraceHwChain (cfg.env mmaps) fuel jc := by
  apply queried_loop
  intro n chain
  unfold traceJob
  apply (queried_fetch cfg _ _).bind
  intro h
  split
  · exact queried_const _
  · apply queried_after
    intro _
    apply (queried_tracePayload cfg _ _ _).bind
    intro _
    exact queried_const _

theorem queried_chaiTraceAtom (fuel : Nat) (jc : BitVec 64) (coreReq : BitVec 32) :
    Queried fun mmaps : List (MappedMemory w) => chaiTraceAtom (cfg.env mmaps) fuel jc coreReq := by
  unfold chaiTraceAtom
  split
  · split
    · exact (queried_fetch cfg _ _).bind fun _ => queried_const _
    · exact queried_const _
  · exact queried_chaiTraceHwChain cfg _ _

end Trace

section Ioctl

theorem queried_traceAtomIfMapped (fuel : Nat) (i : BitVec 32) (jc : BitVec 64) (coreReq : BitVec 32) :
    Queried fun mmaps : List (MappedMemory w) => traceAtomIfMapped (cfg.env mmaps) fuel i jc coreReq := by
  unfold traceAtomIfMapped
  apply queried_after
  intro _
  apply queried_by_find fun pos : MappedMemory w => pos.cpuContains (jc.setWidth w)
  intro pos
  apply Exists.intro
  apply And.intro
  · intro mmaps found
    simp only [findMappedMemContaining, Config.env, found]
    rfl
  · cases pos with
    | none => exact queried_const _
    | some mem => exact queried_after fun _ => queried_after fun _ => queried_chaiTraceAtom cfg _ _ _

theorem queried_ioctlDecodePreJobSubmit (fuel : Nat) (ptr : BitVec w) :
    Queried fun mmaps => ioctlDecodePreJobSubmit (cfg.env mmaps) fuel ptr := by
  unfold ioctlDecodePreJobSubmit
  apply queried_after
  intro args
  iterate 3
    apply queried_after
    intro _
  split
  · exact queried_const _
  · apply queried_after
    intro _
    apply queried_loop
    intro n i
    unfold traceSubmittedAtom
    apply queried_after
    intro nrAtoms
    split
    · apply queried_after
      intro atom
      exact (queried_traceAtomIfMapped cfg _ _ _ _).bind fun _ => queried_const _
    · exact queried_const _

theorem queried_ioctlDecodePreSync (ptr : BitVec w) : Queried fun mmaps => ioctlDecodePreSync (cfg.env mmaps) ptr := by
  unfold ioctlDecodePreSync
  apply queried_after
  intro args
  apply queried_of_find fun pos : MappedMemory w => pos.addr == args.handle.setWidth w
  intro mmaps mmaps' same
  unfold findMappedMem
  simp only [Config.env, same]

/-- What `ioctl_decode_pre` does depends on the mappings by its lookups alone. -/
theorem queried_ioctlDecodePre (fuel : Nat) (request ptr : BitVec w) :
    Queried fun mmaps => ioctlDecodePre (cfg.env mmaps) fuel request ptr := by
  unfold ioctlDecodePre
  iterate 7 apply queried_ite (queried_const _)
  apply queried_ite (queried_ioctlDecodePreSync cfg ptr)
  iterate 2 apply queried_ite (queried_const _)
  exact queried_ite (queried_ioctlDecodePreJobSubmit cfg fuel ptr) (queried_const _)

theorem fuelled_ioctlDecodePre (env : Env w) (request ptr : BitVec w) :
    Fuelled fun n => ioctlDecodePre env n request ptr := by
  have submit : Fuelled fun n => ioctlDecodePreJobSubmit env n ptr := by
    unfold ioctlDecodePreJobSubmit
    apply (fuelled_const _).bind
    intro args
    iterate 3
      apply (fuelled_const _).bind
      intro _
    split
    · exact fuelled_const _
    · exact (fuelled_const _).bind fun _ => loop_fuelled (fuelled_traceSubmittedAtom env) _
  unfold ioctlDecodePre
  iterate 10 apply fuelled_ite (fuelled_const _)
  exact fuelled_ite submit (fuelled_const _)

instance : Finite (MappedMemory w) := by
  apply Finite.of_injective fun pos : MappedMemory w => (pos.length, pos.addr, pos.gpuVa)
  intro pos pos' same
  cases pos
  cases pos'
  simpa using same

/-- The lookups of a decoder in front of libc's call, and whether it comes to its end by them. -/
theorem exists_lookups (request ptr : BitVec w) (proc : Proc w) : ∃ q : Query (MappedMemory w) Bool,
    ∀ mmaps, q.eval mmaps = true ↔ ∃ fuel, Returns (ioctlDecodePre (cfg.env mmaps) fuel request ptr) proc :=
  asks_returns (fun fuel => queried_ioctlDecodePre cfg fuel request ptr)
    (fun mmaps => fuelled_ioctlDecodePre (cfg.env mmaps) request ptr) proc

end Ioctl

end Panwrap
