import Pantry.Decoder.Trace

namespace Decoder

open Machine Panwrap Program

variable {w : Nat}

def fragmentFormat : String :=
  "frag %X %X (%d, %d) -> (%d, %d), fbd type %cFBD at %PRIX64 (%PRIX64) \n"

def mfbdFormat : String := "MFBD @ %X (%X)\n"

def sabotagedFormat : String := "Job sabotaged\n"

/-- The formats that say nothing of where a framebuffer is or whether a job is trapped. -/
def reportFormats : List String :=
  ["%s%08X", "%s<0 repeating %zu times>\n", "NULL pointer dereference(hexdump)\n",
    "Tried to dereference GPU null!\n", "Unmapped GPU mem %PRIx64\n", "GPU memory overflow @ %PRIx64\n",
    "Bad allocation in assert %PRIx64\n", "At %PRIX64, expected:\n", "Instead got:\n",
    "Null quick dump\n", "Quick GPU dump (%PRIX64)\n", "Not found\n",
    "MFBD flags %X, heap free address %PRIX64\n", "unk2\n", "ugaT %PRIX64, uga %PRIX64\n", "ugan %PRIX64\n",
    "unk1 %X, b1 %PRIX64, b2 %PRIX64, unk2 %PRIX64, unk3 %PRIX64, blah %PRIX64\n",
    "Weights [ %X, %X, %X, %X, %X, %X, %X, %X ]\n", "---\n", "--- (seriously though) --- %X\n",
    "\t<%f>,\n", "\t<%f, %f>,\n", "\t<%f, %f, %f>,\n", "\t<%f, %f, %f, %f>,\n", "Cannot print vec%zu\n",
    "attribute vec%zu mem%PRIX64flag%PRIX64 = \x7b\n", "\x7d\n", "Attribute %PRIX64 (flags %PRIX64)\n",
    "Addr %d %X\n", "--- %PRIX64\n", "%s shader @ %PRIX64 (flags %PRIX64)\n", "Unknown mode %X\n", "Drawing in %s\n",
    "Null tripped?\n", "%cFBD\n", "Requested job type %X\n",
    "%s job, %d-bit, status %X, incomplete %X, fault %PRIX64, barrier %d, index %hX, " ++
      "dependencies (%hX, %hX)\n"]

def Plain : Out → Prop
  | .log format _ => format ∈ reportFormats
  | .mark _ => False
  | _ => True

section Hexdump

theorem hexdumpPad_plain (left i : Nat) (alpha : Nat → Char) : ∀ item ∈ hexdumpPad left i alpha, Plain item := by
  induction left generalizing i alpha with
  | zero =>
    intro item member
    cases member
  | succ left ih =>
    unfold hexdumpPad
    split <;> simp only [List.forall_mem_cons, List.cons_append, List.nil_append]
    · exact ⟨trivial, trivial, ih _ _⟩
    · exact ⟨trivial, ih _ _⟩

theorem hexdumpLoop_plain (indent : String) (i : Nat) (alpha : Nat → Char) (content : List (BitVec 8)) :
    ∀ item ∈ hexdumpLoop indent i alpha content, Plain item := by
  induction content generalizing i alpha with
  | nil =>
    unfold hexdumpLoop
    split
    · exact hexdumpPad_plain _ _ _
    · intro item member
      cases member
  | cons byte rest ih =>
    simp only [hexdumpLoop, List.forall_mem_append]
    refine ⟨⟨⟨⟨?_, ?_⟩, ?_⟩, ?_⟩, ih _ _⟩
    · split <;> simp [Plain, reportFormats]
    · split <;> simp [Plain]
    · simp [Plain]
    · split <;> simp [Plain]

theorem panwrapLogHexdump_plain (data : Option (List (BitVec 8))) (indent : String) :
    ∀ item ∈ panwrapLogHexdump data indent, Plain item := by
  cases data with
  | none => simp [panwrapLogHexdump, Plain, reportFormats]
  | some content => exact hexdumpLoop_plain _ _ _ _

theorem panwrapLogHexdumpTrimmed_plain (trim : Bool) (data : Option (List (BitVec 8))) (indent : String) :
    ∀ item ∈ panwrapLogHexdumpTrimmed trim data indent, Plain item := by
  unfold panwrapLogHexdumpTrimmed
  split
  · exact panwrapLogHexdump_plain _ _
  · cases data with
    | none => simp [Plain, reportFormats]
    | some content =>
      dsimp only
      split
      · exact panwrapLogHexdump_plain _ _
      · rw [List.forall_mem_append]
        exact ⟨panwrapLogHexdump_plain _ _, by simp [Plain, reportFormats]⟩

end Hexdump

section Emits

variable {P : Out → Prop} (plain : ∀ item, Plain item → P item) (env : Env w)
include plain

theorem emits_report {format : String} {args : List Arg} (member : format ∈ reportFormats) :
    Emits P (panwrapLog format args : Decode w Unit) := emits_one (plain _ member)

theorem emits_printf {format : String} {args : List Arg} : Emits P (printf format args : Decode w Unit) :=
  emits_one (plain _ trivial)

theorem emits_fetch {gpuAddr : BitVec 64} {sz : BitVec w} : Emits P (fetch env gpuAddr sz) := by
  have logged : ∀ item ∈ fetchMappedGpuLog env.mmaps gpuAddr sz, Plain item := by
    unfold fetchMappedGpuLog
    split
    · simp [Plain, reportFormats]
    · split
      · simp [Plain, reportFormats]
      · split <;> simp [Plain, reportFormats]
  exact fun _ item member => plain item (logged item member)

theorem emits_hexdump {p : BitVec w} {n : Nat} {indent : String} : Emits P (hexdumpTrimmed env p n indent) :=
  fun _ item member => plain item (panwrapLogHexdumpTrimmed_plain _ _ _ item member)

omit plain in
theorem emits_deref {α : Type} {p : BitVec w} {f : Memory w → α} : Emits P (deref p f) := by
  intro s item member
  unfold deref at member
  split at member <;> cases member

theorem emits_assertGpuSame {addr : BitVec 64} {n : Nat} {synth : List Byte} :
    Emits P (assertGpuSame env addr n synth) := by
  apply (emits_fetch plain env).bind
  intro buffer
  split
  · exact emits_report plain (by decide)
  · refine emits_deref.bind fun same => ?_
    apply Emits.whenever
    apply (emits_report plain (by decide)).bind
    intro _
    apply Emits.bind
    · apply emits_put
      exact fun item member => plain item (panwrapLogHexdumpTrimmed_plain _ _ _ item member)
    · intro _
      exact (emits_report plain (by decide)).bind fun _ => emits_hexdump plain env

theorem emits_assertGpuZeroes {addr : BitVec 64} {n : Nat} : Emits P (assertGpuZeroes env addr n) :=
  (emits_printf plain).bind fun _ => emits_assertGpuSame plain env

theorem emits_quickDumpGpu {addr : BitVec 64} {n : Nat} : Emits P (quickDumpGpu env addr n) := by
  unfold quickDumpGpu
  split
  · exact emits_report plain (by decide)
  · apply (emits_fetch plain env).bind
    intro buf
    apply (emits_report plain (by decide)).bind
    intro _
    split
    · exact emits_report plain (by decide)
    · exact emits_hexdump plain env

theorem emits_traceFbdTable {buf32 : BitVec w} : Emits P (traceFbdTable env buf32) := by
  apply Emits.whenever
  apply (emits_hexdump plain env).bind
  intro _
  apply Emits.forEach
  intro i
  exact emits_deref.bind fun addr => emits_quickDumpGpu plain env

theorem emits_chaiTraceFbd {fbd : BitVec 32}
    (line : P (.log mfbdFormat [.nat (fbd &&& fbdPointerMask 32).toNat, .nat (fbd &&& ~~~fbdPointerMask 32).toNat]))
    (found : P (.mark (.framebuffer ((fbd &&& fbdPointerMask 32).setWidth 64)))) :
    Emits P (chaiTraceFbd env fbd) := by
  have own : Emits P (panwrapLog mfbdFormat
      [.nat (fbd &&& fbdPointerMask 32).toNat, .nat (fbd &&& ~~~fbdPointerMask 32).toNat] : Decode w Unit) := emits_one line
  have marked : Emits P (mark (.framebuffer ((fbd &&& fbdPointerMask 32).setWidth 64)) : Decode w Unit) := emits_one found
  have fetched : ∀ {gpuAddr : BitVec 64} {sz : BitVec w}, Emits P (fetch env gpuAddr sz) := emits_fetch plain env
  have dumped : ∀ {p : BitVec w} {n : Nat}, Emits P (hexdumpTrimmed env p n "\t\t") := emits_hexdump plain env
  unfold chaiTraceFbd
  refine fetched.bind fun mfbd => own.bind fun _ => emits_deref.bind fun f => ?_
  refine (emits_report plain (by decide)).bind fun _ => marked.bind fun _ => dumped.bind fun _ => ?_
  refine (emits_report plain (by decide)).bind fun _ => fetched.bind fun _ => dumped.bind fun _ => ?_
  refine (emits_assertGpuZeroes plain env).bind fun _ => (emits_assertGpuZeroes plain env).bind fun _ => ?_
  refine (emits_assertGpuZeroes plain env).bind fun _ => (emits_assertGpuZeroes plain env).bind fun _ => ?_
  refine (emits_report plain (by decide)).bind fun _ => (emits_report plain (by decide)).bind fun _ => ?_
  refine fetched.bind fun _ => dumped.bind fun _ => (emits_report plain (by decide)).bind fun _ => ?_
  refine (emits_report plain (by decide)).bind fun _ => dumped.bind fun _ => ?_
  refine (emits_report plain (by decide)).bind fun _ => dumped.bind fun _ => ?_
  refine (emits_report plain (by decide)).bind fun _ => fetched.bind fun _ => ?_
  exact (emits_traceFbdTable plain env).bind fun _ => emits_quickDumpGpu plain env

theorem emits_traceHeader {h : BitVec w} {chain : BitVec 64} (found : ∀ type, P (.mark (.descriptor chain type))) :
    Emits P (traceHeader h chain) := by
  unfold traceHeader
  refine emits_deref.bind fun d => Emits.bind ?_ fun name => ?_
  · unfold chaiJobTypeName
    split <;> first
      | exact emits_pure _
      | exact (emits_report plain (by decide)).bind fun _ => emits_pure _
  · apply (emits_report plain (by decide)).bind
    intro _
    exact emits_one (found _)

end Emits

section Payload

variable {P : Out → Prop} (plain : ∀ item, Plain item → P item) (marks : ∀ found, P (.mark found)) (env : Env w)
include plain

theorem emits_chaiTraceVecN {v p count : BitVec w} : Emits P (chaiTraceVecN v p count) := by
  have vec : ∀ n format, format ∈ reportFormats → Emits P (do
      let args ← deref v fun m => (List.range n).map fun k => Arg.float (m.read 32 p (4 * k))
      panwrapLog format args) :=
    fun n format member => emits_deref.bind fun args => emits_report plain member
  unfold chaiTraceVecN
  split
  · exact vec 1 _ (by decide)
  · exact vec 2 _ (by decide)
  · exact vec 3 _ (by decide)
  · exact vec 4 _ (by decide)
  · exact emits_report plain (by decide)

theorem emits_chaiTraceAttribute {fuel : Nat} {address : BitVec 64} : Emits P (chaiTraceAttribute env fuel address) := by
  unfold chaiTraceAttribute
  refine (emits_fetch plain env).bind fun vb => Emits.whenever (emits_deref.bind fun b => ?_)
  split
  · exact emits_fail _
  · refine (emits_fetch plain env).bind fun v => (emits_report plain (by decide)).bind fun _ => Emits.bind ?_ fun _ => ?_
    · apply emits_loop
      intro n now
      obtain ⟨i, p⟩ := now
      simp only [traceVertex]
      split
      · refine (emits_chaiTraceVecN plain).bind fun _ => emits_deref.bind fun _ => ?_
        exact (emits_modify _).bind fun _ => emits_pure _
      · exact emits_pure _
    · exact emits_report plain (by decide)

include marks

omit plain in
theorem emits_mark {found : Mark} : Emits P (mark found : Decode w Unit) := emits_one (marks found)

theorem emits_traceAttributes {v : BitVec w} {fuel : Nat} {start : BitVec 64} :
    Emits P (traceAttributes env v fuel start) := by
  apply emits_loop
  intro n s
  unfold traceAttributeWord
  refine (emits_fetch plain env).bind fun attrMeta => emits_deref.bind fun word => ?_
  split
  · exact emits_pure _
  · refine (emits_report plain (by decide)).bind fun _ => (emits_mark marks).bind fun _ => ?_
    refine emits_deref.bind fun attributes => ?_
    exact (emits_chaiTraceAttribute plain env).bind fun _ => emits_pure _

theorem emits_traceShader {h v : BitVec w} : Emits P (traceShader env h v) := by
  unfold traceShader
  refine emits_deref.bind fun shaderMeta => (emits_fetch plain env).bind fun iShader => ?_
  refine emits_deref.bind fun word => emits_deref.bind fun jobType => ?_
  refine (emits_report plain (by decide)).bind fun _ => (emits_mark marks).bind fun _ => ?_
  refine (emits_fetch plain env).bind fun shader => (emits_hexdump plain env).bind fun _ => ?_
  exact emits_deref.bind fun code => emits_one (plain _ trivial)

omit marks in
theorem emits_traceAddress {h v : BitVec w} {addr : Nat} : Emits P (traceAddress env h v addr) := by
  have fetched : ∀ {gpuAddr : BitVec 64} {sz : BitVec w}, Emits P (fetch env gpuAddr sz) := emits_fetch plain env
  have dumped : ∀ {p : BitVec w} {n : Nat}, Emits P (hexdumpTrimmed env p n "\t\t") := emits_hexdump plain env
  unfold traceAddress
  refine emits_deref.bind fun address => emits_deref.bind fun jobType => Emits.whenever ?_
  refine (emits_report plain (by decide)).bind fun _ => Emits.whenever (fetched.bind fun buf => dumped.bind fun _ => ?_)
  refine Emits.bind ?_ fun _ => Emits.bind ?_ fun _ => ?_
  · apply Emits.whenever
    refine emits_deref.bind fun sub => fetched.bind fun sbuf => ?_
    exact (emits_report plain (by decide)).bind fun _ => dumped
  · apply Emits.whenever
    refine emits_deref.bind fun sub => fetched.bind fun sbuf => ?_
    exact (emits_report plain (by decide)).bind fun _ => dumped
  · apply Emits.whenever
    refine (emits_printf plain).bind fun _ => emits_deref.bind fun uniforms => Emits.bind ?_ fun _ => emits_printf plain
    apply emits_put
    intro item member
    obtain ⟨u, -, rfl⟩ := List.mem_map.mp member
    exact plain _ trivial

theorem emits_traceVertexTilerRest {h v : BitVec w} (framebuffer : ∀ args, P (.log mfbdFormat args)) :
    Emits P (traceVertexTilerRest env h v) := by
  unfold traceVertexTilerRest
  refine emits_deref.bind fun jobType => Emits.bind ?_ fun _ => ?_
  · apply Emits.whenever
    refine emits_deref.bind fun b => Emits.bind ?_ fun mode => emits_report plain (by decide)
    unfold chaiGlModeName
    split <;> first
      | exact emits_pure _
      | exact (emits_report plain (by decide)).bind fun _ => emits_pure _
  · refine emits_deref.bind fun word => (emits_assertGpuZeroes plain env).bind fun _ => ?_
    refine (Emits.whenever (emits_report plain (by decide))).bind fun _ => ?_
    refine (emits_report plain (by decide)).bind fun _ => ?_
    refine (emits_chaiTraceFbd plain env (framebuffer _) (marks _)).bind fun _ => (emits_hexdump plain env).bind fun _ => ?_
    exact (Emits.forEach (fun addr => emits_traceAddress plain env) _).bind fun _ => emits_hexdump plain env

end Payload

section Sabotaged

variable {env : Env w} {payload : BitVec 64} {v : BitVec w}

/-- The line about a trapped job is logged for the trap value in the shader field and nothing else. -/
theorem sabotaged_logged_iff (found : fetchMappedGpu env.mmaps payload (BitVec.ofNat w PayloadVertexTiler32.size) = v)
    (nonnull : v ≠ 0#w) (fuel : Nat) (h : BitVec w) (s : Proc w) :
    .log sabotagedFormat [] ∈ (traceVertexTiler env fuel h payload s).out ↔
      sabotaged (s.mem.read 32 v PayloadVertexTiler32.shader) = true := by
  have other : ∀ item, Plain item → item ≠ .log sabotagedFormat [] := by
    intro item plain same
    rw [same] at plain
    exact absurd plain (by decide : sabotagedFormat ∉ reportFormats)
  have first : (fetch env payload (BitVec.ofNat w PayloadVertexTiler32.size)).Runs s
      (fetchMappedGpuLog env.mmaps payload (BitVec.ofNat w PayloadVertexTiler32.size)) v s := by
    rw [← found]
    rfl
  have quiet : .log sabotagedFormat [] ∉ fetchMappedGpuLog env.mmaps payload (BitVec.ofNat w PayloadVertexTiler32.size) :=
    fun member => emits_fetch other env s _ member rfl
  unfold traceVertexTiler
  rw [bind_run first, List.mem_append, or_iff_right quiet, bind_run (runs_deref nonnull _), List.nil_append]
  by_cases trap : sabotaged (s.mem.read 32 v PayloadVertexTiler32.shader) = true
  · rw [if_pos trap]
    exact iff_of_true (List.mem_singleton_self _) trap
  · rw [if_neg trap]
    apply iff_of_false ?_ trap
    intro member
    have marks : ∀ found : Mark, Out.mark found ≠ .log sabotagedFormat [] := fun found same => by cases same
    have framebuffer : ∀ args, Out.log mfbdFormat args ≠ .log sabotagedFormat [] := by
      intro args same
      have format : mfbdFormat = sabotagedFormat := by injection same
      exact absurd format (by decide)
    have rest : Emits (· ≠ .log sabotagedFormat []) (do
        traceShader env h v
        let attributeMeta ← deref v fun m => m.read 32 v PayloadVertexTiler32.attributeMeta
        traceAttributes env v fuel (attributeMeta.setWidth 64)
        traceVertexTilerRest env h v) := by
      refine (emits_traceShader other marks env).bind fun _ => emits_deref.bind fun _ => ?_
      exact (emits_traceAttributes other marks env).bind fun _ => emits_traceVertexTilerRest other marks env framebuffer
    exact rest s _ member rfl

end Sabotaged

end Decoder
