import Pantry.Decoder.Vertices
import Pantry.Panwrap.Bounds
import Pantry.Panwrap.Ends

namespace Panwrap

open Machine Decoder Program Relation

variable {w : Nat}

section Trace

variable (env : Env w) {s t : Proc w}

/-- The bytes that a translated range holds, and the eleven behind its end. -/
def Reached : Set (BitVec w) :=
  {a | ∃ gpuAddr sz, Mapped env gpuAddr sz ∧ a ∈ region (fetchMappedGpu env.mmaps gpuAddr sz) (sz.toNat + 11)}

theorem flareVertices_changes_each (v componentCount : BitVec w) (n : Nat) (s : Proc w) :
    Changes {a | ∃ k < n, a ∈ region (vertexAddress v componentCount k) 12} s.mem
      (flareVertices env componentCount n v s).mem := by
  induction n with
  | zero => exact Changes.refl _ s.mem
  | succ n ih =>
    rw [flareVertices_succ]
    have last := flareVertex_changes env (vertexAddress v componentCount n) (flareVertices env componentCount n v s)
    apply (ih.mono _).trans (last.mono _)
    · intro a seen
      obtain ⟨k, before, member⟩ := seen
      exact ⟨k, Nat.lt_succ_of_lt before, member⟩
    · intro a member
      exact ⟨n, Nat.lt_succ_self n, member⟩

/-- A vertex starts inside the data, so that its three coordinates end at most eleven bytes behind it. -/
theorem vertex_within {total element : BitVec w} (bound : 4 < 2 ^ w) (v : BitVec w) {k : Nat}
    (before : k < (total / element).toNat) :
    region (vertexAddress v (element / 4#w) k) 12 ⊆ region v (total.toNat + 11) := by
  apply region_subset v
  rw [components_toNat bound]
  rw [BitVec.toNat_udiv] at before
  have positive : 0 < element.toNat := by
    by_contra zero
    rw [Nat.eq_zero_of_not_pos zero, Nat.div_zero] at before
    omega
  have starts : 4 * (element.toNat / 4) * k ≤ element.toNat * k := Nat.mul_le_mul_right k (Nat.mul_div_le _ _)
  have ends : element.toNat * (k + 1) ≤ total.toNat :=
    (Nat.mul_le_mul_left _ before).trans (Nat.mul_div_le _ _)
  rw [Nat.mul_succ] at ends
  omega

variable {env}

theorem attributeLeaves_changes (bound : 4 < 2 ^ w) {address : BitVec 64} (left : AttributeLeaves env s address t) :
    Changes (Reached env) s.mem t.mem := by
  rcases left with left | left
  · rw [left.2]
    exact Changes.refl _ _
  · obtain ⟨-, positive, -, present, rfl⟩ := left
    refine (flareVertices_changes_each env _ _ _ s).mono ?_
    intro a seen
    obtain ⟨k, before, member⟩ := seen
    have some : (attributeBuffer env s.mem address).totalSize / (attributeBuffer env s.mem address).elementSize ≠ 0#w :=
      positive_of_ne_zero.mp (by omega)
    exact ⟨_, _, present some, vertex_within bound _ before member⟩

theorem hops_change {ι : Type} {R : Set (BitVec w)} {r : Proc w × ι → Proc w × ι → Prop}
    (each : ∀ now next, r now next → Changes R now.1.mem next.1.mem) {now next : Proc w × ι} (hops : ReflTransGen r now next) :
    Changes R now.1.mem next.1.mem := by
  induction hops with
  | refl => exact Changes.refl _ _
  | tail _ last ih => exact ih.trans (each _ _ last)

theorem attributesLeave_changes (bound : 4 < 2 ^ w) {v : BitVec w} {a : BitVec 64} (left : AttributesLeave env v s a t) :
    Changes (Reached env) s.mem t.mem := by
  obtain ⟨b, hops, -, -⟩ := left
  exact hops_change (fun now next hop => attributeLeaves_changes bound hop.2.2.1) hops

theorem payloadLeaves_changes (bound : 4 < 2 ^ w) {h : BitVec w} {payload : BitVec 64} (left : PayloadLeaves env h s payload t) :
    Changes (Reached env) s.mem t.mem := by
  unfold PayloadLeaves at left
  have same (unchanged : t = s) : Changes (Reached env) s.mem t.mem := by
    rw [unchanged]
    exact Changes.refl _ _
  dsimp only at left
  split at left
  · exact same left.2
  · split at left
    · obtain ⟨-, trapped | traced⟩ := left
      · exact same trapped.2
      · exact attributesLeave_changes bound traced.2.2.1
    · split at left
      · exact same left.2
      · exact same left

theorem chain_changes (bound : 4 < 2 ^ w) {chain : BitVec 64} (left : Leaves (fun n => chaiTraceHwChain env n chain) s () t) :
    Changes (Reached env) s.mem t.mem := by
  unfold chaiTraceHwChain at left
  rw [loop_leaves_iff (fuelled_traceJob env), hop_traceJob] at left
  obtain ⟨u, last, hops, final⟩ := left
  have before : Changes (Reached env) s.mem u.mem :=
    hops_change (fun now next hop => payloadLeaves_changes bound hop.2.1) hops
  obtain ⟨marks, yields⟩ := leaves_iff_yields.mp final
  rcases (yields_traceJob env).mp yields with missing | traced
  · rw [missing.2.2.2]
    exact before
  · obtain ⟨header, ⟨found, payload, -⟩, -⟩ := traced
    have left := (leaves_tracePayload env header).mp (leaves_iff_yields.mpr ⟨found, payload⟩)
    exact before.trans (payloadLeaves_changes bound left)

theorem atomLeaves_changes (bound : 4 < 2 ^ w) {jc : BitVec 64} {coreReq : BitVec 32} (left : AtomLeaves env s jc coreReq t) :
    Changes (Reached env) s.mem t.mem := by
  unfold AtomLeaves at left
  split at left
  · rw [left.2]
    exact Changes.refl _ _
  · exact chain_changes bound left

/-- Tracing a submission changes only what the translation gives for some range and size. -/
theorem submissionLeaves_changes (bound : 4 < 2 ^ w) {ptr : BitVec w} (left : SubmissionLeaves env s ptr t) :
    Changes (Reached env) s.mem t.mem := by
  obtain ⟨-, left⟩ := left
  split at left
  · rw [left]
    exact Changes.refl _ _
  · obtain ⟨i, hops, -⟩ := left
    refine hops_change (fun now next hop => ?_) hops
    obtain ⟨-, -, -, -, left⟩ := hop
    split at left
    · exact atomLeaves_changes bound left
    · rw [left]
      exact Changes.refl _ _

end Trace

section Wrappers

variable {cfg : Config} {libc : Libc w} {σ : Sys w}

/-- The decoding in front of libc's call may write. -/
def Submits (t : Tracker w) (fd : Int) (request ptr : BitVec w) : Prop :=
  IoctlTraced t.maliFd fd ∧ ptr ≠ 0#w ∧ selected w request preCommands = some maliIoctlJobSubmit

/-- libc is called once, with a memory that differs from the caller's in `R` at most, and the caller gets
    the memory that libc leaves. -/
def PassesMemory (libc : Libc w) (R : Set (BitVec w)) (σ : Sys w) (made : LibcCall w) (out : List (Event w)) (σ' : Sys w) :
    Prop :=
  ∃ mem, Changes R σ.proc.mem mem ∧ calls out = [(made, libc made mem)] ∧ σ'.proc.mem = (libc made mem).mem

theorem after_decode_silent {p : Decode w Unit} (silent : Silent p) :
    After (decode cfg fun _ => p) σ fun out _ σ' => calls out = [] ∧ σ' = σ := by
  rw [after_decode]
  intro out a proc runs
  obtain ⟨out', printed, -⟩ := silent σ.proc
  obtain ⟨rfl, rfl, rfl⟩ := printed.unique runs
  exact ⟨calls_map_out _, rfl⟩

theorem openWrap_passes (origOpen : String → BitVec 32 → Option (BitVec 32) → LibcCall w) (path : String)
    (flags mode : BitVec 32) (R : Set (BitVec w)) :
    After (panwrapOpenWrap libc origOpen path flags mode) σ fun out _ σ' =>
      PassesMemory libc R σ (origOpen path flags (if flags &&& oCreat ≠ 0#32 then some mode else none)) out σ' := by
  simp only [panwrapOpenWrap, after_bind, after_orig, after_whenever, after_pure]
  refine ⟨fun _ => ?_, fun _ => ⟨_, Changes.refl _ _, rfl, rfl⟩⟩
  split
  · simp only [after_bind, after_say, after_onTracker]
    exact ⟨_, Changes.refl _ _, rfl, rfl⟩
  · simp only [after_whenever, after_say]
    exact ⟨fun _ => ⟨_, Changes.refl _ _, rfl, rfl⟩, fun _ => ⟨_, Changes.refl _ _, rfl, rfl⟩⟩

theorem close_passes (fd : Int) (R : Set (BitVec w)) :
    After (close libc fd) σ fun out _ σ' => PassesMemory libc R σ (.close fd) out σ' := by
  simp only [close, after_bind, after_get, after_whenever, after_say, after_onTracker, after_orig, after_pure]
  exact ⟨fun _ => ⟨_, Changes.refl _ _, rfl, rfl⟩, fun _ => ⟨_, Changes.refl _ _, rfl, rfl⟩⟩

theorem mmapWrap_passes (func : BitVec w → BitVec w → BitVec 32 → BitVec 32 → Int → BitVec 64 → LibcCall w)
    (addr length : BitVec w) (prot flags : BitVec 32) (fd : Int) (offset : BitVec 64) (R : Set (BitVec w)) :
    After (panwrapMmapWrap cfg libc func addr length prot flags fd offset) σ fun out _ σ' =>
      PassesMemory libc R σ (func addr length prot flags fd offset) out σ' := by
  simp only [panwrapMmapWrap, after_bind, after_get]
  by_cases traced : MmapTraced σ.tracker.maliFd fd
  · rw [if_neg (not_not.mpr traced)]
    simp only [after_bind, after_orig, after_freeze]
    cases σ.tracker.allocations.find? (pendingAt offset) with
    | some pos =>
      simp only [after_bind, after_onTracker, after_say, after_unfreeze, after_pure]
      exact ⟨_, Changes.refl _ _, rfl, rfl⟩
    | none =>
      simp only [after_bind, after_say]
      refine (after_decode_silent (silent_logDecodedFlags _ _)).mono ?_
      intro prots _ _ quiet₁
      obtain ⟨quiet₁, rfl⟩ := quiet₁
      refine (after_decode_silent (silent_logCont _ _)).mono ?_
      intro between _ _ quiet₂
      obtain ⟨quiet₂, rfl⟩ := quiet₂
      refine (after_decode_silent (silent_logDecodedFlags _ _)).mono ?_
      intro flags _ _ quiet₃
      obtain ⟨quiet₃, rfl⟩ := quiet₃
      refine (after_decode_silent (silent_logCont _ _)).mono ?_
      intro last _ _ quiet₄
      obtain ⟨quiet₄, rfl⟩ := quiet₄
      simp only [after_onTracker, after_unfreeze, after_pure]
      refine ⟨_, Changes.refl _ _, ?_, rfl⟩
      simp [quiet₁, quiet₂, quiet₃, quiet₄]
  · rw [if_pos traced]
    simp only [after_bind, after_orig, after_pure]
    exact ⟨_, Changes.refl _ _, rfl, rfl⟩

theorem munmap_passes (addr length : BitVec w) (R : Set (BitVec w)) :
    After (munmap libc addr length) σ fun out _ σ' => PassesMemory libc R σ (.munmap addr length) out σ' := by
  simp only [munmap, after_bind, after_orig, after_freeze, after_get]
  cases findMappedMem σ.tracker.mmaps addr with
  | none =>
    simp only [after_bind, after_pure, after_unfreeze]
    exact ⟨_, Changes.refl _ _, rfl, rfl⟩
  | some mem =>
    by_cases known : mem.gpuVa ≠ 0#64
    · simp only [if_pos known, after_bind, after_say, after_onTracker, after_unfreeze, after_pure]
      exact ⟨_, Changes.refl _ _, rfl, rfl⟩
    · simp only [if_neg known, after_bind, after_say, after_onTracker, after_unfreeze, after_pure]
      exact ⟨_, Changes.refl _ _, rfl, rfl⟩

theorem ioctlDecodePre_changes (bound : 4 < 2 ^ w) {env : Env w} {fuel : Nat} {request ptr : BitVec w} {s t : Proc w}
    {out : List Out} (nonnull : ptr ≠ 0#w) (runs : Runs (ioctlDecodePre env fuel request ptr) s out () t) :
    Changes {a | selected w request preCommands = some maliIoctlJobSubmit ∧ a ∈ Reached env} s.mem t.mem := by
  have left : PreLeaves env request ptr s t := (leaves_ioctlDecodePre env nonnull).mp ⟨out, fuel, runs⟩
  unfold PreLeaves at left
  split at left
  · rename_i submit
    exact (submissionLeaves_changes bound left).mono fun a member => ⟨submit, member⟩
  · rw [left.2]
    exact Changes.refl _ _

theorem after_ioctlDecodePost_proc {request ptr : BitVec w} (nonnull : ptr ≠ 0#w) :
    After (ioctlDecodePost cfg ptr request) σ fun _ _ σ' => σ'.proc = σ.proc := by
  intro out _ σ' runs
  have tracks : TracksIff (ioctlDecodePost cfg ptr request) σ (PostEnds request ptr σ.proc.mem) :=
    tracksIff_ioctlDecodePost nonnull
  obtain ⟨out', tracker, tracked⟩ := tracks.1 (tracks.2 ⟨out, (), σ', runs⟩)
  obtain ⟨-, -, rfl⟩ := tracked.unique runs
  rfl

theorem ioctl_passes (bound : 4 < 2 ^ w) (fuel : Nat) (fd : Int) (request arg : BitVec w) :
    After (ioctl cfg libc fuel fd request arg) σ fun out _ σ' =>
      PassesMemory libc {a | Submits σ.tracker fd request (ioctlPtr request arg) ∧ a ∈ Reached (cfg.env σ.tracker.mmaps)} σ
        (.ioctl fd request (ioctlPtr request arg)) out σ' := by
  simp only [ioctl, after_bind, after_get]
  by_cases traced : IoctlTraced σ.tracker.maliFd fd
  · rw [if_neg (not_not.mpr traced)]
    simp only [after_bind, after_freeze]
    by_cases null : ioctlPtr request arg = 0#w
    · rw [if_pos null]
      simp only [after_bind, after_say, after_unfreeze, after_orig, after_freeze, after_pure]
      exact ⟨_, Changes.refl _ _, rfl, rfl⟩
    · rw [if_neg null]
      simp only [after_bind, after_decode_deref, after_say]
      intro _
      rw [after_decode]
      intro pre _ proc runs
      have changes := (ioctlDecodePre_changes bound null runs).mono fun a member =>
        (show Submits σ.tracker fd request (ioctlPtr request arg) ∧ a ∈ Reached (cfg.env σ.tracker.mmaps) from
          ⟨⟨traced, null, member.1⟩, member.2⟩)
      simp only [after_unfreeze, after_orig, after_freeze]
      intro _ post _ σ' decoded
      have kept := after_ioctlDecodePost_proc null _ _ _ decoded
      have quiet := (after_ioctlDecodePost request null fd (by exact traced) _ (by rfl) _ _ _ decoded).1
      rw [after_pure]
      refine ⟨proc.mem, changes, ?_, by rw [kept]⟩
      simp [quiet]
  · rw [if_pos traced]
    simp only [after_bind, after_orig, after_pure]
    exact ⟨_, Changes.refl _ _, rfl, rfl⟩

end Wrappers

section Calls

variable {build : Build} (cfg : Config)

/-- What a wrapper may write before it calls libc. -/
def Call.written (t : Tracker build.bits) : Call build → Set (BitVec build.bits)
  | .ioctl fd request arg => {a | Submits t fd request (ioctlPtr request arg) ∧ a ∈ Reached (cfg.env t.mmaps)}
  | _ => ∅

theorem wrapper_passes (libc : Libc build.bits) (fuel : Nat) (call : Call build) (σ : Sys build.bits) :
    After (wrapper cfg libc fuel call) σ fun out _ σ' =>
      PassesMemory libc (call.written cfg σ.tracker) σ call.made out σ' := by
  have bound : 4 < 2 ^ build.bits := by
    cases build <;> decide
  cases call <;> simp only [wrapper, after_bind, after_pure, List.append_nil]
  case openAt path flags mode => exact openWrap_passes .openAt path flags mode _
  case open64 path flags mode => exact openWrap_passes .open64 path flags mode _
  case close fd => exact close_passes fd _
  case ioctl fd request arg => exact ioctl_passes bound fuel fd request arg
  case mmap addr length prot flags fd offset => exact mmapWrap_passes _ addr length prot flags fd _ _
  case mmap64 addr length prot flags fd offset => exact mmapWrap_passes _ addr length prot flags fd _ _
  case munmap addr length => exact munmap_passes addr length _

/-- A translated range lies in a mapping where sizes have no more than 32 bits. -/
theorem reached_subset {w : Nat} (narrow : w ≤ 32) (env : Env w) :
    Reached env ⊆ {a | ∃ m ∈ env.mmaps, a ∈ region m.addr (m.length.toNat + 11)} := by
  intro a reached
  obtain ⟨gpuAddr, sz, mapped, member⟩ := reached
  obtain ⟨m, first, -, passes, value⟩ := fetch_nonnull (narrow.trans (by decide)) mapped
  obtain ⟨start, ends, -⟩ := gpuContains_bounds (narrow.trans (by decide)) first.1
  have offset := offset_toNat start
  have power : 2 ^ w ≤ 2 ^ 32 := Nat.pow_le_pow_right (by decide) narrow
  have size := sz.isLt
  have length := m.length.isLt
  simp only [MappedMemory.gpuSpan, Span.stop] at ends
  rw [Nat.mod_eq_of_lt (by omega)] at passes
  obtain ⟨-, newer, older, split, -⟩ := first
  refine ⟨m, split ▸ List.mem_append_right _ (List.mem_cons_self ..), ?_⟩
  have place : (gpuAddr - m.gpuVa).setWidth w = BitVec.ofNat w (gpuAddr - m.gpuVa).toNat := by
    rw [BitVec.ofNat_toNat]
  rw [value, place] at member
  exact region_subset m.addr (by omega) member

/-- On a build with 32 bits libc sees the memory of the caller and the caller that of libc, but for the
    vertices that tracing a submission changes, in or at most eleven bytes behind the mappings. -/
theorem wrapper_memory (libc : Libc Build.ilp32.bits) (fuel : Nat) (call : Call .ilp32) (σ : Sys Build.ilp32.bits) :
    After (wrapper cfg libc fuel call) σ fun out _ σ' =>
      ∃ mem, calls out = [(call.made, libc call.made mem)] ∧ σ'.proc.mem = (libc call.made mem).mem ∧
        ∀ a, mem a ≠ σ.proc.mem a →
          (∃ fd request arg, call = .ioctl fd request arg ∧ Submits σ.tracker fd request (ioctlPtr request arg)) ∧
            ∃ m ∈ σ.tracker.mmaps, a ∈ region m.addr (m.length.toNat + 11) := by
  refine (wrapper_passes cfg libc fuel call σ).mono ?_
  intro out _ σ' passes
  obtain ⟨mem, changes, called, left⟩ := passes
  refine ⟨mem, called, left, ?_⟩
  intro a differs
  have written : a ∈ call.written cfg σ.tracker := by
    by_contra outside
    exact differs (changes a outside)
  cases call with
  | ioctl fd request arg => exact ⟨⟨fd, request, arg, rfl, written.1⟩, reached_subset (Nat.le_refl _) _ written.2⟩
  | _ => exact absurd written (Set.notMem_empty a)

end Calls

end Panwrap
