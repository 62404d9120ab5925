import Pantry.Decoder.Traversal
import Pantry.Decoder.Lines
import Pantry.Machine.Align

namespace Decoder

open Machine Panwrap Program

variable {w : Nat}

section Next

/-- Where a descriptor says to go on: a 32-bit one at the low half of `next_job`. -/
def properNext (d : JobDescriptorHeader) : Option (BitVec 64) :=
  let next := if d.jobDescriptorSize = job32Bit then (d.nextJob.setWidth 32).setWidth 64 else d.nextJob
  if next = 0#64 then none else some next

theorem low_half_eq_iff (x : BitVec 64) : (x.setWidth 32).setWidth 64 = x ↔ x.toNat < 2 ^ 32 := by
  rw [← BitVec.toNat_inj, BitVec.toNat_setWidth, BitVec.toNat_setWidth]
  omega

theorem properNext_eq_iff (d : JobDescriptorHeader) :
    (if d.nextJob = 0#64 then none else some d.nextJob) = properNext d ↔
      (d.jobDescriptorSize = job32Bit → d.nextJob.toNat < 2 ^ 32) := by
  unfold properNext
  by_cases narrow : d.jobDescriptorSize = job32Bit
  · simp only [narrow, ↓reduceIte, forall_const]
    rw [← low_half_eq_iff]
    constructor
    · intro same
      by_contra other
      have some : d.nextJob ≠ 0#64 := by
        intro zero
        rw [zero] at other
        exact other rfl
      rw [if_neg some] at same
      split at same
      · cases same
      · exact other (Option.some.inj same).symm
    · intro same
      rw [same]
  · simp only [narrow, ↓reduceIte, false_implies]

end Next

section Framebuffer

def AtFramebuffer (addr : BitVec 64) : Out → Prop
  | .log format args =>
    (format = fragmentFormat → args.getLast? = some (.nat addr.toNat)) ∧
      (format = mfbdFormat → args.head? = some (.nat addr.toNat))
  | .mark (.framebuffer found) => found = addr
  | _ => True

variable {addr : BitVec 64}

theorem atFramebuffer_of_plain (item : Out) (plain : Plain item) : AtFramebuffer addr item := by
  cases item with
  | log format args =>
    have fragment : fragmentFormat ∉ reportFormats := by decide
    have mfbd : mfbdFormat ∉ reportFormats := by decide
    constructor
    · intro same
      exact absurd (same ▸ plain) fragment
    · intro same
      exact absurd (same ▸ plain) mfbd
  | mark found => exact plain.elim
  | logCont format args => trivial
  | print format args => trivial
  | file name content => trivial

theorem fbd_toNat_eq_iff (fbd : BitVec 64) :
    (fbd.setWidth 32 &&& fbdPointerMask 32).toNat = (fbd &&& fbdPointerMask 64).toNat ↔ fbd.toNat < 2 ^ 32 := by
  have mask32 : fbdPointerMask 32 = ~~~lowMask 32 6 := by decide
  have mask64 : fbdPointerMask 64 = ~~~lowMask 64 6 := by decide
  rw [mask32, mask64, clear_low_toNat, clear_low_toNat, BitVec.toNat_setWidth]
  omega

theorem fbdAddress_eq_iff (fbd : BitVec 64) :
    fbdAddress (fbd.setWidth 32) = fbd &&& fbdPointerMask 64 ↔ fbd.toNat < 2 ^ 32 := by
  rw [← fbd_toNat_eq_iff, fbdAddress, ← BitVec.toNat_inj, BitVec.toNat_setWidth, Nat.mod_eq_of_lt (by omega)]

def fragmentLine (frag : PayloadFragment) : Out :=
  .log fragmentFormat
    [.nat frag.minTileCoord.toNat, .nat frag.maxTileCoord.toNat,
      .nat (tileCoordX frag.minTileCoord).toNat, .nat (tileCoordY frag.minTileCoord).toNat,
      .nat (tileCoordX frag.maxTileCoord).toNat, .nat (tileCoordY frag.maxTileCoord).toNat,
      .chr (fbdLetter frag.fragmentFbd.toNat), .nat frag.fragmentFbd.toNat,
      .nat (frag.fragmentFbd &&& fbdPointerMask 64).toNat]

def mfbdLine (fbd : BitVec 32) : Out :=
  .log mfbdFormat [.nat (fbd &&& fbdPointerMask 32).toNat, .nat (fbd &&& ~~~fbdPointerMask 32).toNat]

theorem emits_fbd_at (env : Env w) {fbd : BitVec 64} (narrow : fbd.toNat < 2 ^ 32) :
    Emits (AtFramebuffer (fbd &&& fbdPointerMask 64)) (chaiTraceFbd env (fbd.setWidth 32)) := by
  apply emits_chaiTraceFbd atFramebuffer_of_plain
  · have other : mfbdFormat ≠ fragmentFormat := by decide
    refine ⟨fun same => absurd same other, fun _ => ?_⟩
    rw [List.head?_cons, (fbd_toNat_eq_iff fbd).mpr narrow]
  · exact (fbdAddress_eq_iff fbd).mpr narrow

variable {env : Env w} {t : Proc w} {chain : BitVec 64}

def payloadFragment (env : Env w) (m : Memory w) (chain : BitVec 64) : PayloadFragment :=
  PayloadFragment.load m (fetchMappedGpu env.mmaps (payloadOf chain) (BitVec.ofNat w PayloadFragment.size))

theorem traceJob_fragment (header : headerOf env chain ≠ 0#w)
    (fragment : (JobDescriptorHeader.load t.mem (headerOf env chain)).jobType = jobTypeFragment)
    (payload : Mapped env (payloadOf chain) (BitVec.ofNat w PayloadFragment.size)) (fuel : Nat) :
    ∃ before, (∀ item ∈ before, Plain item ∨ ∃ type, item = .mark (.descriptor chain type)) ∧
      (traceJob env fuel chain t).out = before ++ fragmentLine (payloadFragment env t.mem chain) ::
        (chaiTraceFbd env ((payloadFragment env t.mem chain).fragmentFbd.setWidth 32) t).out := by
  obtain ⟨named, titled, -⟩ := traces_traceHeader header chain t
  have first : (fetch env chain (BitVec.ofNat w JobDescriptorHeader.size)).Runs t
      (fetchMappedGpuLog env.mmaps chain (BitVec.ofNat w JobDescriptorHeader.size)) (headerOf env chain) t := rfl
  have second : (fetch env (payloadOf chain) (BitVec.ofNat w PayloadFragment.size)).Runs t
      (fetchMappedGpuLog env.mmaps (payloadOf chain) (BitVec.ofNat w PayloadFragment.size)) _ t := rfl
  refine ⟨fetchMappedGpuLog env.mmaps chain (BitVec.ofNat w JobDescriptorHeader.size) ++ (named ++
    fetchMappedGpuLog env.mmaps (payloadOf chain) (BitVec.ofNat w PayloadFragment.size)), ?_, ?_⟩
  · rw [List.forall_mem_append, List.forall_mem_append, ← titled.out_eq]
    refine ⟨?_, ?_, ?_⟩
    · exact emits_fetch (fun _ plain => .inl plain) env t
    · exact emits_traceHeader (fun _ plain => .inl plain) (fun type => .inr ⟨type, rfl⟩) t
    · exact emits_fetch (fun _ plain => .inl plain) env t
  · have quiet : ∀ (u : Unit) (t : Proc w), ((do
        let next ← deref (headerOf env chain) fun m => (JobDescriptorHeader.load m (headerOf env chain)).nextJob
        pure (if next = 0#64 then none else some next) : Decode w (Option (BitVec 64))) t).out = [] := by
      intro _ t
      rw [bind_run (runs_deref header _)]
      rfl
    have job : (tracePayload env fuel (headerOf env chain) (payloadOf chain) t).out =
        (traceFragment env (payloadOf chain) t).out := by
      unfold tracePayload
      rw [bind_run (runs_deref header _), fragment]
      rfl
    unfold traceJob
    rw [bind_run first, if_neg header, bind_run titled, out_bind_quiet quiet]
    show _ ++ (named ++ (tracePayload env fuel (headerOf env chain) (payloadOf chain) t).out) = _
    rw [job]
    unfold traceFragment
    rw [bind_run second, bind_run (runs_deref payload _)]
    simp only [List.append_assoc]
    rfl

theorem mfbdLine_mem (env : Env w) (fbd : BitVec 32) (t : Proc w) : mfbdLine fbd ∈ (chaiTraceFbd env fbd t).out := by
  have first : (fetch env ((fbd &&& fbdPointerMask 32).setWidth 64) (BitVec.ofNat w TentativeMfbd.size)).Runs t _ _ t :=
    rfl
  unfold chaiTraceFbd
  apply out_bind_after first
  apply out_bind_first
  exact List.mem_singleton_self _

end Framebuffer

section Widths

variable {env : Env w} {t : Proc w} {chain : BitVec 64}

structure ProperWidths (env : Env w) (t : Proc w) (chain : BitVec 64) : Prop where
  next : headerOf env chain ≠ 0#w → ∀ out next u, Converges (fun n => traceJob env n chain) t out next u →
    next = properNext (JobDescriptorHeader.load u.mem (headerOf env chain))
  framebuffer : headerOf env chain ≠ 0#w →
    (JobDescriptorHeader.load t.mem (headerOf env chain)).jobType = jobTypeFragment →
    Mapped env (payloadOf chain) (BitVec.ofNat w PayloadFragment.size) → ∀ fuel,
      (∃ args, .log fragmentFormat args ∈ (traceJob env fuel chain t).out) ∧
        (∃ args, .log mfbdFormat args ∈ (traceJob env fuel chain t).out) ∧
        ∀ item ∈ (traceJob env fuel chain t).out,
          AtFramebuffer ((payloadFragment env t.mem chain).fragmentFbd &&& fbdPointerMask 64) item

/-- The pointers that are followed at another width than their field's have nothing to lose: the
    descriptor's where its tracing leaves it, the fragment job's where it is found. -/
structure NarrowPointers (env : Env w) (t : Proc w) (chain : BitVec 64) : Prop where
  next : headerOf env chain ≠ 0#w → ∀ u, PayloadLeaves env (headerOf env chain) t (payloadOf chain) u →
    (JobDescriptorHeader.load u.mem (headerOf env chain)).jobDescriptorSize = job32Bit →
      (JobDescriptorHeader.load u.mem (headerOf env chain)).nextJob.toNat < 2 ^ 32
  framebuffer : headerOf env chain ≠ 0#w →
    (JobDescriptorHeader.load t.mem (headerOf env chain)).jobType = jobTypeFragment →
    Mapped env (payloadOf chain) (BitVec.ofNat w PayloadFragment.size) →
      (payloadFragment env t.mem chain).fragmentFbd.toNat < 2 ^ 32

theorem converges_traceJob (header : headerOf env chain ≠ 0#w) {next : Option (BitVec 64)} {u : Proc w} :
    (∃ out, Converges (fun n => traceJob env n chain) t out next u) ↔
      PayloadLeaves env (headerOf env chain) t (payloadOf chain) u ∧
        next = if nextJobOf env u.mem chain = 0#64 then none else some (nextJobOf env u.mem chain) := by
  show Leaves (fun n => traceJob env n chain) t next u ↔ _
  rw [leaves_iff_yields, ← leaves_tracePayload env header, leaves_iff_yields]
  simp only [yields_traceJob, header, false_and, false_or, ne_eq, not_false_eq_true, true_and]
  constructor
  · intro yields
    obtain ⟨_, ⟨found, payload, -⟩, goes⟩ := yields
    exact ⟨⟨found, payload⟩, goes⟩
  · intro leaves
    obtain ⟨⟨found, payload⟩, goes⟩ := leaves
    exact ⟨_, ⟨found, payload, rfl⟩, goes⟩

theorem properWidths_iff : ProperWidths env t chain ↔ NarrowPointers env t chain := by
  constructor
  · intro proper
    constructor
    · intro header u leaves
      apply (properNext_eq_iff _).mp
      obtain ⟨out, converges⟩ := (converges_traceJob header).mpr ⟨leaves, rfl⟩
      exact proper.next header out _ u converges
    · intro header fragment payload
      obtain ⟨-, -, all⟩ := proper.framebuffer header fragment payload 0
      obtain ⟨before, -, out⟩ := traceJob_fragment header fragment payload 0
      have line : mfbdLine ((payloadFragment env t.mem chain).fragmentFbd.setWidth 32) ∈
          (traceJob env 0 chain t).out := by
        rw [out]
        exact List.mem_append_right _ (List.mem_cons_of_mem _ (mfbdLine_mem env _ t))
      have same := (all _ line).2 rfl
      rw [List.head?_cons, Option.some.injEq, Arg.nat.injEq] at same
      exact (fbd_toNat_eq_iff _).mp same
  · intro narrow
    constructor
    · intro header out next u converges
      obtain ⟨leaves, goes⟩ := (converges_traceJob header).mp ⟨out, converges⟩
      rw [goes]
      exact (properNext_eq_iff _).mpr (narrow.next header u leaves)
    · intro header fragment payload fuel
      obtain ⟨before, plain, out⟩ := traceJob_fragment header fragment payload fuel
      rw [out]
      refine ⟨⟨_, List.mem_append_right _ List.mem_cons_self⟩,
        ⟨_, List.mem_append_right _ (List.mem_cons_of_mem _ (mfbdLine_mem env _ t))⟩, ?_⟩
      rw [List.forall_mem_append, List.forall_mem_cons]
      refine ⟨?_, ?_, emits_fbd_at env (narrow.framebuffer header fragment payload) t⟩
      · intro item member
        rcases plain item member with reported | ⟨type, rfl⟩
        · exact atFramebuffer_of_plain item reported
        · trivial
      · have other : fragmentFormat ≠ mfbdFormat := by decide
        exact ⟨fun _ => rfl, fun same => absurd same other⟩

/-- Every pointer of a run is followed at its width if and only if every one that is not has a zero
    upper half. -/
theorem widths_proper_iff (env : Env w) (s : Proc w) (start : BitVec 64) :
    (∀ path out t chain, Path (traceJob env) s start path out t chain → ProperWidths env t chain) ↔
      ∀ path out t chain, Path (traceJob env) s start path out t chain → NarrowPointers env t chain := by
  simp only [properWidths_iff]

def twoPages : Env 32 :=
  ⟨[⟨0x1000#32, 0x10000#32, 0x10000#64⟩, ⟨0x1000#32, 0x20000#32, 0x100000000#64⟩], true, fun _ word => word⟩

def upperHalf (upper : Byte) : Memory 32 := fun a =>
  if a = 0x10010#32 then 2#8 else if a = 0x1001c#32 then upper else 0#8

theorem upper_half_followed :
    ¬ ProperWidths twoPages ⟨upperHalf 1#8, 0⟩ 0x10000#64 ∧
      (∃ out, Path (traceJob twoPages) ⟨upperHalf 1#8, 0⟩ 0x10000#64 [0x10000#64] out ⟨upperHalf 1#8, 0⟩
        0x100000000#64) ∧
      ∀ out t next, ¬ Path (traceJob twoPages) ⟨upperHalf 0#8, 0⟩ 0x10000#64 [0x10000#64] out t next := by
  have unchanged : ∀ upper : Byte, (JobDescriptorHeader.load (upperHalf upper) 0x10000#32).jobType = 1#7 → ∀ u,
      PayloadLeaves twoPages 0x10000#32 ⟨upperHalf upper, 0⟩ 0x10020#64 u ↔ u = ⟨upperHalf upper, 0⟩ := by
    intro upper type u
    unfold PayloadLeaves
    rw [type, if_neg (by decide), if_neg (by decide), if_neg (by decide)]
  refine ⟨?_, ?_, ?_⟩
  · intro proper
    have narrow := (properWidths_iff.mp proper).next (by decide) _ ((unchanged 1#8 (by decide) _).mpr rfl) (by decide)
    exact absurd narrow (by decide)
  · have hop : NextJob twoPages (⟨upperHalf 1#8, 0⟩, 0x10000#64) (⟨upperHalf 1#8, 0⟩, 0x100000000#64) :=
      ⟨by decide, (unchanged 1#8 (by decide) _).mpr rfl, by decide, by decide⟩
    exact follows_path twoPages (.cons hop (.nil _ _))
  · intro out t next rounds
    have follows := (path_follows twoPages rounds).1
    cases follows with
    | cons hop _ =>
      have same := (unchanged 0#8 (by decide) _).mp hop.2.1
      have more := hop.2.2.1
      rw [same] at more
      exact more (by decide)

end Widths

end Decoder
