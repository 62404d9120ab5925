import Pantry.Machine.Loop
import Pantry.Panwrap.Attribution
import Pantry.Panwrap.Translate
import Mathlib.Data.List.Pairwise

namespace Panwrap

open Machine Decoder Program Relation

section Lookup

variable {w : Nat}

def Newest {α : Type} (test : α → Bool) (l : List α) (m : α) : Prop :=
  ∃ newer older, l = newer ++ m :: older ∧ test m = true ∧ ∀ e ∈ newer, test e = false

theorem newest_iff_find {α : Type} {test : α → Bool} {l : List α} {m : α} :
    Newest test l m ↔ l.find? test = some m := by
  simp only [List.find?_eq_some_iff_append, Bool.not_eq_true']
  constructor
  · rintro ⟨newer, older, whole, passes, before⟩
    exact ⟨passes, newer, older, whole, before⟩
  · rintro ⟨passes, newer, older, whole, before⟩
    exact ⟨newer, older, whole, passes, before⟩

/-- `m` is a mapping of known GPU address whose GPU range, end excluded, has `jc` in it. -/
structure Holder (mmaps : List (MappedMemory w)) (jc : BitVec 64) (m : MappedMemory w) : Prop where
  member : m ∈ mmaps
  known : m.gpuVa ≠ 0#64
  holds : m.gpuSpan.Holds jc.toNat

def KnownApart (e f : MappedMemory w) : Prop := e.gpuVa ≠ 0#64 → f.gpuVa ≠ 0#64 → e.gpuSpan.Apart f.gpuSpan

instance : Std.Symm (KnownApart (w := w)) := ⟨fun _ _ apart known known' => (apart known' known).symm⟩

theorem Holder.unique {mmaps : List (MappedMemory w)} {jc : BitVec 64} {m m' : MappedMemory w}
    (apart : mmaps.Pairwise KnownApart) (holder : Holder mmaps jc m) (holder' : Holder mmaps jc m') : m = m' := by
  by_contra different
  have between : KnownApart m m' := apart.forall holder.member holder'.member different
  exact (between holder.known holder'.known).not_holds holder'.holds holder.holds

theorem Holder.offset_lt {mmaps : List (MappedMemory w)} {jc : BitVec 64} {m : MappedMemory w}
    (holder : Holder mmaps jc m) : (jc - m.gpuVa).toNat < 2 ^ w := by
  have length := m.length.isLt
  obtain ⟨start, stop⟩ := holder.holds
  simp only [MappedMemory.gpuSpan, Span.stop] at start stop
  rw [BitVec.toNat_sub_of_le (BitVec.le_def.mpr start)]
  omega

end Lookup

section Printed

theorem printed_eq_iff_ilp32 (addr : BitVec 32) (jc gpuVa : BitVec 64) (small : (jc - gpuVa).toNat < 2 ^ 32) :
    ((jc.setWidth 32 - addr).signExtend 64).toNat = (jc - gpuVa).toNat ↔
      addr = gpuVa.setWidth 32 ∧ (jc - gpuVa).toNat < 2 ^ 31 := by
  have bound := (jc.setWidth 32 - addr).isLt
  have addrBound := addr.isLt
  have jcBound := jc.isLt
  have gpuVaBound := gpuVa.isLt
  rw [BitVec.toNat_signExtend, BitVec.msb_eq_decide, BitVec.toNat_setWidth, ← BitVec.toNat_inj]
  simp only [BitVec.toNat_sub, BitVec.toNat_setWidth, decide_eq_true_eq] at *
  constructor
  · intro same
    split at same <;> omega
  · rintro ⟨start, low⟩
    split <;> omega

theorem printed_eq_iff_lp64 (addr jc gpuVa : BitVec 64) :
    ((jc.setWidth 64 - addr).signExtend 64).toNat = (jc - gpuVa).toNat ↔ addr = gpuVa.setWidth 64 := by
  rw [BitVec.signExtend_eq, BitVec.setWidth_eq, BitVec.setWidth_eq, BitVec.toNat_inj, sub_right_inj]

theorem printed_eq_iff (build : Build) (addr : BitVec build.bits) (jc gpuVa : BitVec 64)
    (small : (jc - gpuVa).toNat < 2 ^ build.bits) :
    ((jc.setWidth build.bits - addr).signExtend 64).toNat = (jc - gpuVa).toNat ↔
      addr = gpuVa.setWidth build.bits ∧ (build = .ilp32 → (jc - gpuVa).toNat < 2 ^ 31) := by
  cases build with
  | ilp32 =>
    rw [printed_eq_iff_ilp32 addr jc gpuVa small]
    exact and_congr_right fun _ => ⟨fun low _ => low, fun low => low rfl⟩
  | lp64 =>
    rw [printed_eq_iff_lp64 addr jc gpuVa]
    exact ⟨fun start => ⟨start, fun other => nomatch other⟩, And.left⟩

end Printed

section Gate

variable {w : Nat}

/-- The atom is handed to `chai_trace_atom` after `offset` is printed for it. -/
def Handed (out : List Out) (i : BitVec 32) (offset : Nat) : Prop :=
  ∃ jc args rest, out = .log "\t\tjc = 0x%PRIx64\n" jc ::
    .log "\t\tAddress %PRIu64 bytes inside mmap %p - %p (length=%zd)\n" (.nat offset :: args) ::
    .mark (.atom i.toNat) :: rest

theorem out_bind_prefix {α β : Type} (p : Decode w α) (f : α → Decode w β) (s : Proc w) :
    ∃ rest, ((p >>= f) s).out = (p s).out ++ rest := by
  rcases ending_cases p s with ⟨out, a, s', runs⟩ | ⟨reason, faults⟩ | cuts
  · exact ⟨(f a s').out, by rw [bind_run runs, runs.out_eq]⟩
  · exact ⟨[], by rw [bind_fault faults, List.append_nil]⟩
  · exact ⟨[], by rw [bind_cut cuts, List.append_nil]⟩

/-- The log of round `i` is right about the atom: it is handed over exactly
    where a known GPU range holds its `jc`, with the offset in that range, which is also the mapping that
    `fetch_mapped_gpu` finds. -/
structure GateAgrees (mmaps : List (MappedMemory w)) (jc : BitVec 64) (i : BitVec 32) (out : List Out) : Prop where
  handed : (∃ offset, Handed out i offset) ↔ ∃ m, Holder mmaps jc m
  offset : ∀ m, Holder mmaps jc m →
    Handed out i (jc - m.gpuVa).toNat ∧ findGpuMappedMem mmaps jc = some m

theorem gate_found {env : Env w} {jc : BitVec 64} {e : MappedMemory w} (fuel : Nat) (i coreReq : BitVec 32)
    (s : Proc w) (found : findMappedMemContaining env.mmaps (jc.setWidth w) = some e) :
    ∃ args rest, (traceAtomIfMapped env fuel i jc coreReq s).out =
      .log "\t\tjc = 0x%PRIx64\n" [.nat jc.toNat] ::
      .log "\t\tAddress %PRIu64 bytes inside mmap %p - %p (length=%zd)\n"
        (.nat ((jc.setWidth w - e.addr).signExtend 64).toNat :: args) :: .mark (.atom i.toNat) :: rest := by
  simp only [traceAtomIfMapped, found]
  exact ⟨_, _, rfl⟩

theorem gate_missed {env : Env w} {jc : BitVec 64} (fuel : Nat) (i coreReq : BitVec 32) (s : Proc w)
    (missed : findMappedMemContaining env.mmaps (jc.setWidth w) = none) :
    (traceAtomIfMapped env fuel i jc coreReq s).out =
      [.log "\t\tjc = 0x%PRIx64\n" [.nat jc.toNat],
        .log "\t\tERROR! jc contained in unknown memory region, cannot dump\n" []] := by
  simp only [traceAtomIfMapped, missed]
  rfl

theorem handed_iff_of_found {env : Env w} {jc : BitVec 64} {e : MappedMemory w} (fuel : Nat) (i coreReq : BitVec 32)
    (s : Proc w) (found : findMappedMemContaining env.mmaps (jc.setWidth w) = some e) (rest : List Out) (offset : Nat) :
    Handed ((traceAtomIfMapped env fuel i jc coreReq s).out ++ rest) i offset ↔
      ((jc.setWidth w - e.addr).signExtend 64).toNat = offset := by
  obtain ⟨args, more, out⟩ := gate_found fuel i coreReq s found
  rw [out]
  constructor
  · rintro ⟨jc', args', rest', same⟩
    simp only [List.cons_append, List.cons.injEq, Out.log.injEq, Arg.nat.injEq] at same
    exact same.2.1.2.1
  · rintro rfl
    exact ⟨_, args, more ++ rest, rfl⟩

theorem not_handed_of_missed {env : Env w} {jc : BitVec 64} (fuel : Nat) (i coreReq : BitVec 32) (s : Proc w)
    (missed : findMappedMemContaining env.mmaps (jc.setWidth w) = none) (rest : List Out) (offset : Nat) :
    ¬ Handed ((traceAtomIfMapped env fuel i jc coreReq s).out ++ rest) i offset := by
  rw [gate_missed fuel i coreReq s missed]
  rintro ⟨jc', args, rest', same⟩
  simp at same

end Gate

section Agrees

variable {build : Build}

/-- Both lookups agree on `jc`. Either no known GPU range holds it and, as a CPU pointer, no mapping
    has it, or one does that is the newest that the GPU lookup accepts, and the newest that has `jc` as a
    CPU pointer starts at the GPU address of that one. -/
def LookupsAgree (mmaps : List (MappedMemory build.bits)) (jc : BitVec 64) : Prop :=
  (∀ m, ¬ Holder mmaps jc m) ∧ (∀ e ∈ mmaps, e.cpuContains (jc.setWidth build.bits) = false) ∨
    ∃ m e, Holder mmaps jc m ∧ Newest (fun pos => pos.gpuContains jc) mmaps m ∧
      Newest (fun pos => pos.cpuContains (jc.setWidth build.bits)) mmaps e ∧
      e.addr = m.gpuVa.setWidth build.bits ∧ (build = .ilp32 → (jc - m.gpuVa).toNat < 2 ^ 31)

theorem gateAgrees_iff {env : Env build.bits} (apart : env.mmaps.Pairwise KnownApart) (fuel : Nat) (i : BitVec 32)
    (jc : BitVec 64) (coreReq : BitVec 32) (s : Proc build.bits) (rest : List Out) :
    GateAgrees env.mmaps jc i ((traceAtomIfMapped env fuel i jc coreReq s).out ++ rest) ↔
      LookupsAgree env.mmaps jc := by
  cases found : findMappedMemContaining env.mmaps (jc.setWidth build.bits) with
  | none =>
    have missed := not_handed_of_missed fuel i coreReq s found rest
    have outside : ∀ e ∈ env.mmaps, e.cpuContains (jc.setWidth build.bits) = false :=
      fun e member => eq_false_of_ne_true (List.find?_eq_none.mp found e member)
    constructor
    · intro agrees
      refine .inl ⟨fun m holder => ?_, outside⟩
      exact missed _ (agrees.offset m holder).1
    · rintro (⟨none, -⟩ | ⟨m, e, -, -, cpu, -⟩)
      · exact ⟨⟨fun ⟨offset, handed⟩ => absurd handed (missed offset),
          fun ⟨m, holder⟩ => absurd holder (none m)⟩, fun m holder => absurd holder (none m)⟩
      · exact (Option.some_ne_none e ((newest_iff_find.mp cpu).symm.trans found)).elim
  | some e =>
    have handed := handed_iff_of_found fuel i coreReq s found rest
    constructor
    · intro agrees
      obtain ⟨m, holder⟩ := agrees.handed.mp ⟨_, (handed _).mpr rfl⟩
      obtain ⟨printed, gpu⟩ := agrees.offset m holder
      have start := (printed_eq_iff build e.addr jc m.gpuVa holder.offset_lt).mp ((handed _).mp printed)
      exact .inr ⟨m, e, holder, newest_iff_find.mpr gpu, newest_iff_find.mpr found, start⟩
    · rintro (⟨-, outside⟩ | ⟨m, e', holder, gpu, cpu, start⟩)
      · have search : env.mmaps.find? (fun pos => pos.cpuContains (jc.setWidth build.bits)) = some e := found
        have inside := List.find?_some search
        rw [outside e (List.mem_of_find?_eq_some search)] at inside
        cases inside
      · obtain rfl : e' = e := Option.some.inj ((newest_iff_find.mp cpu).symm.trans found)
        refine ⟨⟨fun _ => ⟨m, holder⟩, fun _ => ⟨_, (handed _).mpr rfl⟩⟩, fun m' holder' => ?_⟩
        obtain rfl := holder.unique apart holder'
        refine ⟨(handed _).mpr ?_, newest_iff_find.mp gpu⟩
        exact (printed_eq_iff build e'.addr jc m.gpuVa holder.offset_lt).mpr start

end Agrees

section Submissions

variable {build : Build} (env : Env build.bits) (ptr : BitVec build.bits)

def jcAt {w : Nat} (mem : Memory w) (atoms : BitVec w) (i : BitVec 32) : BitVec 64 :=
  (MaliJdAtomV2.load mem (atomAt atoms i)).jc

/-- Tracing the submission at `ptr`, which has the expected stride, from `s₀` on comes to index `i`,
    in state `s`. -/
structure ComesTo (s₀ s : Proc build.bits) (i : BitVec 32) : Prop where
  stride : (MaliIoctlJobSubmit.load s₀.mem ptr).stride.toNat = MaliJdAtomV2.size
  rounds : ReflTransGen (Hop (traceSubmittedAtom env ptr (MaliIoctlJobSubmit.load s₀.mem ptr).addr)) (s₀, 0#32) (s, i)
  more : i < (MaliIoctlJobSubmit.load s.mem ptr).nrAtoms

theorem runs_deref {w : Nat} {α : Type} {p : BitVec w} (nonnull : p ≠ 0#w) (f : Memory w → α) (s : Proc w) :
    Runs (deref p f) s [] (f s.mem) s := by
  simp only [Runs, deref, if_neg nonnull]

theorem round_gate {w : Nat} (env : Env w) {ptr atoms : BitVec w} (fuel : Nat) {i : BitVec 32} {s : Proc w}
    (nonnull : ptr ≠ 0#w) (present : atoms ≠ 0#w) (more : i < (MaliIoctlJobSubmit.load s.mem ptr).nrAtoms) :
    ∃ rest, (traceSubmittedAtom env ptr atoms fuel i s).out =
      (traceAtomIfMapped env fuel i (jcAt s.mem atoms i) (MaliJdAtomV2.load s.mem (atomAt atoms i)).coreReq s).out ++
        rest := by
  obtain ⟨rest, out⟩ := out_bind_prefix
    (traceAtomIfMapped env fuel i (jcAt s.mem atoms i) (MaliJdAtomV2.load s.mem (atomAt atoms i)).coreReq)
    (fun _ => do
      logAtom (atomAt atoms i) atoms i
      pure (some (i + 1#32))) s
  refine ⟨rest, ?_⟩
  rw [← out, traceSubmittedAtom, bind_run (runs_deref nonnull _ s), if_pos more, bind_run (runs_deref present _ s)]
  rfl

/-- At every index that tracing a submission comes to, the log agrees with the GPU ranges exactly where
    both lookups agree on the atom's `jc`. -/
theorem submission_gate_iff (apart : env.mmaps.Pairwise KnownApart) (nonnull : ptr ≠ 0#(build.bits))
    {s₀ s : Proc build.bits} (present : (MaliIoctlJobSubmit.load s₀.mem ptr).addr ≠ 0#(build.bits)) {i : BitVec 32}
    (comes : ComesTo env ptr s₀ s i) (fuel : Nat) :
    GateAgrees env.mmaps (jcAt s.mem (MaliIoctlJobSubmit.load s₀.mem ptr).addr i) i
        (traceSubmittedAtom env ptr (MaliIoctlJobSubmit.load s₀.mem ptr).addr fuel i s).out ↔
      LookupsAgree env.mmaps (jcAt s.mem (MaliIoctlJobSubmit.load s₀.mem ptr).addr i) := by
  obtain ⟨rest, out⟩ := round_gate env fuel nonnull present comes.more
  rw [out]
  exact gateAgrees_iff apart fuel i _ _ s rest

def submitting : Proc Build.lp64.bits where
  mem := fun a =>
    if a = 0x3009#64 then 0x40#8
    else if a = 0x3010#64 then 0x01#8
    else if a = 0x3014#64 then 0x30#8
    else if a = 0x4001#64 then 0x10#8
    else if a = 0x4002#64 then 0x04#8
    else 0#8
  rands := 0

theorem comesTo_first (env : Env Build.lp64.bits) : ComesTo env 0x3000#64 submitting submitting 0#32 where
  stride := by decide
  rounds := .refl
  more := by decide

def sameVaPage : Env Build.lp64.bits := x86.env [⟨0x1000#64, 0x41000#64, 0x41000#64⟩]

theorem lookupsAgree_sameVaPage : LookupsAgree sameVaPage.mmaps 0x41000#64 := by
  refine .inr ⟨⟨0x1000#64, 0x41000#64, 0x41000#64⟩, ⟨0x1000#64, 0x41000#64, 0x41000#64⟩, ?_⟩
  refine ⟨⟨List.mem_singleton_self _, by decide, by decide, by decide⟩, newest_iff_find.mpr (by decide),
    newest_iff_find.mpr (by decide), by decide, fun other => nomatch other⟩

theorem same_va_atom_agrees :
    GateAgrees sameVaPage.mmaps 0x41000#64 0#32
      (traceSubmittedAtom sameVaPage 0x3000#64 0x4000#64 1 0#32 submitting).out := by
  have addr : (MaliIoctlJobSubmit.load submitting.mem 0x3000#64).addr = 0x4000#64 := by decide
  have jc : jcAt submitting.mem 0x4000#64 0#32 = 0x41000#64 := by decide
  have agrees := submission_gate_iff sameVaPage 0x3000#64 (List.pairwise_singleton _ _) (by decide)
    (by rw [addr]; decide) (comesTo_first sameVaPage) 1
  rw [addr, jc] at agrees
  exact agrees.mpr lookupsAgree_sameVaPage

theorem committed_page_missed :
    ∃ σ : Sys Build.lp64.bits, Run (Step x86) (start ⟨fun _ => 0#8, 0⟩)
        [opening "/dev/mali0" 3, committing, mapping] σ ∧
      ComesTo (x86.env σ.tracker.mmaps) 0x3000#64 submitting submitting 0#32 ∧
      ¬ GateAgrees σ.tracker.mmaps 0x41000#64 0#32
        (traceSubmittedAtom (x86.env σ.tracker.mmaps) 0x3000#64 0x4000#64 1 0#32 submitting).out := by
  obtain ⟨σ₁, opened⟩ := step_opening "/dev/mali0" 3 (start ⟨fun _ => 0#8, 0⟩)
  obtain ⟨σ₂, committed⟩ := step_committing σ₁
  obtain ⟨σ, mapped⟩ := step_mapping σ₂
  have run : Run (Step x86) (start ⟨fun _ => 0#8, 0⟩) [opening "/dev/mali0" 3, committing, mapping] σ :=
    .cons opened (.cons committed (.single mapped))
  have mmaps : σ.tracker.mmaps = [⟨0x1000#64, 0x7f0000#64, 0x41000#64⟩] := by
    rw [run_tracker run]
    decide
  have holder : Holder σ.tracker.mmaps 0x41000#64 ⟨0x1000#64, 0x7f0000#64, 0x41000#64⟩ := by
    rw [mmaps]
    exact ⟨List.mem_singleton_self _, by decide, by decide, by decide⟩
  have missed : findMappedMemContaining (x86.env σ.tracker.mmaps).mmaps ((0x41000#64).setWidth 64) = none := by
    rw [mmaps]
    decide
  refine ⟨σ, run, comesTo_first _, fun agrees => ?_⟩
  obtain ⟨rest, out⟩ := @round_gate 64 (x86.env σ.tracker.mmaps) 0x3000#64 0x4000#64 1 0#32 submitting (by decide) (by decide)
    (by decide)
  obtain ⟨offset, handed⟩ := agrees.handed.mpr ⟨_, holder⟩
  rw [out] at handed
  exact not_handed_of_missed 1 0#32 _ submitting missed rest offset handed

end Submissions

end Panwrap
