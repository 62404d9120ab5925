import Pantry.Decoder.Chain
import Pantry.Panwrap.Ioctl

namespace Panwrap

open Machine Decoder Program Relation

variable {w : Nat}

section Log

theorem silent_logExtResources (atom : MaliJdAtomV2 w) : Silent (logExtResources atom) := by
  unfold logExtResources
  split
  · rename_i listed
    apply silent_deref_bind listed
    intro count
    apply (silent_log _ _).bind
    apply (silent_log _ _).bind
    apply silent_forEach
    intro j
    apply (silent_log _ _).bind
    apply silent_deref_bind listed
    intro resource
    exact (silent_logDecodedFlags _ _).bind (silent_logCont _ _)
  · exact silent_log _ _

theorem silent_ioctlLogDecodedJdCoreReq (req : BitVec 32) : Silent (ioctlLogDecodedJdCoreReq req : Decode w Unit) := by
  unfold ioctlLogDecodedJdCoreReq
  split
  · apply (silent_logCont _ _).bind
    cases softFlag req with
    | none => exact silent_logCont _ _
    | some name => exact silent_logCont _ _
  · exact silent_logDecodedFlags _ _

theorem silent_logAtom {atoms : BitVec w} (present : atoms ≠ 0#w) (a : BitVec w) (i : BitVec 32) :
    Silent (logAtom a atoms i) := by
  unfold logAtom
  apply silent_deref_bind present
  intro atom
  apply (silent_log _ _).bind
  apply (silent_log _ _).bind
  apply (silent_logExtResources _).bind
  apply (silent_log _ _).bind
  apply (silent_log _ _).bind
  apply Silent.bind
  · apply silent_forEach
    intro _
    apply silent_deref_bind present
    intro atomId
    apply (silent_log _ _).bind
    apply silent_deref_bind present
    intro dependencyType
    exact (silent_logDecodedFlags _ _).bind (silent_logCont _ _)
  · iterate 5 apply (silent_log _ _).bind
    exact (silent_ioctlLogDecodedJdCoreReq _).bind (silent_logCont _ _)

end Log

variable (env : Env w)

section Atom

variable {s t : Proc w} {jc : BitVec 64} {coreReq : BitVec 32}

theorem fuelled_chaiTraceAtom (jc : BitVec 64) (coreReq : BitVec 32) :
    Fuelled fun n => chaiTraceAtom env n jc coreReq := by
  unfold chaiTraceAtom
  split
  · exact fuelled_const _
  · exact fuelled_chaiTraceHwChain env jc

/-- What tracing an atom leaves: a chain is followed to its end, a soft job changes nothing. -/
def AtomLeaves (s : Proc w) (jc : BitVec 64) (coreReq : BitVec 32) (t : Proc w) : Prop :=
  if coreReq &&& maliJdReqSoftJob ≠ 0#32 then
    (coreReq &&& maliJdReqSoftReplay ≠ 0#32 → Mapped env jc (BitVec.ofNat w MaliJdReplayPayload.size)) ∧ t = s
  else Leaves (fun n => chaiTraceHwChain env n jc) s () t

theorem leaves_chaiTraceAtom : Leaves (fun n => chaiTraceAtom env n jc coreReq) s () t ↔ AtomLeaves env s jc coreReq t := by
  unfold chaiTraceAtom AtomLeaves
  by_cases soft : coreReq &&& maliJdReqSoftJob ≠ 0#32
  · by_cases replay : coreReq &&& maliJdReqSoftReplay ≠ 0#32
    · simp only [if_pos soft, if_pos replay, leaves_iff_yields, yields_const, (checked_traceReplay env jc s).traces_iff,
        true_and, exists_and_left, exists_eq_left]
      rw [imp_iff_right replay]
    · simp only [if_pos soft, if_neg replay, leaves_iff_yields, yields_const, (silent_log _ _).checked.traces_iff,
        true_and, exists_eq_left]
      exact (and_iff_right fun held => absurd held replay).symm
  · simp only [if_neg soft]

theorem yields_chainAtom {marks : List Mark} (hard : coreReq &&& maliJdReqSoftJob = 0#32) :
    Yields (fun n => chaiTraceAtom env n jc coreReq) s marks () t ↔ Yields (fun n => chaiTraceHwChain env n jc) s marks () t := by
  unfold chaiTraceAtom
  simp only [hard, ne_eq, not_true_eq_false, if_false]

theorem yields_replayAtom (replay : coreReq &&& maliJdReqSoftJob ≠ 0#32 ∧ coreReq &&& maliJdReqSoftReplay ≠ 0#32)
    (mapped : Mapped env jc (BitVec.ofNat w MaliJdReplayPayload.size)) :
    Yields (fun n => chaiTraceAtom env n jc coreReq) s [] () s := by
  unfold chaiTraceAtom
  simp only [if_pos replay.1, if_pos replay.2]
  exact yields_const.mpr ((checked_traceReplay env jc s).traces mapped)

theorem breaks_chaiTraceAtom :
    Breaks (fun n => chaiTraceAtom env n jc coreReq) s .nullDeref ↔ ¬ AtomMapped env s jc coreReq := by
  rw [← atom_reads_mapped_iff, ← not_exists, not_not]
  rfl

end Atom

section Round

variable {s t : Proc w} {ptr atoms : BitVec w} {i : BitVec 32}

/-- The lookup in front of `chai_trace_atom` finds `jc`. -/
def Gated (jc : BitVec 64) : Prop := (findMappedMemContaining env.mmaps (jc.setWidth w)).isSome = true

instance (jc : BitVec 64) : Decidable (Gated env jc) := inferInstanceAs (Decidable (_ = true))

def atomOf (m : Memory w) (atoms : BitVec w) (i : BitVec 32) : MaliJdAtomV2 w := MaliJdAtomV2.load m (atomAt atoms i)

theorem fuelled_traceAtomIfMapped (i : BitVec 32) (jc : BitVec 64) (coreReq : BitVec 32) :
    Fuelled fun n => traceAtomIfMapped env n i jc coreReq := by
  unfold traceAtomIfMapped
  apply (fuelled_const _).bind
  intro _
  cases findMappedMemContaining env.mmaps (jc.setWidth w) with
  | none => exact fuelled_const _
  | some mem =>
    apply (fuelled_const _).bind
    intro _
    apply (fuelled_const _).bind
    intro _
    exact fuelled_chaiTraceAtom env jc coreReq

theorem fuelled_traceSubmittedAtom (i : BitVec 32) : Fuelled fun n => traceSubmittedAtom env ptr atoms n i := by
  unfold traceSubmittedAtom
  apply (fuelled_const _).bind
  intro nrAtoms
  split
  · apply (fuelled_const _).bind
    intro atom
    exact (fuelled_traceAtomIfMapped env i _ _).bind fun _ => fuelled_const _
  · exact fuelled_const _

/-- What tracing the atom at index `i` finds and leaves, behind the lookup in front of it. -/
def GateYields (s : Proc w) (i : BitVec 32) (jc : BitVec 64) (coreReq : BitVec 32) (marks : List Mark) (t : Proc w) :
    Prop :=
  if Gated env jc then
    ∃ found, Yields (fun n => chaiTraceAtom env n jc coreReq) s found () t ∧ marks = .atom i.toNat :: found
  else marks = [] ∧ t = s

variable {jc : BitVec 64} {coreReq : BitVec 32} {marks : List Mark}

theorem yields_traceAtomIfMapped :
    Yields (fun n => traceAtomIfMapped env n i jc coreReq) s marks () t ↔ GateYields env s i jc coreReq marks t := by
  unfold traceAtomIfMapped GateYields
  rw [yields_log_bind]
  by_cases gated : Gated env jc
  · obtain ⟨mem, found⟩ := Option.isSome_iff_exists.mp gated
    simp only [gated, if_true, found, yields_log_bind, yields_mark_bind]
  · have missed : findMappedMemContaining env.mmaps (jc.setWidth w) = none := Option.not_isSome_iff_eq_none.mp gated
    simp only [gated, if_false, missed, yields_const, (silent_log _ _).checked.traces_iff, true_and]

theorem breaks_traceAtomIfMapped :
    Breaks (fun n => traceAtomIfMapped env n i jc coreReq) s .nullDeref ↔ Gated env jc ∧ ¬ AtomMapped env s jc coreReq := by
  unfold traceAtomIfMapped
  rw [breaks_log_bind]
  by_cases gated : Gated env jc
  · obtain ⟨mem, found⟩ := Option.isSome_iff_exists.mp gated
    simp only [gated, true_and, found, breaks_log_bind, breaks_mark_bind]
    exact breaks_chaiTraceAtom env
  · have missed : findMappedMemContaining env.mmaps (jc.setWidth w) = none := Option.not_isSome_iff_eq_none.mp gated
    simp only [gated, false_and, iff_false, missed, breaks_const]
    obtain ⟨_, runs, -⟩ := silent_log "\t\tERROR! jc contained in unknown memory region, cannot dump\n" [] s
    exact runs.not_faults

/-- What the round at an index reads without a test is there. -/
def RoundMapped (ptr atoms : BitVec w) (now : Proc w × BitVec 32) : Prop :=
  ptr ≠ 0#w ∧ (now.2 < (MaliIoctlJobSubmit.load now.1.mem ptr).nrAtoms → atoms ≠ 0#w ∧
    (Gated env (atomOf now.1.mem atoms now.2).jc →
      AtomMapped env now.1 (atomOf now.1.mem atoms now.2).jc (atomOf now.1.mem atoms now.2).coreReq))

/-- The atom at an index is traced, or reported as not mapped, and the loop goes on at the next one. -/
def NextAtom (ptr atoms : BitVec w) (now next : Proc w × BitVec 32) : Prop :=
  ptr ≠ 0#w ∧ now.2 < (MaliIoctlJobSubmit.load now.1.mem ptr).nrAtoms ∧ atoms ≠ 0#w ∧ next.2 = now.2 + 1#32 ∧
    if Gated env (atomOf now.1.mem atoms now.2).jc then
      AtomLeaves env now.1 (atomOf now.1.mem atoms now.2).jc (atomOf now.1.mem atoms now.2).coreReq next.1
    else next.1 = now.1

theorem breaks_traceSubmittedAtom :
    Breaks (fun n => traceSubmittedAtom env ptr atoms n i) s .nullDeref ↔ ¬ RoundMapped env ptr atoms (s, i) := by
  unfold traceSubmittedAtom RoundMapped
  rw [breaks_deref_bind]
  by_cases null : ptr = 0#w
  · simp [null]
  · by_cases more : i < (MaliIoctlJobSubmit.load s.mem ptr).nrAtoms
    · by_cases present : atoms = 0#w
      · simp [null, more, present, breaks_deref_bind]
      · simp only [null, false_and, false_or, ne_eq, not_false_eq_true, true_and, more, if_true, breaks_deref_bind, present,
          forall_const]
        rw [breaks_bind_leaves (fuelled_traceAtomIfMapped env i _ _) fun _ => fuelled_const _, breaks_traceAtomIfMapped]
        have quiet (t : Proc w) : ¬ Breaks (fun _ => do
            logAtom (atomAt atoms i) atoms i
            pure (some (i + 1#32))) t .nullDeref := by
          rw [breaks_const, faults_after (silent_logAtom present (atomAt atoms i) i t)]
          exact not_faults_pure
        simp only [quiet, and_false, exists_false, or_false, atomOf]
        exact Classical.not_imp.symm
    · simp [null, more, breaks_const]

theorem yields_traceSubmittedAtom {next : Option (BitVec 32)} :
    Yields (fun n => traceSubmittedAtom env ptr atoms n i) s marks next t ↔
      ptr ≠ 0#w ∧ if i < (MaliIoctlJobSubmit.load s.mem ptr).nrAtoms then
        atoms ≠ 0#w ∧ next = some (i + 1#32) ∧
          GateYields env s i (atomOf s.mem atoms i).jc (atomOf s.mem atoms i).coreReq marks t
      else marks = [] ∧ next = none ∧ t = s := by
  unfold traceSubmittedAtom
  rw [yields_deref_bind]
  apply and_congr_right
  intro nonnull
  by_cases more : i < (MaliIoctlJobSubmit.load s.mem ptr).nrAtoms
  · simp only [more, if_true, yields_deref_bind]
    apply and_congr_right
    intro present
    rw [yields_bind (fuelled_traceAtomIfMapped env i _ _) fun _ => fuelled_const _]
    simp only [yields_const, traces_after (silent_logAtom present (atomAt atoms i) i _), traces_pure_iff,
      List.nil_append, atomOf]
    constructor
    · rintro ⟨found, _, u, _, gate, ⟨_, ⟨rfl, goes, rfl⟩, rfl⟩, rfl⟩
      exact ⟨goes, by rw [List.append_nil]; exact (yields_traceAtomIfMapped env).mp gate⟩
    · rintro ⟨goes, gate⟩
      exact ⟨marks, (), t, [], (yields_traceAtomIfMapped env).mpr gate, ⟨[], ⟨rfl, goes, rfl⟩, rfl⟩,
        (List.append_nil _).symm⟩
  · simp only [more, if_false, yields_const, traces_pure_iff]

theorem hop_traceSubmittedAtom : Hop (traceSubmittedAtom env ptr atoms) = NextAtom env ptr atoms := by
  funext now next
  apply propext
  simp only [Hop, leaves_iff_yields, yields_traceSubmittedAtom, NextAtom, exists_and_left]
  apply and_congr_right
  intro nonnull
  by_cases more : now.2 < (MaliIoctlJobSubmit.load now.1.mem ptr).nrAtoms
  · simp only [more, if_true, true_and, exists_and_left, Option.some.injEq, GateYields]
    apply and_congr_right
    intro present
    apply and_congr_right
    intro goes
    by_cases gated : Gated env (atomOf now.1.mem atoms now.2).jc
    · simp only [gated, if_true, ← leaves_chaiTraceAtom, leaves_iff_yields]
      constructor
      · rintro ⟨_, found, yields, -⟩
        exact ⟨found, yields⟩
      · rintro ⟨found, yields⟩
        exact ⟨_, found, yields, rfl⟩
    · simp only [gated, if_false, exists_eq_left]
  · simp [more]

end Round

section Submission

variable (s : Proc w) (ptr : BitVec w)

/-- Every atom that tracing the submission comes to has what its round reads without a test in place. -/
def SubmissionMapped : Prop :=
  ptr ≠ 0#w ∧ ((MaliIoctlJobSubmit.load s.mem ptr).stride.toNat = MaliJdAtomV2.size →
    ∀ now, ReflTransGen (NextAtom env ptr (MaliIoctlJobSubmit.load s.mem ptr).addr) (s, 0#32) now →
      RoundMapped env ptr (MaliIoctlJobSubmit.load s.mem ptr).addr now)

/-- Tracing a submission reads through a null pointer for no amount of fuel if and only if every structure that
    it reads without a test is there when the trace comes to it. -/
theorem submission_reads_mapped_iff :
    (∀ fuel, ¬ (ioctlDecodePreJobSubmit env fuel ptr).Faults s .nullDeref) ↔ SubmissionMapped env s ptr := by
  rw [← not_exists]
  change ¬ Breaks (fun fuel => ioctlDecodePreJobSubmit env fuel ptr) s .nullDeref ↔ _
  unfold ioctlDecodePreJobSubmit SubmissionMapped
  rw [breaks_deref_bind]
  by_cases null : ptr = 0#w
  · simp [null]
  · simp only [null, false_and, false_or, ne_eq, not_false_eq_true, true_and, breaks_log_bind]
    by_cases stride : (MaliIoctlJobSubmit.load s.mem ptr).stride.toNat = MaliJdAtomV2.size
    · simp only [stride, not_true_eq_false, if_false, breaks_log_bind, forall_const,
        loop_breaks_hops (fuelled_traceSubmittedAtom env), hop_traceSubmittedAtom, breaks_traceSubmittedAtom]
      constructor
      · intro never now reached
        by_contra unmapped
        exact never ⟨now.1, now.2, reached, unmapped⟩
      · rintro mapped ⟨t, j, reached, unmapped⟩
        exact unmapped (mapped (t, j) reached)
    · simp only [stride, not_false_eq_true, if_true, breaks_const, false_imp_iff, iff_true]
      obtain ⟨_, runs, -⟩ := silent_log "\tCannot dump atoms :(, maybe it's a legacy job format?\n" [] s
      exact runs.not_faults

end Submission

section Batch

variable {env} {s t u : Proc w} {ptr p : BitVec w} {atoms : List (MaliJdAtomV2 w)} {i : Nat} {atom : MaliJdAtomV2 w}
  {marks found : List Mark}

/-- The argument of a submission at `ptr` names the array at `p`, which holds the atoms. -/
structure BatchLaid (m : Memory w) (ptr p : BitVec w) (atoms : List (MaliJdAtomV2 w)) : Prop where
  args : MaliIoctlJobSubmit.load m ptr = ⟨p, BitVec.ofNat 32 atoms.length, BitVec.ofNat 32 MaliJdAtomV2.size⟩
  atom : ∀ (i : Nat) atom, atoms[i]? = some atom → atomOf m p (BitVec.ofNat 32 i) = atom
  present : ptr ≠ 0#w ∧ p ≠ 0#w
  fits : atoms.length < 2 ^ 32

theorem BatchLaid.next (laid : BatchLaid s.mem ptr p atoms) (member : atoms[i]? = some atom) (gated : Gated env atom.jc)
    (traced : Yields (fun n => chaiTraceAtom env n atom.jc atom.coreReq) s found () t)
    (rest : Yields (fun n => loop (traceSubmittedAtom env ptr p) n (BitVec.ofNat 32 (i + 1))) t marks () u) :
    Yields (fun n => loop (traceSubmittedAtom env ptr p) n (BitVec.ofNat 32 i)) s (.atom i :: found ++ marks) () u := by
  have inside : i < atoms.length := (List.getElem?_eq_some_iff.mp member).1
  have fits := laid.fits
  have value : (BitVec.ofNat 32 i).toNat = i := by rw [BitVec.toNat_ofNat, Nat.mod_eq_of_lt (by omega)]
  have more : BitVec.ofNat 32 i < (MaliIoctlJobSubmit.load s.mem ptr).nrAtoms := by
    rw [laid.args, BitVec.lt_def, value, BitVec.toNat_ofNat, Nat.mod_eq_of_lt (by omega)]
    exact inside
  have round : Yields (fun n => traceSubmittedAtom env ptr p n (BitVec.ofNat 32 i)) s (.atom i :: found)
      (some (BitVec.ofNat 32 (i + 1))) t := by
    rw [yields_traceSubmittedAtom, if_pos more, laid.atom i atom member, GateYields, if_pos gated, value]
    refine ⟨laid.present.1, laid.present.2, ?_, found, traced, rfl⟩
    rw [BitVec.ofNat_add]
  exact round.next (fuelled_traceSubmittedAtom env) rest

theorem BatchLaid.last (laid : BatchLaid s.mem ptr p atoms) :
    Yields (fun n => loop (traceSubmittedAtom env ptr p) n (BitVec.ofNat 32 atoms.length)) s [] () s := by
  have done : ¬ BitVec.ofNat 32 atoms.length < (MaliIoctlJobSubmit.load s.mem ptr).nrAtoms := by
    rw [laid.args]
    exact BitVec.lt_irrefl _
  apply Yields.last (fuelled_traceSubmittedAtom env)
  rw [yields_traceSubmittedAtom, if_neg done]
  exact ⟨laid.present.1, rfl, rfl, rfl⟩

theorem BatchLaid.submission (laid : BatchLaid s.mem ptr p atoms)
    (traced : Yields (fun n => loop (traceSubmittedAtom env ptr p) n 0#32) s marks () t) :
    Yields (fun n => ioctlDecodePreJobSubmit env n ptr) s marks () t := by
  have stride : (MaliIoctlJobSubmit.load s.mem ptr).stride.toNat = MaliJdAtomV2.size := by
    rw [laid.args]
    rfl
  unfold ioctlDecodePreJobSubmit
  rw [yields_deref_bind]
  refine ⟨laid.present.1, ?_⟩
  simp only [yields_log_bind, stride, ne_eq, not_true_eq_false, if_false]
  rw [laid.args]
  exact traced

end Batch

end Panwrap
