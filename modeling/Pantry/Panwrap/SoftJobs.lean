import Pantry.Decoder.Section
import Pantry.Panwrap.Ioctl

namespace Panwrap

open Machine Decoder Program

def maliJdReqSoftJobType : BitVec 32 := maliJdReqSoftJob ||| 0x1f#32

def softText : Option String → Out
  | some name => .logCont "%s)" [.str name]
  | none => .logCont "???)" []

theorem softText_inj {kind kind' : Option String} (same : softText kind = softText kind') : kind = kind' := by
  cases kind <;> cases kind' <;> simp [softText] at same ⊢
  exact same

section Classifiers

variable (w : Nat) (coreReq : BitVec 32)

/-- `chai_trace_atom` takes the `jc` of such an atom for a replay payload. -/
def TreatsAsReplay : Prop :=
  ∀ (env : Env w) (fuel : Nat) (jc : BitVec 64), chaiTraceAtom env fuel jc coreReq = traceReplay env jc

/-- The two classifiers of soft jobs go by the type that the core requirements hold. -/
structure ClassifiersAgree : Prop where
  replay : TreatsAsReplay w coreReq ↔ coreReq &&& maliJdReqSoftJobType = maliJdReqSoftReplay
  named : ∀ s : Proc w, (ioctlLogDecodedJdCoreReq coreReq s).out =
    [.logCont "0x%010x (" [.nat coreReq.toNat], softText (softFlag (coreReq &&& maliJdReqSoftJobType))]
  agree : TreatsAsReplay w coreReq ↔
    ∀ s : Proc w, softText (some "SOFT_REPLAY") ∈ (ioctlLogDecodedJdCoreReq coreReq s).out

end Classifiers

section Soft

variable {w : Nat} {coreReq : BitVec 32}

theorem prints_softJob (soft : coreReq &&& maliJdReqSoftJob ≠ 0#32) (m : Memory w) :
    Prints (ioctlLogDecodedJdCoreReq coreReq) m
      [.logCont "0x%010x (" [.nat coreReq.toNat], softText (softFlag coreReq)] := by
  rw [ioctlLogDecodedJdCoreReq, if_pos soft]
  apply (prints_put _).bind
  cases softFlag coreReq with
  | some name => exact prints_put _
  | none => exact prints_put _

/-- The bit of every soft job is one of those of `MALI_JD_REQ_SOFT_REPLAY`. -/
theorem treatsAsReplay (soft : coreReq &&& maliJdReqSoftJob ≠ 0#32) : TreatsAsReplay w coreReq := by
  intro env fuel jc
  have replay : coreReq &&& maliJdReqSoftReplay ≠ 0#32 := by
    intro none
    refine soft ?_
    have within : maliJdReqSoftReplay &&& maliJdReqSoftJob = maliJdReqSoftJob := by decide
    rw [← within, ← BitVec.and_assoc, none, BitVec.zero_and]
  rw [chaiTraceAtom, if_pos soft, if_pos replay]

theorem rest_of_other {c : Prop} [Decidable c] {name other : String} {rest : Option String} (differ : other ≠ name)
    (named : (if c then some other else rest) = some name) : rest = some name := by
  split at named
  · exact absurd (Option.some.inj named) differ
  · exact named

theorem softFlag_replay_iff : softFlag coreReq = some "SOFT_REPLAY" ↔ coreReq = maliJdReqSoftReplay := by
  constructor
  · intro named
    by_contra other
    have skipped : ¬ coreReq = maliJdReqSoftJob ||| 0x4#32 := other
    rw [softFlag, if_neg skipped] at named
    -- no other case has the name
    iterate 11 replace named := rest_of_other (by decide) named
    cases named
  · rintro rfl
    decide

/-- The classifiers agree on nothing but a replay with no other requirement. -/
theorem classifiers_agree_iff (w : Nat) (coreReq : BitVec 32) (soft : coreReq &&& maliJdReqSoftJob ≠ 0#32) :
    ClassifiersAgree w coreReq ↔ coreReq = maliJdReqSoftReplay := by
  constructor
  · intro agrees
    have type := agrees.replay.mp (treatsAsReplay soft)
    have printed := agrees.named ⟨fun _ => 0#8, 0⟩
    rw [(prints_softJob soft _).out_eq, type] at printed
    have named := softText_inj (List.head_eq_of_cons_eq (List.tail_eq_of_cons_eq printed))
    rw [← softFlag_replay_iff, named]
    decide
  · rintro rfl
    have type : maliJdReqSoftReplay &&& maliJdReqSoftJobType = maliJdReqSoftReplay := by decide
    refine ⟨iff_of_true (treatsAsReplay soft) type, fun s => ?_, iff_of_true (treatsAsReplay soft) fun s => ?_⟩
    · rw [(prints_softJob soft s.mem).out_eq, type]
    · rw [(prints_softJob soft s.mem).out_eq, softFlag_replay_iff.mpr rfl]
      exact List.mem_cons_of_mem _ (List.mem_singleton_self _)

theorem plain_replay_agrees : ClassifiersAgree 64 maliJdReqSoftReplay :=
  (classifiers_agree_iff 64 maliJdReqSoftReplay (by decide)).mpr rfl

def maliJdReqExternalResources : BitVec 32 := 1#32 <<< 8

theorem replay_unnamed : ¬ ClassifiersAgree 64 (maliJdReqExternalResources ||| maliJdReqSoftReplay) := by
  intro agrees
  have soft : (maliJdReqExternalResources ||| maliJdReqSoftReplay) &&& maliJdReqSoftJob ≠ 0#32 := by decide
  have printed := agrees.named ⟨fun _ => 0#8, 0⟩
  rw [(prints_softJob soft _).out_eq] at printed
  exact absurd printed (by decide)

end Soft

end Panwrap
