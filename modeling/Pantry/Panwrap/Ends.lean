import Pantry.Panwrap.Arguments
import Pantry.Panwrap.Transparent

namespace Panwrap

open Machine Decoder Program Relation

variable {w : Nat}

section Submission

variable (env : Env w) {s t : Proc w} {ptr : BitVec w}

/-- What tracing a submission leaves: nothing is changed if the stride is that of another format, else the
    loop comes to an index that is not below the number of atoms. -/
def SubmissionLeaves (s : Proc w) (ptr : BitVec w) (t : Proc w) : Prop :=
  ptr ≠ 0#w ∧
    if (MaliIoctlJobSubmit.load s.mem ptr).stride.toNat ≠ MaliJdAtomV2.size then t = s
    else ∃ i, ReflTransGen (NextAtom env ptr (MaliIoctlJobSubmit.load s.mem ptr).addr) (s, 0#32) (t, i) ∧
      ¬ i < (MaliIoctlJobSubmit.load t.mem ptr).nrAtoms

theorem leaves_ioctlDecodePreJobSubmit :
    Leaves (fun n => ioctlDecodePreJobSubmit env n ptr) s () t ↔ SubmissionLeaves env s ptr t := by
  unfold ioctlDecodePreJobSubmit SubmissionLeaves
  rw [leaves_iff_yields]
  simp only [yields_deref_bind, exists_and_left, yields_log_bind]
  apply and_congr_right
  intro nonnull
  by_cases stride : (MaliIoctlJobSubmit.load s.mem ptr).stride.toNat ≠ MaliJdAtomV2.size
  · simp only [if_pos stride, yields_log_bind, yields_const, (silent_log _ _).checked.traces_iff, true_and,
      exists_eq_left]
  · simp only [if_neg stride, yields_log_bind]
    rw [← leaves_iff_yields, loop_leaves_iff (fuelled_traceSubmittedAtom env), hop_traceSubmittedAtom]
    have last (u : Proc w) (i : BitVec 32) :
        Leaves (fun n => traceSubmittedAtom env ptr (MaliIoctlJobSubmit.load s.mem ptr).addr n i) u none t ↔
          t = u ∧ ¬ i < (MaliIoctlJobSubmit.load u.mem ptr).nrAtoms := by
      simp only [leaves_iff_yields, yields_traceSubmittedAtom, exists_and_left]
      by_cases more : i < (MaliIoctlJobSubmit.load u.mem ptr).nrAtoms
      · simp [more]
      · simp [more, nonnull]
    constructor
    · intro left
      obtain ⟨u, i, reached, final⟩ := left
      obtain ⟨rfl, done⟩ := (last u i).mp final
      exact ⟨i, reached, done⟩
    · intro left
      obtain ⟨i, reached, done⟩ := left
      exact ⟨t, i, reached, (last t i).mpr ⟨rfl, done⟩⟩

end Submission

section Decoders

variable {ptr : BitVec w} {command : BitVec 32}

/-- `panwrap_log_hexdump` counts to its size with an `unsigned int`. -/
def DumpEnds (p size : BitVec w) : Prop := p = 0#w ∨ size.toNat < 2 ^ 32

instance (p size : BitVec w) : Decidable (DumpEnds p size) := inferInstanceAs (Decidable (_ ∨ _))

theorem silent_hexdump {p size : BitVec w} (ends : DumpEnds p size) (indent : String) : Silent (hexdump p size indent) := by
  intro s
  unfold hexdump
  by_cases null : p = 0#w
  · refine ⟨_, ?_, panwrapLogHexdump_unmarked none indent⟩
    simp only [Runs, if_pos null]
  · refine ⟨_, ?_, panwrapLogHexdump_unmarked (some (s.mem.bytes p size.toNat)) indent⟩
    simp only [Runs, if_neg null, if_pos (ends.resolve_left null)]

theorem hexdump_endless {p size : BitVec w} (endless : ¬ DumpEnds p size) (indent : String) (s : Proc w) :
    ¬ Returns (hexdump p size indent) s := by
  intro returned
  obtain ⟨out, a, t, runs⟩ := returned
  obtain ⟨nonnull, large⟩ := not_or.mp endless
  simp only [Runs, hexdump, if_neg nonnull, if_neg large, stop, reduceCtorEq, Result.mk.injEq, and_false] at runs

/-- Every decoder in front of libc's call but those of `SYNC` and `JOB_SUBMIT` only prints. -/
theorem preDecoders_silent (nonnull : ptr ≠ 0#w) (env : Env w) (fuel : Nat) :
    ∀ entry ∈ preDecoders env fuel ptr, entry.1 ≠ maliIoctlSync → entry.1 ≠ maliIoctlJobSubmit → Silent entry.2 := by
  have told (table : List FlagInfo) (flags : BitVec 64) :
      Silent (do logDecodedFlags table flags; logCont "\n" [] : Decode w Unit) :=
    (silent_logDecodedFlags table flags).bind (silent_logCont _ _)
  have flagged (table : List FlagInfo) (flags : BitVec 64) {rest : Decode w Unit} (silent : Silent rest) :
      Silent (do logDecodedFlags table flags; logCont "\n" []; rest : Decode w Unit) :=
    (silent_logDecodedFlags table flags).bind ((silent_logCont _ _).bind silent)
  have log (format : String) (args : List Arg) : Silent (panwrapLog format args : Decode w Unit) := silent_log format args
  simp only [preDecoders, List.forall_mem_cons, List.not_mem_nil, IsEmpty.forall_iff, implies_true, and_true]
  refine ⟨?_, ?_, ?_, ?_, ?_, ?_, ?_, ?_, ?_, ?_, ?_⟩ <;> intro sync submit
  · exact silent_deref_bind nonnull fun _ => (log _ _).bind ((log _ _).bind ((log _ _).bind ((log _ _).bind (told _ _))))
  · exact silent_deref_bind nonnull fun _ => (log _ _).bind ((log _ _).bind ((log _ _).bind (told _ _)))
  · exact silent_deref_bind nonnull fun _ => (log _ _).bind (log _ _)
  · exact silent_deref_bind nonnull fun _ => (log _ _).bind (log _ _)
  · exact silent_deref_bind nonnull fun _ => log _ _
  · exact silent_deref_bind nonnull fun _ => (log _ _).bind ((log _ _).bind (flagged _ _ (log _ _)))
  · exact silent_deref_bind nonnull fun _ => (log _ _).bind (flagged _ _ ((log _ _).bind ((log _ _).bind (log _ _))))
  · exact absurd rfl sync
  · exact silent_deref_bind nonnull fun _ => log _ _
  · exact silent_deref_bind nonnull fun _ => log _ _
  · exact absurd rfl submit

theorem silent_ioctlDecodePostGpuPropsRegDump (nonnull : ptr ≠ 0#w) : Silent (ioctlDecodePostGpuPropsRegDump ptr) := by
  have logs {format : String} {args : List Arg} {rest : Decode w Unit} (silent : Silent rest) :
      Silent (do panwrapLog format args; rest : Decode w Unit) := (silent_log format args).bind silent
  unfold ioctlDecodePostGpuPropsRegDump
  apply silent_deref_bind nonnull
  intro byte
  apply silent_deref_bind nonnull
  intro half
  apply silent_deref_bind nonnull
  intro word
  apply silent_deref_bind nonnull
  intro long
  iterate 9 apply logs
  refine (silent_forEach (fun _ => silent_log _ _) _).bind ?_
  iterate 28 apply logs
  refine (silent_forEach (fun _ => silent_log _ _) _).bind ?_
  iterate 9 apply logs
  exact silent_forEach (fun _ => (silent_log _ _).bind (silent_log _ _)) _

theorem silent_ioctlDecodePostGetVersion (nonnull : ptr ≠ 0#w) : Silent (ioctlDecodePostGetVersion ptr) :=
  silent_deref_bind nonnull fun _ => silent_deref_bind nonnull fun _ => (silent_log _ _).bind (silent_log _ _)

theorem silent_ioctlDecodePostMemImport (nonnull : ptr ≠ 0#w) : Silent (ioctlDecodePostMemImport ptr) :=
  silent_deref_bind nonnull fun _ => (silent_log _ _).bind ((silent_log _ _).bind ((silent_log _ _).bind
    ((silent_logDecodedFlags _ _).bind (silent_logCont _ _))))

/-- The program only prints and comes back if `c` holds, and does not come back else. -/
def PrintsIff (p : Decode w Unit) (s : Proc w) (c : Prop) : Prop :=
  (c → ∃ out, Runs p s out () s) ∧ (Returns p s → c)

variable {p : Decode w Unit} {s : Proc w} {c : Prop}

theorem printsIff_of_silent (silent : Silent p) : PrintsIff p s True := by
  obtain ⟨out, runs, -⟩ := silent s
  exact ⟨fun _ => ⟨out, runs⟩, fun _ => trivial⟩

theorem PrintsIff.after {q : Decode w Unit} (silent : Silent q) (prints : PrintsIff p s c) :
    PrintsIff (q >>= fun _ => p) s c := by
  obtain ⟨out, first, -⟩ := silent s
  constructor
  · intro holds
    obtain ⟨out', runs⟩ := prints.1 holds
    exact ⟨_, first.bind runs⟩
  · exact fun returned => prints.2 ((returns_after first).mp returned)

/-- The dump of the memory that is synchronised in the direction `kind` ends. -/
def SyncEnds (kind : BitVec 8) (m : Memory w) (ptr : BitVec w) : Prop :=
  (MaliIoctlSync.load m ptr).type = kind →
    DumpEnds (MaliIoctlSync.load m ptr).userAddr ((MaliIoctlSync.load m ptr).size.setWidth w)

instance (kind : BitVec 8) (m : Memory w) (ptr : BitVec w) : Decidable (SyncEnds kind m ptr) :=
  inferInstanceAs (Decidable (_ → _))

theorem printsIff_dump {kind type : BitVec 8} {a size : BitVec w} (format : String) :
    PrintsIff (whenever (type = kind) do
      panwrapLog format []
      hexdump a size "\t\t") s (type = kind → DumpEnds a size) := by
  unfold whenever
  by_cases synced : type = kind
  · rw [if_pos synced]
    apply PrintsIff.after (silent_log _ _)
    by_cases ends : DumpEnds a size
    · exact ⟨fun _ => (printsIff_of_silent (silent_hexdump ends "\t\t")).1 trivial, fun _ _ => ends⟩
    · exact ⟨fun holds => absurd (holds synced) ends, fun returned => absurd returned (hexdump_endless ends "\t\t" s)⟩
  · rw [if_neg synced]
    exact ⟨fun _ => (printsIff_of_silent silent_pure).1 trivial, fun _ held => absurd held synced⟩

theorem printsIff_deref {α : Type} {g : Memory w → α} {f : α → Decode w Unit} (nonnull : ptr ≠ 0#w)
    (prints : PrintsIff (f (g s.mem)) s c) : PrintsIff (deref ptr g >>= f) s c := by
  have first : Runs (deref ptr g) s [] (g s.mem) s := runs_deref nonnull g
  constructor
  · intro holds
    obtain ⟨out, runs⟩ := prints.1 holds
    exact ⟨_, first.bind runs⟩
  · exact fun returned => prints.2 ((returns_after first).mp returned)

theorem printsIff_ioctlDecodePreSync (env : Env w) (nonnull : ptr ≠ 0#w) :
    PrintsIff (ioctlDecodePreSync env ptr) s (SyncEnds maliSyncToDevice s.mem ptr) := by
  unfold ioctlDecodePreSync
  apply printsIff_deref nonnull
  dsimp only
  cases findMappedMem env.mmaps ((MaliIoctlSync.load s.mem ptr).handle.setWidth w) with
  | none =>
    iterate 5 apply PrintsIff.after (silent_log _ _)
    exact printsIff_dump _
  | some mem =>
    iterate 4 apply PrintsIff.after (silent_log _ _)
    exact printsIff_dump _

theorem printsIff_ioctlDecodePostSync (nonnull : ptr ≠ 0#w) :
    PrintsIff (ioctlDecodePostSync ptr) s (SyncEnds maliSyncToCpu s.mem ptr) :=
  printsIff_deref nonnull (printsIff_dump _)

end Decoders

section Dispatch

variable {ptr request : BitVec w}

/-- What the decoding in front of libc's call leaves, where it ends. -/
def PreLeaves (env : Env w) (request ptr : BitVec w) (s t : Proc w) : Prop :=
  if selected w request preCommands = some maliIoctlJobSubmit then SubmissionLeaves env s ptr t
  else (selected w request preCommands = some maliIoctlSync → SyncEnds maliSyncToDevice s.mem ptr) ∧ t = s

theorem leaves_of_printsIff {p : Nat → Decode w Unit} {s t : Proc w} {c : Prop} (prints : ∀ n, PrintsIff (p n) s c) :
    Leaves p s () t ↔ c ∧ t = s := by
  constructor
  · intro leaves
    obtain ⟨out, fuel, runs⟩ := leaves
    have holds := (prints fuel).2 ⟨out, (), t, runs⟩
    obtain ⟨out', printed⟩ := (prints fuel).1 holds
    exact ⟨holds, (Runs.unique runs printed).2.2⟩
  · intro both
    obtain ⟨holds, rfl⟩ := both
    obtain ⟨out, printed⟩ := (prints 0).1 holds
    exact ⟨out, 0, printed⟩

theorem printsIff_ioctlDecodePre (env : Env w) (nonnull : ptr ≠ 0#w) (fuel : Nat) {s : Proc w}
    (other : selected w request preCommands ≠ some maliIoctlJobSubmit) :
    PrintsIff (ioctlDecodePre env fuel request ptr) s
      (selected w request preCommands = some maliIoctlSync → SyncEnds maliSyncToDevice s.mem ptr) := by
  cases chosen : selected w request preCommands with
  | none =>
    rw [ioctlDecodePre_unselected env fuel ptr chosen]
    exact ⟨fun _ => (printsIff_of_silent silent_pure).1 trivial, fun _ none => nomatch none⟩
  | some command =>
    by_cases sync : command = maliIoctlSync
    · subst sync
      have runs : ioctlDecodePre env fuel request ptr = ioctlDecodePreSync env ptr :=
        ioctlDecodePre_entry env fuel ptr chosen (by simp [preDecoders])
      rw [runs]
      have prints : PrintsIff (ioctlDecodePreSync env ptr) s (SyncEnds maliSyncToDevice s.mem ptr) :=
        printsIff_ioctlDecodePreSync env nonnull
      exact ⟨fun ends => prints.1 (ends rfl), fun returned _ => prints.2 returned⟩
    · obtain ⟨decoder, member, runs⟩ := ioctlDecodePre_selected env fuel ptr chosen
      have silent : Silent decoder := preDecoders_silent nonnull env fuel _ member sync fun submit =>
        other (chosen.trans (congrArg some submit))
      rw [runs]
      exact ⟨fun _ => (printsIff_of_silent silent).1 trivial, fun _ same => absurd (Option.some.inj same) sync⟩

theorem leaves_ioctlDecodePre (env : Env w) (nonnull : ptr ≠ 0#w) {s t : Proc w} :
    Leaves (fun fuel => ioctlDecodePre env fuel request ptr) s () t ↔ PreLeaves env request ptr s t := by
  unfold PreLeaves
  by_cases submit : selected w request preCommands = some maliIoctlJobSubmit
  · have runs (fuel : Nat) : ioctlDecodePre env fuel request ptr = ioctlDecodePreJobSubmit env fuel ptr :=
      ioctlDecodePre_entry env fuel ptr submit (by simp [preDecoders])
    simp only [runs, if_pos submit]
    exact leaves_ioctlDecodePreJobSubmit env
  · rw [if_neg submit]
    exact leaves_of_printsIff fun fuel => printsIff_ioctlDecodePre env nonnull fuel submit

section Post

variable {cfg : Config} {σ : Sys w}

/-- The decoding behind libc's call changes the allocations only, and ends if and only if `c` holds. -/
def TracksIff (p : Wrap w Unit) (σ : Sys w) (c : Prop) : Prop :=
  (c → ∃ out tracker, Runs p σ out () { σ with tracker := tracker }) ∧ (Returns p σ → c)

theorem tracksIff_decode {p : Decode w Unit} {c : Prop} (prints : PrintsIff p σ.proc c) :
    TracksIff (decode cfg fun _ => p) σ c := by
  constructor
  · intro holds
    obtain ⟨out, runs⟩ := prints.1 holds
    exact ⟨_, σ.tracker, runs_decode runs⟩
  · intro returned
    obtain ⟨_, _, _, runs⟩ := returned
    obtain ⟨out, proc, inner, -, -⟩ := runs_embed.mp runs
    exact prints.2 ⟨out, (), proc, inner⟩

theorem runs_load {α : Type} {g : Memory w → α} (nonnull : ptr ≠ 0#w) :
    Runs (decode cfg fun _ => deref ptr g) σ [] (g σ.proc.mem) σ := by
  have inner : Runs (deref ptr g) σ.proc [] (g σ.proc.mem) σ.proc := runs_deref nonnull g
  exact runs_decode (p := fun _ => deref ptr g) inner

theorem runs_say {format : String} {args : List Arg} : Runs (say format args) σ [.out (.log format args)] () σ :=
  runs_put.mpr ⟨rfl, rfl⟩

theorem runs_onTracker {f : Tracker w → Tracker w} :
    Runs (onTracker f) σ [] () { σ with tracker := f σ.tracker } := runs_modify.mpr ⟨rfl, rfl⟩

theorem tracksIff_ioctlDecodePostMemAlloc (nonnull : ptr ≠ 0#w) : TracksIff (ioctlDecodePostMemAlloc cfg ptr) σ True := by
  have ended {σ' : Sys w} : Runs (put [.out (.logCont "\n" [])] : Wrap w Unit) σ' [.out (.logCont "\n" [])] () σ' :=
    runs_put.mpr ⟨rfl, rfl⟩
  unfold TracksIff ioctlDecodePostMemAlloc
  exact ⟨fun _ => ⟨_, _, (runs_load nonnull).bind (runs_say.bind (runs_say.bind (runs_say.bind (runs_onTracker.bind ended))))⟩,
    fun _ => trivial⟩

theorem tracksIff_ioctlDecodePostMemCommit (nonnull : ptr ≠ 0#w) : TracksIff (ioctlDecodePostMemCommit cfg ptr) σ True := by
  unfold TracksIff ioctlDecodePostMemCommit
  exact ⟨fun _ => ⟨_, _, (runs_load nonnull).bind (runs_say.bind runs_onTracker)⟩, fun _ => trivial⟩

theorem postDecoders_track (nonnull : ptr ≠ 0#w) :
    ∀ entry ∈ postDecoders cfg ptr, entry.1 ≠ maliIoctlSync → TracksIff entry.2 σ True := by
  have reports {p : Decode w Unit} (silent : Silent p) : TracksIff (decode cfg fun _ => p) σ True :=
    tracksIff_decode (printsIff_of_silent silent)
  have log (format : String) (args : List Arg) : Silent (panwrapLog format args : Decode w Unit) := silent_log format args
  simp only [postDecoders, List.forall_mem_cons, List.not_mem_nil, IsEmpty.forall_iff, implies_true, and_true]
  refine ⟨?_, ?_, ?_, ?_, ?_, ?_, ?_, ?_, ?_, ?_, ?_⟩ <;> intro sync
  · exact tracksIff_ioctlDecodePostMemAlloc nonnull
  · exact tracksIff_ioctlDecodePostMemCommit nonnull
  · exact reports (silent_ioctlDecodePostGetVersion nonnull)
  · exact reports (silent_ioctlDecodePostGetVersion nonnull)
  · exact reports (silent_ioctlDecodePostMemImport nonnull)
  · exact reports (silent_deref_bind nonnull fun _ => log _ _)
  · exact reports (silent_deref_bind nonnull fun _ => (log _ _).bind (log _ _))
  · exact absurd rfl sync
  · exact reports (silent_ioctlDecodePostGpuPropsRegDump nonnull)
  · exact reports (silent_deref_bind nonnull fun _ => log _ _)
  · exact reports (silent_deref_bind nonnull fun _ => log _ _)

/-- The decoding behind libc's call ends. -/
def PostEnds (request ptr : BitVec w) (m : Memory w) : Prop :=
  selected w request postCommands = some maliIoctlSync → SyncEnds maliSyncToCpu m ptr

instance (request ptr : BitVec w) (m : Memory w) : Decidable (PostEnds request ptr m) :=
  inferInstanceAs (Decidable (_ → _))

theorem tracksIff_ioctlDecodePost (nonnull : ptr ≠ 0#w) :
    TracksIff (ioctlDecodePost cfg ptr request) σ (PostEnds request ptr σ.proc.mem) := by
  unfold PostEnds
  cases chosen : selected w request postCommands with
  | none =>
    rw [ioctlDecodePost_unselected cfg ptr chosen]
    have tracks : TracksIff (decode cfg fun _ => pure ()) σ True := tracksIff_decode (printsIff_of_silent silent_pure)
    exact ⟨fun _ => tracks.1 trivial, fun _ none => nomatch none⟩
  | some command =>
    by_cases sync : command = maliIoctlSync
    · subst sync
      have runs : ioctlDecodePost cfg ptr request = decode cfg fun _ => ioctlDecodePostSync ptr :=
        ioctlDecodePost_entry cfg ptr chosen (by simp [postDecoders])
      rw [runs]
      have tracks : TracksIff (decode cfg fun _ => ioctlDecodePostSync ptr) σ (SyncEnds maliSyncToCpu σ.proc.mem ptr) :=
        tracksIff_decode (printsIff_ioctlDecodePostSync nonnull)
      exact ⟨fun ends => tracks.1 (ends rfl), fun returned _ => tracks.2 returned⟩
    · obtain ⟨decoder, member, runs⟩ := ioctlDecodePost_selected cfg ptr chosen
      have tracks := postDecoders_track nonnull (σ := σ) _ member sync
      rw [runs]
      exact ⟨fun _ => tracks.1 trivial, fun _ same => absurd (Option.some.inj same) sync⟩

end Post

end Dispatch

section Wrapper

variable {build : Build} (cfg : Config)

/-- When a wrapper comes back: a decoded `JOB_SUBMIT` has to come to the end of its atoms, and what a
    decoded `SYNC` dumps before and behind libc's call has to be smaller than 2^32 bytes. -/
def Call.Ends (libc : Libc build.bits) (σ : Sys build.bits) : Call build → Prop
  | .ioctl fd request arg => IoctlTraced σ.tracker.maliFd fd → ioctlPtr request arg ≠ 0#(build.bits) →
      ∃ proc, PreLeaves (cfg.env σ.tracker.mmaps) request (ioctlPtr request arg) σ.proc proc ∧
        PostEnds request (ioctlPtr request arg) (libc (.ioctl fd request (ioctlPtr request arg)) proc.mem).mem
  | _ => True

theorem decodable_iff (libc : Libc build.bits) (call : Call build) (σ : Sys build.bits) :
    call.Decodable cfg libc σ ↔ call.Ends cfg libc σ := by
  cases call with
  | ioctl fd request arg =>
    simp only [Call.Decodable, Call.Ends]
    apply imp_congr_right
    intro traced
    apply imp_congr_right
    intro nonnull
    have post (proc : Proc build.bits) (m : Memory build.bits) :
        TracksIff (ioctlDecodePost cfg (ioctlPtr request arg) request) { σ with proc := { proc with mem := m } }
          (PostEnds request (ioctlPtr request arg) m) := tracksIff_ioctlDecodePost nonnull
    constructor
    · intro ends
      obtain ⟨fuel, out, proc, pre, returned⟩ := ends
      exact ⟨proc, (leaves_ioctlDecodePre _ nonnull).mp ⟨out, fuel, pre⟩, (post proc _).2 returned⟩
    · intro ends
      obtain ⟨proc, pre, ending⟩ := ends
      obtain ⟨out, fuel, left⟩ := (leaves_ioctlDecodePre _ nonnull).mpr pre
      obtain ⟨out', tracker, runs⟩ := (post proc _).1 ending
      exact ⟨fuel, out, proc, left, out', (), _, runs⟩
  | _ => simp only [Call.Decodable, Call.Ends]

/-- A call that is decoded without following a chain of jobs or dumping memory. -/
def Call.Plain : Call build → Prop
  | .ioctl _ request _ => selected build.bits request preCommands ≠ some maliIoctlJobSubmit ∧
      selected build.bits request preCommands ≠ some maliIoctlSync ∧
      selected build.bits request postCommands ≠ some maliIoctlSync
  | _ => True

theorem Call.Plain.ends {call : Call build} (plain : call.Plain) (libc : Libc build.bits) (σ : Sys build.bits) :
    call.Ends cfg libc σ := by
  cases call with
  | ioctl fd request arg =>
    obtain ⟨submit, sync, sync'⟩ := plain
    intro _ _
    refine ⟨σ.proc, ?_, fun synced => absurd synced sync'⟩
    rw [PreLeaves, if_neg submit]
    exact ⟨fun synced => absurd synced sync, rfl⟩
  | _ => trivial

theorem run_of_plain {labels : List (Label build)} (plain : ∀ label ∈ labels, label.call.Plain) (σ : Sys build.bits) :
    ∃ σ', Run (Step cfg) σ labels σ' := by
  induction labels generalizing σ with
  | nil => exact ⟨σ, .nil σ⟩
  | cons label rest ih =>
    obtain ⟨now, later⟩ := List.forall_mem_cons.mp plain
    obtain ⟨t, step⟩ := step_of_decodable cfg label σ ((decodable_iff cfg _ label.call σ).mpr (now.ends cfg _ σ))
    obtain ⟨σ', run⟩ := ih later t
    exact ⟨σ', .cons step run⟩

end Wrapper

end Panwrap
