import Pantry.Panwrap.Step

namespace Panwrap

open Machine Decoder Program

section Rules

variable {w : Nat} {α β : Type} {cfg : Config} {libc : Libc w} {σ : Sys w} {k : Unit → Wrap w β}

@[simp] theorem returns_orig_bind {made : LibcCall w} {f : Reply w → Wrap w β} :
    Returns (orig libc made >>= f) σ ↔ Returns (f (libc made σ.proc.mem))
      { σ with proc := { σ.proc with mem := (libc made σ.proc.mem).mem } } := by
  apply returns_after
  rfl

@[simp] theorem returns_say_bind {format : String} {args : List Arg} :
    Returns (say format args >>= k) σ ↔ Returns (k ()) σ := returns_put_bind

@[simp] theorem returns_freeze_bind : Returns (panwrapFreezeTime >>= k) σ ↔ Returns (k ()) σ := returns_put_bind

@[simp] theorem returns_unfreeze_bind : Returns (panwrapUnfreezeTime >>= k) σ ↔ Returns (k ()) σ := returns_put_bind

@[simp] theorem returns_onTracker_bind {g : Tracker w → Tracker w} :
    Returns (onTracker g >>= k) σ ↔ Returns (k ()) { σ with tracker := g σ.tracker } := returns_modify_bind

theorem runs_decode {p : Env w → Decode w α} {out : List Out} {a : α} {proc : Proc w}
    (runs : Runs (p (cfg.env σ.tracker.mmaps)) σ.proc out a proc) :
    Runs (decode cfg p) σ (out.map .out) a { σ with proc := proc } :=
  runs_embed.mpr ⟨out, proc, runs, rfl, rfl⟩

theorem returns_decode_bind {p : Env w → Decode w α} {f : α → Wrap w β} :
    Returns (decode cfg p >>= f) σ ↔ ∃ out a proc, Runs (p (cfg.env σ.tracker.mmaps)) σ.proc out a proc ∧
      Returns (f a) { σ with proc := proc } := by
  rw [returns_bind]
  constructor
  · rintro ⟨_, a, _, runs, rest⟩
    obtain ⟨out, proc, inner, rfl, rfl⟩ := runs_embed.mp runs
    exact ⟨out, a, proc, inner, rest⟩
  · rintro ⟨out, a, proc, inner, rest⟩
    exact ⟨_, a, _, runs_decode inner, rest⟩

theorem returns_deref_bind {ptr : BitVec w} (nonnull : ptr ≠ 0#w) {g : Memory w → α} {f : α → Wrap w β} :
    Returns (decode cfg (fun _ => deref ptr g) >>= f) σ ↔ Returns (f (g σ.proc.mem)) σ := by
  obtain ⟨out, runs, -⟩ := traces_deref (s := σ.proc) nonnull g
  exact returns_after (runs_decode runs)

end Rules

section Totality

variable {w : Nat} (cfg : Config) (libc : Libc w)

theorem total_orig (made : LibcCall w) : Total (orig libc made) := fun _ => ⟨_, _, _, rfl⟩

theorem total_say (format : String) (args : List Arg) : Total (say format args : Wrap w Unit) := total_put

theorem total_report {p : Env w → Decode w Unit} (silent : ∀ env, Silent (p env)) : Total (decode cfg p) := by
  intro σ
  obtain ⟨out, runs, -⟩ := silent (cfg.env σ.tracker.mmaps) σ.proc
  exact ⟨_, _, _, runs_decode runs⟩

theorem total_panwrapOpenWrap (origOpen : String → BitVec 32 → Option (BitVec 32) → LibcCall w) (path : String)
    (flags mode : BitVec 32) : Total (panwrapOpenWrap libc origOpen path flags mode) := by
  refine (total_orig libc _).bind fun reply => Total.bind (Total.whenever ?_) fun _ => total_pure
  split
  · exact (total_say _ _).bind fun _ => total_modify
  · exact (total_say _ _).whenever

theorem total_close (fd : Int) : Total (close libc fd) :=
  total_get.bind fun _ => (((total_say _ _).bind fun _ => total_modify).whenever).bind fun _ =>
    (total_orig libc _).bind fun _ => total_pure

theorem total_panwrapMmapWrap
    (func : BitVec w → BitVec w → BitVec 32 → BitVec 32 → Int → BitVec 64 → LibcCall w)
    (addr length : BitVec w) (prot flags : BitVec 32) (fd : Int) (offset : BitVec 64) :
    Total (panwrapMmapWrap cfg libc func addr length prot flags fd offset) := by
  have flagged : ∀ table value, Total (decode cfg fun _ => (logDecodedFlags table value : Decode w Unit)) :=
    fun table value => total_report cfg fun _ => silent_logDecodedFlags table value
  have told : ∀ format, Total (decode cfg fun _ => (logCont format [] : Decode w Unit)) :=
    fun format => total_report cfg fun _ => silent_logCont format []
  refine total_get.bind fun σ => ?_
  split
  · exact (total_orig libc _).bind fun _ => total_pure
  · refine (total_orig libc _).bind fun reply => total_put.bind fun _ => ?_
    split
    · exact total_modify.bind fun _ => (total_say _ _).bind fun _ => total_modify.bind fun _ =>
        total_put.bind fun _ => total_pure
    · exact (total_say _ _).bind fun _ => (flagged _ _).bind fun _ => (told _).bind fun _ =>
        (flagged _ _).bind fun _ => (told _).bind fun _ => total_modify.bind fun _ =>
        total_put.bind fun _ => total_pure

theorem total_munmap (addr length : BitVec w) : Total (munmap libc addr length) := by
  refine (total_orig libc _).bind fun reply => total_put.bind fun _ => total_get.bind fun σ => ?_
  split
  · exact total_put.bind fun _ => total_pure
  · split
    · exact (total_say _ _).bind fun _ => total_modify.bind fun _ => total_put.bind fun _ => total_pure
    · exact (total_say _ _).bind fun _ => total_modify.bind fun _ => total_put.bind fun _ => total_pure

end Totality

/-- The decoding that an `ioctl` with the argument `ptr` gets finishes: that of what the caller
    passes, and that of what libc leaves there. -/
def DecodingEnds {w : Nat} (cfg : Config) (libc : Libc w) (σ : Sys w) (fd : Int) (request ptr : BitVec w) : Prop :=
  ∃ fuel out proc, Runs (ioctlDecodePre (cfg.env σ.tracker.mmaps) fuel request ptr) σ.proc out () proc ∧
    Returns (ioctlDecodePost cfg ptr request)
      { σ with proc := { proc with mem := (libc (.ioctl fd request ptr) proc.mem).mem } }

section Returning

variable {w : Nat} (cfg : Config) (libc : Libc w) {σ : Sys w} {fd : Int}

theorem ioctl_passes_returns (fuel : Nat) (request arg : BitVec w) (passed : ¬ IoctlTraced σ.tracker.maliFd fd) :
    Returns (ioctl cfg libc fuel fd request arg) σ := by
  simp only [ioctl, returns_get_bind]
  rw [if_pos passed]
  simp only [returns_orig_bind, returns_pure]

theorem ioctl_null_returns (fuel : Nat) {request arg : BitVec w} (null : ioctlPtr request arg = 0#w) :
    Returns (ioctl cfg libc fuel fd request arg) σ := by
  by_cases traced : IoctlTraced σ.tracker.maliFd fd
  · simp only [ioctl, returns_get_bind]
    rw [if_neg (not_not.mpr traced)]
    simp only [returns_freeze_bind]
    rw [if_pos null]
    simp only [returns_say_bind, returns_unfreeze_bind, returns_orig_bind, returns_freeze_bind, returns_pure]
  · exact ioctl_passes_returns cfg libc fuel request arg traced

theorem ioctl_decoded_returns (fuel : Nat) {request arg : BitVec w} (traced : IoctlTraced σ.tracker.maliFd fd)
    (nonnull : ioctlPtr request arg ≠ 0#w) :
    Returns (ioctl cfg libc fuel fd request arg) σ ↔
      ∃ out proc, Runs (ioctlDecodePre (cfg.env σ.tracker.mmaps) fuel request (ioctlPtr request arg)) σ.proc out ()
          proc ∧
        Returns (ioctlDecodePost cfg (ioctlPtr request arg) request)
          { σ with proc := { proc with mem := (libc (.ioctl fd request (ioctlPtr request arg)) proc.mem).mem } } := by
  simp only [ioctl, returns_get_bind]
  rw [if_neg (not_not.mpr traced)]
  simp only [returns_freeze_bind]
  rw [if_neg nonnull]
  simp only [returns_deref_bind nonnull, returns_say_bind]
  rw [returns_decode_bind]
  constructor
  · rintro ⟨out, _, proc, pre, rest⟩
    simp only [returns_unfreeze_bind, returns_orig_bind, returns_freeze_bind, returns_deref_bind nonnull,
      returns_say_bind] at rest
    obtain ⟨out', _, σ', post, -⟩ := returns_bind.mp rest
    exact ⟨out, proc, pre, out', (), σ', post⟩
  · rintro ⟨out, proc, pre, out', _, σ', post⟩
    refine ⟨out, (), proc, pre, ?_⟩
    simp only [returns_unfreeze_bind, returns_orig_bind, returns_freeze_bind, returns_deref_bind nonnull,
      returns_say_bind]
    refine returns_bind.mpr ⟨out', (), σ', post, ?_⟩
    simp only [returns_unfreeze_bind, returns_pure]

theorem ioctl_returns_iff (request arg : BitVec w) :
    (∃ fuel, Returns (ioctl cfg libc fuel fd request arg) σ) ↔
      (IoctlTraced σ.tracker.maliFd fd → ioctlPtr request arg ≠ 0#w →
        DecodingEnds cfg libc σ fd request (ioctlPtr request arg)) := by
  constructor
  · rintro ⟨fuel, returned⟩ traced nonnull
    obtain ⟨out, proc, pre, post⟩ := (ioctl_decoded_returns cfg libc fuel traced nonnull).mp returned
    exact ⟨fuel, out, proc, pre, post⟩
  · intro ends
    by_cases traced : IoctlTraced σ.tracker.maliFd fd
    · by_cases null : ioctlPtr request arg = 0#w
      · exact ⟨0, ioctl_null_returns cfg libc 0 null⟩
      · obtain ⟨fuel, out, proc, pre, post⟩ := ends traced null
        exact ⟨fuel, (ioctl_decoded_returns cfg libc fuel traced null).mpr ⟨out, proc, pre, post⟩⟩
    · exact ⟨0, ioctl_passes_returns cfg libc 0 request arg traced⟩

end Returning

section Transparent

variable {build : Build} (cfg : Config)

def UsesMode (flags : BitVec 32) : Prop := flags &&& oCreat ≠ 0#32 ∨ flags &&& cfg.oTmpfile = cfg.oTmpfile

instance (flags : BitVec 32) : Decidable (UsesMode cfg flags) := inferInstanceAs (Decidable (_ ∨ _))

/-- The call as the program made it; an `off_t` is widened with its sign. -/
def Call.own : Call build → LibcCall build.bits
  | .openAt path flags mode => .openAt path flags (if UsesMode cfg flags then some mode else none)
  | .open64 path flags mode => .open64 path flags (if UsesMode cfg flags then some mode else none)
  | .ioctl fd request arg => .ioctl fd request arg
  | .close fd => .close fd
  | .mmap addr length prot flags fd offset => .mmap addr length prot flags fd (offset.signExtend 64)
  | .mmap64 addr length prot flags fd offset => .mmap64 addr length prot flags fd offset
  | .munmap addr length => .munmap addr length

/-- An `open` with `O_TMPFILE` also has `O_CREAT`, an `ioctl` whose request encodes no size has no
    argument, and `mmap` is not taken for `mmap64`. -/
def Call.Faithful : Call build → Prop
  | .openAt _ flags _ => flags &&& cfg.oTmpfile = cfg.oTmpfile → flags &&& oCreat ≠ 0#32
  | .open64 _ flags _ => flags &&& cfg.oTmpfile = cfg.oTmpfile → flags &&& oCreat ≠ 0#32
  | .ioctl _ request arg => iocSize request = 0#14 → arg = 0#(build.bits)
  | .mmap .. => build = .lp64
  | _ => True

def Call.Decodable (libc : Libc build.bits) (σ : Sys build.bits) : Call build → Prop
  | .ioctl fd request arg => IoctlTraced σ.tracker.maliFd fd → ioctlPtr request arg ≠ 0#(build.bits) →
      DecodingEnds cfg libc σ fd request (ioctlPtr request arg)
  | _ => True

/-- The wrapper comes back having called libc once, with the caller's own call, and returns its answer. -/
def PassedOn (libc : Libc build.bits) (call : Call build) (σ : Sys build.bits) : Prop :=
  ∃ fuel out v σ' reply, Runs (wrapper cfg libc fuel call) σ out v σ' ∧
    calls out = [(call.own cfg, reply)] ∧ v = call.value reply

theorem mode_eq_iff (flags mode : BitVec 32) :
    (if flags &&& oCreat ≠ 0#32 then some mode else none) = (if UsesMode cfg flags then some mode else none) ↔
      (flags &&& cfg.oTmpfile = cfg.oTmpfile → flags &&& oCreat ≠ 0#32) := by
  by_cases creates : flags &&& oCreat ≠ 0#32
  · rw [if_pos creates, if_pos (show UsesMode cfg flags from .inl creates)]
    exact ⟨fun _ _ => creates, fun _ => rfl⟩
  · by_cases temporary : flags &&& cfg.oTmpfile = cfg.oTmpfile
    · rw [if_neg creates, if_pos (show UsesMode cfg flags from .inr temporary)]
      exact ⟨fun same => (Option.some_ne_none mode same.symm).elim, fun imp => absurd (imp temporary) creates⟩
    · rw [if_neg creates, if_neg (show ¬ UsesMode cfg flags from fun uses => uses.elim creates temporary)]
      exact ⟨fun _ one => absurd one temporary, fun _ => rfl⟩

theorem ioctlPtr_eq_iff {w : Nat} (request arg : BitVec w) :
    ioctlPtr request arg = arg ↔ (iocSize request = 0#14 → arg = 0#w) := by
  by_cases sized : iocSize request ≠ 0#14
  · rw [ioctlPtr, if_pos sized]
    exact ⟨fun _ none => absurd none sized, fun _ => rfl⟩
  · rw [ioctlPtr, if_neg sized]
    exact ⟨fun same _ => same.symm, fun null => (null (not_not.mp sized)).symm⟩

theorem mmapFunction_eq_iff (addr length : BitVec build.bits) (prot flags : BitVec 32) (fd : Int) (offset : BitVec 64) :
    mmapFunction build addr length prot flags fd offset = .mmap addr length prot flags fd offset ↔ build = .lp64 := by
  cases build with
  | ilp32 => simp [mmapFunction]
  | lp64 => simp [mmapFunction]

theorem made_eq_own_iff (call : Call build) : call.made = call.own cfg ↔ call.Faithful cfg := by
  cases call with
  | openAt path flags mode =>
    simp only [Call.made, Call.own, LibcCall.openAt.injEq, true_and]
    exact mode_eq_iff cfg flags mode
  | open64 path flags mode =>
    simp only [Call.made, Call.own, LibcCall.open64.injEq, true_and]
    exact mode_eq_iff cfg flags mode
  | ioctl fd request arg =>
    simp only [Call.made, Call.own, LibcCall.ioctl.injEq, true_and]
    exact ioctlPtr_eq_iff request arg
  | mmap addr length prot flags fd offset => exact mmapFunction_eq_iff addr length prot flags fd (offset.signExtend 64)
  | _ => simp only [Call.made, Call.own, Call.Faithful]

theorem wrapper_returns_iff (libc : Libc build.bits) (call : Call build) (σ : Sys build.bits) :
    (∃ fuel, Returns (wrapper cfg libc fuel call) σ) ↔ call.Decodable cfg libc σ := by
  have always {p : Wrap build.bits (Value build.bits)} (total : Total p) : (∃ _ : Nat, Returns p σ) ↔ True :=
    ⟨fun _ => trivial, fun _ => ⟨0, total σ⟩⟩
  cases call with
  | openAt path flags mode => exact always ((total_panwrapOpenWrap libc .openAt path flags mode).bind fun _ => total_pure)
  | open64 path flags mode => exact always ((total_panwrapOpenWrap libc .open64 path flags mode).bind fun _ => total_pure)
  | close fd => exact always ((total_close libc fd).bind fun _ => total_pure)
  | mmap addr length prot flags fd offset =>
    exact always ((total_panwrapMmapWrap cfg libc _ addr length prot flags fd _).bind fun _ => total_pure)
  | mmap64 addr length prot flags fd offset =>
    exact always ((total_panwrapMmapWrap cfg libc _ addr length prot flags fd _).bind fun _ => total_pure)
  | munmap addr length => exact always ((total_munmap libc addr length).bind fun _ => total_pure)
  | ioctl fd request arg =>
    rw [Call.Decodable, ← ioctl_returns_iff]
    apply exists_congr
    intro fuel
    simp only [wrapper, returns_bind]
    constructor
    · rintro ⟨out, ret, σ', runs, -⟩
      exact ⟨out, ret, σ', runs⟩
    · rintro ⟨out, ret, σ', runs⟩
      exact ⟨out, ret, σ', runs, returns_pure⟩

theorem step_of_decodable (label : Label build) (σ : Sys build.bits)
    (decodable : label.call.Decodable cfg (fun _ _ => label.reply) σ) : ∃ σ', Step cfg σ label σ' := by
  obtain ⟨fuel, out, v, σ', runs⟩ := (wrapper_returns_iff cfg _ label.call σ).mpr decodable
  exact ⟨σ', fuel, out, v, runs⟩

theorem passed_on_of_made {libc : Libc build.bits} {call : Call build} {σ : Sys build.bits} :
    PassedOn cfg libc call σ ↔ call.made = call.own cfg ∧ call.Decodable cfg libc σ := by
  constructor
  · rintro ⟨fuel, out, v, σ', reply, runs, called, -⟩
    obtain ⟨mem, made, -, -⟩ := after_wrapper cfg libc fuel call σ out v σ' runs
    have same : [(call.made, libc call.made mem)] = [(call.own cfg, reply)] := made.symm.trans called
    exact ⟨congrArg Prod.fst (List.head_eq_of_cons_eq same),
      (wrapper_returns_iff cfg libc call σ).mp ⟨fuel, out, v, σ', runs⟩⟩
  · rintro ⟨same, decodable⟩
    obtain ⟨fuel, out, v, σ', runs⟩ := (wrapper_returns_iff cfg libc call σ).mpr decodable
    obtain ⟨mem, made, value, -⟩ := after_wrapper cfg libc fuel call σ out v σ' runs
    refine ⟨fuel, out, v, σ', libc call.made mem, runs, ?_, value⟩
    rw [made, same]

/-- A call whose decoding finishes is passed on as the caller made it, except for the mode of an
    `O_TMPFILE`, the argument of an `ioctl` whose request encodes no size, and `mmap` without `__LP64__`. -/
theorem passed_on_iff (libc : Libc build.bits) (call : Call build) (σ : Sys build.bits) :
    PassedOn cfg libc call σ ↔ call.Faithful cfg ∧ call.Decodable cfg libc σ := by
  rw [passed_on_of_made, made_eq_own_iff]

end Transparent

def x86 : Config := ⟨true, fun _ word => word, fun _ _ => none, 0x410000#32⟩

def untouched (w : Nat) : Sys w := ⟨⟨0, [], []⟩, ⟨fun _ => 0#8, 0⟩⟩

/-- An unnamed temporary file loses its mode, flushing a terminal loses the queue to flush, and a `mmap` with
    a 32-bit `off_t` comes to `mmap64`. -/
theorem arguments_dropped :
    let libc : Libc Build.lp64.bits := fun _ mem => ⟨3, 0, mem⟩
    let libc' : Libc Build.ilp32.bits := fun _ mem => ⟨0, 0x7F0000#32, mem⟩
    let temporary : Call .lp64 := .openAt "/tmp" 0x410002#32 0x180#32
    let flush : Call .lp64 := .ioctl 5 0x540b#64 2#64
    let map : Call .ilp32 := .mmap 0#32 0x1000#32 1#32 2#32 5 0x80000000#32
    (temporary.Decodable x86 libc (untouched 64) ∧ ¬ PassedOn x86 libc temporary (untouched 64)) ∧
      (flush.Decodable x86 libc (untouched 64) ∧ ¬ PassedOn x86 libc flush (untouched 64)) ∧
      map.Decodable x86 libc' (untouched 32) ∧ ¬ PassedOn x86 libc' map (untouched 32) := by
  refine ⟨⟨trivial, ?_⟩, ⟨?_, ?_⟩, trivial, ?_⟩
  · rw [passed_on_of_made]
    exact fun both => absurd both.1 (by decide)
  · exact fun traced => absurd traced (by decide)
  · rw [passed_on_of_made]
    exact fun both => absurd both.1 (by decide)
  · rw [passed_on_of_made]
    exact fun both => absurd both.1 (by decide)

end Panwrap
