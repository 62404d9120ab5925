import Pantry.Decoder.Vertices
import Pantry.Panwrap.Dispatch
import Pantry.Panwrap.Submission

namespace Panwrap

open Machine Decoder Program Relation

variable {w n : Nat} {α β : Type} {R : Set (BitVec w)} {other : Memory w} {ptr : BitVec w} {s t : Proc w}

section Reads

theorem read_block (bound : 8 ≤ 2 ^ w) {m : Memory w} {width off : Nat} (block : region ptr n ⊆ R)
    (part : off + width / 8 ≤ n) (small : width / 8 ≤ 8) :
    (Memory.overlay R other m).read width ptr off = m.read width ptr off :=
  Memory.read_overlay (small.trans bound) ((region_subset ptr part).trans block)

theorem deref_bind (nonnull : ptr ≠ 0#w) {g : Memory w → α} {f : α → Decode w β} :
    (deref ptr g >>= f) s = f (g s.mem) s := bind_run (runs_deref nonnull g)

theorem commutes_load {g : Memory w → α} {f : α → Decode w β} (same : g (Memory.overlay R other s.mem) = g s.mem)
    (rest : Commutes (Proc.within R other) (f (g s.mem)) s) : Commutes (Proc.within R other) (deref ptr g >>= f) s := by
  apply (commutes_deref same).bind
  intro out a t runs
  unfold Runs deref at runs
  split at runs
  · cases runs
  · cases runs
    exact rest

theorem commutes_print {g : Memory w → α} {items : α → List Out} (same : g (Memory.overlay R other s.mem) = g s.mem) :
    Commutes (Proc.within R other) (deref ptr g >>= fun args => put (items args)) s := commutes_load same commutes_put

theorem commutes_log_bind {format : String} {args : List Arg} {rest : Decode w β} (later : Commutes (Proc.within R other) rest s) :
    Commutes (Proc.within R other) (panwrapLog format args >>= fun _ => rest) s := by
  apply commutes_log.bind
  intro out _ t runs
  obtain ⟨-, rfl⟩ := runs_put.mp runs
  exact later

theorem commutes_hexdump {p size : BitVec w} (inside : region p size.toNat ⊆ R) (indent : String) :
    Commutes (Proc.within R other) (hexdump p size indent) s := by
  have same : (Memory.overlay R other s.mem).bytes p size.toNat = s.mem.bytes p size.toNat :=
    Memory.bytes_congr size.isLt.le fun _ member => Memory.overlay_inside (inside member)
  unfold Commutes hexdump Proc.within
  split
  · rfl
  · split
    · dsimp only
      rw [same]
      rfl
    · rfl

theorem commutes_forEach {body : α → Decode w Unit} (each : ∀ a t, Commutes (Proc.within R other) (body a) t)
    (items : List α) : Commutes (Proc.within R other) (forEach body items) s := by
  induction items generalizing s with
  | nil => exact commutes_pure
  | cons a rest ih => exact (each a s).bind fun _ _ _ _ => ih

theorem forEach_congr {body body' : α → Decode w Unit} {items : List α} (same : ∀ a ∈ items, body a = body' a) :
    forEach body items = forEach body' items := by
  induction items with
  | nil => rfl
  | cons a rest ih =>
    unfold forEach
    rw [same a (List.mem_cons_self ..), ih fun b member => same b (List.mem_cons_of_mem a member)]

end Reads

section Pre

variable (env : Env w) (fuel : Nat)

theorem put_append {items rest : List Out} : (put items >>= fun _ => put rest : Decode w Unit) = put (items ++ rest) := rfl

/-- No decoder that follows no pointer, and no name, reads behind its command's structure. -/
theorem preDecoders_confined (bound : 8 ≤ 2 ^ w) :
    ∀ entry ∈ preDecoders env fuel ptr, entry.1 ≠ maliIoctlSync → entry.1 ≠ maliIoctlStreamCreate →
      entry.1 ≠ maliIoctlJobSubmit → region ptr (iocSize entry.1).toNat ⊆ R → Confined R entry.2 s := by
  unfold preDecoders ioctlDecodePreMemAlloc ioctlDecodePreMemImport ioctlDecodePreMemCommit ioctlDecodePreMemQuery
    ioctlDecodePreMemFree ioctlDecodePreMemFlagsChange ioctlDecodePreMemAlias ioctlDecodePreSetFlags panwrapLog
    logDecodedFlags logCont
  simp only [put_append, List.forall_mem_cons]
  refine ⟨?_, ?_, ?_, ?_, ?_, ?_, ?_, ?_, ?_, ?_, ?_, ?_⟩
  case refine_8 => exact fun sync _ _ _ => absurd rfl sync
  case refine_10 => exact fun _ create _ _ => absurd rfl create
  case refine_11 => exact fun _ _ submit _ => absurd rfl submit
  case refine_12 => exact fun _ none => absurd none List.not_mem_nil
  all_goals
    intro _ _ _ block other
    apply commutes_print
    simp (disch := decide) only [MaliIoctlMemAlloc.load, MaliIoctlMemImport.load, MaliIoctlMemCommit.load,
      MaliIoctlMemQuery.load, MaliIoctlMemFlagsChange.load, MaliIoctlMemAlias.load, read_block bound block]

def Dumped (R : Set (BitVec w)) (kind : BitVec 8) (m : Memory w) (ptr : BitVec w) : Prop :=
  (MaliIoctlSync.load m ptr).type = kind →
    region (MaliIoctlSync.load m ptr).userAddr ((MaliIoctlSync.load m ptr).size.setWidth w).toNat ⊆ R

theorem load_sync (least : 32 ≤ w) (most : w ≤ 64) {m : Memory w} (block : region ptr (iocSize maliIoctlSync).toNat ⊆ R) :
    MaliIoctlSync.load (Memory.overlay R other m) ptr = MaliIoctlSync.load m ptr := by
  have bound : 8 ≤ 2 ^ w := (by decide : 8 ≤ 2 ^ 32).trans (Nat.pow_le_pow_right (by decide) least)
  have pointer : 16 + w / 8 ≤ (iocSize maliIoctlSync).toNat := by
    have size : (iocSize maliIoctlSync).toNat = 40 := by decide
    omega
  unfold MaliIoctlSync.load
  rw [read_block bound block pointer (by omega)]
  simp (disch := decide) only [read_block bound block]

theorem commutes_dump {kind type : BitVec 8} {a size : BitVec w} {format : String}
    (dumped : type = kind → region a size.toNat ⊆ R) : Commutes (Proc.within R other) (whenever (type = kind) do
      panwrapLog format []
      hexdump a size "\t\t") s := by
  apply Commutes.whenever
  intro same
  exact commutes_log.bind fun _ _ _ _ => commutes_hexdump (dumped same) "\t\t"

theorem confined_preSync (least : 32 ≤ w) (most : w ≤ 64) (block : region ptr (iocSize maliIoctlSync).toNat ⊆ R)
    (dumped : Dumped R maliSyncToDevice s.mem ptr) : Confined R (ioctlDecodePreSync env ptr) s := by
  intro other
  unfold ioctlDecodePreSync
  apply commutes_load (load_sync least most block)
  dsimp only
  cases findMappedMem env.mmaps ((MaliIoctlSync.load s.mem ptr).handle.setWidth w) with
  | none =>
    iterate 5 apply commutes_log_bind
    exact commutes_dump dumped
  | some mem =>
    iterate 4 apply commutes_log_bind
    exact commutes_dump dumped

theorem confined_preStreamCreate (block : region ptr (iocSize maliIoctlStreamCreate).toNat ⊆ R)
    (terminated : s.mem.Terminated (ptr + 8#w) 40) : Confined R (ioctlDecodePreStreamCreate ptr) s := by
  intro other
  apply commutes_print
  apply Memory.string_congr terminated
  intro k small
  apply Memory.overlay_inside
  apply block
  have part : region (ptr + BitVec.ofNat w (8 + k)) 1 ⊆ region ptr (iocSize maliIoctlStreamCreate).toNat := by
    apply region_subset
    have size : (iocSize maliIoctlStreamCreate).toNat = 48 := by decide
    omega
  rw [BitVec.ofNat_add, ← BitVec.add_assoc] at part
  exact part (region_start (by decide))

def traceAtom (atoms : BitVec w) (i : BitVec 32) : Decode w (Option (BitVec 32)) := do
  let atom ← deref atoms fun m => MaliJdAtomV2.load m (atomAt atoms i)
  traceAtomIfMapped env fuel i atom.jc atom.coreReq
  logAtom (atomAt atoms i) atoms i
  pure (some (i + 1#32))

/-- Each atom that tracing the submission comes to is traced within `R`. -/
def AtomsConfined (R : Set (BitVec w)) (ptr : BitVec w) (s : Proc w) : Prop :=
  ∀ fuel now, ReflTransGen (NextAtom env ptr (MaliIoctlJobSubmit.load s.mem ptr).addr) (s, 0#32) now →
    now.2 < (MaliIoctlJobSubmit.load now.1.mem ptr).nrAtoms →
      Confined R (traceAtom env fuel (MaliIoctlJobSubmit.load s.mem ptr).addr now.2) now.1

theorem load_jobSubmit (least : 32 ≤ w) (most : w ≤ 64) {m : Memory w}
    (block : region ptr (iocSize maliIoctlJobSubmit).toNat ⊆ R) :
    MaliIoctlJobSubmit.load (Memory.overlay R other m) ptr = MaliIoctlJobSubmit.load m ptr := by
  have bound : 8 ≤ 2 ^ w := (by decide : 8 ≤ 2 ^ 32).trans (Nat.pow_le_pow_right (by decide) least)
  have pointer : 8 + w / 8 ≤ (iocSize maliIoctlJobSubmit).toNat := by
    have size : (iocSize maliIoctlJobSubmit).toNat = 24 := by decide
    omega
  unfold MaliIoctlJobSubmit.load
  rw [read_block bound block pointer (by omega)]
  simp (disch := decide) only [read_block bound block]

theorem confined_preJobSubmit (least : 32 ≤ w) (most : w ≤ 64)
    (block : region ptr (iocSize maliIoctlJobSubmit).toNat ⊆ R) (atoms : AtomsConfined env R ptr s) :
    Confined R (ioctlDecodePreJobSubmit env fuel ptr) s := by
  intro other
  unfold ioctlDecodePreJobSubmit
  apply commutes_load (load_jobSubmit least most block)
  iterate 3 apply commutes_log_bind
  split
  · exact commutes_log_bind commutes_log
  · apply commutes_log_bind
    -- The rounds of the loop are steps of `NextAtom`, so it comes to the indices only that `atoms` is about.
    let reached : Proc w → BitVec 32 → Prop := fun t i =>
      ReflTransGen (NextAtom env ptr (MaliIoctlJobSubmit.load s.mem ptr).addr) (s, 0#32) (t, i)
    have each : ∀ n t i, reached t i → Commutes (Proc.within R other)
        (traceSubmittedAtom env ptr (MaliIoctlJobSubmit.load s.mem ptr).addr n i) t := by
      intro n t i here
      unfold traceSubmittedAtom
      apply commutes_load (congrArg MaliIoctlJobSubmit.nrAtoms (load_jobSubmit least most block))
      by_cases more : i < (MaliIoctlJobSubmit.load t.mem ptr).nrAtoms
      · rw [if_pos more]
        exact atoms n (t, i) here more other
      · rw [if_neg more]
        exact commutes_pure
    have stays : ∀ n t i out j u, reached t i →
        Runs (traceSubmittedAtom env ptr (MaliIoctlJobSubmit.load s.mem ptr).addr n i) t out (some j) u → reached u j := by
      intro n t i out j u here runs
      apply here.tail
      rw [← hop_traceSubmittedAtom]
      exact ⟨out, n, runs⟩
    exact commutes_loop each stays fuel ReflTransGen.refl

end Pre

section Post

variable {cfg : Config} {σ : Sys w} {format : String} {args : List Arg}

noncomputable def Sys.within (R : Set (BitVec w)) (other : Memory w) (σ : Sys w) : Sys w :=
  { σ with proc := σ.proc.within R other }

theorem commutes_decode {p : Env w → Decode w α}
    (commutes : Commutes (Proc.within R other) (p (cfg.env σ.tracker.mmaps)) σ.proc) :
    Commutes (Sys.within R other) (decode cfg p) σ := by
  unfold Commutes decode embed Sys.within at *
  dsimp only
  rw [commutes]
  cases p (cfg.env σ.tracker.mmaps) σ.proc with
  | mk out ending => cases ending <;> rfl

theorem commutes_of_decode {p : Decode w α} (commutes : Commutes (Sys.within R other) (decode cfg fun _ => p) σ) :
    Commutes (Proc.within R other) p σ.proc := by
  unfold Commutes decode embed Sys.within at *
  dsimp only at commutes
  generalize p (σ.proc.within R other) = result' at commutes ⊢
  generalize p σ.proc = result at commutes ⊢
  obtain ⟨out, ending⟩ := result
  obtain ⟨out', ending'⟩ := result'
  obtain ⟨outs, endings⟩ := Result.mk.inj commutes
  have same : out' = out := List.map_injective_iff.mpr (fun _ _ => Event.out.inj) outs
  subst same
  congr 1
  cases ending <;> cases ending' <;> dsimp only [Result.carry] at endings ⊢ <;> cases endings <;> rfl

theorem commutes_say : Commutes (Sys.within R other) (say format args : Wrap w Unit) σ := commutes_put

theorem commutes_onTracker {f : Tracker w → Tracker w} : Commutes (Sys.within R other) (onTracker f) σ :=
  commutes_modify rfl

theorem commutes_args {g : Memory w → α} (same : g (Memory.overlay R other σ.proc.mem) = g σ.proc.mem) :
    Commutes (Sys.within R other) (decode cfg fun _ => deref ptr g) σ :=
  commutes_decode (p := fun _ => deref ptr g) (commutes_deref same)

theorem commutes_postMemAlloc (bound : 8 ≤ 2 ^ w) (block : region ptr (iocSize maliIoctlMemAlloc).toNat ⊆ R) :
    Commutes (Sys.within R other) (ioctlDecodePostMemAlloc cfg ptr) σ := by
  have same : MaliIoctlMemAlloc.load (Memory.overlay R other σ.proc.mem) ptr = MaliIoctlMemAlloc.load σ.proc.mem ptr := by
    simp (disch := decide) only [MaliIoctlMemAlloc.load, read_block bound block]
  apply (commutes_args same).bind
  intro _ _ _ _
  iterate 3
    apply commutes_say.bind
    intro _ _ _ _
  exact commutes_onTracker.bind fun _ _ _ _ => commutes_put

theorem commutes_postMemCommit (bound : 8 ≤ 2 ^ w) (block : region ptr (iocSize maliIoctlMemCommit).toNat ⊆ R) :
    Commutes (Sys.within R other) (ioctlDecodePostMemCommit cfg ptr) σ := by
  have same : MaliIoctlMemCommit.load (Memory.overlay R other σ.proc.mem) ptr = MaliIoctlMemCommit.load σ.proc.mem ptr := by
    simp (disch := decide) only [MaliIoctlMemCommit.load, read_block bound block]
  apply (commutes_args same).bind
  intro _ _ _ _
  exact commutes_say.bind fun _ _ _ _ => commutes_onTracker

theorem commutes_getVersion (bound : 8 ≤ 2 ^ w) (block : region ptr (iocSize maliIoctlGetVersion).toNat ⊆ R) :
    Commutes (Proc.within R other) (ioctlDecodePostGetVersion ptr) s := by
  apply commutes_load (read_block bound block (by decide) (by decide))
  apply commutes_load (read_block bound block (by decide) (by decide))
  exact commutes_put

theorem postDecoders_confined (bound : 8 ≤ 2 ^ w) :
    ∀ entry ∈ postDecoders cfg ptr, entry.1 ≠ maliIoctlSync → entry.1 ≠ maliIoctlGpuPropsRegDump →
      region ptr (iocSize entry.1).toNat ⊆ R → Commutes (Sys.within R other) entry.2 σ := by
  unfold postDecoders ioctlDecodePostMemImport ioctlDecodePostMemQuery ioctlDecodePostMemAlias
    ioctlDecodePostStreamCreate ioctlDecodePostGetContextId panwrapLog logDecodedFlags logCont
  simp only [put_append, List.forall_mem_cons]
  refine ⟨?_, ?_, ?_, ?_, ?_, ?_, ?_, ?_, ?_, ?_, ?_, ?_⟩
  case refine_1 => exact fun _ _ block => commutes_postMemAlloc bound block
  case refine_2 => exact fun _ _ block => commutes_postMemCommit bound block
  case refine_3 => exact fun _ _ block => commutes_decode (commutes_getVersion bound block)
  case refine_4 => exact fun _ _ block => commutes_decode (commutes_getVersion bound block)
  case refine_8 => exact fun sync _ _ => absurd rfl sync
  case refine_9 => exact fun _ dump _ => absurd rfl dump
  case refine_12 => exact fun _ none => absurd none List.not_mem_nil
  all_goals
    intro _ _ block
    apply commutes_decode
    apply commutes_print
    simp (disch := decide) only [MaliIoctlMemImport.load, MaliIoctlMemQuery.load, MaliIoctlMemAlias.load,
      read_block bound block]

theorem commutes_postSync (least : 32 ≤ w) (most : w ≤ 64) (block : region ptr (iocSize maliIoctlSync).toNat ⊆ R)
    (dumped : Dumped R maliSyncToCpu s.mem ptr) : Commutes (Proc.within R other) (ioctlDecodePostSync ptr) s := by
  apply commutes_load (load_sync least most block)
  exact commutes_dump dumped

def numGroups (m : Memory w) (ptr : BitVec w) : Nat := (m.read 32 ptr 264).toNat

theorem commutes_gpuPropsRegDump (bound : 8 ≤ 2 ^ w) (nonnull : ptr ≠ 0#w)
    (block : region ptr (iocSize maliIoctlGpuPropsRegDump).toNat ⊆ R) (few : numGroups s.mem ptr ≤ 16) :
    Commutes (Proc.within R other) (ioctlDecodePostGpuPropsRegDump ptr) s := by
  have size : (iocSize maliIoctlGpuPropsRegDump).toNat = 536 := by decide
  have words (start count : Nat) (fits : start + 4 * count ≤ 536) :
      forEach (fun i => panwrapLog "\t\t\t%010x\n" [.nat ((Memory.overlay R other s.mem).read 32 ptr (start + 4 * i)).toNat])
        (List.range count) =
      forEach (fun i => (panwrapLog "\t\t\t%010x\n" [.nat (s.mem.read 32 ptr (start + 4 * i)).toNat] : Decode w Unit))
        (List.range count) := by
    apply forEach_congr
    intro i member
    have small := List.mem_range.mp member
    rw [read_block bound block (by omega) (by decide)]
  have groups :
      forEach (fun i => do
          panwrapLog "\t\t\t- Core mask: %010PRIx64\n"
            [.nat ((Memory.overlay R other s.mem).read 64 ptr (280 + 16 * i)).toNat]
          panwrapLog "\t\t\t  Number of cores: %d\n"
            [.nat ((Memory.overlay R other s.mem).read 16 ptr (288 + 16 * i)).toNat])
        (List.range (s.mem.read 32 ptr 264).toNat) =
      forEach (fun i => (do
          panwrapLog "\t\t\t- Core mask: %010PRIx64\n" [.nat (s.mem.read 64 ptr (280 + 16 * i)).toNat]
          panwrapLog "\t\t\t  Number of cores: %d\n" [.nat (s.mem.read 16 ptr (288 + 16 * i)).toNat] : Decode w Unit))
        (List.range (s.mem.read 32 ptr 264).toNat) := by
    apply forEach_congr
    intro i member
    have small := (List.mem_range.mp member).trans_le few
    rw [read_block bound block (by omega) (by decide), read_block bound block (by omega) (by decide)]
  unfold Commutes ioctlDecodePostGpuPropsRegDump
  iterate 4 rw [deref_bind nonnull, deref_bind nonnull]
  dsimp only [Proc.within]
  simp (disch := decide) only [read_block bound block, words, groups]
  show Commutes (Proc.within R other) _ s
  iterate 9 apply commutes_log_bind
  apply Commutes.bind
  · exact commutes_forEach (fun _ _ => commutes_log) _
  intro _ _ _ _
  iterate 28 apply commutes_log_bind
  apply Commutes.bind
  · exact commutes_forEach (fun _ _ => commutes_log) _
  intro _ _ _ _
  iterate 9 apply commutes_log_bind
  exact commutes_forEach (fun _ _ => commutes_log_bind commutes_log) _

end Post

section Beyond

theorem outside_block (room : n < 2 ^ w) : ptr + BitVec.ofNat w n ∉ region ptr n := by
  have offset : ptr + BitVec.ofNat w n - ptr = BitVec.ofNat w n := by
    rw [BitVec.add_comm, BitVec.add_sub_cancel]
  rw [mem_region, offset, BitVec.toNat_ofNat, Nat.mod_eq_of_lt room]
  exact Nat.lt_irrefl n

theorem runs_preStreamCreate (nonnull : ptr ≠ 0#w) : Runs (ioctlDecodePreStreamCreate ptr) s
    [.log "\tname = %s\n" [.text (s.mem.string (2 ^ w) (ptr + 8#w))]] () s := deref_bind nonnull

/-- A name without a terminator is read on behind the structure. -/
theorem preStreamCreate_unconfined (room : 48 < 2 ^ w) (nonnull : ptr ≠ 0#w)
    (unterminated : ¬ s.mem.Terminated (ptr + 8#w) 40) :
    ¬ Confined (region ptr 48) (ioctlDecodePreStreamCreate ptr) s := by
  intro confined
  have behind : ptr + 8#w + BitVec.ofNat w 40 = ptr + BitVec.ofNat w 48 := by
    rw [BitVec.add_assoc]
    congr 1
    exact (BitVec.ofNat_add 8 40).symm
  have kept : ∀ k < 40, Memory.overlay (region ptr 48) s.mem.flip s.mem (ptr + 8#w + BitVec.ofNat w k) =
      s.mem (ptr + 8#w + BitVec.ofNat w k) := by
    intro k small
    apply Memory.overlay_inside
    have part : region (ptr + BitVec.ofNat w (8 + k)) 1 ⊆ region ptr 48 := region_subset ptr (by omega)
    rw [BitVec.ofNat_add, ← BitVec.add_assoc] at part
    exact part (region_start (by decide))
  have again : ¬ (Memory.overlay (region ptr 48) s.mem.flip s.mem).Terminated (ptr + 8#w) 40 := by
    intro terminated
    obtain ⟨k, small, zero⟩ := terminated
    exact unterminated ⟨k, small, (kept k small).symm.trans zero⟩
  have flipped := Commutes.runs (confined s.mem.flip) (runs_preStreamCreate nonnull)
  obtain ⟨printed, -, -⟩ := flipped.unique (runs_preStreamCreate nonnull)
  have same : s.mem.string (2 ^ w) (ptr + 8#w) =
      (Memory.overlay (region ptr 48) s.mem.flip s.mem).string (2 ^ w) (ptr + 8#w) := by
    simpa [Proc.within] using printed
  have ends := Memory.string_length_iff unterminated (show 40 < 2 ^ w by omega)
  have ends' := Memory.string_length_iff again (show 40 < 2 ^ w by omega)
  rw [← same, ends, behind, Memory.overlay_outside (outside_block room), Memory.flip_zero_iff] at ends'
  exact absurd ends' (by tauto)

def coreMaskFormat : String := "\t\t\t- Core mask: %010PRIx64\n"

def coreMask : Out → Option Arg
  | .log format args => if format = coreMaskFormat then args.head? else none
  | _ => none

def Shows (p : Decode w Unit) (s : Proc w) (masks : List Arg) : Prop :=
  ∃ out, Runs p s out () s ∧ out.filterMap coreMask = masks

theorem Shows.bind {p q : Decode w Unit} {masks masks' : List Arg} (first : Shows p s masks) (second : Shows q s masks') :
    Shows (p >>= fun _ => q) s (masks ++ masks') := by
  obtain ⟨out, runs, rfl⟩ := first
  obtain ⟨out', runs', rfl⟩ := second
  exact ⟨out ++ out', runs.bind runs', List.filterMap_append ..⟩

theorem shows_log {format : String} {args : List Arg} (different : format ≠ coreMaskFormat) :
    Shows (panwrapLog format args) s [] := by
  refine ⟨_, rfl, ?_⟩
  rw [List.filterMap_cons, coreMask, if_neg different]
  rfl

theorem shows_mask {mask : Arg} : Shows (panwrapLog coreMaskFormat [mask]) s [mask] := ⟨_, rfl, rfl⟩

theorem shows_log_bind {format : String} {args : List Arg} {q : Decode w Unit} {masks : List Arg}
    (different : format ≠ coreMaskFormat) (rest : Shows q s masks) : Shows (panwrapLog format args >>= fun _ => q) s masks :=
  (shows_log different).bind rest

theorem shows_forEach {body : α → Decode w Unit} {masks : α → List Arg} (each : ∀ a, Shows (body a) s (masks a))
    (items : List α) : Shows (forEach body items) s (items.flatMap masks) := by
  induction items with
  | nil => exact ⟨[], rfl, rfl⟩
  | cons a rest ih => exact (each a).bind ih

theorem shows_words {format : String} {words : Nat → List Arg} {q : Decode w Unit} {masks : List Arg} (count : Nat)
    (different : format ≠ coreMaskFormat) (rest : Shows q s masks) :
    Shows (forEach (fun i => panwrapLog format (words i)) (List.range count) >>= fun _ => q) s masks := by
  have each : ∀ i, Shows (panwrapLog format (words i)) s [] := fun i => shows_log different
  have none := (shows_forEach each (List.range count)).bind rest
  rwa [List.flatMap_eq_nil_iff.mpr fun _ _ => rfl] at none

theorem shows_gpuPropsRegDump (nonnull : ptr ≠ 0#w) : Shows (ioctlDecodePostGpuPropsRegDump ptr) s
    ((List.range (numGroups s.mem ptr)).map fun i => .nat (s.mem.read 64 ptr (280 + 16 * i)).toNat) := by
  unfold Shows Runs ioctlDecodePostGpuPropsRegDump
  iterate 4 rw [deref_bind nonnull]
  show Shows _ s _
  iterate 9 refine shows_log_bind (by decide) ?_
  apply shows_words 3 (by decide)
  iterate 28 refine shows_log_bind (by decide) ?_
  apply shows_words 16 (by decide)
  iterate 9 refine shows_log_bind (by decide) ?_
  rw [List.map_eq_flatMap]
  exact shows_forEach (fun _ => shows_mask.bind (shows_log (by decide))) _

/-- More groups than the structure has room for are read behind it. -/
theorem gpuPropsRegDump_unconfined (bound : 544 ≤ 2 ^ w) (nonnull : ptr ≠ 0#w) (many : 16 < numGroups s.mem ptr) :
    ¬ Confined (region ptr 536) (ioctlDecodePostGpuPropsRegDump ptr) s := by
  intro confined
  have counted : numGroups (Memory.overlay (region ptr 536) s.mem.flip s.mem) ptr = numGroups s.mem ptr :=
    congrArg BitVec.toNat (read_block (by omega) Set.Subset.rfl (by decide) (by decide))
  obtain ⟨out, runs, shown⟩ := shows_gpuPropsRegDump (s := s) nonnull
  obtain ⟨out', runs', shown'⟩ := shows_gpuPropsRegDump (s := s.within (region ptr 536) s.mem.flip) nonnull
  obtain ⟨rfl, -, -⟩ := ((confined s.mem.flip).runs runs).unique runs'
  rw [shown] at shown'
  have masks := List.map_inj_left.mp (shown'.trans (by rw [Proc.within, counted])) 16 (List.mem_range.mpr many)
  have word : s.mem.read 64 ptr 536 = (Memory.overlay (region ptr 536) s.mem.flip s.mem).read 64 ptr 536 :=
    BitVec.eq_of_toNat_eq (Arg.nat.inj masks)
  have byte := congrArg (fun value : BitVec 64 => value.toNat % 256) word
  have low := Memory.read_mod s.mem ptr 7 536
  have low' := Memory.read_mod (Memory.overlay (region ptr 536) s.mem.flip s.mem) ptr 7 536
  rw [Memory.overlay_outside (outside_block (by omega))] at low'
  exact Memory.flip_ne s.mem _ (BitVec.eq_of_toNat_eq (low'.symm.trans (byte.symm.trans low)))

end Beyond

section Exact

variable {request : BitVec w} {command : BitVec 32}

/-- Both switches select a command for the requests of its type, number and size alone, and no decoder reads the
    argument behind the size that the request declares: what it does depends only on memory that has these bytes and
    what it follows out of them, the buffer of a `SYNC` and the atoms of a `JOB_SUBMIT`. -/
structure Exact (env : Env w) (cfg : Config) (request ptr : BitVec w) (s : Proc w) (σ : Sys w) : Prop where
  pre : ∀ command ∈ preCommands, selected w request preCommands = some command ↔ SameRequest request command
  post : ∀ command ∈ postCommands, selected w request postCommands = some command ↔ SameRequest request command
  before : ∀ R, region ptr (iocSize request).toNat ⊆ R →
    (selected w request preCommands = some maliIoctlSync → Dumped R maliSyncToDevice s.mem ptr) →
    (selected w request preCommands = some maliIoctlJobSubmit → AtomsConfined env R ptr s) →
    ∀ fuel, Confined R (ioctlDecodePre env fuel request ptr) s
  behind : ∀ R, region ptr (iocSize request).toNat ⊆ R →
    (selected w request postCommands = some maliIoctlSync → Dumped R maliSyncToCpu σ.proc.mem ptr) →
    ∀ other, Commutes (Sys.within R other) (ioctlDecodePost cfg ptr request) σ

variable {env : Env w} {cfg : Config} {σ : Sys w}

theorem Exact.streamCreate (exact : Exact env cfg request ptr s σ) (same : SameRequest request maliIoctlStreamCreate) :
    Confined (region ptr 48) (ioctlDecodePreStreamCreate ptr) s := by
  have chosen := (exact.pre maliIoctlStreamCreate (by decide)).mpr same
  have runs : ioctlDecodePre env 0 request ptr = ioctlDecodePreStreamCreate ptr :=
    ioctlDecodePre_entry env 0 ptr chosen (by simp [preDecoders])
  have block : region ptr (iocSize request).toNat ⊆ region ptr 48 := by
    rw [same.2.2]
    exact Set.Subset.rfl
  rw [← runs]
  apply exact.before (region ptr 48) block
  · exact fun sync => absurd (chosen.symm.trans sync) (by decide)
  · exact fun submit => absurd (chosen.symm.trans submit) (by decide)

theorem Exact.gpuPropsRegDump (exact : Exact env cfg request ptr s σ)
    (same : SameRequest request maliIoctlGpuPropsRegDump) :
    Confined (region ptr 536) (ioctlDecodePostGpuPropsRegDump ptr) σ.proc := by
  intro other
  have chosen := (exact.post maliIoctlGpuPropsRegDump (by decide)).mpr same
  have runs : ioctlDecodePost cfg ptr request = decode cfg fun _ => ioctlDecodePostGpuPropsRegDump ptr :=
    ioctlDecodePost_entry cfg ptr chosen (by simp [postDecoders])
  have block : region ptr (iocSize request).toNat ⊆ region ptr 536 := by
    rw [same.2.2]
    exact Set.Subset.rfl
  apply commutes_of_decode
  rw [← runs]
  exact exact.behind (region ptr 536) block (fun sync => absurd (chosen.symm.trans sync) (by decide)) other

theorem confined_ioctlDecodePre (least : 32 ≤ w) (most : w ≤ 64)
    (sizes : ∀ command, selected w request preCommands = some command → iocSize request = iocSize command)
    (named : selected w request preCommands = some maliIoctlStreamCreate → s.mem.Terminated (ptr + 8#w) 40)
    (block : region ptr (iocSize request).toNat ⊆ R)
    (synced : selected w request preCommands = some maliIoctlSync → Dumped R maliSyncToDevice s.mem ptr)
    (submitted : selected w request preCommands = some maliIoctlJobSubmit → AtomsConfined env R ptr s) (fuel : Nat) :
    Confined R (ioctlDecodePre env fuel request ptr) s := by
  have bound : 8 ≤ 2 ^ w := (by decide : 8 ≤ 2 ^ 32).trans (Nat.pow_le_pow_right (by decide) least)
  cases chosen : selected w request preCommands with
  | none =>
    rw [ioctlDecodePre_unselected env fuel ptr chosen]
    exact fun _ => commutes_pure
  | some command =>
    rw [sizes command chosen] at block
    by_cases sync : command = maliIoctlSync
    · subst sync
      have runs : ioctlDecodePre env fuel request ptr = ioctlDecodePreSync env ptr :=
        ioctlDecodePre_entry env fuel ptr chosen (by simp [preDecoders])
      rw [runs]
      exact confined_preSync env least most block (synced chosen)
    by_cases create : command = maliIoctlStreamCreate
    · subst create
      have runs : ioctlDecodePre env fuel request ptr = ioctlDecodePreStreamCreate ptr :=
        ioctlDecodePre_entry env fuel ptr chosen (by simp [preDecoders])
      rw [runs]
      exact confined_preStreamCreate block (named chosen)
    by_cases submit : command = maliIoctlJobSubmit
    · subst submit
      have runs : ioctlDecodePre env fuel request ptr = ioctlDecodePreJobSubmit env fuel ptr :=
        ioctlDecodePre_entry env fuel ptr chosen (by simp [preDecoders])
      rw [runs]
      exact confined_preJobSubmit env fuel least most block (submitted chosen)
    obtain ⟨decoder, member, other⟩ := ioctlDecodePre_selected env fuel ptr chosen
    rw [other]
    exact preDecoders_confined env fuel bound (command, decoder) member sync create submit block

theorem commutes_ioctlDecodePost (least : 32 ≤ w) (most : w ≤ 64) (nonnull : ptr ≠ 0#w)
    (sizes : ∀ command, selected w request postCommands = some command → iocSize request = iocSize command)
    (few : selected w request postCommands = some maliIoctlGpuPropsRegDump → numGroups σ.proc.mem ptr ≤ 16)
    (block : region ptr (iocSize request).toNat ⊆ R)
    (synced : selected w request postCommands = some maliIoctlSync → Dumped R maliSyncToCpu σ.proc.mem ptr) :
    Commutes (Sys.within R other) (ioctlDecodePost cfg ptr request) σ := by
  have bound : 8 ≤ 2 ^ w := (by decide : 8 ≤ 2 ^ 32).trans (Nat.pow_le_pow_right (by decide) least)
  cases chosen : selected w request postCommands with
  | none =>
    rw [ioctlDecodePost_unselected cfg ptr chosen]
    exact commutes_decode commutes_pure
  | some command =>
    rw [sizes command chosen] at block
    by_cases sync : command = maliIoctlSync
    · subst sync
      have runs : ioctlDecodePost cfg ptr request = decode cfg fun _ => ioctlDecodePostSync ptr :=
        ioctlDecodePost_entry cfg ptr chosen (by simp [postDecoders])
      rw [runs]
      exact commutes_decode (commutes_postSync least most block (synced chosen))
    by_cases dump : command = maliIoctlGpuPropsRegDump
    · subst dump
      have runs : ioctlDecodePost cfg ptr request = decode cfg fun _ => ioctlDecodePostGpuPropsRegDump ptr :=
        ioctlDecodePost_entry cfg ptr chosen (by simp [postDecoders])
      rw [runs]
      exact commutes_decode (commutes_gpuPropsRegDump bound nonnull block (few chosen))
    obtain ⟨decoder, member, other⟩ := ioctlDecodePost_selected cfg ptr chosen
    rw [other]
    exact postDecoders_confined bound (command, decoder) member sync dump block

/-- A `MEM_ALLOC` of some other driver whose argument has 8 bytes. -/
def shortMemAlloc : BitVec 32 := iowr 0x82 0 8

end Exact

end Panwrap
