import Pantry.Panwrap.Descriptors

namespace Panwrap

open Machine Decoder Program

section Lookup

variable {w : Nat} {cfg : Config} {libc : Libc w} {fuel : Nat} {fd : Int} {request arg : BitVec w} {σ : Sys w}

/-- The first index that `ioctl_get_info` computes; the second is `_IOC_NR`. -/
def typeIndex (request : BitVec w) : Int := (iocType request).toNat - maliIoctlTypeBase

def IndicesInside (request : BitVec w) : Prop :=
  0 ≤ typeIndex request ∧ typeIndex request < maliIoctlTypeCount ∧ (iocNr request).toNat < maliIoctlNrCount

theorem inTable_iff : InTable request ↔ IndicesInside request := by
  unfold InTable IndicesInside typeIndex
  omega

def Listed (request : BitVec w) : Prop := (iocType request ∈ [0x80#8, 0x81#8, 0x82#8]) ∧ iocNr request ≠ 255#8

theorem listed_iff : Listed request ↔ InTable request := by
  have type (n : Nat) (small : n < 256) : iocType request = BitVec.ofNat 8 n ↔ (iocType request).toNat = n := by
    rw [← BitVec.toNat_inj, BitVec.toNat_ofNat, Nat.mod_eq_of_lt small]
  have number : iocNr request = 255#8 ↔ (iocNr request).toNat = 255 := by
    rw [← BitVec.toNat_inj]
    rfl
  have bound := (iocNr request).isLt
  unfold Listed InTable maliIoctlTypeBase maliIoctlTypeCount maliIoctlNrCount
  simp only [List.mem_cons, List.not_mem_nil, or_false, ne_eq, number, type 0x80 (by decide), type 0x81 (by decide),
    type 0x82 (by decide)]
  omega

def nameOf (cfg : Config) (request : BitVec w) : String := (ioctlGetInfo cfg.stray request).getD "???"

theorem out_put_bind {ω ε σ α : Type} {items : List ω} {k : Unit → Program ω ε σ α} {s : σ} :
    ((put items >>= k) s).out = items ++ (k () s).out := by rw [bind_run (runs_put.mpr ⟨rfl, rfl⟩)]

theorem ioctl_header (cfg : Config) (libc : Libc w) (fuel : Nat) (request arg : BitVec w)
    (traced : IoctlTraced σ.tracker.maliFd fd) :
    ∃ format rest later, (ioctl cfg libc fuel fd request arg σ).out =
      .freeze :: .out (.log format (.str (nameOf cfg request) :: rest)) :: later := by
  unfold ioctl
  rw [bind_run (runs_get.mpr ⟨rfl, rfl, rfl⟩), if_neg (not_not.mpr traced), panwrapFreezeTime]
  simp only [List.nil_append, out_put_bind]
  by_cases null : ioctlPtr request arg = 0#w
  · rw [if_pos null, say]
    simp only [out_put_bind]
    exact ⟨_, _, _, rfl⟩
  · have first : Runs (decode cfg fun _ => deref (ioctlPtr request arg) fun m => m.read 32 (ioctlPtr request arg) 0) σ []
        (σ.proc.mem.read 32 (ioctlPtr request arg) 0) σ :=
      runs_decode (p := fun _ => deref (ioctlPtr request arg) fun m => m.read 32 (ioctlPtr request arg) 0) (runs_deref null _)
    rw [if_neg null, bind_run first, say]
    simp only [out_put_bind]
    exact ⟨_, _, _, rfl⟩

theorem ioctl_passed (passed : ¬ IoctlTraced σ.tracker.maliFd fd) (stray : BitVec 8 → BitVec 8 → Option String) :
    (ioctl { cfg with stray := stray } libc fuel fd request arg σ).out = (ioctl cfg libc fuel fd request arg σ).out := by
  rw [(runs_ioctl_passed { cfg with stray := stray } libc fuel request arg passed).out_eq,
    (runs_ioctl_passed cfg libc fuel request arg passed).out_eq]

theorem ioctl_beside (inside : InTable request) (stray : BitVec 8 → BitVec 8 → Option String) :
    ioctl { cfg with stray := stray } libc fuel fd request arg = ioctl cfg libc fuel fd request arg := by
  have args : requestArgs { cfg with stray := stray } request = requestArgs cfg request := by
    unfold requestArgs ioctlGetInfo
    rw [if_pos inside, if_pos inside]
  unfold ioctl
  rw [args]
  rfl

theorem blind_iff : (∀ stray, (ioctl { cfg with stray := stray } libc fuel fd request arg σ).out =
      (ioctl cfg libc fuel fd request arg σ).out) ↔ (IoctlTraced σ.tracker.maliFd fd → InTable request) := by
  constructor
  · intro blind traced
    by_contra outside
    have name (text : String) : nameOf { cfg with stray := fun _ _ => some text } request = text := by
      rw [nameOf, ioctlGetInfo, if_neg outside]
      rfl
    obtain ⟨format, rest, later, first⟩ :=
      ioctl_header { cfg with stray := fun _ _ => some "a" } libc fuel request arg traced
    obtain ⟨format', rest', later', second⟩ :=
      ioctl_header { cfg with stray := fun _ _ => some "b" } libc fuel request arg traced
    rw [blind, name] at first
    rw [blind, first, name] at second
    simp at second
  · intro inside stray
    by_cases traced : IoctlTraced σ.tracker.maliFd fd
    · rw [ioctl_beside (inside traced)]
    · exact ioctl_passed traced stray

end Lookup

section Histories

variable {build : Build} {cfg : Config} {libc : Libc build.bits} {fuel : Nat} {fd : Int} {request arg : BitVec build.bits}
  {σ : Sys build.bits}

/-- The lookup of a name stays in its table: both indices are within it, nothing beside the table shows
    in what the call puts out, and a request that the table has no name for is logged as `???`. -/
structure StaysInside (cfg : Config) (libc : Libc build.bits) (fuel : Nat) (fd : Int) (request arg : BitVec build.bits)
    (σ : Sys build.bits) : Prop where
  indices : IoctlTraced σ.tracker.maliFd fd → IndicesInside request
  blind : ∀ stray, (wrapper { cfg with stray := stray } libc fuel (.ioctl fd request arg) σ).out =
    (wrapper cfg libc fuel (.ioctl fd request arg) σ).out
  unknown : IoctlTraced σ.tracker.maliFd fd → maliInfo (iocType request).toNat (iocNr request).toNat = none →
    ∃ format rest, .out (.log format (.str "???" :: rest)) ∈ (wrapper cfg libc fuel (.ioctl fd request arg) σ).out

theorem staysInside_iff :
    StaysInside cfg libc fuel fd request arg σ ↔ (IoctlTraced σ.tracker.maliFd fd → InTable request) := by
  constructor
  · exact fun inside traced => inTable_iff.mpr (inside.indices traced)
  · intro inside
    constructor
    · exact fun traced => inTable_iff.mp (inside traced)
    · intro stray
      rw [wrapper, wrapper, out_bind_pure, out_bind_pure]
      exact blind_iff.mpr inside stray
    · intro traced unnamed
      obtain ⟨format, rest, later, out⟩ := ioctl_header cfg libc fuel request arg traced
      have name : nameOf cfg request = "???" := by
        rw [nameOf, ioctlGetInfo, if_pos (inside traced), unnamed]
        rfl
      refine ⟨format, rest, ?_⟩
      rw [wrapper, out_bind_pure, out, name]
      exact List.mem_cons_of_mem _ (List.mem_cons_self ..)

/-- After any run, the lookup for an `ioctl` stays in its table exactly if a request on descriptor 0 or on
    the one that `/dev/mali0` was opened as last has a listed type and number. -/
theorem lookup_stays_inside_iff {proc : Proc build.bits} {labels : List (Label build)}
    (run : Run (Step cfg) (start proc) labels σ) (answered : Answered labels) (libc : Libc build.bits) (fuel : Nat)
    (fd : Int) (request arg : BitVec build.bits) :
    StaysInside cfg libc fuel fd request arg σ ↔ (fd = 0 ∨ Latest labels fd → Listed request) := by
  have traced : IoctlTraced σ.tracker.maliFd fd ↔ fd = 0 ∨ Latest labels fd := by
    by_cases zero : fd = 0
    · exact iff_of_true (.inl zero) (.inl zero)
    · rw [IoctlTraced, ← maliFd_eq_iff run answered zero, eq_comm (a := fd) (b := σ.tracker.maliFd)]
  rw [staysInside_iff, traced, listed_iff]

theorem unknown_after_open :
    ∃ σ, Run (Step x86) (start ⟨fun _ => 0#8, 0⟩) [opening "/dev/mali0" 3] σ ∧
      ∀ libc fuel arg, StaysInside x86 libc fuel 3 0xC0088207#64 arg σ := by
  obtain ⟨σ, opened⟩ := step_opening "/dev/mali0" 3 (start ⟨fun _ => 0#8, 0⟩)
  have listed : Listed 0xC0088207#64 := listed_iff.mpr (by decide)
  exact ⟨σ, .single opened, fun libc fuel arg =>
    (lookup_stays_inside_iff (.single opened) (opening_answered (by decide)) libc fuel 3 _ arg).mpr fun _ => listed⟩

theorem lookup_leaves_table :
    (∀ libc fuel, ¬ StaysInside x86 libc fuel 0 0x5401#64 0#64 (start ⟨fun _ => 0#8, 0⟩ : Sys Build.lp64.bits)) ∧
      ∃ σ, Run (Step x86) (start ⟨fun _ => 0#8, 0⟩) [opening "/dev/mali0" 3] σ ∧
        ∀ libc fuel, ¬ StaysInside x86 libc fuel 3 0xC00882FF#64 0x1000#64 σ := by
  constructor
  · intro libc fuel inside
    have indices := inside.indices (.inl rfl)
    exact absurd indices (by rw [← inTable_iff]; decide)
  · obtain ⟨σ, opened⟩ := step_opening "/dev/mali0" 3 (start ⟨fun _ => 0#8, 0⟩)
    refine ⟨σ, .single opened, ?_⟩
    intro libc fuel inside
    have tracked : σ.tracker.maliFd = 3 := by
      rw [opened.tracker]
      exact Tracker.maliFd_opened _ "/dev/mali0" _
    have indices := inside.indices (.inr tracked.symm)
    exact absurd indices (by rw [← inTable_iff]; decide)

end Histories

end Panwrap
