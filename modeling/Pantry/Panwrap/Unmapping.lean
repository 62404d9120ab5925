import Pantry.Panwrap.Attribution
import Pantry.Panwrap.Bounds
import Pantry.Machine.Memory

namespace Panwrap

open Machine

section Translation

variable {w : Nat}

def MappedMemory.cpuRegion (m : MappedMemory w) : Set (BitVec w) := region m.addr m.length.toNat

/-- The GPU range of `sz` bytes at `gpuAddr`, which does not wrap, translates to `p`. -/
structure Translates (mmaps : List (MappedMemory w)) (gpuAddr : BitVec 64) (sz p : BitVec w) : Prop where
  value : fetchMappedGpu mmaps gpuAddr sz = p
  notNull : p ≠ 0#w
  noWrap : gpuAddr.toNat + sz.toNat < 2 ^ 64

theorem Translates.congr {mmaps mmaps' : List (MappedMemory w)} {gpuAddr : BitVec 64} {sz p : BitVec w}
    (translates : Translates mmaps gpuAddr sz p)
    (same : findGpuMappedMem mmaps' gpuAddr = findGpuMappedMem mmaps gpuAddr) : Translates mmaps' gpuAddr sz p := by
  refine ⟨?_, translates.notNull, translates.noWrap⟩
  rw [← translates.value, fetchMappedGpu, fetchMappedGpu, same]

theorem Translates.found {mmaps : List (MappedMemory w)} {gpuAddr : BitVec 64} {sz p : BitVec w} (width : w ≤ 64)
    (translates : Translates mmaps gpuAddr sz p) :
    ∃ m ∈ mmaps, findGpuMappedMem mmaps gpuAddr = some m ∧ region p sz.toNat ⊆ m.cpuRegion := by
  have hit : fetchMappedGpu mmaps gpuAddr sz ≠ 0#w := by
    rw [translates.value]
    exact translates.notNull
  obtain ⟨m, first, -, passes, value⟩ := fetch_nonnull width hit
  have found := find_iff_first.mpr first
  have offset := offset_toNat (gpuContains_bounds width first.1).1
  have noWrap := translates.noWrap
  rw [Nat.mod_eq_of_lt (by omega)] at passes
  refine ⟨m, List.mem_of_find?_eq_some found, found, ?_⟩
  rw [← translates.value, value, ← BitVec.ofNat_toNat w]
  exact region_subset m.addr passes

theorem find?_eraseP {α : Type} {p q : α → Bool} {a : α} {l : List α} (found : l.find? q = some a)
    (other : l.find? p ≠ some a) : (l.eraseP p).find? q = some a := by
  induction l with
  | nil => cases found
  | cons b l ih =>
    cases erased : p b with
    | true =>
      have missed : q b = false := by
        by_contra hit
        rw [Bool.not_eq_false] at hit
        rw [List.find?_cons_of_pos hit] at found
        rw [List.find?_cons_of_pos erased] at other
        exact other found
      rw [List.find?_cons_of_neg (by simp [missed])] at found
      rw [List.eraseP_cons_of_pos erased]
      exact found
    | false =>
      have kept : ¬ p b = true := by simp [erased]
      rw [List.eraseP_cons_of_neg kept]
      rw [List.find?_cons_of_neg kept] at other
      cases hit : q b with
      | true =>
        rw [List.find?_cons_of_pos hit] at found ⊢
        exact found
      | false =>
        have missed : ¬ q b = true := by simp [hit]
        rw [List.find?_cons_of_neg missed] at found ⊢
        exact ih found other

/-- Of the mappings only the newest that starts at `addr` may meet `R`. -/
def OnlyStart (mmaps : List (MappedMemory w)) (addr : BitVec w) (R : Set (BitVec w)) : Prop :=
  ∀ newer m older, mmaps = newer ++ m :: older →
    (m.addr = addr ∧ ∀ e ∈ newer, e.addr ≠ addr) ∨ Disjoint m.cpuRegion R

def Clear (R : Set (BitVec w)) (mmaps : List (MappedMemory w)) : Prop := ∀ m ∈ mmaps, Disjoint m.cpuRegion R

theorem OnlyStart.clear {mmaps : List (MappedMemory w)} {addr : BitVec w} {R : Set (BitVec w)}
    (only : OnlyStart mmaps addr R) : Clear R (mmaps.eraseP (startsAt addr)) := by
  intro m member
  by_cases any : ∃ e ∈ mmaps, startsAt addr e = true
  · obtain ⟨e, listed, starts⟩ := any
    obtain ⟨first, newer, older, before, firstStarts, whole, rest⟩ := List.exists_of_eraseP listed starts
    rw [rest] at member
    rcases List.mem_append.mp member with earlier | later
    · obtain ⟨s, t, split⟩ := List.append_of_mem earlier
      have position : mmaps = s ++ m :: (t ++ first :: older) := by rw [whole, split]; simp
      exact (only s m _ position).resolve_left fun left => before m earlier (beq_iff_eq.mpr left.1)
    · obtain ⟨s, t, split⟩ := List.append_of_mem later
      have position : mmaps = (newer ++ first :: s) ++ m :: t := by rw [whole, split]; simp
      exact (only _ m t position).resolve_left fun left => left.2 first (by simp) (beq_iff_eq.mp firstStarts)
  · have kept : mmaps.eraseP (startsAt addr) = mmaps :=
      List.eraseP_of_forall_not fun e listed starts => any ⟨e, listed, starts⟩
    rw [kept] at member
    obtain ⟨s, t, position⟩ := List.append_of_mem member
    exact (only s m t position).resolve_left fun left => any ⟨m, member, beq_iff_eq.mpr left.1⟩

theorem Clear.apart {R : Set (BitVec w)} {mmaps : List (MappedMemory w)} (clear : Clear R mmaps) (width : w ≤ 64)
    {gpuAddr : BitVec 64} {sz p : BitVec w} (translates : Translates mmaps gpuAddr sz p) :
    Disjoint (region p sz.toNat) R := by
  obtain ⟨m, member, -, inside⟩ := translates.found width
  exact (clear m member).mono_left inside

end Translation

section Runs

variable {build : Build} {cfg : Config}

def Label.MapsOver (R : Set (BitVec build.bits)) (label : Label build) : Prop :=
  match label.call with
  | .mmap _ length _ _ _ _ => ¬ Disjoint (region label.reply.ptr length.toNat) R
  | .mmap64 _ length _ _ _ _ => ¬ Disjoint (region label.reply.ptr length.toNat) R
  | _ => False

theorem Clear.next {R : Set (BitVec build.bits)} {t : Tracker build.bits} (clear : Clear R t.mmaps)
    {label : Label build} (elsewhere : ¬ label.MapsOver R) : Clear R (t.next label.call label.reply).mmaps := by
  rcases t.mmaps_next label with same | ⟨addr, dropped⟩ | ⟨fd, length, offset, maps, -, added⟩
  · rw [same]
    exact clear
  · rw [dropped]
    exact fun m member => clear m (List.mem_of_mem_eraseP member)
  · rw [added]
    refine List.forall_mem_cons.mpr ⟨?_, clear⟩
    have apart : Disjoint (region label.reply.ptr length.toNat) R := by
      by_contra meets
      refine elsewhere ?_
      obtain ⟨call, reply⟩ := label
      cases call with
      | mmap addr length' prot flags fd' offset' =>
        obtain ⟨-, rfl, -⟩ := maps
        exact meets
      | mmap64 addr length' prot flags fd' offset' =>
        obtain ⟨-, rfl, -⟩ := maps
        exact meets
      | _ => exact maps
    exact apart

theorem run_clear {R : Set (BitVec build.bits)} {σ σ' : Sys build.bits} {labels : List (Label build)}
    (run : Run (Step cfg) σ labels σ') (elsewhere : ∀ label ∈ labels, ¬ label.MapsOver R)
    (clear : Clear R σ.tracker.mmaps) : Clear R σ'.tracker.mmaps := by
  apply run.preserves_of_labels _ elsewhere clear
  intro s t label step allowed held
  rw [step.tracker]
  exact held.next allowed

/-- A `munmap` forgets the newest mapping that starts at its address, and what lies outside of it
    translates as before. If no other mapping meets the unmapped range, nothing translates into the
    range until something is mapped there again. -/
theorem munmap_forgets {σ σ₁ : Sys build.bits} {addr length : BitVec build.bits} {reply : Reply build.bits}
    (step : Step cfg σ ⟨.munmap addr length, reply⟩ σ₁) :
    (∀ gpuAddr sz p, 0 < sz.toNat → Translates σ.tracker.mmaps gpuAddr sz p →
      (∀ m, findMappedMem σ.tracker.mmaps addr = some m → Disjoint (region p sz.toNat) m.cpuRegion) →
      Translates σ₁.tracker.mmaps gpuAddr sz p) ∧
    (OnlyStart σ.tracker.mmaps addr (region addr length.toNat) →
      ∀ later σ₂, Run (Step cfg) σ₁ later σ₂ → (∀ label ∈ later, ¬ label.MapsOver (region addr length.toNat)) →
        ∀ gpuAddr sz p, Translates σ₂.tracker.mmaps gpuAddr sz p →
          Disjoint (region p sz.toNat) (region addr length.toNat)) := by
  have forgotten : σ₁.tracker.mmaps = σ.tracker.mmaps.eraseP (startsAt addr) := by
    rw [step.tracker]
    rfl
  constructor
  · intro gpuAddr sz p positive translates outside
    obtain ⟨m, -, found, inside⟩ := translates.found build.bits_le
    have other : σ.tracker.mmaps.find? (startsAt addr) ≠ some m := by
      intro same
      have apart := outside m same
      exact Set.disjoint_left.mp apart (region_start positive) (inside (region_start positive))
    refine translates.congr ?_
    rw [forgotten, found]
    exact find?_eraseP found other
  · intro only later σ₂ run elsewhere gpuAddr sz p translates
    have clear : Clear (region addr length.toNat) σ₁.tracker.mmaps := by
      rw [forgotten]
      exact only.clear
    exact (run_clear run elsewhere clear).apart build.bits_le translates

end Runs

section Pages

def twoPages : Label .lp64 := ⟨.mmap64 0 0x2000#64 3#32 1#32 3 0x41000#64, ⟨0, 0x7f0000#64, granting⟩⟩

def unmapping (addr length : BitVec 64) : Label .lp64 := ⟨.munmap addr length, ⟨0, 0, granting⟩⟩

def otherPage : Label .lp64 := ⟨.mmap64 0 0x1000#64 3#32 1#32 3 0x41000#64, ⟨0, 0x8f0000#64, granting⟩⟩

def mappedPages : List (MappedMemory 64) :=
  [⟨0x1000#64, 0x8f0000#64, 0x8f0000#64⟩, ⟨0x1000#64, 0x7f0000#64, 0x7f0000#64⟩]

theorem otherPage_apart : Disjoint (region 0x8f0000#64 0x1000) (region 0x7f0000#64 0x1000) :=
  (region_disjoint (by decide) (by decide)).symm

theorem onlyStart_mappedPages : OnlyStart mappedPages 0x7f0000#64 (region 0x7f0000#64 0x1000) := by
  intro newer m older whole
  match newer, whole with
  | [], whole =>
    obtain rfl := List.head_eq_of_cons_eq whole
    exact .inr otherPage_apart
  | [e], whole =>
    obtain ⟨rfl, rest⟩ := List.cons.inj whole
    obtain rfl := List.head_eq_of_cons_eq rest
    exact .inl ⟨rfl, by decide⟩
  | _ :: _ :: newer, whole =>
    have length := congrArg List.length whole
    simp [mappedPages] at length

theorem page_forgotten :
    ∃ σ σ' : Sys Build.lp64.bits, Run (Step x86) (start ⟨fun _ => 0#8, 0⟩)
        [opening "/dev/mali0" 3, allocating, mapping, allocating, otherPage] σ ∧
      Step x86 σ (unmapping 0x7f0000#64 0x1000#64) σ' ∧
      Translates σ'.tracker.mmaps 0x8f0010#64 0x10#64 0x8f0010#64 ∧
      Disjoint (region 0x8f0010#64 0x10) (region 0x7f0000#64 0x1000) := by
  obtain ⟨σ₁, opened⟩ := step_opening "/dev/mali0" 3 (start ⟨fun _ => 0#8, 0⟩)
  obtain ⟨σ₂, allocated⟩ := step_allocating σ₁
  obtain ⟨σ₃, mapped⟩ := step_mapping σ₂
  obtain ⟨σ₄, again⟩ := step_allocating σ₃
  obtain ⟨σ, other⟩ := step_of_decodable x86 otherPage σ₄ trivial
  obtain ⟨σ', unmapped⟩ := step_of_decodable x86 (unmapping 0x7f0000#64 0x1000#64) σ trivial
  have run : Run (Step x86) (start ⟨fun _ => 0#8, 0⟩)
      [opening "/dev/mali0" 3, allocating, mapping, allocating, otherPage] σ :=
    .cons opened (.cons allocated (.cons mapped (.cons again (.single other))))
  have mmaps : σ.tracker.mmaps = mappedPages := by
    rw [run_tracker run]
    decide
  have before : Translates σ.tracker.mmaps 0x8f0010#64 0x10#64 0x8f0010#64 := by
    rw [mmaps]
    exact ⟨by decide, by decide, by decide⟩
  have outside : ∀ m, findMappedMem σ.tracker.mmaps 0x7f0000#64 = some m →
      Disjoint (region 0x8f0010#64 (0x10#64).toNat) m.cpuRegion := by
    intro m found
    rw [mmaps] at found
    obtain rfl : (⟨0x1000#64, 0x7f0000#64, 0x7f0000#64⟩ : MappedMemory 64) = m := Option.some.inj found
    exact (region_disjoint (by decide) (by decide)).symm
  obtain ⟨kept, forgotten⟩ := munmap_forgets unmapped
  have still := kept _ _ _ (by decide) before outside
  have only : OnlyStart σ.tracker.mmaps 0x7f0000#64 (region 0x7f0000#64 (0x1000#64).toNat) := by
    rw [mmaps]
    exact onlyStart_mappedPages
  exact ⟨σ, σ', run, unmapped, still, forgotten only [] σ' (.nil σ') (by simp) _ _ _ still⟩

theorem trailing_page_kept :
    ∃ σ σ' : Sys Build.lp64.bits, Run (Step x86) (start ⟨fun _ => 0#8, 0⟩)
        [opening "/dev/mali0" 3, allocating, twoPages] σ ∧
      Step x86 σ (unmapping 0x7f1000#64 0x1000#64) σ' ∧
      Translates σ'.tracker.mmaps 0x7f1000#64 0x10#64 0x7f1000#64 ∧
      ¬ Disjoint (region 0x7f1000#64 0x10) (region 0x7f1000#64 0x1000) := by
  obtain ⟨σ₁, opened⟩ := step_opening "/dev/mali0" 3 (start ⟨fun _ => 0#8, 0⟩)
  obtain ⟨σ₂, allocated⟩ := step_allocating σ₁
  obtain ⟨σ, mapped⟩ := step_of_decodable x86 twoPages σ₂ trivial
  obtain ⟨σ', unmapped⟩ := step_of_decodable x86 (unmapping 0x7f1000#64 0x1000#64) σ trivial
  have run : Run (Step x86) (start ⟨fun _ => 0#8, 0⟩) [opening "/dev/mali0" 3, allocating, twoPages] σ :=
    .cons opened (.cons allocated (.single mapped))
  have mmaps : σ'.tracker.mmaps = [⟨0x2000#64, 0x7f0000#64, 0x7f0000#64⟩] := by
    rw [unmapped.tracker, run_tracker run]
    decide
  refine ⟨σ, σ', run, unmapped, ?_, ?_⟩
  · rw [mmaps]
    exact ⟨by decide, by decide, by decide⟩
  · exact Set.not_disjoint_iff.mpr ⟨0x7f1000#64, region_start (by decide), region_start (by decide)⟩

end Pages

end Panwrap
