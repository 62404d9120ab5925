import Pantry.Driver.Encoding
import Pantry.Machine.Writes

namespace Driver

open Machine Panwrap Decoder Program

theorem Placed.read_apart {base : BitVec 32} {i : Nat} {R : Set (BitVec 32)} {m m' : Memory 32} (placed : Placed base)
    (changes : Changes R m m') (apart : Disjoint (slots base i (i + 1)) R) (inside : i < arenaSlots) {width off : Nat}
    (part : off + width / 8 ≤ 0x400) : m'.read width (slot base i) off = m.read width (slot base i) off := by
  apply changes.read (by omega)
  exact apart.mono_left (placed.region_slots (by omega) (by omega) (by omega))

/-- Only bytes from slot `k` on and bytes of `other` have changed. -/
def Later (base : BitVec 32) (k : Nat) (other : Set (BitVec 32)) (m m' : Memory 32) : Prop :=
  Changes (slots base k arenaSlots ∪ other) m m'

namespace Later

variable {base : BitVec 32} {i k l : Nat} {other : Set (BitVec 32)} {m m' m'' : Memory 32}

theorem lower (later : Later base k other m m') (order : l ≤ k) : Later base l other m m' :=
  Changes.mono later (Set.union_subset_union (slots_mono order (Nat.le_refl _)) (Set.Subset.refl other))

theorem trans (first : Later base k other m m') (second : Later base l other m' m'') (order : k ≤ l) :
    Later base k other m m'' :=
  Changes.trans first (second.lower order)

variable (later : Later base k other m m') (placed : Placed base) (apart : Disjoint (slots base 0 arenaSlots) other)
  (older : i < k) (room : k ≤ arenaSlots)
include later placed apart older room

theorem read {width off : Nat} (part : off + width / 8 ≤ 0x400) :
    m'.read width (slot base i) off = m.read width (slot base i) off := by
  apply placed.read_apart later ?_ (by omega) part
  rw [Set.disjoint_union_right]
  have all : slots base i (i + 1) ⊆ slots base 0 arenaSlots := slots_mono (Nat.zero_le i) (by omega)
  exact ⟨slots_disjoint (.inl older), apart.mono_left all⟩

theorem load : JobDescriptorHeader.load m' (slot base i) = JobDescriptorHeader.load m (slot base i) :=
  load_header_congr fun _ _ part => later.read placed apart older room (by omega)

theorem attributes : AttributeBuffer.load m' (slot base i) = AttributeBuffer.load m (slot base i) := by
  unfold AttributeBuffer.load
  rw [later.read placed apart older room (by decide), later.read placed apart older room (by decide),
    later.read placed apart older room (by decide)]

end Later

/-- The driver took the slots from `k` to below `l`, made `c` calls of the kernel and wrote to these
    slots and to `other` alone. -/
structure Built (base : BitVec 32) (k l c : Nat) (other : Set (BitVec 32)) (d : State) (out : List Event)
    (d' : State) : Prop where
  silent : submitted out = []
  order : k ≤ l
  cursor : Cursor base l d'.cbmaBottom
  calls : d'.calls = d.calls + c
  atomCount : d'.atomCount = d.atomCount
  atomQueue : d'.atomQueue = d.atomQueue
  atomQueueSize : d'.atomQueueSize = d.atomQueueSize
  changes : Changes (slots base k l ∪ other) d.mem d'.mem

namespace Built

variable {base : BitVec 32} {k l n c c' : Nat} {other other' : Set (BitVec 32)} {d d' d'' : State}
  {out out' : List Event}

variable (built : Built base k l c other d out d')
include built

theorem later (room : l ≤ arenaSlots) (imported : other ⊆ other') : Later base k other' d.mem d'.mem :=
  built.changes.mono (Set.union_subset_union (slots_mono (Nat.le_refl k) room) imported)

theorem arena (apart : Disjoint (slots base 0 arenaSlots) other) (arena : Arena base k d) : Arena base l d' := by
  refine ⟨built.cursor, fun a member => ?_⟩
  have old : a ∈ slots base k arenaSlots := slots_mono built.order (Nat.le_refl _) member
  have outside : a ∉ slots base k l ∪ other := by
    rintro (taken | imported)
    · exact Set.disjoint_left.mp (slots_disjoint (.inl (Nat.le_refl l))) taken member
    · exact Set.disjoint_left.mp apart (slots_mono (Nat.zero_le l) (Nat.le_refl _) member) imported
  rw [built.changes a outside]
  exact arena.zeroed a old

end Built

/-- A store of `content` at offset `off` of the arena's kilobyte that lies `slot` behind some first one. -/
structure SlotWrite where
  slot : Nat
  off : Nat
  content : List Byte

namespace SlotWrite

def assign {width : Nat} (slot off : Nat) (value : BitVec width) : SlotWrite :=
  ⟨slot, off, leBytes (width / 8) value.toNat⟩

def write (base : BitVec 32) (k : Nat) (e : SlotWrite) : Write 32 :=
  ⟨Driver.slot base (k + e.slot) + BitVec.ofNat 32 e.off, e.content⟩

/-- It does not reach the n-th kilobyte. -/
def Ends (n : Nat) (e : SlotWrite) : Prop := 0x400 * e.slot + e.off + e.content.length ≤ 0x400 * n

def Small (n : Nat) (writes : List SlotWrite) : Prop := ∀ e ∈ writes, e.slot < n ∧ e.Ends (e.slot + 1)

theorem assign_ends {width slot off n : Nat} {value : BitVec width} :
    (assign slot off value).Ends n ↔ 0x400 * slot + off + width / 8 ≤ 0x400 * n := by
  unfold Ends assign
  rw [leBytes_length]

theorem Ends.mono {n n' : Nat} {e : SlotWrite} (ends : e.Ends n) (le : n ≤ n') : e.Ends n' := by
  unfold Ends at ends ⊢
  omega

theorem Small.ends {n : Nat} {writes : List SlotWrite} (small : Small n writes) : ∀ e ∈ writes, e.Ends n :=
  fun e member => (small e member).2.mono (small e member).1

theorem Small.before {n : Nat} {writes : List SlotWrite} (small : Small n writes) (i : Nat) :
    ∀ e ∈ writes, e.slot < i → e.Ends i :=
  fun e member earlier => (small e member).2.mono earlier

end SlotWrite

/-- The memory after some writes to slots from `k` on. -/
def wrote (base : BitVec 32) (k : Nat) (writes : List SlotWrite) (m : Memory 32) : Memory 32 :=
  m.apply (writes.map (SlotWrite.write base k))

section Wrote

variable {base : BitVec 32} {k n i : Nat} {writes : List SlotWrite} {m : Memory 32}

theorem wrote_nil : wrote base k [] m = m := rfl

theorem wrote_assign {width s off : Nat} {value : BitVec width} :
    wrote base k (.assign s off value :: writes) m = wrote base k writes (m.write (slot base (k + s)) off value) := rfl

theorem wrote_store {s off : Nat} {content : List Byte} :
    wrote base k (⟨s, off, content⟩ :: writes) m =
      wrote base k writes (m.store (slot base (k + s) + BitVec.ofNat 32 off) content) := rfl

theorem Placed.write_region (placed : Placed base) {e : SlotWrite} (ends : e.Ends n) (room : k + n ≤ arenaSlots) :
    (e.write base k).region ⊆ slots base (k + e.slot) (k + n) := by
  unfold SlotWrite.Ends at ends
  change region (slot base (k + e.slot) + BitVec.ofNat 32 e.off) e.content.length ⊆ _
  exact placed.region_slots (by omega) (by omega) room

theorem wrote_changes (placed : Placed base) (ends : ∀ e ∈ writes, e.Ends n) (room : k + n ≤ arenaSlots) :
    Changes (slots base k (k + n)) m (wrote base k writes m) := by
  apply Memory.apply_changes
  intro write member
  obtain ⟨e, present, rfl⟩ := List.mem_map.mp member
  exact (placed.write_region (ends e present) room).trans (slots_mono (Nat.le_add_right k e.slot) (Nat.le_refl _))

theorem wrote_later (placed : Placed base) (ends : ∀ e ∈ writes, e.Ends n) (room : k + n ≤ arenaSlots)
    {other : Set (BitVec 32)} : Later base k other m (wrote base k writes m) :=
  (wrote_changes placed ends room).mono
    ((slots_mono (Nat.le_refl k) room).trans Set.subset_union_left)

theorem Zeroed.wrote {l : Nat} (zeroed : Zeroed base l m) (placed : Placed base) (ends : ∀ e ∈ writes, e.Ends n)
    (room : k + n ≤ arenaSlots) (behind : k + n ≤ l) : Zeroed base l (wrote base k writes m) := by
  intro a member
  have outside : a ∉ slots base k (k + n) := Set.disjoint_right.mp (slots_disjoint (.inl behind)) member
  rw [wrote_changes placed ends room a outside]
  exact zeroed a member

theorem wrote_slot (placed : Placed base) (ends : ∀ e ∈ writes, e.Ends n) (room : k + n ≤ arenaSlots)
    (before : ∀ e ∈ writes, e.slot < i → e.Ends i) (inside : i < n) {a : BitVec 32}
    (member : a ∈ slots base (k + i) (k + i + 1)) :
    wrote base k writes m a = wrote base k (writes.filter fun e => e.slot == i) m a := by
  apply Memory.apply_filter
  intro e present other
  have different : e.slot ≠ i := ne_of_beq_false other
  rcases Nat.lt_or_gt_of_ne different with earlier | later
  · have region := placed.write_region (k := k) (before e present earlier) (by omega)
    exact Set.disjoint_right.mp ((slots_disjoint (.inl (Nat.le_refl _))).mono_left region) member
  · have region := placed.write_region (ends e present) room
    exact Set.disjoint_right.mp ((slots_disjoint (.inr (by omega))).mono_left region) member

theorem read_wrote_apart (placed : Placed base) {width off : Nat}
    (apart : ∀ e ∈ writes, 0x400 * i + off + width / 8 ≤ 0x400 * e.slot + e.off ∨
      0x400 * e.slot + e.off + e.content.length ≤ 0x400 * i + off)
    (inside : 0x400 * (k + i) + off + width / 8 < 0x400 * arenaSlots) (ends : ∀ e ∈ writes, e.Ends n)
    (room : k + n < arenaSlots) :
    (wrote base k writes m).read width (slot base (k + i)) off = m.read width (slot base (k + i)) off := by
  induction writes generalizing m with
  | nil => rfl
  | cons e rest ih =>
    have first := apart e (List.mem_cons_self ..)
    have bound := ends e (List.mem_cons_self ..)
    unfold SlotWrite.Ends at bound
    have later := ih (m := m.store (slot base (k + e.slot) + BitVec.ofNat 32 e.off) e.content)
      (fun e member => apart e (List.mem_cons_of_mem _ member)) (fun e member => ends e (List.mem_cons_of_mem _ member))
    exact later.trans (placed.read_store_apart (by omega) inside (by omega))

variable {only : List SlotWrite} (filtered : writes.filter (fun e => e.slot == i) = only) (placed : Placed base)
  (ends : ∀ e ∈ writes, e.Ends n) (room : k + n ≤ arenaSlots) (before : ∀ e ∈ writes, e.slot < i → e.Ends i)
  (inside : i < n)
include filtered placed ends room before inside

theorem read_wrote {width off : Nat} (part : off + width / 8 ≤ 0x400) :
    (wrote base k writes m).read width (slot base (k + i)) off =
      (wrote base k only m).read width (slot base (k + i)) off := by
  rw [← filtered]
  apply Memory.read_congr (by omega)
  intro a member
  apply wrote_slot placed ends room before inside
  exact placed.region_slots (by omega) (by omega) (by omega) member

theorem load_wrote :
    JobDescriptorHeader.load (wrote base k writes m) (slot base (k + i)) =
      JobDescriptorHeader.load (wrote base k only m) (slot base (k + i)) :=
  load_header_congr fun _ _ part => read_wrote filtered placed ends room before inside (by omega)

end Wrote

end Driver
