import Pantry.Driver.Helpers

namespace Driver

open Machine Panwrap Decoder Program

variable {base : BitVec 32} {k : Nat} {m m' : Memory 32}

/-- A job at slot `k`: its header, and the pointer table of a vertex or tiler payload behind it. -/
structure JobLaid (base : BitVec 32) (k : Nat) (header : JobDescriptorHeader) (payload : PayloadVertexTiler32)
    (m : Memory 32) : Prop where
  header : JobDescriptorHeader.load m (slot base k) = header
  pointer : ∀ (i : Nat) value, payload.pointers[i]? = some value →
    m.read 32 (slot base k) (JobDescriptorHeader.size + (Decoder.PayloadVertexTiler32.zeroes + 4 * i)) = value

theorem JobLaid.table {payload : PayloadVertexTiler32} {i : Nat} {value : BitVec 32}
    (member : payload.pointers[i]? = some value) :
    JobDescriptorHeader.size + (Decoder.PayloadVertexTiler32.zeroes + 4 * i) + 32 / 8 ≤ 0x400 := by
  have inside : i < 14 := (List.getElem?_eq_some_iff.mp member).1
  unfold JobDescriptorHeader.size Decoder.PayloadVertexTiler32.zeroes
  omega

theorem JobLaid.keep {header : JobDescriptorHeader} {payload : PayloadVertexTiler32}
    (laid : JobLaid base k header payload m)
    (same : ∀ width off, off + width / 8 ≤ 0x400 → m'.read width (slot base k) off = m.read width (slot base k) off) :
    JobLaid base k header payload m' where
  header := (load_header_congr fun width off part => same width off (by omega)).trans laid.header
  pointer := fun i value member => (same 32 _ (JobLaid.table member)).trans (laid.pointer i value member)

section VertexTiler

variable {tiler : Bool} {imported : BitVec 64} {writeBuffer : BitVec 32} {payload : PayloadVertexTiler32}

section

variable {i : Nat} {only : List SlotWrite}
  (filtered : (vertexTilerWrites tiler imported writeBuffer payload).filter (fun e => e.slot == i) = only)
  (placed : Placed base) (room : k + 9 ≤ arenaSlots) (inside : i < 9)
include filtered placed room inside

theorem read_vertexTiler {width off : Nat} (part : off + width / 8 ≤ 0x400) :
    (wrote base k (vertexTilerWrites tiler imported writeBuffer payload) m).read width (slot base (k + i)) off =
      (wrote base k only m).read width (slot base (k + i)) off :=
  read_wrote filtered placed vertexTilerWrites_small.ends room (vertexTilerWrites_small.before i) inside part

theorem load_vertexTiler :
    JobDescriptorHeader.load (wrote base k (vertexTilerWrites tiler imported writeBuffer payload) m) (slot base (k + i)) =
      JobDescriptorHeader.load (wrote base k only m) (slot base (k + i)) :=
  load_wrote filtered placed vertexTilerWrites_small.ends room (vertexTilerWrites_small.before i) inside

end

theorem vertexTiler_laid (placed : Placed base) (room : k + 9 ≤ arenaSlots) :
    JobLaid base k (vertexTilerHeader tiler) payload
      (wrote base k (vertexTilerWrites tiler imported writeBuffer payload) m) := by
  have packet : (vertexTilerWrites tiler imported writeBuffer payload).filter (fun e => e.slot == 0) = [
      ⟨0, 0, Field.image (headerFields (vertexTilerHeader tiler))⟩,
      ⟨0, JobDescriptorHeader.size, Field.image (Field.array payload.words)⟩] := by
    cases tiler <;> rfl
  have length : (Field.image (Field.array payload.words)).length = 244 := by
    rw [Field.image_length, Field.sizes_array, payload.words_length]
  refine ⟨?_, ?_⟩
  · refine (load_vertexTiler packet placed room (by decide)).trans ?_
    simp only [wrote_store, wrote_nil, Nat.add_zero, BitVec.add_zero]
    rw [load_header_store_behind (by decide) (by rw [length]; decide), load_header_store]
  · intro i value member
    refine (read_vertexTiler packet placed room (by decide) (JobLaid.table member)).trans ?_
    simp only [wrote_store, wrote_nil, Nat.add_zero]
    rw [← Memory.read_part]
    exact read_pointer _ _ payload member

theorem vertexTiler_shader (placed : Placed base) (room : k + 9 ≤ arenaSlots) :
    (wrote base k (vertexTilerWrites tiler imported writeBuffer payload) m).read 64 (slot base (k + 3)) ShaderMeta.shader =
      imported := by
  have filtered : (vertexTilerWrites tiler imported writeBuffer payload).filter (fun e => e.slot == 3) = [
      .assign 3 ShaderMeta.shader imported,
      .assign 3 ShaderMeta.unknown1 (if tiler then 0x0007000000000000#64 else 0x0005000100000000#64),
      .assign 3 ShaderMeta.unknown2 (if tiler then 0x0000000000020602#64 else 0x0000000000420002#64)] := by
    cases tiler <;> rfl
  rw [read_vertexTiler filtered placed room (by decide) (by decide)]
  simp only [wrote_assign, wrote_nil]
  simp (disch := decide) only [Memory.read_write_part, Memory.read_write]

/-- The metadata words: the first is written, the next is zero because nothing was ever written there. -/
theorem vertexTiler_metadata (placed : Placed base) (room : k + 9 ≤ arenaSlots)
    (fresh : ∀ a ∈ slots base (k + 4) (k + 5), m a = 0#8) :
    (wrote base k (vertexTilerWrites tiler imported writeBuffer payload) m).read 64 (slot base (k + 4)) 0 =
        0x2DEA2200#64 ∧
      (wrote base k (vertexTilerWrites tiler imported writeBuffer payload) m).read 64 (slot base (k + 4)) 8 = 0#64 := by
  have filtered : (vertexTilerWrites tiler imported writeBuffer payload).filter (fun e => e.slot == 4) =
      [.assign 4 0 0x2DEA2200#32] := by
    cases tiler <;> rfl
  have behind {off n : Nat} (from4 : 4 ≤ off) (fits : off + n ≤ 0x400) :
      ∀ a ∈ region (slot base (k + 4) + BitVec.ofNat 32 off) n, m.write (slot base (k + 4)) 0 0x2DEA2200#32 a = 0#8 := by
    intro a member
    have apart : a ∉ region (slot base (k + 4) + BitVec.ofNat 32 0) (32 / 8) :=
      Set.disjoint_left.mp (Memory.region_parts_disjoint (.inr from4) (by omega) (by omega)) member
    rw [Memory.write_other apart]
    exact fresh a (placed.region_slots (by omega) (by omega) (by omega) member)
  rw [read_vertexTiler filtered placed room (by decide) (by decide),
    read_vertexTiler filtered placed room (by decide) (by decide)]
  simp only [wrote_assign, wrote_nil]
  refine ⟨?_, Memory.read_zero (by decide) (behind (by decide) (by decide))⟩
  rw [Memory.read_low (by decide) (behind (by decide) (by decide)), Memory.read_write (by decide) (by decide)]
  rfl

end VertexTiler

section Link

def linkWrites (base : BitVec 32) (k : Nat) : List SlotWrite := [
  .assign 0 nextJob ((slot base (k + 1)).setWidth 64),
  .assign 1 nextJob ((slot base (k + 10)).setWidth 64),
  .assign 0 jobIndex 3#16,
  .assign 1 jobIndex 1#16,
  .assign 10 jobIndex 2#16,
  .assign 1 jobDependencyIndex2 3#16,
  .assign 10 jobDependencyIndex1 1#16]

theorem linkWrites_small (n : Nat) : SlotWrite.Small 11 ((linkWrites base k).take n) := by
  intro e member
  have all : SlotWrite.Small 11 (linkWrites base k) := by
    simp [SlotWrite.Small, linkWrites, SlotWrite.assign, SlotWrite.Ends, nextJob, jobIndex, jobDependencyIndex1,
      jobDependencyIndex2]
  exact all e (List.mem_of_mem_take member)

variable {i n : Nat} {only : List SlotWrite}

theorem read_link (filtered : ((linkWrites base k).take n).filter (fun e => e.slot == i) = only) (placed : Placed base)
    (room : k + 11 ≤ arenaSlots) (inside : i < 11) {width off : Nat} (part : off + width / 8 ≤ 0x400) :
    (wrote base k ((linkWrites base k).take n) m).read width (slot base (k + i)) off =
      (wrote base k only m).read width (slot base (k + i)) off :=
  read_wrote filtered placed (linkWrites_small n).ends room ((linkWrites_small n).before i) inside part

theorem linkJobs_meets {d : State} (placed : Placed base) (room : k + 11 ≤ arenaSlots) :
    Meets (linkJobs (slot base k) (slot base (k + 1)) (slot base (k + 10))) d fun events _ d' =>
      events = [] ∧ d' = { d with mem := wrote base k (linkWrites base k) d.mem } := by
  have set : ((linkWrites base k).take 5).filter (fun e => e.slot == 0) =
      [.assign 0 nextJob ((slot base (k + 1)).setWidth 64), .assign 0 jobIndex 3#16] := rfl
  have vertex : ((linkWrites base k).take 6).filter (fun e => e.slot == 1) =
      [.assign 1 nextJob ((slot base (k + 10)).setWidth 64), .assign 1 jobIndex 1#16,
        .assign 1 jobDependencyIndex2 3#16] := rfl
  have first : (wrote base k ((linkWrites base k).take 5) d.mem).read 16 (slot base k) jobIndex = 3#16 := by
    refine (read_link set placed room (by decide) (by decide)).trans ?_
    simp only [wrote_assign, wrote_nil, Nat.add_zero]
    exact Memory.read_write (by decide) (by decide)
  have second : (wrote base k ((linkWrites base k).take 6) d.mem).read 16 (slot base (k + 1)) jobIndex = 1#16 := by
    rw [read_link vertex placed room (by decide) (by decide)]
    simp only [wrote_assign, wrote_nil, jobIndex, jobDependencyIndex2]
    simp (disch := decide) only [Memory.read_write_part, Memory.read_write]
  unfold linkJobs
  iterate 5 rw [meets_assign_bind]
  rw [meets_get_bind]
  change Meets (assign (slot base (k + 1)) jobDependencyIndex2
    ((wrote base k ((linkWrites base k).take 5) d.mem).read 16 (slot base k) jobIndex) >>= fun _ => _)
    { d with mem := wrote base k ((linkWrites base k).take 5) d.mem } _
  rw [first, meets_assign_bind, meets_get_bind]
  change Meets (assign (slot base (k + 10)) jobDependencyIndex1
    ((wrote base k ((linkWrites base k).take 6) d.mem).read 16 (slot base (k + 1)) jobIndex))
    { d with mem := wrote base k ((linkWrites base k).take 6) d.mem } _
  rw [second]
  unfold assign
  rw [meets_modify]
  exact ⟨rfl, rfl⟩

theorem load_link (filtered : (linkWrites base k).filter (fun e => e.slot == i) = only) (placed : Placed base)
    (room : k + 11 ≤ arenaSlots) (inside : i < 11) :
    JobDescriptorHeader.load (wrote base k (linkWrites base k) m) (slot base (k + i)) =
      JobDescriptorHeader.load (wrote base k only m) (slot base (k + i)) :=
  load_wrote filtered placed (linkWrites_small 7).ends room ((linkWrites_small 7).before i) inside

section Headers

variable (placed : Placed base) (room : k + 11 ≤ arenaSlots)
include placed room

theorem set_linked : JobDescriptorHeader.load (wrote base k (linkWrites base k) m) (slot base k) =
    { JobDescriptorHeader.load m (slot base k) with nextJob := (slot base (k + 1)).setWidth 64, jobIndex := 3#16 } := by
  have filtered : (linkWrites base k).filter (fun e => e.slot == 0) =
      [.assign 0 nextJob ((slot base (k + 1)).setWidth 64), .assign 0 jobIndex 3#16] := rfl
  refine (load_link filtered placed room (by decide)).trans ?_
  simp only [wrote_assign, wrote_nil, Nat.add_zero, load_write_jobIndex, load_write_nextJob]

theorem vertex_linked : JobDescriptorHeader.load (wrote base k (linkWrites base k) m) (slot base (k + 1)) =
    { JobDescriptorHeader.load m (slot base (k + 1)) with
      nextJob := (slot base (k + 10)).setWidth 64
      jobIndex := 1#16
      jobDependencyIndex2 := 3#16 } := by
  have filtered : (linkWrites base k).filter (fun e => e.slot == 1) = [
      .assign 1 nextJob ((slot base (k + 10)).setWidth 64), .assign 1 jobIndex 1#16,
      .assign 1 jobDependencyIndex2 3#16] := rfl
  rw [load_link filtered placed room (by decide)]
  simp only [wrote_assign, wrote_nil, load_write_jobDependencyIndex2, load_write_jobIndex, load_write_nextJob]

theorem tiler_linked : JobDescriptorHeader.load (wrote base k (linkWrites base k) m) (slot base (k + 10)) =
    { JobDescriptorHeader.load m (slot base (k + 10)) with jobIndex := 2#16, jobDependencyIndex1 := 1#16 } := by
  have filtered : (linkWrites base k).filter (fun e => e.slot == 10) =
      [.assign 10 jobIndex 2#16, .assign 10 jobDependencyIndex1 1#16] := rfl
  rw [load_link filtered placed room (by decide)]
  simp only [wrote_assign, wrote_nil, load_write_jobDependencyIndex1, load_write_jobIndex]

end Headers

/-- Behind the headers, and in the other slots, nothing is linked. -/
theorem read_linked (placed : Placed base) (room : k + 11 < arenaSlots) {width off : Nat} (inside : i < 11)
    (behind : JobDescriptorHeader.size ≤ off ∨ i ∉ [0, 1, 10]) (part : off + width / 8 ≤ 0x400) :
    (wrote base k (linkWrites base k) m).read width (slot base (k + i)) off = m.read width (slot base (k + i)) off := by
  have heads : ∀ e ∈ linkWrites base k, e.slot ∈ [0, 1, 10] ∧ e.off + e.content.length ≤ JobDescriptorHeader.size := by
    simp [linkWrites, SlotWrite.assign, nextJob, jobIndex, jobDependencyIndex1, jobDependencyIndex2,
      JobDescriptorHeader.size]
  apply read_wrote_apart placed ?_ (by omega) (linkWrites_small 7).ends room
  intro e member
  obtain ⟨head, short⟩ := heads e member
  unfold JobDescriptorHeader.size at behind short
  rcases behind with behind | other
  · omega
  · have different : e.slot ≠ i := fun same => other (same ▸ head)
    omega

theorem JobLaid.linked {header header' : JobDescriptorHeader} {payload : PayloadVertexTiler32}
    (laid : JobLaid base (k + i) header payload m) (placed : Placed base) (room : k + 11 < arenaSlots) (inside : i < 11)
    (head : JobDescriptorHeader.load (wrote base k (linkWrites base k) m) (slot base (k + i)) = header') :
    JobLaid base (k + i) header' payload (wrote base k (linkWrites base k) m) where
  header := head
  pointer := by
    intro j value member
    rw [read_linked placed room inside (.inl (Nat.le_add_right _ _)) (JobLaid.table member)]
    exact laid.pointer j value member

end Link

section Chain

variable {other : Set (BitVec 32)} (placed : Placed base) (room : k + 19 ≤ arenaSlots)
  (apart : Disjoint (slots base 0 arenaSlots) other)
include placed room

section

include apart

theorem set_laid {out : BitVec 64} (later : Later base (k + 1) other (wrote base k (setValueWrites out) m) m') :
    JobDescriptorHeader.load (wrote base k (linkWrites base k) m') (slot base k) =
        { setValueHeader with nextJob := (slot base (k + 1)).setWidth 64, jobIndex := 3#16 } ∧
      (wrote base k (linkWrites base k) m').read 64 (slot base k) JobDescriptorHeader.size = out := by
  have length : (Field.image (setValueFields { out := out, unknown := 3#64 })).length = 16 := by
    simp [Field.sizes, setValueFields, Field.size]
  have payload := read_setValue_out (m.store (slot base k) (Field.image (headerFields setValueHeader)))
    (slot base k + BitVec.ofNat 32 JobDescriptorHeader.size) { out := out, unknown := 3#64 }
  rw [Memory.read_part, Nat.add_zero] at payload
  constructor
  · rw [set_linked placed (by omega), later.load placed apart (by omega) (by omega)]
    simp only [setValueWrites, wrote_store, wrote_nil, Nat.add_zero, BitVec.add_zero]
    rw [load_header_store_behind (by decide) (by rw [length]; decide), load_header_store]
  · have linked : (wrote base k (linkWrites base k) m').read 64 (slot base k) JobDescriptorHeader.size =
        m'.read 64 (slot base k) JobDescriptorHeader.size :=
      read_linked (i := 0) placed (by omega) (by decide) (.inl (Nat.le_refl _)) (by decide)
    rw [linked, later.read placed apart (by omega) (by omega) (by decide)]
    simp only [setValueWrites, wrote_store, wrote_nil, Nat.add_zero, BitVec.add_zero]
    exact payload

variable {imported : BitVec 64} {writeBuffer : BitVec 32} {payload : PayloadVertexTiler32}
  (later : Later base (k + 10) other
    (wrote base (k + 1) (vertexTilerWrites false imported writeBuffer payload) m) m')
include later

theorem vertex_laid :
    JobLaid base (k + 1) { vertexTilerHeader false with
      nextJob := (slot base (k + 10)).setWidth 64
      jobIndex := 1#16
      jobDependencyIndex2 := 3#16 } payload (wrote base k (linkWrites base k) m') := by
  have laid : JobLaid base (k + 1) (vertexTilerHeader false) payload m' :=
    (vertexTiler_laid placed (by omega)).keep fun _ _ part => later.read placed apart (by omega) (by omega) part
  apply laid.linked placed (by omega) (by decide)
  rw [vertex_linked placed (by omega), laid.header]

theorem vertex_shader_laid :
    (wrote base k (linkWrites base k) m').read 64 (slot base (k + 4)) ShaderMeta.shader = imported := by
  have linked : (wrote base k (linkWrites base k) m').read 64 (slot base (k + 4)) ShaderMeta.shader =
      m'.read 64 (slot base (k + 4)) ShaderMeta.shader :=
    read_linked placed (by omega) (by decide) (.inr (by decide)) (by decide)
  rw [linked, later.read placed apart (by omega) (by omega) (by decide)]
  exact vertexTiler_shader placed (by omega)

theorem vertex_metadata_laid (fresh : ∀ a ∈ slots base (k + 5) (k + 6), m a = 0#8) :
    (wrote base k (linkWrites base k) m').read 64 (slot base (k + 5)) 0 = 0x2DEA2200#64 ∧
      (wrote base k (linkWrites base k) m').read 64 (slot base (k + 5)) 8 = 0#64 := by
  have linked (off : Nat) (part : off + 64 / 8 ≤ 0x400) :
      (wrote base k (linkWrites base k) m').read 64 (slot base (k + 5)) off = m'.read 64 (slot base (k + 5)) off :=
    read_linked placed (by omega) (by decide) (.inr (by decide)) part
  rw [linked 0 (by decide), linked 8 (by decide), later.read placed apart (by omega) (by omega) (by decide),
    later.read placed apart (by omega) (by omega) (by decide)]
  exact vertexTiler_metadata placed (by omega) fresh

end

theorem tiler_laid {imported : BitVec 64} {writeBuffer : BitVec 32} {payload : PayloadVertexTiler32} :
    JobLaid base (k + 10) { vertexTilerHeader true with jobIndex := 2#16, jobDependencyIndex1 := 1#16 } payload
      (wrote base k (linkWrites base k)
        (wrote base (k + 10) (vertexTilerWrites true imported writeBuffer payload) m)) := by
  have laid : JobLaid base (k + 10) (vertexTilerHeader true) payload
      (wrote base (k + 10) (vertexTilerWrites true imported writeBuffer payload) m) :=
    vertexTiler_laid placed (by omega)
  apply laid.linked placed (by omega) (by decide)
  rw [tiler_linked placed (by omega), laid.header]

end Chain

end Driver
