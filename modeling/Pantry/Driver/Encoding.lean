import Pantry.Driver.Synthesise

namespace Driver

open Machine Panwrap Decoder Program

section Header

variable {m m' : Memory 32} {p : BitVec 32}

theorem headerFields_size (h : JobDescriptorHeader) :
    (headerFields h).map Field.size = [4, 4, 8, 1, 1, 2, 2, 2, 8] := by
  simp [headerFields, Field.size]

theorem headerFields_sizes (h : JobDescriptorHeader) : Field.sizes (headerFields h) = 32 := by
  rw [Field.sizes, headerFields_size]
  rfl

theorem load_header_congr (same : ∀ width off, off + width / 8 ≤ 32 → m'.read width p off = m.read width p off) :
    JobDescriptorHeader.load m' p = JobDescriptorHeader.load m p := by
  unfold JobDescriptorHeader.load
  rw [same 32 0 (by decide), same 32 4 (by decide), same 64 8 (by decide), same 8 16 (by decide),
    same 8 17 (by decide), same 16 18 (by decide), same 16 20 (by decide), same 16 22 (by decide),
    same 64 24 (by decide)]

theorem load_header_store (m : Memory 32) (p : BitVec 32) (h : JobDescriptorHeader) :
    JobDescriptorHeader.load (m.store p (Field.image (headerFields h))) p = h := by
  have bound : Field.sizes (headerFields h) ≤ 2 ^ 32 := by rw [headerFields_sizes]; decide
  have field (i off : Nat) {width : Nat} {value : BitVec width} (whole : 8 ∣ width)
      (place : ([4, 4, 8, 1, 1, 2, 2, 2, 8].take i).sum = off)
      (member : (headerFields h)[i]? = some ⟨width, value⟩) :
      (m.store p (Field.image (headerFields h))).read width p off = value := by
    refine Memory.read_image m p bound whole ?_ member
    rw [Field.sizes, List.map_take, headerFields_size, place]
  unfold JobDescriptorHeader.load
  rw [field 0 0 (by decide) rfl rfl, field 1 4 (by decide) rfl rfl, field 2 8 (by decide) rfl rfl,
    field 3 16 (by decide) rfl rfl, field 4 17 (by decide) rfl rfl, field 5 18 (by decide) rfl rfl,
    field 6 20 (by decide) rfl rfl, field 7 22 (by decide) rfl rfl, field 8 24 (by decide) rfl rfl]
  have type : (h.jobType ++ h.jobDescriptorSize).extractLsb' 1 7 = h.jobType := by
    exact BitVec.extractLsb'_append_eq_left
  have size : (h.jobType ++ h.jobDescriptorSize).extractLsb' 0 1 = h.jobDescriptorSize := by
    exact BitVec.extractLsb'_append_eq_right
  have barrier : (0#7 ++ h.jobBarrier).extractLsb' 0 1 = h.jobBarrier := by
    exact BitVec.extractLsb'_append_eq_right
  rw [type, size, barrier]

theorem load_write_nextJob (value : BitVec 64) :
    JobDescriptorHeader.load (m.write p nextJob value) p =
      { JobDescriptorHeader.load m p with nextJob := value } := by
  unfold JobDescriptorHeader.load nextJob
  simp (disch := decide) only [Memory.read_write_part, Memory.read_write]

theorem load_write_jobIndex (value : BitVec 16) :
    JobDescriptorHeader.load (m.write p jobIndex value) p =
      { JobDescriptorHeader.load m p with jobIndex := value } := by
  unfold JobDescriptorHeader.load jobIndex
  simp (disch := decide) only [Memory.read_write_part, Memory.read_write]

theorem load_write_jobDependencyIndex1 (value : BitVec 16) :
    JobDescriptorHeader.load (m.write p jobDependencyIndex1 value) p =
      { JobDescriptorHeader.load m p with jobDependencyIndex1 := value } := by
  unfold JobDescriptorHeader.load jobDependencyIndex1
  simp (disch := decide) only [Memory.read_write_part, Memory.read_write]

theorem load_write_jobDependencyIndex2 (value : BitVec 16) :
    JobDescriptorHeader.load (m.write p jobDependencyIndex2 value) p =
      { JobDescriptorHeader.load m p with jobDependencyIndex2 := value } := by
  unfold JobDescriptorHeader.load jobDependencyIndex2
  simp (disch := decide) only [Memory.read_write_part, Memory.read_write]

theorem load_header_store_behind {content : List Byte} {off : Nat} (behind : 32 ≤ off)
    (bound : off + content.length ≤ 2 ^ 32) :
    JobDescriptorHeader.load (m.store (p + BitVec.ofNat 32 off) content) p = JobDescriptorHeader.load m p :=
  load_header_congr fun width place inside => Memory.read_store_part (by omega) (by omega) bound

end Header

section Payloads

variable (m : Memory 32) (p : BitVec 32)

theorem load_setValue_store (s : PayloadSetValue) :
    PayloadSetValue.load (m.store p (Field.image (setValueFields s))) p = s := by
  have sizes : (setValueFields s).map Field.size = [8, 8] := by simp [setValueFields, Field.size]
  have bound : Field.sizes (setValueFields s) ≤ 2 ^ 32 := by
    rw [Field.sizes, sizes]
    decide
  have field (i off : Nat) {width : Nat} {value : BitVec width} (whole : 8 ∣ width)
      (place : ([8, 8].take i).sum = off) (member : (setValueFields s)[i]? = some ⟨width, value⟩) :
      (m.store p (Field.image (setValueFields s))).read width p off = value := by
    refine Memory.read_image m p bound whole ?_ member
    rw [Field.sizes, List.map_take, sizes, place]
  unfold PayloadSetValue.load
  rw [field 0 0 (by decide) rfl rfl, field 1 8 (by decide) rfl rfl]

theorem read_setValue_out (s : PayloadSetValue) : (m.store p (Field.image (setValueFields s))).read 64 p 0 = s.out := by
  have member (m' : Memory 32) : m'.read 64 p 0 = (PayloadSetValue.load m' p).out := rfl
  rw [member, load_setValue_store]

theorem PayloadVertexTiler32.words_length (payload : PayloadVertexTiler32) : payload.words.length = 61 := by
  have pointers : payload.pointers.length = 14 := rfl
  rw [words, List.length_append, List.length_append, payload.block1Length, payload.block2Length, pointers]

theorem PayloadVertexTiler32.words_pointer (payload : PayloadVertexTiler32) {i : Nat} {value : BitVec 32}
    (member : payload.pointers[i]? = some value) : payload.words[11 + i]? = some value := by
  have inside : i < payload.pointers.length := (List.getElem?_eq_some_iff.mp member).1
  have length := payload.block1Length
  rw [words, List.append_assoc, List.getElem?_append_right (by omega), length, Nat.add_sub_cancel_left,
    List.getElem?_append_left inside, member]

/-- The pointers of a stored payload are read back from its pointer table. -/
theorem read_pointer (payload : PayloadVertexTiler32) {i : Nat} {value : BitVec 32}
    (member : payload.pointers[i]? = some value) :
    (m.store p (Field.image (Field.array payload.words))).read 32 p (Decoder.PayloadVertexTiler32.zeroes + 4 * i) =
      value := by
  have bound : 32 / 8 * payload.words.length ≤ 2 ^ 32 := by rw [payload.words_length]; decide
  have read := Memory.read_array m p bound (by decide) (payload.words_pointer member)
  have place : 32 / 8 * (11 + i) = Decoder.PayloadVertexTiler32.zeroes + 4 * i := by
    unfold Decoder.PayloadVertexTiler32.zeroes
    omega
  rwa [place] at read

end Payloads

end Driver
