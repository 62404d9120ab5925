import Pantry.Driver.RoundTrip
import Pantry.Decoder.Vertices
import Pantry.Panwrap.Bounds

namespace Driver

open Machine Panwrap Decoder Program

/-- A vertex of three components, each the 32 bits of a float. -/
structure Point where
  x : BitVec 32
  y : BitVec 32
  z : BitVec 32
  deriving DecidableEq, Repr

namespace Point

def words (p : Point) : List (BitVec 32) := [p.x, p.y, p.z]

def line (p : Point) : Out := .log "\t<%f, %f, %f>,\n" [.float p.x, .float p.y, .float p.z]

theorem words_at {points : List Point} {j c : Nat} {p : Point} {x : BitVec 32} (member : points[j]? = some p)
    (component : p.words[c]? = some x) : (points.flatMap words)[3 * j + c]? = some x := by
  induction points generalizing j with
  | nil => cases member
  | cons first rest ih =>
    have three : c < 3 := (List.getElem?_eq_some_iff.mp component).1
    have length : first.words.length = 3 := rfl
    rw [List.flatMap_cons]
    cases j with
    | zero =>
      cases member
      rw [List.getElem?_append_left (by omega)]
      rwa [Nat.mul_zero, Nat.zero_add]
    | succ j =>
      have back : 3 * (j + 1) + c - first.words.length = 3 * j + c := by omega
      rw [List.getElem?_append_right (by omega), back]
      exact ih member

theorem words_length (points : List Point) : (points.flatMap words).length = 3 * points.length := by
  induction points with
  | nil => rfl
  | cons first rest ih =>
    rw [List.flatMap_cons, List.length_append, ih, List.length_cons, words]
    show 3 + 3 * rest.length = _
    omega

end Point

section Fetch

variable {env : Env 32} {base : BitVec 32} {i n : Nat} (placed : Placed base) (resolves : ArenaResolves env base)
include placed resolves

/-- Also an empty object is found at its place. -/
theorem fetch_slot_any (positive : 0 < i) (inside : i < arenaSlots) (fits : 0x400 * i + n ≤ 0x400 * arenaSlots) :
    fetchMappedGpu env.mmaps ((slot base i).setWidth 64) (BitVec.ofNat 32 n) = slot base i := by
  cases n with
  | succ n => exact fetch_slot placed resolves positive n.succ_pos fits
  | zero =>
    have byte : fetchMappedGpu env.mmaps ((slot base i).setWidth 64) (BitVec.ofNat 32 1) = slot base i :=
      fetch_slot placed resolves positive Nat.one_pos (by omega)
    have hit : fetchMappedGpu env.mmaps ((slot base i).setWidth 64) (BitVec.ofNat 32 1) ≠ 0#32 := by
      rw [byte]
      exact placed.slot_ne_zero positive inside
    obtain ⟨m, first, nonnull, -, value⟩ := fetch_nonnull (by decide) hit
    obtain ⟨low, high, -⟩ := gpuContains_bounds (by decide) first.1
    refine (fetch_of_first (by decide) first nonnull ?_).trans (value.symm.trans byte)
    have stop : m.gpuSpan.stop = m.gpuVa.toNat + m.length.toNat := rfl
    rw [stop] at high
    rw [offset_toNat low, BitVec.toNat_ofNat]
    omega

end Fetch

section Upload

variable {base : BitVec 32} {k : Nat} {d : State} {vertices : Buffer} {points : List Point}

/-- What `upload_vertices` writes once the vertices are copied. -/
def recordWrites (verts size : BitVec 32) (elements : BitVec 64) : List SlotWrite :=
  (verticesWrites verts size [] elements).tail

theorem recordWrites_ends {verts size : BitVec 32} {elements : BitVec 64} :
    ∀ e ∈ recordWrites verts size elements, e.Ends 1 := by
  simp only [recordWrites, verticesWrites, List.tail_cons, List.forall_mem_cons, SlotWrite.assign_ends]
  refine ⟨?_, ?_, ?_, ?_, fun _ none => absurd none List.not_mem_nil⟩ <;> decide

theorem wrote_vertices {size : BitVec 32} {content : List Byte} {elements : BitVec 64} (m : Memory 32) :
    wrote base k (verticesWrites (slot base (k + 1)) size content elements) m =
      wrote base k (recordWrites (slot base (k + 1)) size elements) (m.store (slot base (k + 1)) content) := by
  have start : slot base (k + 1) + BitVec.ofNat 32 0 = slot base (k + 1) := BitVec.add_zero _
  rw [verticesWrites, wrote_store, start]
  rfl

/-- The words of the array are where `upload_vertices` copied them. -/
theorem read_uploaded (placed : Placed base) (room : k + (2 + vertices.kilobytes) ≤ arenaSlots)
    (content : vertices.bytes = Field.image (Field.array (points.flatMap Point.words))) {elements : BitVec 64}
    (m : Memory 32) {j c : Nat} {p : Point} {x : BitVec 32} (member : points[j]? = some p)
    (component : p.words[c]? = some x) :
    (wrote base k (verticesWrites (slot base (k + 1)) vertices.size vertices.bytes elements) m).read 32
      (slot base (k + 1)) (12 * j + 4 * c) = x := by
  have found := Point.words_at member component
  have before : 3 * j + c < (points.flatMap Point.words).length := (List.getElem?_eq_some_iff.mp found).1
  have length : vertices.bytes.length = 4 * (points.flatMap Point.words).length := by
    rw [content, Field.image_length, Field.sizes_array]
  have kilobytes : vertices.kilobytes = vertices.bytes.length / 0x400 := rfl
  have fits := vertices.fits
  have place : 12 * j + 4 * c = 32 / 8 * (3 * j + c) := by omega
  rw [place, wrote_vertices, read_wrote_apart (n := 1) placed]
  · rw [content]
    exact Memory.read_array m (slot base (k + 1)) (by omega) (by decide) found
  · simp only [recordWrites, verticesWrites, List.tail_cons, List.forall_mem_cons, SlotWrite.assign, leBytes_length]
    refine ⟨.inr ?_, .inr ?_, .inr ?_, .inr ?_, fun _ none => absurd none List.not_mem_nil⟩ <;> omega
  · omega
  · exact recordWrites_ends
  · omega

/-- The line of each vertex shows the three words that the array has for it. -/
theorem vecLine_uploaded (placed : Placed base) (room : k + (2 + vertices.kilobytes) ≤ arenaSlots)
    (content : vertices.bytes = Field.image (Field.array (points.flatMap Point.words))) {elements : BitVec 64}
    (m : Memory 32) {j : Nat} {p : Point} (member : points[j]? = some p) :
    vecLine (wrote base k (verticesWrites (slot base (k + 1)) vertices.size vertices.bytes elements) m)
      (vertexAddress (slot base (k + 1)) 3#32 j) 3#32 = p.line := by
  have read (c : Nat) (x : BitVec 32) (component : p.words[c]? = some x) :
      (wrote base k (verticesWrites (slot base (k + 1)) vertices.size vertices.bytes elements) m).read 32
        (vertexAddress (slot base (k + 1)) 3#32 j) (4 * c) = x := by
    rw [vertexAddress, Memory.read_part]
    exact read_uploaded placed room content m member component
  show Out.log "\t<%f, %f, %f>,\n" [.float (Memory.read _ 32 _ (4 * 0)), .float (Memory.read _ 32 _ (4 * 1)),
    .float (Memory.read _ 32 _ (4 * 2))] = _
  rw [read 0 p.x rfl, read 1 p.y rfl, read 2 p.z rfl]
  rfl

theorem lines_uploaded {points : List Point} {f : Nat → Out} (each : ∀ j p, points[j]? = some p → f j = p.line) :
    (List.range points.length).map f = points.map Point.line := by
  apply List.ext_getElem?
  intro j
  rw [List.getElem?_map, List.getElem?_map]
  cases member : points[j]? with
  | none =>
    have past : points.length ≤ j := List.getElem?_eq_none_iff.mp member
    rw [List.getElem?_eq_none (by rwa [List.length_range])]
    rfl
  | some p =>
    have before : j < points.length := (List.getElem?_eq_some_iff.mp member).1
    rw [List.getElem?_range before, Option.map_some, each j p member]
    rfl

theorem bytes_uploaded (placed : Placed base) (room : k + (2 + vertices.kilobytes) ≤ arenaSlots) {elements : BitVec 64}
    (m : Memory 32) :
    (wrote base k (verticesWrites (slot base (k + 1)) vertices.size vertices.bytes elements) m).bytes
      (slot base (k + 1)) vertices.bytes.length = vertices.bytes := by
  have kilobytes : vertices.kilobytes = vertices.bytes.length / 0x400 := rfl
  have fits := vertices.fits
  have changes : Changes (slots base k (k + 1)) (m.store (slot base (k + 1)) vertices.bytes)
      (wrote base k (recordWrites (slot base (k + 1)) vertices.size elements)
        (m.store (slot base (k + 1)) vertices.bytes)) := wrote_changes placed recordWrites_ends (by omega)
  have start : slot base (k + 1) + BitVec.ofNat 32 0 = slot base (k + 1) := BitVec.add_zero _
  rw [wrote_vertices, changes.bytes fits.le, Memory.bytes_store_same m _ fits.le]
  apply Disjoint.mono_left _ (slots_disjoint (j := k + 1) (k := arenaSlots) (.inr (Nat.le_refl _)))
  rw [← start]
  exact placed.region_slots (by omega) (by omega) (by omega)

/-- The record that `upload_vertices` leaves at slot `k`. -/
def uploadedBuffer (base : BitVec 32) (k : Nat) (vertices : Buffer) : AttributeBuffer 32 :=
  ⟨(slot base (k + 1)).setWidth 64 ||| 1#64, BitVec.ofNat 32 (4 * xyzComponentCount), vertices.size⟩

theorem attributeData_uploaded (placed : Placed base) (inside : k + 1 < arenaSlots) :
    attributeData (uploadedBuffer base k vertices) = (slot base (k + 1)).setWidth 64 := attributeData_slot placed inside

theorem components_uploaded : (uploadedBuffer base k vertices).elementSize / 4#32 = 3#32 := by
  show BitVec.ofNat 32 (4 * xyzComponentCount) / 4#32 = 3#32
  decide

theorem attributeHeader_uploaded (placed : Placed base) (inside : k + 1 < arenaSlots) :
    attributeHeader (uploadedBuffer base k vertices) =
      .log "attribute vec%zu mem%PRIX64flag%PRIX64 = \x7b\n" [.nat 3, .nat (slot base (k + 1)).toNat, .nat 1] := by
  have aligned := slot_aligned placed inside
  have value : ((slot base (k + 1)).setWidth 64).toNat = (slot base (k + 1)).toNat :=
    BitVec.toNat_setWidth_of_le (by decide)
  have tag : ((slot base (k + 1)).setWidth 64 ||| 1#64) ^^^ (slot base (k + 1)).setWidth 64 = 1#64 :=
    xor_tag (n := 1) (by omega) (by decide)
  rw [attributeHeader, components_uploaded, attributeData_uploaded placed inside, value, uploadedBuffer, tag]
  rfl

theorem count_uploaded {n : Nat} (length : vertices.bytes.length = 12 * n) :
    ((uploadedBuffer base k vertices).totalSize / (uploadedBuffer base k vertices).elementSize).toNat = n := by
  rw [BitVec.toNat_udiv, uploadedBuffer, vertices.size_toNat, length]
  show 12 * n / 12 = n
  omega

/-- `chai_trace_attribute` shows of what `upload_vertices` returns the vertices that were uploaded. -/
theorem uploaded_vertices_traced (cursor : Cursor base k d.cbmaBottom) (started : 0 < k)
    (room : k + (2 + vertices.kilobytes) ≤ arenaSlots)
    (content : vertices.bytes = Field.image (Field.array (points.flatMap Point.words))) :
    Meets (uploadVertices vertices) d fun _ vb d' => vb = slot base k ∧
      d'.mem.bytes (slot base (k + 1)) vertices.bytes.length = vertices.bytes ∧
      ∀ env rands, ArenaResolves env base → ∃ t, Converges (fun n => chaiTraceAttribute env n (vb.setWidth 64))
        ⟨d'.mem, rands⟩
        (.log "attribute vec%zu mem%PRIX64flag%PRIX64 = \x7b\n" [.nat 3, .nat (slot base (k + 1)).toNat, .nat 1] ::
          (points.map Point.line ++ [.log "\x7d\n" []])) () t := by
  have placed := cursor.placed
  have length : vertices.bytes.length = 12 * points.length := by
    rw [content, Field.image_length, Field.sizes_array, Point.words_length]
    omega
  have kilobytes : vertices.kilobytes = vertices.bytes.length / 0x400 := rfl
  have fits := vertices.fits
  apply (uploadVertices_meets cursor room).mono
  intro _ vb d' met
  obtain ⟨rfl, -, wrote⟩ := met
  refine ⟨rfl, ?_, ?_⟩
  · rw [wrote]
    exact bytes_uploaded placed room d.mem
  · intro env rands resolves
    have found : fetchMappedGpu env.mmaps ((slot base k).setWidth 64) (BitVec.ofNat 32 (AttributeBuffer.size 32)) =
        slot base k := fetch_slot placed resolves started (by decide) (by unfold AttributeBuffer.size; omega)
    have record : Mapped env ((slot base k).setWidth 64) (BitVec.ofNat 32 (AttributeBuffer.size 32)) := by
      rw [Mapped, found]
      exact placed.slot_ne_zero started (by omega)
    have buffer : attributeBuffer env d'.mem ((slot base k).setWidth 64) = uploadedBuffer base k vertices := by
      rw [attributeBuffer, found, wrote]
      exact load_uploaded placed room d.mem
    have data : attributeData (uploadedBuffer base k vertices) = (slot base (k + 1)).setWidth 64 :=
      attributeData_uploaded placed (by omega)
    have place : dataPointer env (uploadedBuffer base k vertices) = slot base (k + 1) := by
      rw [dataPointer, data]
      exact fetch_slot_any placed resolves k.succ_pos (by omega) (by omega)
    have nonnull := placed.slot_ne_zero k.succ_pos (show k + 1 < arenaSlots by omega)
    have mapped : Mapped env (attributeData (uploadedBuffer base k vertices)) (uploadedBuffer base k vertices).totalSize := by
      show dataPointer env (uploadedBuffer base k vertices) ≠ 0#32
      rw [place]
      exact nonnull
    have count : ((uploadedBuffer base k vertices).totalSize / (uploadedBuffer base k vertices).elementSize).toNat =
        points.length := count_uploaded length
    have traced := converges_chaiTraceAttribute env record buffer (by exact (by decide : 12#32 ≠ 0#32))
      (fun _ => mapped) (by rw [count]; omega) (s := ⟨d'.mem, rands⟩)
    have lines : vertexLines env 3#32 points.length (slot base (k + 1)) ⟨d'.mem, rands⟩ = points.map Point.line := by
      rw [vertexLines_original env _ _ (by decide) (by decide) _ (by show points.length * 12 ≤ _; omega)]
      apply lines_uploaded
      intro j p member
      rw [wrote]
      exact vecLine_uploaded placed room content d.mem member
    rw [fetchLog_of_mapped record, fetchLog_of_mapped mapped, attributeHeader_uploaded placed (by omega), count, place,
      components_uploaded, lines] at traced
    exact ⟨_, traced⟩

def twoPoints : List Point := [⟨0x3F800000#32, 0x40000000#32, 0x40400000#32⟩, ⟨0xBF800000#32, 0x00000000#32, 0x7FC00001#32⟩]

def twoPointsArray : Buffer := ⟨Field.image (Field.array (twoPoints.flatMap Point.words)), by decide⟩

theorem two_points_traced :
    ∃ events d' t, Runs (uploadVertices twoPointsArray) initialised events 0x11000400#32 d' ∧
      Converges (fun n => chaiTraceAttribute { tracedMappings with flare := fun _ word => word + 1#32 } n
        0x11000400#64) ⟨d'.mem, 0⟩
        [.log "attribute vec%zu mem%PRIX64flag%PRIX64 = \x7b\n" [.nat 3, .nat 0x11000800, .nat 1],
          .log "\t<%f, %f, %f>,\n" [.float 0x3F800000#32, .float 0x40000000#32, .float 0x40400000#32],
          .log "\t<%f, %f, %f>,\n" [.float 0xBF800000#32, .float 0x00000000#32, .float 0x7FC00001#32],
          .log "\x7d\n" []] () t := by
  have content : twoPointsArray.bytes = Field.image (Field.array (twoPoints.flatMap Point.words)) := rfl
  have meets : Meets (uploadVertices twoPointsArray) initialised _ :=
    uploaded_vertices_traced initialised_arena.cursor (by decide) (by decide) content
  obtain ⟨events, vb, d', runs, rfl, -, traced⟩ := meets
  obtain ⟨t, converges⟩ := traced { tracedMappings with flare := fun _ word => word + 1#32 } 0 tracedMappings_arena
  exact ⟨events, d', t, runs, converges⟩

end Upload

end Driver
