import Pantry.Decoder.Attributes
import Pantry.Machine.Frame

namespace Decoder

open Machine Panwrap Program

variable {w : Nat}

section Lines

/-- The formats of the lines that `chai_trace_vecN` logs. -/
def vecFormats : List String :=
  ["\t<%f>,\n", "\t<%f, %f>,\n", "\t<%f, %f, %f>,\n", "\t<%f, %f, %f, %f>,\n", "Cannot print vec%zu\n"]

def isVertexLine : Out → Bool
  | .log format _ => vecFormats.contains format
  | _ => false

theorem vecLine_isVertexLine (m : Memory w) (p count : BitVec w) : isVertexLine (vecLine m p count) = true := by
  unfold vecLine
  split <;> simp [isVertexLine, vecFormats]

variable (env : Env w) (v vertexCount componentCount : BitVec w)

theorem vertexLines_length (n : Nat) (p : BitVec w) (s : Proc w) :
    (vertexLines env componentCount n p s).length = n := by
  induction n generalizing p s with
  | zero => rfl
  | succ n ih => rw [vertexLines, List.length_cons, ih]

theorem vertexLines_all (n : Nat) (p : BitVec w) (s : Proc w) :
    ∀ item ∈ vertexLines env componentCount n p s, isVertexLine item = true := by
  induction n generalizing p s with
  | zero =>
    intro item member
    cases member
  | succ n ih =>
    intro item member
    rcases List.mem_cons.mp member with rfl | member
    · exact vecLine_isVertexLine s.mem p componentCount
    · exact ih _ _ item member

theorem filter_vertexLines (n : Nat) (p : BitVec w) (s : Proc w) :
    (vertexLines env componentCount n p s).filter isVertexLine = vertexLines env componentCount n p s :=
  List.filter_eq_self.mpr (vertexLines_all env componentCount n p s)

variable {env v vertexCount componentCount}

theorem round_traceVertex {i : BitVec 32} {p : BitVec w} {s t : Proc w} {out : List Out} {next : BitVec 32 × BitVec w}
    (round : Converges (fun n => traceVertex env v vertexCount componentCount n (i, p)) s out (some next) t) :
    i.toNat < vertexCount.toNat ∧ out = [vecLine s.mem p componentCount] ∧
      next = (i + 1#32, p + componentCount * 4#w) ∧ t = flareVertex env p s := by
  obtain ⟨fuel, runs⟩ := round
  by_cases more : i.toNat < vertexCount.toNat
  · by_cases null : v = 0#w
    · have faults := (checked_traceVertex env v vertexCount componentCount p s fuel more).faults (not_not.mpr null)
      exact absurd faults runs.not_faults
    · obtain ⟨rfl, same, rfl⟩ := runs.unique (runs_traceVertex null p s fuel more)
      cases same
      exact ⟨more, rfl, rfl, rfl⟩
  · obtain ⟨-, same, -⟩ := runs.unique (runs_traceVertex_last p s fuel more)
    cases same

theorem path_traceVertex {s t : Proc w} {now next : BitVec 32 × BitVec w} {path : List (BitVec 32 × BitVec w)}
    {out : List Out} (rounds : Path (traceVertex env v vertexCount componentCount) s now path out t next) :
    out = vertexLines env componentCount path.length now.2 s ∧
      t = flareVertices env componentCount path.length now.2 s := by
  induction rounds with
  | nil => exact ⟨rfl, rfl⟩
  | cons first _ ih =>
    obtain ⟨-, rfl, rfl, rfl⟩ := round_traceVertex first
    obtain ⟨rfl, rfl⟩ := ih
    exact ⟨rfl, rfl⟩

theorem path_length_le {s t : Proc w} {now next : BitVec 32 × BitVec w} {path : List (BitVec 32 × BitVec w)}
    {out : List Out} (rounds : Path (traceVertex env v vertexCount componentCount) s now path out t next)
    (small : vertexCount.toNat < 2 ^ 32) (start : now.1.toNat ≤ vertexCount.toNat) :
    now.1.toNat + path.length ≤ vertexCount.toNat := by
  induction rounds with
  | nil => exact start
  | cons first _ ih =>
    obtain ⟨more, -, rfl, -⟩ := round_traceVertex first
    have step := ih (by dsimp only; bv_omega)
    rw [List.length_cons]
    dsimp only at step more ⊢
    bv_omega

end Lines

section Places

/-- The address of the `k`-th vertex, and below the bytes that are its components. -/
def vertexAddress (v componentCount : BitVec w) (k : Nat) : BitVec w :=
  v + BitVec.ofNat w (4 * componentCount.toNat * k)

def vertexBytes (v componentCount : BitVec w) (k : Nat) : Set (BitVec w) :=
  region (vertexAddress v componentCount k) (4 * componentCount.toNat)

variable (env : Env w) (v componentCount : BitVec w)

@[simp] theorem vertexAddress_zero : vertexAddress v componentCount 0 = v := by
  rw [vertexAddress, Nat.mul_zero]
  exact BitVec.add_zero v

theorem add_components (p : BitVec w) : p + componentCount * 4#w = p + BitVec.ofNat w (4 * componentCount.toNat) := by
  have count : componentCount = BitVec.ofNat w componentCount.toNat := by
    rw [BitVec.ofNat_toNat, BitVec.setWidth_eq]
  conv_lhs => rw [count, ← BitVec.ofNat_mul]
  rw [Nat.mul_comm]

theorem vertexAddress_next (k : Nat) :
    vertexAddress v componentCount k + componentCount * 4#w = vertexAddress v componentCount (k + 1) := by
  rw [add_components, vertexAddress, vertexAddress, BitVec.add_assoc, ← BitVec.ofNat_add, Nat.mul_succ]

theorem vertexAddress_shift (k : Nat) :
    vertexAddress (v + componentCount * 4#w) componentCount k = vertexAddress v componentCount (k + 1) := by
  rw [add_components, vertexAddress, vertexAddress, BitVec.add_assoc, ← BitVec.ofNat_add, Nat.mul_succ, Nat.add_comm]

/-- The last vertex is the last to change. -/
theorem flareVertices_succ (n : Nat) (s : Proc w) :
    flareVertices env componentCount (n + 1) v s =
      flareVertex env (vertexAddress v componentCount n) (flareVertices env componentCount n v s) := by
  induction n generalizing v s with
  | zero => rw [vertexAddress_zero]; rfl
  | succ n ih =>
    rw [flareVertices, ih, vertexAddress_shift]
    rfl

theorem vertexBytes_subset {n k : Nat} {total : Nat} (before : k < n) (fits : n * (4 * componentCount.toNat) ≤ total) :
    vertexBytes v componentCount k ⊆ region v total := by
  have next : (k + 1) * (4 * componentCount.toNat) ≤ n * (4 * componentCount.toNat) :=
    Nat.mul_le_mul_right _ before
  apply region_subset v
  rw [Nat.mul_comm (4 * componentCount.toNat) k, ← Nat.succ_mul]
  exact next.trans fits

theorem flareVertices_changes_seen (wide : 3 ≤ componentCount.toNat) (n : Nat) (s : Proc w) :
    Changes {a | ∃ k < n, a ∈ vertexBytes v componentCount k} s.mem
      (flareVertices env componentCount n v s).mem := by
  induction n with
  | zero => exact Changes.refl _ s.mem
  | succ n ih =>
    rw [flareVertices_succ]
    have last := flareVertex_changes env (vertexAddress v componentCount n) (flareVertices env componentCount n v s)
    have own : region (vertexAddress v componentCount n) 12 ⊆ vertexBytes v componentCount n := region_mono _ (by omega)
    apply (ih.mono _).trans (last.mono _)
    · intro a seen
      obtain ⟨k, before, member⟩ := seen
      exact ⟨k, by omega, member⟩
    · intro a member
      exact ⟨n, Nat.lt_succ_self n, own member⟩

theorem vertexLines_succ (n : Nat) (s : Proc w) :
    vertexLines env componentCount (n + 1) v s = vertexLines env componentCount n v s ++
      [vecLine (flareVertices env componentCount n v s).mem (vertexAddress v componentCount n) componentCount] := by
  induction n generalizing v s with
  | zero => rw [vertexAddress_zero]; rfl
  | succ n ih =>
    rw [vertexLines, ih, vertexAddress_shift]
    rfl

theorem vecLine_congr {m m' : Memory w} {p : BitVec w} (bound : 4 ≤ 2 ^ w)
    (same : ∀ a ∈ region p (4 * componentCount.toNat), m a = m' a) :
    vecLine m p componentCount = vecLine m' p componentCount := by
  have read : ∀ n format, n ≤ componentCount.toNat →
      Out.log format ((List.range n).map fun k => .float (m.read 32 p (4 * k))) =
        Out.log format ((List.range n).map fun k => .float (m'.read 32 p (4 * k))) := by
    intro n format small
    congr 1
    apply List.map_congr_left
    intro k member
    have part := List.mem_range.mp member
    rw [Memory.read_congr bound fun a inside => same a (region_subset p (by omega) inside)]
  unfold vecLine
  split
  · exact read 1 _ (by omega)
  · exact read 2 _ (by omega)
  · exact read 3 _ (by omega)
  · exact read 4 _ (by omega)
  · rfl

theorem vertexBytes_apart {k n : Nat} (before : k < n) (fits : (n + 1) * (4 * componentCount.toNat) ≤ 2 ^ w) :
    Disjoint (vertexBytes v componentCount n) (vertexBytes v componentCount k) := by
  have order : (k + 1) * (4 * componentCount.toNat) ≤ n * (4 * componentCount.toNat) := Nat.mul_le_mul_right _ before
  rw [Nat.succ_mul] at order fits
  unfold vertexBytes vertexAddress
  rw [Nat.mul_comm (4 * componentCount.toNat) n, Nat.mul_comm (4 * componentCount.toNat) k]
  exact Memory.region_parts_disjoint (.inr (by omega)) (by omega) (by omega)

/-- The flare given to earlier vertices does not show in the line of a later one. -/
theorem vertexLines_original (bound : 4 ≤ 2 ^ w) (wide : 3 ≤ componentCount.toNat) (n : Nat)
    (fits : n * (4 * componentCount.toNat) ≤ 2 ^ w) (s : Proc w) :
    vertexLines env componentCount n v s =
      (List.range n).map fun k => vecLine s.mem (vertexAddress v componentCount k) componentCount := by
  induction n with
  | zero => rfl
  | succ n ih =>
    have fewer : n * (4 * componentCount.toNat) ≤ 2 ^ w := (Nat.mul_le_mul_right _ n.le_succ).trans fits
    have last : vecLine (flareVertices env componentCount n v s).mem (vertexAddress v componentCount n) componentCount =
        vecLine s.mem (vertexAddress v componentCount n) componentCount := by
      apply vecLine_congr _ bound
      intro a member
      apply flareVertices_changes_seen env v componentCount wide n s
      intro seen
      obtain ⟨k, before, earlier⟩ := seen
      exact Set.disjoint_left.mp (vertexBytes_apart v componentCount before fits) member earlier
    rw [vertexLines_succ, ih fewer, last, List.range_succ, List.map_append]
    rfl

end Places

section Within

/-- The process with the bytes of its own memory in `R` and those of `other` elsewhere. -/
noncomputable def Proc.within (R : Set (BitVec w)) (other : Memory w) (s : Proc w) : Proc w :=
  { s with mem := Memory.overlay R other s.mem }

/-- Bytes outside of `R` have no influence on what `p` does from `s`, and it leaves them alone. -/
def Confined {α : Type} (R : Set (BitVec w)) (p : Decode w α) (s : Proc w) : Prop :=
  ∀ other : Memory w, Commutes (Proc.within R other) p s

variable {α : Type} {R : Set (BitVec w)} {other : Memory w} {s t : Proc w} {p : BitVec w}

theorem Confined.changes {q : Decode w α} {out : List Out} {a : α} (confined : Confined R q s)
    (runs : q.Runs s out a t) : Changes R s.mem t.mem := by
  intro x outside
  have again := (confined s.mem).runs runs
  have same : Proc.within R s.mem s = s := by rw [Proc.within, Memory.overlay_self]
  rw [same] at again
  obtain ⟨-, -, left⟩ := runs.unique again
  rw [left]
  exact Memory.overlay_outside outside

theorem commutes_log {format : String} {args : List Arg} :
    Commutes (Proc.within R other) (panwrapLog format args : Decode w Unit) s := commutes_put

theorem commutes_fetch {env : Env w} {address : BitVec 64} {sz : BitVec w} :
    Commutes (Proc.within R other) (fetch env address sz) s := rfl

theorem commutes_deref {f : Memory w → α} (same : f (Memory.overlay R other s.mem) = f s.mem) :
    Commutes (Proc.within R other) (deref p f) s := by
  unfold Commutes deref
  by_cases null : p = 0#w
  · rw [if_pos null, if_pos null]
    rfl
  · rw [if_neg null, if_neg null, Proc.within, same]
    rfl

theorem flareWord_within (env : Env w) {off : Nat} (bound : 4 ≤ 2 ^ w)
    (inside : region (p + BitVec.ofNat w off) 4 ⊆ R) :
    flareWord env p off (s.within R other) = (flareWord env p off s).within R other := by
  unfold flareWord Proc.within
  dsimp only
  rw [Memory.read_overlay bound inside, Memory.write_overlay inside]

theorem flareVertex_within (env : Env w) (bound : 4 ≤ 2 ^ w) (inside : region p 12 ⊆ R) :
    flareVertex env p (s.within R other) = (flareVertex env p s).within R other := by
  have first : region (p + BitVec.ofNat w 0) 4 ⊆ R := (region_subset p (by decide)).trans inside
  have second : region (p + BitVec.ofNat w 4) 4 ⊆ R := (region_subset p (by decide)).trans inside
  have third : region (p + BitVec.ofNat w 8) 4 ⊆ R := (region_subset p (by decide)).trans inside
  unfold flareVertex
  rw [flareWord_within env bound first, flareWord_within env bound second, flareWord_within env bound third]

theorem commutes_chaiTraceVecN {v count : BitVec w} (bound : 4 ≤ 2 ^ w) (inside : region p (4 * count.toNat) ⊆ R) :
    Commutes (Proc.within R other) (chaiTraceVecN v p count) s := by
  have printed : ∀ n format, n ≤ count.toNat → Commutes (Proc.within R other) (do
      let args ← deref v fun m => (List.range n).map fun k => Arg.float (m.read 32 p (4 * k))
      panwrapLog format args) s := by
    intro n format small
    apply (commutes_deref _).bind
    · intro _ _ _ _
      exact commutes_log
    · apply List.map_congr_left
      intro k member
      have part := List.mem_range.mp member
      rw [Memory.read_overlay bound ((region_subset p (by omega)).trans inside)]
  unfold chaiTraceVecN
  split
  · exact printed 1 _ (by omega)
  · exact printed 2 _ (by omega)
  · exact printed 3 _ (by omega)
  · exact printed 4 _ (by omega)
  · exact commutes_log

end Within

section Attribute

variable (env : Env w)

def attributeHeader (b : AttributeBuffer w) : Out :=
  .log "attribute vec%zu mem%PRIX64flag%PRIX64 = \x7b\n"
    [.nat (b.elementSize / 4#w).toNat, .nat (attributeData b).toNat, .nat (b.elements ^^^ attributeData b).toNat]

def attributePointer (address : BitVec 64) : BitVec w :=
  fetchMappedGpu env.mmaps address (BitVec.ofNat w (AttributeBuffer.size w))

def dataPointer (b : AttributeBuffer w) : BitVec w := fetchMappedGpu env.mmaps (attributeData b) b.totalSize

theorem converges_chaiTraceAttribute {s : Proc w} {address : BitVec 64} {b : AttributeBuffer w}
    (record : Mapped env address (BitVec.ofNat w (AttributeBuffer.size w)))
    (found : attributeBuffer env s.mem address = b) (sized : b.elementSize ≠ 0#w)
    (data : b.totalSize / b.elementSize ≠ 0#w → dataPointer env b ≠ 0#w)
    (small : (b.totalSize / b.elementSize).toNat < 2 ^ 32) :
    Converges (fun n => chaiTraceAttribute env n address) s
      (fetchMappedGpuLog env.mmaps address (BitVec.ofNat w (AttributeBuffer.size w)) ++
        (fetchMappedGpuLog env.mmaps (attributeData b) b.totalSize ++
          (attributeHeader b :: (vertexLines env (b.elementSize / 4#w) (b.totalSize / b.elementSize).toNat
            (dataPointer env b) s ++ [.log "\x7d\n" []])))) ()
      (flareVertices env (b.elementSize / 4#w) (b.totalSize / b.elementSize).toNat (dataPointer env b) s) := by
  have present : 0 < (b.totalSize / b.elementSize).toNat → dataPointer env b ≠ 0#w :=
    fun some => data (positive_of_ne_zero.mp some)
  have visits : Converges (fun fuel => loop (traceVertex env (dataPointer env b) (b.totalSize / b.elementSize)
      (b.elementSize / 4#w)) fuel (0#32, dataPointer env b)) s _ () _ :=
    converges_vertices_from _ (dataPointer env b) s present
      (by rw [BitVec.toNat_ofNat, Nat.zero_mod, Nat.zero_add]) small
  obtain ⟨fuel, vertices⟩ := visits
  have nonnull : attributePointer env address ≠ 0#w := record
  have load : (deref (attributePointer env address) fun m => AttributeBuffer.load m (attributePointer env address)).Runs
      s [] b s := by
    rw [← found]
    exact runs_deref nonnull _
  have first : (fetch env address (BitVec.ofNat w (AttributeBuffer.size w))).Runs s
      (fetchMappedGpuLog env.mmaps address (BitVec.ofNat w (AttributeBuffer.size w))) (attributePointer env address) s :=
    rfl
  have second : (fetch env (attributeData b) b.totalSize).Runs s
      (fetchMappedGpuLog env.mmaps (attributeData b) b.totalSize) (dataPointer env b) s := rfl
  have header : (panwrapLog "attribute vec%zu mem%PRIX64flag%PRIX64 = \x7b\n" [.nat (b.elementSize / 4#w).toNat,
      .nat (attributeData b).toNat, .nat (b.elements ^^^ attributeData b).toNat] : Decode w Unit).Runs s
      [attributeHeader b] () s := rfl
  refine ⟨fuel, ?_⟩
  unfold chaiTraceAttribute
  apply first.bind
  rw [whenever, if_pos nonnull]
  apply load.bind
  rw [if_neg sized]
  exact second.bind (header.bind (vertices.bind rfl))

end Attribute

section Inside

variable {R : Set (BitVec w)} {s : Proc w} {v vertexCount componentCount : BitVec w}

theorem confined_traceVertices (env : Env w) (bound : 4 ≤ 2 ^ w) (small : vertexCount.toNat < 2 ^ 32)
    (wide : 0 < vertexCount.toNat → 3 ≤ componentCount.toNat)
    (inside : ∀ k < vertexCount.toNat, vertexBytes v componentCount k ⊆ R) (fuel : Nat) :
    Confined R (traceVertices env v vertexCount componentCount fuel) s := by
  intro other
  let placed : Proc w → BitVec 32 × BitVec w → Prop :=
    fun _ now => now.2 = vertexAddress v componentCount now.1.toNat
  have each : ∀ n t now, placed t now →
      Commutes (Proc.within R other) (traceVertex env v vertexCount componentCount n now) t := by
    intro n t now at_vertex
    obtain ⟨i, p⟩ := now
    dsimp only [placed] at at_vertex
    by_cases more : i.toNat < vertexCount.toNat
    · have components : region p (4 * componentCount.toNat) ⊆ R := by
        rw [at_vertex]
        exact inside i.toNat more
      have three : region p 12 ⊆ R := by
        have := wide (by omega)
        exact (region_mono p (by omega)).trans components
      simp only [traceVertex, if_pos more]
      apply (commutes_chaiTraceVecN bound components).bind
      intro _ _ _ _
      apply (commutes_deref rfl).bind
      intro _ _ _ _
      apply (commutes_modify (flareVertex_within env bound three)).bind
      intro _ _ _ _
      exact commutes_pure
    · simp only [traceVertex, if_neg more]
      exact commutes_pure
  have stays : ∀ n t now out next u, placed t now →
      Runs (traceVertex env v vertexCount componentCount n now) t out (some next) u → placed u next := by
    intro n t now out next u at_vertex runs
    obtain ⟨i, p⟩ := now
    obtain ⟨more, -, rfl, -⟩ := round_traceVertex ⟨n, runs⟩
    dsimp only [placed] at at_vertex ⊢
    have counted : (i + 1#32).toNat = i.toNat + 1 := by bv_omega
    rw [at_vertex, counted, vertexAddress_next]
  apply commutes_loop each stays
  show v = vertexAddress v componentCount (0#32).toNat
  exact (vertexAddress_zero v componentCount).symm

theorem load_within (width : 32 ≤ w) {p : BitVec w} (inside : region p (AttributeBuffer.size w) ⊆ R)
    (other m : Memory w) : AttributeBuffer.load (Memory.overlay R other m) p = AttributeBuffer.load m p := by
  have eight : 8 ≤ 2 ^ w := le_trans (by decide) (Nat.pow_le_pow_right (by decide) width)
  have word : w / 8 ≤ 2 ^ w := (Nat.div_le_self w 8).trans Nat.lt_two_pow_self.le
  have part : ∀ off n, off + n ≤ AttributeBuffer.size w → region (p + BitVec.ofNat w off) n ⊆ R :=
    fun off n fits => (region_subset p fits).trans inside
  unfold AttributeBuffer.size at part
  unfold AttributeBuffer.load
  rw [Memory.read_overlay eight (part 0 _ (by omega)), Memory.read_overlay word (part 8 _ (by omega)),
    Memory.read_overlay word (part (8 + w / 8) _ (by omega))]

theorem confined_chaiTraceAttribute (env : Env w) (width : 32 ≤ w) {address : BitVec 64} {b : AttributeBuffer w}
    (found : attributeBuffer env s.mem address = b) (sized : b.elementSize ≠ 0#w)
    (record : region (attributePointer env address) (AttributeBuffer.size w) ⊆ R)
    (vertices : ∀ fuel, Confined R (traceVertices env (dataPointer env b) (b.totalSize / b.elementSize)
      (b.elementSize / 4#w) fuel) s) (fuel : Nat) : Confined R (chaiTraceAttribute env fuel address) s := by
  intro other
  unfold chaiTraceAttribute
  apply commutes_fetch.bind
  intro _ _ _ fetched
  cases fetched
  apply Commutes.whenever
  intro nonnull
  apply (commutes_deref (load_within width record other s.mem)).bind
  intro _ read t runs
  obtain ⟨-, same, rfl⟩ := runs.unique (runs_deref nonnull _)
  have loaded : read = b := same.trans found
  rw [loaded, if_neg sized]
  apply commutes_fetch.bind
  intro _ _ _ fetched
  cases fetched
  apply commutes_log.bind
  intro _ _ _ logged
  cases logged
  apply (vertices fuel other).bind
  intro _ _ _ _
  exact commutes_log

end Inside

section Bounds

variable {env : Env w} {s : Proc w} {address : BitVec 64} {b : AttributeBuffer w}

/-- Tracing the attribute whose record is `b` keeps to the record and to its data: it divides by no
    zero, logs one line for every whole element, and has at every round changed only bytes of vertices
    that are on the log. -/
structure StaysInside (env : Env w) (s : Proc w) (address : BitVec 64) (b : AttributeBuffer w) : Prop where
  divides : ¬ Breaks (fun n => chaiTraceAttribute env n address) s .divByZero
  visits : ∃ out t, Converges (fun n => chaiTraceAttribute env n address) s out () t ∧
    (out.filter isVertexLine).length = if b.elementSize = 0#w then 0 else b.totalSize.toNat / b.elementSize.toNat
  confined : ∀ fuel, Confined (region (attributePointer env address) (AttributeBuffer.size w) ∪
    region (dataPointer env b) b.totalSize.toNat) (chaiTraceAttribute env fuel address) s
  logged : ∀ path out t next,
    Path (traceVertex env (dataPointer env b) (b.totalSize / b.elementSize) (b.elementSize / 4#w)) s
      (0#32, dataPointer env b) path out t next →
    Changes {a | a ∈ region (dataPointer env b) b.totalSize.toNat ∧ ∃ k < (out.filter isVertexLine).length,
      a ∈ vertexBytes (dataPointer env b) (b.elementSize / 4#w) k} s.mem t.mem

theorem components_toNat (bound : 4 < 2 ^ w) (size : BitVec w) : (size / 4#w).toNat = size.toNat / 4 := by
  rw [BitVec.toNat_udiv, BitVec.toNat_ofNat, Nat.mod_eq_of_lt bound]

theorem components_fit (bound : 4 < 2 ^ w) (b : AttributeBuffer w) :
    (b.totalSize / b.elementSize).toNat * (4 * (b.elementSize / 4#w).toNat) ≤ b.totalSize.toNat := by
  rw [components_toNat bound, BitVec.toNat_udiv]
  calc b.totalSize.toNat / b.elementSize.toNat * (4 * (b.elementSize.toNat / 4))
      ≤ b.totalSize.toNat / b.elementSize.toNat * b.elementSize.toNat :=
        Nat.mul_le_mul_left _ (Nat.mul_div_le b.elementSize.toNat 4)
    _ ≤ b.totalSize.toNat := Nat.div_mul_le_self _ _

theorem fetchLog_of_mapped {gpuAddr : BitVec 64} {sz : BitVec w} (mapped : Mapped env gpuAddr sz) :
    fetchMappedGpuLog env.mmaps gpuAddr sz = [] := by
  unfold Mapped fetchMappedGpu at mapped
  unfold fetchMappedGpuLog
  split
  · rename_i null
    exact absurd (if_pos null) mapped
  · rename_i nonnull
    rw [if_neg nonnull] at mapped
    split
    · rename_i missing
      rw [missing] at mapped
      exact absurd rfl mapped
    · rename_i mem found
      rw [found] at mapped
      apply if_neg
      intro past
      exact mapped (if_pos past)

theorem fetchLog_no_vertex (mmaps : List (MappedMemory w)) (gpuAddr : BitVec 64) (sz : BitVec w) :
    (fetchMappedGpuLog mmaps gpuAddr sz).filter isVertexLine = [] := by
  unfold fetchMappedGpuLog
  split
  · rfl
  · split
    · rfl
    · split <;> rfl

theorem staysInside_of_wide (width : 32 ≤ w) (record : Mapped env address (BitVec.ofNat w (AttributeBuffer.size w)))
    (found : attributeBuffer env s.mem address = b) (data : Mapped env (attributeData b) b.totalSize)
    (sized : b.elementSize ≠ 0#w) (small : (b.totalSize / b.elementSize).toNat < 2 ^ 32)
    (wide : 0 < (b.totalSize / b.elementSize).toNat → 12 ≤ b.elementSize.toNat) : StaysInside env s address b := by
  have power : 2 ^ 32 ≤ 2 ^ w := Nat.pow_le_pow_right (by decide) width
  have bound : 4 < 2 ^ w := by omega
  have fits := components_fit bound b
  have three : 0 < (b.totalSize / b.elementSize).toNat → 3 ≤ (b.elementSize / 4#w).toNat := by
    intro some
    have := wide some
    rw [components_toNat bound]
    omega
  have converges := converges_chaiTraceAttribute env record found sized (fun _ => data) small
  have inside : ∀ k < (b.totalSize / b.elementSize).toNat, vertexBytes (dataPointer env b) (b.elementSize / 4#w) k ⊆
      region (dataPointer env b) b.totalSize.toNat := fun k before => vertexBytes_subset _ _ before fits
  constructor
  · exact converges.not_breaks (fuelled_chaiTraceAttribute env address)
  · refine ⟨_, _, converges, ?_⟩
    rw [List.filter_append, List.filter_append, List.filter_cons, List.filter_append, fetchLog_no_vertex,
      fetchLog_no_vertex, filter_vertexLines, if_neg sized, ← BitVec.toNat_udiv]
    show (vertexLines _ _ _ _ _ ++ []).length = _
    rw [List.append_nil, vertexLines_length]
  · apply confined_chaiTraceAttribute env width found sized Set.subset_union_left
    apply confined_traceVertices env bound.le small three
    intro k before
    exact (inside k before).trans Set.subset_union_right
  · intro path out t next rounds
    obtain ⟨lines, rfl⟩ := path_traceVertex rounds
    have count := path_length_le rounds small (Nat.zero_le _)
    rw [BitVec.toNat_ofNat, Nat.zero_mod, Nat.zero_add] at count
    rw [lines, filter_vertexLines, vertexLines_length]
    cases hp : path.length with
    | zero => exact Changes.refl _ s.mem
    | succ n =>
      apply (flareVertices_changes_seen env _ _ (three (by omega)) (n + 1) s).mono
      intro a seen
      obtain ⟨k, before, member⟩ := seen
      exact ⟨inside k (by omega) member, k, before, member⟩

theorem breaks_zero_size (record : Mapped env address (BitVec.ofNat w (AttributeBuffer.size w)))
    (found : attributeBuffer env s.mem address = b) (zero : b.elementSize = 0#w) :
    Breaks (fun n => chaiTraceAttribute env n address) s .divByZero := by
  refine ⟨0, ?_⟩
  have loaded : AttributeBuffer.load s.mem (fetchMappedGpu env.mmaps address (BitVec.ofNat w (AttributeBuffer.size w))) =
      b := found
  unfold chaiTraceAttribute
  unfold Mapped at record
  rw [faults_fetch_bind, whenever, if_pos record, faults_deref_bind]
  right
  refine ⟨record, ?_⟩
  rw [loaded, if_pos zero]
  exact faults_fail.mpr rfl

theorem small_of_converges {out : List Out} {t : Proc w}
    (record : Mapped env address (BitVec.ofNat w (AttributeBuffer.size w)))
    (found : attributeBuffer env s.mem address = b)
    (converges : Converges (fun n => chaiTraceAttribute env n address) s out () t) :
    (b.totalSize / b.elementSize).toNat < 2 ^ 32 := by
  have yields : Yields (fun n => chaiTraceAttribute env n address) s (out.filterMap Out.found) () t :=
    yields_iff_converges.mpr ⟨out, converges, rfl⟩
  obtain ⟨-, leaves⟩ := (yields_chaiTraceAttribute env).mp yields
  rcases leaves with ⟨unmapped, -⟩ | ⟨-, leaves⟩
  · exact absurd record unmapped
  · dsimp only at leaves
    rw [found] at leaves
    exact leaves.2.1

theorem flareVertex_third (bound : 12 ≤ 2 ^ w) (p : BitVec w) (s : Proc w) :
    (flareVertex env p s).mem.read 32 p 8 = env.flare (s.rands + 2) (s.mem.read 32 p 8) := by
  unfold flareVertex flareWord
  dsimp only
  rw [Memory.read_write (by decide) (by omega), Memory.read_write_part (by decide) bound (by omega),
    Memory.read_write_part (by decide) bound (by omega)]

/-- The third word of a vertex with fewer components belongs to the vertices after it. -/
theorem not_logged_of_narrow (width : 32 ≤ w) (data : dataPointer env b ≠ 0#w)
    (changes : env.flare (s.rands + 2) (s.mem.read 32 (dataPointer env b) 8) ≠ s.mem.read 32 (dataPointer env b) 8)
    (some : 0 < (b.totalSize / b.elementSize).toNat)
    (narrow : b.elementSize.toNat < 12) : ¬ StaysInside env s address b := by
  intro stays
  have power : 2 ^ 32 ≤ 2 ^ w := Nat.pow_le_pow_right (by decide) width
  have two : (b.elementSize / 4#w).toNat ≤ 2 := by
    rw [components_toNat (by omega)]
    omega
  have step : (traceVertex env (dataPointer env b) (b.totalSize / b.elementSize) (b.elementSize / 4#w) 0
      (0#32, dataPointer env b)).Runs s _ _ _ := runs_traceVertex data (dataPointer env b) s 0 some
  have round := Path.cons ⟨0, step⟩ (.nil _ _)
  have kept := stays.logged _ _ _ _ round
  have seen : {a | a ∈ region (dataPointer env b) b.totalSize.toNat ∧
      ∃ k < (([vecLine s.mem (dataPointer env b) (b.elementSize / 4#w)] ++ []).filter isVertexLine).length,
        a ∈ vertexBytes (dataPointer env b) (b.elementSize / 4#w) k} ⊆ region (dataPointer env b) 8 := by
    intro a member
    obtain ⟨-, k, before, member⟩ := member
    rw [List.append_nil, List.filter_singleton, vecLine_isVertexLine] at before
    have first : k = 0 := Nat.lt_one_iff.mp before
    rw [first, vertexBytes, vertexAddress_zero] at member
    exact region_mono _ (by omega) member
  have apart : Disjoint (region (dataPointer env b + BitVec.ofNat w 8) (32 / 8)) (region (dataPointer env b) 8) := by
    rw [Set.disjoint_left]
    intro a third member
    rw [mem_region_part (by omega)] at third
    rw [mem_region] at member
    omega
  have same := (kept.mono seen).read (by omega) apart
  rw [flareVertex_third (by omega)] at same
  exact changes same

/-- One page of GPU memory at its own address; on a zero word the first sum is 1/1024. -/
def vertexPage : Env 32 where
  mmaps := [⟨0x1000#32, 0x1000#32, 0x1000#64⟩]
  enableHexdumpTrimming := true
  flare := fun _ word => if word = 0#32 then 0x3A800000#32 else word

/-- A record at 0x1000 of data at 0x1100, in zeroed memory. -/
def recordOf (elementSize totalSize : Byte) : Memory 32 := fun a =>
  if a = 0x1001#32 then 0x11#8 else if a = 0x1008#32 then elementSize else if a = 0x100C#32 then totalSize else 0#8

end Bounds

end Decoder
