import Pantry.Decoder.Needs
import Pantry.Machine.Footprint

namespace Decoder

open Machine Panwrap Program Relation

variable {w : Nat}

section Vertices

def flareVertices (env : Env w) (componentCount : BitVec w) : Nat → BitVec w → Proc w → Proc w
  | 0, _, s => s
  | n + 1, p, s => flareVertices env componentCount n (p + componentCount * 4#w) (flareVertex env p s)

def vecLine (m : Memory w) (p count : BitVec w) : Out :=
  let vec (n : Nat) (format : String) : Out := .log format ((List.range n).map fun k => .float (m.read 32 p (4 * k)))
  match count.toNat with
  | 1 => vec 1 "\t<%f>,\n"
  | 2 => vec 2 "\t<%f, %f>,\n"
  | 3 => vec 3 "\t<%f, %f, %f>,\n"
  | 4 => vec 4 "\t<%f, %f, %f, %f>,\n"
  | _ => .log "Cannot print vec%zu\n" [.nat count.toNat]

def vertexLines (env : Env w) (componentCount : BitVec w) : Nat → BitVec w → Proc w → List Out
  | 0, _, _ => []
  | n + 1, p, s =>
    vecLine s.mem p componentCount :: vertexLines env componentCount n (p + componentCount * 4#w) (flareVertex env p s)

section Lines

theorem runs_chaiTraceVecN (v componentCount : BitVec w) (nonnull : v ≠ 0#w) (p : BitVec w) (s : Proc w) :
    (chaiTraceVecN v p componentCount).Runs s [vecLine s.mem p componentCount] () s := by
  have printed : ∀ n format, Runs (do
      let args ← deref v fun m => (List.range n).map fun k => Arg.float (m.read 32 p (4 * k))
      panwrapLog format args) s
      [.log format ((List.range n).map fun k => .float (s.mem.read 32 p (4 * k)))] () s := by
    intro n format
    exact (runs_deref nonnull _).bind (runs_put.mpr ⟨rfl, rfl⟩)
  unfold chaiTraceVecN vecLine
  generalize componentCount.toNat = n
  match n with
  | 1 => exact printed 1 _
  | 2 => exact printed 2 _
  | 3 => exact printed 3 _
  | 4 => exact printed 4 _
  | 0 | n + 5 => exact runs_put.mpr ⟨rfl, rfl⟩

variable {env : Env w} {v vertexCount componentCount : BitVec w}

theorem runs_traceVertex (nonnull : v ≠ 0#w) {i : BitVec 32} (p : BitVec w) (s : Proc w) (n : Nat)
    (more : i.toNat < vertexCount.toNat) :
    (traceVertex env v vertexCount componentCount n (i, p)).Runs s [vecLine s.mem p componentCount]
      (some (i + 1#32, p + componentCount * 4#w)) (flareVertex env p s) := by
  have access : (deref v fun _ => ()).Runs s [] () s := runs_deref nonnull _
  have change : (modify (flareVertex env p) : Decode w Unit).Runs s [] () (flareVertex env p s) :=
    runs_modify.mpr ⟨rfl, rfl⟩
  simp only [traceVertex, if_pos more]
  exact (runs_chaiTraceVecN v componentCount nonnull p s).bind
    (access.bind (change.bind (runs_pure.mpr ⟨rfl, rfl, rfl⟩)))

theorem runs_traceVertex_last {i : BitVec 32} (p : BitVec w) (s : Proc w) (n : Nat)
    (last : ¬ i.toNat < vertexCount.toNat) :
    (traceVertex env v vertexCount componentCount n (i, p)).Runs s [] none s := by
  simp only [traceVertex, if_neg last]
  exact runs_pure.mpr ⟨rfl, rfl, rfl⟩

/-- From round `i` on, with `n` vertices to go. -/
theorem converges_vertices_from (n : Nat) {i : BitVec 32} (p : BitVec w) (s : Proc w) (nonnull : 0 < n → v ≠ 0#w)
    (total : i.toNat + n = vertexCount.toNat) (small : vertexCount.toNat < 2 ^ 32) :
    Converges (fun fuel => loop (traceVertex env v vertexCount componentCount) fuel (i, p)) s
      (vertexLines env componentCount n p s) () (flareVertices env componentCount n p s) := by
  induction n generalizing i p s with
  | zero =>
    have last : ¬ i.toNat < vertexCount.toNat := by omega
    exact ⟨1, (runs_traceVertex_last p s 0 last).bind (runs_pure.mpr ⟨rfl, rfl, rfl⟩)⟩
  | succ n ih =>
    have more : i.toNat < vertexCount.toNat := by omega
    have next : (i + 1#32).toNat + n = vertexCount.toNat := by
      rw [BitVec.toNat_add, BitVec.toNat_ofNat]
      omega
    have present := nonnull n.succ_pos
    obtain ⟨fuel, later⟩ := ih (p + componentCount * 4#w) (flareVertex env p s) (fun _ => present) next
    exact ⟨fuel + 1, (runs_traceVertex present p s fuel more).bind later⟩

theorem vecLine_unmarked (m : Memory w) (p count : BitVec w) : (vecLine m p count).found = none := by
  unfold vecLine
  split <;> rfl

theorem vertexLines_unmarked (n : Nat) (p : BitVec w) (s : Proc w) :
    (vertexLines env componentCount n p s).filterMap Out.found = [] := by
  induction n generalizing p s with
  | zero => rfl
  | succ n ih => rw [vertexLines, List.filterMap_cons_none (vecLine_unmarked s.mem p componentCount), ih]

end Lines

theorem checked_chaiTraceVecN (v p count : BitVec w) (s : Proc w) :
    Checked (chaiTraceVecN v p count) s (count.toNat ∈ [1, 2, 3, 4] → v ≠ 0#w) [] () s := by
  have printed : ∀ n format, Checked (do
      let args ← deref v fun m => (List.range n).map fun k => Arg.float (m.read 32 p (4 * k))
      panwrapLog format args) s (v ≠ 0#w) [] () s :=
    fun n format => checked_deref_silent fun args => silent_log _ _
  unfold chaiTraceVecN
  split
  · rename_i one
    exact (printed 1 _).congr (by simp [one])
  · rename_i two
    exact (printed 2 _).congr (by simp [two])
  · rename_i three
    exact (printed 3 _).congr (by simp [three])
  · rename_i four
    exact (printed 4 _).congr (by simp [four])
  · rename_i not1 not2 not3 not4
    have other : count.toNat ∉ [1, 2, 3, 4] := by
      simp only [List.mem_cons, List.not_mem_nil, or_false, not_or]
      exact ⟨not1, not2, not3, not4⟩
    exact (silent_log _ _).checked.congr (by simp only [other, false_implies])

theorem flareVertex_changes (env : Env w) (p : BitVec w) (s : Proc w) :
    Changes (region p 12) s.mem (flareVertex env p s).mem := by
  have first : region (p + BitVec.ofNat w 0) (32 / 8) ⊆ region p 12 := region_subset p (by decide)
  have second : region (p + BitVec.ofNat w 4) (32 / 8) ⊆ region p 12 := region_subset p (by decide)
  have third : region (p + BitVec.ofNat w 8) (32 / 8) ⊆ region p 12 := region_subset p (by decide)
  exact (((Changes.refl _ s.mem).write first).write second).write third

theorem flareVertices_changes (env : Env w) (n : Nat) (p : BitVec w) (s : Proc w) :
    Changes (region p (12 * n)) s.mem (flareVertices env 3#w n p s).mem := by
  induction n generalizing p s with
  | zero => exact Changes.refl _ s.mem
  | succ n ih =>
    have step : p + 3#w * 4#w = p + BitVec.ofNat w 12 := by
      rw [← BitVec.ofNat_mul]
    have front : region p 12 ⊆ region p (12 * (n + 1)) := region_mono p (by omega)
    have later := ih (p + BitVec.ofNat w 12) (flareVertex env p s)
    rw [flareVertices, step]
    exact ((flareVertex_changes env p s).mono front).trans (later.mono (region_subset p (by omega)))

variable (env : Env w) (v vertexCount componentCount : BitVec w)

theorem checked_traceVertex {i : BitVec 32} (p : BitVec w) (s : Proc w) (n : Nat)
    (more : i.toNat < vertexCount.toNat) :
    Checked (traceVertex env v vertexCount componentCount n (i, p)) s (v ≠ 0#w) []
      (some (i + 1#32, p + componentCount * 4#w)) (flareVertex env p s) := by
  simp only [traceVertex, if_pos more]
  apply Checked.congr
  · apply (checked_chaiTraceVecN v p componentCount s).seq
    intro _
    apply checked_deref.seq
    intro _
    apply Checked.after (traces_modify _)
    exact checked_pure
  · constructor
    · exact fun ⟨_, nonnull, _⟩ => nonnull
    · exact fun nonnull => ⟨fun _ => nonnull, nonnull, trivial⟩

theorem traces_traceVertex_last {i : BitVec 32} (p : BitVec w) (s : Proc w) (n : Nat)
    (last : ¬ i.toNat < vertexCount.toNat) :
    Traces (traceVertex env v vertexCount componentCount n (i, p)) s [] none s :=
  ⟨[], runs_traceVertex_last p s n last, rfl⟩

theorem fuelled_traceVertex (now : BitVec 32 × BitVec w) :
    Fuelled fun n => traceVertex env v vertexCount componentCount n now :=
  fun _ _ _ => .refl _

theorem fuelled_traceVertices : Fuelled (traceVertices env v vertexCount componentCount) :=
  loop_fuelled (fuelled_traceVertex env v vertexCount componentCount) _

theorem breaks_traceVertices {s : Proc w} {reason : Fault} :
    Breaks (traceVertices env v vertexCount componentCount) s reason ↔
      vertexCount ≠ 0#w ∧ v = 0#w ∧ reason = .nullDeref := by
  unfold traceVertices
  rw [loop_breaks_hops (fuelled_traceVertex env v vertexCount componentCount)]
  constructor
  · rintro ⟨t, ⟨i, p⟩, -, n, faults⟩
    by_cases more : i.toNat < vertexCount.toNat
    · rw [(checked_traceVertex env v vertexCount componentCount p t n more).faults_iff] at faults
      refine ⟨?_, not_not.mp faults.1, faults.2⟩
      rintro rfl
      simp at more
    · obtain ⟨_, runs, -⟩ := traces_traceVertex_last env v vertexCount componentCount p t n more
      exact absurd faults runs.not_faults
  · rintro ⟨some, null, rfl⟩
    have more : (0#32).toNat < vertexCount.toNat := by
      have nonzero : vertexCount.toNat ≠ (0#w).toNat := fun same => some (BitVec.eq_of_toNat_eq same)
      simp only [BitVec.toNat_ofNat, Nat.zero_mod] at nonzero ⊢
      omega
    refine ⟨s, (0#32, v), .refl, 0, ?_⟩
    exact (checked_traceVertex env v vertexCount componentCount v s 0 more).faults (not_not.mpr null)

theorem traceVertices_endless (nonnull : v ≠ 0#w) (large : 2 ^ 32 ≤ vertexCount.toNat) (s : Proc w) (fuel : Nat) :
    Cuts (traceVertices env v vertexCount componentCount fuel) s := by
  let within : Proc w → BitVec 32 × BitVec w → Prop := fun _ _ => True
  have stays : ∀ t now, within t now → ∃ out next u,
      Converges (fun n => traceVertex env v vertexCount componentCount n now) t out (some next) u ∧
        within u next := by
    rintro t ⟨i, p⟩ -
    have more : i.toNat < vertexCount.toNat := Nat.lt_of_lt_of_le i.isLt large
    obtain ⟨out, runs, -⟩ := (checked_traceVertex env v vertexCount componentCount p t 0 more).traces nonnull
    exact ⟨out, _, _, ⟨0, runs⟩, trivial⟩
  exact loop_diverges (fuelled_traceVertex env v vertexCount componentCount) stays fuel trivial

def VerticesLeave (s t : Proc w) : Prop :=
  vertexCount.toNat < 2 ^ 32 ∧ (vertexCount ≠ 0#w → v ≠ 0#w) ∧
    t = flareVertices env componentCount vertexCount.toNat v s

theorem positive_of_ne_zero {n : BitVec w} : 0 < n.toNat ↔ n ≠ 0#w := by
  rw [Nat.pos_iff_ne_zero, ne_eq, ne_eq, ← BitVec.toNat_inj, BitVec.toNat_ofNat, Nat.zero_mod]

theorem yields_traceVertices {s t : Proc w} {marks : List Mark} :
    Yields (traceVertices env v vertexCount componentCount) s marks () t ↔
      marks = [] ∧ VerticesLeave env v vertexCount componentCount s t := by
  have fuelled := fuelled_traceVertices env v vertexCount componentCount
  have finishes : vertexCount.toNat < 2 ^ 32 → (vertexCount ≠ 0#w → v ≠ 0#w) →
      Yields (traceVertices env v vertexCount componentCount) s [] ()
        (flareVertices env componentCount vertexCount.toNat v s) := by
    intro small safe
    refine yields_iff_converges.mpr ⟨_, converges_vertices_from vertexCount.toNat v s ?_ ?_ small, vertexLines_unmarked _ _ _⟩
    · exact fun some => safe (positive_of_ne_zero.mp some)
    · rw [BitVec.toNat_ofNat, Nat.zero_mod, Nat.zero_add]
  constructor
  · intro yields
    have safe : vertexCount ≠ 0#w → v ≠ 0#w := by
      intro some null
      exact yields.not_breaks fuelled
        ((breaks_traceVertices env v vertexCount componentCount).mpr ⟨some, null, rfl⟩)
    have small : vertexCount.toNat < 2 ^ 32 := by
      by_contra large
      have some : vertexCount ≠ 0#w := positive_of_ne_zero.mp (by omega)
      obtain ⟨fuel, _, runs, -⟩ := yields
      exact runs.not_cuts (traceVertices_endless env v vertexCount componentCount (safe some) (by omega) s fuel)
    obtain ⟨rfl, -, rfl⟩ := yields.unique fuelled (finishes small safe)
    exact ⟨rfl, small, safe, rfl⟩
  · rintro ⟨rfl, small, safe, rfl⟩
    exact finishes small safe

end Vertices

section Attribute

variable (env : Env w)

def attributeBuffer (m : Memory w) (address : BitVec 64) : AttributeBuffer w :=
  AttributeBuffer.load m (fetchMappedGpu env.mmaps address (BitVec.ofNat w (AttributeBuffer.size w)))

def attributeData (b : AttributeBuffer w) : BitVec 64 := b.elements &&& ~~~3#64

def AttributeMapped (m : Memory w) (address : BitVec 64) : Prop :=
  Mapped env address (BitVec.ofNat w (AttributeBuffer.size w)) →
    (attributeBuffer env m address).elementSize ≠ 0#w →
    (attributeBuffer env m address).totalSize / (attributeBuffer env m address).elementSize ≠ 0#w →
    Mapped env (attributeData (attributeBuffer env m address)) (attributeBuffer env m address).totalSize

def AttributeLeaves (s : Proc w) (address : BitVec 64) (t : Proc w) : Prop :=
  (¬ Mapped env address (BitVec.ofNat w (AttributeBuffer.size w)) ∧ t = s) ∨
    (Mapped env address (BitVec.ofNat w (AttributeBuffer.size w)) ∧
      let b := attributeBuffer env s.mem address
      b.elementSize ≠ 0#w ∧
        VerticesLeave env (fetchMappedGpu env.mmaps (attributeData b) b.totalSize)
          (b.totalSize / b.elementSize) (b.elementSize / 4#w) s t)

theorem fuelled_chaiTraceAttribute (address : BitVec 64) :
    Fuelled fun n => chaiTraceAttribute env n address := by
  unfold chaiTraceAttribute
  refine (fuelled_const _).bind fun vb => Fuelled.whenever ((fuelled_const _).bind fun b => ?_) _
  split
  · exact fuelled_const _
  · refine (fuelled_const _).bind fun v => (fuelled_const _).bind fun _ => ?_
    exact (fuelled_traceVertices env v _ _).bind fun _ => fuelled_const _

theorem breaks_chaiTraceAttribute {s : Proc w} {address : BitVec 64} :
    Breaks (fun n => chaiTraceAttribute env n address) s .nullDeref ↔ ¬ AttributeMapped env s.mem address := by
  unfold chaiTraceAttribute AttributeMapped Mapped attributeBuffer
  rw [breaks_fetch_bind]
  by_cases record : fetchMappedGpu env.mmaps address (BitVec.ofNat w (AttributeBuffer.size w)) = 0#w
  · simp [whenever, record, breaks_const]
  · simp only [whenever, ne_eq, record, not_false_eq_true, ↓reduceIte, breaks_deref_bind, false_and, true_and,
      false_or, forall_const]
    generalize AttributeBuffer.load s.mem
      (fetchMappedGpu env.mmaps address (BitVec.ofNat w (AttributeBuffer.size w))) = b
    by_cases zero : b.elementSize = 0#w
    · simp [zero, breaks_const]
    · simp only [zero, ↓reduceIte, not_false_eq_true, forall_const, breaks_fetch_bind, breaks_log_bind,
        breaks_bind_silent (silent_log _ _), breaks_traceVertices, and_true, Classical.not_imp, not_not]
      rfl

theorem yields_chaiTraceAttribute {s t : Proc w} {address : BitVec 64} {marks : List Mark} :
    Yields (fun n => chaiTraceAttribute env n address) s marks () t ↔
      marks = [] ∧ AttributeLeaves env s address t := by
  unfold chaiTraceAttribute AttributeLeaves Mapped attributeBuffer
  rw [yields_fetch_bind]
  by_cases record : fetchMappedGpu env.mmaps address (BitVec.ofNat w (AttributeBuffer.size w)) = 0#w
  · simp [whenever, record]
  · simp only [whenever, ne_eq, record, not_false_eq_true, ↓reduceIte, yields_deref_bind, true_and, not_true_eq_false,
      false_and, false_or]
    generalize AttributeBuffer.load s.mem
      (fetchMappedGpu env.mmaps address (BitVec.ofNat w (AttributeBuffer.size w))) = b
    by_cases zero : b.elementSize = 0#w
    · simp [zero, not_yields_fail]
    · simp only [zero, ↓reduceIte, not_false_eq_true, true_and, yields_fetch_bind, yields_log_bind,
        yields_bind_silent (silent_log _ _), yields_traceVertices]
      rfl

end Attribute

section Attributes

variable (env : Env w) (v : BitVec w)

def metaWord (m : Memory w) (a : BitVec 64) : BitVec 64 :=
  m.read 64 (fetchMappedGpu env.mmaps a (BitVec.ofNat w attributeMetaSize)) 0

/-- The address of the attribute buffer that the metadata word at `a` selects. -/
def attributeAddress (m : Memory w) (a : BitVec 64) : BitVec 64 :=
  (m.read 32 v PayloadVertexTiler32.attributes).setWidth 64 +
    attributeNo (metaWord env m a) * BitVec.ofNat 64 (AttributeBuffer.size w)

def NextWord (now next : Proc w × BitVec 64) : Prop :=
  Mapped env now.2 (BitVec.ofNat w attributeMetaSize) ∧ metaWord env now.1.mem now.2 ≠ 0#64 ∧
    AttributeLeaves env now.1 (attributeAddress env v now.1.mem now.2) next.1 ∧
    next.2 = now.2 + BitVec.ofNat 64 attributeMetaSize

def WordMapped (now : Proc w × BitVec 64) : Prop :=
  Mapped env now.2 (BitVec.ofNat w attributeMetaSize) ∧
    (metaWord env now.1.mem now.2 ≠ 0#64 →
      AttributeMapped env now.1.mem (attributeAddress env v now.1.mem now.2))

/-- Every metadata word the attribute loop comes to, and the attribute it selects, is mapped. -/
def AttributesMapped (s : Proc w) (a : BitVec 64) : Prop :=
  ∀ now, ReflTransGen (NextWord env v) (s, a) now → WordMapped env v now

def AttributesLeave (s : Proc w) (a : BitVec 64) (t : Proc w) : Prop :=
  ∃ b, ReflTransGen (NextWord env v) (s, a) (t, b) ∧ Mapped env b (BitVec.ofNat w attributeMetaSize) ∧
    metaWord env t.mem b = 0#64

theorem fuelled_traceAttributeWord (a : BitVec 64) : Fuelled fun n => traceAttributeWord env v n a := by
  unfold traceAttributeWord
  refine (fuelled_const _).bind fun attrMeta => (fuelled_const _).bind fun word => ?_
  split
  · exact fuelled_const _
  · refine (fuelled_const _).bind fun _ => (fuelled_const _).bind fun _ => (fuelled_const _).bind fun _ => ?_
    exact (fuelled_chaiTraceAttribute env _).bind fun _ => fuelled_const _

theorem fuelled_traceAttributes (a : BitVec 64) : Fuelled fun n => traceAttributes env v n a :=
  loop_fuelled (fuelled_traceAttributeWord env v) a

variable {v} {s t : Proc w} {a : BitVec 64} {marks : List Mark}

theorem yields_traceAttributeWord (payload : v ≠ 0#w) {next : Option (BitVec 64)} :
    Yields (fun n => traceAttributeWord env v n a) s marks next t ↔
      Mapped env a (BitVec.ofNat w attributeMetaSize) ∧
        ((metaWord env s.mem a = 0#64 ∧ marks = [] ∧ next = none ∧ t = s) ∨
          (metaWord env s.mem a ≠ 0#64 ∧ marks = [.attribute (attributeNo (metaWord env s.mem a))] ∧
            next = some (a + BitVec.ofNat 64 attributeMetaSize) ∧
            AttributeLeaves env s (attributeAddress env v s.mem a) t)) := by
  unfold traceAttributeWord
  rw [yields_fetch_bind, yields_deref_bind]
  apply and_congr_right
  intro _
  change Yields (fun n => if metaWord env s.mem a = 0#64 then _ else _) s marks next t ↔ _
  by_cases zero : metaWord env s.mem a = 0#64
  · simp [zero]
  · simp only [zero, ↓reduceIte, false_and, false_or, ne_eq, not_false_eq_true, true_and, yields_log_bind,
      yields_mark_bind, yields_deref_bind, payload, yields_bind_pure, yields_chaiTraceAttribute]
    constructor
    · rintro ⟨_, ⟨⟨rfl, leaves⟩, rfl⟩, rfl⟩
      exact ⟨rfl, rfl, leaves⟩
    · rintro ⟨rfl, rfl, leaves⟩
      exact ⟨[], ⟨⟨rfl, leaves⟩, rfl⟩, rfl⟩

theorem breaks_traceAttributeWord (payload : v ≠ 0#w) :
    Breaks (fun n => traceAttributeWord env v n a) s .nullDeref ↔ ¬ WordMapped env v (s, a) := by
  unfold traceAttributeWord WordMapped Mapped
  rw [breaks_fetch_bind, breaks_deref_bind]
  by_cases null : fetchMappedGpu env.mmaps a (BitVec.ofNat w attributeMetaSize) = 0#w
  · simp [null]
  · simp only [null, false_and, false_or, ne_eq, not_false_eq_true, true_and]
    change Breaks (fun n => if metaWord env s.mem a = 0#64 then _ else _) s _ ↔ _
    by_cases zero : metaWord env s.mem a = 0#64
    · simp [zero, breaks_const]
    · simp only [zero, ↓reduceIte, not_false_eq_true, forall_const, breaks_log_bind, breaks_mark_bind,
        breaks_deref_bind, payload, false_and, false_or, ne_eq, true_and, breaks_bind_pure,
        breaks_chaiTraceAttribute]
      rfl

theorem hop_traceAttributeWord (payload : v ≠ 0#w) : Hop (traceAttributeWord env v) = NextWord env v := by
  funext now next
  apply propext
  simp only [Hop, leaves_iff_yields, yields_traceAttributeWord env payload, NextWord, Option.some.injEq]
  constructor
  · rintro ⟨_, mapped, ⟨-, -, last, -⟩ | ⟨more, -, same, leaves⟩⟩
    · cases last
    · exact ⟨mapped, more, leaves, same⟩
  · rintro ⟨mapped, more, leaves, same⟩
    exact ⟨_, mapped, .inr ⟨more, rfl, same, leaves⟩⟩

theorem breaks_traceAttributes (payload : v ≠ 0#w) :
    Breaks (fun n => traceAttributes env v n a) s .nullDeref ↔ ¬ AttributesMapped env v s a := by
  unfold traceAttributes AttributesMapped
  simp only [loop_breaks_hops (fuelled_traceAttributeWord env v), hop_traceAttributeWord env payload,
    breaks_traceAttributeWord env payload, not_forall]
  constructor
  · rintro ⟨t, b, reached, unmapped⟩
    exact ⟨(t, b), reached, unmapped⟩
  · rintro ⟨⟨t, b⟩, reached, unmapped⟩
    exact ⟨t, b, reached, unmapped⟩

theorem leaves_traceAttributes (payload : v ≠ 0#w) :
    Leaves (fun n => traceAttributes env v n a) s () t ↔ AttributesLeave env v s a t := by
  unfold traceAttributes AttributesLeave
  simp only [loop_leaves_iff (fuelled_traceAttributeWord env v), hop_traceAttributeWord env payload,
    leaves_iff_yields, yields_traceAttributeWord env payload]
  constructor
  · rintro ⟨u, b, reached, _, mapped, ⟨zero, -, -, rfl⟩ | ⟨-, -, last, -⟩⟩
    · exact ⟨b, reached, mapped, zero⟩
    · cases last
  · rintro ⟨b, reached, mapped, zero⟩
    exact ⟨t, b, reached, [], mapped, .inl ⟨zero, rfl, trivial, rfl⟩⟩

end Attributes

end Decoder
