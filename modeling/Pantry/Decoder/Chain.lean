import Pantry.Decoder.Attributes

namespace Decoder

open Machine Panwrap Program Relation

variable {w : Nat} (env : Env w)

section VertexTiler

def attributeMeta (m : Memory w) (v : BitVec w) : BitVec 64 :=
  (m.read 32 v PayloadVertexTiler32.attributeMeta).setWidth 64

def trapped (m : Memory w) (v : BitVec w) : Prop := sabotaged (m.read 32 v PayloadVertexTiler32.shader) = true

instance (m : Memory w) (v : BitVec w) : Decidable (trapped m v) := inferInstanceAs (Decidable (_ = true))

def VertexTilerMapped (h : BitVec w) (s : Proc w) (payload : BitVec 64) : Prop :=
  Mapped env payload (BitVec.ofNat w PayloadVertexTiler32.size) ∧
    let v := fetchMappedGpu env.mmaps payload (BitVec.ofNat w PayloadVertexTiler32.size)
    ¬ trapped s.mem v → ShaderMapped env s.mem v ∧ AttributesMapped env v s (attributeMeta s.mem v) ∧
      ∀ t, AttributesLeave env v s (attributeMeta s.mem v) t → RestMapped env t.mem h v

def VertexTilerLeaves (h : BitVec w) (s : Proc w) (payload : BitVec 64) (t : Proc w) : Prop :=
  Mapped env payload (BitVec.ofNat w PayloadVertexTiler32.size) ∧
    let v := fetchMappedGpu env.mmaps payload (BitVec.ofNat w PayloadVertexTiler32.size)
    (trapped s.mem v ∧ t = s) ∨
      (¬ trapped s.mem v ∧ ShaderMapped env s.mem v ∧ AttributesLeave env v s (attributeMeta s.mem v) t ∧
        RestMapped env t.mem h v)

theorem fuelled_traceVertexTiler (h : BitVec w) (payload : BitVec 64) :
    Fuelled fun n => traceVertexTiler env n h payload := by
  unfold traceVertexTiler
  refine (fuelled_const _).bind fun v => (fuelled_const _).bind fun shader => ?_
  split
  · exact fuelled_const _
  · refine (fuelled_const _).bind fun _ => (fuelled_const _).bind fun start => ?_
    exact (fuelled_traceAttributes env v _).bind fun _ => fuelled_const _

variable {h : BitVec w} {s t : Proc w} {payload : BitVec 64}

theorem breaks_traceVertexTiler (header : h ≠ 0#w) :
    Breaks (fun n => traceVertexTiler env n h payload) s .nullDeref ↔ ¬ VertexTilerMapped env h s payload := by
  unfold traceVertexTiler VertexTilerMapped Mapped
  rw [breaks_fetch_bind]
  generalize fetchMappedGpu env.mmaps payload (BitVec.ofNat w PayloadVertexTiler32.size) = v
  rw [breaks_deref_bind]
  by_cases present : v = 0#w
  · simp [present]
  · simp only [present, false_and, false_or, ne_eq, not_false_eq_true, true_and]
    change Breaks (fun n => if trapped s.mem v then _ else _) s _ ↔ _
    by_cases trap : trapped s.mem v
    · simp only [trap, ↓reduceIte, not_true_eq_false, false_implies, iff_false, breaks_const]
      obtain ⟨_, runs, -⟩ := silent_log "Job sabotaged\n" [] s
      exact runs.not_faults
    · simp only [trap, ↓reduceIte, not_false_eq_true, forall_const,
        (checked_traceShader env header present s).breaks_bind, breaks_deref_bind, present, false_and, false_or,
        ne_eq, true_and, breaks_bind_leaves (fuelled_traceAttributes env v _) fun _ => fuelled_const _,
        breaks_traceAttributes env present, leaves_traceAttributes env present, breaks_const,
        (checked_traceVertexTilerRest env header present _).faults_iff]
      change (_ → ¬ AttributesMapped env v s (attributeMeta s.mem v) ∨
        ∃ _ t, AttributesLeave env v s (attributeMeta s.mem v) t ∧ _) ↔ _
      constructor
      · rintro breaks ⟨shader, attributes, rest⟩
        rcases breaks shader with unmapped | ⟨_, t, leaves, unmapped, -⟩
        · exact unmapped attributes
        · exact unmapped (rest t leaves)
      · intro unmapped shader
        by_contra fine
        rw [not_or, not_not] at fine
        refine unmapped ⟨shader, fine.1, fun t leaves => ?_⟩
        by_contra rest
        exact fine.2 ⟨(), t, leaves, rest, trivial⟩

theorem yields_traceVertexTiler (header : h ≠ 0#w) {marks : List Mark} :
    Yields (fun n => traceVertexTiler env n h payload) s marks () t ↔
      Mapped env payload (BitVec.ofNat w PayloadVertexTiler32.size) ∧
        let v := fetchMappedGpu env.mmaps payload (BitVec.ofNat w PayloadVertexTiler32.size)
        (trapped s.mem v ∧ marks = [] ∧ t = s) ∨
          (¬ trapped s.mem v ∧ ShaderMapped env s.mem v ∧ RestMapped env t.mem h v ∧
            ∃ found, Yields (fun n => traceAttributes env v n (attributeMeta s.mem v)) s found () t ∧
              marks = .shader (shaderCode env s.mem v) :: found ++
                [.framebuffer (fbdAddress (payloadFbd t.mem v))]) := by
  unfold traceVertexTiler Mapped
  rw [yields_fetch_bind]
  generalize fetchMappedGpu env.mmaps payload (BitVec.ofNat w PayloadVertexTiler32.size) = v
  rw [yields_deref_bind]
  apply and_congr_right
  intro present
  change Yields (fun n => if trapped s.mem v then _ else _) s marks () t ↔ _
  by_cases trap : trapped s.mem v
  · simp only [trap, ↓reduceIte, true_and, not_true_eq_false, false_and, or_false, yields_const]
    constructor
    · intro traced
      obtain ⟨rfl, -, rfl⟩ := traced.unique (silent_log "Job sabotaged\n" [] s)
      exact ⟨rfl, rfl⟩
    · rintro ⟨rfl, rfl⟩
      exact silent_log "Job sabotaged\n" [] t
  · simp only [trap, ↓reduceIte, false_and, not_false_eq_true, true_and, false_or,
      (checked_traceShader env header present s).yields_bind, yields_deref_bind, present, ne_eq,
      yields_bind (fuelled_traceAttributes env v _) fun _ => fuelled_const _, yields_const,
      (checked_traceVertexTilerRest env header present _).traces_iff]
    constructor
    · rintro ⟨shader, _, ⟨found, _, u, _, attributes, ⟨rest, rfl, -, rfl⟩, rfl⟩, rfl⟩
      exact ⟨shader, rest, found, attributes, rfl⟩
    · rintro ⟨shader, rest, found, attributes, rfl⟩
      exact ⟨shader, _, ⟨found, (), t, _, attributes, ⟨rest, rfl, rfl⟩, rfl⟩, rfl⟩

theorem leaves_traceVertexTiler (header : h ≠ 0#w) :
    Leaves (fun n => traceVertexTiler env n h payload) s () t ↔ VertexTilerLeaves env h s payload t := by
  simp only [leaves_iff_yields, yields_traceVertexTiler env header]
  constructor
  · rintro ⟨_, mapped, ⟨trap, -, rfl⟩ | ⟨free, shader, rest, found, attributes, -⟩⟩
    · exact ⟨mapped, .inl ⟨trap, rfl⟩⟩
    · have leaves := (leaves_traceAttributes env mapped).mp (leaves_iff_yields.mpr ⟨found, attributes⟩)
      exact ⟨mapped, .inr ⟨free, shader, leaves, rest⟩⟩
  · rintro ⟨mapped, ⟨trap, rfl⟩ | ⟨free, shader, attributes, rest⟩⟩
    · exact ⟨[], mapped, .inl ⟨trap, rfl, rfl⟩⟩
    · obtain ⟨found, yields⟩ := leaves_iff_yields.mp ((leaves_traceAttributes env mapped).mpr attributes)
      exact ⟨_, mapped, .inr ⟨free, shader, rest, found, yields, rfl⟩⟩

end VertexTiler

section Payload

/-- Every structure that the switch over the job types reads without a test is mapped. -/
def PayloadMapped (h : BitVec w) (s : Proc w) (payload : BitVec 64) : Prop :=
  let jobType := (JobDescriptorHeader.load s.mem h).jobType
  if jobType = jobTypeSetValue then Mapped env payload (BitVec.ofNat w PayloadSetValue.size)
  else if jobType = jobTypeVertex ∨ jobType = jobTypeTiler then VertexTilerMapped env h s payload
  else if jobType = jobTypeFragment then FragmentMapped env s.mem payload
  else True

def PayloadLeaves (h : BitVec w) (s : Proc w) (payload : BitVec 64) (t : Proc w) : Prop :=
  let jobType := (JobDescriptorHeader.load s.mem h).jobType
  if jobType = jobTypeSetValue then Mapped env payload (BitVec.ofNat w PayloadSetValue.size) ∧ t = s
  else if jobType = jobTypeVertex ∨ jobType = jobTypeTiler then VertexTilerLeaves env h s payload t
  else if jobType = jobTypeFragment then FragmentMapped env s.mem payload ∧ t = s
  else t = s

theorem fuelled_tracePayload (h : BitVec w) (payload : BitVec 64) :
    Fuelled fun n => tracePayload env n h payload := by
  unfold tracePayload
  refine (fuelled_const _).bind fun jobType => ?_
  split
  · exact fuelled_const _
  · split
    · exact fuelled_traceVertexTiler env h payload
    · split <;> exact fuelled_const _

variable {h : BitVec w} {s t : Proc w} {payload : BitVec 64}

theorem breaks_tracePayload (header : h ≠ 0#w) :
    Breaks (fun n => tracePayload env n h payload) s .nullDeref ↔ ¬ PayloadMapped env h s payload := by
  unfold tracePayload PayloadMapped
  simp only [breaks_deref_bind, header, false_and, false_or, ne_eq, not_false_eq_true, true_and]
  split
  · rw [breaks_const, (checked_traceSetValue env payload s).faults_iff, and_iff_left rfl]
  · split
    · exact breaks_traceVertexTiler env header
    · split
      · rw [breaks_const, (checked_traceFragment env payload s).faults_iff, and_iff_left rfl]
      · rw [breaks_const, (silent_traceUnknown env _ payload).checked.faults_iff, and_iff_left rfl]

theorem leaves_const_checked {p : Decode w Unit} {c : Prop} {marks : List Mark}
    (checked : Checked p s c marks () s) : Leaves (fun _ => p) s () t ↔ c ∧ t = s := by
  simp only [leaves_iff_yields, yields_const, checked.traces_iff]
  constructor
  · rintro ⟨_, holds, -, -, same⟩
    exact ⟨holds, same⟩
  · rintro ⟨holds, same⟩
    exact ⟨_, holds, rfl, trivial, same⟩

theorem leaves_tracePayload (header : h ≠ 0#w) :
    Leaves (fun n => tracePayload env n h payload) s () t ↔ PayloadLeaves env h s payload t := by
  have started : Leaves (fun n => tracePayload env n h payload) s () t ↔ Leaves (fun n =>
      let jobType := (JobDescriptorHeader.load s.mem h).jobType
      if jobType = jobTypeSetValue then traceSetValue env payload
      else if jobType = jobTypeVertex ∨ jobType = jobTypeTiler then traceVertexTiler env n h payload
      else if jobType = jobTypeFragment then traceFragment env payload
      else traceUnknown env jobType payload) s () t := by
    simp only [leaves_iff_yields, tracePayload, yields_deref_bind, header, ne_eq, not_false_eq_true, true_and]
  rw [started]
  unfold PayloadLeaves
  dsimp only
  split
  · exact leaves_const_checked (checked_traceSetValue env payload s)
  · split
    · exact leaves_traceVertexTiler env header
    · split
      · exact leaves_const_checked (checked_traceFragment env payload s)
      · rw [leaves_const_checked (silent_traceUnknown env _ payload).checked, true_and]

end Payload

section Job

def headerOf (chain : BitVec 64) : BitVec w :=
  fetchMappedGpu env.mmaps chain (BitVec.ofNat w JobDescriptorHeader.size)

theorem headerOf_eq (chain : BitVec 64) :
    fetchMappedGpu env.mmaps chain (BitVec.ofNat w JobDescriptorHeader.size) = headerOf env chain := rfl

def payloadOf (chain : BitVec 64) : BitVec 64 := chain + BitVec.ofNat 64 JobDescriptorHeader.size

def nextJobOf (m : Memory w) (chain : BitVec 64) : BitVec 64 :=
  (JobDescriptorHeader.load m (headerOf env chain)).nextJob

def JobMapped (now : Proc w × BitVec 64) : Prop :=
  headerOf env now.2 ≠ 0#w → PayloadMapped env (headerOf env now.2) now.1 (payloadOf now.2)

def NextJob (now next : Proc w × BitVec 64) : Prop :=
  headerOf env now.2 ≠ 0#w ∧ PayloadLeaves env (headerOf env now.2) now.1 (payloadOf now.2) next.1 ∧
    nextJobOf env next.1.mem now.2 ≠ 0#64 ∧ next.2 = nextJobOf env next.1.mem now.2

/-- Every job that following the chain comes to has what its tracing reads mapped. -/
def ChainMapped (s : Proc w) (chain : BitVec 64) : Prop :=
  ∀ now, ReflTransGen (NextJob env) (s, chain) now → JobMapped env now

theorem fuelled_traceJob (chain : BitVec 64) : Fuelled fun n => traceJob env n chain := by
  unfold traceJob
  refine (fuelled_const _).bind fun h => ?_
  split
  · exact fuelled_const _
  · refine (fuelled_const _).bind fun _ => ?_
    exact (fuelled_tracePayload env h _).bind fun _ => fuelled_const _

theorem fuelled_chaiTraceHwChain (chain : BitVec 64) : Fuelled fun n => chaiTraceHwChain env n chain :=
  loop_fuelled (fuelled_traceJob env) chain

variable {s t : Proc w} {chain : BitVec 64}

theorem breaks_traceJob : Breaks (fun n => traceJob env n chain) s .nullDeref ↔ ¬ JobMapped env (s, chain) := by
  unfold traceJob JobMapped
  rw [breaks_fetch_bind, headerOf_eq]
  by_cases header : headerOf env chain = 0#w
  · simp [header, breaks_const]
  · have named := checked_of_traces (traces_traceHeader header chain s)
    simp only [header, ↓reduceIte, ne_eq, not_false_eq_true, forall_const]
    rw [named.breaks_bind, forall_const, breaks_bind_leaves (fuelled_tracePayload env _ _) fun _ => fuelled_const _,
      breaks_tracePayload env header]
    simp only [breaks_const, faults_deref_bind, header, false_and, not_faults_pure, and_false,
      exists_const, exists_false, or_false, payloadOf]

theorem yields_traceJob {marks : List Mark} {next : Option (BitVec 64)} :
    Yields (fun n => traceJob env n chain) s marks next t ↔
      (headerOf env chain = 0#w ∧ marks = [] ∧ next = none ∧ t = s) ∨
        (headerOf env chain ≠ 0#w ∧
          (∃ found, Yields (fun n => tracePayload env n (headerOf env chain) (payloadOf chain)) s found () t ∧
            marks = .descriptor chain (JobDescriptorHeader.load s.mem (headerOf env chain)).jobType.toNat :: found) ∧
          next = if nextJobOf env t.mem chain = 0#64 then none else some (nextJobOf env t.mem chain)) := by
  unfold traceJob
  rw [yields_fetch_bind, headerOf_eq]
  by_cases header : headerOf env chain = 0#w
  · simp [header]
  · have named := checked_of_traces (traces_traceHeader header chain s)
    simp only [header, ↓reduceIte, false_and, ne_eq, not_false_eq_true, true_and, false_or]
    rw [named.yields_bind, true_and]
    simp only [yields_bind (fuelled_tracePayload env _ _) fun _ => fuelled_const _, yields_deref_bind, header,
      ne_eq, not_false_eq_true, true_and, yields_pure]
    constructor
    · rintro ⟨_, ⟨found, _, u, _, payload, ⟨empty, goes, same⟩, whole⟩, marked⟩
      subst empty same whole marked
      exact ⟨⟨found, payload, by rw [List.append_nil, List.singleton_append]⟩, goes⟩
    · rintro ⟨⟨found, payload, marked⟩, goes⟩
      exact ⟨found, ⟨found, (), t, [], payload, ⟨rfl, goes, rfl⟩, (List.append_nil _).symm⟩, marked⟩

theorem hop_traceJob : Hop (traceJob env) = NextJob env := by
  funext now next
  apply propext
  simp only [Hop, leaves_iff_yields, yields_traceJob]
  constructor
  · rintro ⟨_, ⟨-, -, last, -⟩ | ⟨header, ⟨found, payload, -⟩, goes⟩⟩
    · cases last
    · have leaves := (leaves_tracePayload env header).mp (leaves_iff_yields.mpr ⟨found, payload⟩)
      split at goes
      · cases goes
      · exact ⟨header, leaves, ‹_›, Option.some.inj goes⟩
  · rintro ⟨header, leaves, nonzero, same⟩
    obtain ⟨found, payload⟩ := leaves_iff_yields.mp ((leaves_tracePayload env header).mpr leaves)
    exact ⟨_, .inr ⟨header, ⟨found, payload, rfl⟩, by rw [if_neg nonzero, same]⟩⟩

theorem breaks_chaiTraceHwChain :
    Breaks (fun n => chaiTraceHwChain env n chain) s .nullDeref ↔ ¬ ChainMapped env s chain := by
  unfold chaiTraceHwChain ChainMapped
  simp only [loop_breaks_hops (fuelled_traceJob env), hop_traceJob, breaks_traceJob, not_forall]
  constructor
  · rintro ⟨u, c, reached, unmapped⟩
    exact ⟨(u, c), reached, unmapped⟩
  · rintro ⟨⟨u, c⟩, reached, unmapped⟩
    exact ⟨u, c, reached, unmapped⟩

end Job

section Atom

/-- Every structure of an atom that is read without a test is mapped. -/
def AtomMapped (s : Proc w) (jc : BitVec 64) (coreReq : BitVec 32) : Prop :=
  if coreReq &&& maliJdReqSoftJob ≠ 0#32 then
    coreReq &&& maliJdReqSoftReplay ≠ 0#32 → Mapped env jc (BitVec.ofNat w MaliJdReplayPayload.size)
  else ChainMapped env s jc

theorem checked_traceReplay (jc : BitVec 64) (s : Proc w) :
    Checked (traceReplay env jc) s (Mapped env jc (BitVec.ofNat w MaliJdReplayPayload.size)) [] () s := by
  apply Checked.after (traces_fetch _ _ _)
  exact checked_deref_silent fun r => silent_log _ _

/-- `chai_trace_atom` reads through a null pointer for no amount of fuel if and only if every
    structure it reads without a test is mapped when it comes to it. -/
theorem atom_reads_mapped_iff (s : Proc w) (jc : BitVec 64) (coreReq : BitVec 32) :
    (∀ fuel, ¬ (chaiTraceAtom env fuel jc coreReq).Faults s .nullDeref) ↔ AtomMapped env s jc coreReq := by
  rw [← not_exists]
  change ¬ Breaks (fun fuel => chaiTraceAtom env fuel jc coreReq) s .nullDeref ↔ _
  unfold chaiTraceAtom AtomMapped
  by_cases soft : coreReq &&& maliJdReqSoftJob ≠ 0#32
  · by_cases replay : coreReq &&& maliJdReqSoftReplay ≠ 0#32
    · simp only [if_pos soft, if_pos replay, breaks_const, (checked_traceReplay env jc s).faults_iff, and_true,
        not_not]
      exact ⟨fun mapped _ => mapped, fun mapped => mapped replay⟩
    · simp only [if_pos soft, if_neg replay, breaks_const]
      obtain ⟨_, runs, -⟩ := silent_log "Unknown soft job\n" [] s
      exact iff_of_true runs.not_faults fun held => absurd held replay
  · simp only [if_neg soft, breaks_chaiTraceHwChain, not_not]

end Atom

def onePage : Env 32 := ⟨[⟨0x1000#32, 0x10000#32, 0x10000#64⟩], true, fun _ word => word⟩

/-- The header of a set value job is the page's last; its payload would come after it. -/
theorem truncated_payload_read :
    (chaiTraceAtom onePage 1 0x10fe0#64 1#32).Faults
      ⟨fun a => if a = 0x10ff0#32 then 4#8 else 0#8, 0⟩ .nullDeref := rfl

end Decoder
