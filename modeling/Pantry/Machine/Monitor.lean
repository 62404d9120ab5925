import Pantry.Machine.Script
import Pantry.Machine.Transition
import Mathlib.Logic.Function.Basic

/-! Threads that share a state under one mutex. A job is a test, which needs no lock, and a script,
    which runs inside it. -/

namespace Machine

inductive Stage (ε σ ι : Type) where
  | idle
  | waiting (job : ι)
  | inside (job : ι) (rest : Script ε σ Unit)

structure System (τ ε σ ι : Type) where
  shared : σ
  owner : Option τ
  stage : τ → Stage ε σ ι

inductive Act (ι : Type) where
  | call (job : ι)
  | pass (job : ι)
  | lock
  | access
  | unlock (job : ι)

variable {τ ε σ ι : Type}

def System.start (s : σ) : System τ ε σ ι where
  shared := s
  owner := none
  stage := fun _ => .idle

variable (body : ι → Script ε σ Unit)

def Act.released : τ × Act ι → Option ι
  | (_, .unlock job) => some job
  | _ => none

/-- The jobs that are done, in the order in which they gave the lock back. -/
def released (labels : List (τ × Act ι)) : List ι := labels.filterMap Act.released

/-- The scripts of the jobs, run one after the other with nothing in between. -/
def Serial (start : σ) (jobs : List ι) (s : σ) : Prop :=
  Run (fun s job t => (body job).Finishes s () t) start jobs s

/-- The state is what the jobs done so far make of the start, one after the other. Inside the lock
    there is one thread at most, and what is left of its script ends as the whole would have ended
    from such a state. -/
structure Orderly (start : σ) (past : List (τ × Act ι)) (s : System τ ε σ ι) : Prop where
  held : ∀ t job rest, s.stage t = .inside job rest → s.owner = some t ∧
    ∃ base, Serial body start (released past) base ∧ rest.run s.shared = (body job).run base
  inside : ∀ t, s.owner = some t → ∃ job rest, s.stage t = .inside job rest
  free : s.owner = none → Serial body start (released past) s.shared

section Orderly

variable {enters : ι → σ → Prop} {body : ι → Script ε σ Unit} {start : σ} {past : List (τ × Act ι)}
  {s s' : System τ ε σ ι} {t u : τ} {job : ι} {label : τ × Act ι}

theorem released_snoc : released (past ++ [label]) = released past ++ (Act.released label).toList := by
  unfold released
  rw [List.filterMap_append, List.filterMap_cons]
  cases Act.released label <;> rfl

theorem Serial.snoc {jobs : List ι} {a b : σ} (serial : Serial body start jobs a) (finishes : (body job).Finishes a () b) :
    Serial body start (jobs ++ [job]) b := serial.append (.single finishes)

theorem orderly_start : Orderly body start ([] : List (τ × Act ι)) (System.start start) where
  held := fun _ _ _ stage => nomatch stage
  inside := fun _ owner => nomatch owner
  free := fun _ => .nil start

/-- Only one thread at a time is inside the lock. -/
theorem Orderly.exclusive (orderly : Orderly body start past s) {other : ι} {rest rest' : Script ε σ Unit}
    (first : s.stage t = .inside job rest) (second : s.stage u = .inside other rest') : t = u := by
  have owned := (orderly.held t job rest first).1
  rw [(orderly.held u other rest' second).1] at owned
  exact (Option.some.inj owned).symm

theorem Orderly.quiet (orderly : Orderly body start past s) (none : Act.released label = none) :
    Orderly body start (past ++ [label]) s := by
  have same : released (past ++ [label]) = released past := by
    rw [released_snoc, none]
    exact List.append_nil _
  exact { held := same ▸ orderly.held, inside := orderly.inside, free := same ▸ orderly.free }

end Orderly

variable [DecidableEq τ]

def System.to (s : System τ ε σ ι) (t : τ) (stage : Stage ε σ ι) : System τ ε σ ι :=
  { s with stage := Function.update s.stage t stage }

section To

variable {s : System τ ε σ ι} {t u : τ} {stage : Stage ε σ ι}

@[simp] theorem System.to_same : (s.to t stage).stage t = stage := Function.update_self ..

theorem System.to_other (other : u ≠ t) : (s.to t stage).stage u = s.stage u := Function.update_of_ne other ..

@[simp] theorem System.to_to {later : Stage ε σ ι} : (s.to t stage).to t later = s.to t later := by
  simp only [System.to, Function.update_idem]

end To

variable (enters : ι → σ → Prop)

/-- One step of one thread. -/
inductive Move : System τ ε σ ι → τ × Act ι → System τ ε σ ι → Prop where
  | call {s : System τ ε σ ι} {t : τ} {job : ι} :
      s.stage t = .idle → enters job s.shared → Move s (t, .call job) (s.to t (.waiting job))
  | pass {s : System τ ε σ ι} {t : τ} {job : ι} :
      s.stage t = .idle → ¬ enters job s.shared → Move s (t, .pass job) s
  | lock {s : System τ ε σ ι} {t : τ} {job : ι} :
      s.stage t = .waiting job → s.owner = none →
        Move s (t, .lock) { s.to t (.inside job (body job)) with owner := some t }
  | access {s : System τ ε σ ι} {t : τ} {job : ι} {move : σ → σ} {rest : σ → Script ε σ Unit} :
      s.stage t = .inside job (.access move rest) →
        Move s (t, .access) { s.to t (.inside job (rest s.shared)) with shared := move s.shared }
  | unlock {s : System τ ε σ ι} {t : τ} {job : ι} :
      s.stage t = .inside job (.done ()) → Move s (t, .unlock job) { s.to t .idle with owner := none }

section Moves

variable {enters : ι → σ → Prop} {body : ι → Script ε σ Unit} {start : σ} {past : List (τ × Act ι)}
  {s s' : System τ ε σ ι} {t u : τ} {job : ι} {label : τ × Act ι}

/-- A thread outside the lock that stays there changes nothing that matters. -/
theorem Orderly.outside (orderly : Orderly body start past s) {stage : Stage ε σ ι}
    (before : ∀ job rest, s.stage t ≠ .inside job rest) (after : ∀ job rest, stage ≠ .inside job rest) :
    Orderly body start past (s.to t stage) where
  held := by
    intro u job rest inside
    by_cases same : u = t
    · rw [same, System.to_same] at inside
      exact absurd inside (after job rest)
    · rw [System.to_other same] at inside
      exact orderly.held u job rest inside
  inside := by
    intro u owner
    obtain ⟨job, rest, inside⟩ := orderly.inside u owner
    have other : u ≠ t := fun same => before job rest (same ▸ inside)
    exact ⟨job, rest, (System.to_other other).trans inside⟩
  free := orderly.free

theorem Orderly.locked (orderly : Orderly body start past s) (free : s.owner = none) :
    Orderly body start past { s.to t (.inside job (body job)) with owner := some t } where
  held := by
    intro u other rest inside
    by_cases same : u = t
    · subst same
      have stage : Stage.inside job (body job) = .inside other rest := System.to_same.symm.trans inside
      cases stage
      exact ⟨rfl, s.shared, orderly.free free, rfl⟩
    · have earlier : s.stage u = .inside other rest := (System.to_other same).symm.trans inside
      have owned := (orderly.held u other rest earlier).1
      rw [free] at owned
      cases owned
  inside := by
    intro u owner
    obtain rfl : t = u := Option.some.inj owner
    exact ⟨job, body job, System.to_same⟩
  free := fun none => nomatch none

theorem Orderly.accessed (orderly : Orderly body start past s) {move : σ → σ} {rest : σ → Script ε σ Unit}
    (inside : s.stage t = .inside job (.access move rest)) :
    Orderly body start past { s.to t (.inside job (rest s.shared)) with shared := move s.shared } := by
  obtain ⟨owned, base, serial, same⟩ := orderly.held t job _ inside
  refine ⟨?_, ?_, ?_⟩
  · intro u other rest' found
    by_cases here : u = t
    · subst here
      have stage : Stage.inside job (rest s.shared) = .inside other rest' := System.to_same.symm.trans found
      cases stage
      exact ⟨owned, base, serial, same⟩
    · have earlier : s.stage u = .inside other rest' := (System.to_other here).symm.trans found
      exact absurd (orderly.exclusive earlier inside) here
  · intro u owner
    obtain rfl : t = u := Option.some.inj (owned.symm.trans owner)
    exact ⟨job, rest s.shared, System.to_same⟩
  · intro free
    exact nomatch owned.symm.trans free

theorem Orderly.unlocked (orderly : Orderly body start past s) (inside : s.stage t = .inside job (.done ())) :
    Orderly body start (past ++ [(t, .unlock job)]) { s.to t .idle with owner := none } := by
  obtain ⟨owned, base, serial, same⟩ := orderly.held t job _ inside
  have others : ∀ u other rest, (s.to t .idle).stage u ≠ .inside other rest := by
    intro u other rest found
    by_cases here : u = t
    · rw [here, System.to_same] at found
      cases found
    · rw [System.to_other here] at found
      exact here (orderly.exclusive found inside)
  refine { held := fun u other rest found => absurd found (others u other rest), inside := ?_, free := ?_ }
  · intro u owner
    cases owner
  · intro _
    rw [released_snoc]
    exact serial.snoc same.symm

theorem Orderly.step (orderly : Orderly body start past s) (move : Move body enters s label s') :
    Orderly body start (past ++ [label]) s' := by
  cases move with
  | call idle test =>
    refine Orderly.quiet (orderly.outside ?_ ?_) rfl
    · intro job rest inside
      rw [idle] at inside
      cases inside
    · intro job rest same
      cases same
  | pass idle test => exact orderly.quiet rfl
  | lock waiting free => exact (orderly.locked free).quiet rfl
  | access inside => exact (orderly.accessed inside).quiet rfl
  | unlock inside => exact orderly.unlocked inside

theorem orderly_of_run {labels : List (τ × Act ι)} (run : Run (Move body enters) (System.start start) labels s) :
    Orderly body start labels s :=
  run.history (fun move orderly => orderly.step move) orderly_start

/-- Left to itself, a thread inside the lock gets through its script and gives the lock back. -/
theorem finishes_alone {rest : Script ε σ Unit} {final : σ} (inside : s.stage t = .inside job rest)
    (finishes : rest.run s.shared = .done () final) :
    ∃ labels, (∀ label ∈ labels, label.1 = t) ∧
      Run (Move body enters) s labels { s.to t .idle with shared := final, owner := none } := by
  induction rest generalizing s with
  | done value =>
    cases finishes
    refine ⟨[(t, .unlock job)], by simp, ?_⟩
    exact .single (.unlock inside)
  | fault reason => cases finishes
  | cut => cases finishes
  | access move rest ih =>
    have next : Move body enters s (t, .access) _ := .access inside
    obtain ⟨labels, own, later⟩ := ih s.shared (s := { s.to t (.inside job (rest s.shared)) with shared := move s.shared })
      System.to_same finishes
    refine ⟨(t, .access) :: labels, List.forall_mem_cons.mpr ⟨rfl, own⟩, .cons next ?_⟩
    have idle : Function.update (Function.update s.stage t (.inside job (rest s.shared))) t .idle =
        Function.update s.stage t .idle := Function.update_idem ..
    simp only [System.to, idle] at later ⊢
    exact later

end Moves

end Machine
