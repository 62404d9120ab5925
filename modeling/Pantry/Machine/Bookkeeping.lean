import Pantry.Machine.Program

namespace Machine

/-- A bookkeeper follows what a program puts out: `see` is how an account goes on, `fits` what an item must be for it
    to do so. -/
structure Bookkeeper (ω γ : Type) where
  see : γ → ω → γ
  fits : γ → ω → Prop

namespace Bookkeeper

variable {ω ω' ε σ α β γ δ : Type} (keeper : Bookkeeper ω γ)

def account (a : γ) (items : List ω) : γ := items.foldl keeper.see a

def Orderly : γ → List ω → Prop
  | _, [] => True
  | a, item :: rest => keeper.fits a item ∧ Orderly (keeper.see a item) rest

/-- The bookkeeper of a program whose items are relabelled. -/
def comap (label : ω' → ω) : Bookkeeper ω' γ where
  see := fun a item => keeper.see a (label item)
  fits := fun a item => keeper.fits a (label item)

section Lists

variable {a : γ} {items rest : List ω}

@[simp] theorem account_nil : keeper.account a [] = a := rfl

theorem account_cons {item : ω} : keeper.account a (item :: rest) = keeper.account (keeper.see a item) rest := rfl

theorem account_append : keeper.account a (items ++ rest) = keeper.account (keeper.account a items) rest :=
  List.foldl_append ..

theorem orderly_append :
    keeper.Orderly a (items ++ rest) ↔ keeper.Orderly a items ∧ keeper.Orderly (keeper.account a items) rest := by
  induction items generalizing a with
  | nil => exact (true_and _).symm.to_iff
  | cons item items ih =>
    simp only [List.cons_append, Orderly, ih, account_cons]
    exact and_assoc.symm

theorem account_comap {label : ω' → ω} {labelled : List ω'} :
    (keeper.comap label).account a labelled = keeper.account a (labelled.map label) := by
  rw [account, account, List.foldl_map]
  rfl

theorem orderly_comap {label : ω' → ω} {labelled : List ω'} :
    (keeper.comap label).Orderly a labelled ↔ keeper.Orderly a (labelled.map label) := by
  induction labelled generalizing a with
  | nil => rfl
  | cons item rest ih =>
    rw [List.map_cons, Orderly, Orderly, ih]
    rfl

end Lists

/-- From a state that an account tells of, `p` puts out what fits the account. What the account becomes is `effect`,
    as far as `view` shows, and it tells of the state that `p` leaves. -/
def Keeps (tells : γ → σ → Prop) (view : γ → δ) (p : Program ω ε σ α) (effect : γ → γ) : Prop :=
  ∀ s a, tells a s → Program.After p s fun items _ s' =>
    keeper.Orderly a items ∧ view (keeper.account a items) = view (effect a) ∧ tells (keeper.account a items) s'

section Programs

open Program

variable {keeper} {tells : γ → σ → Prop} {view : γ → δ} {p : Program ω ε σ α} {f : α → Program ω ε σ β} {effect : γ → γ}

theorem keeps_pure {x : α} : keeper.Keeps tells view (pure x : Program ω ε σ α) id := by
  intro s a told
  rw [after_pure]
  exact ⟨trivial, rfl, told⟩

theorem keeps_fail {reason : ε} : keeper.Keeps tells view (fail reason : Program ω ε σ α) effect :=
  fun _ _ _ _ _ _ runs => absurd runs not_runs_fail

theorem keeps_put {items : List ω} (fits : ∀ a, keeper.Orderly a items)
    (told : ∀ a (s : σ), tells a s → tells (keeper.account a items) s) :
    keeper.Keeps tells view (put items : Program ω ε σ Unit) fun a => keeper.account a items := by
  intro s a holds
  rw [after_put]
  exact ⟨fits a, rfl, told a s holds⟩

theorem keeps_modify {g : σ → σ} (told : ∀ a s, tells a s → tells a (g s)) :
    keeper.Keeps tells view (modify g : Program ω ε σ Unit) id := by
  intro s a holds
  rw [after_modify]
  exact ⟨trivial, rfl, told a s holds⟩

theorem Keeps.bind (first : keeper.Keeps tells id p effect) (effect' : γ → γ)
    (second : ∀ x, keeper.Keeps tells view (f x) effect') :
    keeper.Keeps tells view (p >>= f) fun a => effect' (effect a) := by
  intro s a told
  rw [after_bind]
  refine (first s a told).mono ?_
  intro items x t kept
  obtain ⟨orderly, same, told'⟩ := kept
  refine (second x t _ told').mono ?_
  intro items' _ u kept'
  obtain ⟨orderly', same', told''⟩ := kept'
  rw [account_append, orderly_append]
  refine ⟨⟨orderly, orderly'⟩, ?_, told''⟩
  rw [same']
  exact congrArg (fun b => view (effect' b)) same

/-- What leaves the account alone may come first. -/
theorem Keeps.before (first : keeper.Keeps tells id p id) (second : ∀ x, keeper.Keeps tells view (f x) effect) :
    keeper.Keeps tells view (p >>= f) effect := first.bind effect second

theorem Keeps.then_still (first : keeper.Keeps tells view p effect) (second : ∀ x, keeper.Keeps tells view (f x) id) :
    keeper.Keeps tells view (p >>= f) effect := by
  intro s a told
  rw [after_bind]
  refine (first s a told).mono ?_
  intro items x t kept
  obtain ⟨orderly, same, told'⟩ := kept
  refine (second x t _ told').mono ?_
  intro items' _ u kept'
  obtain ⟨orderly', same', told''⟩ := kept'
  rw [account_append, orderly_append]
  exact ⟨⟨orderly, orderly'⟩, same'.trans same, told''⟩

theorem keeps_get_bind {f : σ → Program ω ε σ β} (second : ∀ s, keeper.Keeps tells view (f s) effect) :
    keeper.Keeps tells view (get >>= f) effect := by
  intro s a told
  rw [after_bind, after_get]
  exact second s s a told

/-- What the view does not show may come last. -/
theorem Keeps.pure_bind (first : keeper.Keeps tells view p effect) (g : α → β) :
    keeper.Keeps tells view (p >>= fun x => pure (g x)) effect := by
  intro s a told
  rw [after_bind]
  refine (first s a told).mono ?_
  intro items x t kept
  rw [after_pure, List.append_nil]
  exact kept

theorem Keeps.whenever {c : Prop} [Decidable c] {p : Program ω ε σ Unit} (kept : keeper.Keeps tells view p id) :
    keeper.Keeps tells view (whenever c p) id := by
  unfold Program.whenever
  split
  · exact kept
  · exact keeps_pure

theorem Keeps.weaken (kept : keeper.Keeps tells id p effect) : keeper.Keeps tells view p effect := by
  intro s a told
  refine (kept s a told).mono ?_
  intro items _ t holds
  exact ⟨holds.1, congrArg view holds.2.1, holds.2.2⟩

theorem keeps_embed {label : ω' → ω} {p : Program ω' ε σ α} :
    keeper.Keeps tells view (embed (fun s => s) (fun s _ => s) label p : Program ω ε σ α) effect ↔
      (keeper.comap label).Keeps tells view p effect := by
  simp only [Keeps, after_embed, account_comap, orderly_comap]

end Programs

end Bookkeeper

end Machine
