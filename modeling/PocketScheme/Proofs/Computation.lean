/-
Computations that give a result or a failure: what is known of the parts
of one from its outcome.

One computation after another has a result only if both have, and fails
with the failure of the first part that fails. The same is said of a
list of computations, which are taken in order: its results are those of
the single ones (`mapM_eq_ok_iff`), and its failure is that of one of
them, all before which have a result (`mapM_eq_error_iff`).
-/

namespace PocketScheme

variable {ε α β : Type}

theorem bind_eq_ok_iff {first : Except ε α} {next : α → Except ε β} {b : β} :
    (first >>= next) = .ok b ↔ ∃ a, first = .ok a ∧ next a = .ok b := by
  cases first with
  | error failure => simp [bind, Except.bind]
  | ok a => simp [bind, Except.bind]

theorem bind_eq_error_iff {first : Except ε α} {next : α → Except ε β} {failure : ε} :
    (first >>= next) = .error failure ↔
      first = .error failure ∨ ∃ a, first = .ok a ∧ next a = .error failure := by
  cases first with
  | error failure' => simp [bind, Except.bind]
  | ok a => simp [bind, Except.bind]

/-- Failures told apart in some respect only: if the second computation
cannot be told apart in it from another one, neither can the whole. -/
theorem mapError_bind_congr {δ : Type} {g : ε → δ} (first : Except ε α)
    {next next' : α → Except ε β} (h : ∀ a, (next a).mapError g = (next' a).mapError g) :
    (first >>= next).mapError g = (first >>= next').mapError g := by
  cases first with
  | error failure => rfl
  | ok a => exact h a

variable {f : α → Except ε β}

/-- Items that compute the same make lists that compute the same. -/
theorem mapM_congr_of_map_eq {items items' : List α} (h : items.map f = items'.map f) :
    items.mapM f = items'.mapM f := by
  induction items generalizing items' with
  | nil =>
      cases items' with
      | nil => rfl
      | cons a items' => cases h
  | cons a items ih =>
      cases items' with
      | nil => cases h
      | cons a' items' =>
          obtain ⟨hfirst, hmore⟩ := List.cons.inj h
          rw [List.mapM_cons, List.mapM_cons, hfirst, ih hmore]

/-- A list of computations gives the results of the single ones. -/
theorem mapM_eq_ok_iff {items : List α} {results : List β} :
    items.mapM f = .ok results ↔ items.map f = results.map .ok := by
  induction items generalizing results with
  | nil => cases results <;> simp [pure, Except.pure]
  | cons a items ih =>
      simp only [List.mapM_cons, bind_eq_ok_iff, ih, pure, Except.pure, Except.ok.injEq]
      cases results with
      | nil => simp
      | cons b results => simp

/-- The results of a list of computations are those of the single ones,
each of which has one. -/
theorem mem_iff_of_mapM_eq_ok {items : List α} {results : List β}
    (h : items.mapM f = .ok results) {b : β} : b ∈ results ↔ ∃ a ∈ items, f a = .ok b := by
  rw [← List.mem_map, mapM_eq_ok_iff.1 h, List.mem_map]
  simp

/-- A list of computations fails with the failure of its first one that
has no result. -/
theorem mapM_eq_error_iff {items : List α} {failure : ε} :
    items.mapM f = .error failure ↔
      ∃ before a after, items = before ++ a :: after ∧ (∀ b ∈ before, ∃ c, f b = .ok c)
        ∧ f a = .error failure := by
  constructor
  · intro h
    induction items with
    | nil => cases h
    | cons a items ih =>
        rw [List.mapM_cons, bind_eq_error_iff] at h
        rcases h with hfirst | ⟨c, hfirst, hmore⟩
        · exact ⟨[], a, items, rfl, by simp, hfirst⟩
        · rw [bind_eq_error_iff] at hmore
          rcases hmore with hmore | ⟨results, -, hpure⟩
          · obtain ⟨before, b, after, rfl, hbefore, hb⟩ := ih hmore
            exact ⟨a :: before, b, after, rfl, List.forall_mem_cons.2 ⟨⟨c, hfirst⟩, hbefore⟩, hb⟩
          · cases hpure
  · rintro ⟨before, a, after, rfl, hbefore, ha⟩
    induction before with
    | nil =>
        rw [List.nil_append, List.mapM_cons, bind_eq_error_iff]
        exact .inl ha
    | cons b before ih =>
        obtain ⟨⟨c, hc⟩, hbefore⟩ := List.forall_mem_cons.1 hbefore
        rw [List.cons_append, List.mapM_cons, bind_eq_error_iff]
        refine .inr ⟨c, hc, ?_⟩
        rw [bind_eq_error_iff]
        exact .inl (ih hbefore)

end PocketScheme
