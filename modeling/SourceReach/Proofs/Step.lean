import Mathlib.Logic.Function.Iterate
import SourceReach.Proofs.Layers
import SourceReach.Traversal

/-!
# What a step does

A step expands the pending files, each once and in order of first occurrence, and asks the
dependency function about exactly these (`step_asking`). The effects of the questions come first and
then a traversal that does not depend on them, so runs of any monad are known from `advance`.
-/

namespace SourceReach.Traversal

variable {m : Type → Type} [Monad m] {act : Text → m PUnit} {f : Text → List Text}

/-- A dependency function that does something when it is asked about a file. -/
def asking (act : Text → m PUnit) (f : Text → List Text) (file : Text) : m (List Text) := do
  act file
  pure (f file)

def fresh (processed files : List Text) : List Text := (distinct files).filter (· ∉ processed)

/-- What waits because files are expanded, one after the other. -/
def opened (f : Text → List Text) : List Text → List Text → List Text
  | _, [] => []
  | processed, file :: files =>
    (sortedDistinct (f file)).filter (· ∉ file :: processed) ++ opened f (file :: processed) files

/-- The traversal after the expansion of files that had not been expanded. -/
def expand (f : Text → List Text) (t : Traversal) (files : List Text) : Traversal :=
  { t with
    frontier := t.frontier ++ opened f t.processed files
    processed := files.reverse ++ t.processed
    discovered := t.discovered ++ files }

/-- The traversal after a step. -/
def advance (f : Text → List Text) (t : Traversal) : Traversal :=
  { expand f { t with frontier := [] } (distinct t.pending) with depth := t.depth + 1 }

theorem fresh_eq_distinct_filter (processed files : List Text) :
    fresh processed files = distinct (files.filter (· ∉ processed)) :=
      (distinct_filter _ files).symm

theorem fresh_cons_of_mem {processed files : List Text} {file : Text} (h : file ∈ processed) :
    fresh processed (file :: files) = fresh processed files := by
  simp [fresh_eq_distinct_filter, h]

theorem fresh_cons_of_notMem {processed files : List Text} {file : Text} (h : file ∉ processed) :
    fresh processed (file :: files) = file :: fresh (file :: processed) files := by
  rw [fresh, fresh, distinct, List.filter_cons_of_pos (by simpa using h), List.filter_filter]
  refine congrArg (file :: ·) (List.filter_congr fun other _ => ?_)
  by_cases hother : other = file <;> simp [hother]

@[simp] theorem expand_nil (t : Traversal) : expand f t [] = t := by
  simp [expand, opened]

theorem expand_cons (t : Traversal) (file : Text) (files : List Text) :
    expand f t (file :: files) = expand f (expand f t [file]) files := by
  simp [expand, opened]

/-- What waits because of an expanded file is a dependency of it that had not been expanded by
then. -/
theorem mem_opened {processed files : List Text} {file : Text} :
    file ∈ opened f processed files ↔ file ∉ processed ∧
      ∃ before parent behind, files = before ++ parent :: behind ∧ file ∈ f parent ∧
      file ∉ before ++ [parent] := by
  induction files generalizing processed with
  | nil => simp [opened]
  | cons first files ih =>
    rw [opened, List.mem_append, ih, List.mem_filter, mem_sortedDistinct, decide_eq_true_iff,
      List.mem_cons, not_or]
    constructor
    · rintro (⟨hfile, hfirst, hnew⟩ | ⟨⟨hfirst, hnew⟩, before, parent, behind, rfl, hfile, hbefore⟩)
      · exact ⟨hnew, [], first, files, rfl, hfile, by simpa using hfirst⟩
      · refine ⟨hnew, first :: before, parent, behind, rfl, hfile, ?_⟩
        rw [List.cons_append, List.mem_cons, not_or]
        exact ⟨hfirst, hbefore⟩
    · rintro ⟨hnew, before, parent, behind, hfiles, hfile, hbefore⟩
      rcases List.cons_eq_append_iff.1 hfiles with ⟨rfl, hparent⟩ | ⟨before, rfl, rfl⟩
      · obtain ⟨rfl, rfl⟩ := List.cons.inj hparent
        exact Or.inl ⟨hfile, by simpa using hbefore, hnew⟩
      · rw [List.cons_append, List.mem_cons, not_or] at hbefore
        exact Or.inr ⟨⟨hbefore.1, hnew⟩, before, parent, behind, rfl, hfile, hbefore.2⟩

/-- The inner loop: which files are expanded is known before it starts. -/
theorem foldlM_visit_asking [LawfulMonad m] (files : List Text) (t : Traversal) :
    files.foldlM (visit (asking act f)) t = (do
      forM (fresh t.processed files) act
      pure (expand f t (fresh t.processed files))) := by
  induction files generalizing t with
  | nil => simp [fresh, distinct]
  | cons file files ih =>
    rw [List.foldlM_cons]
    by_cases h : file ∈ t.processed
    · rw [fresh_cons_of_mem h]
      simpa [visit, h] using ih t
    · have hvisit : visit (asking act f) t file = (do act file; pure (expand f t [file])) := by
        simp [visit, h, asking, expand, opened]
      have hprocessed : (expand f t [file]).processed = file :: t.processed := by simp [expand]
      rw [fresh_cons_of_notMem h, hvisit, expand_cons t file (fresh _ _)]
      simp only [bind_assoc, pure_bind, ih, hprocessed, List.forM_cons]

/-- A step asks about the pending files, each once, and then does what the answers say. -/
theorem step_asking [LawfulMonad m] (act : Text → m PUnit) (f : Text → List Text) (t : Traversal) :
    step (asking act f) t = (do
      forM (distinct t.pending) act
      pure (advance f t)) := by
  have hfresh : fresh t.processed t.frontier = distinct t.pending := fresh_eq_distinct_filter _ _
  simp only [step, foldlM_visit_asking, hfresh, bind_assoc, pure_bind]
  rfl

/-! ## Many steps -/

/-- The traversal after at most `n` steps, for a dependency function that does nothing else. -/
def after (f : Text → List Text) (n : Nat) (t : Traversal) : Traversal :=
  Id.run (steps (fun file => pure (f file)) n t)

@[simp] theorem after_zero (t : Traversal) : after f 0 t = t := rfl

theorem after_succ (n : Nat) (t : Traversal) :
    after f (n + 1) t = if t.frontier = [] then t else after f n (advance f t) := by
  have hstep : step (m := Id) (fun file => pure (f file)) t = pure (advance f t) :=
    step_asking (m := Id) (fun _ => pure ⟨⟩) f t
  simp only [after, steps]
  split_ifs
  · rfl
  · rw [hstep, pure_bind]

/-- Steps ask about the files that they add to the discovered ones, in this order. -/
theorem steps_asking [LawfulMonad m] (act : Text → m PUnit) (f : Text → List Text) (n : Nat)
    (t : Traversal) :
    ∃ files, (after f n t).discovered = t.discovered ++ files ∧
      steps (asking act f) n t = (do forM files act; pure (after f n t)) := by
  induction n generalizing t with
  | zero => exact ⟨[], by simp, by simp [steps]⟩
  | succ n ih =>
    rw [after_succ, steps]
    split_ifs with h
    · exact ⟨[], by simp, by simp⟩
    · obtain ⟨files, hfiles, hsteps⟩ := ih (advance f t)
      refine ⟨distinct t.pending ++ files, ?_, ?_⟩
      · rw [hfiles]
        simp [advance, expand]
      · simp [step_asking, hsteps]

/-- Takes `n` steps, also when nothing waits. -/
def takeSteps (dependencies : Text → m (List Text)) : Nat → Traversal → m Traversal
  | 0, t => pure t
  | n + 1, t => do takeSteps dependencies n (← step dependencies t)

/-- A fixed number of steps asks about the files that it adds to the discovered ones, in this
order. -/
theorem takeSteps_asking [LawfulMonad m] (act : Text → m PUnit) (f : Text → List Text) (n : Nat)
    (t : Traversal) :
    ∃ files, ((advance f)^[n] t).discovered = t.discovered ++ files ∧
      takeSteps (asking act f) n t = (do forM files act; pure ((advance f)^[n] t)) := by
  induction n generalizing t with
  | zero => exact ⟨[], by simp, by simp [takeSteps]⟩
  | succ n ih =>
    obtain ⟨files, hfiles, hsteps⟩ := ih (advance f t)
    refine ⟨distinct t.pending ++ files, ?_, ?_⟩
    · rw [Function.iterate_succ_apply, hfiles]
      simp [advance, expand]
    · rw [takeSteps, Function.iterate_succ_apply]
      simp [step_asking, hsteps]

/-! ## Dependency functions that agree -/

variable {g : Text → List Text}

theorem opened_congr {files : List Text} (h : ∀ file ∈ files, f file = g file)
    (processed : List Text) :
    opened f processed files = opened g processed files := by
  induction files generalizing processed with
  | nil => rfl
  | cons file files ih =>
    obtain ⟨hfile, hfiles⟩ := List.forall_mem_cons.1 h
    rw [opened, opened, hfile, ih hfiles]

theorem advance_congr {t : Traversal} (h : ∀ file ∈ distinct t.pending, f file = g file) :
    advance f t = advance g t := by
  unfold advance expand
  rw [opened_congr h]

theorem discovered_subset_after (f : Text → List Text) (n : Nat) (t : Traversal) :
    t.discovered ⊆ (after f n t).discovered := by
  obtain ⟨files, hfiles, -⟩ := steps_asking (m := Id) (fun _ => pure ⟨⟩) f n t
  rw [hfiles]
  exact List.subset_append_left _ _

/-- Two traversals go in lockstep when the dependencies of the files that one of them discovers are
the same. -/
theorem after_congr {n : Nat} {t : Traversal}
    (h : ∀ file ∈ (after f n t).discovered, f file = g file) :
    after f n t = after g n t := by
  induction n generalizing t with
  | zero => rfl
  | succ n ih =>
    rw [after_succ] at h ⊢
    rw [after_succ]
    split_ifs at h ⊢
    · rfl
    · have hstep : advance f t = advance g t := by
        refine advance_congr fun file hfile => h file (discovered_subset_after f n _ ?_)
        exact List.mem_append_right _ hfile
      rw [ih h, hstep]

/-! ## Levels -/

/-- The traversal has expanded the layers before a number, and this layer is what waits. -/
structure AtLevel (f : Text → List Text) (entry : Text) (k : Nat) (t : Traversal) : Prop where
  discovered : t.discovered = layersBelow f entry k
  processed : t.processed = (layersBelow f entry k).reverse
  pending : distinct t.pending = layer f entry k

variable {entry : Text} {k : Nat} {t : Traversal}

theorem atLevel_seed (f : Text → List Text) (entry : Text) : AtLevel f entry 0 (seed entry) where
  discovered := rfl
  processed := rfl
  pending := by simp [pending, seed, distinct, layer]

/-- What waits after an expansion: nothing but the expanded files is missing from their
dependencies. -/
theorem filter_opened {processed files expanded : List Text}
    (hprocessed : ∀ file ∈ processed, file ∈ expanded)
    (hfiles : ∀ file ∈ files, file ∈ expanded) :
    (opened f processed files).filter (· ∉ expanded) =
      (files.flatMap fun file => (f file).toFinset.sort).filter (· ∉ expanded) := by
  induction files generalizing processed with
  | nil => rfl
  | cons file files ih =>
    have hfile : file ∈ expanded := hfiles file List.mem_cons_self
    have hseen : ∀ other ∈ file :: processed, other ∈ expanded :=
      List.forall_mem_cons.2 ⟨hfile, hprocessed⟩
    rw [opened, List.flatMap_cons, List.filter_append, List.filter_append,
      ih hseen fun other hother => hfiles other (List.mem_cons_of_mem _ hother), List.filter_filter,
      sortedDistinct_eq_sort]
    congr 1
    refine List.filter_congr fun other _ => ?_
    by_cases hother : other ∈ expanded
    · simp [hother]
    · have hnew : other ∉ file :: processed := fun h => hother (hseen other h)
      simp only [hother, hnew, not_false_eq_true, decide_true, Bool.and_self]

theorem pending_advance (f : Text → List Text) (t : Traversal) :
    (advance f t).pending = (opened f t.processed (distinct t.pending)).filter
      (· ∉ (distinct t.pending).reverse ++ t.processed) := rfl

theorem AtLevel.advance (h : AtLevel f entry k t) : AtLevel f entry (k + 1) (advance f t) where
  discovered := by simp [Traversal.advance, expand, layersBelow, h.discovered, h.pending]
  processed := by simp [Traversal.advance, expand, layersBelow, h.processed, h.pending]
  pending := by
    have hexpanded : ∀ file, file ∈ (layer f entry k).reverse ++ t.processed ↔
        file ∈ layersBelow f entry k ++ layer f entry k := by
      intro file
      simp [h.processed, or_comm]
    rw [pending_advance, h.pending, filter_opened]
    · simp only [hexpanded]
      rw [distinct_filter, layer, nextLayer]
    · exact fun file hfile => List.mem_append_right _ hfile
    · exact fun file hfile => List.mem_append_left _ (List.mem_reverse.2 hfile)

theorem AtLevel.of_frontier_eq_nil (h : AtLevel f entry k t) (hnil : t.frontier = []) (n : Nat) :
    AtLevel f entry (k + n) t := by
  have hlayer : layer f entry k = [] := by
    rw [← h.pending]
    simp [Traversal.pending, hnil, distinct]
  have hbelow : layersBelow f entry (k + n) = layersBelow f entry k :=
    layersBelow_eq_of_le hlayer (Nat.le_add_right k n)
  refine ⟨hbelow ▸ h.discovered, hbelow ▸ h.processed, ?_⟩
  rw [h.pending, hlayer, layer_eq_nil_of_le hlayer (Nat.le_add_right k n)]

theorem AtLevel.after (h : AtLevel f entry k t) (n : Nat) :
    AtLevel f entry (k + n) (after f n t) := by
  induction n generalizing k t with
  | zero => simpa using h
  | succ n ih =>
    rw [after_succ]
    split_ifs with hnil
    · exact h.of_frontier_eq_nil hnil _
    · rw [Nat.add_comm n 1, ← Nat.add_assoc]
      exact ih h.advance

theorem atLevel_after_seed (f : Text → List Text) (entry : Text) (n : Nat) :
    AtLevel f entry n (Traversal.after f n (seed entry)) := by
  simpa using (atLevel_seed f entry).after n

end SourceReach.Traversal
