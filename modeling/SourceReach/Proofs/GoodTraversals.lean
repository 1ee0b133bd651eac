import SourceReach.Proofs.BreadthFirst

/-!
# Good traversals

In a good traversal nothing has been expanded twice, and no dependency is forgotten. A step keeps it
good, whatever waits (`IsGood.advance`): files that wait more than once, files that have been
expanded in the meantime, or none at all. So no number of steps expands a file twice
(`steps_keepGood`).
-/

namespace SourceReach.Traversal

/-- No file has been expanded twice, what an expanded file depends on has been expanded or waits,
and what waits is the entry or such a dependency. -/
structure IsGood (f : Text → List Text) (entry : Text) (t : Traversal) : Prop where
  nodup : t.discovered.Nodup
  processed : ∀ file, file ∈ t.processed ↔ file ∈ t.discovered
  kept : ∀ file ∈ t.processed, ∀ dependency ∈ f file, dependency ∈ t.processed ∨
    dependency ∈ t.frontier
  called : ∀ file ∈ t.frontier, file = entry ∨ ∃ parent ∈ t.processed, file ∈ f parent

variable {f : Text → List Text} {entry file : Text} {t : Traversal}

/-! ## What a step comes to -/

theorem mem_pending : file ∈ t.pending ↔ file ∈ t.frontier ∧ file ∉ t.processed := by simp [pending]

theorem discovered_advance (f : Text → List Text) (t : Traversal) :
    (advance f t).discovered = t.discovered ++ distinct t.pending := rfl

theorem depth_advance (f : Text → List Text) (t : Traversal) :
    (advance f t).depth = t.depth + 1 := rfl

theorem frontier_advance (f : Text → List Text) (t : Traversal) :
    (advance f t).frontier = opened f t.processed (distinct t.pending) := rfl

theorem mem_processed_advance : file ∈ (advance f t).processed ↔
    file ∈ t.frontier ∨ file ∈ t.processed := by
  have hprocessed : (advance f t).processed = (distinct t.pending).reverse ++ t.processed := rfl
  rw [hprocessed, List.mem_append, List.mem_reverse, mem_distinct, mem_pending]
  tauto

/-- What waits after a step is a dependency of a file that the step has expanded. -/
theorem exists_parent_of_mem_frontier_advance (h : file ∈ (advance f t).frontier) :
    ∃ parent ∈ distinct t.pending, file ∈ f parent := by
  rw [frontier_advance] at h
  obtain ⟨-, before, parent, behind, hfiles, hfile, -⟩ := mem_opened.1 h
  exact ⟨parent, by simp [hfiles], hfile⟩

/-- A dependency of a file that a step expands waits afterwards, if it has not been expanded by
then. -/
theorem mem_frontier_advance {parent : Text} (hparent : parent ∈ distinct t.pending)
    (hfile : file ∈ f parent)
    (hnew : file ∉ (advance f t).processed) : file ∈ (advance f t).frontier := by
  obtain ⟨before, behind, hfiles⟩ := List.append_of_mem hparent
  rw [mem_processed_advance, not_or] at hnew
  rw [frontier_advance, mem_opened]
  refine ⟨hnew.2, before, parent, behind, hfiles, hfile, fun hbefore => hnew.1 ?_⟩
  have hpending : file ∈ distinct t.pending := by
    rw [hfiles, ← List.singleton_append, ← List.append_assoc]
    exact List.mem_append_left _ hbefore
  exact (mem_pending.1 (mem_distinct.1 hpending)).1

/-! ## Steps keep a traversal good -/

theorem isGood_seed (f : Text → List Text) (entry : Text) : IsGood f entry (seed entry) where
  nodup := List.nodup_nil
  processed := fun _ => Iff.rfl
  kept := nofun
  called := fun _ hfile => Or.inl (List.mem_singleton.1 hfile)

theorem IsGood.advance (h : IsGood f entry t) : IsGood f entry (advance f t) where
  nodup := by
    rw [discovered_advance]
    refine h.nodup.append (nodup_distinct _) fun file hold hnew => ?_
    exact (mem_pending.1 (mem_distinct.1 hnew)).2 ((h.processed file).2 hold)
  processed := fun file => by
    rw [mem_processed_advance, discovered_advance, List.mem_append, mem_distinct, mem_pending,
      ← h.processed]
    tauto
  kept := fun parent hparent dependency hdependency => by
    by_cases hdone : dependency ∈ (Traversal.advance f t).processed
    · exact Or.inl hdone
    · -- A file that had been expanded before has no dependency left that is not expanded now.
      have hnew : parent ∈ distinct t.pending := by
        by_contra hold
        rw [mem_distinct, mem_pending] at hold
        have hprocessed : parent ∈ t.processed := by
          rcases mem_processed_advance.1 hparent with hwaiting | hprocessed
          · exact not_not.1 fun hnot => hold ⟨hwaiting, hnot⟩
          · exact hprocessed
        exact hdone (mem_processed_advance.2 (h.kept parent hprocessed dependency hdependency).symm)
      exact Or.inr (mem_frontier_advance hnew hdependency hdone)
  called := fun file hfile => by
    obtain ⟨parent, hparent, hdependency⟩ := exists_parent_of_mem_frontier_advance hfile
    refine Or.inr ⟨parent, mem_processed_advance.2 (Or.inl ?_), hdependency⟩
    exact (mem_pending.1 (mem_distinct.1 hparent)).1

theorem IsGood.iterate (h : IsGood f entry t) (n : Nat) :
    IsGood f entry ((Traversal.advance f)^[n] t) := by
  induction n generalizing t with
  | zero => exact h
  | succ n ih =>
    rw [Function.iterate_succ_apply]
    exact ih h.advance

theorem run_step_ask (f : Text → List Text) (t : Traversal) (r : Record) :
    (step (asking Record.ask f) t).run r =
      (advance f t, { r with asked := r.asked ++ distinct t.pending }) := by
  rw [step_asking, StateT.run_bind, Record.run_forM_ask]
  rfl

theorem run_takeSteps_ask (f : Text → List Text) (n : Nat) (t : Traversal) :
    ∃ files, ((advance f)^[n] t).discovered = t.discovered ++ files ∧ ∀ r : Record,
      (takeSteps (asking Record.ask f) n t).run r =
        ((advance f)^[n] t, { r with asked := r.asked ++ files }) := by
  obtain ⟨files, hfiles, hsteps⟩ := takeSteps_asking Record.ask f n t
  refine ⟨files, hfiles, fun r => ?_⟩
  rw [hsteps, StateT.run_bind, Record.run_forM_ask]
  rfl

/-- The traversal that starts is good, and a step makes a good traversal of every good one. It
expands the files that wait and have not been expanded, each once and in the order in which they
first wait, and asks about just these; then all that waited has been expanded, and what waits is a
dependency of a file that the step has expanded. So however many steps are taken, no file is
expanded twice, and the expanded files are the discovered ones. -/
theorem steps_keepGood (f : Text → List Text) (entry : Text) :
    IsGood f entry (seed entry) ∧
    (∀ t, IsGood f entry t → ∃ t',
      (∀ r : Record, (step (asking Record.ask f) t).run r =
        (t', { r with asked := r.asked ++ distinct (t.frontier.filter (· ∉ t.processed)) })) ∧
      IsGood f entry t' ∧
      t'.discovered = t.discovered ++ distinct (t.frontier.filter (· ∉ t.processed)) ∧
      (∀ file ∈ t.frontier, file ∈ t'.processed) ∧
      (∀ file ∈ t'.frontier, ∃ parent ∈ t.frontier, parent ∉ t.processed ∧ file ∈ f parent) ∧
      t'.depth = t.depth + 1) ∧
    ∀ t, IsGood f entry t → ∀ n, ∃ t' files,
      (∀ r : Record, (takeSteps (asking Record.ask f) n t).run r =
        (t', { r with asked := r.asked ++ files })) ∧
      IsGood f entry t' ∧
      t'.discovered = t.discovered ++ files ∧
      (t.discovered ++ files).Nodup := by
  refine ⟨isGood_seed f entry, fun t h => ?_, fun t h n => ?_⟩
  · refine ⟨advance f t, run_step_ask f t, h.advance, rfl, ?_, fun file hfile => ?_, rfl⟩
    · exact fun file hfile => mem_processed_advance.2 (Or.inl hfile)
    · obtain ⟨parent, hparent, hdependency⟩ := exists_parent_of_mem_frontier_advance hfile
      obtain ⟨hwaiting, hnew⟩ := mem_pending.1 (mem_distinct.1 hparent)
      exact ⟨parent, hwaiting, hnew, hdependency⟩
  · obtain ⟨files, hfiles, hrun⟩ := run_takeSteps_ask f n t
    have hgood := h.iterate n
    exact ⟨_, files, hrun, hgood, hfiles, hfiles ▸ hgood.nodup⟩

/-- A file with two dependencies, of which the first depends on all three files. -/
def crossed (file : Text) : List Text :=
  if file = "a".toList then ["c".toList, "b".toList]
  else if file = "b".toList then ["c".toList, "b".toList, "a".toList]
  else []

/-- A traversal in which a file waits twice, and another one although it has been expanded. -/
def crossedMidway : Traversal where
  frontier := ["b".toList, "a".toList, "b".toList, "c".toList]
  processed := ["a".toList]
  discovered := ["a".toList]
  depth := 1

/-- A step from there expands the two other files, and no file is expanded twice in four steps. -/
theorem crossed_keepsGood :
    IsGood crossed "a".toList crossedMidway ∧
      (∃ t', IsGood crossed "a".toList t' ∧ ∀ r : Record,
        (step (asking Record.ask crossed) crossedMidway).run r =
          (t', { r with asked := r.asked ++ ["b".toList, "c".toList] })) ∧
      ∃ t' files, IsGood crossed "a".toList t' ∧ ("a".toList :: files).Nodup ∧ ∀ r : Record,
        (takeSteps (asking Record.ask crossed) 4 crossedMidway).run r =
          (t', { r with asked := r.asked ++ files }) := by
  have hgood : IsGood crossed "a".toList crossedMidway :=
    { nodup := by decide
      processed := fun _ => Iff.rfl
      kept := by decide
      called := by decide }
  obtain ⟨-, hstep, hsteps⟩ := steps_keepGood crossed "a".toList
  obtain ⟨t', hrun, hgood', -⟩ := hstep _ hgood
  obtain ⟨t'', files, hruns, hgood'', -, hnodup⟩ := hsteps _ hgood 4
  exact ⟨hgood, ⟨t', hgood', hrun⟩, t'', files, hgood'', hnodup, hruns⟩

end SourceReach.Traversal
