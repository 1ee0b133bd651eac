import Mathlib.Data.Set.Card
import SourceReach.Proofs.GoodTraversals

/-!
# How many steps a closure takes

After a step the files of the next layer wait, and besides them only files that the step has
expanded itself, after another file that depends on them (`frontier_advance_eq_nil`). Such files
keep a traversal going for one step more, but only behind the last layer; then nothing waits. So the
number of steps is told by the layers (`explore_depth`), and is at most one more than there are
files to reach, however large the bound is.
-/

namespace SourceReach

/-- Some file of the list depends on one that comes later in it. -/
def DependsLater (f : Text → List Text) (files : List Text) : Prop :=
  ∃ before file behind, files = before ++ file :: behind ∧ ∃ later ∈ behind, later ∈ f file

/-- The number of layers that are not empty. -/
noncomputable def layerCount (f : Text → List Text) (entry : Text) : ℕ∞ :=
  {k | layer f entry k ≠ []}.encard

variable {f : Text → List Text} {entry file : Text} {files : List Text} {k n : ℕ}

theorem not_dependsLater_nil : ¬DependsLater f [] := by
  rintro ⟨before, file, behind, hfiles, -⟩
  simp at hfiles

theorem dependsLater_cons :
    DependsLater f (file :: files) ↔ (∃ later ∈ files, later ∈ f file) ∨ DependsLater f files := by
  constructor
  · rintro ⟨before, first, behind, hfiles, hlater⟩
    rcases List.cons_eq_append_iff.1 hfiles with ⟨rfl, hfirst⟩ | ⟨before, rfl, rfl⟩
    · obtain ⟨rfl, rfl⟩ := List.cons.inj hfirst
      exact Or.inl hlater
    · exact Or.inr ⟨before, first, behind, rfl, hlater⟩
  · rintro (hlater | ⟨before, first, behind, rfl, hlater⟩)
    · exact ⟨[], file, files, rfl, hlater⟩
    · exact ⟨file :: before, first, behind, rfl, hlater⟩

instance decidableDependsLater (f : Text → List Text) :
    (files : List Text) → Decidable (DependsLater f files)
  | [] => isFalse not_dependsLater_nil
  | file :: files =>
    have := decidableDependsLater f files
    decidable_of_iff ((∃ later ∈ files, later ∈ f file) ∨
      DependsLater f files) dependsLater_cons.symm

/-! ## Numbers of layers -/

/-- Either no layer is empty, or the ones that are not are the first ones. -/
theorem layerCount_cases (f : Text → List Text) (entry : Text) :
    (layerCount f entry = ⊤ ∧ ∀ k, layer f entry k ≠ []) ∨
      ∃ n : ℕ, layerCount f entry = n ∧ ∀ k, layer f entry k ≠ [] ↔ k < n := by
  by_cases hall : ∀ k, layer f entry k ≠ []
  · refine Or.inl ⟨?_, hall⟩
    rw [layerCount, Set.encard_eq_top_iff]
    simpa [hall] using Set.infinite_univ (α := ℕ)
  · have hex : ∃ k, layer f entry k = [] := by simpa using hall
    classical
    have hfirst : ∀ k, layer f entry k ≠ [] ↔ k < Nat.find hex := by
      intro k
      rw [Nat.lt_find_iff]
      constructor
      · exact fun hk j hjk hj => hk (layer_eq_nil_of_le hj hjk)
      · exact fun hk => hk k le_rfl
    refine Or.inr ⟨Nat.find hex, ?_, hfirst⟩
    have hset : {k | layer f entry k ≠ []} = (Finset.range (Nat.find hex) : Set ℕ) := by
      ext k
      rw [Finset.coe_range, Set.mem_Iio]
      exact hfirst k
    rw [layerCount, hset, Set.encard_coe_eq_coe_finsetCard, Finset.card_range]

theorem layerCount_eq_iff : layerCount f entry = n ↔ ∀ k, layer f entry k ≠ [] ↔ k < n := by
  rcases layerCount_cases f entry with ⟨htop, hall⟩ | ⟨m, hm, hlayers⟩
  · refine iff_of_false (fun h => absurd (htop.symm.trans h) (ENat.top_ne_natCast n)) fun h => ?_
    exact lt_irrefl n ((h n).1 (hall n))
  · rw [hm, Nat.cast_inj]
    constructor
    · rintro rfl
      exact hlayers
    · exact fun h => eq_of_forall_lt_iff fun k => (hlayers k).symm.trans (h k)

theorem layer_ne_nil (h : layerCount f entry = ⊤) (k : ℕ) : layer f entry k ≠ [] := by
  rcases layerCount_cases f entry with ⟨-, hall⟩ | ⟨m, hm, -⟩
  · exact hall k
  · exact absurd (h.symm.trans hm) (ENat.top_ne_natCast m)

theorem layerCount_le (f : Text → List Text) (entry : Text) :
    layerCount f entry ≤ {file | Reaches f entry file}.encard := by
  have hfirst : ∀ k ∈ {k | layer f entry k ≠ []},
      IsDistance f entry ((layer f entry k).headD entry) k := by
    intro k hk
    obtain ⟨file, files, hfiles⟩ := List.exists_cons_of_ne_nil hk
    rw [hfiles, List.headD_cons, ← mem_layer, hfiles]
    exact List.mem_cons_self
  refine Set.encard_le_encard_of_injOn (f := fun k => (layer f entry k).headD entry) ?_ ?_
  · exact fun k hk => (hfirst k hk).1.reaches
  · intro j hj k hk heq
    have hk' := hfirst k hk
    rw [← show (layer f entry j).headD entry = (layer f entry k).headD entry from heq] at hk'
    exact (hfirst j hj).unique hk'

namespace Traversal

variable {t : Traversal}

/-! ## What waits -/

/-- After a step nothing waits just when the next layer is empty and no file of this layer depends
on a later one. -/
theorem frontier_advance_eq_nil (h : AtLevel f entry k t) :
    (advance f t).frontier = [] ↔ layer f entry (k + 1) = [] ∧
    ¬DependsLater f (layer f entry k) := by
  have hmem : ∀ file, file ∈ (advance f t).frontier ↔ file ∉ layersBelow f entry k ∧
      ∃ before parent behind, layer f entry k = before ++ parent :: behind ∧ file ∈ f parent ∧
        file ∉ before ++ [parent] := by
    intro file
    rw [frontier_advance, h.pending, mem_opened, h.processed, List.mem_reverse]
  constructor
  · intro hnil
    have hnone : ∀ file, file ∉ (advance f t).frontier := fun file => hnil ▸ List.not_mem_nil
    constructor
    · refine List.eq_nil_iff_forall_not_mem.2 fun file hfile => hnone file ((hmem file).2 ?_)
      obtain ⟨⟨parent, hparent, hdependency⟩, hnew⟩ := mem_nextLayer.1 hfile
      rw [List.mem_append, not_or] at hnew
      obtain ⟨before, behind, hlayer⟩ := List.append_of_mem hparent
      refine ⟨hnew.1, before, parent, behind, hlayer, hdependency, fun hbefore => hnew.2 ?_⟩
      rw [hlayer, ← List.singleton_append, ← List.append_assoc]
      exact List.mem_append_left _ hbefore
    · rintro ⟨before, parent, behind, hlayer, later, hlater, hdependency⟩
      have hnodup : (before ++ [parent] ++ behind).Nodup := by
        simpa [← hlayer] using nodup_layer f entry k
      refine hnone later ((hmem later).2 ⟨?_, before, parent, behind, hlayer, hdependency, ?_⟩)
      · intro hbelow
        have hlast : later ∈ layer f entry k := by rw [hlayer]; simp [hlater]
        exact (List.nodup_append.1 (nodup_layersBelow f entry (k + 1))).2.2 later hbelow
          later hlast rfl
      · exact fun hbefore => (List.nodup_append.1 hnodup).2.2 later hbefore later hlater rfl
  · rintro ⟨hlayer, hlater⟩
    refine List.eq_nil_iff_forall_not_mem.2 fun file hfile => ?_
    obtain ⟨hnew, before, parent, behind, hfiles, hdependency, hbefore⟩ := (hmem file).1 hfile
    by_cases hlast : file ∈ layer f entry k
    · refine hlater ⟨before, parent, behind, hfiles, file, ?_, hdependency⟩
      rw [hfiles, ← List.singleton_append, ← List.append_assoc] at hlast
      exact (List.mem_append.1 hlast).resolve_left hbefore
    · have hnext : file ∈ layer f entry (k + 1) := by
        refine mem_nextLayer.2 ⟨⟨parent, by simp [hfiles], hdependency⟩, ?_⟩
        rw [List.mem_append, not_or]
        exact ⟨hnew, hlast⟩
      rw [hlayer] at hnext
      exact absurd hnext List.not_mem_nil

theorem atLevel_iterate_seed (f : Text → List Text) (entry : Text) (k : ℕ) :
    AtLevel f entry k ((advance f)^[k] (seed entry)) := by
  induction k with
  | zero => exact atLevel_seed f entry
  | succ k ih =>
    rw [Function.iterate_succ_apply']
    exact ih.advance

theorem depth_iterate (f : Text → List Text) (t : Traversal) (k : ℕ) :
    ((advance f)^[k] t).depth = t.depth + k := by
  induction k with
  | zero => rfl
  | succ k ih => rw [Function.iterate_succ_apply', depth_advance, ih, Nat.add_assoc]

/-- After `k` steps from the entry nothing waits just when the layer of this number is empty and no
file of the one before depends on a later one. -/
theorem frontier_iterate_eq_nil : ((advance f)^[k] (seed entry)).frontier = [] ↔
    layer f entry k = [] ∧ ¬DependsLater f (layer f entry (k - 1)) := by
  cases k with
  | zero => exact iff_of_false (List.cons_ne_nil _ _) fun h => List.cons_ne_nil _ _ h.1
  | succ k =>
    rw [Function.iterate_succ_apply']
    exact frontier_advance_eq_nil (atLevel_iterate_seed f entry k)

/-- A traversal goes on up to the bound or until nothing waits. -/
theorem after_eq_iterate {bound : ℕ} (hk : k ≤ bound)
    (hgoing : ∀ j < k, ((advance f)^[j] t).frontier ≠ [])
    (hend : k < bound → ((advance f)^[k] t).frontier = []) :
    after f bound t = (advance f)^[k] t := by
  induction bound generalizing t k with
  | zero =>
    rw [Nat.le_zero.1 hk]
    rfl
  | succ bound ih =>
    rw [after_succ]
    cases k with
    | zero => exact if_pos (hend (Nat.succ_pos bound))
    | succ k =>
      rw [if_neg (show t.frontier ≠ [] from hgoing 0 (Nat.succ_pos k)), Function.iterate_succ_apply]
      refine ih (Nat.le_of_succ_le_succ hk) (fun j hj => ?_) fun hlt => ?_
      · rw [← Function.iterate_succ_apply]
        exact hgoing (j + 1) (Nat.succ_lt_succ hj)
      · rw [← Function.iterate_succ_apply]
        exact hend (Nat.succ_lt_succ hlt)

/-- The number of steps that the layers ask for: one for each layer that is not empty, and one more
if some file of the last of them depends on a later one. -/
theorem after_seed_of_finite (h : layerCount f entry = n) (bound : ℕ) :
    after f bound (seed entry) =
      (advance f)^[min bound (n + if DependsLater f (layer f entry (n - 1)) then 1 else 0)]
        (seed entry) := by
  refine after_eq_iterate (min_le_left _ _) (fun j hj hnil => ?_) fun hlt => ?_
  · obtain ⟨hlayer, hlater⟩ := frontier_iterate_eq_nil.1 hnil
    have hnj : n ≤ j := not_lt.1 fun hlt => (layerCount_eq_iff.1 h j).2 hlt hlayer
    -- Beyond the layers there is a step only because of a file that depends on a later one.
    split_ifs at hj with hlast
    · obtain rfl : j = n := by omega
      exact hlater hlast
    · omega
  · have hmin : min bound (n + if DependsLater f (layer f entry (n - 1)) then 1 else 0) =
        n + if DependsLater f (layer f entry (n - 1)) then 1 else 0 := by omega
    have hempty : ∀ j, n ≤ j → layer f entry j = [] := fun j hj =>
      not_not.1 fun hne => absurd ((layerCount_eq_iff.1 h j).1 hne) (not_lt.2 hj)
    rw [hmin, frontier_iterate_eq_nil]
    split_ifs with hlast
    · refine ⟨hempty _ (Nat.le_succ n), ?_⟩
      rw [Nat.add_sub_cancel, hempty n le_rfl]
      exact not_dependsLater_nil
    · exact ⟨hempty n le_rfl, hlast⟩

theorem after_seed_of_infinite (h : layerCount f entry = ⊤) (bound : ℕ) :
    after f bound (seed entry) = (advance f)^[bound] (seed entry) :=
  after_eq_iterate le_rfl (fun j _ hnil => layer_ne_nil h j (frontier_iterate_eq_nil.1 hnil).1)
    fun hlt => absurd hlt (lt_irrefl bound)

variable {bound : ℤ}

theorem explore_depth_eq :
    (explore f entry bound).1.depth = (after f bound.toNat (seed entry)).depth := by
  rw [explore_eq]
  rfl

theorem depth_of_finite (h : layerCount f entry = n) : (explore f entry bound).1.depth =
    max 0 (min bound (n + if DependsLater f (layer f entry (n - 1)) then 1 else 0)) := by
  rw [explore_depth_eq, after_seed_of_finite h, depth_iterate]
  have hseed : (seed entry).depth = 0 := rfl
  split_ifs <;> omega

theorem depth_of_infinite (h : layerCount f entry = ⊤) :
    (explore f entry bound).1.depth = max 0 bound := by
  rw [explore_depth_eq, after_seed_of_infinite h, depth_iterate]
  have hseed : (seed entry).depth = 0 := rfl
  omega

/-- The depth of a closure is the number of steps that have been taken. -/
theorem fromEntry_eq_takeSteps (f : Text → List Text) (entry : Text) (bound : ℤ) :
    fromEntry (asking Record.ask f) entry bound =
      takeSteps (asking Record.ask f) (explore f entry bound).1.depth.toNat (seed entry) := by
  have hafter : after f bound.toNat (seed entry) =
      (advance f)^[(explore f entry bound).1.depth.toNat] (seed entry) := by
    have hcount : ∃ k, after f bound.toNat (seed entry) = (advance f)^[k] (seed entry) := by
      rcases layerCount_cases f entry with ⟨htop, -⟩ | ⟨n, hn, -⟩
      · exact ⟨_, after_seed_of_infinite htop _⟩
      · exact ⟨_, after_seed_of_finite hn _⟩
    obtain ⟨k, hk⟩ := hcount
    have hdepth : (explore f entry bound).1.depth = k := by
      rw [explore_depth_eq, hk, depth_iterate]
      simp [seed]
    rw [hdepth, Int.toNat_natCast, hk]
  obtain ⟨files, hfiles, hsteps⟩ := steps_asking Record.ask f bound.toNat (seed entry)
  obtain ⟨files', hfiles', hsteps'⟩ :=
    takeSteps_asking Record.ask f (explore f entry bound).1.depth.toNat (seed entry)
  rw [hafter, hfiles'] at hfiles
  rw [fromEntry, hsteps, hsteps', hafter, List.append_cancel_left hfiles]

/-- The number of steps of a closure. While it has not reached the bound, it takes one step for each
layer that is not empty, and one more if some file of the last of these layers depends on a later
one; without a last layer it only ends at the bound. So it never takes more steps than there are
files to reach and one, and is complete when the bound is not smaller than the number of layers. -/
theorem explore_depth (f : Text → List Text) (entry : Text) (bound : ℤ) :
    (∀ n : ℕ, layerCount f entry = n → (explore f entry bound).1.depth =
      max 0 (min bound (n + if DependsLater f (layer f entry (n - 1)) then 1 else 0))) ∧
    (layerCount f entry = ⊤ → (explore f entry bound).1.depth = max 0 bound) ∧
    fromEntry (asking Record.ask f) entry bound =
      takeSteps (asking Record.ask f) (explore f entry bound).1.depth.toNat (seed entry) ∧
    ((explore f entry bound).1.depth.toNat : ℕ∞) ≤ {file | Reaches f entry file}.encard + 1 ∧
    ∀ n : ℕ, layerCount f entry = n → n ≤ bound → (explore f entry bound).1.truncated = false ∧
      ∀ file, Reaches f entry file → file ∈ (explore f entry bound).1.discovered := by
  refine ⟨fun n => depth_of_finite, depth_of_infinite, fromEntry_eq_takeSteps f entry bound, ?_,
    fun n hn hbound => ?_⟩
  · refine le_trans ?_ (add_le_add_left (layerCount_le f entry) 1)
    rcases layerCount_cases f entry with ⟨htop, -⟩ | ⟨n, hn, -⟩
    · simp [htop]
    · rw [depth_of_finite hn, hn]
      norm_cast
      split_ifs <;> omega
  · have hempty : layer f entry bound.toNat = [] :=
      not_not.1 fun hne => absurd ((layerCount_eq_iff.1 hn _).1 hne) (by omega)
    constructor
    · rw [← Bool.not_eq_true, explore_truncated_iff]
      exact not_not.2 hempty
    · intro file hfile
      rw [explore_discovered_eq]
      exact mem_layersBelow_of_reaches hempty hfile

/-- Both dependencies of the entry make up the last layer, and the first of them depends on the
second. -/
theorem crossed_depth :
    layerCount crossed "a".toList = (2 : ℕ) ∧ DependsLater crossed (layer crossed "a".toList 1) ∧
      (explore crossed "a".toList 50).1.depth = 3 ∧ (explore crossed "a".toList 2).1.depth = 2 ∧
      (explore crossed "a".toList 2).1.truncated = false := by
  have hlayer : layer crossed "a".toList 1 = ["b".toList, "c".toList] := by
    rw [← (atLevel_iterate_seed crossed "a".toList 1).pending]
    decide
  have hempty : layer crossed "a".toList 2 = [] := by
    rw [← (atLevel_iterate_seed crossed "a".toList 2).pending]
    decide
  have hcount : layerCount crossed "a".toList = (2 : ℕ) := by
    rw [layerCount_eq_iff]
    intro k
    constructor
    · exact fun hne => not_le.1 fun hk => hne (layer_eq_nil_of_le hempty hk)
    · intro hk hnil
      have hlast := layer_eq_nil_of_le hnil (Nat.le_of_lt_succ hk)
      rw [hlayer] at hlast
      exact List.cons_ne_nil _ _ hlast
  have hlater : DependsLater crossed (layer crossed "a".toList 1) := by
    rw [hlayer]
    decide
  have hdepth := (explore_depth crossed "a".toList 50).1 2 hcount
  have hbounded := explore_depth crossed "a".toList 2
  rw [if_pos hlater] at hdepth
  refine ⟨hcount, hlater, hdepth, ?_, ?_⟩
  · rw [hbounded.1 2 hcount, if_pos hlater]
    decide
  · exact (hbounded.2.2.2.2 2 hcount (by decide)).1

end Traversal

end SourceReach
