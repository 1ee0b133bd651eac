import Mathlib.Data.Set.Card
import SourceReach.Proofs.Step

/-!
# Breadth-first closures

The closure of a dependency function discovers the layers before the bound, one after the other, and
asks about each of their files once, in the same order (`explore_discovered_eq`). The bound has left
something out just when the layer at the bound is not empty, and the warning counts this layer
(`explore_truncated_iff`).
-/

namespace SourceReach.Traversal

/-- What a traversal has asked its dependency function, and what it has warned about. -/
structure Record where
  asked : List Text := []
  warnings : List Text := []

namespace Record

/-- Takes down a question about a file. -/
def ask (file : Text) : StateM Record PUnit := modify fun r => { r with asked := r.asked ++ [file] }

def warn (message : Text) : StateM Record PUnit :=
  modify fun r => { r with warnings := r.warnings ++ [message] }

theorem run_forM_ask (files : List Text) (r : Record) :
    (forM files ask).run r = (⟨⟩, { r with asked := r.asked ++ files }) := by
  induction files generalizing r with
  | nil => exact congrArg (Prod.mk _) (by rw [List.append_nil])
  | cons file files ih =>
    rw [List.forM_cons, StateT.run_bind]
    change (forM files ask).run { r with asked := r.asked ++ [file] } = _
    rw [ih, List.append_assoc, List.singleton_append]

end Record

/-- The closure of a dependency function from an entry file, and the record of the run. -/
def explore (f : Text → List Text) (entry : Text) (bound : Int) : Closure × Record :=
  (closure (asking Record.ask f) Record.warn entry bound).run {}

variable {f : Text → List Text} {entry : Text} {bound : Int}

/-- In any monad, a closure asks about the layers before the bound, warns if need be, and returns
what the answers say. -/
theorem closure_asking {m : Type → Type} [Monad m] [LawfulMonad m] (act : Text → m PUnit)
    (f : Text → List Text)
    (warn : Text → m PUnit) (entry : Text) (bound : Int) :
    closure (asking act f) warn entry bound = (do
      forM (layersBelow f entry bound.toNat) act
      forM ((after f bound.toNat (seed entry)).warning? bound).toList warn
      pure ((after f bound.toNat (seed entry)).result entry bound)) := by
  obtain ⟨files, hfiles, hsteps⟩ := steps_asking act f bound.toNat (seed entry)
  have hlayers : files = layersBelow f entry bound.toNat := by
    rw [← (atLevel_after_seed f entry bound.toNat).discovered, hfiles]
    rfl
  rw [closure, fromEntry, hsteps, hlayers]
  simp only [bind_assoc, pure_bind]
  congr 1
  funext _
  cases (after f bound.toNat (seed entry)).warning? bound <;> simp

theorem explore_eq (f : Text → List Text) (entry : Text) (bound : Int) :
    explore f entry bound =
      ((after f bound.toNat (seed entry)).result entry bound,
        { asked := layersBelow f entry bound.toNat
          warnings := ((after f bound.toNat (seed entry)).warning? bound).toList }) := by
  rw [explore, closure_asking, StateT.run_bind, Record.run_forM_ask]
  cases (after f bound.toNat (seed entry)).warning? bound <;> rfl

theorem explore_discovered_eq (f : Text → List Text) (entry : Text) (bound : Int) :
    (explore f entry bound).1.discovered = layersBelow f entry bound.toNat := by
  rw [explore_eq]
  exact (atLevel_after_seed f entry bound.toNat).discovered

theorem explore_truncated_iff : (explore f entry bound).1.truncated = true ↔
    layer f entry bound.toNat ≠ [] := by
  rw [explore_eq, ← (atLevel_after_seed f entry bound.toNat).pending]
  cases h : (after f bound.toNat (seed entry)).pending <;> simp [result, h, distinct]

/-- The discovered files are the layers before the bound, which are the files nearer to the entry
than the bound; none is discovered twice, and the dependency function is asked about each of them
once, in this order. -/
theorem explore_breadthFirst (f : Text → List Text) (entry : Text) (bound : Int) :
    (explore f entry bound).1.discovered = (List.range bound.toNat).flatMap (layer f entry) ∧
    (explore f entry bound).1.discovered.Nodup ∧
    (∀ file, file ∈ (explore f entry bound).1.discovered ↔
      ∃ n : ℕ, (n : ℤ) < bound ∧ IsDistance f entry file n) ∧
    (explore f entry bound).2.asked = (explore f entry bound).1.discovered := by
  rw [explore_discovered_eq]
  refine ⟨layersBelow_eq f entry _, nodup_layersBelow f entry _, fun file => ?_, ?_⟩
  · simp only [mem_layersBelow, Int.lt_toNat]
  · rw [explore_eq]

/-! ## What the bound leaves out -/

theorem ncard_isDistance (f : Text → List Text) (entry : Text) (n : Nat) :
    {file | IsDistance f entry file n}.ncard = (layer f entry n).length := by
  have hset : {file | IsDistance f entry file n} = ((layer f entry n).toFinset : Set Text) := by
    ext file
    simp [mem_layer]
  rw [hset, Set.ncard_coe_finset, List.toFinset_card_of_nodup (nodup_layer f entry n)]

theorem layer_eq_nil_iff {n : Nat} :
    layer f entry n = [] ↔ ∀ file, Reaches f entry file → file ∈ layersBelow f entry n := by
  constructor
  · exact fun h file => mem_layersBelow_of_reaches h
  · intro h
    refine List.eq_nil_iff_forall_not_mem.2 fun file hfile => ?_
    have hdist := mem_layer.1 hfile
    obtain ⟨m, hm, hm'⟩ := mem_layersBelow.1 (h file hdist.1.reaches)
    exact hm.ne (hm'.unique hdist)

theorem layersBelow_ssubset_succ {n : Nat} (h : layer f entry n ≠ []) :
    (layersBelow f entry n).toFinset ⊂ (layersBelow f entry (n + 1)).toFinset := by
  obtain ⟨file, hfile⟩ := List.exists_mem_of_ne_nil _ h
  refine Finset.ssubset_iff_subset_ne.2 ⟨fun other => ?_, fun heq => ?_⟩
  · simp only [List.mem_toFinset, layersBelow, List.mem_append]
    exact Or.inl
  · have hmem : file ∈ layersBelow f entry n := by
      rw [← List.mem_toFinset, heq, List.mem_toFinset]
      exact List.mem_append_right _ hfile
    obtain ⟨m, hm, hm'⟩ := mem_layersBelow.1 hmem
    exact hm.ne (hm'.unique (mem_layer.1 hfile))

theorem explore_warnings (f : Text → List Text) (entry : Text) (bound : Int) :
    (explore f entry bound).2.warnings =
      if (explore f entry bound).1.truncated = true then
        ["Reached maximum depth (".toList ++ Text.ofInt bound ++ ") with ".toList ++
          Text.ofNat (layer f entry bound.toNat).length ++ " file(s) left unexpanded".toList]
      else [] := by
  have hlayer := (atLevel_after_seed f entry bound.toNat).pending
  rw [explore_eq]
  by_cases h : (after f bound.toNat (seed entry)).pending = []
  · simp [warning?, result, h]
  · simp [warning?, result, h, hlayer]

/-- A deeper bound only adds at the end. The closure is truncated just when a file that can be
reached is missing, which is just when some deeper bound discovers more; the warning is given then,
and counts the files at the distance of the bound. -/
theorem explore_truncation (f : Text → List Text) (entry : Text) (bound : Int) :
    (∀ deeper ≥ bound, (explore f entry bound).1.discovered <+:
      (explore f entry deeper).1.discovered) ∧
    ((explore f entry bound).1.truncated = true ↔
      ∃ file, Reaches f entry file ∧ file ∉ (explore f entry bound).1.discovered) ∧
    ((explore f entry bound).1.truncated = true ↔
      ∃ deeper > bound, (explore f entry bound).1.discovered.toFinset ⊂
        (explore f entry deeper).1.discovered.toFinset) ∧
    ((explore f entry bound).1.truncated = false →
      ∀ deeper ≥ bound, (explore f entry deeper).1.discovered =
        (explore f entry bound).1.discovered) ∧
    (explore f entry bound).2.warnings =
      if (explore f entry bound).1.truncated = true then
        ["Reached maximum depth (".toList ++ Text.ofInt bound ++ ") with ".toList ++
          Text.ofNat {file | IsDistance f entry file bound.toNat}.ncard ++
            " file(s) left unexpanded".toList]
      else [] := by
  simp only [explore_discovered_eq, ncard_isDistance]
  have hcomplete : (explore f entry bound).1.truncated = false →
      layer f entry bound.toNat = [] := by
    intro h
    by_contra hne
    simp [explore_truncated_iff.2 hne] at h
  refine ⟨fun deeper h => ?_, ?_, ?_, fun h deeper hdeeper => ?_, explore_warnings f entry bound⟩
  · exact layersBelow_prefix f entry (Int.toNat_le_toNat h)
  · rw [explore_truncated_iff, Ne, layer_eq_nil_iff]
    push Not
    rfl
  · rw [explore_truncated_iff]
    constructor
    · intro h
      refine ⟨bound.toNat + 1, by omega, ?_⟩
      exact layersBelow_ssubset_succ h
    · rintro ⟨deeper, hdeeper, hmore⟩ hnil
      rw [layersBelow_eq_of_le hnil (Int.toNat_le_toNat (le_of_lt hdeeper))] at hmore
      exact hmore.ne rfl
  · exact layersBelow_eq_of_le (hcomplete h) (Int.toNat_le_toNat hdeeper)

end SourceReach.Traversal
