import Mathlib.Logic.Relation
import SourceReach.Proofs.Sorted

/-!
# Layers of a dependency function

Layer `k` of an entry file lists the files whose shortest chain of dependencies from the entry has
length `k` (`mem_layer`), in breadth-first order. The layers have no file in common and none twice
(`nodup_layersBelow`), and behind an empty layer there are only empty ones, so the layers below it
hold all that can be reached (`mem_layersBelow_of_reaches`).
-/

namespace SourceReach

/-- What the files of the last layer depend on, in order: first occurrences, without the files of
the layers so far. -/
def nextLayer (f : Text → List Text) (seen last : List Text) : List Text :=
  (distinct (last.flatMap fun file => (f file).toFinset.sort)).filter (· ∉ seen)

mutual

/-- The layer of a number: the entry file alone, and then what follows the layers so far. -/
def layer (f : Text → List Text) (entry : Text) : Nat → List Text
  | 0 => [entry]
  | k + 1 => nextLayer f (layersBelow f entry k ++ layer f entry k) (layer f entry k)

/-- The layers before a number, one after the other. -/
def layersBelow (f : Text → List Text) (entry : Text) : Nat → List Text
  | 0 => []
  | k + 1 => layersBelow f entry k ++ layer f entry k

end

/-- Some chain of `n` dependencies leads from the first file to the second. -/
def Chain (f : Text → List Text) : Nat → Text → Text → Prop
  | 0, first, last => first = last
  | n + 1, first, last => ∃ file, Chain f n first file ∧ last ∈ f file

/-- The shortest chain of dependencies from the first file to the second has length `n`. -/
def IsDistance (f : Text → List Text) (first last : Text) (n : Nat) : Prop :=
  Chain f n first last ∧ ∀ m < n, ¬Chain f m first last

/-- Dependencies of dependencies lead from the first file to the second. -/
def Reaches (f : Text → List Text) (first last : Text) : Prop :=
  Relation.ReflTransGen (fun file dependency => dependency ∈ f file) first last

variable {f : Text → List Text} {entry file : Text} {k n : Nat}

/-! ## Chains -/

theorem Chain.reaches (h : Chain f n entry file) : Reaches f entry file := by
  induction n generalizing file with
  | zero => exact h ▸ Relation.ReflTransGen.refl
  | succ n ih =>
    obtain ⟨parent, hparent, hfile⟩ := h
    exact (ih hparent).tail hfile

theorem Reaches.exists_chain (h : Reaches f entry file) : ∃ n, Chain f n entry file := by
  induction h with
  | refl => exact ⟨0, rfl⟩
  | tail _ hfile ih =>
    obtain ⟨n, hn⟩ := ih
    exact ⟨n + 1, _, hn, hfile⟩

theorem Chain.exists_isDistance (h : Chain f n entry file) :
    ∃ m ≤ n, IsDistance f entry file m := by
  classical
  have hex : ∃ n, Chain f n entry file := ⟨n, h⟩
  exact ⟨Nat.find hex, Nat.find_min' hex h, Nat.find_spec hex, fun _ hm => Nat.find_min hex hm⟩

theorem IsDistance.unique {m : Nat} (hm : IsDistance f entry file m)
    (hn : IsDistance f entry file n) : m = n := by
  by_contra hne
  rcases Nat.lt_or_gt_of_ne hne with h | h
  · exact hn.2 m h hm.1
  · exact hm.2 n h hn.1

theorem reaches_iff_exists_isDistance : Reaches f entry file ↔ ∃ n, IsDistance f entry file n := by
  constructor
  · intro h
    obtain ⟨n, hn⟩ := h.exists_chain
    obtain ⟨m, -, hm⟩ := hn.exists_isDistance
    exact ⟨m, hm⟩
  · rintro ⟨n, hn⟩
    exact hn.1.reaches

/-- On a shortest chain, the file before the last one is one step nearer. -/
theorem isDistance_succ :
    IsDistance f entry file (n + 1) ↔
      (∃ parent, IsDistance f entry parent n ∧ file ∈ f parent) ∧
      ∀ m ≤ n, ¬IsDistance f entry file m := by
  constructor
  · rintro ⟨⟨parent, hparent, hfile⟩, hmin⟩
    refine ⟨⟨parent, ⟨hparent, fun m hm h => ?_⟩, hfile⟩, fun m hm h => ?_⟩
    · exact hmin (m + 1) (by omega) ⟨parent, h, hfile⟩
    · exact hmin m (by omega) h.1
  · rintro ⟨⟨parent, hparent, hfile⟩, hmin⟩
    refine ⟨⟨parent, hparent.1, hfile⟩, fun m hm h => ?_⟩
    obtain ⟨l, hl, hdist⟩ := h.exists_isDistance
    exact hmin l (by omega) hdist

/-! ## Members of layers -/

theorem mem_nextLayer {seen last : List Text} :
    file ∈ nextLayer f seen last ↔ (∃ parent ∈ last, file ∈ f parent) ∧ file ∉ seen := by
  simp [nextLayer]

theorem nodup_nextLayer (seen last : List Text) : (nextLayer f seen last).Nodup :=
  (nodup_distinct _).filter _

theorem layersBelow_eq (f : Text → List Text) (entry : Text) (n : Nat) :
    layersBelow f entry n = (List.range n).flatMap (layer f entry) := by
  induction n with
  | zero => simp [layersBelow]
  | succ n ih => simp [layersBelow, ih, List.range_succ]

theorem mem_layersBelow_iff : file ∈ layersBelow f entry n ↔ ∃ m < n, file ∈ layer f entry m := by
  simp [layersBelow_eq]

/-- The files of a layer are those at one distance from the entry. -/
theorem mem_layer : file ∈ layer f entry k ↔ IsDistance f entry file k := by
  induction k using Nat.strong_induction_on generalizing file with
  | _ k ih =>
    cases k with
    | zero => simp [layer, IsDistance, Chain, eq_comm]
    | succ k =>
      have hseen : file ∉ layersBelow f entry k ++ layer f entry k ↔
          ∀ m ≤ k, ¬IsDistance f entry file m := by
        rw [← layersBelow, mem_layersBelow_iff]
        push Not
        refine forall_congr' fun m => ?_
        constructor
        · exact fun h hm hdist => h (by omega) ((ih m (by omega)).2 hdist)
        · exact fun h hm hmem => h (by omega) ((ih m hm).1 hmem)
      rw [layer, mem_nextLayer, hseen, isDistance_succ]
      simp only [ih k (Nat.lt_succ_self k)]

theorem mem_layersBelow : file ∈ layersBelow f entry n ↔ ∃ m < n, IsDistance f entry file m := by
  simp only [mem_layersBelow_iff, mem_layer]

theorem mem_layersBelow_of_chain (h : Chain f k entry file) (hkn : k < n) :
    file ∈ layersBelow f entry n := by
  obtain ⟨m, hm, hdist⟩ := h.exists_isDistance
  exact mem_layersBelow.2 ⟨m, by omega, hdist⟩

/-- With fewer dependencies, less is reached. Just the dependencies of files that are reached
count. -/
theorem layersBelow_subset {g : Text → List Text}
    (h : ∀ file ∈ layersBelow f entry n, g file ⊆ f file) :
    layersBelow g entry n ⊆ layersBelow f entry n := by
  have hchain : ∀ k < n, ∀ file, Chain g k entry file → Chain f k entry file := by
    -- All files on a short chain are reached, so each step of it is a step of the larger function.
    intro k hk
    induction k with
    | zero => exact fun file hfile => hfile
    | succ k ih =>
      rintro file ⟨parent, hparent, hfile⟩
      have hparent := ih (by omega) parent hparent
      exact ⟨parent, hparent, h parent (mem_layersBelow_of_chain hparent (by omega)) hfile⟩
  intro file hfile
  obtain ⟨k, hk, hdist⟩ := mem_layersBelow.1 hfile
  exact mem_layersBelow_of_chain (hchain k hk file hdist.1) hk

theorem nodup_layer (f : Text → List Text) (entry : Text) (k : Nat) : (layer f entry k).Nodup := by
  cases k with
  | zero => simp [layer]
  | succ k => exact nodup_nextLayer _ _

theorem nodup_layersBelow (f : Text → List Text) (entry : Text) (n : Nat) :
    (layersBelow f entry n).Nodup := by
  induction n with
  | zero => simp [layersBelow]
  | succ n ih =>
    refine List.Nodup.append ih (nodup_layer f entry n) fun file hbelow hlast => ?_
    obtain ⟨m, hm, hdist⟩ := mem_layersBelow.1 hbelow
    exact hm.ne (hdist.unique (mem_layer.1 hlast))

/-! ## Empty layers -/

theorem layer_eq_nil_of_le (h : layer f entry k = []) (hkn : k ≤ n) : layer f entry n = [] := by
  induction n, hkn using Nat.le_induction with
  | base => exact h
  | succ n _ ih => simp [layer, nextLayer, ih, distinct]

theorem layersBelow_eq_of_le (h : layer f entry k = []) (hkn : k ≤ n) :
    layersBelow f entry n = layersBelow f entry k := by
  induction n, hkn using Nat.le_induction with
  | base => rfl
  | succ n hkn ih => rw [layersBelow, ih, layer_eq_nil_of_le h hkn, List.append_nil]

theorem layersBelow_prefix (f : Text → List Text) (entry : Text) (hkn : k ≤ n) :
    layersBelow f entry k <+: layersBelow f entry n := by
  induction n, hkn using Nat.le_induction with
  | base => exact List.prefix_rfl
  | succ n _ ih => exact ih.trans (List.prefix_append _ _)

theorem head?_layersBelow (f : Text → List Text) (entry : Text) (h : 0 < n) :
    (layersBelow f entry n).head? = some entry := by
  obtain ⟨rest, hrest⟩ := layersBelow_prefix f entry (Nat.succ_le_of_lt h)
  rw [← hrest]
  rfl

theorem mem_layersBelow_of_reaches (h : layer f entry n = []) (hreach : Reaches f entry file) :
    file ∈ layersBelow f entry n := by
  obtain ⟨m, hm⟩ := reaches_iff_exists_isDistance.1 hreach
  refine mem_layersBelow.2 ⟨m, ?_, hm⟩
  by_contra hnm
  have hnil := layer_eq_nil_of_le h (not_lt.1 hnm)
  exact List.ne_nil_of_mem (mem_layer.2 hm) hnil

end SourceReach
