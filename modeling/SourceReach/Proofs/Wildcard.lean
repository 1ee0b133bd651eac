import SourceReach.Proofs.Listing
import SourceReach.Text.Glob

/-!
# The glob of an extension

A star in front of an extension without wildcards stands for the names that end in the extension
(`isMatch_star_iff`), and it is one name of a glob (`ofText?_star`).
-/

namespace SourceReach

namespace Glob

variable {s t : Text}

theorem readParts_eq_map (h : GlobName.hasWildcard s = false) {n : Nat} (hn : s.length ≤ n) :
    readParts n s = s.map .exactly := by
  induction s generalizing n with
  | nil => cases n <;> rfl
  | cons c s ih =>
    obtain ⟨m, rfl⟩ : ∃ m, n = m + 1 := ⟨n - 1, by simp only [List.length_cons] at hn; omega⟩
    simp only [GlobName.hasWildcard, List.any_cons, Bool.or_eq_false_iff,
      decide_eq_false_iff_not] at h
    obtain ⟨⟨⟨hstar, hone⟩, hset⟩, hs⟩ := h
    have hm : s.length ≤ m := by simp only [List.length_cons] at hn; omega
    simp only [readParts, List.map_cons, ih hs hm]

theorem matchesParts_exactly_iff : matchesParts (s.map .exactly) t = true ↔ t = s := by
  induction s generalizing t with
  | nil => simp [matchesParts]
  | cons c s ih =>
    cases t with
    | nil => simp [matchesParts]
    | cons d t => simp [matchesParts, fits, ih]

theorem anywhere_iff {rest : Text → Bool} : anywhere rest t = true ↔
    ∃ s, s <:+ t ∧ rest s = true := by
  induction t with
  | nil => simp [anywhere]
  | cons c t ih =>
    rw [anywhere, Bool.or_eq_true, ih]
    constructor
    · rintro (h | ⟨s, hs, h⟩)
      · exact ⟨c :: t, List.suffix_rfl, h⟩
      · exact ⟨s, hs.trans (List.suffix_cons c t), h⟩
    · rintro ⟨s, hs, h⟩
      rcases List.suffix_cons_iff.1 hs with rfl | hs
      · exact Or.inl h
      · exact Or.inr ⟨s, hs, h⟩

/-- The star of an extension stands for the names that end in the extension. -/
theorem isMatch_star_iff (h : GlobName.hasWildcard s = false) :
    isMatch ('*' :: s) t = true ↔ s <:+ t := by
  have hparts : parts ('*' :: s) = .star :: s.map .exactly := by
    rw [parts, List.length_cons, readParts, readParts_eq_map h le_rfl]
  rw [isMatch, hparts, matchesParts, anywhere_iff]
  simp only [matchesParts_exactly_iff, exists_eq_right]

end Glob

namespace GlobName

variable {extension : Text}

theorem star_notMem (h : hasWildcard extension = false) : '*' ∉ extension := by
  intro hmem
  have hany : hasWildcard extension = true := List.any_eq_true.2 ⟨'*', hmem, rfl⟩
  rw [h] at hany
  exact Bool.false_ne_true hany

theorem hasDoubleStar_eq_false {t : Text} (h : '*' ∉ t) : hasDoubleStar t = false := by
  fun_induction hasDoubleStar t with
  | case1 s => exact absurd List.mem_cons_self h
  | case2 c s _ ih => exact ih fun hs => h (List.mem_cons_of_mem c hs)
  | case3 => rfl

/-- A star does not stand next to another one in front of an extension without wildcards. -/
theorem ofText?_star (hne : extension ≠ []) (hslash : '/' ∉ extension)
    (h : hasWildcard extension = false) :
    ofText? ('*' :: extension) = some [fitting ('*' :: extension)] := by
  have hstar := star_notMem h
  have hglob : '/' ∉ '*' :: extension := by simpa using hslash
  have hpieces : (Text.pieces '/' ('*' :: extension)).filter Path.isName = ['*' :: extension] := by
    rw [Text.pieces_eq_singleton hglob]
    simp [Path.isName]
  have hlast : ('*' :: extension).getLast? ≠ some '/' :=
    fun hlast => hglob (List.mem_of_getLast? hlast)
  have hpiece : ofPiece? ('*' :: extension) = some (fitting ('*' :: extension)) := by
    obtain ⟨c, s, rfl⟩ := List.exists_cons_of_ne_nil hne
    have hc : c ≠ '*' := by
      rintro rfl
      exact hstar List.mem_cons_self
    have hchain : '*' :: c :: s ≠ chainName := by
      intro heq
      exact hc (List.cons.inj (List.cons.inj heq).2).1
    have hdouble : hasDoubleStar ('*' :: c :: s) = false := by
      rw [hasDoubleStar.eq_def]
      simpa [hc] using hasDoubleStar_eq_false hstar
    unfold ofPiece?
    rw [if_neg hchain, hdouble, if_neg Bool.false_ne_true, if_pos (by rfl)]
  rw [ofText?, hpieces, if_neg hlast, List.mapM_cons, hpiece, List.mapM_nil]
  rfl

end GlobName

end SourceReach
