import Mathlib.Tactic.SplitIfs
import SourceReach.Text.Basic
import SourceReach.Text.Word

/-!
# Runs of characters

A run of characters of a class is cut off where a character of another kind follows
(`takeWhile_run`, `dropWhile_run`). So trimming takes off the blanks around a text (`trim_padded`),
and the words of a text are the runs between its blanks (`words_append`). No blank is a word
character, so a run of blanks ends where a name starts (`Space`, `Blanks`).
-/

namespace SourceReach

/-- Stretches of code points without letters. All blanks are in them. -/
def blankStretches : List (Nat × Nat) :=
  [(0x09, 0x20), (0x85, 0xA0), (0x1680, 0x1680), (0x2000, 0x205F), (0x3000, 0x3000)]

theorem inRanges_blankStretches {c : Char} (h : isBlank c = true) :
    inRanges blankStretches c.toNat = true := by
  simp only [isBlank, Bool.or_eq_true, Bool.and_eq_true, decide_eq_true_eq, beq_iff_eq] at h
  simp only [inRanges, blankStretches, List.any_cons, List.any_nil, Bool.or_false, Bool.or_eq_true,
    Bool.and_eq_true, decide_eq_true_eq]
  omega

/-- The comparison is the one of numbers, so that the table is gone through quickly. -/
theorem letterRanges_apart :
    (letterRanges.all fun r => blankStretches.all fun b => Nat.blt b.2 r.1 || Nat.blt r.2 b.1) =
      true := by
  decide +kernel

theorem toNat_of_isAlpha {c : Char} (h : c.isAlpha = true) : 0x41 ≤ c.toNat ∧ c.toNat ≤ 0x7A := by
  have hval : c.toNat = c.val.toNat := rfl
  rcases Bool.or_eq_true_iff.1 h with hupper | hlower
  · obtain ⟨hfirst, hlast⟩ : 'A'.val ≤ c.val ∧ c.val ≤ 'Z'.val := of_decide_eq_true hupper
    have hfirst : 0x41 ≤ c.val.toNat := UInt32.le_iff_toNat_le.1 hfirst
    have hlast : c.val.toNat ≤ 0x5A := UInt32.le_iff_toNat_le.1 hlast
    omega
  · obtain ⟨hfirst, hlast⟩ := Bool.and_eq_true_iff.1 hlower
    have hfirst : 0x61 ≤ c.val.toNat := UInt32.le_iff_toNat_le.1 (of_decide_eq_true hfirst)
    have hlast : c.val.toNat ≤ 0x7A := UInt32.le_iff_toNat_le.1 (of_decide_eq_true hlast)
    omega

theorem isWord_of_isBlank {c : Char} (h : isBlank c = true) : isWord c = false := by
  obtain ⟨b, hb, hcb⟩ := List.any_eq_true.1 (inRanges_blankStretches h)
  simp only [Bool.and_eq_true, decide_eq_true_eq] at hcb
  have hunderscore : (c == '_') = false := by
    rw [beq_eq_false_iff_ne]
    rintro rfl
    exact absurd h (by decide)
  rw [isWord, hunderscore, Bool.or_false, isAlphanumeric]
  split_ifs with hascii
  · -- Of the stretches only the first one is in the seven-bit part.
    have hpoint : c.toNat ≤ 0x20 := by
      simp only [blankStretches, List.mem_cons, List.not_mem_nil, or_false] at hb
      rcases hb with rfl | rfl | rfl | rfl | rfl <;> simp only at hcb <;> omega
    have halpha : c.isAlpha = false := by
      rw [Bool.eq_false_iff]
      intro h
      have hfirst := (toNat_of_isAlpha h).1
      omega
    have hval : c.toNat = c.val.toNat := rfl
    simp [Char.isAlphanum, halpha, Char.isDigit, UInt32.le_iff_toNat_le]
    omega
  · rw [inRanges, List.any_eq_false]
    intro r hr
    have happart := List.all_eq_true.1 (List.all_eq_true.1 letterRanges_apart r hr) b hb
    simp only [Bool.or_eq_true, Nat.blt_eq] at happart
    simp only [Bool.and_eq_true, decide_eq_true_eq]
    omega

theorem isBlank_of_isWord {c : Char} (h : isWord c = true) : isBlank c = false := by
  rw [Bool.eq_false_iff]
  intro hblank
  exact absurd (h.symm.trans (isWord_of_isBlank hblank)) nofun

/-! ## Blanks and spaces

What is asked of each character of a text, or of one at its end, is decided by going through the
text, and not through all characters that there are. -/

instance decidableForallMem (p : Char → Prop) [DecidablePred p] (t : Text) :
    Decidable (∀ c ∈ t, p c) :=
  List.decidableBAll p t

instance decidableForallMemOption (p : Char → Prop) [DecidablePred p] (o : Option Char) :
    Decidable (∀ c ∈ o, p c) :=
  Option.decidableForallMem o

structure Blanks where
  text : Text := []
  blank : ∀ c ∈ text, isBlank c = true := by decide

/-- One blank or more. -/
structure Space extends Blanks where
  ne_nil : text ≠ [] := by decide

theorem Space.isBlank_of_mem_head? (g : Space) (s : Text) :
    ∀ c ∈ (g.text ++ s).head?, isBlank c = true := by
  obtain ⟨c, t, ht⟩ := List.exists_cons_of_ne_nil g.ne_nil
  have hc := g.blank c (ht ▸ List.mem_cons_self)
  rw [ht]
  simpa using hc

namespace Text

variable {cls : Char → Bool} {s t : Text}

theorem forall_mem_head? {P : Char → Prop} {c : Char} (h : P c) (s : Text) :
    ∀ d ∈ (c :: s).head?, P d := by
  intro d hd
  rwa [← Option.some.inj hd]

theorem forall_mem_head?_append {P : Char → Prop} (ht : ∀ c ∈ t.head?, P c)
    (hs : ∀ c ∈ s.head?, P c) :
    ∀ c ∈ (t ++ s).head?, P c := by
  cases t with
  | nil => exact hs
  | cons c t => exact forall_mem_head? (ht c rfl) _

theorem takeWhile_run (ht : ∀ c ∈ t, cls c = true) (hs : ∀ c ∈ s.head?, cls c = false) :
    (t ++ s).takeWhile cls = t := by
  rw [List.takeWhile_append_of_pos ht]
  cases s with
  | nil => simp
  | cons c s => simp [hs c rfl]

theorem dropWhile_run (ht : ∀ c ∈ t, cls c = true) (hs : ∀ c ∈ s.head?, cls c = false) :
    (t ++ s).dropWhile cls = s := by
  rw [List.dropWhile_append_of_pos ht]
  cases s with
  | nil => rfl
  | cons c s => simp [hs c rfl]

theorem dropEnd_run (ht : ∀ c ∈ t.getLast?, cls c = false) (hs : ∀ c ∈ s, cls c = true) :
    dropEnd cls (t ++ s) = t := by
  rw [dropEnd, List.reverse_append, dropWhile_run (fun c hc => hs c (List.mem_reverse.1 hc)),
    List.reverse_reverse]
  rwa [List.head?_reverse]

/-- A text is a run of the class and what comes behind it. -/
theorem exists_run (cls : Char → Bool) (t : Text) :
    ∃ run rest, t = run ++ rest ∧ (∀ c ∈ run, cls c = true) ∧ ∀ c ∈ rest.head?, cls c = false := by
  induction t with
  | nil => exact ⟨[], [], rfl, nofun, nofun⟩
  | cons c t ih =>
    cases hc : cls c with
    | true =>
      obtain ⟨run, rest, rfl, hrun, hrest⟩ := ih
      exact ⟨c :: run, rest, rfl, List.forall_mem_cons.2 ⟨hc, hrun⟩, hrest⟩
    | false => exact ⟨[], c :: t, rfl, nofun, by simpa using hc⟩

/-! ## Trimmed texts -/

/-- No blank stands at an end of the text. -/
structure IsTrimmed (t : Text) : Prop where
  start : ∀ c ∈ t.head?, isBlank c = false
  finish : ∀ c ∈ t.getLast?, isBlank c = false

theorem isTrimmed_iff : t.IsTrimmed ↔
    t.head?.all (isBlank · = false) = true ∧ t.getLast?.all (isBlank · = false) = true := by
  simp only [Option.all_eq_true, decide_eq_true_iff]
  exact ⟨fun h => ⟨h.start, h.finish⟩, fun h => ⟨h.1, h.2⟩⟩

instance (t : Text) : Decidable t.IsTrimmed := decidable_of_iff _ isTrimmed_iff.symm

theorem isTrimmed_of_forall (h : ∀ c ∈ t, isBlank c = false) : t.IsTrimmed :=
  ⟨fun c hc => h c (List.mem_of_head? hc), fun c hc => h c (List.mem_of_getLast? hc)⟩

/-- Trimming takes off the blanks around a text, and nothing of the text. -/
theorem trim_padded (h : t.IsTrimmed) (hne : t ≠ []) {before after : Text}
    (hbefore : ∀ c ∈ before, isBlank c = true)
    (hafter : ∀ c ∈ after, isBlank c = true) : trim (before ++ t ++ after) = t := by
  have hstart : ∀ c ∈ (t ++ after).head?, isBlank c = false := by
    obtain ⟨c, t, rfl⟩ := List.exists_cons_of_ne_nil hne
    exact h.start
  rw [trim, List.append_assoc, dropWhile_run hbefore hstart, dropEnd_run h.finish hafter]

theorem trim_eq_self (h : ∀ c ∈ t, isBlank c = false) : trim t = t := by
  by_cases hne : t = []
  · rw [hne]
    rfl
  · have htrim : trim ([] ++ t ++ []) = t := trim_padded (isTrimmed_of_forall h) hne nofun nofun
    rwa [List.nil_append, List.append_nil] at htrim

/-! ## Words -/

theorem words_blanks (h : ∀ c ∈ s, isBlank c = true) (t : Text) : words (s ++ t) = words t := by
  induction s with
  | nil => rfl
  | cons c s ih =>
    obtain ⟨hc, hs⟩ := List.forall_mem_cons.1 h
    rw [List.cons_append, words, runsOutside, if_pos hc]
    exact ih hs

/-- A run without blanks at the front, up to a blank or the end, is the first word. -/
theorem words_append (hne : t ≠ []) (ht : ∀ c ∈ t, isBlank c = false)
    (hs : ∀ c ∈ s.head?, isBlank c = true) :
    words (t ++ s) = t :: words s := by
  induction t with
  | nil => exact absurd rfl hne
  | cons c t ih =>
    obtain ⟨hc, ht⟩ := List.forall_mem_cons.1 ht
    rw [List.cons_append, words, runsOutside, if_neg (by simp [hc])]
    cases t with
    | nil =>
      cases s with
      | nil => rfl
      | cons d s => simp [hs d rfl, words]
    | cons d t =>
      have hd : isBlank d = false := ht d List.mem_cons_self
      have hwords : runsOutside isBlank (d :: t ++ s) = (d :: t) :: words s :=
        ih (List.cons_ne_nil d t) ht
      rw [hwords]
      simp [hd, consFirst]

end Text

end SourceReach
