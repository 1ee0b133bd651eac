import Mathlib.Tactic.SplitIfs
import SourceReach.Shell

/-!
# Quoted words

A quoted word is cut out of a command line as the word that it was, whatever characters it has:
between single quotes every character stands for itself, and a single quote among them leaves the
quotes for a moment (`wordsFrom_single`). So cutting a line of quoted words gives the words back
(`split?_joined_quote`).
-/

namespace SourceReach.Shell

variable {c : Char} {t : Text}

theorem foldr_consFirst_cons (t p : Text) (ps : List Text) :
    t.foldr Text.consFirst (p :: ps) = (t ++ p) :: ps := by
  induction t with
  | nil => rfl
  | cons c t ih => rw [List.foldr_cons, ih, Text.consFirst, List.cons_append]

/-! ## Characters that stand for themselves -/

/-- The character neither ends a word nor changes how the next ones are read. -/
def IsOrdinary (c : Char) : Prop := isSeparator c = false ∧ c ≠ '\\' ∧ c ≠ '\'' ∧ c ≠ '"'

theorem isOrdinary_of_isSafe (h : isSafe c = true) : IsOrdinary c := by
  have hne : ∀ d, isSafe d = false → c ≠ d := by
    rintro d hd rfl
    exact absurd (h.symm.trans hd) (by decide)
  have hseparator : isSeparator c = false := by
    have hblank := hne ' ' (by decide)
    have htab := hne '\t' (by decide)
    have hreturn := hne '\r' (by decide)
    have hfeed := hne '\n' (by decide)
    simp [isSeparator, hblank, htab, hreturn, hfeed]
  exact ⟨hseparator, hne _ (by decide), hne _ (by decide), hne _ (by decide)⟩

/-- At the start of a word and inside it, an ordinary character goes to the front of what
follows. -/
theorem wordsFrom_ordinary {q : Quotation} (hq : q = .between ∨ q = .bare)
    (h : IsOrdinary c) (s : Text) :
    wordsFrom some q (c :: s) = (wordsFrom some .bare s).map (Text.consFirst c) := by
  obtain ⟨hseparator, hbackslash, hsingle, hdouble⟩ := h
  rcases hq with rfl | rfl <;> simp [wordsFrom, hseparator, hbackslash, hsingle, hdouble]

theorem wordsFrom_bare_ordinary (h : ∀ c ∈ t, IsOrdinary c) (s : Text) :
    wordsFrom some .bare (t ++ s) = (wordsFrom some .bare s).map (t.foldr Text.consFirst) := by
  induction t with
  | nil => simp
  | cons c t ih =>
    obtain ⟨hc, ht⟩ := List.forall_mem_cons.1 h
    rw [List.cons_append, wordsFrom_ordinary (.inr rfl) hc, ih ht, Option.map_map]
    rfl

/-! ## Characters in single quotes -/

theorem wordsFrom_opening {q : Quotation} (hq : q = .between ∨ q = .bare) (s : Text) :
    wordsFrom some q ('\'' :: s) = wordsFrom some .single s := by
  have hquote : isSeparator '\'' = false := by decide
  rcases hq with rfl | rfl <;> simp [wordsFrom, hquote]

theorem wordsFrom_quotedChar (c : Char) (s : Text) :
    wordsFrom some .single (quotedChar c ++ s) = (wordsFrom some .single s).map
      (Text.consFirst c) := by
  unfold quotedChar
  split_ifs with h
  · subst h
    -- The quotes are left, the single quote comes in double quotes, and the quotes are opened
    -- again.
    have hdouble : ∀ u, wordsFrom some .bare ('"' :: u) = wordsFrom some .double u := by
      have hquote : isSeparator '"' = false := by decide
      simp [wordsFrom, hquote]
    have hclosing : ∀ u, wordsFrom some .double ('\'' :: '"' :: u) = (wordsFrom some .bare u).map
        (Text.consFirst '\'') := by
      simp [wordsFrom]
    show wordsFrom some .bare ('"' :: '\'' :: '"' :: '\'' :: s) = _
    rw [hdouble, hclosing, wordsFrom_opening (.inr rfl)]
  · simp [wordsFrom, h]

theorem wordsFrom_single (t s : Text) :
    wordsFrom some .single (t.flatMap quotedChar ++ '\'' :: s) = (wordsFrom some .bare s).map
      (t.foldr Text.consFirst) := by
  induction t with
  | nil => simp [wordsFrom]
  | cons c t ih =>
    rw [List.flatMap_cons, List.append_assoc, wordsFrom_quotedChar, ih, Option.map_map]
    rfl

/-! ## Words -/

theorem wordsFrom_quote (t s : Text) :
    wordsFrom some .between (quote t ++ s) = (wordsFrom some .bare s).map
      (t.foldr Text.consFirst) := by
  unfold quote
  split_ifs with hnil hsafe
  · subst hnil
    show wordsFrom some .between ('\'' :: '\'' :: s) = _
    rw [wordsFrom_opening (.inl rfl)]
    simp [wordsFrom]
  · have hordinary : ∀ c ∈ t, IsOrdinary c :=
      fun c hc => isOrdinary_of_isSafe (List.all_eq_true.1 hsafe c hc)
    obtain ⟨c, t, rfl⟩ := List.exists_cons_of_ne_nil hnil
    have hbare := wordsFrom_bare_ordinary hordinary s
    rw [List.cons_append] at hbare ⊢
    rw [← hbare, wordsFrom_ordinary (.inl rfl) (hordinary c List.mem_cons_self)]
    exact (wordsFrom_ordinary (.inr rfl) (hordinary c List.mem_cons_self) _).symm
  · rw [List.append_assoc, List.append_assoc]
    exact (wordsFrom_opening (.inl rfl) _).trans (wordsFrom_single t s)

/-- A quoted word with a blank after it is the first word. -/
theorem wordsFrom_quote_blank (t s : Text) :
    wordsFrom some .between (quote t ++ ' ' :: s) = (wordsFrom some .between s).map (t :: ·) := by
  have hblank : wordsFrom some .bare (' ' :: s) = (wordsFrom some .between s).map ([] :: ·) := by
    simp [wordsFrom, isSeparator]
  rw [wordsFrom_quote, hblank, Option.map_map]
  congr 1
  funext ws
  exact (foldr_consFirst_cons t [] ws).trans (by rw [List.append_nil])

/-- Cutting a line of quoted words gives the words back. -/
theorem split?_joined_quote (ts : List Text) :
    split? (Text.joined [' '] (ts.map quote)) = some ts := by
  induction ts with
  | nil => rfl
  | cons t ts ih =>
    cases ts with
    | nil =>
      have hword := wordsFrom_quote t []
      rw [List.append_nil] at hword
      show wordsFrom some .between (quote t) = _
      rw [hword]
      show some (t.foldr Text.consFirst [[]]) = _
      rw [foldr_consFirst_cons, List.append_nil]
    | cons u ts =>
      have hline : Text.joined [' '] ((t :: u :: ts).map quote) =
          quote t ++ ' ' :: Text.joined [' '] ((u :: ts).map quote) := List.append_assoc _ _ _
      rw [hline, split?, wordsFrom_quote_blank, show wordsFrom some .between _ =
        some (u :: ts) from ih]
      rfl

end SourceReach.Shell
