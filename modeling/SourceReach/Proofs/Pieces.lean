import Mathlib.Tactic.SplitIfs
import SourceReach.Text.Basic

/-!
# Pieces between separators

Pieces and joins are those of lists (`pieces_eq_splitOn`, `joined_eq_intercalate`). So cutting a
text and joining texts undo each other, as long as the joined texts do not have the separator in
them (`pieces_joined`; the other direction is `joined_pieces`).
-/

namespace SourceReach.Text

variable {sep c : Char} {s t : Text} {ts : List Text}

theorem consFirst_eq_modifyHead {ps : List Text} (h : ps ≠ []) (c : Char) :
    consFirst c ps = ps.modifyHead (c :: ·) := by
  cases ps with
  | nil => exact absurd rfl h
  | cons p ps => rfl

theorem pieces_eq_splitOn (sep : Char) (t : Text) : pieces sep t = t.splitOn sep := by
  induction t with
  | nil => rfl
  | cons c t ih =>
    rw [List.splitOn_cons_eq_if_modifyHead, pieces, ih,
      consFirst_eq_modifyHead (List.splitOn_ne_nil sep t)]
    simp only [beq_iff_eq]

theorem joined_eq_intercalate (sep : Text) (ts : List Text) :
    joined sep ts = sep.intercalate ts := by
  induction ts with
  | nil => rfl
  | cons t ts ih =>
    cases ts with
    | nil => exact List.intercalate_singleton.symm
    | cons u ts => rw [joined, ih, List.intercalate_cons_cons]

theorem pieces_sep (sep : Char) (t : Text) : pieces sep (sep :: t) = [] :: pieces sep t := by
  rw [pieces, if_pos rfl]

theorem pieces_append_sep (sep : Char) (s t : Text) :
    pieces sep (s ++ sep :: t) = pieces sep s ++ pieces sep t := by
  induction s with
  | nil => exact pieces_sep sep t
  | cons c s ih =>
    rw [List.cons_append, pieces, pieces, ih]
    by_cases hc : c = sep
    · rw [if_pos hc, if_pos hc, List.cons_append]
    · rw [if_neg hc, if_neg hc]
      obtain ⟨p, ps, hs⟩ := List.exists_cons_of_ne_nil (pieces_ne_nil sep s)
      rw [hs]
      rfl

theorem nil_mem_pieces_of_doubled {t : Text} (h : [sep, sep] <:+: t) : [] ∈ pieces sep t := by
  obtain ⟨front, back, rfl⟩ := h
  have htext : front ++ [sep, sep] ++ back = front ++ sep :: sep :: back := by simp
  rw [htext, pieces_append_sep, pieces_sep]
  exact List.mem_append_right _ List.mem_cons_self

theorem pieces_eq_singleton (h : sep ∉ t) : pieces sep t = [t] := by
  rw [pieces_eq_splitOn, List.splitOn_eq_singleton h]

/-- Cutting the joined texts gives them back. -/
theorem pieces_joined (hne : ts ≠ []) (h : ∀ t ∈ ts, sep ∉ t) :
    pieces sep (joined [sep] ts) = ts := by
  rw [pieces_eq_splitOn, joined_eq_intercalate, List.splitOn_intercalate sep h hne]

theorem pieces_append (h : sep ∉ s) (t : Text) :
    ∃ front last, pieces sep t = front ++ [last] ∧ pieces sep (t ++ s) = front ++ [last ++ s] := by
  induction t with
  | nil => exact ⟨[], [], rfl, pieces_eq_singleton h⟩
  | cons c t ih =>
    obtain ⟨front, last, ht, hts⟩ := ih
    rw [List.cons_append, pieces, pieces, ht, hts]
    split_ifs with hc
    · exact ⟨[] :: front, last, rfl, rfl⟩
    · cases front with
      | nil => exact ⟨[], c :: last, rfl, rfl⟩
      | cons p front => exact ⟨(c :: p) :: front, last, rfl, rfl⟩

theorem head?_pieces (h : c ≠ sep) (t : Text) : ∃ p ps, pieces sep (c :: t) = (c :: p) :: ps := by
  rw [pieces, if_neg h]
  cases pieces sep t with
  | nil => exact ⟨[], [], rfl⟩
  | cons p ps => exact ⟨p, ps, rfl⟩

theorem notMem_of_mem_pieces (h : t ∈ pieces sep s) : sep ∉ t := by
  induction s generalizing t with
  | nil =>
    rw [List.mem_singleton.1 h]
    exact List.not_mem_nil
  | cons c s ih =>
    by_cases hc : c = sep
    · rw [pieces, if_pos hc] at h
      rcases List.mem_cons.1 h with rfl | h
      · exact List.not_mem_nil
      · exact ih h
    · obtain ⟨p, ps, hs⟩ := List.exists_cons_of_ne_nil (pieces_ne_nil sep s)
      rw [pieces, if_neg hc, hs, consFirst] at h
      rw [hs] at ih
      rcases List.mem_cons.1 h with rfl | h
      · rintro hmem
        rcases List.mem_cons.1 hmem with hsep | hmem
        · exact hc hsep.symm
        · exact ih List.mem_cons_self hmem
      · exact ih (List.mem_cons_of_mem _ h)

theorem joined_append (sep : Text) {ts us : List Text} (hts : ts ≠ []) (hus : us ≠ []) :
    joined sep (ts ++ us) = joined sep ts ++ sep ++ joined sep us := by
  obtain ⟨u, us, rfl⟩ := List.exists_cons_of_ne_nil hus
  induction ts with
  | nil => exact absurd rfl hts
  | cons t ts ih =>
    cases ts with
    | nil => rfl
    | cons t' ts =>
      rw [List.cons_append, List.cons_append, joined, joined, ← List.cons_append,
        ih (List.cons_ne_nil _ _)]
      simp only [List.append_assoc]

theorem mem_joined {sep : Text} (h : c ∈ joined sep ts) : c ∈ sep ∨ ∃ t ∈ ts, c ∈ t := by
  induction ts with
  | nil => exact absurd h List.not_mem_nil
  | cons t ts ih =>
    cases ts with
    | nil => exact Or.inr ⟨t, List.mem_cons_self, h⟩
    | cons u ts =>
      rw [joined, List.append_assoc, List.mem_append, List.mem_append] at h
      rcases h with h | h | h
      · exact Or.inr ⟨t, List.mem_cons_self, h⟩
      · exact Or.inl h
      · rcases ih h with h | ⟨v, hv, hc⟩
        · exact Or.inl h
        · exact Or.inr ⟨v, List.mem_cons_of_mem _ hv, hc⟩

theorem mem_joined_of_mem {sep : Text} (ht : t ∈ ts) (hc : c ∈ t) : c ∈ joined sep ts := by
  induction ts with
  | nil => exact absurd ht List.not_mem_nil
  | cons u ts ih =>
    cases ts with
    | nil => rwa [List.mem_singleton.1 ht] at hc
    | cons v ts =>
      rw [joined, List.mem_append]
      rcases List.mem_cons.1 ht with rfl | ht
      · exact Or.inl (List.mem_append_left _ hc)
      · exact Or.inr (ih ht)

theorem mem_of_mem_pieces (h : t ∈ pieces sep s) (hc : c ∈ t) : c ∈ s := by
  rw [← joined_pieces sep s]
  exact mem_joined_of_mem h hc

theorem exists_mem_pieces (h : c ∈ t) (hc : c ≠ sep) : ∃ p ∈ pieces sep t, c ∈ p := by
  rw [← joined_pieces sep t] at h
  exact (mem_joined h).resolve_left fun hsep => hc (List.mem_singleton.1 hsep)

theorem joined_append_cons (sep s t : Text) (ts : List Text) :
    joined sep ((s ++ t) :: ts) = s ++ joined sep (t :: ts) := by
  cases ts with
  | nil => rfl
  | cons u ts => simp only [joined, List.append_assoc]

/-- The first character of joined texts is the first one of the first text, if that is not empty. -/
theorem head?_joined {sep : Text} (hne : t ≠ []) (ts : List Text) :
    (joined sep (t :: ts)).head? = t.head? := by
  obtain ⟨c, t, rfl⟩ := List.exists_cons_of_ne_nil hne
  cases ts <;> rfl

theorem substitute_eq_self {old new : Char} (h : old ∉ t) : substitute old new t = t := by
  refine (List.map_congr_left fun c hc => if_neg ?_).trans (List.map_id t)
  rintro rfl
  exact h hc

theorem mem_substitute {old new : Char} (h : c ∈ substitute old new t) :
    c = new ∨ c ∈ t ∧ c ≠ old := by
  obtain ⟨d, hd, hc⟩ := List.mem_map.1 h
  split_ifs at hc with heq
  · exact Or.inl hc.symm
  · exact Or.inr (hc ▸ ⟨hd, heq⟩)

theorem notMem_substitute {old new : Char} (h : old ≠ new) (t : Text) :
    old ∉ substitute old new t := by
  intro hmem
  rcases mem_substitute hmem with heq | ⟨-, hne⟩
  · exact h heq
  · exact hne rfl

/-- Where one separator stands for another, the pieces are the same. -/
theorem pieces_substitute {old new : Char} (h : new ∉ t) :
    pieces new (substitute old new t) = pieces old t := by
  induction t with
  | nil => rfl
  | cons c t ih =>
    obtain ⟨hc, ht⟩ : new ≠ c ∧ new ∉ t := by simpa using h
    have hcons : substitute old new (c :: t) = (if c = old then new else c) ::
      substitute old new t := rfl
    rw [hcons, pieces, pieces, ih ht]
    by_cases hold : c = old
    · rw [if_pos hold, if_pos rfl, if_pos hold]
    · rw [if_neg hold, if_neg fun heq => hc heq.symm, if_neg hold]

end SourceReach.Text
