import Mathlib.Data.List.Induction
import Mathlib.Logic.Function.Iterate
import SourceReach.Java.TypeName
import SourceReach.Proofs.Matches
import SourceReach.Proofs.Search

/-!
# Matching brackets

One pass over a text with a stack pairs its angle brackets; what stands outside of all pairs is
`outside`. Type arguments are taken out in another way, the innermost lists first and again until
nothing changes, and the result is the same (`stripGenerics_matching`): a list without brackets
inside changes nothing in the stack, wherever it stands (`strip_eraseFrom`), and where no such list
is left, no two brackets make a pair (`strip_eq_self`).

The stack is looked at in two forms. `Pairing` has positions in it; `Levels` has the texts
themselves, and does not ask where they stand.
-/

namespace SourceReach.Brackets

/-! ## Pairs -/

/-- What a pass over a text knows: where the brackets stand that wait for their partner, the latest
first, and the pairs found so far, each as the places of its two brackets. -/
structure Pairing where
  waiting : List Nat := []
  pairs : List (Nat × Nat) := []

/-- One character and its place: a closing bracket makes a pair with the latest one that waits, if
there is one. -/
def Pairing.next (p : Pairing) (x : Char × Nat) : Pairing :=
  if x.1 = '<' then { p with waiting := x.2 :: p.waiting }
  else if x.1 = '>' then
    match p.waiting with
    | [] => p
    | i :: is => ⟨is, (i, x.2) :: p.pairs⟩
  else p

/-- The pairs of brackets of a text. -/
def pairs (t : Text) : List (Nat × Nat) := (t.zipIdx.foldl Pairing.next {}).pairs

/-- The place is the one of a paired bracket or lies between the two of a pair. -/
def IsWithin (ps : List (Nat × Nat)) (i : Nat) : Prop := ∃ p ∈ ps, p.1 ≤ i ∧ i ≤ p.2

instance (ps : List (Nat × Nat)) (i : Nat) : Decidable (IsWithin ps i) :=
  inferInstanceAs (Decidable (∃ p ∈ ps, p.1 ≤ i ∧ i ≤ p.2))

theorem isWithin_cons {p : Nat × Nat} {ps : List (Nat × Nat)} {i : Nat} :
    IsWithin (p :: ps) i ↔ (p.1 ≤ i ∧ i ≤ p.2) ∨ IsWithin ps i := by
  simp [IsWithin]

/-- The characters outside of all pairs of brackets. -/
def outside (t : Text) : Text := (t.zipIdx.filter fun x => ¬ IsWithin (pairs t) x.2).map Prod.fst

/-! ## Levels -/

/-- A text that is cut before each bracket that waits for its partner: what stands before the first
of them, and the part from each of them on, the latest first. -/
structure Levels (α : Type) where
  ground : List α := []
  opened : List (List α) := []

namespace Levels

variable {α β : Type}

def text (l : Levels α) : List α := l.ground ++ l.opened.reverse.flatten

/-- More text in the innermost level. -/
def add (l : Levels α) (t : List α) : Levels α :=
  match l.opened with
  | [] => { l with ground := l.ground ++ t }
  | o :: os => { l with opened := (o ++ t) :: os }

/-- One more character: a bracket opens a level, and its partner takes the level away. -/
def push (char : α → Char) (l : Levels α) (x : α) : Levels α :=
  if char x = '<' then { l with opened := [x] :: l.opened }
  else if char x = '>' then
    match l.opened with
    | [] => { l with ground := l.ground ++ [x] }
    | _ :: os => { l with opened := os }
  else l.add [x]

def map (f : α → β) (l : Levels α) : Levels β := ⟨l.ground.map f, l.opened.map (List.map f)⟩

@[simp] theorem add_nil (l : Levels α) : l.add [] = l := by
  obtain ⟨g, _ | ⟨o, os⟩⟩ := l <;> simp [add]

@[simp] theorem add_add (l : Levels α) (t u : List α) : (l.add t).add u = l.add (t ++ u) := by
  obtain ⟨g, _ | ⟨o, os⟩⟩ := l <;> simp [add]

@[simp] theorem text_add (l : Levels α) (t : List α) : (l.add t).text = l.text ++ t := by
  obtain ⟨g, _ | ⟨o, os⟩⟩ := l <;> simp [add, text]

theorem text_map (f : α → β) (l : Levels α) : (l.map f).text = l.text.map f := by
  simp [map, text, List.map_flatten]

theorem push_map {char : α → Char} {char' : β → Char} {f : α → β} (h : ∀ x, char' (f x) = char x)
    (l : Levels α)
    (x : α) : (l.push char x).map f = (l.map f).push char' (f x) := by
  obtain ⟨g, _ | ⟨o, os⟩⟩ := l <;> simp only [push, add, map, h] <;> split_ifs <;> simp

theorem foldl_push_map {char : α → Char} {char' : β → Char} {f : α → β}
    (h : ∀ x, char' (f x) = char x)
    (l : Levels α) (xs : List α) : (xs.foldl (push char) l).map f = (xs.map f).foldl (push char')
    (l.map f) := by
  induction xs generalizing l with
  | nil => rfl
  | cons x xs ih => rw [List.foldl_cons, ih, push_map h, List.map_cons, List.foldl_cons]

end Levels

/-- What is left of a text when each pair of brackets takes away what stands from one to the
other. -/
def strip (t : Text) : Text := (t.foldl (Levels.push id) {}).text

/-- Both forms of the stack after some characters with their places. -/
structure Agree (p : Pairing) (l : Levels (Char × Nat)) (xs : List (Char × Nat)) : Prop where
  text : l.text = xs.filter fun x => ¬ IsWithin p.pairs x.2
  waiting : l.opened.map (fun o => o.head?.map Prod.snd) = p.waiting.map some
  behind : ∀ q ∈ p.pairs, q.2 ∈ xs.map Prod.snd

variable {p : Pairing} {l : Levels (Char × Nat)} {xs : List (Char × Nat)} {x : Char × Nat}

theorem filter_concat {ps : List (Nat × Nat)} (h : ∀ q ∈ ps, q.2 < x.2) :
    (xs ++ [x]).filter (fun x => ¬ IsWithin ps x.2) =
      xs.filter (fun x => ¬ IsWithin ps x.2) ++ [x] := by
  have hx : ¬ IsWithin ps x.2 := by
    rintro ⟨q, hq, -, hle⟩
    have hlt := h q hq
    omega
  simp [List.filter_append, hx]

/-- Of characters in their order, those from the place of `y` on go away, and the ones before
stay. -/
theorem filter_before {rest top : List (Char × Nat)} {y : Char × Nat} {n : Nat}
    (hsorted : (rest ++ y :: top).Pairwise fun a b => a.2 < b.2)
    (hn : ∀ z ∈ rest ++ y :: top, z.2 ≤ n) :
    (rest ++ y :: top).filter (fun z => ¬ (y.2 ≤ z.2 ∧ z.2 ≤ n)) = rest := by
  obtain ⟨-, htop, hrest⟩ := List.pairwise_append.1 hsorted
  have hkeep : rest.filter (fun z => ¬ (y.2 ≤ z.2 ∧ z.2 ≤ n)) = rest := by
    rw [List.filter_eq_self]
    intro z hz
    have hlt := hrest z hz y List.mem_cons_self
    rw [decide_eq_true_iff]
    omega
  have hdrop : (y :: top).filter (fun z => ¬ (y.2 ≤ z.2 ∧ z.2 ≤ n)) = [] := by
    rw [List.filter_eq_nil_iff]
    intro z hz
    have hle := hn z (List.mem_append_right _ hz)
    rw [decide_eq_true_iff]
    rcases List.mem_cons.1 hz with rfl | hz
    · omega
    · have hlt := (List.pairwise_cons.1 htop).1 z hz
      omega
  rw [List.filter_append, hkeep, hdrop, List.append_nil]

/-- A new pair reaches from the start of the innermost level to the end, so it takes away this level
and nothing else. -/
theorem filter_pair {ps : List (Nat × Nat)} {rest top : List (Char × Nat)} {y : Char × Nat}
    (hxs : (xs ++ [x]).Pairwise fun a b => a.2 < b.2)
    (hkept : (xs ++ [x]).filter (fun z => ¬ IsWithin ps z.2) = rest ++ y :: top) :
    (xs ++ [x]).filter (fun z => ¬ IsWithin ((y.2, x.2) :: ps) z.2) = rest := by
  have hlast : ∀ z ∈ xs ++ [x], z.2 ≤ x.2 := by
    intro z hz
    rcases List.mem_append.1 hz with hz | hz
    · have hlt := (List.pairwise_append.1 hxs).2.2 z hz x List.mem_cons_self
      omega
    · exact Nat.le_of_eq (congrArg _ (List.mem_singleton.1 hz))
  calc (xs ++ [x]).filter (fun z => ¬ IsWithin ((y.2, x.2) :: ps) z.2)
      = ((xs ++ [x]).filter fun z => ¬ IsWithin ps z.2).filter fun z =>
          ¬ (y.2 ≤ z.2 ∧ z.2 ≤ x.2) := by
        rw [List.filter_filter]
        refine List.filter_congr fun z _ => ?_
        simp only [isWithin_cons, not_or, Bool.decide_and]
    _ = rest := by
        rw [hkept]
        refine filter_before (hkept ▸ hxs.filter _) fun z hz => hlast z ?_
        exact (List.mem_filter.1 (hkept ▸ hz)).1

namespace Agree

theorem text_concat (h : Agree p l xs) (hxs : (xs ++ [x]).Pairwise fun a b => a.2 < b.2) :
    l.text ++ [x] = (xs ++ [x]).filter fun z => ¬ IsWithin p.pairs z.2 := by
  rw [filter_concat, ← h.text]
  intro q hq
  obtain ⟨z, hz, hzq⟩ := List.mem_map.1 (h.behind q hq)
  exact hzq ▸ (List.pairwise_append.1 hxs).2.2 z hz x List.mem_cons_self

theorem behind_concat (h : Agree p l xs) : ∀ q ∈ p.pairs, q.2 ∈ (xs ++ [x]).map Prod.snd := by
  intro q hq
  rw [List.map_append]
  exact List.mem_append_left _ (h.behind q hq)

theorem opening (h : Agree p l xs) (hxs : (xs ++ [x]).Pairwise fun a b => a.2 < b.2) :
    Agree { p with waiting := x.2 :: p.waiting } { l with opened := [x] :: l.opened }
      (xs ++ [x]) := by
  refine ⟨?_, ?_, h.behind_concat⟩
  · rw [← h.text_concat hxs]
    simp [Levels.text]
  · rw [List.map_cons, h.waiting]
    rfl

theorem closing {i : Nat} {is : List Nat} {ps : List (Nat × Nat)} {ground o : List (Char × Nat)}
    {os : List (List (Char × Nat))} (h : Agree ⟨i :: is, ps⟩ ⟨ground, o :: os⟩ xs)
    (hxs : (xs ++ [x]).Pairwise fun a b => a.2 < b.2) :
    Agree ⟨is, (i, x.2) :: ps⟩ ⟨ground, os⟩ (xs ++ [x]) := by
  obtain ⟨hhead, hrest⟩ := List.cons.inj h.waiting
  obtain ⟨y, hy, rfl⟩ := Option.map_eq_some_iff.1 hhead
  obtain ⟨top, rfl⟩ := List.head?_eq_some_iff.1 hy
  have hcut : (xs ++ [x]).filter (fun z => ¬ IsWithin ps z.2) =
      (ground ++ os.reverse.flatten) ++ y :: (top ++ [x]) := by
    rw [← h.text_concat hxs]
    simp [Levels.text]
  refine ⟨(filter_pair hxs hcut).symm, hrest, ?_⟩
  rintro q hq
  rcases List.mem_cons.1 hq with rfl | hq
  · simp
  · exact h.behind_concat q hq

/-- A character that is no bracket, or no partner of one, stays on its level. -/
theorem keeping (h : Agree p l xs) (hxs : (xs ++ [x]).Pairwise fun a b => a.2 < b.2) :
    Agree p (l.add [x]) (xs ++ [x]) := by
  refine ⟨?_, ?_, h.behind_concat⟩
  · rw [Levels.text_add]
    exact h.text_concat hxs
  · obtain ⟨-, hwaiting, -⟩ := h
    obtain ⟨ground, opened⟩ := l
    obtain ⟨waiting, ps⟩ := p
    cases opened with
    | nil => exact hwaiting
    | cons o os =>
      cases o with
      | nil => cases waiting <;> simp at hwaiting
      | cons y top => exact hwaiting

theorem next (h : Agree p l xs) (hxs : (xs ++ [x]).Pairwise fun a b => a.2 < b.2) :
    Agree (p.next x) (l.push Prod.fst x) (xs ++ [x]) := by
  obtain ⟨ground, opened⟩ := l
  obtain ⟨waiting, ps⟩ := p
  have hwaiting := h.waiting
  unfold Pairing.next Levels.push
  split_ifs
  · exact h.opening hxs
  · cases opened with
    | nil =>
      obtain rfl : waiting = [] := by simpa using hwaiting.symm
      exact h.keeping hxs
    | cons o os =>
      cases waiting with
      | nil => simp at hwaiting
      | cons i is => exact h.closing hxs
  · exact h.keeping hxs

end Agree

theorem agree (hxs : xs.Pairwise fun a b => a.2 < b.2) :
    Agree (xs.foldl Pairing.next {}) (xs.foldl (Levels.push Prod.fst) {}) xs := by
  induction xs using List.reverseRecOn with
  | nil => exact ⟨rfl, rfl, nofun⟩
  | append_singleton xs x ih =>
    rw [List.foldl_append, List.foldl_append]
    exact (ih (List.pairwise_append.1 hxs).1).next hxs

/-- Both forms of the stack leave the same text. -/
theorem outside_eq_strip (t : Text) : outside t = strip t := by
  have hplaces : t.zipIdx.Pairwise fun a b => a.2 < b.2 := by
    have hsnd : (t.zipIdx.map Prod.snd).Pairwise (· < ·) := by
      rw [List.zipIdx_map_snd]
      exact List.pairwise_lt_range'
    exact List.pairwise_map.1 hsnd
  have hfst : ∀ x : Char × Nat, id x.1 = x.1 := fun _ => rfl
  have hlevels := Levels.foldl_push_map hfst {} t.zipIdx
  rw [List.zipIdx_map_fst] at hlevels
  rw [outside, pairs, ← (agree hplaces).text, ← Levels.text_map, hlevels]
  rfl

/-! ## Lists of type arguments, the innermost first -/

variable {l : Levels Char} {prev : Option Char} {t u r s : Text}

/-- The text has no angle bracket. -/
def IsPlain (t : Text) : Prop := ∀ c ∈ t, c ≠ '<' ∧ c ≠ '>'

instance (t : Text) : Decidable (IsPlain t) :=
  inferInstanceAs (Decidable (∀ c ∈ t, c ≠ '<' ∧ c ≠ '>'))

theorem IsPlain.append (ht : IsPlain t) (hu : IsPlain u) : IsPlain (t ++ u) :=
  List.forall_mem_append.2 ⟨ht, hu⟩

theorem isPlain_of_isBlank (h : ∀ c ∈ t, isBlank c = true) : IsPlain t := by
  intro c hc
  have hblank := h c hc
  constructor <;> rintro rfl <;> exact absurd hblank (by decide)

/-- Some opening bracket stands before some closing one. -/
def HasPair (t : Text) : Prop := ∃ a b c, t = a ++ '<' :: b ++ '>' :: c

theorem push_plain {c : Char} (h : c ≠ '<' ∧ c ≠ '>') (l : Levels Char) :
    l.push id c = l.add [c] := by
  unfold Levels.push
  rw [id, if_neg h.1, if_neg h.2]

/-- Reading the text adds `r` to the innermost level and changes nothing else. -/
def Adds (t r : Text) : Prop := ∀ l : Levels Char, t.foldl (Levels.push id) l = l.add r

theorem Adds.append (ht : Adds t r) (hu : Adds u s) : Adds (t ++ u) (r ++ s) := by
  intro l
  rw [List.foldl_append, ht, hu, Levels.add_add]

theorem adds_nil : Adds [] [] := fun l => l.add_nil.symm

theorem adds_plain (h : IsPlain t) : Adds t t := by
  intro l
  induction t generalizing l with
  | nil => exact l.add_nil.symm
  | cons c t ih =>
    obtain ⟨hc, ht⟩ := List.forall_mem_cons.1 h
    rw [List.foldl_cons, push_plain hc, ih ht, Levels.add_add]
    rfl

/-- A list of type arguments adds nothing, if what stands in it keeps to its level. -/
theorem Adds.list (h : Adds t r) : Adds ('<' :: t ++ ['>']) [] := by
  intro l
  have hopen : l.push id '<' = { l with opened := ['<'] :: l.opened } := rfl
  rw [List.cons_append, List.foldl_cons, hopen, List.foldl_append, h, l.add_nil]
  rfl

theorem Adds.strip_eq (h : Adds t r) : strip t = r := by
  rw [strip, h, Levels.text_add]
  rfl

theorem first_arguments (h : IsPlain t) (prev : Option Char) (s : Text) :
    TypeName.argumentsPattern.first prev ('<' :: t ++ '>' :: s) =
      some ⟨'<' :: t ++ ['>'], s, []⟩ := by
  have hcls : ∀ c ∈ t, (c ≠ '<' && c ≠ '>') = true := by
    intro c hc
    simp [h c hc]
  exact Pattern.first_seq (Pattern.first_lit prev ['<'] _)
    (Pattern.first_seq (Pattern.first_many hcls (by simp)) (Pattern.first_lit _ ['>'] s))

/-- What is taken out at once is a list of type arguments without brackets in it. -/
theorem taken_of_first {m : Pattern.Match} (h : TypeName.argumentsPattern.first prev s = some m) :
    ∃ t, IsPlain t ∧ m.taken = '<' :: t ++ ['>'] := by
  obtain ⟨_, _, _, _, ⟨rfl, -⟩, hfits, htaken, -⟩ := Pattern.fits_of_first_eq_some h
  obtain ⟨t, _, _, _, ⟨hcls, -⟩, ⟨rfl, -⟩, rfl, -⟩ := hfits
  refine ⟨t, fun c hc => ?_, htaken⟩
  simpa using hcls c hc

/-- Taking out the innermost lists changes nothing in what one pass leaves. -/
theorem strip_eraseFrom (u : Text) (prev : Option Char) (s : Text) :
    strip (u ++ TypeName.argumentsPattern.eraseFrom 0 prev s) = strip (u ++ s) := by
  induction hn : s.length using Nat.strongRecOn generalizing u prev s with
  | ind n ih =>
  cases s with
  | nil => rfl
  | cons c s =>
    cases hfirst : TypeName.argumentsPattern.first prev (c :: s) with
    | none =>
      have hrest := ih s.length (by rw [← hn, List.length_cons]; omega) (u ++ [c]) (some c) s rfl
      rw [Pattern.eraseFrom, hfirst]
      simpa using hrest
    | some m =>
      obtain ⟨t, ht, htaken⟩ := taken_of_first hfirst
      have hne : m.taken ≠ [] := by simp [htaken]
      have happend : m.taken ++ m.left = c :: s := Pattern.append_of_first hfirst
      have hlength : m.left.length < n := by
        rw [← hn, ← happend, List.length_append, htaken]
        simp
      have hlist : ∀ l : Levels Char, m.taken.foldl (Levels.push id) l = l := by
        intro l
        rw [htaken, (adds_plain ht).list, l.add_nil]
      rw [Pattern.eraseFrom_of_first hfirst hne, ih _ hlength u _ _ rfl, ← happend]
      simp only [strip, List.foldl_append, hlist]

theorem strip_stripInnermost (t : Text) : strip (TypeName.stripInnermost t) = strip t :=
  strip_eraseFrom [] none t

/-! ### Texts that nothing is taken out of -/

theorem foldl_push_of_no_open (h : '<' ∉ t) (ground : Text) :
    t.foldl (Levels.push id) ⟨ground, []⟩ = ⟨ground ++ t, []⟩ := by
  induction t generalizing ground with
  | nil => simp
  | cons c t ih =>
    obtain ⟨hc, ht⟩ := not_or.1 (List.mem_cons.not.1 h)
    have hpush : Levels.push id ⟨ground, []⟩ c = ⟨ground ++ [c], []⟩ := by
      unfold Levels.push
      rw [if_neg (show ¬ id c = '<' from Ne.symm hc)]
      split_ifs <;> rfl
    rw [List.foldl_cons, hpush, ih ht, List.append_assoc]
    rfl

theorem text_foldl_push_of_no_close (h : '>' ∉ t) (l : Levels Char) :
    (t.foldl (Levels.push id) l).text = l.text ++ t := by
  induction t generalizing l with
  | nil => simp
  | cons c t ih =>
    obtain ⟨hc, ht⟩ := not_or.1 (List.mem_cons.not.1 h)
    have hpush : (l.push id c).text = l.text ++ [c] := by
      unfold Levels.push
      rw [if_neg (show ¬ id c = '>' from Ne.symm hc)]
      split_ifs
      · simp [Levels.text]
      · exact l.text_add [c]
    rw [List.foldl_cons, ih ht, hpush, List.append_assoc]
    rfl

theorem strip_eq_self (h : ¬ HasPair t) : strip t = t := by
  obtain ⟨a, b, rfl, ha, hb⟩ : ∃ a b, t = a ++ b ∧ '<' ∉ a ∧ '>' ∉ b := by
    by_cases hopen : '<' ∈ t
    · obtain ⟨a, b, rfl, ha⟩ := List.eq_append_cons_of_mem hopen
      refine ⟨a, '<' :: b, rfl, ha, fun hclose => ?_⟩
      obtain ⟨b, c, rfl⟩ := List.append_of_mem ((List.mem_cons.1 hclose).resolve_left (by decide))
      exact h ⟨a, b, c, by simp⟩
    · exact ⟨t, [], by simp, hopen, by simp⟩
  rw [strip, List.foldl_append, foldl_push_of_no_open ha, text_foldl_push_of_no_close hb]
  simp [Levels.text]

/-- With a pair there is one that has no bracket between its two. -/
theorem exists_innermost (a b c : Text) :
    ∃ a' b' c', IsPlain b' ∧ a ++ '<' :: b ++ '>' :: c = a' ++ ('<' :: b' ++ '>' :: c') := by
  induction hn : b.length using Nat.strongRecOn generalizing a b c with
  | ind n ih =>
  by_cases hopen : '<' ∈ b
  · obtain ⟨b₁, b₂, rfl⟩ := List.append_of_mem hopen
    obtain ⟨a', b', c', hplain, heq⟩ := ih b₂.length (by simp at hn; omega)
      (a ++ '<' :: b₁) b₂ c rfl
    exact ⟨a', b', c', hplain, by simpa using heq⟩
  · by_cases hclose : '>' ∈ b
    · obtain ⟨b₁, b₂, rfl⟩ := List.append_of_mem hclose
      obtain ⟨a', b', c', hplain, heq⟩ :=
        ih b₁.length (by simp at hn; omega) a b₁ (b₂ ++ '>' :: c) rfl
      exact ⟨a', b', c', hplain, by simpa using heq⟩
    · refine ⟨a, b, c, fun d hd => ⟨?_, ?_⟩, by simp⟩
      · rintro rfl
        exact hopen hd
      · rintro rfl
        exact hclose hd

/-- Where nothing is taken out any more, there is no pair. -/
theorem not_hasPair_of_stripInnermost (h : TypeName.stripInnermost t = t) : ¬ HasPair t := by
  rintro ⟨a, b, c, rfl⟩
  obtain ⟨a', b', c', hplain, heq⟩ := exists_innermost a b c
  rw [heq] at h
  have hmiss := Pattern.misses_of_eraseFrom h a' _ rfl (by simp)
  rw [List.append_nil, first_arguments hplain] at hmiss
  exact absurd hmiss nofun

/-! ### Repetition -/

theorem stripInnermost_sublist (t : Text) : (TypeName.stripInnermost t).Sublist t :=
  Pattern.eraseFrom_sublist _ _ _ _

theorem length_stripInnermost (h : TypeName.stripInnermost t ≠ t) :
    (TypeName.stripInnermost t).length < t.length :=
  Nat.lt_of_le_of_ne (stripInnermost_sublist t).length_le fun hlength =>
    h ((stripInnermost_sublist t).eq_of_length hlength)

/-- A repeated step is taken some number of times. -/
theorem settle_eq_iterate (step : Text → Text) (n : Nat) (t : Text) :
    ∃ k ≤ n, TypeName.settle step n t = step^[k] t := by
  induction n generalizing t with
  | zero => exact ⟨0, Nat.le_refl 0, rfl⟩
  | succ n ih =>
    unfold TypeName.settle
    split_ifs with hstep
    · exact ⟨0, Nat.zero_le _, rfl⟩
    · obtain ⟨k, hk, heq⟩ := ih (step t)
      exact ⟨k + 1, Nat.succ_le_succ hk, heq⟩

/-- The repetition ends where nothing changes: each change makes the text shorter. -/
theorem step_settle {step : Text → Text} (hstep : ∀ t, step t ≠ t → (step t).length < t.length)
    {n : Nat}
    (hn : t.length ≤ n) : step (TypeName.settle step n t) = TypeName.settle step n t := by
  induction n generalizing t with
  | zero =>
    rw [List.eq_nil_of_length_eq_zero (Nat.le_zero.1 hn)]
    by_contra hne
    exact absurd (hstep [] hne) (Nat.not_lt_zero _)
  | succ n ih =>
    unfold TypeName.settle
    split_ifs with h
    · exact h
    · have hlt := hstep t h
      exact ih (by omega)

theorem settle_keeps {β : Type} {step : Text → Text} {f : Text → β} (h : ∀ t, f (step t) = f t)
    (n : Nat) (t : Text) :
    f (TypeName.settle step n t) = f t := by
  induction n generalizing t with
  | zero => rfl
  | succ n ih =>
    unfold TypeName.settle
    split_ifs
    · rfl
    · rw [ih, h]

theorem stripInnermost_stripGenerics (t : Text) :
    TypeName.stripInnermost (TypeName.stripGenerics t) = TypeName.stripGenerics t :=
  step_settle (fun _ => length_stripInnermost) (Nat.le_refl _)

theorem stripGenerics_eq_strip (t : Text) : TypeName.stripGenerics t = strip t := by
  rw [← strip_eq_self (not_hasPair_of_stripInnermost (stripInnermost_stripGenerics t))]
  exact settle_keeps strip_stripInnermost _ t

theorem stripGenerics_eq_outside (t : Text) : TypeName.stripGenerics t = outside t := by
  rw [stripGenerics_eq_strip, outside_eq_strip]

theorem outside_sublist (t : Text) : (outside t).Sublist t := by
  have hsub : (outside t).Sublist (t.zipIdx.map Prod.fst) := List.filter_sublist.map _
  rwa [List.zipIdx_map_fst] at hsub

/-- Taking out type arguments, the innermost lists first, ends after at most as many passes as there
are characters, and leaves the characters outside of all pairs of brackets, in their order. In what
is left no opening bracket stands before a closing one, and nothing is taken out of it again. -/
theorem stripGenerics_matching (t : Text) :
    (∃ n ≤ t.length, TypeName.stripInnermost^[n] t = TypeName.stripGenerics t) ∧
      TypeName.stripInnermost (TypeName.stripGenerics t) = TypeName.stripGenerics t ∧
      TypeName.stripGenerics t = outside t ∧
      ¬ HasPair (TypeName.stripGenerics t) ∧
      TypeName.stripGenerics (TypeName.stripGenerics t) = TypeName.stripGenerics t ∧
      (TypeName.stripGenerics t).Sublist t := by
  have hfixed := stripInnermost_stripGenerics t
  have hpair := not_hasPair_of_stripInnermost hfixed
  obtain ⟨n, hn, hiterate⟩ := settle_eq_iterate TypeName.stripInnermost t.length t
  refine ⟨⟨n, hn, hiterate.symm⟩, hfixed, stripGenerics_eq_outside t, hpair, ?_, ?_⟩
  · rw [stripGenerics_eq_strip (TypeName.stripGenerics t), strip_eq_self hpair]
  · rw [stripGenerics_eq_outside]
    exact outside_sublist t

/-- Pairs in one another and side by side, and brackets without a partner. -/
example : outside "a>b<c<d>e<f>g>h<i".toList = "a>bh<i".toList := by decide

end SourceReach.Brackets
