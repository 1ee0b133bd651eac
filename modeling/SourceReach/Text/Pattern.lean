import SourceReach.Text.Basic
import SourceReach.Text.Word

/-!
# Search patterns

A pattern is matched at a place in a text, that is with a character before it (none at the start)
and a rest after it. `Pattern.run` lists the matches in order of preference: a repetition prefers to
be long, an alternative prefers its first branch, and in a sequence the choices of the earlier part
weigh more. The first match of the list is the match, and `Pattern.first` finds it without the
others; `Pattern.scan` takes it at the first place that has one, and goes on behind it.
-/

namespace SourceReach

/-- What may stand at a place of a text. -/
inductive Pattern where
  /-- These characters. -/
  | lit (t : Text)
  /-- Any number of characters of a class. -/
  | many (cls : Char → Bool)
  /-- At least one character of a class. -/
  | some (cls : Char → Bool)
  /-- One pattern after the other. -/
  | seq (p q : Pattern)
  /-- One pattern or else the other. -/
  | alt (p q : Pattern)
  /-- A place with a word character on exactly one side. -/
  | edge
  /-- The start of the text or of a line. -/
  | lineStart
  /-- What the pattern matches is reported. -/
  | group (p : Pattern)

namespace Pattern

/-- A way to match: the characters taken, those left, and the reported parts. -/
structure Match where
  taken : Text
  left : Text
  groups : List Text

/-- The ways to cut a run of characters of the class off the front, the longest run first. -/
def cuts (cls : Char → Bool) : Text → List (Text × Text)
  | [] => [([], [])]
  | c :: s =>
    if cls c then (cuts cls s).map (fun r => (c :: r.1, r.2)) ++ [([], c :: s)] else [([], c :: s)]

/-- The ways to cut a run of at least one character of the class off the front, the longest run
first. -/
def cutsSome (cls : Char → Bool) : Text → List (Text × Text)
  | [] => []
  | c :: s => if cls c then (cuts cls s).map fun r => (c :: r.1, r.2) else []

/-- Whether a place has a word character on exactly one side. -/
def atEdge (prev : Option Char) (s : Text) : Bool := prev.any isWord != s.head?.any isWord

/-- The character before the place that is reached by taking `taken`. -/
def before (prev : Option Char) (taken : Text) : Option Char := taken.getLast?.or prev

/-- A match that reports nothing. -/
def Match.ofCut (r : Text × Text) : Match := ⟨r.1, r.2, []⟩

/-- The matches of a pattern at a place, the preferred ones first. -/
def run : Pattern → Option Char → Text → List Match
  | lit t, _, s => if t.isPrefixOf s then [⟨t, s.drop t.length, []⟩] else []
  | many cls, _, s => (cuts cls s).map Match.ofCut
  | some cls, _, s => (cutsSome cls s).map Match.ofCut
  | seq p q, prev, s =>
    (run p prev s).flatMap fun m =>
      (run q (before prev m.taken) m.left).map fun n =>
      ⟨m.taken ++ n.taken, n.left, m.groups ++ n.groups⟩
  | alt p q, prev, s => run p prev s ++ run q prev s
  | edge, prev, s => if atEdge prev s then [⟨[], s, []⟩] else []
  | lineStart, prev, s => if prev.all (· = '\n') then [⟨[], s, []⟩] else []
  | group p, prev, s => (run p prev s).map fun m => { m with groups := m.taken :: m.groups }

/-! ## The preferred match -/

/-- Where a match ends: the number of characters taken, the last character before the end, what is
left, and the reported parts, which are not cut out before they are asked for. -/
structure Reach where
  count : Nat
  last : Option Char
  left : Text
  groups : List (Unit → Text)

/-- The end of a match at a place behind `prev`. -/
def Match.reach (prev : Option Char) (m : Match) : Reach :=
  ⟨m.taken.length, before prev m.taken, m.left, m.groups.map fun g _ => g⟩

/-- Offers the ends of a run of the class, of which `count` characters are taken, the farthest
first, and gives the first answer. -/
def searchMany {β : Type} (cls : Char → Bool) (k : Reach → Option β) :
    Nat → Option Char → Text → Option β
  | count, prev, [] => k ⟨count, prev, [], []⟩
  | count, prev, c :: s =>
    if cls c then (searchMany cls k (count + 1) (.some c) s).or (k ⟨count, prev, c :: s, []⟩)
    else k ⟨count, prev, c :: s, []⟩

/-- The character that all matches start with, if there is one. -/
def firstChar? : Pattern → Option Char
  | lit t => t.head?
  | seq p _ | group p => firstChar? p
  | _ => none

/-- The class of a run that is taken as a whole, because what follows it starts with a character
outside the class. -/
def wholeRun? : Pattern → Pattern → Option (Char → Bool)
  | many cls, q => if (firstChar? q).any (!cls ·) then .some cls else none
  | _, _ => none

/-- The end of a run of the class, of which `count` characters are taken. -/
def runEnd (cls : Char → Bool) : Nat → Option Char → Text → Reach
  | count, prev, [] => ⟨count, prev, [], []⟩
  | count, prev, c :: s =>
    if cls c then runEnd cls (count + 1) (.some c) s else ⟨count, prev, c :: s, []⟩

/-- Offers the ends of the matches at a place, the preferred ones first, and gives the first
answer. -/
def search {β : Type} : Pattern → Option Char → Text → (Reach → Option β) → Option β
  | lit t, prev, s, k =>
    if t.isPrefixOf s then k ⟨t.length, before prev t, s.drop t.length, []⟩ else none
  | many cls, prev, s, k => searchMany cls k 0 prev s
  | some cls, _, s, k =>
    match s with
    | [] => none
    | c :: s => if cls c then searchMany cls k 1 (.some c) s else none
  | seq p q, prev, s, k =>
    let next (m : Reach) := search q m.last m.left fun n =>
      k ⟨m.count + n.count, n.last, n.left, m.groups ++ n.groups⟩
    match wholeRun? p q with
    | .some cls => next (runEnd cls 0 prev s)
    | none => search p prev s next
  | alt p q, prev, s, k => (search p prev s k).or (search q prev s k)
  | edge, prev, s, k => if atEdge prev s then k ⟨0, prev, s, []⟩ else none
  | lineStart, prev, s, k => if prev.all (· = '\n') then k ⟨0, prev, s, []⟩ else none
  | group p, prev, s, k => search p prev s fun m =>
    k { m with groups := (fun _ => s.take m.count) :: m.groups }

/-- The preferred match at a place. -/
def first (p : Pattern) (prev : Option Char) (s : Text) : Option Match :=
  p.search prev s fun r => Option.some ⟨s.take r.count, r.left, r.groups.map (· ())⟩

@[simp] theorem before_nil (prev : Option Char) : before prev [] = prev := by simp [before]

theorem before_append (prev : Option Char) (t u : Text) :
    before prev (t ++ u) = before (before prev t) u := by
  simp [before, List.getLast?_append, Option.or_assoc]

theorem before_cons (prev : Option Char) (c : Char) (t : Text) :
    before prev (c :: t) = before (.some c) t := by
  simpa [before] using before_append prev [c] t

theorem append_of_mem_cuts {cls : Char → Bool} {s : Text} {r : Text × Text} (h : r ∈ cuts cls s) :
    r.1 ++ r.2 = s := by
  induction s generalizing r with
  | nil => simp_all [cuts]
  | cons c s ih =>
    simp only [cuts] at h
    split at h
    · simp only [List.mem_append, List.mem_map, List.mem_singleton] at h
      obtain ⟨q, hq, rfl⟩ | rfl := h
      · simp [ih hq]
      · rfl
    · simp_all

theorem append_of_mem_run {p : Pattern} {prev : Option Char} {s : Text} {m : Match}
    (h : m ∈ run p prev s) :
    m.taken ++ m.left = s := by
  induction p generalizing prev s m with
  | lit t =>
    simp only [run] at h
    split at h
    · next ht =>
      obtain ⟨u, rfl⟩ := List.isPrefixOf_iff_prefix.1 ht
      simp_all
    · simp at h
  | many cls =>
    simp only [run, List.mem_map] at h
    obtain ⟨r, hr, rfl⟩ := h
    exact append_of_mem_cuts hr
  | some cls =>
    cases s with
    | nil => simp [run, cutsSome] at h
    | cons c s =>
      simp only [run, cutsSome] at h
      split at h
      · simp only [List.mem_map] at h
        obtain ⟨_, ⟨r, hr, rfl⟩, rfl⟩ := h
        simp [Match.ofCut, append_of_mem_cuts hr]
      · simp at h
  | seq p q ihp ihq =>
    simp only [run, List.mem_flatMap, List.mem_map] at h
    obtain ⟨a, ha, b, hb, rfl⟩ := h
    simp [ihq hb, ihp ha]
  | alt p q ihp ihq =>
    simp only [run, List.mem_append] at h
    exact h.elim ihp ihq
  | edge => simp only [run] at h; split at h <;> simp_all
  | lineStart => simp only [run] at h; split at h <;> simp_all
  | group p ih =>
    simp only [run, List.mem_map] at h
    obtain ⟨a, ha, rfl⟩ := h
    exact ih (m := a) ha

theorem findSome?_flatMap {α β γ : Type} (f : α → List β) (k : β → Option γ) (xs : List α) :
    (xs.flatMap f).findSome? k = xs.findSome? fun x => (f x).findSome? k := by
  induction xs with
  | nil => rfl
  | cons x xs ih =>
    simp only [List.flatMap_cons, List.findSome?_append, List.findSome?_cons, ih]
    cases (f x).findSome? k <;> rfl

theorem findSome?_congr {α γ : Type} {f g : α → Option γ} {xs : List α} (h : ∀ x ∈ xs, f x = g x) :
    xs.findSome? f = xs.findSome? g := by
  induction xs with
  | nil => rfl
  | cons x xs ih => simp_all [List.findSome?_cons]

/-- The search in a run asks for the same ends as the list of its cuts. -/
theorem searchMany_eq {β : Type} (cls : Char → Bool) (k : Reach → Option β) (count : Nat)
    (prev : Option Char)
    (s : Text) :
    searchMany cls k count prev s =
      (cuts cls s).findSome? fun r => k ⟨count + r.1.length, before prev r.1, r.2, []⟩ := by
  induction s generalizing count prev with
  | nil => simp [searchMany, cuts, List.findSome?_cons]; cases k ⟨count, prev, [], []⟩ <;> rfl
  | cons c s ih =>
    simp only [searchMany, cuts]
    split
    · rw [ih, List.findSome?_append, List.findSome?_map]
      simp only [Function.comp_def, before_cons, List.length_cons, List.findSome?_cons,
        List.findSome?_nil, List.length_nil, Nat.add_zero, before_nil, Nat.add_assoc,
          Nat.add_comm 1]
      cases k ⟨count, prev, c :: s, []⟩ <;> rfl
    · simp only [List.findSome?_cons, List.findSome?_nil, List.length_nil, Nat.add_zero, before_nil]
      cases k ⟨count, prev, c :: s, []⟩ <;> rfl

/-- A pattern whose matches all start with one character matches nowhere else. -/
theorem run_eq_nil {p : Pattern} {d : Char} (hp : firstChar? p = .some d) {s : Text}
    (hs : s.head? ≠ .some d)
    (prev : Option Char) : run p prev s = [] := by
  induction p with
  | lit t =>
    cases t with
    | nil => simp [firstChar?] at hp
    | cons c t =>
      cases s with
      | nil => simp [run]
      | cons e s =>
        simp only [firstChar?, List.head?_cons, Option.some.injEq, ne_eq] at hp hs
        have hd : ¬d = e := fun h => hs h.symm
        simp [run, hp, hd]
  | seq p q ihp _ => simp [run, ihp hp]
  | group p ih => simp [run, ih hp]
  | _ => simp [firstChar?] at hp

/-- Of the cuts of a run, only the longest has to be asked about what cannot start with a character
of the class. -/
theorem findSome?_cuts {β : Type} {cls : Char → Bool} {f : Text × Text → Option β}
    (hf : ∀ t c u, cls c → f (t, c :: u) = none) (s : Text) :
    (cuts cls s).findSome? f = f (s.takeWhile cls, s.dropWhile cls) := by
  induction s generalizing f with
  | nil =>
    simp only [cuts, List.findSome?_cons, List.takeWhile_nil, List.dropWhile_nil]; cases f
      ([], []) <;> rfl
  | cons c s ih =>
    simp only [cuts]
    split
    · next h =>
      rw [List.findSome?_append, List.findSome?_map,
        ih (f := f ∘ fun r => (c :: r.1, r.2)) fun _ c u hc => hf _ c u hc]
      simp [h, hf]
    · next h =>
      simp only [List.findSome?_cons, List.findSome?_nil, List.takeWhile_cons, List.dropWhile_cons,
        h, Bool.false_eq_true, if_false]
      cases f ([], c :: s) <;> rfl

theorem runEnd_eq (cls : Char → Bool) (count : Nat) (prev : Option Char) (s : Text) :
    runEnd cls count prev s =
      ⟨count + (s.takeWhile cls).length, before prev (s.takeWhile cls), s.dropWhile cls, []⟩ := by
  induction s generalizing count prev with
  | nil => simp [runEnd]
  | cons c s ih =>
    simp only [runEnd]
    split
    · next h => simp [ih, h, before_cons, Nat.add_assoc, Nat.add_comm 1]
    · next h => simp [h]

/-- The search asks for the ends of the listed matches, in the order of the list. -/
theorem search_eq {β : Type} (p : Pattern) (prev : Option Char) (s : Text) (k : Reach → Option β) :
    search p prev s k = (run p prev s).findSome? fun m => k (m.reach prev) := by
  induction p generalizing prev s k with
  | lit t =>
    simp only [search, run]
    split
    · simp only [List.findSome?_cons, List.findSome?_nil, Match.reach]; split <;> simp_all
    · rfl
  | many cls =>
    simp only [search, run, searchMany_eq, List.findSome?_map, Function.comp_def, Match.ofCut,
      Match.reach, List.map_nil, Nat.zero_add]
  | some cls =>
    cases s with
    | nil => rfl
    | cons c s =>
      simp only [search, run, cutsSome]
      split
      · simp only [searchMany_eq, List.findSome?_map, Function.comp_def, Match.ofCut, Match.reach,
          List.map_nil, List.length_cons, before_cons, Nat.add_comm 1]
      · rfl
  | seq p q ihp ihq =>
    simp only [search, run, ihq, findSome?_flatMap, List.findSome?_map, Function.comp_def]
    split
    · next cls h =>
      cases p with
      | many cls' =>
        simp only [wholeRun?, Option.ite_none_right_eq_some, Option.some.injEq] at h
        obtain ⟨hq, rfl⟩ := h
        obtain ⟨d, hd⟩ : ∃ d, firstChar? q = .some d := by
          cases hd : firstChar? q with
          | none => simp [hd] at hq
          | some d => exact ⟨d, rfl⟩
        have hcls : cls' d = false := by simpa [hd] using hq
        simp only [run, List.findSome?_map, Function.comp_def]
        rw [findSome?_cuts]
        · simp [runEnd_eq, Match.ofCut, Match.reach, before_append]
        · intro t c u hc
          have hne : (c :: u).head? ≠ .some d := by
            rintro h
            simp only [List.head?_cons, Option.some.injEq] at h
            simp [← h, hc] at hcls
          simp [Match.ofCut, run_eq_nil hd hne]
      | _ => simp [wholeRun?] at h
    · simp only [ihp]
      simp [Match.reach, before_append]
  | alt p q ihp ihq => simp only [search, run, ihp, ihq, List.findSome?_append]
  | edge =>
    simp only [search, run]
    split
    · simp only [List.findSome?_cons, List.findSome?_nil, Match.reach, before_nil, List.length_nil]
      split <;> simp_all
    · rfl
  | lineStart =>
    simp only [search, run]
    split
    · simp only [List.findSome?_cons, List.findSome?_nil, Match.reach, before_nil, List.length_nil]
      split <;> simp_all
    · rfl
  | group p ih =>
    simp only [search, run, ih, List.findSome?_map, Function.comp_def, Match.reach]
    refine findSome?_congr fun m hm => ?_
    have h := append_of_mem_run hm
    subst h
    simp

/-- The preferred match is the first one of the list. -/
theorem first_eq (p : Pattern) (prev : Option Char) (s : Text) :
    p.first prev s = (p.run prev s).head? := by
  rw [first, search_eq]
  cases h : p.run prev s with
  | nil => rfl
  | cons m ms =>
    have hm : m.taken ++ m.left = s := append_of_mem_run (show m ∈ p.run prev s by simp [h])
    subst hm
    simp [Match.reach, Function.comp_def]

/-! ## Patterns from parts, and searches -/

def all : List Pattern → Pattern
  | [] => lit []
  | [p] => p
  | p :: q :: ps => seq p (all (q :: ps))

/-- The pattern, or else nothing. -/
def opt (p : Pattern) : Pattern := alt p (lit [])

/-- The matches of a text after its first `skip` characters, left to right, none reaching into
another. -/
def scanFrom (p : Pattern) : Nat → Option Char → Text → List Match
  | _, _, [] => []
  | skip + 1, _, c :: s => scanFrom p skip (.some c) s
  | 0, prev, c :: s =>
    match p.first prev (c :: s) with
    | .some m => m :: scanFrom p (m.taken.length - 1) (.some c) s
    | none => scanFrom p 0 (.some c) s

/-- The matches of a text, left to right, none reaching into another. -/
def scan (p : Pattern) (t : Text) : List Match := p.scanFrom 0 none t

/-- What the first group of each match reports. -/
def findAll (p : Pattern) (t : Text) : List Text := (p.scan t).filterMap fun m => m.groups.head?

/-- The text after its first `skip` characters, without the characters that matches take. -/
def eraseFrom (p : Pattern) : Nat → Option Char → Text → Text
  | _, _, [] => []
  | skip + 1, _, c :: s => eraseFrom p skip (.some c) s
  | 0, prev, c :: s =>
    match p.first prev (c :: s) with
    | .some m => eraseFrom p (m.taken.length - 1) (.some c) s
    | none => c :: eraseFrom p 0 (.some c) s

/-- The text without the characters that matches take. The pattern takes at least one character. -/
def erase (p : Pattern) (t : Text) : Text := p.eraseFrom 0 none t

end Pattern

end SourceReach
