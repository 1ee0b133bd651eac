import SourceReach.Proofs.Adding

/-!
# Any sequence of additions

Files may be added to an index one by one, repeatedly for a name and also after an addition has been
refused: the refusal comes last, so the collision is recorded all the same. `NameIndex.after` is the
index after such a sequence. The strategy that keeps the last file only forgets the earlier ones,
and so records a file again that comes back. Therefore the collisions are told in two ways: which
files they list, whatever has been added (`Collects`), and exactly, when nothing was added twice
(`Records`).
-/

namespace SourceReach.NameIndex

variable {ix : NameIndex} {strategy : Strategy} {added : List (Text × Text)}
  {name other path : Text}
  {known files : List Text} {collision : Option (List Text)}

/-- The index after some additions to an empty one. What a refused addition has recorded stays. -/
def after (strategy : Strategy) (added : List (Text × Text)) : NameIndex :=
  added.foldl (fun ix file => (ix.add file.1 file.2).1) { strategy }

theorem after_concat (strategy : Strategy) (added : List (Text × Text)) (name path : Text) :
    after strategy (added ++ [(name, path)]) = ((after strategy added).add name path).1 := by
  unfold after
  rw [List.foldl_concat]

@[simp] theorem strategy_after (strategy : Strategy) (added : List (Text × Text)) :
    (after strategy added).strategy = strategy := by
  induction added using List.reverseRecOn with
  | nil => rfl
  | append_singleton added file ih =>
    rw [after_concat, strategy_add]
    exact ih

theorem records_after (strategy : Strategy) (added : List (Text × Text)) :
    (after strategy added).Records added := by
  induction added using List.reverseRecOn with
  | nil => exact records_empty strategy
  | append_singleton added file ih =>
    rw [after_concat]
    exact ih.add file.1 file.2

/-! ## One addition -/

/-- The file is another one for a name that has files. -/
def Collides (ix : NameIndex) (name path : Text) : Prop :=
  ix.entries.files name ≠ [] ∧ path ∉ ix.entries.files name

instance (ix : NameIndex) (name path : Text) : Decidable (ix.Collides name path) :=
  inferInstanceAs (Decidable (_ ∧ _))

theorem snd_add (ix : NameIndex) (name path : Text) :
    (ix.add name path).2 = if ix.Collides name path then some (ix.colliding name path)
      else none := by
  unfold add
  dsimp only
  by_cases hnew : ix.entries.files name = []
  · rw [if_pos hnew, if_neg fun h => h.1 hnew]
  · by_cases hknown : path ∈ ix.entries.files name
    · rw [if_neg hnew, if_pos hknown, if_neg fun h => h.2 hknown]
    · rw [if_neg hnew, if_neg hknown, if_pos ⟨hnew, hknown⟩]

theorem lookup_collisions_add (ix : NameIndex) (name path other : Text) :
    (ix.add name path).1.collisions.lookup other =
      if other = name ∧ ix.Collides name path then some (ix.colliding name path)
        else ix.collisions.lookup other := by
  rw [collisions_add, snd_add]
  by_cases hcollides : ix.Collides name path
  · rw [if_pos hcollides]
    dsimp only
    rw [FilesByName.lookup_set]
    simp only [hcollides, and_true]
  · rw [if_neg hcollides, if_neg fun h => hcollides h.2]

theorem lookup_add_of_collides (h : ix.Collides name path) :
    ∃ paths, (ix.add name path).1.collisions.lookup name = some (paths ++ [path]) ∧
      ∀ before, ix.collisions.lookup name = some before → before = paths := by
  refine ⟨(ix.collisions.lookup name).getD (ix.entries.files name), ?_, fun before hbefore => ?_⟩
  · rw [lookup_collisions_add, if_pos ⟨rfl, h⟩]
    rfl
  · rw [hbefore]
    rfl

theorem collides_iff :
    ix.Collides name path ↔ (ix.add name path).1.collisions.lookup name ≠
      ix.collisions.lookup name := by
  constructor
  · intro h heq
    obtain ⟨paths, hpaths, hbefore⟩ := lookup_add_of_collides h
    have hsame : paths ++ [path] = paths := hbefore _ (heq.symm.trans hpaths)
    have hlength := congrArg List.length hsame
    rw [List.length_append, List.length_singleton] at hlength
    omega
  · intro hchanged
    by_contra h
    apply hchanged
    rw [lookup_collisions_add, if_neg fun h' => h h'.2]

/-! ## The files that collisions list -/

/-- The recorded collision of a name lists the files that were added for it, if they are not all the
same. -/
def Collects : Option (List Text) → List Text → Prop
  | none, files => ∀ p ∈ files, ∀ q ∈ files, p = q
  | some paths, files => (∀ p, p ∈ paths ↔ p ∈ files) ∧ ∃ p ∈ files, ∃ q ∈ files, p ≠ q

theorem collects_nil_iff : Collects collision [] ↔ collision = none := by
  cases collision with
  | none => simp [Collects]
  | some paths => simp [Collects]

theorem collects_singleton (path : Text) : Collects none [path] := by
  intro p hp q hq
  rw [List.mem_singleton.1 hp, List.mem_singleton.1 hq]

/-- There is a collision just when different files were added. -/
theorem Collects.exists_iff (h : Collects collision files) :
    (∃ paths, collision = some paths) ↔ ∃ p ∈ files, ∃ q ∈ files, p ≠ q := by
  cases collision with
  | none =>
    constructor
    · rintro ⟨paths, hpaths⟩
      exact absurd hpaths (Option.some_ne_none paths).symm
    · rintro ⟨p, hp, q, hq, hne⟩
      exact absurd (h p hp q hq) hne
  | some paths => exact ⟨fun _ => h.2, fun _ => ⟨paths, rfl⟩⟩

theorem Collects.repeat (h : Collects collision files) (hpath : path ∈ files) :
    Collects collision (files ++ [path]) := by
  have hmem : ∀ p, p ∈ files ++ [path] ↔ p ∈ files := by
    intro p
    rw [List.mem_append, List.mem_singleton, or_iff_left_of_imp]
    rintro rfl
    exact hpath
  cases collision with
  | none =>
    intro p hp q hq
    exact h p ((hmem p).1 hp) q ((hmem q).1 hq)
  | some paths =>
    obtain ⟨hlisted, p, hp, q, hq, hne⟩ := h
    exact ⟨fun r => (hlisted r).trans (hmem r).symm, p, (hmem p).2 hp, q, (hmem q).2 hq, hne⟩

/-- A file that collides with the files lookups give is added to all the files known until then. It
may have been added before: lookups need not give all files. -/
theorem Collects.collide (h : Collects collision files) (hsub : ∀ p ∈ known, p ∈ files)
    (hknown : known ≠ [])
    (hpath : path ∉ known) :
    Collects (some (collision.getD known ++ [path])) (files ++ [path]) := by
  obtain ⟨first, rest, rfl⟩ := List.exists_cons_of_ne_nil hknown
  have hfirst : first ∈ files := hsub first List.mem_cons_self
  have hne : first ≠ path := fun heq => hpath (heq ▸ List.mem_cons_self)
  have hlisted : ∀ p, p ∈ collision.getD (first :: rest) ↔ p ∈ files := by
    cases collision with
    | none => exact fun p => ⟨hsub p, fun hp => h p hp first hfirst ▸ List.mem_cons_self⟩
    | some paths => exact h.1
  refine ⟨fun p => ?_, first, List.mem_append_left _ hfirst, path, List.mem_concat_self, hne⟩
  rw [List.mem_append, List.mem_append, hlisted]

theorem collects_add (hrecords : ix.Records added)
    (h : ∀ name, Collects (ix.collisions.lookup name) (filesOf added name))
    (name path other : Text) :
    Collects ((ix.add name path).1.collisions.lookup other)
      (filesOf (added ++ [(name, path)]) other) := by
  rw [lookup_collisions_add, filesOf_concat]
  by_cases hother : name = other
  · subst hother
    have hsub : ∀ p ∈ ix.entries.files name, p ∈ filesOf added name := by
      intro p hp
      rw [hrecords.entries] at hp
      exact Strategy.mem_of_mem_choice hp
    rw [if_pos rfl]
    by_cases hcollides : ix.Collides name path
    · rw [if_pos ⟨rfl, hcollides⟩]
      exact (h name).collide hsub hcollides.1 hcollides.2
    · rw [if_neg fun h' => hcollides h'.2]
      by_cases hnew : ix.entries.files name = []
      · rw [hrecords.entries, Strategy.choice_eq_nil] at hnew
        have hnone : ix.collisions.lookup name = none := collects_nil_iff.1 (hnew ▸ h name)
        rw [hnew, hnone]
        exact collects_singleton path
      · have hknown : path ∈ ix.entries.files name := by
          by_contra hpath
          exact hcollides ⟨hnew, hpath⟩
        exact (h name).repeat (hsub path hknown)
  · rw [if_neg fun h' => hother h'.1.symm, if_neg hother]
    exact h other

theorem collects_after (strategy : Strategy) (added : List (Text × Text)) (name : Text) :
    Collects ((after strategy added).collisions.lookup name) (filesOf added name) := by
  induction added using List.reverseRecOn generalizing name with
  | nil => exact collects_nil_iff.2 rfl
  | append_singleton added file ih =>
    rw [after_concat]
    exact collects_add (records_after strategy added) ih file.1 file.2 name

/-- Without repetitions the strategy makes no difference to the collisions. -/
theorem collisions_after_eq (h : added.Nodup) (s s' : Strategy) :
    (after s added).collisions = (after s' added).collisions := by
  induction added using List.reverseRecOn with
  | nil => rfl
  | append_singleton added file ih =>
    have hadded : added.Nodup := (List.nodup_append'.1 h).1
    rw [after_concat, after_concat, collisions_add, collisions_add,
      (records_after s added).collision h, (records_after s' added).collision h, ih hadded]

/-! ## Refusing duplicates -/

/-- The strategy that refuses duplicates records what the strategy that keeps the first file
does. -/
theorem add_refusing (h : ix.strategy = .first) (name path : Text) :
    (add { ix with strategy := .error } name path).1 =
      { (ix.add name path).1 with strategy := .error } := by
  unfold add settled colliding
  rw [h]
  dsimp only
  split_ifs <;> rfl

theorem after_error (added : List (Text × Text)) :
    after .error added = { after .first added with strategy := .error } := by
  induction added using List.reverseRecOn with
  | nil => rfl
  | append_singleton added file ih =>
    rw [after_concat, after_concat, ih]
    exact add_refusing (strategy_after .first added) file.1 file.2

/-- Under the strategy that refuses duplicates, an addition is refused just when it collides. -/
theorem outcome_of_error (h : ix.strategy = .error) (name path : Text) :
    (ix.addLogged name path).outcome.1 =
      if ix.Collides name path then
        .error (.configuration (.nameCollision name ((ix.add name path).1.collisions.files name)))
      else .ok (ix.add name path).1 := by
  have hends := (ends_addLogged ix name path).outcome
  rw [refusal?, if_pos h, snd_add] at hends
  rw [hends]
  by_cases hcollides : ix.Collides name path
  · rw [if_pos hcollides, if_pos hcollides, FilesByName.files, lookup_collisions_add,
      if_pos ⟨rfl, hcollides⟩]
    rfl
  · rw [if_neg hcollides, if_neg hcollides]
    rfl

theorem refused_iff (h : ix.strategy = .error) (name path : Text) :
    (∃ e, (ix.addLogged name path).outcome.1 = .error e) ↔
      (ix.add name path).1.collisions.lookup name ≠ ix.collisions.lookup name := by
  rw [← collides_iff, outcome_of_error h]
  split_ifs with hcollides
  · exact ⟨fun _ => hcollides, fun _ => ⟨_, rfl⟩⟩
  · exact ⟨fun ⟨_, h⟩ => (nomatch h), fun h => absurd h hcollides⟩

/-- What is refused is told with the collision that is recorded, the file included. -/
theorem refusal_told (h : ix.strategy = .error) {e : Failure}
    (he : (ix.addLogged name path).outcome.1 = .error e) :
    ∃ paths, e = .configuration (.nameCollision name (paths ++ [path])) ∧
      (ix.add name path).1.collisions.lookup name = some (paths ++ [path]) ∧
      ∀ before, ix.collisions.lookup name = some before → before = paths := by
  rw [outcome_of_error h] at he
  split_ifs at he with hcollides
  obtain ⟨paths, hpaths, hbefore⟩ := lookup_add_of_collides hcollides
  rw [FilesByName.files, hpaths] at he
  exact ⟨paths, (Except.error.inj he).symm, hpaths, hbefore⟩

theorem outcome_of_ne_error (h : ix.strategy ≠ .error) (name path : Text) :
    (ix.addLogged name path).outcome.1 = .ok (ix.add name path).1 := by
  have hends := (ends_addLogged ix name path).outcome
  rw [refusal?, if_neg h] at hends
  exact hends

/-! ## All that an index tells -/

/-- After any additions, lookups of a name give what the strategy chooses among the files added for
it, names stand in the order of their first additions, and a name collides when it has two different
files. Its collision lists these files; they stand in their order, under every strategy alike, when
nothing was added twice. The strategy that refuses duplicates leaves the index as the strategy that
keeps the first file does, and refuses an addition just when the collision of its name gets longer
by it. Other strategies refuse nothing. -/
theorem after_told (added : List (Text × Text)) (name : Text) :
    (∀ s, (after s added).resolve name = s.choice (filesOf added name)) ∧
    (∀ s, (after s added).nameList = distinct (added.map (·.1))) ∧
    (∀ s, (∃ paths, (after s added).collisions.lookup name = some paths) ↔
      ∃ p ∈ filesOf added name, ∃ q ∈ filesOf added name, p ≠ q) ∧
    (∀ s paths, (after s added).collisions.lookup name = some paths → ∀ p, p ∈ paths ↔
      p ∈ filesOf added name) ∧
    (added.Nodup → ∀ s, (∀ paths, (after s added).collisions.lookup name = some paths →
      paths = filesOf added name) ∧ ∀ s', (after s added).collisions =
        (after s' added).collisions) ∧
    after .error added = { after .first added with strategy := .error } ∧
    (∀ path,
      ((∃ e, ((after .error added).addLogged name path).outcome.1 = .error e) ↔
        (after .error (added ++ [(name, path)])).collisions.lookup name ≠
          (after .error added).collisions.lookup name) ∧
      ∀ e, ((after .error added).addLogged name path).outcome.1 = .error e →
        ∃ paths, e = .configuration (.nameCollision name (paths ++ [path])) ∧
          (after .error (added ++ [(name, path)])).collisions.lookup name = some (paths ++ [path]) ∧
          ∀ before, (after .error added).collisions.lookup name = some before → before = paths) ∧
    ∀ s ≠ .error, ∀ path,
      ((after s added).addLogged name path).outcome.1 =
        .ok (after s (added ++ [(name, path)])) := by
  refine ⟨fun s => ?resolve, fun s => ?names, fun s => ?collides, fun s paths hpaths => ?listed,
    fun hadded s => ⟨fun paths hpaths => ?exactly, collisions_after_eq hadded s⟩, after_error added,
    fun path => ⟨?refuses, fun e he => ?refusal⟩, fun s hs path => ?accepts⟩
  case resolve =>
    have hentries := (records_after s added).entries name
    rw [strategy_after] at hentries
    exact hentries
  case names => exact (records_after s added).nameList
  case collides => exact (collects_after s added name).exists_iff
  case listed =>
    have hcollects := collects_after s added name
    rw [hpaths] at hcollects
    exact hcollects.1
  case exactly =>
    rw [(records_after s added).collisions hadded] at hpaths
    split_ifs at hpaths with hseveral
    exact (Option.some.inj hpaths).symm
  case refuses =>
    rw [after_concat]
    exact refused_iff (strategy_after .error added) name path
  case refusal =>
    rw [after_concat]
    exact refusal_told (strategy_after .error added) he
  case accepts =>
    rw [after_concat]
    exact outcome_of_ne_error (by rwa [strategy_after]) name path

/-- Two files declare the name of a type: they stand in its collision as they were added, even when
the index was to refuse the second one. -/
theorem userTwice_told :
    let added := [("User".toList, "a/User.java".toList), ("User".toList, "b/User.java".toList)]
    (after .error added).collisions = (after .last added).collisions ∧
    (after .all added).resolve "User".toList = ["a/User.java".toList, "b/User.java".toList] := by
  intro added
  obtain ⟨hresolve, -, -, -, hexact, -⟩ := after_told added "User".toList
  refine ⟨(hexact (by decide) .error).2 .last, ?_⟩
  rw [hresolve]
  decide

end SourceReach.NameIndex
