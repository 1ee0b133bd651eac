import SourceReach.Proofs.Ending
import SourceReach.Proofs.Indexing

/-!
# An index after files have been added

What an index holds is told by the files that were added to it (`Records`): the strategy chooses
among the files of a name, names stand in the order in which they first came, and the collisions
list the files of a name that has several. Each addition keeps this (`Records.add`), so it holds
after any number of them. The strategy that refuses duplicates stops at the first file whose name
has been added before (`ends_refusal`).
-/

namespace SourceReach

namespace FilesByName

theorem lookup_cons (m : FilesByName) (name other : Text) (paths : List Text) :
    List.lookup other ((name, paths) :: m) = if other = name then some paths
      else m.lookup other := by
  by_cases h : other = name
  · rw [if_pos h, List.lookup_cons, beq_iff_eq.2 h]
  · rw [if_neg h, List.lookup_cons, beq_eq_false_iff_ne.2 h]

theorem lookup_set (m : FilesByName) (name other : Text) (paths : List Text) :
    (m.set name paths).lookup other = if other = name then some paths else m.lookup other := by
  induction m with
  | nil => exact lookup_cons [] name other paths
  | cons entry m ih =>
    rcases entry with ⟨n, ps⟩
    rw [set]
    by_cases hn : n = name
    · rw [if_pos hn, hn, lookup_cons, lookup_cons]
      by_cases h : other = name
      · rw [if_pos h, if_pos h]
      · rw [if_neg h, if_neg h, if_neg h]
    · rw [if_neg hn, lookup_cons, ih, lookup_cons]
      by_cases h : other = name
      · rw [if_pos h, if_pos h, if_neg fun h' => hn (h'.symm.trans h)]
      · rw [if_neg h, if_neg h]

theorem mem_of_files_ne_nil {m : FilesByName} {name : Text} (h : m.files name ≠ []) :
    name ∈ m.map (·.1) := by
  unfold files at h
  cases hlookup : m.lookup name with
  | none => exact absurd (by rw [hlookup]; rfl) h
  | some paths =>
    obtain ⟨front, back, rfl, -⟩ := List.lookup_eq_some_iff.1 hlookup
    simp

theorem map_fst_set (m : FilesByName) (name : Text) (paths : List Text) :
    (m.set name paths).map (·.1) = if name ∈ m.map (·.1) then m.map (·.1)
      else m.map (·.1) ++ [name] := by
  induction m with
  | nil => rfl
  | cons entry m ih =>
    rcases entry with ⟨n, ps⟩
    rw [set]
    by_cases hn : n = name
    · simp [hn]
    · have hname : name ≠ n := fun h => hn h.symm
      rw [if_neg hn, List.map_cons, ih, List.map_cons]
      by_cases hm : name ∈ m.map (·.1) <;> simp [hname, hm]

end FilesByName

/-- The files among some additions that were added for a name, in their order. -/
def filesOf (added : List (Text × Text)) (name : Text) : List Text :=
  (added.filter (·.1 = name)).map (·.2)

/-- The files that lookups of a name give when some files were added for it. -/
def Strategy.choice : Strategy → List Text → List Text
  | .last, paths => paths.getLast?.toList
  | .first, paths => paths.head?.toList
  | .error, paths => paths.head?.toList
  | .all, paths => distinct paths

variable {added : List (Text × Text)} {name other path p : Text} {paths : List Text}
  {strategy : Strategy}

theorem filesOf_concat (added : List (Text × Text)) (name path other : Text) :
    filesOf (added ++ [(name, path)]) other =
      if name = other then filesOf added other ++ [path] else filesOf added other := by
  unfold filesOf
  by_cases h : name = other <;> simp [h]

theorem mem_filesOf : path ∈ filesOf added name ↔ (name, path) ∈ added := by
  unfold filesOf
  simp

theorem filesOf_ne_nil : filesOf added name ≠ [] ↔ name ∈ added.map (·.1) := by
  unfold filesOf
  simp [List.filter_eq_nil_iff]

namespace Strategy

theorem choice_eq_nil (strategy : Strategy) : strategy.choice paths = [] ↔ paths = [] := by
  cases strategy with
  | last => simp [choice]
  | first => simp [choice]
  | error => simp [choice]
  | all => cases paths <;> simp [choice, distinct]

theorem mem_of_mem_choice (h : p ∈ strategy.choice paths) : p ∈ paths := by
  cases strategy with
  | last => exact List.mem_of_getLast? (by simpa [choice] using h)
  | first => exact List.mem_of_head? (by simpa [choice] using h)
  | error => exact List.mem_of_head? (by simpa [choice] using h)
  | all => exact mem_distinct.1 h

theorem ofName_name (strategy : Strategy) : ofName strategy.name = .ok strategy := by
  cases strategy <;> rfl

theorem choice_singleton (strategy : Strategy) (path : Text) : strategy.choice [path] = [path] := by
  cases strategy <;> rfl

end Strategy

namespace NameIndex

variable {ix : NameIndex}

/-- The index holds what is told by the files that were added to it. The collisions are said for
additions none of which is repeated. -/
structure Records (ix : NameIndex) (added : List (Text × Text)) : Prop where
  entries : ∀ name, ix.entries.files name = ix.strategy.choice (filesOf added name)
  nameList : ix.nameList = distinct (added.map (·.1))
  collisions : added.Nodup → ∀ name, ix.collisions.lookup name =
    if 2 ≤ (filesOf added name).length then some (filesOf added name) else none

theorem records_empty (strategy : Strategy) : Records { strategy } [] where
  entries name := by cases strategy <;> rfl
  nameList := rfl
  collisions _ _ := rfl

@[simp] theorem strategy_add (ix : NameIndex) (name path : Text) :
    (ix.add name path).1.strategy = ix.strategy := by
  unfold add
  dsimp only
  split_ifs <;> rfl

theorem lookup_entries_add (ix : NameIndex) (name path other : Text) :
    (ix.add name path).1.entries.files other =
      if other = name then
        if ix.entries.files name = [] then [path]
        else if path ∈ ix.entries.files name then ix.entries.files name
        else ix.settled name path
      else ix.entries.files other := by
  unfold add
  dsimp only
  by_cases hnew : ix.entries.files name = []
  · rw [if_pos hnew, if_pos hnew]
    exact FilesByName.files_set _ _ _ _
  · by_cases hknown : path ∈ ix.entries.files name
    · rw [if_neg hnew, if_pos hknown, if_neg hnew, if_pos hknown]
      by_cases h : other = name
      · rw [if_pos h, h]
      · rw [if_neg h]
    · rw [if_neg hnew, if_neg hknown, if_neg hnew, if_neg hknown]
      exact FilesByName.files_set _ _ _ _

/-- What one more file does to the files that are given for its name. -/
theorem choice_concat (ix : NameIndex) (h : ix.entries.files name = ix.strategy.choice paths)
    (path : Text) :
    ix.strategy.choice (paths ++ [path]) =
      if ix.entries.files name = [] then [path]
      else if path ∈ ix.entries.files name then ix.entries.files name
      else ix.settled name path := by
  by_cases hnil : paths = []
  · subst hnil
    rw [if_pos (h.trans (ix.strategy.choice_eq_nil.2 rfl)), List.nil_append,
      ix.strategy.choice_singleton]
  · have hknown : ix.entries.files name ≠ [] := by
      rw [h]
      exact fun hchoice => hnil (ix.strategy.choice_eq_nil.1 hchoice)
    obtain ⟨first, rest, rfl⟩ := List.exists_cons_of_ne_nil hnil
    rw [if_neg hknown, settled, h]
    cases ix.strategy with
    | last =>
      by_cases hlast : path ∈ Strategy.choice .last (first :: rest)
      · have hpath : (first :: rest).getLast? = some path := by
          simpa [Strategy.choice, eq_comm] using hlast
        rw [if_pos hlast, Strategy.choice, Strategy.choice, hpath, List.getLast?_concat]
      · rw [if_neg hlast, Strategy.choice, List.getLast?_concat]
        rfl
    | first => simp [Strategy.choice]
    | error => simp [Strategy.choice]
    | all => simp only [Strategy.choice, distinct_concat, mem_distinct]

theorem nameList_add (ix : NameIndex) (name path : Text) :
    (ix.add name path).1.nameList = if name ∈ ix.nameList then ix.nameList
      else ix.nameList ++ [name] := by
  unfold add nameList
  dsimp only
  by_cases hnew : ix.entries.files name = []
  · rw [if_pos hnew]
    exact FilesByName.map_fst_set _ _ _
  · by_cases hknown : path ∈ ix.entries.files name
    · rw [if_neg hnew, if_pos hknown, if_pos (FilesByName.mem_of_files_ne_nil hnew)]
    · rw [if_neg hnew, if_neg hknown]
      exact FilesByName.map_fst_set _ _ _

theorem collisions_add (ix : NameIndex) (name path : Text) :
    (ix.add name path).1.collisions =
      match (ix.add name path).2 with
      | none => ix.collisions
      | some paths => ix.collisions.set name paths := by
  unfold add
  dsimp only
  split_ifs <;> rfl

/-- A file that is new for a name collides with the files of the name, if there are any. -/
theorem Records.collision (h : ix.Records added) (hadded : (added ++ [(name, path)]).Nodup) :
    (ix.add name path).2 =
      if filesOf added name = [] then none else some (filesOf added name ++ [path]) := by
  obtain ⟨hnodup, -, hdisjoint⟩ := List.nodup_append'.1 hadded
  have hnew : path ∉ ix.entries.files name := by
    intro hpath
    rw [h.entries] at hpath
    have hmem : (name, path) ∈ added := mem_filesOf.1 (Strategy.mem_of_mem_choice hpath)
    exact hdisjoint hmem List.mem_cons_self
  have hnil : ix.entries.files name = [] ↔ filesOf added name = [] := by
    rw [h.entries, Strategy.choice_eq_nil]
  unfold NameIndex.add
  dsimp only
  by_cases hfiles : filesOf added name = []
  · rw [if_pos (hnil.2 hfiles), if_pos hfiles]
  · rw [if_neg fun hknown => hfiles (hnil.1 hknown), if_neg hnew, if_neg hfiles, colliding,
      h.collisions hnodup]
    by_cases hseveral : 2 ≤ (filesOf added name).length
    · rw [if_pos hseveral, Option.getD_some]
    · have hone : (filesOf added name).length = 1 := by
        have hpos := List.length_pos_of_ne_nil hfiles
        omega
      obtain ⟨only, honly⟩ := List.length_eq_one_iff.1 hone
      rw [if_neg hseveral, Option.getD_none, h.entries, honly, Strategy.choice_singleton]

theorem Records.add (h : ix.Records added) (name path : Text) :
    (ix.add name path).1.Records (added ++ [(name, path)]) where
  entries other := by
    rw [lookup_entries_add, strategy_add, filesOf_concat]
    by_cases hother : other = name
    · subst hother
      rw [if_pos rfl, if_pos rfl, choice_concat ix (h.entries other)]
    · rw [if_neg hother, if_neg fun hname => hother hname.symm, h.entries]
  nameList := by
    rw [nameList_add, h.nameList, List.map_append, List.map_singleton, distinct_concat]
    simp only [mem_distinct]
  collisions hadded other := by
    have hold := h.collisions (List.nodup_append'.1 hadded).1
    rw [collisions_add, h.collision hadded, filesOf_concat]
    by_cases hfiles : filesOf added name = []
    · rw [if_pos hfiles, hold]
      by_cases hother : name = other
      · rw [if_pos hother, ← hother, hfiles]
        rfl
      · rw [if_neg hother]
    · rw [if_neg hfiles]
      dsimp only
      rw [FilesByName.lookup_set, hold]
      by_cases hother : other = name
      · have hpos := List.length_pos_of_ne_nil hfiles
        rw [if_pos hother, if_pos hother.symm, hother, if_pos]
        rw [List.length_append, List.length_singleton]
        omega
      · have hname : name ≠ other := fun hname => hother hname.symm
        rw [if_neg hother]
        simp only [hname, if_false]

/-! ## Building from a list of files -/

theorem ends_addLogged (ix : NameIndex) (name path : Text) :
    (ix.addLogged name path).Ends
      (match ix.refusal? name (ix.add name path).2 with
      | some e => .error (.configuration e)
      | none => .ok (ix.add name path).1) := by
  have hsettle : Logged.Ends
      (match ix.refusal? name (ix.add name path).2 with
      | some e => Logged.fail e
      | none => pure (ix.add name path).1)
      (match ix.refusal? name (ix.add name path).2 with
      | some e => .error (.configuration e)
      | none => .ok (ix.add name path).1) := by
    cases ix.refusal? name (ix.add name path).2 with
    | none => exact Run.ends_pure _ _
    | some e => exact Logged.ends_fail e
  unfold addLogged
  dsimp only
  cases hcollision : (ix.add name path).2 with
  | none =>
    rw [hcollision] at hsettle
    exact hsettle
  | some paths =>
    rw [hcollision] at hsettle
    exact (Logged.ends_log _ _).bind hsettle

theorem ends_addAll (files : List (Text × Text)) (h : ix.Records added)
    (hnew : (added ++ files).Nodup)
    (hrefuse : ix.strategy = .error → ((added ++ files).map (·.1)).Nodup) :
    ∃ ix', (ix.addAll files).Ends (.ok ix') ∧ ix'.Records (added ++ files) ∧
    ix'.strategy = ix.strategy := by
  induction files generalizing ix added with
  | nil =>
    rw [List.append_nil]
    exact ⟨ix, Run.ends_pure ix _, h, rfl⟩
  | cons file files ih =>
    rcases file with ⟨name, path⟩
    have hsplit : added ++ (name, path) :: files = (added ++ [(name, path)]) ++ files := by simp
    rw [hsplit] at hnew hrefuse ⊢
    have hrefusal : ix.refusal? name (ix.add name path).2 = none := by
      by_cases hstrategy : ix.strategy = .error
      · have hnames := hrefuse hstrategy
        rw [List.map_append, List.map_append] at hnames
        have hname : name ∉ added.map (·.1) := fun hname =>
          (List.nodup_append'.1 (List.nodup_append'.1 hnames).1).2.2 hname List.mem_cons_self
        have hfiles : filesOf added name = [] := not_ne_iff.1 (hname ∘ filesOf_ne_nil.1)
        rw [refusal?, if_pos hstrategy, h.collision (List.nodup_append'.1 hnew).1, if_pos hfiles]
        rfl
      · rw [refusal?, if_neg hstrategy]
    obtain ⟨ix', hends, hrecords, hstrategy⟩ :=
      ih (h.add name path) hnew (by rwa [strategy_add])
    refine ⟨ix', ?_, hrecords, by rw [hstrategy, strategy_add]⟩
    have hadd := ends_addLogged ix name path
    rw [hrefusal] at hadd
    rw [addAll_cons]
    exact hadd.bind hends

/-- The strategy that refuses duplicates stops at a name that has been added before, and gives its
two files. -/
theorem ends_refusal (h : ix.Records added) (hstrategy : ix.strategy = .error)
    (hnew : (added ++ [(name, path)]).Nodup) (hbefore : name ∈ added.map (·.1)) :
    (ix.addLogged name path).Ends
      (.error (.configuration (.nameCollision name (filesOf added name ++ [path])))) := by
  have hfiles : filesOf added name ≠ [] := filesOf_ne_nil.2 hbefore
  have hadd := ends_addLogged ix name path
  rw [refusal?, if_pos hstrategy, h.collision hnew, if_neg hfiles] at hadd
  exact hadd

/-- Under the strategy that refuses duplicates, nothing is added after the first repetition of a
name. -/
theorem ends_addAll_refusal {before : List (Text × Text)} (after : List (Text × Text))
    (hnew : (before ++ [(name, path)]).Nodup) (hnames : (before.map (·.1)).Nodup)
    (hbefore : name ∈ before.map (·.1)) :
    (addAll { strategy := .error } (before ++ (name, path) :: after)).Ends
      (.error (.configuration (.nameCollision name (filesOf before name ++ [path])))) := by
  obtain ⟨ix, hends, hrecords, hstrategy⟩ :=
    ends_addAll before (records_empty .error) (List.nodup_append'.1 hnew).1 fun _ => hnames
  rw [addAll_append]
  refine hends.bind ?_
  rw [addAll_cons]
  exact (ends_refusal hrecords hstrategy hnew hbefore).bind_error

variable {tree : FileTree} {project : Path} {root extension text : Text} {place : List Text}
  {glob : List GlobName}

section Source

variable (hresolve : tree.resolve (project.join (Path.ofText root)) = .ok (place, .directory))
  (hlisted : place ∉ tree.unlistable) (hstrategy : Strategy.ofName text = .ok strategy)
  (hglob : GlobName.ofText? ('*' :: extension) = some glob)

include hresolve hlisted hstrategy hglob

/-- A build that gets as far as the search ends as the additions of what is found do, or says of the
source root that it cannot be read. -/
theorem ends_build {r : Except Failure NameIndex}
    (h : match tree.search (project.join (Path.ofText root)) place glob with
      | .ok found => Logged.Ends
          (found.foldlM (addFound tree (project.join (Path.ofText root)) place project extension)
            { strategy }) r
      | .error e =>
        r = .error (.configuration (.sourceRootUnreadable (project.join (Path.ofText root)) e))) :
    (build tree root project extension text).Ends r := by
  have hdir : Except.expected (tree.isDirectory (project.join (Path.ofText root))) = .ok true := by
    rw [Except.expected_eq_ok, FileTree.isDirectory, FileTree.holds, hresolve]
    rfl
  unfold build
  dsimp only
  rw [hdir, hstrategy, hresolve, hglob]
  refine (Logged.ends_ofExcept _).bind ?_
  rw [if_pos rfl]
  refine (Logged.ends_ofExcept _).bind ?_
  rw [if_neg hlisted]
  dsimp only
  generalize tree.search (project.join (Path.ofText root)) place glob = found at h ⊢
  cases found with
  | error e =>
    rw [h]
    exact (Logged.ends_fail _).bind_error
  | ok found =>
    refine (Run.ends_pure found _).bind ?_
    cases r with
    | error e => exact h.bind_error
    | ok ix => exact h.bind ((Logged.ends_log _ _).bind (Run.ends_pure ix _))

end Source

/-- The first thing that is found too far down ends the additions, unless a refusal has ended them
before. -/
theorem ends_foldlM_addFound_of_long {before after : List (List Text)}
    {names : List Text} {root : Path}
    {ix ix' : NameIndex} (hbefore : ∀ names ∈ before, (root.along names).IsShort)
    (hlong : ¬(root.along names).IsShort)
    (hadded : (ix.addAll ((tree.filesAmong place before).map (indexed project root extension))).Ends
      (.ok ix')) :
    Logged.Ends ((before ++ names :: after).foldlM (addFound tree root place project extension) ix)
      (.error (.defect (.access ⟨.nameTooLong, (root.along names).toText⟩))) := by
  rw [List.foldlM_append, foldlM_addFound hbefore]
  refine hadded.bind ?_
  rw [List.foldlM_cons]
  exact (ends_addFound_of_not_isShort hlong ix').bind_error

/-- A refusal ends the additions, whatever is found after it. -/
theorem ends_foldlM_addFound_of_refusal {before after : List (List Text)} {root : Path}
    {ix : NameIndex} {e : Failure}
    (hbefore : ∀ names ∈ before, (root.along names).IsShort)
    (hrefused : (ix.addAll
      ((tree.filesAmong place before).map (indexed project root extension))).Ends (.error e)) :
    Logged.Ends ((before ++ after).foldlM (addFound tree root place project extension) ix)
      (.error e) := by
  rw [List.foldlM_append, foldlM_addFound hbefore]
  exact hrefused.bind_error

end NameIndex

end SourceReach
