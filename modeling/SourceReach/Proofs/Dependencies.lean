import SourceReach.Proofs.BreadthFirst
import SourceReach.Proofs.Candidate
import SourceReach.Proofs.Indexing

/-!
# Where dependencies come from

A dependency of a file is what an import in it is resolved to, or a file of the index
(`mem_extract`). When the closure of an extractor gives a result, it is the breadth-first closure of
these dependencies (`closure_of_gives`).
-/

namespace SourceReach.Extractor

variable {x : Extractor} {file source entry p : Text} {found : List Text}

theorem mem_tokenMatches {rule : Rule} {token : Text} {ms : List RuleMatch}
    (h : x.tokenMatches file rule token = .ok ms) {m : RuleMatch} (hm : m ∈ ms)
    (hp : m.path = some p) :
    (rule = .imported ∧ Package.contains x.base token = true ∧ x.source.resolve x.tree token =
      .ok (some p)) ∨
      p ∈ x.index.entries.files token := by
  unfold tokenMatches at h
  split_ifs at h with hrule
  · unfold importMatches at h
    split_ifs at h with hbase
    · obtain ⟨path, hpath, rfl⟩ := Except.map_eq_ok.1 h
      rw [List.mem_singleton.1 hm] at hp
      subst hp
      exact Or.inl ⟨of_decide_eq_true hrule, hbase, hpath⟩
    · rw [← Except.ok.inj h] at hm
      exact absurd hm List.not_mem_nil
  · rw [← Except.ok.inj h] at hm
    unfold symbolMatches at hm
    split at hm
    · rw [List.mem_singleton.1 hm] at hp
      exact absurd hp nofun
    · obtain ⟨path, hpath, rfl⟩ := List.mem_map.1 hm
      obtain rfl := Option.some.inj hp
      exact Or.inr (NameIndex.mem_files_of_mem_resolve hpath)

/-- A dependency is another file: one that an import of the base package is resolved to, or one of
the index. -/
theorem mem_extract (h : x.extract file source = .ok found) (hp : p ∈ found) :
    p ≠ file ∧
      ((∃ token ∈ Rule.importPattern.findAll source,
          Package.contains x.base token = true ∧ x.source.resolve x.tree token = .ok (some p)) ∨
        ∃ name, p ∈ x.index.entries.files name) := by
  obtain ⟨ms, hms, rfl⟩ := Except.map_eq_ok.1 h
  obtain ⟨hp, hne⟩ := List.mem_filter.1 (mem_sortedDistinct.1 hp)
  obtain ⟨m, hm, hpath⟩ := List.mem_filterMap.1 hp
  refine ⟨of_decide_eq_true hne, ?_⟩
  obtain ⟨lists, hlists, rfl⟩ := Except.map_eq_ok.1
    (show Except.map List.flatten _ = .ok ms from hms)
  obtain ⟨list, hlist, hm⟩ := List.mem_flatten.1 hm
  obtain ⟨⟨rule, token⟩, htoken, hmatches⟩ := Except.mem_of_mapM hlists hlist
  rcases mem_tokenMatches hmatches hm hpath with ⟨rfl, hbase, hresolve⟩ | hindex
  · obtain ⟨rule, -, htoken⟩ := List.mem_flatMap.1 htoken
    obtain ⟨token', htoken', heq⟩ := List.mem_map.1 htoken
    obtain ⟨rfl, rfl⟩ := Prod.mk.inj heq
    exact Or.inl ⟨token', htoken', hbase, hresolve⟩
  · exact Or.inr ⟨token, hindex⟩

/-! ## The closure of an extractor -/

/-- The dependencies of a file, if they can be told. -/
def edges (x : Extractor) (file : Text) : List Text :=
  ((x.dependencies file).outcome.1.toOption).getD []

theorem run_dependencies (x : Extractor) (file : Text) (log : List LogEntry) :
    ((x.dependencies file).run.run log).1 = (x.dependencies file).outcome.1 := by
  unfold dependencies readSource Logged.outcome
  cases x.tree.read (x.source.project.locate file) with
  | ok content =>
    dsimp only
    rw [pure_bind]
    dsimp only
    cases x.extract file (FileTree.sourceText content) with
    | ok found => rfl
    | error e => rfl
  | error e =>
    dsimp only
    split_ifs
    · rfl
    · rfl

/-- The effects of a question about a file come before its answer. -/
theorem dependencies_eq_asking (x : Extractor) :
    x.dependencies = Traversal.asking (fun file => do let _ ← x.dependencies file) x.edges := by
  funext file
  refine ExceptT.ext (StateT.ext fun log => ?_)
  have hvalue := run_dependencies x file log
  unfold Traversal.asking edges
  rw [ExceptT.run_bind, StateT.run_bind, ExceptT.run_bind, StateT.run_bind]
  rcases hrun : (x.dependencies file).run.run log with ⟨r, log'⟩
  rw [hrun] at hvalue
  rw [← hvalue]
  cases r with
  | ok found => rfl
  | error e => rfl

/-- The files that a closure finds are the layers of the dependencies before the bound. -/
theorem closure_of_gives {bound : Int} {c : Closure} (h : (x.closure entry bound).Gives c) :
    c.entry = entry ∧ c.discovered = layersBelow x.edges entry bound.toNat := by
  unfold closure at h
  rw [dependencies_eq_asking, Traversal.closure_asking] at h
  obtain ⟨_, _, -, h⟩ := h.bind
  obtain ⟨_, _, -, h⟩ := h.bind
  rw [← (Run.gives_pure.1 h).1]
  exact ⟨rfl, (Traversal.atLevel_after_seed x.edges entry bound.toNat).discovered⟩

theorem extract_of_mem_edges (h : p ∈ x.edges file) :
    ∃ source found, x.extract file source = .ok found ∧ p ∈ found := by
  unfold edges Logged.outcome at h
  rcases hrun : (x.dependencies file).run.run [] with ⟨found | found, log⟩
  · rw [hrun] at h
    exact absurd h List.not_mem_nil
  · rw [hrun] at h
    have hgives : (x.dependencies file).Gives found := Logged.gives_of_run hrun
    obtain ⟨source?, _, -, hrest⟩ := hgives.bind
    cases source? with
    | none =>
      rw [← (Run.gives_pure.1 hrest).1] at h
      exact absurd h List.not_mem_nil
    | some source =>
      obtain ⟨found', _, hfound, hrest⟩ := hrest.bind
      obtain ⟨_, _, -, hrest⟩ := hrest.bind
      obtain rfl := (Run.gives_pure.1 hrest).1
      exact ⟨source, found', Logged.gives_ofExcept.1 hfound, h⟩

theorem mem_edges_of_mem_closure {bound : Int} {c : Closure} (h : (x.closure entry bound).Gives c)
    (hp : p ∈ c.discovered) : p = entry ∨ ∃ file, p ∈ x.edges file := by
  rw [(closure_of_gives h).2, mem_layersBelow] at hp
  obtain ⟨n, -, hchain, -⟩ := hp
  cases n with
  | zero => exact Or.inl (Eq.symm hchain)
  | succ n =>
    obtain ⟨file, -, hfile⟩ := hchain
    exact Or.inr ⟨file, hfile⟩

end SourceReach.Extractor
