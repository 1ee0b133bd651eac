import SourceReach.Proofs.BasePackage
import SourceReach.Proofs.Running

/-!
# Narrower base packages

A base package that lies in another one lets fewer imports through, so each file has fewer
dependencies (`Extractor.narrow_edges`) and a closure discovers fewer files, although it may visit
them in another order and at other levels (`Finder.find_narrows`). More segments of a declared
package make a narrower base package.
-/

namespace SourceReach

namespace Extractor

variable {x : Extractor} {base file source entry : Text} {bound : Int} {c : Closure}

theorem narrow_tokenMatches (hbase : Package.contains x.base base = true) {rule : Rule}
    {token : Text}
    {ms : List RuleMatch} (h : x.tokenMatches file rule token = .ok ms) :
    ∃ ms', tokenMatches { x with base } file rule token = .ok ms' ∧ ms' ⊆ ms := by
  unfold tokenMatches at h ⊢
  split_ifs at h ⊢
  · unfold importMatches at h ⊢
    by_cases htoken : Package.contains base token = true
    · rw [if_pos (Package.contains_trans hbase htoken)] at h
      rw [if_pos htoken]
      exact ⟨ms, h, List.Subset.refl ms⟩
    · rw [if_neg htoken]
      exact ⟨[], rfl, List.nil_subset ms⟩
  · exact ⟨ms, h, List.Subset.refl ms⟩

theorem narrow_extract (hbase : Package.contains x.base base = true) {found : List Text}
    (h : x.extract file source = .ok found) :
    ∃ found', extract { x with base } file source = .ok found' ∧ found' ⊆ found := by
  obtain ⟨ms, hms, rfl⟩ := Except.map_eq_ok.1 h
  obtain ⟨lists, hlists, rfl⟩ := Except.map_eq_ok.1
    (show Except.map List.flatten _ = .ok ms from hms)
  obtain ⟨lists', hlists', hsub⟩ := Except.mapM_flatten_subset (List.Subset.refl _)
    (fun t _ ms hms => narrow_tokenMatches hbase hms) hlists
  refine ⟨_, by rw [extract, explain, hlists']; rfl, fun p hp => ?_⟩
  rw [mem_sortedDistinct, List.mem_filter, List.mem_filterMap] at hp ⊢
  obtain ⟨⟨m, hmatch, hpath⟩, hne⟩ := hp
  exact ⟨⟨m, hsub hmatch, hpath⟩, hne⟩

/-- With a narrower base package, a file has fewer dependencies. They can be told if those for the
wider one can. -/
theorem narrow_edges (hbase : Package.contains x.base base = true)
    (h : (x.dependencies file).Ends (.ok (x.edges file))) :
    (dependencies { x with base } file).Ends (.ok (edges { x with base } file)) ∧
      edges { x with base } file ⊆ x.edges file := by
  have hnarrow : ∃ found', (dependencies { x with base } file).Ends (.ok found') ∧
      found' ⊆ x.edges file := by
    obtain ⟨source?, _, hread, hrest⟩ := h.gives.bind
    have hread : (readSource { x with base } file).Ends (.ok source?) :=
      (settled_readSource x file).ends hread
    cases source? with
    | none => exact ⟨[], hread.bind (Run.ends_pure _ _), List.nil_subset _⟩
    | some source =>
      obtain ⟨found, _, hfound, hrest⟩ := hrest.bind
      obtain ⟨_, _, -, hlast⟩ := hrest.bind
      obtain rfl := (Run.gives_pure.1 hlast).1
      obtain ⟨found', hfound', hsub⟩ := narrow_extract hbase (Logged.gives_ofExcept.1 hfound)
      refine ⟨found', hread.bind ?_, hsub⟩
      dsimp only
      rw [hfound']
      exact (Logged.ends_ofExcept _).bind ((Logged.ends_log _ _).bind (Run.ends_pure _ _))
  obtain ⟨found', hends, hsub⟩ := hnarrow
  rw [edges_of_ends hends]
  exact ⟨hends, hsub⟩

/-- A closure for a narrower base package discovers fewer files. -/
theorem narrow_closure (hbase : Package.contains x.base base = true)
    (h : (x.closure entry bound).Gives c) :
    ∃ c', (closure { x with base } entry bound).Ends (.ok c') ∧ c'.discovered ⊆ c.discovered := by
  obtain ⟨-, hends⟩ := closure_gives h
  have hdiscovered := (closure_of_gives h).2
  -- The bound counts levels, and a file has no smaller level when there are fewer dependencies.
  have hsub : layersBelow (edges { x with base }) entry bound.toNat ⊆ c.discovered := by
    rw [hdiscovered]
    refine layersBelow_subset fun file hfile => (narrow_edges hbase (hends file ?_)).2
    rwa [hdiscovered]
  have htold : ∀ file ∈ layersBelow (edges { x with base }) entry bound.toNat,
      (dependencies { x with base } file).Ends (.ok (edges { x with base } file)) :=
    fun file hfile => (narrow_edges hbase (hends file (hsub hfile))).1
  have hclosure := ends_closure htold
  refine ⟨_, hclosure, ?_⟩
  rwa [(closure_of_gives hclosure.gives).2]

end Extractor

namespace Finder

variable {f : Finder} {tree : FileTree} {known : Option NameIndex} {entry e base : Text}
  {depth : Option Int}
  {m n : Int} {d : Discovery}

theorem baseFor_segments (hm : 1 ≤ m) (hmn : m ≤ n)
    (h : baseFor { f with segments := m } tree e none = .ok base) :
    ∃ base', baseFor { f with segments := n } tree e none = .ok base' ∧
    Package.contains base base' = true := by
  unfold baseFor basePackage at h ⊢
  dsimp only at h ⊢
  cases hread : tree.read (f.project.locate e) with
  | error cause =>
    rw [hread] at h
    exact absurd h nofun
  | ok content =>
    rw [hread] at h
    dsimp only at h ⊢
    unfold Package.base? at h ⊢
    cases hdeclared : Package.declared? (FileTree.sourceText content) with
    | none =>
      rw [hdeclared] at h
      exact absurd h nofun
    | some name =>
      rw [hdeclared] at h
      rw [← Except.ok.inj h]
      exact ⟨_, rfl, Package.contains_firstSegments hm hmn name⟩

/-- Narrowing the base package never adds files: not to a closure, whatever names are looked up in,
and not to a run that takes more segments of the package which the entry declares. -/
theorem find_narrows :
    (∀ (x : Extractor) (base entry : Text) (bound : Int) (c : Closure),
      Package.contains x.base base = true → (x.closure entry bound).outcome.1 = .ok c →
      ∃ c', (Extractor.closure { x with base } entry bound).outcome.1 = .ok c' ∧
      c'.discovered ⊆ c.discovered) ∧
    ∀ (f : Finder) (tree : FileTree) (known : Option NameIndex) (entry : Text)
      (depth : Option Int) (m n : Int)
      (d : Discovery), 1 ≤ m → m ≤ n →
      ((find { f with segments := m } tree entry none depth).outcome known).1 = .ok d →
      ∃ d', ((find { f with segments := n } tree entry none depth).outcome known).1 = .ok d' ∧
        Package.contains d.base d'.base = true ∧ d'.closure.discovered ⊆ d.closure.discovered := by
  constructor
  · intro x base entry bound c hbase h
    obtain ⟨c', hends, hsub⟩ := Extractor.narrow_closure hbase (Logged.gives_of_outcome h)
    exact ⟨c', hends.outcome, hsub⟩
  · intro f tree known entry depth m n d hm hmn h
    obtain ⟨known', hgives⟩ := Finding.gives_of_outcome h
    obtain ⟨e, ix, hentry, hbase, hbound, hindex, hclosure⟩ := find_gives hgives
    obtain ⟨base, hbase', hnarrow⟩ := baseFor_segments hm hmn hbase
    obtain ⟨c, hends, hsub⟩ := Extractor.narrow_closure hnarrow hclosure
    have hindex' := ends_index (FileTree.SameShape.refl tree) hindex
    have hfind := ends_find (f := { f with segments := n }) hentry hbase' hbound hindex' hends
    exact ⟨_, hfind.outcome.1, hnarrow, hsub⟩

/-- A file with one import from its own package, and one from the package around it. -/
def packagesTree : FileTree where
  nodes := [(["p".toList], .directory), (["p".toList, "src".toList], .directory),
    (["p".toList, "src".toList, "a".toList], .directory),
    (["p".toList, "src".toList, "a".toList, "C.java".toList], .file []),
    (["p".toList, "src".toList, "a".toList, "b".toList], .directory),
    (["p".toList, "src".toList, "a".toList, "b".toList, "A.java".toList],
      .file (Utf8.encode "package a.b;\nimport a.C;\nimport a.b.B;".toList)),
    (["p".toList, "src".toList, "a".toList, "b".toList, "B.java".toList], .file [])]

/-- What a run from the importing file finds when one segment of its package is taken. -/
def packagesDiscovery : Discovery where
  base := "a".toList
  closure :=
    { entry := "src/a/b/A.java".toList
      discovered := ["src/a/b/A.java".toList, "src/a/C.java".toList, "src/a/b/B.java".toList]
      depth := 2
      bound := 50
      truncated := false }

/-- What the names of the outer package are looked up in, without an index. -/
def packagesExtractor : Extractor where
  tree := packagesTree
  index := { strategy := .last }
  source := sample.source
  base := "a".toList

set_option maxRecDepth 10000 in
theorem packages_narrow :
    (∃ c, (Extractor.closure { packagesExtractor with base := "a.b".toList } "src/a/b/A.java".toList
      50).outcome.1 =
        .ok c ∧ c.discovered ⊆ packagesDiscovery.closure.discovered) ∧
      ∃ d, ((find { sample with segments := 2 } packagesTree "src/a/b/A.java".toList none
        none).outcome none).1 =
        .ok d ∧ Package.contains "a".toList d.base = true ∧
        d.closure.discovered ⊆ packagesDiscovery.closure.discovered := by
  have hclosure : (packagesExtractor.closure "src/a/b/A.java".toList 50).outcome.1 =
      .ok packagesDiscovery.closure :=
    Except.eq_ok_of_toOption (by decide +kernel)
  have hfind :
    ((find { sample with segments := 1 } packagesTree "src/a/b/A.java".toList none none).outcome
      none).1 =
      .ok packagesDiscovery := Except.eq_ok_of_toOption (by decide +kernel)
  obtain ⟨hnarrow, hsegments⟩ := find_narrows
  exact ⟨hnarrow packagesExtractor _ _ _ _ (by decide) hclosure,
    hsegments sample packagesTree none _ none 1 2 _ (by decide) (by decide) hfind⟩

end Finder

end SourceReach
