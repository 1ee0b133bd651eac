import SourceReach.Proofs.Running

/-!
# What a run reads

A run reads the files that it discovers, and no others: with other contents in all other files it
has the same result (`Finder.find_readsDiscovered`). What is asked about the rest of the tree is
which files there are.
-/

namespace SourceReach

variable {tree tree' : FileTree}

theorem SourceRoot.resolve_of_sameShape (h : tree.SameShape tree') (s : SourceRoot) (name : Text) :
    s.resolve tree' name = s.resolve tree name := by
  rw [SourceRoot.resolve, SourceRoot.resolve, h.isFile]

namespace Extractor

/-- The names in a source mean the same files in all trees of one shape. -/
theorem extract_of_sameShape {x : Extractor} (h : x.tree.SameShape tree') (file source : Text) :
    extract { x with tree := tree' } file source = x.extract file source := by
  have htoken : tokenMatches { x with tree := tree' } = x.tokenMatches := by
    funext file rule token
    unfold tokenMatches importMatches
    rw [SourceRoot.resolve_of_sameShape h]
    rfl
  rw [extract, extract, explain, explain, htoken]

theorem dependencies_of_read {x : Extractor} {file : Text} (h : x.tree.SameShape tree')
    (hread : x.tree.read (x.source.project.locate file) =
      tree'.read (x.source.project.locate file)) :
    dependencies { x with tree := tree' } file = x.dependencies file := by
  unfold dependencies readSource
  rw [hread]
  simp only [extract_of_sameShape h]

end Extractor

namespace Finder

variable {f : Finder} {known : Option NameIndex} {entry e : Text} {base : Option Text}
  {depth : Option Int}
  {d : Discovery}

theorem entryPath_of_sameShape (h : tree.SameShape tree') (f : Finder) (entry : Text) :
    f.entryPath tree' entry = f.entryPath tree entry := by
  simp only [entryPath, h.isFile]

theorem baseFor_of_read (hread : tree.read (f.project.locate e) = tree'.read (f.project.locate e))
    (given : Option Text) : f.baseFor tree' e given = f.baseFor tree e given := by
  unfold baseFor basePackage
  rw [hread]

/-- Only the contents of discovered files matter: in a tree with the same files and directories that
has the same content in each file which a run discovers, the run has the same result. -/
theorem find_readsDiscovered (hshape : tree.SameShape tree')
    (hfind : ((f.find tree entry base depth).outcome known).1 = .ok d)
    (hread : ∀ p ∈ d.closure.discovered, tree.read (f.project.locate p) =
      tree'.read (f.project.locate p)) :
    ((f.find tree' entry base depth).outcome known).1 = .ok d := by
  obtain ⟨known', hgives⟩ := Finding.gives_of_outcome hfind
  obtain ⟨e, ix, hentry, hbase, hbound, hindex, hclosure⟩ := find_gives hgives
  have hfirst : e ∈ d.closure.discovered := by
    rw [(Extractor.closure_of_gives hclosure).2]
    exact List.mem_of_head? (head?_layersBelow _ e (by omega))
  -- The base package may be told by the entry, which is discovered because the bound lets in one
  -- level at least.
  rw [← entryPath_of_sameShape hshape] at hentry
  rw [← baseFor_of_read (hread e hfirst)] at hbase
  have hagree : ∀ p ∈ d.closure.discovered,
      Extractor.dependencies { tree := tree', index := ix, source := f.source, base := d.base } p =
        Extractor.dependencies { tree, index := ix, source := f.source, base := d.base } p :=
    fun p hp => Extractor.dependencies_of_read
      (x := { tree, index := ix, source := f.source, base := d.base }) hshape
      (hread p hp)
  have hclosure' := Extractor.ends_closure_of_agree hclosure hagree
  have hends := ends_find hentry hbase hbound (ends_index hshape hindex) hclosure'
  exact hends.outcome.1

/-- The small project with one more file, which nothing depends on. -/
def spareTree (content : Bytes) : FileTree :=
  sampleTree.put ["p".toList, "src".toList, "D.java".toList] (.file content)

theorem sameShape_spareTree (content content' : Bytes) :
    (spareTree content).SameShape (spareTree content') where
  kind place := by
    rw [spareTree, spareTree, FileTree.listed_put (by decide), FileTree.listed_put (by decide)]
    split_ifs
    · rfl
    · rfl
  listable _ := Iff.rfl

set_option maxRecDepth 10000 in
theorem spareTree_readsDiscovered :
    (spareTree []).SameShape (spareTree (Utf8.encode "class D extends A".toList)) ∧
      ((sample.find (spareTree []) "src/A.java".toList (some "q".toList)).outcome none).1 =
        .ok sampleDiscovery ∧
      ((sample.find (spareTree (Utf8.encode "class D extends A".toList)) "src/A.java".toList
        (some "q".toList)).outcome none).1 = .ok sampleDiscovery := by
  have hshape := sameShape_spareTree [] (Utf8.encode "class D extends A".toList)
  have hfind : ((sample.find (spareTree []) "src/A.java".toList (some "q".toList)).outcome none).1 =
      .ok sampleDiscovery := Except.eq_ok_of_toOption (by decide +kernel)
  have hcontents : ∀ p ∈ sampleDiscovery.closure.discovered,
      ((spareTree []).read (sample.project.locate p)).toOption.isSome = true ∧
        ((spareTree []).read (sample.project.locate p)).toOption =
          ((spareTree (Utf8.encode "class D extends A".toList)).read
            (sample.project.locate p)).toOption := by
    decide +kernel
  refine ⟨hshape, hfind, find_readsDiscovered hshape hfind fun p hp => ?_⟩
  exact Except.eq_of_toOption (hcontents p hp).1 (hcontents p hp).2

end Finder

end SourceReach
