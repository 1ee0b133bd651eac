import SourceReach.Proofs.Adding
import SourceReach.Proofs.Discovery
import SourceReach.Proofs.Shape

/-!
# Runs that come to their end

A run of a finder gives a result just when its parts do: the entry, the base package, the index and
the closure. What follows from a given result has been said by inversion; here the parts are put
together again (`Finder.ends_find`), so that a result in one tree, or for one base package, leads to
a result in another.
-/

namespace SourceReach

/-! ## Closures -/

namespace Extractor

variable {x x' : Extractor} {file entry : Text} {found : List Text} {bound : Int} {c : Closure}

theorem settled_readSource (x : Extractor) (file : Text) : (x.readSource file).Settled := by
  unfold readSource
  cases x.tree.read (x.source.project.locate file) with
  | ok content => exact ⟨_, Run.ends_pure _ _⟩
  | error e =>
    dsimp only
    by_cases hnul : e.cause = .embeddedNul
    · rw [if_pos hnul]
      exact ⟨_, (Run.ends_throw _ _).bind_error⟩
    · rw [if_neg hnul]
      exact ⟨_, (Logged.ends_log _ _).bind (Run.ends_pure _ _)⟩

theorem ends_dependencies (x : Extractor) (file : Text) :
    (x.dependencies file).Ends (x.dependencies file).outcome.1 :=
  Logged.ends_of_run (run_dependencies x file)

theorem edges_of_ends (h : (x.dependencies file).Ends (.ok found)) : x.edges file = found := by
  rw [edges, h.outcome]
  rfl

theorem ends_edges (h : (x.dependencies file).Gives found) :
    (x.dependencies file).Ends (.ok (x.edges file)) := by
  have hends := Logged.Settled.ends ⟨_, ends_dependencies x file⟩ h
  rwa [edges_of_ends hends]

/-- What a closure is, and that the dependencies of all its files can be told. -/
theorem closure_gives (h : (x.closure entry bound).Gives c) :
    c = (Traversal.after x.edges bound.toNat (Traversal.seed entry)).result entry bound ∧
      ∀ file ∈ c.discovered, (x.dependencies file).Ends (.ok (x.edges file)) := by
  have hdiscovered := (closure_of_gives h).2
  unfold closure at h
  rw [dependencies_eq_asking, Traversal.closure_asking] at h
  obtain ⟨_, _, hasked, h⟩ := h.bind
  obtain ⟨_, _, -, h⟩ := h.bind
  refine ⟨(Run.gives_pure.1 h).1.symm, fun file hfile => ?_⟩
  rw [hdiscovered] at hfile
  obtain ⟨found, _, hfound, -⟩ := (Logged.Gives.forM hasked file hfile).bind
  exact ends_edges hfound

/-- A closure has a result when the dependencies of the files in its layers can be told. -/
theorem ends_closure
    (h : ∀ file ∈ layersBelow x.edges entry bound.toNat, (x.dependencies file).Ends
      (.ok (x.edges file))) :
    (x.closure entry bound).Ends
      (.ok ((Traversal.after x.edges bound.toNat (Traversal.seed entry)).result entry bound)) := by
  unfold closure
  rw [dependencies_eq_asking, Traversal.closure_asking]
  have hasked : ∀ file ∈ layersBelow x.edges entry bound.toNat,
      Logged.Ends (do let _ ← x.dependencies file) (.ok ⟨⟩) :=
    fun file hfile => (h file hfile).bind (Run.ends_pure _ _)
  refine (Run.ends_forM hasked).bind ((Run.ends_forM fun message _ => ?_).bind (Run.ends_pure _ _))
  exact Logged.ends_log _ _

/-- Extractors that say the same of all files which one of them discovers have the same closure. -/
theorem ends_closure_of_agree (h : (x.closure entry bound).Gives c)
    (hagree : ∀ file ∈ c.discovered, x'.dependencies file = x.dependencies file) :
    (x'.closure entry bound).Ends (.ok c) := by
  obtain ⟨hc, hends⟩ := closure_gives h
  have hedges : ∀ file ∈ c.discovered, x'.edges file = x.edges file := fun file hfile => by
    rw [edges, edges, hagree file hfile]
  have hafter : Traversal.after x.edges bound.toNat (Traversal.seed entry) =
      Traversal.after x'.edges bound.toNat (Traversal.seed entry) := by
    refine Traversal.after_congr fun file hfile => (hedges file ?_).symm
    rwa [hc]
  have hlayers : layersBelow x'.edges entry bound.toNat = c.discovered := by
    rw [← (Traversal.atLevel_after_seed x'.edges entry bound.toNat).discovered, ← hafter, hc]
    rfl
  rw [hc, hafter]
  refine ends_closure fun file hfile => ?_
  rw [hlayers] at hfile
  rw [hagree file hfile, hedges file hfile]
  exact hends file hfile

theorem settled_closure (x : Extractor) (entry : Text) (bound : Int) :
    (x.closure entry bound).Settled := by
  unfold closure
  rw [dependencies_eq_asking, Traversal.closure_asking]
  refine (Logged.settled_forM (fun file => ?_) _).bind fun _ =>
    (Logged.settled_forM (fun _ => ?_) _).bind fun _ => ?_
  · exact Logged.Settled.bind ⟨_, ends_dependencies x file⟩ fun _ => ⟨_, Run.ends_pure _ _⟩
  · exact ⟨_, Logged.ends_log _ _⟩
  · exact ⟨_, Run.ends_pure _ _⟩

end Extractor

/-! ## The index -/

namespace NameIndex

theorem settled_addLogged (ix : NameIndex) (name path : Text) : (ix.addLogged name path).Settled :=
  ⟨_, ends_addLogged ix name path⟩

theorem settled_addFound (tree : FileTree) (root : Path) (place : List Text) (project : Path)
    (extension : Text)
    (ix : NameIndex) (names : List Text) :
    (addFound tree root place project extension ix names).Settled := by
  unfold addFound
  refine Logged.Settled.bind ⟨_, Logged.ends_ofExcept _⟩ fun isFile => ?_
  exact Logged.Settled.ite (settled_addLogged ix _ _) ⟨_, Run.ends_pure ix _⟩

theorem settled_addAll (ix : NameIndex) (files : List (Text × Text)) : (ix.addAll files).Settled :=
  Logged.settled_foldlM (fun (ix : NameIndex) (file : Text × Text) =>
    settled_addLogged ix file.1 file.2) _ _

theorem settled_build (tree : FileTree) (root : Text) (project : Path) (extension strategy : Text) :
    (build tree root project extension strategy).Settled := by
  unfold build
  refine Logged.Settled.bind ⟨_, Logged.ends_ofExcept _⟩ fun there => ?_
  cases there with
  | false => exact ⟨_, (Logged.ends_fail _).bind_error⟩
  | true =>
    refine Logged.Settled.bind ⟨_, Logged.ends_ofExcept _⟩ fun strategy => ?_
    refine Logged.Settled.ite ⟨_, (Logged.ends_fail _).bind_error⟩ ?_
    cases GlobName.ofText? ('*' :: extension) with
    | none => exact ⟨_, Run.ends_throw _ _⟩
    | some glob =>
      dsimp only
      generalize tree.search _ _ glob = found
      cases found with
      | error e => exact ⟨_, (Logged.ends_fail _).bind_error⟩
      | ok found =>
        refine Logged.Settled.bind ⟨_, Run.ends_pure found _⟩ fun found => ?_
        refine Logged.Settled.bind (Logged.settled_foldlM (fun ix names => ?_) _ _) fun ix => ?_
        · exact settled_addFound _ _ _ _ _ ix names
        · exact ⟨_, (Logged.ends_log _ _).bind (Run.ends_pure ix _)⟩

/-- An index is built in the same way from all trees of one shape. -/
theorem ends_build_of_gives {tree tree' : FileTree} {root extension strategy : Text}
    {project : Path} {ix : NameIndex}
    (hshape : tree.SameShape tree') (h : (build tree root project extension strategy).Gives ix) :
    (build tree' root project extension strategy).Ends (.ok ix) := by
  obtain ⟨place, glob, found, settled, hresolve, hlisted, hsettled, hglob, hsearch, hshort, hadd⟩ :=
    build_gives h
  have hresolve' : tree'.resolve (project.join (Path.ofText root)) = .ok (place, .directory) := by
    have halike := hshape.resolve (project.join (Path.ofText root))
    rw [hresolve] at halike
    generalize tree'.resolve (project.join (Path.ofText root)) = answer at halike ⊢
    cases halike
    rfl
  rw [hshape.listable] at hlisted
  refine ends_build hresolve' hlisted hsettled hglob ?_
  rw [hshape.search hsearch]
  dsimp only
  rw [foldlM_addFound hshort, ← hshape.filesAmong]
  exact (settled_addAll _ _).ends hadd

end NameIndex

/-! ## Runs -/

namespace Finder

variable {f : Finder} {tree tree' : FileTree} {known known' : Option NameIndex} {entry e b : Text}
  {base : Option Text}
  {depth : Option Int} {ix : NameIndex} {c : Closure}

theorem ends_index (hshape : tree.SameShape tree') (h : (f.index tree).Gives known ix known') :
    (f.index tree').Ends known (.ok ix) known' := by
  obtain ⟨index, mid, hget, hrest⟩ := h.bind
  obtain ⟨rfl, rfl⟩ := Finding.Gives.get hget
  refine (Finding.ends_get mid).bind ?_
  cases mid with
  | some ix' =>
    obtain ⟨rfl, rfl⟩ := Run.gives_pure.1 hrest
    exact Run.ends_pure _ _
  | none =>
    obtain ⟨built, mid, hbuild, hset⟩ := hrest.bind
    obtain ⟨_, last, hstate, hlast⟩ := hset.bind
    obtain ⟨rfl, rfl⟩ := Run.gives_pure.1 hlast
    obtain rfl := Finding.Gives.set hstate
    exact (Finding.ends_ofLogged
      (NameIndex.ends_build_of_gives hshape (Finding.Gives.ofLogged hbuild).1) none).bind
      ((Finding.ends_set _ _).bind (Run.ends_pure _ _))

/-- A run gives a result when its parts do. -/
theorem ends_find (hentry : f.entryPath tree entry = .ok e) (hbase : f.baseFor tree e base = .ok b)
    (hbound : 1 ≤ depth.getD f.maxDepth) (hindex : (f.index tree).Ends known (.ok ix) known')
    (hclosure : (Extractor.closure { tree, index := ix, source := f.source, base := b } e
      (depth.getD f.maxDepth)).Ends (.ok c)) :
    (f.find tree entry base depth).Ends known (.ok { base := b, closure := c }) known' := by
  unfold find
  rw [hentry]
  refine (Finding.ends_ofExcept _ _).bind ?_
  rw [hbase]
  refine (Finding.ends_ofExcept _ _).bind ?_
  dsimp only
  rw [if_neg (by omega)]
  refine (Finding.ends_ofLogged (Logged.ends_log _ _) _).bind ?_
  have hextractor : (f.extractor tree b).Ends known
      (.ok { tree, index := ix, source := f.source, base := b }) known' :=
    hindex.bind (Run.ends_pure _ _)
  refine hextractor.bind ?_
  exact (Finding.ends_ofLogged hclosure _).bind (Run.ends_pure _ _)

end Finder

end SourceReach
