import SourceReach.Changes
import SourceReach.Proofs.Quoting
import SourceReach.Proofs.Running
import SourceReach.Report.Basic

/-!
# Staging commands

The command that stages files is cut into its two first words and the files in order, whatever their
names are (`split?_stagingCommand`). A report shows the dependencies of a closure in strict order,
and those that have changed among them, each with the command that stages them (`document_staging`).
-/

namespace SourceReach

/-- The words of the command that stages files. -/
def stagingWords (paths : List Text) : List Text := "git".toList :: "add".toList :: paths

/-- The value of a field of an object. -/
def Json.field? (name : Text) : Json → Option Json
  | .object fields => fields.lookup name
  | _ => none

/-- The field is a command line with these words. -/
def Json.HasCommand (j : Json) (name : Text) (words : List Text) : Prop :=
  ∃ t, j.field? name = some (.text t) ∧ Shell.split? t = some words

/-- A closure that is returned: for some dependency function, or by an extractor. -/
def Closure.Returned (c : Closure) : Prop :=
  (∃ f entry bound, (Traversal.explore f entry bound).1 = c) ∨
    ∃ (x : Extractor) (entry : Text) (bound : Int), (x.closure entry bound).outcome.1 = .ok c

variable {c : Closure}

theorem stagingCommand_eq (paths : List Text) :
    stagingCommand paths = Shell.quote "git".toList ++ ' ' :: (Shell.quote "add".toList ++ ' ' ::
      Text.joined [' '] ((sorted paths).map Shell.quote)) := rfl

theorem split?_stagingCommand (paths : List Text) :
    Shell.split? (stagingCommand paths) = some (stagingWords (sorted paths)) := by
  have hfiles : Shell.wordsFrom some .between (Text.joined [' '] ((sorted paths).map Shell.quote)) =
      some (sorted paths) :=
    Shell.split?_joined_quote (sorted paths)
  rw [stagingCommand_eq, Shell.split?, Shell.wordsFrom_quote_blank,
    Shell.wordsFrom_quote_blank, hfiles]
  rfl

/-! ## Closures -/

theorem Closure.Returned.nodup (h : c.Returned) : c.discovered.Nodup := by
  rcases h with ⟨f, entry, bound, rfl⟩ | ⟨x, entry, bound, hc⟩
  · rw [Traversal.explore_discovered_eq]
    exact nodup_layersBelow f entry _
  · obtain ⟨-, hlayers⟩ := Extractor.closure_of_gives (Logged.gives_of_outcome hc)
    rw [hlayers]
    exact nodup_layersBelow _ entry _

theorem pairwise_dependencies (h : c.discovered.Nodup) : c.dependencies.Pairwise (· < ·) := by
  rw [Closure.dependencies, sorted_eq_sortedDistinct h]
  exact pairwise_sortedDistinct c.discovered

/-- The changed files among the discovered ones are a part of the dependencies. -/
theorem sorted_among (h : c.discovered.Nodup) (files : List Text) :
    sorted (Changes.among c.discovered files) = c.dependencies.filter (· ∈ files) := by
  have hchanged := pairwise_sortedDistinct (c.discovered.filter (· ∈ files))
  rw [Changes.among, sorted_eq_self (hchanged.imp le_of_lt)]
  refine List.SortedLT.eq_of_mem_iff hchanged.sortedLT
    ((pairwise_dependencies h).filter _).sortedLT fun p => ?_
  simp only [mem_sortedDistinct, List.mem_filter, Closure.dependencies,
    (sorted_perm c.discovered).mem_iff]

/-! ## Reports -/

namespace Report

variable (r : Report)

theorem field?_dependencies :
    r.document.field? "dependencies".toList = some (.texts r.closure.dependencies) := rfl

theorem field?_command :
    r.document.field? "staging_command".toList =
      some (.text (stagingCommand r.closure.dependencies)) := rfl

theorem field?_changed : r.document.field? "changed".toList = r.changed.map .texts := by
  rcases r with ⟨closure, base, _ | changed⟩ <;> rfl

theorem field?_changedCommand : r.document.field? "changed_staging_command".toList =
    r.changed.map fun changed => if changed = [] then .null
      else .text (stagingCommand changed) := by
  rcases r with ⟨closure, base, _ | changed⟩ <;> rfl

end Report

/-- A staging command is cut into its words, with the files in order. The document of a report on a
closure that is returned has the discovered files in strict order, and the command that stages them.
Without a change filter it has nothing about changes; with one it has the dependencies that are
among the changed files, and the command that stages them, unless there are none. -/
theorem document_staging :
    (∀ paths, Shell.split? (stagingCommand paths) = some (stagingWords (sorted paths)) ∧
      (sorted paths).Pairwise (· ≤ ·) ∧ (sorted paths).Perm paths) ∧
    ∀ c : Closure, c.Returned → ∀ base given,
      let j := (Report.build c base (given.map (Changes.among c.discovered))).document
      (c.dependencies.Pairwise (· < ·) ∧ c.dependencies.Perm c.discovered ∧
        j.field? "dependencies".toList = some (.texts c.dependencies) ∧
        j.HasCommand "staging_command".toList (stagingWords c.dependencies)) ∧
      (given = none → j.field? "changed".toList = none ∧
        j.field? "changed_staging_command".toList = none) ∧
      ∀ files, given = some files → ∃ changed,
        j.field? "changed".toList = some (.texts changed) ∧
        changed.Pairwise (· < ·) ∧ changed.Sublist c.dependencies ∧
        (∀ p, p ∈ changed ↔ p ∈ c.discovered ∧ p ∈ files) ∧
        (j.field? "changed_staging_command".toList = some .null ↔ changed = []) ∧
        (changed ≠ [] → j.HasCommand "changed_staging_command".toList (stagingWords changed)) := by
  refine ⟨fun paths => ⟨split?_stagingCommand paths, pairwise_sorted paths, sorted_perm paths⟩, ?_⟩
  intro c hc base given j
  have hdependencies := pairwise_dependencies hc.nodup
  -- A list that is in order is staged as it is.
  have hstaged : ∀ ps : List Text, ps.Pairwise (· < ·) →
      Shell.split? (stagingCommand ps) = some (stagingWords ps) := by
    intro ps hps
    rw [split?_stagingCommand, sorted_eq_self (hps.imp le_of_lt)]
  refine ⟨⟨hdependencies, sorted_perm _, Report.field?_dependencies _, ?_⟩, ?_, ?_⟩
  · exact ⟨_, Report.field?_command _, hstaged _ hdependencies⟩
  · rintro rfl
    exact ⟨Report.field?_changed _, Report.field?_changedCommand _⟩
  · rintro files rfl
    have hchanged : (c.dependencies.filter (· ∈ files)).Pairwise (· < ·) := hdependencies.filter _
    have hfield : j.field? "changed".toList =
        some (.texts (c.dependencies.filter (· ∈ files))) := by
      rw [← sorted_among hc.nodup]
      exact Report.field?_changed _
    have hcommand : j.field? "changed_staging_command".toList =
        some (if c.dependencies.filter (· ∈ files) = [] then .null
          else .text (stagingCommand (c.dependencies.filter (· ∈ files)))) := by
      rw [← sorted_among hc.nodup]
      exact Report.field?_changedCommand _
    refine ⟨_, hfield, hchanged, List.filter_sublist, fun p => ?_, ?_, fun hne => ?_⟩
    · rw [List.mem_filter, Closure.dependencies, (sorted_perm c.discovered).mem_iff,
        decide_eq_true_iff]
    · rw [hcommand, Option.some.injEq]
      split_ifs with hnil
      · exact iff_of_true rfl hnil
      · exact iff_of_false nofun hnil
    · rw [if_neg hne] at hcommand
      exact ⟨_, hcommand, hstaged _ hchanged⟩

/-- Two files whose names have quotes, a blank, a dollar sign and a line feed; one of them has
changed. -/
theorem quotedNames_staging :
    let first := "it's \"A\".java".toList
    let second := "\n$B é\\".toList
    let c := (Traversal.explore (fun _ => [first]) second 2).1
    let j :=
      (Report.build c "q".toList
        (some (Changes.among c.discovered [first, "C.java".toList]))).document
    c.Returned ∧ c.dependencies = [second, first] ∧
      j.HasCommand "staging_command".toList ["git".toList, "add".toList, second, first] ∧
      j.HasCommand "changed_staging_command".toList ["git".toList, "add".toList, first] := by
  intro first second c j
  have hc : c.Returned := Or.inl ⟨_, _, _, rfl⟩
  have hdependencies : c.dependencies = [second, first] := by decide +kernel
  obtain ⟨⟨-, -, -, hcommand⟩, -, hgiven⟩ :=
    document_staging.2 c hc "q".toList (some [first, "C.java".toList])
  obtain ⟨changed, -, hordered, -, hmem, -, hstaged⟩ := hgiven _ rfl
  have hchanged : changed = [first] := by
    refine List.SortedLT.eq_of_mem_iff hordered.sortedLT
      (List.pairwise_singleton _ _).sortedLT fun p => ?_
    have hfiles : c.discovered.filter (· ∈ [first, "C.java".toList]) = [first] := by decide +kernel
    rw [hmem, ← hfiles, List.mem_filter, decide_eq_true_iff]
  rw [hdependencies] at hcommand
  subst hchanged
  exact ⟨hc, hdependencies, hcommand, hstaged (List.cons_ne_nil _ _)⟩

end SourceReach
