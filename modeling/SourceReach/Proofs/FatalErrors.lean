import SourceReach.CommandLine.Session
import SourceReach.Proofs.Ending
import SourceReach.Proofs.Storing


/-!
# Commands that end with an error

A command finds out all that it can refuse before it does anything: as long as it can end with a
configuration error it has printed no result, run no other command and written no file.
`Running.Keeps` follows this through the steps of a command, and `fatal_untouched` says it of
command lines.
-/

namespace SourceReach

open Toml (Value Table)

-- What is shown is of no importance here, and long to work out.
attribute [local irreducible] ConfigurationError.shown Numeral.hasText Report.shown

/-! ## Sessions -/

/-- The session has had no effect: the files are these, nothing has been printed but for messages,
and no command has been run. -/
structure Session.Untouched (tree : FileTree) (s : Session) : Prop where
  files : s.tree = tree
  out : s.out = []
  listings : s.listings = []

theorem Session.Untouched.frame {tree : FileTree} {s s' : Session} (h : s.Untouched tree)
    (hfiles : s'.tree = s.tree)
    (hout : s'.out = s.out) (hlistings : s'.listings = s.listings) : s'.Untouched tree :=
  ⟨hfiles.trans h.files, hout.trans h.out, hlistings.trans h.listings⟩

/-- No configuration error has ended the command. -/
def Session.Going (s : Session) : Prop := s.fatal = none

/-- The session is going on, and has had no effect so far. -/
def Session.Fresh (tree : FileTree) (s : Session) : Prop := s.Untouched tree ∧ s.Going

/-- How a session can be when the command has ended before its end. -/
structure Session.Stopped (w : Surroundings) (tree : FileTree) (ending : Ending) (s : Session) :
    Prop where
  untouched : ∀ e, s.fatal = some e → ending.code = 1 ∧ s.Untouched tree
  reported : ending = .exit 1 → ∃ e t, s.fatal = some e ∧ e.shown w.terminal = .ok t ∧
    t ++ ['\n'] <:+ s.err

/-! ## The settings file -/

namespace SettingsFile

variable {f : SettingsFile} {tree : FileTree} {e : ConfigurationError}

/-- Writing that ends with a configuration error has left the files as they were. -/
theorem write_of_configuration (table : Table) (tree : FileTree)
    (h : ((f.write table).run.run tree).1 = .error (.configuration e)) :
    ((f.write table).run.run tree).2 = tree := by
  revert h
  rw [write_run]
  cases Except.expected (tree.checkDirectory f.directory) with
  | error e => exact fun _ => rfl
  | ok _ =>
    dsimp only
    cases f.format.write table with
    | ok t => exact fun h => absurd h nofun
    | error e => exact fun h => absurd (Except.error.inj h) nofun

theorem answer_of_configuration {r : Request}
    (h : (f.answer tree r).1 = .error (.configuration e)) :
    (f.answer tree r).2 = tree := by
  rw [answer_eq] at h ⊢
  match hplan : f.plan tree r with
  | .error failure => rfl
  | .ok (reply, none) => rfl
  | .ok (reply, some table) =>
    rw [hplan] at h
    exact write_of_configuration table tree (Except.map_eq_error.1 h)

variable {α : Type} {r : Request} {x : Storing α} {g : α → Reply}

theorem answer_eq_run (hx : f.perform r = g <$> x) (tree : FileTree) :
    f.answer tree r = ((x.run.run tree).1.map g, (x.run.run tree).2) := by
  rw [answer, hx, map_eq_pure_bind, Storing.run_bind_pure]

theorem run_of_configuration (hx : f.perform r = g <$> x)
    (h : (x.run.run tree).1 = .error (.configuration e)) :
    (x.run.run tree).2 = tree := by
  have hanswer := answer_eq_run hx tree
  have hkept : (f.answer tree r).2 = tree :=
    answer_of_configuration (e := e) (by rw [hanswer, h]; rfl)
  rwa [hanswer] at hkept

end SettingsFile

/-! ## The listing command -/

namespace ListingCommand

variable (c : ListingCommand)

theorem line_failsOnly : Except.FailsOnly Failure.IsDefect c.line := by
  refine (Except.failsOnly_mapM fun v _ => ?_).bind fun _ => Except.failsOnly_ok _
  split
  · exact Except.failsOnly_ok _
  · exact Except.failsOnly_error trivial

theorem warn_ends (between reason lead : Text) :
    (c.warn between reason lead).Ends (c.line.map fun _ => []) := by
  have hline := Logged.ends_ofExcept c.line
  unfold warn
  cases h : c.line with
  | error e =>
    rw [h] at hline
    exact hline.bind_error
  | ok t =>
    rw [h] at hline
    exact hline.bind ((Logged.ends_log _ _).bind (Run.ends_pure _ _))

/-- However the listing command ends, there are changed files, or its words make no line. -/
theorem changed_failsOnly (end_ : ListingOutcome) :
    Except.FailsOnly Failure.IsDefect (c.changed end_).outcome.1 := by
  have hwarn : ∀ between reason lead, Except.FailsOnly Failure.IsDefect
      (c.warn between reason lead).outcome.1 := by
    intro between reason lead
    rw [(c.warn_ends between reason lead).outcome]
    exact c.line_failsOnly.map _
  cases end_ with
  | finished code output complaint =>
    rw [changed]
    split_ifs
    · exact Except.failsOnly_ok _
    · exact hwarn _ _ _
  | timedOut => exact hwarn _ _ _
  | missing => exact hwarn _ _ _

theorem ofValue_failsOnly (project : Path) (words : Value) (revision : Option Text)
    (extension : Text) :
    Except.FailsOnly Failure.IsDefect (ofValue project words revision extension) := by
  refine Except.FailsOnly.bind ?_ fun _ => Except.failsOnly_ok _
  unfold wordsOf
  refine Except.FailsOnly.ite (Except.failsOnly_ok _) ?_
  split
  · exact Except.failsOnly_ok _
  · exact Except.failsOnly_ok _
  · exact Except.failsOnly_ok _
  · exact Except.failsOnly_error trivial

end ListingCommand

namespace Running

variable {α β : Type} {w : Surroundings} {tree : FileTree} {p q r : Session → Prop} {x : Running α}

/-- From a session with `p` the command goes on in one with `q`, unless it stops. -/
def Keeps (w : Surroundings) (tree : FileTree) (p : Session → Prop) (x : Running α)
    (q : Session → Prop) : Prop :=
  ∀ s, p s → match x.run.run s with
    | (.ok _, s') => q s'
    | (.error ending, s') => s'.Stopped w tree ending

/-! ## Steps -/

theorem keeps_pure (a : α) (h : ∀ s, p s → q s) : Keeps w tree p (pure a) q := fun s hs => h s hs

theorem keeps_get : Keeps w tree p get p := fun _ hs => hs

theorem keeps_modify {g : Session → Session} (h : ∀ s, p s → q (g s)) :
    Keeps w tree p (modify g) q := fun s hs => h s hs

theorem Keeps.bind {g : α → Running β} (hx : Keeps w tree p x q)
    (hg : ∀ a, Keeps w tree q (g a) r) :
    Keeps w tree p (x >>= g) r := by
  intro s hs
  have h := hx s hs
  rw [ExceptT.run_bind, StateT.run_bind]
  rcases hrun : x.run.run s with ⟨_ | a, s'⟩
  · rw [hrun] at h
    exact h
  · rw [hrun] at h
    exact hg a s' h

theorem Keeps.ite {c : Prop} [Decidable c] {y : Running α} (hx : Keeps w tree p x q)
    (hy : Keeps w tree p y q) :
    Keeps w tree p (if c then x else y) q := by
  split
  · exact hx
  · exact hy

theorem keeps_of_going (h : Keeps w tree Session.Going x q) :
    Keeps w tree (Session.Fresh tree) x q := fun s hs => h s hs.2

theorem keeps_defect (d : Defect) (h : ∀ s, p s → s.Going) :
    Keeps w tree p (throw (.defect d) : Running α) q := by
  intro s hs
  refine ⟨fun e he => ?_, nofun⟩
  exact absurd (he.symm.trans (h s hs)) nofun

theorem keeps_forM {act : α → Running PUnit} (h : ∀ a, Keeps w tree p (act a) p) (xs : List α) :
    Keeps w tree p (forM xs act) p := by
  induction xs with
  | nil => exact keeps_pure _ fun _ hs => hs
  | cons a xs ih =>
    rw [List.forM_cons]
    exact (h a).bind fun _ => ih

theorem fatal_run_error {e : ConfigurationError} {d : Defect} (h : e.shown w.terminal = .error d)
    (s : Session) :
    (fatal w e : Running α).run.run s = (.error (.defect d), { s with fatal := some e }) := by
  unfold fatal
  rw [h]
  rfl

theorem fatal_run_ok {e : ConfigurationError} {t : Text} (h : e.shown w.terminal = .ok t)
    (s : Session) :
    (fatal w e : Running α).run.run s =
      (.error (.exit 1), { s with fatal := some e, err := s.err ++ t ++ ['\n'] }) := by
  unfold fatal
  rw [h]
  rfl

/-- A configuration error ends the command, with code one and without an effect. -/
theorem keeps_fatal (e : ConfigurationError) :
    Keeps w tree (Session.Fresh tree) (fatal w e : Running α) q := by
  rcases h : e.shown w.terminal with d | t
  · intro s hs
    rw [fatal_run_error h]
    exact ⟨fun _ _ => ⟨rfl, hs.1.frame rfl rfl rfl⟩, nofun⟩
  · intro s hs
    rw [fatal_run_ok h]
    refine ⟨fun _ _ => ⟨rfl, hs.1.frame rfl rfl rfl⟩, fun _ => ⟨e, t, rfl, h, ?_⟩⟩
    rw [List.append_assoc]
    exact List.suffix_append _ _

/-! ## Steps that come before any effect -/

theorem keeps_attempt (result : Except Failure α) :
    Keeps w tree (Session.Fresh tree) (attempt w result) (Session.Fresh tree) := by
  match result with
  | .ok a => exact keeps_pure a fun _ hs => hs
  | .error (.configuration e) => exact keeps_fatal e
  | .error (.defect d) => exact keeps_defect d fun _ hs => hs.2

theorem keeps_printLog (verbose : Bool) (log : List LogEntry) :
    Keeps w tree (Session.Fresh tree) (printLog w verbose log) (Session.Fresh tree) :=
  keeps_modify fun _ hs => ⟨hs.1.frame rfl rfl rfl, hs.2⟩

theorem keeps_asking (verbose : Bool) (x : Finding α) :
    Keeps w tree (Session.Fresh tree) (asking w verbose x) (Session.Fresh tree) :=
  Keeps.bind (keeps_printLog _ _) fun _ => keeps_attempt _

theorem storing_run (x : Storing α) (s : Session) : (storing w x).run.run s =
    (attempt w (x.run.run s.tree).1).run.run { s with tree := (x.run.run s.tree).2 } := rfl

theorem keeps_storing_of_reads {x : Storing α} (hx : ∀ tree, (x.run.run tree).2 = tree) :
    Keeps w tree (Session.Fresh tree) (storing w x) (Session.Fresh tree) := by
  intro s hs
  rw [storing_run, hx]
  exact keeps_attempt _ s hs

/-- Files may be written as long as an error leaves them as they are. -/
theorem keeps_storing {x : Storing α}
    (hx : ∀ tree e, (x.run.run tree).1 = .error (.configuration e) → (x.run.run tree).2 = tree) :
    Keeps w tree (Session.Fresh tree) (storing w x) Session.Going := by
  intro s hs
  rw [storing_run]
  match hresult : (x.run.run s.tree).1 with
  | .ok a => exact hs.2
  | .error (.configuration e) =>
    rw [hx _ e hresult]
    exact keeps_fatal e s hs
  | .error (.defect d) => exact keeps_defect (α := α) (q := Session.Going) d (fun _ hs => hs) _ hs.2

theorem keeps_settingsFor (scope : Scope) (strategy : Option Text) :
    Keeps w tree (Session.Fresh tree) (settingsFor w scope strategy) (Session.Fresh tree) := by
  have hload : ∀ tree, (w.settings.load.run.run tree).2 = tree :=
    fun tree => by rw [SettingsFile.load_run]
  exact (keeps_storing_of_reads hload).bind fun _ => keeps_attempt _

/-! ## Steps that end by a defect at worst -/

theorem keeps_attempt_of_failsOnly {result : Except Failure α}
    (h : Except.FailsOnly Failure.IsDefect result) :
    Keeps w tree Session.Going (attempt w result) Session.Going := by
  match result with
  | .ok a => exact keeps_pure a fun _ hs => hs
  | .error (.configuration e) => exact (h _ rfl).elim
  | .error (.defect d) => exact keeps_defect d fun _ hs => hs

theorem keeps_change {g : Session → Session} (h : ∀ s, (g s).fatal = s.fatal) :
    Keeps w tree Session.Going (modify g) Session.Going :=
  keeps_modify fun s hs => (h s).trans hs

theorem keeps_printLines (ls : List Report.Line) :
    Keeps w tree Session.Going (printLines w ls) Session.Going := by
  refine Keeps.bind (q := Session.Going) (keeps_change ?_) fun _ => ?_
  · exact fun _ => rfl
  · cases (Report.shown w.terminal ls).2 with
    | none => exact keeps_pure _ fun _ hs => hs
    | some d => exact keeps_defect _ fun _ hs => hs

theorem keeps_logged (verbose : Bool) {x : Logged α}
    (h : Except.FailsOnly Failure.IsDefect x.outcome.1) :
    Keeps w tree Session.Going (logged w verbose x) Session.Going := by
  refine Keeps.bind (keeps_change ?_) fun _ => keeps_attempt_of_failsOnly h
  exact fun _ => rfl

/-! ## Commands -/

-- From here on a command is followed by the lemmas about its steps alone.
attribute [local irreducible] Keeps

theorem keeps_changedFiles (f : Finder) (s : Settings) (revision : Option Text) (given : List Text)
    (verbose : Bool) :
    Keeps w tree Session.Going (changedFiles w f s revision given verbose) Session.Going := by
  refine Keeps.ite (keeps_pure _ fun _ hs => hs) ?_
  refine (keeps_attempt_of_failsOnly (ListingCommand.ofValue_failsOnly _ _ _ _)).bind fun c => ?_
  refine Keeps.bind (keeps_change ?_) fun _ => keeps_logged verbose (c.changed_failsOnly _)
  exact fun _ => rfl

theorem keeps_showReport (json : Bool) (r : Report) :
    Keeps w tree Session.Going (showReport w json r) Session.Going := by
  have hthrow : Keeps w tree Session.Going
      (throw (.defect .unwritable) : Running Unit) Session.Going :=
    keeps_defect _ fun _ hs => hs
  unfold showReport
  refine Keeps.ite (Keeps.ite (keeps_printLines _) (keeps_printLines _)) ?_
  exact Keeps.ite ((keeps_printLines _).bind fun _ => hthrow) hthrow

theorem keeps_find (entry : Text) (scope : Scope) (depth : Option Int) (strategy : Option Text)
    (withChanges : Bool) (revision : Option Text) (given : List Text) (json verbose : Bool) :
    Keeps w tree (Session.Fresh tree)
      (find w entry scope depth strategy withChanges revision given json verbose)
      Session.Going := by
  refine (keeps_settingsFor scope strategy).bind fun s => keeps_get.bind fun s' =>
      (keeps_attempt _).bind fun e =>
    (keeps_attempt _).bind fun base => (keeps_asking verbose _).bind fun found => ?_
  refine keeps_of_going
    (Keeps.ite ?_ ((keeps_pure none fun _ hs => hs).bind fun _ => keeps_showReport _ _))
  have hchanged : Keeps w tree Session.Going
    (some <$> changedFiles w (finder w scope s) s revision given verbose)
      Session.Going := by
    rw [map_eq_pure_bind]
    exact (keeps_changedFiles _ _ _ _ _).bind fun _ => keeps_pure _ fun _ hs => hs
  exact hchanged.bind fun _ => keeps_showReport _ _

theorem keeps_explain (entry : Text) (scope : Scope) (json verbose : Bool) :
    Keeps w tree (Session.Fresh tree) (explain w entry scope json verbose) Session.Going := by
  refine (keeps_settingsFor scope none).bind fun s => keeps_get.bind fun s' =>
      (keeps_attempt _).bind fun e =>
    (keeps_asking verbose _).bind fun found => keeps_of_going ?_
  exact Keeps.ite (keeps_printLines _) (Keeps.ite (keeps_printLines _) (keeps_printLines _))

theorem keeps_index (scope : Scope) (listCollisions : Bool) :
    Keeps w tree (Session.Fresh tree) (index w scope listCollisions) Session.Going := by
  refine (keeps_settingsFor scope _).bind fun s => keeps_get.bind fun s' =>
      (keeps_asking false _).bind fun ix =>
    keeps_of_going ?_
  refine (keeps_printLines _).bind fun _ => (keeps_printLines _).bind fun _ =>
    Keeps.ite (keeps_forM (fun name => ?_) _) (keeps_pure _ fun _ hs => hs)
  exact (keeps_printLines _).bind fun _ => keeps_forM (fun _ => keeps_printLines _) _

theorem settingText_failsOnly (v : Value) : Except.FailsOnly Failure.IsDefect (settingText v) := by
  unfold settingText
  split
  · refine (Except.failsOnly_mapM fun v _ => ?_).bind fun _ => Except.failsOnly_ok _
    split
    · exact Except.failsOnly_ok _
    · exact Except.failsOnly_error trivial
    · exact Except.failsOnly_error trivial
  · exact Except.failsOnly_error trivial
  · exact Except.FailsOnly.ite (Except.failsOnly_ok _) (Except.failsOnly_error trivial)

theorem keeps_showSettings :
    Keeps w tree (Session.Fresh tree) (showSettings w) Session.Going := by
  have hload : ∀ tree, (w.settings.load.run.run tree).2 = tree :=
    fun tree => by rw [SettingsFile.load_run]
  refine (keeps_storing_of_reads hload).bind fun s => keeps_of_going ?_
  refine (keeps_printLines _).bind fun _ => keeps_forM (fun key => ?_) _
  exact (keeps_attempt_of_failsOnly (settingText_failsOnly _)).bind fun _ => keeps_printLines _

theorem keeps_set (key value : Text) :
    Keeps w tree (Session.Fresh tree) (set w key value) Session.Going :=
  (keeps_storing fun _ _ => SettingsFile.run_of_configuration (f := w.settings)
    (r := .save key (.text value)) rfl).bind fun _ =>
    keeps_printLines _

theorem keeps_reset : Keeps w tree (Session.Fresh tree) (reset w) Session.Going :=
  (keeps_storing fun _ _ => SettingsFile.run_of_configuration (f := w.settings)
    (r := .reset) rfl).bind fun _ => keeps_printLines _

/-- Every command keeps to this order. -/
theorem keeps_perform (c : Command) :
    Keeps w tree (Session.Fresh tree) (perform w c) Session.Going := by
  cases c with
  | help => exact keeps_of_going (keeps_pure _ fun _ hs => hs)
  | version => exact keeps_of_going (keeps_printLines [.plain _])
  | find _ _ _ _ _ _ _ _ _ => exact keeps_find _ _ _ _ _ _ _ _ _
  | explain _ _ _ _ => exact keeps_explain _ _ _ _
  | index _ _ => exact keeps_index _ _
  | showSettings => exact keeps_showSettings
  | set key value => exact keeps_set key value
  | reset => exact keeps_reset

end Running

theorem runCommandLine_stopped (w : Surroundings) (tree : FileTree) (ts : List Text) :
    (runCommandLine w tree ts).2.Stopped w tree (runCommandLine w tree ts).1 := by
  have hstopped : ∀ {ending s}, s.Going → ending ≠ .exit 1 → Session.Stopped w tree ending s :=
    fun hs hne =>
    ⟨fun e he => absurd (he.symm.trans hs) nofun, fun h => absurd h hne⟩
  unfold runCommandLine
  cases w.command ts with
  | error problem => cases problem <;> exact hstopped rfl nofun
  | ok c =>
    have hkeeps := Running.keeps_perform (w := w) c { tree } ⟨⟨rfl, rfl, rfl⟩, rfl⟩
    rcases hrun : (Running.perform w c).run.run { tree } with ⟨ending | _, s⟩
    · rw [hrun] at hkeeps
      simpa only [hrun] using hkeeps
    · rw [hrun] at hkeeps
      have hexit : Session.Stopped w tree (.exit 0) s := hstopped hkeeps nofun
      simpa only [hrun] using hexit

/-- A command line whose command ends through a configuration error exits with code one, prints
nothing to its standard output, does not run the listing command and leaves all files as they are.
What exits with code one has ended so, and the last thing printed to its standard error is the
error. -/
theorem fatal_untouched (w : Surroundings) (tree : FileTree) (ts : List Text) :
    (∀ e, (runCommandLine w tree ts).2.fatal = some e →
      (runCommandLine w tree ts).1.code = 1 ∧ (runCommandLine w tree ts).2.out = [] ∧
        (runCommandLine w tree ts).2.listings = [] ∧ (runCommandLine w tree ts).2.tree = tree) ∧
      ((runCommandLine w tree ts).1 = .exit 1 →
        ∃ e t, (runCommandLine w tree ts).2.fatal = some e ∧ e.shown w.terminal = .ok t ∧
          t ++ ['\n'] <:+ (runCommandLine w tree ts).2.err) := by
  obtain ⟨huntouched, hreported⟩ := runCommandLine_stopped w tree ts
  refine ⟨fun e he => ?_, hreported⟩
  obtain ⟨hcode, hfiles, hout, hlistings⟩ := huntouched e he
  exact ⟨hcode, hout, hlistings, hfiles⟩

/-- The root as the current directory, and no command that lists changed files. -/
def homeSurroundings : Surroundings :=
  .standard ⟨.root, []⟩ ⟨.root, ["h".toList]⟩ 80 fun _ => .missing

/-- A search from a file that is not there, and a value that is refused. -/
theorem refused_untouched :
    let w := homeSurroundings
    let lines : List (List Text) :=
      [["find".toList, "A.java".toList],
        ["config".toList, "set".toList, "max_depth".toList, "0".toList]]
    ∀ ts ∈ lines,
      (∃ e, (runCommandLine w SettingsFile.homeTree ts).2.fatal = some e) ∧
        (runCommandLine w SettingsFile.homeTree ts).1.code = 1 ∧
        (runCommandLine w SettingsFile.homeTree ts).2.out = [] ∧
        (runCommandLine w SettingsFile.homeTree ts).2.listings = [] ∧
        (runCommandLine w SettingsFile.homeTree ts).2.tree = SettingsFile.homeTree := by
  intro w lines ts hts
  have hfatal : ∀ ts ∈ lines, (runCommandLine w SettingsFile.homeTree ts).2.fatal.isSome =
    true := by decide +kernel
  obtain ⟨e, he⟩ := Option.isSome_iff_exists.1 (hfatal ts hts)
  exact ⟨⟨e, he⟩, (fatal_untouched w SettingsFile.homeTree ts).1 e he⟩

end SourceReach
