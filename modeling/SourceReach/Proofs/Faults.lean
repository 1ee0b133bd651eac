import SourceReach.Proofs.Course
import SourceReach.Proofs.FatalErrors
import SourceReach.Proofs.Fitting

/-!
# Faults of the settings file

Not all that can stand in a settings file is taken or refused with a message
(`infiniteDepth_defect`). A file whose values fit their keys is (`Orderly.answer`), and so is every
text that is saved, but for a command that cannot be cut into words. Where all else is in order, a
value that does not fit is a defect.
-/

namespace SourceReach

open Toml (Value Table)

-- What is shown of an error is of no importance here, and long to work out.
attribute [local irreducible] ConfigurationError.shown

/-! ## Defects -/

namespace Except

variable {α : Type} {r : Except Failure α}

/-- Whether a computation has ended without a message. -/
def hasDefect (r : Except Failure α) : Bool :=
  match r with
  | .error (.defect _) => true
  | _ => false

theorem hasDefect_iff : hasDefect r = true ↔ ∃ d, r = .error (.defect d) := by
  match r with
  | .ok a => exact iff_of_false nofun nofun
  | .error (.configuration e) => exact iff_of_false nofun nofun
  | .error (.defect d) => exact iff_of_true rfl ⟨d, rfl⟩

theorem not_failsOnly_iff : ¬ FailsOnly Failure.IsReported r ↔ ∃ d, r = .error (.defect d) := by
  match r with
  | .ok a => exact iff_of_false (not_not_intro (failsOnly_ok a)) nofun
  | .error (.configuration e) => exact iff_of_false (not_not_intro (failsOnly_error trivial)) nofun
  | .error (.defect d) => exact iff_of_true (fun h => h _ rfl) ⟨d, rfl⟩

theorem FailsOnly.cases (h : FailsOnly Failure.IsReported r) :
    (∃ a, r = .ok a) ∨ ∃ e, r = .error (.configuration e) := by
  match r with
  | .ok a => exact Or.inl ⟨a, rfl⟩
  | .error (.configuration e) => exact Or.inr ⟨e, rfl⟩
  | .error (.defect d) => exact (h _ rfl).elim

end Except

/-! ## Questions about the file -/

namespace FileTree

variable {t : FileTree} {names base : List Text} {p : Path}

theorem walk_ne_nameTooLong (hnames : ∀ name ∈ names, Utf8.size name ≤ nameLimit)
    (base : List Text) :
    t.walk base names ≠ .error .nameTooLong := by
  induction names generalizing base with
  | nil =>
    rw [walk]
    split <;> simp
  | cons name names ih =>
    obtain ⟨hsize, hnames⟩ := List.forall_mem_cons.1 hnames
    rw [walk]
    split
    · simp
    · simp
    · rw [if_neg (Nat.not_lt_of_le hsize)]
      split
      · exact ih hnames _
      · exact ih hnames _

/-- Whether there is something at a place has an answer when its names are not too long. -/
theorem exists_contains (hask : Askable p) (hnames : Walkable p.parts) (t : FileTree) :
    ∃ b, t.contains p = .ok b := by
  have hwalk := walk_ne_nameTooLong (t := t) (fun name hname => (hnames name hname).2) []
  unfold contains holds
  rw [hask.resolve_eq]
  match h : t.walk [] p.parts with
  | .ok (_, n) => exact ⟨_, rfl⟩
  | .error cause =>
    rw [h] at hwalk
    cases cause with
    | nameTooLong => exact absurd rfl hwalk
    | _ => exact ⟨_, rfl⟩

theorem contains_of_read {content : Bytes} (h : t.read p = .ok content) :
    t.contains p = .ok true := by
  unfold read at h
  unfold contains holds
  split at h
  · next hresolve => rw [hresolve]
  · exact absurd h nofun
  · exact absurd h nofun

end FileTree

namespace Settings

variable {config config' : Table} {key : SettingKey} {v : Value} {s : Settings}

theorem validate_of_validate {s' : Settings} (h : s'.validate = .ok s) : s.validate = .ok s := by
  obtain ⟨hcheck, rfl⟩ := validate_eq_ok.1 h
  exact validate_eq_ok.2 ⟨hcheck, rfl⟩

theorem validate_of_load (h : ofConfiguration config = .ok s) : s.validate = .ok s := by
  obtain ⟨entries, -, h⟩ := Except.bind_eq_ok.1 h
  obtain ⟨s', -, h⟩ := Except.bind_eq_ok.1 h
  exact validate_of_validate h

theorem validate_of_save (h : save config key v = .ok (s, config')) : s.validate = .ok s := by
  obtain ⟨w, -, h⟩ := Except.bind_eq_ok.1 h
  obtain ⟨table, -, h⟩ := Except.bind_eq_ok.1 h
  obtain ⟨s', -, h⟩ := Except.bind_eq_ok.1 h
  obtain ⟨s'', hvalid, h⟩ := Except.bind_eq_ok.1 h
  rw [(Prod.mk.inj (Except.pure_eq_ok.1 h)).1] at hvalid
  exact validate_of_validate hvalid

end Settings

namespace SettingsFile

/-- The file can be written. It is missing, or a text that is a configuration or not one; the
section is a table, and the values in it fit their keys. -/
structure Orderly (f : SettingsFile) (tree : FileTree) : Prop where
  usable : f.Usable tree
  text : ∀ content, tree.read f.path = .ok content → ∃ t, Utf8.decode? content = some t ∧
    Except.FailsOnly (· = .malformed) (f.format.read (Text.unixLines t))
  sectioned : ∀ config, f.configuration tree = .ok config → Settings.Sectioned config
  fits : ∀ config, f.configuration tree = .ok config → ∀ key v,
    (Settings.sectionOf config).get? key.name = some v → Settings.Fits key v

/-- The request loads, or saves a value that fits. -/
def Request.Fits : Request → Prop
  | .save name v => ∀ key, SettingKey.ofName? name = some key → Settings.Fits key v
  | .load => True
  | .reset => False

variable {f : SettingsFile} {tree : FileTree} {r : Request} {config : Table}

theorem Sound.orderly {s : Settings} (h : f.Sound tree config s) : f.Orderly tree where
  usable := h.usable
  text := by
    intro content hread
    rcases configuration_eq_ok.1 h.configuration with ⟨hnone, -⟩ | ⟨-, content', hread', hparse⟩
    · exact absurd ((FileTree.contains_of_read hread).symm.trans hnone) nofun
    · obtain rfl := Except.ok.inj (hread'.symm.trans hread)
      unfold parse at hparse
      cases ht : Utf8.decode? content' with
      | none =>
        rw [ht] at hparse
        exact absurd hparse nofun
      | some t =>
        rw [ht] at hparse
        obtain ⟨table, htable⟩ : ∃ table, f.format.read (Text.unixLines t) = .ok table := by
          dsimp only at hparse
          cases htable : f.format.read (Text.unixLines t) with
          | ok table => exact ⟨table, rfl⟩
          | error problem =>
            rw [htable] at hparse
            exact absurd hparse nofun
        exact ⟨t, rfl, htable ▸ Except.failsOnly_ok table⟩
  sectioned := by
    intro config' hconfig
    exact Except.ok.inj (h.configuration.symm.trans hconfig) ▸ h.sectioned
  fits := by
    intro config' hconfig key v hv
    obtain rfl := Except.ok.inj (h.configuration.symm.trans hconfig)
    obtain ⟨hstored, hcheck⟩ := (Settings.ofConfiguration_eq_ok h.sectioned).1 h.settings
    have hcoerce := hstored key
    rw [hv] at hcoerce
    rw [Settings.check_eq_forM] at hcheck
    have hkey := Except.forM_eq_ok.1 hcheck key (SettingKey.mem_all key)
    have haccept : Settings.accept key v = .ok () := by
      rw [Settings.accept, show Settings.coerce key v = .ok (s.get key) from hcoerce]
      exact hkey
    exact Settings.fits_iff.1 (haccept ▸ Except.failsOnly_ok ())

theorem Orderly.configuration_failsOnly (h : f.Orderly tree) :
    Except.FailsOnly Failure.IsReported (f.configuration tree) := by
  obtain ⟨there, hthere⟩ := FileTree.exists_contains h.usable.path h.usable.names tree
  unfold configuration
  rw [hthere]
  cases there with
  | false => exact Except.failsOnly_ok _
  | true =>
    cases hread : tree.read f.path with
    | error e => exact Except.failsOnly_error trivial
    | ok content =>
      obtain ⟨t, ht, hmalformed⟩ := h.text content hread
      show Except.FailsOnly _ (f.parse content)
      rw [parse, ht]
      dsimp only
      cases htable : f.format.read (Text.unixLines t) with
      | ok table => exact Except.failsOnly_ok _
      | error problem =>
        rw [hmalformed problem htable]
        exact Except.failsOnly_error trivial

theorem Orderly.plan_failsOnly (hformat : f.format.ReadsDistinct) (h : f.Orderly tree)
    (hr : r.Fits) :
    Except.FailsOnly Failure.IsReported (f.plan tree r) := by
  cases r with
  | load =>
    refine h.configuration_failsOnly.bind_of_ok fun config hconfig => ?_
    exact (Settings.failsOnly_load (h.sectioned config hconfig) (h.fits config hconfig)).bind
        fun _ =>
      Except.failsOnly_ok _
  | save name v =>
    unfold plan
    dsimp only
    split
    · exact Except.failsOnly_error trivial
    · next key hkey =>
      refine h.configuration_failsOnly.bind_of_ok fun config hconfig => ?_
      have hsectioned := h.sectioned config hconfig
      have hkeys := nodup_keys_of_configuration hformat hconfig hsectioned
      exact (Settings.failsOnly_save hsectioned hkeys (h.fits config hconfig) (hr key hkey)).bind
          fun _ =>
        Except.failsOnly_ok _
  | reset => exact hr.elim

theorem plan_valid {reply : Reply} {table : Option Table} (h : f.plan tree r = .ok (reply, table))
    (hr : r.Fits) :
    ∃ s, reply = .settings s ∧ s.validate = .ok s := by
  cases r with
  | load =>
    obtain ⟨config, -, h⟩ := Except.bind_eq_ok.1 h
    obtain ⟨s, hload, h⟩ := Except.bind_eq_ok.1 h
    exact ⟨s, (Prod.mk.inj (Except.pure_eq_ok.1 h)).1.symm, Settings.validate_of_load hload⟩
  | save name v =>
    unfold plan at h
    dsimp only at h
    split at h
    · exact absurd h nofun
    · obtain ⟨config, -, h⟩ := Except.bind_eq_ok.1 h
      obtain ⟨⟨s, config'⟩, hsave, h⟩ := Except.bind_eq_ok.1 h
      exact ⟨s, (Prod.mk.inj (Except.pure_eq_ok.1 h)).1.symm, Settings.validate_of_save hsave⟩
  | reset => exact hr.elim

/-- What can be planned is done, as long as the configuration has a text. -/
theorem Usable.answer_of_plan (h : f.Usable tree) {reply : Reply} {table : Option Table}
    (hplan : f.plan tree r = .ok (reply, table))
    (htext : ∀ u ∈ table, ∃ t, f.format.write u = .ok t) :
    (f.answer tree r).1 = .ok reply := by
  rw [answer_eq, hplan]
  cases table with
  | none => rfl
  | some table =>
    obtain ⟨t, ht⟩ := htext table rfl
    have hdirectory : tree.checkDirectory f.directory = .ok () :=
      FileTree.checkDirectory_of_isClear h.directory
        (fun name hname => h.names name (List.mem_append_left _ hname))
        h.clear
    dsimp only
    rw [write_run, hdirectory, ht]
    rfl

theorem Orderly.answer (hformat : f.format.ReadsDistinct) (h : f.Orderly tree) (hr : r.Fits)
    (htext : ∀ reply table, f.plan tree r = .ok (reply, some table) →
      ∃ t, f.format.write table = .ok t) :
    (∃ s, (f.answer tree r).1 = .ok (.settings s) ∧ s.validate = .ok s) ∨
      ∃ e, (f.answer tree r).1 = .error (.configuration e) := by
  rcases (h.plan_failsOnly hformat hr).cases with ⟨⟨reply, table⟩, hplan⟩ | ⟨e, hplan⟩
  · obtain ⟨s, rfl, hvalid⟩ := plan_valid hplan hr
    refine Or.inl ⟨s, h.usable.answer_of_plan hplan ?_, hvalid⟩
    rintro u hu
    exact htext _ u (by rw [hplan, hu])
  · refine Or.inr ⟨e, ?_⟩
    rw [answer_eq, hplan]

/-- A request that ends with a configuration error has left the files as they were. -/
theorem run_of_answer {α : Type} {x : Storing α} {g : α → Reply} (hx : f.perform r = g <$> x)
    {e : ConfigurationError} (h : (f.answer tree r).1 = .error (.configuration e)) :
    x.run.run tree = (.error (.configuration e), tree) := by
  rw [answer_eq_run hx] at h
  have hresult := Except.map_eq_error.1 h
  exact Prod.ext hresult (run_of_configuration hx hresult)

end SettingsFile

/-! ## Command lines -/

/-- The request to the settings file that a command starts with. -/
def Command.request? : Command → Option SettingsFile.Request
  | .find .. | .explain .. | .index .. | .showSettings => some .load
  | .set key value => some (.save key (.text value))
  | .reset => some .reset
  | .help | .version => none

namespace Running

variable {w : Surroundings} {tree tree' : FileTree} {e : ConfigurationError} {t : Text}

/-- A command that starts with a request that is refused ends with a line about the error. -/
theorem storing_bind_run {α β : Type} {x : Storing α}
    (hx : x.run.run tree = (.error (.configuration e), tree'))
    (hshown : e.shown w.terminal = .ok t) (k : α → Running β) :
    (storing w x >>= k).run.run { tree } =
      (.error (.exit 1), { tree := tree', err := t ++ ['\n'], fatal := some e }) := by
  have hattempt : (attempt w (.error (.configuration e)) : Running α).run.run { tree := tree' } =
      _ :=
    fatal_run_ok hshown { tree := tree' }
  rw [ExceptT.run_bind, StateT.run_bind, storing_run, hx, hattempt]
  rfl

theorem perform_run {c : Command} {r : SettingsFile.Request} (hr : c.request? = some r)
    (h : (w.settings.answer tree r).1 = .error (.configuration e))
    (hshown : e.shown w.terminal = .ok t) :
    (perform w c).run.run { tree } =
      (.error (.exit 1), { tree, err := t ++ ['\n'], fatal := some e }) := by
  -- Three commands have other settings put over the loaded ones first.
  have hsettings : ∀ (scope : Scope) (strategy : Option Text) (k : Settings → Running Unit),
      (w.settings.answer tree .load).1 = .error (.configuration e) →
      (settingsFor w scope strategy >>= k).run.run { tree } =
        (.error (.exit 1), { tree, err := t ++ ['\n'], fatal := some e }) := by
    intro scope strategy k h
    rw [settingsFor, bind_assoc]
    exact storing_bind_run (SettingsFile.run_of_answer rfl h) hshown _
  cases c with
  | help => exact absurd hr nofun
  | version => exact absurd hr nofun
  | find _ _ _ _ _ _ _ _ _ => exact hsettings _ _ _ (Option.some.inj hr ▸ h)
  | explain _ _ _ _ => exact hsettings _ _ _ (Option.some.inj hr ▸ h)
  | index _ _ => exact hsettings _ _ _ (Option.some.inj hr ▸ h)
  | showSettings =>
    exact storing_bind_run (SettingsFile.run_of_answer rfl (Option.some.inj hr ▸ h)) hshown _
  | set _ _ =>
    exact storing_bind_run (SettingsFile.run_of_answer rfl (Option.some.inj hr ▸ h)) hshown _
  | reset =>
    exact storing_bind_run (SettingsFile.run_of_answer rfl (Option.some.inj hr ▸ h)) hshown _

end Running

namespace SettingsFile

/-- A request for the settings that meets a file in order, with values that fit, gives settings that
are valid, or a configuration error, as long as the configuration it writes has a text. Where
settings are in effect, a value that is saved or loaded beside them is a defect just when it does
not fit; a string fits, unless it is a command that cannot be cut into words. A command line whose
first request meets a configuration error prints a line about it and nothing else, if its markup is
in order. -/
theorem settings_reported (f : SettingsFile) (hformat : f.format.ReadsDistinct) (tree : FileTree) :
    (∀ r : Request, f.Orderly tree → r.Fits →
      (∀ reply table, f.plan tree r = .ok (reply, some table) → ∃ t, f.format.write table = .ok t) →
      (∃ s, (f.answer tree r).1 = .ok (.settings s) ∧ s.validate = .ok s) ∨
        ∃ e, (f.answer tree r).1 = .error (.configuration e)) ∧
    (∀ config s, f.Sound tree config s → ∀ key v,
      let loaded := config.set Settings.sectionName
        (.table ((Settings.sectionOf config).set key.name v))
      ((∃ d, Settings.save config key v = .error (.defect d)) ↔ ¬ Settings.Fits key v) ∧
        ((∃ d, Settings.ofConfiguration loaded = .error (.defect d)) ↔ ¬ Settings.Fits key v)) ∧
    ((∀ key t, Settings.Fits key (.text t) ↔
      (key = .diffCommand → (Shell.split? t).isSome = true)) ∧
        ∀ key ps, Settings.Fits key (.unpaired ps) ↔
        (key = .diffCommand → (Shell.splitPoints? ps).isSome = true)) ∧
    ∀ w : Surroundings, w.settings = f → ∀ ts c r e t, w.command ts = .ok c → c.request? = some r →
      (f.answer tree r).1 = .error (.configuration e) → e.shown w.terminal = .ok t →
      runCommandLine w tree ts = (.exit 1, { tree, err := t ++ ['\n'], fatal := some e }) := by
  refine ⟨fun r h hr htext => h.answer hformat hr htext, ?_,
    ⟨Settings.fits_text, Settings.fits_unpaired⟩, ?_⟩
  · intro config s h key v loaded
    have hkeys := nodup_keys_of_configuration hformat h.configuration h.sectioned
    have hsave := Settings.save_map h.sectioned h.settings hkeys key v
    have hload := Settings.ofConfiguration_set h.sectioned h.settings key v
    rw [← Except.not_failsOnly_iff, ← Except.not_failsOnly_iff, ← Settings.fits_iff,
      not_iff_not, not_iff_not]
    refine ⟨?_, ?_⟩
    · rw [← hsave, Except.failsOnly_map_iff]
    · rw [← hload, Except.failsOnly_map_iff]
  · rintro w rfl ts c r e t hc hr h hshown
    have hrun := Running.perform_run hr h hshown
    unfold runCommandLine
    simp only [hc, hrun]

/-- A value that fits is saved, an infinite number is a defect, and a number below one gives a line
about it. -/
theorem homeTree_reported :
    let saved := Request.save "diff_command".toList (.text "git diff".toList)
    let refused := Request.save "max_depth".toList (.text "0".toList)
    let ts := ["config".toList, "set".toList, "max_depth".toList, "0".toList]
    homeFile.format.ReadsDistinct ∧ homeFile.Orderly homeTree ∧ saved.Fits ∧
      (∀ reply table, homeFile.plan homeTree saved = .ok (reply, some table) →
        ∃ t, homeFile.format.write table = .ok t) ∧
      (∃ s, (homeFile.answer homeTree saved).1 = .ok (.settings s) ∧ s.validate = .ok s) ∧
      homeFile.Sound homeTree homeTable { maxDepth := 7 } ∧
      (∃ d, Settings.save homeTable .maxDepth (.float (.infinite false)) = .error (.defect d)) ∧
      ∃ e t, (homeFile.answer homeTree refused).1 = .error (.configuration e) ∧
        e.shown homeSurroundings.terminal = .ok t ∧ runCommandLine homeSurroundings homeTree ts =
          (.exit 1, { tree := homeTree, err := t ++ ['\n'], fatal := some e }) := by
  intro saved refused ts
  obtain ⟨hrequests, hvalues, ⟨htexts, -⟩, hcommands⟩ :=
    settings_reported homeFile Toml.Format.standard_readsDistinct homeTree
  have hfits : saved.Fits := by
    intro key hkey
    obtain rfl : .diffCommand = key := Option.some.inj (hkey.symm ▸ by decide)
    exact (htexts _ _).2 fun _ => by decide
  have hwritten : ∀ reply table, homeFile.plan homeTree saved = .ok (reply, some table) →
      ∃ t, homeFile.format.write table = .ok t := by
    intro reply table hplan
    obtain ⟨t, -, ht, -⟩ := readsBack_of_writesBack (r := saved)
      (by decide +kernel) reply table hplan
    exact ⟨t, ht⟩
  have hsaved : (homeFile.answer homeTree saved).1.toOption.isSome = true := by decide +kernel
  obtain ⟨e, t, he, ht⟩ :
      ∃ e t, (homeFile.answer homeTree refused).1 = .error (.configuration e) ∧
        e.shown homeSurroundings.terminal = .ok t := by
    have hshown : (match (homeFile.answer homeTree refused).1 with
      | .error (.configuration e) => (e.shown homeSurroundings.terminal).toOption.isSome
      | _ => false) = true := by decide +kernel
    generalize (homeFile.answer homeTree refused).1 = result at hshown ⊢
    match result, hshown with
    | .error (.configuration e), hshown =>
      obtain ⟨t, ht⟩ := Except.exists_eq_ok hshown
      exact ⟨e, t, rfl, ht⟩
  refine ⟨Toml.Format.standard_readsDistinct, sound_homeTree.orderly, hfits, hwritten, ?_,
    sound_homeTree, ?_, e, t, he, ht, ?_⟩
  · rcases hrequests saved sound_homeTree.orderly hfits hwritten with hsettings | ⟨e, he⟩
    · exact hsettings
    · rw [he] at hsaved
      exact absurd hsaved nofun
  · exact (hvalues homeTable _ sound_homeTree _ _).1.2 fun h => h.1 false rfl
  · exact hcommands homeSurroundings rfl ts
      (.set "max_depth".toList "0".toList) refused e t rfl rfl he ht

/-- A number of levels that is infinite, and a command with an open quotation, end without a
message. So does a refused number whose message is no markup that is in order. -/
theorem infiniteDepth_defect :
    let tree : FileTree :=
      { nodes := [(["h".toList], .directory), (["h".toList, "config.toml".toList],
      .file (Utf8.encode "[discovery]\nmax_depth = inf\n".toList))] }
    let w := homeSurroundings
    let ts := ["config".toList, "set".toList, "max_depth".toList, "[/red]".toList]
    homeFile.Usable tree ∧ (∃ d, (homeFile.answer tree .load).1 = .error (.defect d)) ∧
      homeFile.Usable {} ∧
      (∃ d, (homeFile.answer {} (.save "diff_command".toList (.text ['\'']))).1 =
        .error (.defect d)) ∧
      ∃ d, (runCommandLine w {} ts).1 = .defect d := by
  intro tree w ts
  have hdefect : (match (runCommandLine w {} ts).1 with
    | .defect _ => true
    | .exit _ => false) = true := by decide +kernel
  refine ⟨⟨by decide, by decide, by decide, by decide +kernel⟩,
    Except.hasDefect_iff.1 (by decide +kernel),
      ⟨by decide, by decide, by decide, by decide +kernel⟩,
        Except.hasDefect_iff.1 (by decide +kernel), ?_⟩
  generalize (runCommandLine w {} ts).1 = ending at hdefect ⊢
  cases ending with
  | exit code => exact absurd hdefect nofun
  | defect d => exact ⟨d, rfl⟩

end SettingsFile

end SourceReach
