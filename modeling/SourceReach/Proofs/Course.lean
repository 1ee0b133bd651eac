import SourceReach.Proofs.Storing

/-!
# Requests one after the other

The settings in effect are told by what has been asked for: for each key its last successful save
since the last reset, or else what was stored at first (`valueAfter`). What one request does to a
configuration is said by `Did`; every request does it and leaves a file that can be loaded
(`Sound.step`), so a course of requests does, as long as what is written is read back
(`course_keepsSettings`).
-/

namespace SourceReach

open Toml (Value Table)

namespace SettingsFile

/-- The file can be written: its directory is there or can be made. -/
structure Usable (f : SettingsFile) (tree : FileTree) : Prop where
  names : FileTree.Walkable f.path.parts
  directory : FileTree.Askable f.directory
  path : FileTree.Askable f.path
  clear : tree.IsClear f.directory.parts

/-- The configuration has a text, and the text is read as the configuration. The order of keys does
not count. -/
def ReadsBack (f : SettingsFile) (table : Table) : Prop :=
  ∃ t back, f.format.write table = .ok t ∧ f.parse (Utf8.encode t) = .ok back ∧
    (Value.table table).Equiv (.table back)

/-- The file can be written, and holds a configuration that puts settings into effect; its section
is a table. -/
structure Sound (f : SettingsFile) (tree : FileTree) (config : Table) (s : Settings) : Prop where
  usable : f.Usable tree
  configuration : f.configuration tree = .ok config
  sectioned : Settings.Sectioned config
  settings : Settings.ofConfiguration config = .ok s

/-! ## Courses of requests -/

/-- A change of the settings. -/
inductive Change where
  | saved (key : SettingKey) (v : Value)
  | cleared
  deriving DecidableEq

/-- The change that an answered request has made. -/
def change? (r : Request) : Except Failure Reply → Option Change
  | .error _ => none
  | .ok _ =>
    match r with
    | .save name v => (SettingKey.ofName? name).map (.saved · v)
    | .load => none
    | .reset => some .cleared

/-- Files after some requests, and the changes of the settings so far, latest first. -/
structure Course where
  tree : FileTree
  changes : List Change := []

/-- One request more. -/
def Course.next (f : SettingsFile) (c : Course) (r : Request) : Course :=
  { tree := (f.answer c.tree r).2
    changes := (change? r (f.answer c.tree r).1).toList ++ c.changes }

/-- What some requests come to, one after the other. -/
def course (f : SettingsFile) (tree : FileTree) (requests : List Request) : Course :=
  requests.foldl (Course.next f) { tree }

/-- The value given for a key after some changes, latest first: the one saved last since the
settings were cleared, or else the one that was there at first. -/
def valueAfter (first : SettingKey → Option Value) : List Change → SettingKey → Option Value
  | [], key => first key
  | .saved k v :: older, key => if key = k then some v else valueAfter first older key
  | .cleared :: _, _ => none

/-- All that some requests write is read back. -/
def Faithful (f : SettingsFile) (tree : FileTree) (requests : List Request) : Prop :=
  ∀ before r after, requests = before ++ r :: after →
    ∀ reply table, f.plan (f.course tree before).tree r = .ok (reply, some table) →
    f.ReadsBack table

/-- The keys that are not known are as before, in the section and beside it. -/
structure KeepsOthers (old new : Table) : Prop where
  sections : ∀ name ≠ Settings.sectionName, Option.Rel Value.Equiv (old.get? name) (new.get? name)
  unknown : ∀ name, SettingKey.ofName? name = none →
    Option.Rel Value.Equiv ((Settings.sectionOf old).get? name) ((Settings.sectionOf new).get? name)

/-- A value can be saved under a name when the name is known, the value can be coerced, and the
settings with it pass the check. -/
def Accepts (s : Settings) (name : Text) (v : Value) (s₁ : Settings) : Prop :=
  ∃ key w, SettingKey.ofName? name = some key ∧ Settings.coerce key v = .ok w ∧
    (∀ other, s₁.get other = if other = key then w else s.get other) ∧
    Settings.check s₁.get = .ok ()

variable {f : SettingsFile} {tree : FileTree} {config config' table : Table}
  {s s' s₁ : Settings} {r : Request}
  {reply : Reply} {requests before after : List Request} {first : SettingKey → Option Value}

theorem course_concat (f : SettingsFile) (tree : FileTree) (requests : List Request) (r : Request) :
    f.course tree (requests ++ [r]) = (f.course tree requests).next f r := by
  unfold course
  rw [List.foldl_append]
  rfl

theorem Faithful.prefix (h : f.Faithful tree (before ++ after)) : f.Faithful tree before := by
  intro front r back heq
  refine h front r (back ++ after) ?_
  rw [heq, List.append_assoc, List.cons_append]

theorem faithful_nil (f : SettingsFile) (tree : FileTree) : f.Faithful tree [] := by
  intro before r after heq
  exact absurd heq.symm (List.append_ne_nil_of_right_ne_nil _ (List.cons_ne_nil r after))

theorem Faithful.concat (h : f.Faithful tree requests)
    (hlast : ∀ reply table, f.plan (f.course tree requests).tree r = .ok (reply, some table) →
      f.ReadsBack table) :
    f.Faithful tree (requests ++ [r]) := by
  intro before r' after heq
  -- Nothing follows the last request; any other one is followed by it.
  rcases List.eq_nil_or_concat after with rfl | ⟨front, last, rfl⟩
  · obtain ⟨rfl, hr⟩ := List.append_inj' heq rfl
    obtain rfl := List.singleton_inj.1 hr
    exact hlast
  · rw [List.concat_eq_append, ← List.cons_append, ← List.append_assoc] at heq
    exact h before r' front (List.append_inj' heq rfl).1

/-! ## What one request does -/

/-- What a request does to a configuration and the settings in effect, by its answer. -/
inductive Did (config : Table) (s : Settings) : Request → Except Failure Reply → Table →
    Settings → Prop where
  | loaded : Did config s .load (.ok (.settings s)) config s
  | refused {name : Text} {v : Value} {e : Failure} (hs : ∀ s₁, ¬ Accepts s name v s₁) :
      Did config s (.save name v) (.error e) config s
  | saved {name : Text} {key : SettingKey} {v w : Value} {s₁ s' : Settings} {config' : Table}
      (hkey : SettingKey.ofName? name = some key) (hw : Settings.coerce key v = .ok w)
      (hget : ∀ other, s₁.get other = if other = key then w else s.get other)
      (hcheck : Settings.check s₁.get = .ok ())
      (hconfig : (Value.table (config.set Settings.sectionName
        (.table ((Settings.sectionOf config).set key.name w)))).Equiv (.table config'))
      (hsettings : s₁.Equiv s') : Did config s (.save name v) (.ok (.settings s₁)) config' s'
  | reset {config' : Table} {s' : Settings}
      (hconfig : (Value.table (config.erase Settings.sectionName)).Equiv (.table config'))
      (hsettings : Settings.Equiv {} s') :
      Did config s .reset (.ok (.removed (config.has Settings.sectionName))) config' s'

section Distinct

variable (hformat : f.format.ReadsDistinct)

include hformat

theorem distinct_of_configuration (h : f.configuration tree = .ok config) :
    Value.Distinct (.table config) := by
  rcases configuration_eq_ok.1 h with ⟨-, rfl⟩ | ⟨-, content, -, hparse⟩
  · exact Value.distinct_nil
  · unfold parse at hparse
    cases ht : Utf8.decode? content with
    | none =>
      rw [ht] at hparse
      exact absurd hparse nofun
    | some t =>
      rw [ht] at hparse
      dsimp only at hparse
      cases hread : f.format.read (Text.unixLines t) with
      | error e =>
        rw [hread] at hparse
        exact absurd hparse nofun
      | ok back =>
        rw [hread] at hparse
        rw [← Except.ok.inj hparse]
        exact hformat _ _ hread

theorem nodup_keys_of_configuration (h : f.configuration tree = .ok config)
    (hsectioned : Settings.Sectioned config) :
    (Settings.sectionOf config).keys.Nodup := by
  have hdistinct := distinct_of_configuration hformat h
  rcases hsectioned.cases with ⟨-, hnil⟩ | hsection
  · rw [hnil]
    exact List.nodup_nil
  · exact (hdistinct.of_get? hsection).keys

end Distinct

/-- A configuration that is read back is in the file once it has been written. -/
theorem Usable.write (h : f.Usable tree) (hreads : f.ReadsBack table) :
    ∃ tree' back, (f.write table).run.run tree = (.ok (), tree') ∧ f.Usable tree' ∧
      f.configuration tree' = .ok back ∧ (Value.table table).Equiv (.table back) := by
  obtain ⟨t, back, ht, hback, hequiv⟩ := hreads
  have hparts : f.path.parts = f.directory.parts ++ ["config.toml".toList] := rfl
  have hnames : FileTree.Walkable (f.directory.parts ++ ["config.toml".toList]) := h.names
  have hdirectory : tree.checkDirectory f.directory = .ok () :=
    FileTree.checkDirectory_of_isClear h.directory
      (fun name hname => h.names name (List.mem_append_left _ hname))
      h.clear
  obtain ⟨hthere, hread⟩ := FileTree.read_write h.clear hnames hparts h.path (Utf8.encode t)
  refine ⟨tree.write f.path.parts (Utf8.encode t), back, ?_,
    ⟨h.names, h.directory, h.path, ?_⟩, ?_, hequiv⟩
  · rw [write_run, hdirectory, ht]
    rfl
  · exact FileTree.isClear_write h.clear _ _
  · exact configuration_eq_ok.2 (Or.inr ⟨hthere, _, hread, hback⟩)

/-- What is planned and read back gets done. -/
theorem Sound.answer_of_plan (h : f.Sound tree config s)
    (hplan : f.plan tree r = .ok (reply, some table))
    (hreads : f.ReadsBack table) (hsectioned : Settings.Sectioned table)
    (hload : Settings.ofConfiguration table = .ok s₁) :
    ∃ tree' config' s', f.answer tree r = (.ok reply, tree') ∧ f.Sound tree' config' s' ∧
      (Value.table table).Equiv (.table config') ∧ s₁.Equiv s' := by
  obtain ⟨tree', config', hwrite, husable, hconfig, hequiv⟩ := h.usable.write hreads
  obtain ⟨s', hs', hsettings⟩ := Settings.exists_ofConfiguration hsectioned hequiv hload
  refine ⟨tree', config', s', ?_, ⟨husable, hconfig, (hsectioned.of_equiv hequiv).1, hs'⟩,
    hequiv, hsettings⟩
  rw [answer_eq, hplan]
  dsimp only
  rw [hwrite]
  rfl

theorem Sound.answer_load (h : f.Sound tree config s) :
    f.answer tree .load = (.ok (.settings s), tree) := by
  have hplan : f.plan tree .load = .ok (.settings s, none) := by
    refine Except.bind_eq_ok.2 ⟨config, h.configuration, Except.bind_eq_ok.2 ⟨s, h.settings, rfl⟩⟩
  rw [answer_eq, hplan]

theorem Sound.save_step {name : Text} {v : Value} (hformat : f.format.ReadsDistinct)
    (h : f.Sound tree config s)
    (hreads : ∀ reply table, f.plan tree (.save name v) = .ok (reply, some table) →
      f.ReadsBack table) :
    ∃ config' s', f.Sound (f.answer tree (.save name v)).2 config' s' ∧
      Did config s (.save name v) (f.answer tree (.save name v)).1 config' s' := by
  have hkeys := nodup_keys_of_configuration hformat h.configuration h.sectioned
  -- What is refused is refused before anything is written.
  have hrefused : ∀ {e}, f.plan tree (.save name v) = .error e →
    (∀ s₁, ¬ Accepts s name v s₁) → ∃ config' s',
      f.Sound (f.answer tree (.save name v)).2 config' s' ∧
        Did config s (.save name v) (f.answer tree (.save name v)).1 config' s' := by
    intro e he hs
    have hanswer := f.answer_eq tree (.save name v)
    rw [he] at hanswer
    rw [hanswer]
    exact ⟨config, s, h, .refused hs⟩
  cases hkey : SettingKey.ofName? name with
  | none =>
    have hplan : f.plan tree (.save name v) = .error (.configuration (.unknownSetting name)) := by
      rw [plan, hkey]
    apply hrefused hplan
    rintro s₁ ⟨key, w, hsome, -⟩
    exact absurd (hkey.symm.trans hsome) nofun
  | some key =>
    have hplan : f.plan tree (.save name v) =
        (Settings.save config key v).map fun saved => (.settings saved.1, some saved.2) := by
      rw [plan, hkey, h.configuration]
      show (Settings.save config key v >>= _) = _
      cases Settings.save config key v <;> rfl
    cases hsave : Settings.save config key v with
    | error e =>
      rw [hsave] at hplan
      apply hrefused hplan
      rintro s₁ ⟨other, w, hother, hw, hget, hcheck⟩
      obtain rfl : key = other := Option.some.inj (hkey.symm.trans hother)
      have haccepted := (Settings.save_eq_ok h.sectioned hkeys h.settings).2
        ⟨w, hw, hget, hcheck, rfl⟩
      exact absurd (hsave.symm.trans haccepted) nofun
    | ok saved =>
      rcases saved with ⟨s₁, table⟩
      rw [hsave] at hplan
      obtain ⟨w, hw, hget, hcheck, htable⟩ :=
        (Settings.save_eq_ok h.sectioned hkeys h.settings).1 hsave
      have hsectioned : Settings.Sectioned table := htable ▸ Settings.sectioned_set _ _
      have hload := Settings.ofConfiguration_of_save h.sectioned hkeys h.settings hsave
      obtain ⟨tree', config', s', hanswer, hsound, hconfig, hsettings⟩ :=
        h.answer_of_plan hplan (hreads _ _ hplan) hsectioned hload
      rw [hanswer]
      exact ⟨config', s', hsound, .saved hkey hw hget hcheck (htable ▸ hconfig) hsettings⟩

theorem Sound.reset_step (h : f.Sound tree config s)
    (hreads : ∀ reply table, f.plan tree .reset = .ok (reply, some table) → f.ReadsBack table) :
    ∃ config' s', f.Sound (f.answer tree .reset).2 config' s' ∧
      Did config s .reset (f.answer tree .reset).1 config' s' := by
  obtain ⟨hsectioned, hload⟩ := Settings.ofConfiguration_erase config
  cases hhas : config.has Settings.sectionName with
  | true =>
    have hplan : f.plan tree .reset =
        .ok (.removed true, some (config.erase Settings.sectionName)) := by
      refine Except.bind_eq_ok.2 ⟨config, h.configuration, ?_⟩
      rw [Settings.reset?, if_pos hhas]
      rfl
    obtain ⟨tree', config', s', hanswer, hsound, hconfig, hsettings⟩ :=
      h.answer_of_plan hplan (hreads _ _ hplan) hsectioned hload
    rw [hanswer]
    exact ⟨config', s', hsound, hhas ▸ .reset hconfig hsettings⟩
  | false =>
    have hplan : f.plan tree .reset = .ok (.removed false, none) := by
      refine Except.bind_eq_ok.2 ⟨config, h.configuration, ?_⟩
      rw [Settings.reset?, hhas, if_neg Bool.false_ne_true]
      rfl
    have hanswer := f.answer_eq tree .reset
    rw [hplan] at hanswer
    rw [hanswer]
    -- Nothing is written, so the defaults have been in effect before.
    have hequiv : (Value.table (config.erase Settings.sectionName)).Equiv (.table config) :=
      Value.equiv_erase hhas
    obtain ⟨s', hs', hsettings⟩ := Settings.exists_ofConfiguration hsectioned hequiv hload
    obtain rfl : s = s' := Except.ok.inj (h.settings.symm.trans hs')
    exact ⟨config, s, h, hhas ▸ .reset hequiv hsettings⟩

/-- One request does what it does to a configuration, and leaves a file that can be loaded. -/
theorem Sound.step (hformat : f.format.ReadsDistinct) (h : f.Sound tree config s)
    (hreads : ∀ reply table, f.plan tree r = .ok (reply, some table) → f.ReadsBack table) :
    ∃ config' s', f.Sound (f.answer tree r).2 config' s' ∧
    Did config s r (f.answer tree r).1 config' s' := by
  cases r with
  | save name v => exact h.save_step hformat hreads
  | load =>
    rw [h.answer_load]
    exact ⟨config, s, h, .loaded⟩
  | reset => exact h.reset_step hreads

/-! ## What a course of requests does -/

/-- A request changes the settings in effect as it says. -/
theorem Did.inEffect {changes : List Change} {answer : Except Failure Reply}
    (h : Did config s r answer config' s')
    (hs : s.InEffect (valueAfter first changes)) :
    s'.InEffect (valueAfter first ((change? r answer).toList ++ changes)) := by
  cases h with
  | loaded => exact hs
  | refused => exact hs
  | @saved name key v w s₁ _ _ hkey hw hget _ _ hsettings =>
    have hchange : change? (.save name v) (.ok (.settings s₁)) = some (.saved key v) := by
      rw [change?, hkey]
      rfl
    rw [hchange]
    -- The other keys have what they had, and this one has the value that has just been saved.
    refine Settings.InEffect.of_equiv (fun other => ?_) hsettings
    show ∃ u, Settings.effective {} other
      (if other = key then some v else valueAfter first changes other) = .ok u ∧ _
    rw [hget]
    split_ifs with hother
    · subst hother
      exact ⟨w, hw, Value.Equiv.refl w⟩
    · exact hs other
  | reset _ hsettings =>
    refine Settings.InEffect.of_equiv (fun key => ?_) hsettings
    exact ⟨_, rfl, Value.Equiv.refl _⟩

/-- After a course of requests the file can be loaded, and what has been saved since the last reset
is in effect over what was there at first. -/
theorem Sound.course (hformat : f.format.ReadsDistinct) (h : f.Sound tree config s)
    (hfaithful : f.Faithful tree requests) :
    ∃ config' s', f.Sound (f.course tree requests).tree config' s' ∧
      s'.InEffect (valueAfter (fun key => (Settings.sectionOf config).get? key.name)
        (f.course tree requests).changes) := by
  -- The last request meets the settings that all the others have left in effect.
  induction requests using List.reverseRecOn with
  | nil =>
    refine ⟨config, s, h, fun key => ⟨s.get key, ?_, Value.Equiv.refl _⟩⟩
    exact ((Settings.ofConfiguration_eq_ok h.sectioned).1 h.settings).1 key
  | append_singleton requests r ih =>
    obtain ⟨config₁, s₁, hsound, hs₁⟩ := ih hfaithful.prefix
    obtain ⟨config', s', hsound', hdid⟩ := hsound.step hformat (hfaithful requests r [] rfl)
    rw [course_concat]
    exact ⟨config', s', hsound', hdid.inEffect hs₁⟩

theorem Did.keepsOthers {name : Text} {v : Value} {answer : Except Failure Reply}
    (h : Did config s (.save name v) answer config' s') : KeepsOthers config config' := by
  cases h with
  | refused =>
    exact ⟨fun name _ => Option.Rel.of_refl Value.Equiv.refl _, fun name _ =>
      Option.Rel.of_refl Value.Equiv.refl _⟩
  | @saved _ key _ _ _ _ _ hkey _ _ _ hconfig _ =>
    constructor
    · intro other hother
      have hsame := Value.equiv_table_iff.1 hconfig other
      rwa [Table.get?_set, if_neg hother] at hsame
    · intro other hother
      obtain ⟨-, hentries⟩ := (Settings.sectioned_set _ _).of_equiv hconfig
      have hsame := Value.equiv_table_iff.1 hentries other
      have hne : other ≠ key.name := by
        rintro rfl
        exact absurd ((SettingKey.ofName?_name key).symm.trans hother) nofun
      rwa [Settings.sectionOf_set, Table.get?_set, if_neg hne] at hsame

/-- Over a course of requests, failing ones included, the file can be loaded at each moment, and
loading changes nothing. In effect are the defaults, over them the known keys that were there at
first, and over them what has been saved last for each key since the last reset. A value is saved
when the settings in effect accept it; this keeps the other sections and the keys that are not
known, and returns what is loaded next. A reset removes the section and nothing else, and tells
whether it was there. -/
theorem course_keepsSettings (hformat : f.format.ReadsDistinct) (h : f.Sound tree config s)
    (hfaithful : f.Faithful tree requests) :
    (∀ before after, requests = before ++ after → ∃ s',
      f.answer (f.course tree before).tree .load =
        (.ok (.settings s'), (f.course tree before).tree) ∧
        s'.InEffect (valueAfter (fun key => (Settings.sectionOf config).get? key.name)
          (f.course tree before).changes)) ∧
      ∀ before r after, requests = before ++ r :: after → ∃ old new s',
        f.configuration (f.course tree before).tree = .ok old ∧
        f.configuration (f.course tree (before ++ [r])).tree = .ok new ∧
        (f.answer (f.course tree before).tree .load).1 = .ok (.settings s') ∧
        match r, (f.answer (f.course tree before).tree r).1 with
        | .save name v, .ok (.settings s₁) => Accepts s' name v s₁ ∧ KeepsOthers old new ∧
          ∃ s₂, (f.answer (f.course tree (before ++ [r])).tree .load).1 =
            .ok (.settings s₂) ∧ s₁.Equiv s₂
        | .save name v, .error _ => (∀ s₁, ¬ Accepts s' name v s₁) ∧ new = old
        | .load, .ok _ => new = old
        | .reset, .ok (.removed there) => there = old.has Settings.sectionName ∧
          ∀ name, Option.Rel Value.Equiv (if name = Settings.sectionName then none
            else old.get? name) (new.get? name)
        | _, _ => False := by
  constructor
  · rintro before after rfl
    obtain ⟨config', s', hsound, hs'⟩ := h.course hformat hfaithful.prefix
    exact ⟨s', hsound.answer_load, hs'⟩
  · rintro before r after rfl
    obtain ⟨old, s', hsound, -⟩ := h.course hformat hfaithful.prefix
    obtain ⟨new, s₂, hsound', hdid⟩ := hsound.step hformat (hfaithful before r after rfl)
    have htree : (f.course tree (before ++ [r])).tree =
        (f.answer (f.course tree before).tree r).2 := by
      rw [course_concat]
      rfl
    rw [← htree] at hsound'
    refine ⟨old, new, s', hsound.configuration,
      hsound'.configuration, by rw [hsound.answer_load], ?_⟩
    have hload := hsound'.answer_load
    generalize (f.answer (f.course tree before).tree r).1 = answer at hdid ⊢
    cases hdid with
    | loaded => rfl
    | refused hs => exact ⟨hs, rfl⟩
    | saved hkey hw hget hcheck hconfig hsettings =>
      refine ⟨⟨_, _, hkey, hw, hget, hcheck⟩, ?_, s₂, by rw [hload], hsettings⟩
      exact Did.keepsOthers (.saved hkey hw hget hcheck hconfig hsettings)
    | reset hconfig hsettings =>
      refine ⟨rfl, fun name => ?_⟩
      have hsame := Value.equiv_table_iff.1 hconfig name
      rwa [Table.get?_erase] at hsame

/-! ## A course of requests -/

/-- Whether what a request writes is read back as it was. -/
def writesBack (f : SettingsFile) (tree : FileTree) (r : Request) : Bool :=
  ((f.plan tree r).toOption.bind (·.2)).all fun table =>
    ((f.format.write table).toOption.bind fun t => (f.parse (Utf8.encode t)).toOption) = some table

theorem readsBack_of_writesBack (h : f.writesBack tree r = true) (reply : Reply) (table : Table)
    (hplan : f.plan tree r = .ok (reply, some table)) : f.ReadsBack table := by
  have hback : ((f.format.write table).toOption.bind fun t => (f.parse (Utf8.encode t)).toOption) =
      some table := by
    unfold writesBack at h
    rw [hplan] at h
    exact of_decide_eq_true h
  obtain ⟨t, ht, hparse⟩ := Option.bind_eq_some_iff.1 hback
  exact ⟨t, table, Except.eq_ok_of_toOption ht, Except.eq_ok_of_toOption hparse, Value.Equiv.refl _⟩

def homeRequests : List Request :=
  [.save "max_depth".toList (.text "0".toList), .save "collision_strategy".toList
    (.text "error".toList), .load, .reset, .save "source_extension".toList (.text ".kt".toList)]

def homeTable : Table :=
  [("discovery".toList,
    .table [("max_depth".toList, .text "7".toList), ("note".toList, .text "n".toList)]),
      ("other".toList, .table [("x".toList, .text "y".toList)])]

theorem sound_homeTree : homeFile.Sound homeTree homeTable { maxDepth := 7 } where
  usable := ⟨by decide, by decide, by decide, by decide +kernel⟩
  configuration := Except.eq_ok_of_toOption (by decide +kernel)
  sectioned := fun _ hv => ⟨_, (Option.some.inj hv).symm⟩
  settings := rfl

theorem faithful_homeRequests : homeFile.Faithful homeTree homeRequests := by
  have hnil := faithful_nil homeFile homeTree
  have hrefused := hnil.concat
    (readsBack_of_writesBack (r := .save "max_depth".toList (.text "0".toList)) (by decide +kernel))
  have hsaved := hrefused.concat (readsBack_of_writesBack
    (r := .save "collision_strategy".toList (.text "error".toList)) (by decide +kernel))
  have hloaded := hsaved.concat (r := .load) fun reply table hplan => absurd hplan
    (plan_load_ne homeFile _ reply table)
  have hreset := hloaded.concat (readsBack_of_writesBack (r := .reset) (by decide +kernel))
  exact hreset.concat
    (readsBack_of_writesBack (r := .save "source_extension".toList (.text ".kt".toList))
      (by decide +kernel))

/-- The refused value never takes effect, and of the saved ones the last does, which came after the
reset. -/
theorem homeRequests_settings :
    homeFile.format.ReadsDistinct ∧ homeFile.Sound homeTree homeTable { maxDepth := 7 } ∧
      homeFile.Faithful homeTree homeRequests ∧
      ∃ s, (homeFile.answer (homeFile.course homeTree homeRequests).tree .load).1 =
        .ok (.settings s) ∧
        s.extension = .text ".kt".toList ∧ s.strategy = ({} : Settings).strategy := by
  obtain ⟨hloads, -⟩ := course_keepsSettings Toml.Format.standard_readsDistinct sound_homeTree
    faithful_homeRequests
  obtain ⟨s, hs, heffect⟩ := hloads homeRequests [] rfl
  have hchanges : (homeFile.course homeTree homeRequests).changes =
      [.saved .extension (.text ".kt".toList), .cleared,
        .saved .strategy (.text "error".toList)] := by
    decide +kernel
  rw [hchanges] at heffect
  refine ⟨Toml.Format.standard_readsDistinct, sound_homeTree, faithful_homeRequests,
    s, by rw [hs], ?_, ?_⟩
  · obtain ⟨w, hw, hequiv⟩ := heffect .extension
    rw [← Except.ok.inj hw] at hequiv
    exact (hequiv.eq_of_plain rfl).symm
  · obtain ⟨w, hw, hequiv⟩ := heffect .strategy
    rw [← Except.ok.inj hw] at hequiv
    exact (hequiv.eq_of_plain rfl).symm

end SettingsFile

end SourceReach
