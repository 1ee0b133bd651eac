import SourceReach.Proofs.DistinctKeys
import SourceReach.Proofs.Effective
import SourceReach.Proofs.Writing
import SourceReach.Standard

/-!
# One request to the settings file

What a request comes to is settled before anything is written: its reply, and the configuration that
has to be written if there is one (`plan`). A request that fails there leaves the file as it is, and
so does one that has nothing to write (`answer_eq`); a configuration that has a text does not fail
later (`answer_keepsFile`).
-/

namespace SourceReach

open Toml (Value Table)

namespace Storing

variable {α β : Type}

theorem run_asked_bind (g : FileTree → Except Failure α) (k : α → Storing β) (tree : FileTree) :
    ((ExceptT.mk (do return g (← get)) : Storing α) >>= k).run.run tree =
      match g tree with
      | .error e => (.error e, tree)
      | .ok a => (k a).run.run tree := by
  simp only [ExceptT.run_bind, ExceptT.run_mk, StateT.run_bind, StateT.run_get,
    StateT.run_pure, pure_bind]
  cases g tree <;> rfl

theorem run_known_bind (r : Except Failure α) (k : α → Storing β) (tree : FileTree) :
    ((ExceptT.mk (pure r) : Storing α) >>= k).run.run tree =
      match r with
      | .error e => (.error e, tree)
      | .ok a => (k a).run.run tree := by
  cases r <;> rfl

theorem run_bind_pure (x : Storing α) (g : α → β) (tree : FileTree) :
    (x >>= fun a => pure (g a)).run.run tree = ((x.run.run tree).1.map g, (x.run.run tree).2) := by
  rw [ExceptT.run_bind, StateT.run_bind]
  rcases x.run.run tree with ⟨_ | a, tree'⟩ <;> rfl

end Storing

namespace SettingsFile

/-- What the settings file can be asked for. -/
inductive Request where
  | save (name : Text) (v : Value)
  | load
  | reset

/-- The settings in effect, or whether a section has been removed. -/
inductive Reply where
  | settings (s : Settings)
  | removed (there : Bool)

def perform (f : SettingsFile) : Request → Storing Reply
  | .save name v => .settings <$> f.save name v
  | .load => .settings <$> f.load
  | .reset => .removed <$> f.reset

/-- The reply to a request and the files afterwards. -/
def answer (f : SettingsFile) (tree : FileTree) (r : Request) : Except Failure Reply × FileTree :=
  (f.perform r).run.run tree

/-- What a request comes to before anything is written: its reply, and the configuration to write if
there is one. -/
def plan (f : SettingsFile) (tree : FileTree) : Request → Except Failure (Reply × Option Table)
  | .save name v =>
    match SettingKey.ofName? name with
    | none => .error (.configuration (.unknownSetting name))
    | some key => do
      let (settings, config) ← Settings.save (← f.configuration tree) key v
      return (.settings settings, some config)
  | .load => do return (.settings (← Settings.ofConfiguration (← f.configuration tree)), none)
  | .reset => do
    match Settings.reset? (← f.configuration tree) with
    | none => return (.removed false, none)
    | some config => return (.removed true, some config)

variable {f : SettingsFile} {tree tree' : FileTree} {r : Request} {reply : Reply}
  {table : Table} {t : Text}

/-- The configuration is empty without the file, or else it is what the file says. -/
theorem configuration_eq_ok {config : Table} :
    f.configuration tree = .ok config ↔
      (tree.contains f.path = .ok false ∧ config = []) ∨
        (tree.contains f.path = .ok true ∧ ∃ content, tree.read f.path = .ok content ∧
          f.parse content = .ok config) := by
  unfold configuration
  cases tree.contains f.path with
  | error e =>
    refine iff_of_false nofun ?_
    rintro (⟨hthere, -⟩ | ⟨hthere, -⟩)
    · exact absurd hthere nofun
    · exact absurd hthere nofun
  | ok there =>
    cases there with
    | false =>
      constructor
      · intro h
        exact Or.inl ⟨rfl, (Except.ok.inj h).symm⟩
      · rintro (⟨-, rfl⟩ | ⟨hthere, -⟩)
        · rfl
        · exact absurd (Except.ok.inj hthere) Bool.false_ne_true
    | true =>
      cases tree.read f.path with
      | error e =>
        refine iff_of_false nofun ?_
        rintro (⟨hthere, -⟩ | ⟨-, content, hread, -⟩)
        · exact absurd (Except.ok.inj hthere).symm Bool.false_ne_true
        · exact absurd hread nofun
      | ok content =>
        constructor
        · intro h
          exact Or.inr ⟨rfl, content, rfl, h⟩
        · rintro (⟨hthere, -⟩ | ⟨-, other, hread, h⟩)
          · exact absurd (Except.ok.inj hthere).symm Bool.false_ne_true
          · rwa [← Except.ok.inj hread] at h

/-- Writing fails where no directory can be, or else comes down to the text of the configuration. -/
theorem write_run (f : SettingsFile) (tree : FileTree) (table : Table) :
    (f.write table).run.run tree =
      match Except.expected (tree.checkDirectory f.directory) with
      | .error e => (.error e, tree)
      | .ok () =>
        match f.format.write table with
        | .ok t => (.ok (), tree.write f.path.parts (Utf8.encode t))
        | .error e => (.error (.defect (defect e)), tree.write f.path.parts []) := by
  unfold write
  rw [ExceptT.run_bind, StateT.run_bind]
  show StateT.run
    (ExceptT.run (ExceptT.mk (pure (Except.expected (tree.checkDirectory f.directory))) >>= _))
      tree = _
  rw [Storing.run_known_bind]
  cases Except.expected (tree.checkDirectory f.directory) with
  | error e => rfl
  | ok _ => cases f.format.write table <;> rfl

theorem load_run (f : SettingsFile) (tree : FileTree) :
    f.load.run.run tree = (f.configuration tree >>= Settings.ofConfiguration, tree) := by
  unfold load
  rw [Storing.run_asked_bind f.configuration]
  cases f.configuration tree <;> rfl

theorem save_run {name : Text} {key : SettingKey}
    (hkey : SettingKey.ofName? name = some key) (v : Value) :
    (f.save name v).run.run tree =
      match f.configuration tree >>= (Settings.save · key v) with
      | .error e => (.error e, tree)
      | .ok saved =>
        (((f.write saved.2).run.run tree).1.map fun _ => saved.1,
          ((f.write saved.2).run.run tree).2) := by
  unfold save
  rw [hkey]
  dsimp only
  rw [Storing.run_asked_bind f.configuration]
  cases f.configuration tree with
  | error e => rfl
  | ok config =>
    dsimp only
    rw [Storing.run_known_bind]
    show _ = (match Settings.save config key v with
      | .error e => (.error e, tree)
      | .ok saved =>
        (((f.write saved.2).run.run tree).1.map fun _ => saved.1,
          ((f.write saved.2).run.run tree).2) :
      Except Failure Settings × FileTree)
    cases Settings.save config key v with
    | error e => rfl
    | ok saved => exact Storing.run_bind_pure (f.write saved.2) (fun _ => saved.1) tree

theorem reset_run (f : SettingsFile) (tree : FileTree) :
    f.reset.run.run tree =
      match f.configuration tree with
      | .error e => (.error e, tree)
      | .ok config =>
        match Settings.reset? config with
        | none => (.ok false, tree)
        | some config =>
          (((f.write config).run.run tree).1.map fun _ => true,
            ((f.write config).run.run tree).2) := by
  unfold reset
  rw [Storing.run_asked_bind f.configuration]
  cases f.configuration tree with
  | error e => rfl
  | ok config =>
    dsimp only
    cases Settings.reset? config with
    | none => rfl
    | some config => exact Storing.run_bind_pure (f.write config) (fun _ => true) tree

/-- A request that can be planned is answered by writing the configuration, if there is one; another
one fails and changes nothing. -/
theorem answer_eq (f : SettingsFile) (tree : FileTree) (r : Request) :
    f.answer tree r =
      match f.plan tree r with
      | .error e => (.error e, tree)
      | .ok (reply, none) => (.ok reply, tree)
      | .ok (reply, some table) =>
        (((f.write table).run.run tree).1.map fun _ => reply,
            ((f.write table).run.run tree).2) := by
  unfold answer plan
  cases r with
  | save name v =>
    rw [perform, map_eq_pure_bind, Storing.run_bind_pure]
    dsimp only
    cases hkey : SettingKey.ofName? name with
    | none =>
      unfold save
      rw [hkey]
      rfl
    | some key =>
      rw [save_run hkey]
      cases f.configuration tree with
      | error e => rfl
      | ok config =>
        show (_ : Except Failure Reply × FileTree) = _
        dsimp only [bind, Except.bind]
        cases Settings.save config key v with
        | error e => rfl
        | ok saved =>
          dsimp only
          rw [Except.map_map]
          rfl
  | load =>
    rw [perform, map_eq_pure_bind, Storing.run_bind_pure, load_run]
    cases f.configuration tree with
    | error e => rfl
    | ok config =>
      dsimp only [bind, Except.bind]
      cases Settings.ofConfiguration config <;> rfl
  | reset =>
    rw [perform, map_eq_pure_bind, Storing.run_bind_pure, reset_run]
    cases f.configuration tree with
    | error e => rfl
    | ok config =>
      dsimp only [bind, Except.bind]
      cases Settings.reset? config with
      | none => rfl
      | some config =>
        dsimp only
        rw [Except.map_map]
        rfl

/-- Writing a configuration that has a text either fails before anything is changed or puts the text
there. -/
theorem write_run_of_text (htext : f.format.write table = .ok t) (tree : FileTree) :
    (∃ e, (f.write table).run.run tree = (.error e, tree)) ∨
      (f.write table).run.run tree = (.ok (), tree.write f.path.parts (Utf8.encode t)) := by
  rw [write_run, htext]
  cases Except.expected (tree.checkDirectory f.directory) with
  | error e => exact Or.inl ⟨e, rfl⟩
  | ok _ => exact Or.inr rfl

theorem plan_load_ne (f : SettingsFile) (tree : FileTree) (reply : Reply) (table : Table) :
    f.plan tree .load ≠ .ok (reply, some table) := by
  intro h
  obtain ⟨config, -, h⟩ := Except.bind_eq_ok.1 h
  obtain ⟨s, -, h⟩ := Except.bind_eq_ok.1 h
  exact absurd (Prod.mk.inj (Except.pure_eq_ok.1 h)).2 nofun

/-- Without a section to remove there is nothing to write. -/
theorem plan_removed_false_ne (f : SettingsFile) (tree : FileTree) (r : Request) (table : Table) :
    f.plan tree r ≠ .ok (.removed false, some table) := by
  intro h
  cases r with
  | save name v =>
    unfold plan at h
    dsimp only at h
    split at h
    · exact absurd h nofun
    · obtain ⟨config, -, h⟩ := Except.bind_eq_ok.1 h
      obtain ⟨saved, -, h⟩ := Except.bind_eq_ok.1 h
      exact absurd (Prod.mk.inj (Except.pure_eq_ok.1 h)).1 nofun
  | load => exact plan_load_ne f tree _ _ h
  | reset =>
    obtain ⟨config, -, h⟩ := Except.bind_eq_ok.1 h
    split at h
    · exact absurd (Prod.mk.inj (Except.pure_eq_ok.1 h)).2 nofun
    · have hreply := (Prod.mk.inj (Except.pure_eq_ok.1 h)).1
      exact absurd (Reply.removed.inj hreply) nofun

/-- A request that fails leaves all files as they are, and so do loading and a reset that has
nothing to remove, as long as the configuration that is to be written has a text. What else happens
to the files is that this text is written. -/
theorem answer_keepsFile (f : SettingsFile) (tree : FileTree) (r : Request)
    (htext : ∀ reply table, f.plan tree r = .ok (reply, some table) →
      ∃ t, f.format.write table = .ok t) :
    (∀ e, (f.answer tree r).1 = .error e → (f.answer tree r).2 = tree) ∧
      (r = .load → (f.answer tree r).2 = tree) ∧
      ((f.answer tree r).1 = .ok (.removed false) → (f.answer tree r).2 = tree) ∧
      ∀ reply, (f.answer tree r).1 = .ok reply →
        (f.plan tree r = .ok (reply, none) ∧ (f.answer tree r).2 = tree) ∨
        ∃ table t, f.plan tree r = .ok (reply, some table) ∧ f.format.write table = .ok t ∧
          (f.answer tree r).2 = tree.write f.path.parts (Utf8.encode t) := by
  have hanswer := f.answer_eq tree r
  have hload := f.plan_load_ne tree
  have hremoved := f.plan_removed_false_ne tree r
  cases hplan : f.plan tree r with
  | error e =>
    rw [hplan] at hanswer
    rw [hanswer]
    exact ⟨fun _ _ => rfl, fun _ => rfl, fun _ => rfl, fun reply hreply => absurd hreply nofun⟩
  | ok planned =>
    rcases planned with ⟨reply, _ | table⟩
    · rw [hplan] at hanswer
      rw [hanswer]
      refine ⟨fun _ _ => rfl, fun _ => rfl, fun _ => rfl, fun other hother => Or.inl ⟨?_, rfl⟩⟩
      rw [Except.ok.inj hother]
    · obtain ⟨t, ht⟩ := htext reply table hplan
      rw [hplan] at hanswer hremoved
      dsimp only at hanswer
      rcases write_run_of_text ht tree with ⟨e, hwrite⟩ | hwrite
      · rw [hwrite] at hanswer
        rw [hanswer]
        exact ⟨fun _ _ => rfl, fun _ => rfl, fun _ => rfl, fun reply hreply => absurd hreply nofun⟩
      · rw [hwrite] at hanswer
        rw [hanswer]
        refine ⟨fun e he => absurd he nofun, ?_, ?_, fun other hother =>
          Or.inr ⟨table, t, ?_, ht, rfl⟩⟩
        · rintro rfl
          exact absurd hplan (hload reply table)
        · intro hfalse
          obtain rfl : reply = .removed false := Except.ok.inj hfalse
          exact absurd rfl (hremoved table)
        · rw [← Except.ok.inj hother]

/-- A settings file with a key that is not known, and with another section. -/
def homeFile : SettingsFile := ⟨⟨.root, ["h".toList]⟩, .standard⟩

def homeTree : FileTree where
  nodes := [(["h".toList], .directory), (["h".toList, "config.toml".toList],
    .file (Utf8.encode
      "[discovery]\nmax_depth = \"7\"\nnote = \"n\"\n\n[other]\nx = \"y\"\n".toList))]

/-- A save that is refused because of its value, and a reset that leaves the other section. -/
theorem homeTree_kept :
    let refused := Request.save "max_depth".toList (.text "0".toList)
    let other : Table := [("other".toList, .table [("x".toList, .text "y".toList)])]
    (∀ reply table, homeFile.plan homeTree refused = .ok (reply, some table) →
        ∃ t, homeFile.format.write table = .ok t) ∧
      (∃ e, (homeFile.answer homeTree refused).1 = .error e) ∧
      (homeFile.answer homeTree refused).2 = homeTree ∧
      (∀ reply table, homeFile.plan homeTree .reset = .ok (reply, some table) →
        ∃ t, homeFile.format.write table = .ok t) ∧
      ∃ t, homeFile.format.write other = .ok t ∧
        (homeFile.answer homeTree .reset).2 = homeTree.write homeFile.path.parts
          (Utf8.encode t) := by
  intro refused other
  obtain ⟨e, he⟩ : ∃ e, (homeFile.answer homeTree refused).1 = .error e :=
    Except.exists_eq_error (by decide +kernel)
  obtain ⟨t, ht⟩ : ∃ t, homeFile.format.write other = .ok t :=
    Except.exists_eq_ok (by decide +kernel)
  obtain ⟨reply, hreply⟩ : ∃ reply, (homeFile.answer homeTree .reset).1 = .ok reply :=
    Except.exists_eq_ok (by decide +kernel)
  have hrefused : ∀ reply table, homeFile.plan homeTree refused = .ok (reply, some table) →
      ∃ t, homeFile.format.write table = .ok t := by
    obtain ⟨e, he⟩ : ∃ e, homeFile.plan homeTree refused = .error e :=
      Except.exists_eq_error (by decide +kernel)
    intro reply table h
    exact absurd (he.symm.trans h) nofun
  have hplanned : ∀ reply table, homeFile.plan homeTree .reset = .ok (reply, some table) →
      table = other := by
    have hother : (homeFile.plan homeTree .reset).toOption.map (·.2) = some (some other) := by
      decide +kernel
    intro reply table h
    rw [h] at hother
    exact Option.some.inj (Option.some.inj hother)
  have hreset : ∀ reply table, homeFile.plan homeTree .reset = .ok (reply, some table) →
      ∃ t, homeFile.format.write table = .ok t := by
    intro reply table h
    exact ⟨t, by rw [hplanned reply table h, ht]⟩
  refine ⟨hrefused, ⟨e, he⟩, (answer_keepsFile homeFile homeTree refused hrefused).1 e he,
    hreset, t, ht, ?_⟩
  have hwritten := (answer_keepsFile homeFile homeTree .reset hreset).2.2.2 reply hreply
  rcases hwritten with ⟨hplan, -⟩ | ⟨table, u, h, hu, htree⟩
  · have hsome : (homeFile.plan homeTree .reset).toOption.any (·.2.isSome) = true := by
      decide +kernel
    rw [hplan] at hsome
    exact absurd hsome nofun
  · obtain rfl := hplanned reply table h
    rw [htree, Except.ok.inj (hu.symm.trans ht)]

end SettingsFile

end SourceReach
