import SourceReach.Proofs.Outcome

/-!
# How computations end

A logged computation runs on a log, and a question to a finder runs on the index that is known and
on a log. What is said here of one run holds for both: `Run.Gives` takes a value that a chain of
steps has given apart, and `Run.Ends` puts a chain together from its steps. An end does not depend
on what has been logged before, and a computation that is settled ends in any value that it is known
to give (`Logged.Settled.ends`).
-/

namespace SourceReach

variable {α β σ : Type}

/-- A monad whose computations run on a state and a log. -/
class Runs (m : Type → Type) (σ : outParam Type) [Monad m] where
  run {α : Type} : m α → σ → List LogEntry → (α × σ) × List LogEntry
  run_pure {α : Type} (a : α) (s : σ) (log : List LogEntry) : run (pure a) s log = ((a, s), log)
  run_bind {α β : Type} (x : m α) (g : α → m β) (s : σ) (log : List LogEntry) :
    run (x >>= g) s log = run (g (run x s log).1.1) (run x s log).1.2 (run x s log).2

instance : Runs (StateM (List LogEntry)) Unit where
  run x _ log := (((x.run log).1, ()), (x.run log).2)
  run_pure _ _ _ := rfl
  run_bind _ _ _ _ := rfl

instance : Runs (StateT σ (StateM (List LogEntry))) σ where
  run x s log := (x.run s).run log
  run_pure _ _ _ := rfl
  run_bind _ _ _ _ := rfl

namespace Run

variable {m : Type → Type} [Monad m] [Runs m σ]

/-- From one state, the computation gives a value after some messages, and leaves another state. -/
def Gives (x : ExceptT Failure m α) (s : σ) (a : α) (s' : σ) : Prop :=
  ∃ log log', Runs.run x.run s log = ((.ok a, s'), log')

/-- From one state, the computation ends in this value or failure and leaves another state, whatever
has been logged before. -/
def Ends (x : ExceptT Failure m α) (s : σ) (r : Except Failure α) (s' : σ) : Prop :=
  ∀ log, ∃ log', Runs.run x.run s log = ((r, s'), log')

variable {x : ExceptT Failure m α} {g : α → ExceptT Failure m β} {s mid s' : σ}
  {a b : α} {e : Failure}

theorem run_bind_ok {log log' : List LogEntry} (hx : Runs.run x.run s log = ((.ok a, mid), log')) :
    Runs.run (x >>= g).run s log = Runs.run (g a).run mid log' := by
  rw [ExceptT.run_bind, Runs.run_bind, hx]

theorem run_bind_error {log log' : List LogEntry}
    (hx : Runs.run x.run s log = ((.error e, mid), log')) :
    Runs.run (x >>= g).run s log = ((.error e, mid), log') := by
  rw [ExceptT.run_bind, Runs.run_bind, hx]
  exact Runs.run_pure _ _ _

/-! ## What has been given -/

theorem gives_pure : Gives (pure a : ExceptT Failure m α) s b s' ↔ a = b ∧ s = s' := by
  have hrun : ∀ log, Runs.run (pure a : ExceptT Failure m α).run s log = ((.ok a, s), log) :=
    Runs.run_pure _ _
  constructor
  · rintro ⟨log, log', h⟩
    rw [hrun] at h
    obtain ⟨ha, hs⟩ := Prod.mk.inj (Prod.mk.inj h).1
    exact ⟨Except.ok.inj ha, hs⟩
  · rintro ⟨rfl, rfl⟩
    exact ⟨[], [], hrun []⟩

theorem not_gives_throw : ¬Gives (throw e : ExceptT Failure m α) s a s' := by
  rintro ⟨log, log', h⟩
  have hrun : Runs.run (throw e : ExceptT Failure m α).run s log = ((.error e, s), log) :=
    Runs.run_pure _ _ _
  exact absurd (Prod.mk.inj (Prod.mk.inj (hrun.symm.trans h)).1).1 nofun

theorem Gives.bind {b : β} (h : Gives (x >>= g) s b s') :
    ∃ a mid, Gives x s a mid ∧ Gives (g a) mid b s' := by
  obtain ⟨log, log', h⟩ := h
  rcases hx : Runs.run x.run s log with ⟨⟨e | a, mid⟩, log₁⟩
  · rw [run_bind_error hx] at h
    exact absurd (Prod.mk.inj (Prod.mk.inj h).1).1 nofun
  · rw [run_bind_ok hx] at h
    exact ⟨a, mid, ⟨log, log₁, hx⟩, log₁, log', h⟩

/-- What every step keeps is kept by a fold. -/
theorem Gives.foldlM {motive : β → Prop} {g : β → α → ExceptT Failure m β} {xs : List α}
    (hstep : ∀ b, motive b → ∀ x ∈ xs, ∀ s b' s', Gives (g b x) s b' s' → motive b')
    {first last : β}
    (hfirst : motive first) (h : Gives (xs.foldlM g first) s last s') : motive last := by
  induction xs generalizing first s with
  | nil => exact (gives_pure.1 h).1 ▸ hfirst
  | cons x xs ih =>
    rw [List.foldlM_cons] at h
    obtain ⟨next, mid, hnext, h⟩ := h.bind
    refine ih (fun b hb y hy => hstep b hb y (List.mem_cons_of_mem _ hy)) ?_ h
    exact hstep first hfirst x List.mem_cons_self _ next _ hnext

/-! ## What comes to an end -/

theorem Ends.gives (h : Ends x s (.ok a) s') : Gives x s a s' := by
  obtain ⟨log', h⟩ := h []
  exact ⟨[], log', h⟩

theorem ends_pure (a : α) (s : σ) : Ends (pure a : ExceptT Failure m α) s (.ok a) s :=
  fun log => ⟨log, Runs.run_pure _ _ _⟩

theorem ends_throw (e : Failure) (s : σ) : Ends (throw e : ExceptT Failure m α) s (.error e) s :=
  fun log => ⟨log, Runs.run_pure _ _ _⟩

theorem Ends.bind {r : Except Failure β} (hx : Ends x s (.ok a) mid) (hg : Ends (g a) mid r s') :
    Ends (x >>= g) s r s' := by
  intro log
  obtain ⟨log₁, hx⟩ := hx log
  obtain ⟨log', hg⟩ := hg log₁
  exact ⟨log', (run_bind_ok hx).trans hg⟩

theorem Ends.bind_error (hx : Ends x s (.error e) s') : Ends (x >>= g) s (.error e) s' := by
  intro log
  obtain ⟨log', hx⟩ := hx log
  exact ⟨log', run_bind_error hx⟩

theorem Ends.bind_kept {r : Except Failure α} {next : α → Except Failure β} (hx : Ends x s r s')
    (hg : ∀ a, Ends (g a) s' (next a) s') : Ends (x >>= g) s (r >>= next) s' := by
  cases r with
  | error e => exact hx.bind_error
  | ok a => exact hx.bind (hg a)

theorem ends_forM {act : α → ExceptT Failure m PUnit} {xs : List α}
    (h : ∀ a ∈ xs, Ends (act a) s (.ok ⟨⟩) s) :
    Ends (forM xs act) s (.ok ⟨⟩) s := by
  induction xs with
  | nil => exact ends_pure _ s
  | cons a xs ih =>
    rw [List.forM_cons]
    obtain ⟨ha, hxs⟩ := List.forall_mem_cons.1 h
    exact ha.bind (ih hxs)

end Run

/-! ## Logged computations -/

namespace Logged

/-- The computation gives a value, after some messages. -/
abbrev Gives (x : Logged α) (a : α) : Prop := Run.Gives x () a ()

/-- The computation ends in this value or failure, whatever has been logged before. -/
abbrev Ends (x : Logged α) (r : Except Failure α) : Prop := Run.Ends x () r ()

/-- The computation has one end. -/
def Settled (x : Logged α) : Prop := ∃ r, x.Ends r

variable {x : Logged α} {g : α → Logged β} {a : α} {e : Failure}

theorem gives_of_run {log log' : List LogEntry} (h : x.run.run log = (.ok a, log')) : x.Gives a :=
  ⟨log, log', by simp only [Runs.run, h]⟩

theorem gives_of_outcome (h : x.outcome.1 = .ok a) : x.Gives a :=
  ⟨[], x.outcome.2, Prod.ext (Prod.ext h rfl) rfl⟩

theorem Ends.outcome {r : Except Failure α} (h : x.Ends r) : x.outcome.1 = r := by
  obtain ⟨log', h⟩ := h []
  exact congrArg (·.1.1) h

theorem ends_of_run {r : Except Failure α} (h : ∀ log, (x.run.run log).1 = r) : x.Ends r :=
  fun log => ⟨(x.run.run log).2, by simp only [Runs.run, h]⟩

theorem not_gives_fail {e : ConfigurationError} : ¬(fail e : Logged α).Gives a :=
  Run.not_gives_throw

theorem ends_fail (e : ConfigurationError) : (fail e : Logged α).Ends (.error (.configuration e)) :=
  Run.ends_throw _ _

theorem ends_log (level : Level) (message : Text) : (log level message).Ends (.ok ⟨⟩) :=
  fun _ => ⟨_, rfl⟩

theorem gives_ofExcept {r : Except Failure α} : (ofExcept r).Gives a ↔ r = .ok a := by
  cases r with
  | error e => exact iff_of_false Run.not_gives_throw nofun
  | ok b => exact Run.gives_pure.trans (by simp)

theorem ends_ofExcept (r : Except Failure α) : (ofExcept r).Ends r := by
  cases r with
  | ok a => exact Run.ends_pure a ()
  | error e => exact Run.ends_throw e ()

theorem Settled.bind (hx : x.Settled) (hg : ∀ a, (g a).Settled) : (x >>= g).Settled := by
  obtain ⟨r, hr⟩ := hx
  cases r with
  | error e => exact ⟨_, hr.bind_error⟩
  | ok a =>
    obtain ⟨r', hr'⟩ := hg a
    exact ⟨r', hr.bind hr'⟩

theorem Settled.ite {p : Prop} [Decidable p] {y : Logged α} (hx : x.Settled) (hy : y.Settled) :
    Settled (if p then x else y) := by
  split
  · exact hx
  · exact hy

theorem Settled.ends (hx : x.Settled) (h : x.Gives a) : x.Ends (.ok a) := by
  obtain ⟨r, hr⟩ := hx
  obtain ⟨log, log', h⟩ := h
  obtain ⟨log'', hlog⟩ := hr log
  have hra : r = .ok a := (Prod.mk.inj (Prod.mk.inj (hlog.symm.trans h)).1).1
  rwa [hra] at hr

theorem Settled.ends_outcome (hx : x.Settled) : x.Ends x.outcome.1 := by
  obtain ⟨r, hr⟩ := hx
  rwa [hr.outcome]

theorem settled_forM {act : α → Logged PUnit} (h : ∀ a, (act a).Settled) (xs : List α) :
    (forM xs act).Settled := by
  induction xs with
  | nil => exact ⟨_, Run.ends_pure _ ()⟩
  | cons a xs ih =>
    rw [List.forM_cons]
    exact (h a).bind fun _ => ih

theorem settled_foldlM {g : β → α → Logged β} (h : ∀ b a, (g b a).Settled) (xs : List α) (b : β) :
    (xs.foldlM g b).Settled := by
  induction xs generalizing b with
  | nil => exact ⟨_, Run.ends_pure b ()⟩
  | cons a xs ih =>
    rw [List.foldlM_cons]
    exact (h b a).bind ih

theorem Gives.forM {act : α → Logged PUnit} {xs : List α} {u : PUnit} (h : (forM xs act).Gives u) :
    ∀ a ∈ xs, (act a).Gives ⟨⟩ := by
  induction xs with
  | nil => exact fun a ha => absurd ha List.not_mem_nil
  | cons a xs ih =>
    rw [List.forM_cons] at h
    obtain ⟨_, _, ha, hxs⟩ := h.bind
    exact List.forall_mem_cons.2 ⟨ha, ih hxs⟩

end Logged

/-! ## Questions to a finder -/

namespace Finding

/-- The question has an answer when one index is known, and another is known afterwards. -/
abbrev Gives (x : Finding α) (known : Option NameIndex) (a : α) (known' : Option NameIndex) :
    Prop :=
  Run.Gives x known a known'

/-- The question ends in this value or failure when one index is known, and another is known
afterwards. -/
abbrev Ends (x : Finding α) (known : Option NameIndex) (r : Except Failure α)
    (known' : Option NameIndex) : Prop :=
  Run.Ends x known r known'

variable {x : Finding α} {y : Logged α} {known known' : Option NameIndex} {a : α}

theorem gives_of_outcome (h : (x.outcome known).1 = .ok a) : ∃ known', x.Gives known a known' :=
  ⟨(x.outcome known).2.1, [], (x.outcome known).2.2, Prod.ext (Prod.ext h rfl) rfl⟩

theorem Ends.outcome {r : Except Failure α} (h : x.Ends known r known') :
    (x.outcome known).1 = r ∧ (x.outcome known).2.1 = known' := by
  obtain ⟨log', h⟩ := h []
  exact ⟨congrArg (·.1.1) h, congrArg (·.1.2) h⟩

theorem Ends.map {r : Except Failure α} (hx : x.Ends known r known') (h : α → β) :
    (h <$> x).Ends known (h <$> r) known' := by
  rw [map_eq_pure_bind, map_eq_pure_bind]
  exact hx.bind_kept fun a => Run.ends_pure (h a) known'

/-- A question without the index runs as the logged computation does. -/
theorem run_ofLogged (y : Logged α) (known : Option NameIndex) (log : List LogEntry) :
    Runs.run (ofLogged y).run known log = (((y.run.run log).1, known), (y.run.run log).2) := rfl

theorem Gives.ofLogged (h : (ofLogged y).Gives known a known') : y.Gives a ∧ known' = known := by
  obtain ⟨log, log', h⟩ := h
  rw [run_ofLogged] at h
  obtain ⟨hvalue, hlog⟩ := Prod.mk.inj h
  obtain ⟨hr, hknown⟩ := Prod.mk.inj hvalue
  exact ⟨Logged.gives_of_run (Prod.ext hr hlog), hknown.symm⟩

theorem Gives.ofExcept {r : Except Failure α} (h : (ofExcept r).Gives known a known') :
    r = .ok a ∧ known' = known := by
  obtain ⟨hr, hknown⟩ := Gives.ofLogged h
  exact ⟨Logged.gives_ofExcept.1 hr, hknown⟩

theorem Gives.get {index : Option NameIndex} (h : (get : Finding _).Gives known index known') :
    index = known ∧ known' = known := by
  obtain ⟨log, log', h⟩ := h
  obtain ⟨hr, hknown⟩ := Prod.mk.inj (Prod.mk.inj h).1
  exact ⟨(Except.ok.inj hr).symm, hknown.symm⟩

theorem Gives.set {index : Option NameIndex} {u : PUnit}
    (h : (set index : Finding PUnit).Gives known u known') :
    known' = index := by
  obtain ⟨log, log', h⟩ := h
  exact (Prod.mk.inj (Prod.mk.inj h).1).2.symm

theorem ends_get (known : Option NameIndex) : (get : Finding _).Ends known (.ok known) known :=
  fun log => ⟨log, rfl⟩

theorem ends_set (index known : Option NameIndex) :
    (set index : Finding PUnit).Ends known (.ok ⟨⟩) index :=
  fun log => ⟨log, rfl⟩

theorem ends_ofLogged {r : Except Failure α} (h : y.Ends r) (known : Option NameIndex) :
    (ofLogged y).Ends known r known := by
  intro log
  obtain ⟨log', h⟩ := h log
  have hvalue : (y.run.run log).1 = r := congrArg (·.1.1) h
  exact ⟨_, by rw [run_ofLogged, hvalue]⟩

theorem ends_ofExcept (r : Except Failure α) (known : Option NameIndex) :
    (ofExcept r).Ends known r known :=
  ends_ofLogged (Logged.ends_ofExcept r) known

end Finding

end SourceReach
