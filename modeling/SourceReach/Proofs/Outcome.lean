import SourceReach.Finder

/-!
# Results

A chain of steps gives a value just when each of its steps does, so the lemmas here take a given
value apart step by step. What can go wrong in a chain goes wrong in one of its steps
(`Except.FailsOnly.bind`).
-/

namespace SourceReach

variable {α β ε : Type}

/-- The failure has a message for the user. -/
def Failure.IsReported : Failure → Prop
  | configuration _ => True
  | defect _ => False

/-- The failure has no message for the user. -/
def Failure.IsDefect : Failure → Prop
  | configuration _ => False
  | defect _ => True

namespace Except

variable {r : Except ε α}

theorem pure_eq_ok {a b : α} : (pure a : Except ε α) = .ok b ↔ a = b := by
  rw [show (pure a : Except ε α) = .ok a from rfl, Except.ok.injEq]

theorem bind_eq_ok {g : α → Except ε β} {b : β} :
    (r >>= g) = .ok b ↔ ∃ a, r = .ok a ∧ g a = .ok b := by
  cases r with
  | error e => simp [bind, Except.bind]
  | ok a => simp [bind, Except.bind]

theorem map_eq_ok {g : α → β} {b : β} : r.map g = .ok b ↔ ∃ a, r = .ok a ∧ g a = b := by
  cases r with
  | error e => simp [Except.map]
  | ok a => simp [Except.map]

theorem map_eq_error {g : α → β} {e : ε} : r.map g = .error e ↔ r = .error e := by
  cases r with
  | error e' => simp [Except.map]
  | ok a => simp [Except.map]

theorem map_map {γ : Type} (r : Except ε α) (g : α → β) (h : β → γ) :
    (r.map g).map h = r.map fun a => h (g a) := by
  cases r with
  | error e => rfl
  | ok a => rfl

theorem eq_ok_of_toOption {a : α} (h : r.toOption = some a) : r = .ok a := by
  cases r with
  | error e => exact absurd h nofun
  | ok b => rw [Option.some.inj h]

theorem exists_eq_ok (h : r.toOption.isSome = true) : ∃ a, r = .ok a := by
  cases r with
  | error e => exact absurd h nofun
  | ok a => exact ⟨a, rfl⟩

theorem exists_eq_error (h : r.toOption.isSome = false) : ∃ e, r = .error e := by
  cases r with
  | error e => exact ⟨e, rfl⟩
  | ok a => exact absurd h nofun

theorem eq_of_toOption {r' : Except ε α} (h : r.toOption.isSome = true)
    (heq : r.toOption = r'.toOption) : r = r' := by
  obtain ⟨a, rfl⟩ := exists_eq_ok h
  exact (eq_ok_of_toOption heq.symm).symm

theorem mapM_ok (g : α → β) (xs : List α) :
    xs.mapM (fun x => (.ok (g x) : Except ε β)) = .ok (xs.map g) :=
  List.mapM_pure

theorem mapM_eq_ok {g : α → Except ε β} {f : α → β} {xs : List α} (h : ∀ x ∈ xs, g x = .ok (f x)) :
    xs.mapM g = .ok (xs.map f) := by
  induction xs with
  | nil => rfl
  | cons x xs ih =>
    obtain ⟨hx, hxs⟩ := List.forall_mem_cons.1 h
    rw [List.mapM_cons, hx, ih hxs]
    rfl

theorem mapM_eq_error {g : α → Except ε β} {before : List α} {x : α} {e : ε} (after : List α)
    (hbefore : ∀ y ∈ before, ∃ b, g y = .ok b) (hx : g x = .error e) :
    (before ++ x :: after).mapM g = .error e := by
  induction before with
  | nil =>
    rw [List.nil_append, List.mapM_cons, hx]
    rfl
  | cons y before ih =>
    obtain ⟨⟨b, hy⟩, hrest⟩ := List.forall_mem_cons.1 hbefore
    rw [List.cons_append, List.mapM_cons, hy, ih hrest]
    rfl

theorem forM_eq_ok {g : α → Except ε Unit} {xs : List α} :
    forM xs g = .ok () ↔ ∀ x ∈ xs, g x = .ok () := by
  induction xs with
  | nil => exact iff_of_true rfl nofun
  | cons x xs ih =>
    rw [List.forM_cons, bind_eq_ok, List.forall_mem_cons, ih]
    exact ⟨fun ⟨_, hx, hxs⟩ => ⟨hx, hxs⟩, fun ⟨hx, hxs⟩ => ⟨_, hx, hxs⟩⟩

theorem forM_eq_of_others {g : α → Except ε Unit} {xs : List α} (hxs : xs.Nodup)
    {x : α} (hx : x ∈ xs)
    (hothers : ∀ y ∈ xs, y ≠ x → g y = .ok ()) : forM xs g = g x := by
  induction xs with
  | nil => exact absurd hx List.not_mem_nil
  | cons y ys ih =>
    obtain ⟨hy, hys⟩ := List.nodup_cons.1 hxs
    rw [List.forM_cons]
    rcases List.mem_cons.1 hx with rfl | hx
    · have hrest : forM ys g = .ok () := forM_eq_ok.2 fun z hz =>
        hothers z (List.mem_cons_of_mem _ hz) fun heq => hy (heq ▸ hz)
      rw [hrest]
      cases g x <;> rfl
    · rw [hothers y List.mem_cons_self fun heq => hy (heq ▸ hx)]
      exact ih hys hx fun z hz => hothers z (List.mem_cons_of_mem _ hz)

theorem mem_of_mapM {g : α → Except ε β} {xs : List α} {ys : List β}
    (h : xs.mapM g = .ok ys) {y : β}
    (hy : y ∈ ys) : ∃ x ∈ xs, g x = .ok y := by
  induction xs generalizing ys with
  | nil =>
    rw [List.mapM_nil, pure_eq_ok] at h
    rw [← h] at hy
    exact absurd hy List.not_mem_nil
  | cons x xs ih =>
    rw [List.mapM_cons, bind_eq_ok] at h
    obtain ⟨first, hfirst, h⟩ := h
    obtain ⟨others, hothers, h⟩ := bind_eq_ok.1 h
    rw [← pure_eq_ok.1 h] at hy
    rcases List.mem_cons.1 hy with rfl | hy
    · exact ⟨x, List.mem_cons_self, hfirst⟩
    · obtain ⟨x', hx', hgx'⟩ := ih hothers hy
      exact ⟨x', List.mem_cons_of_mem _ hx', hgx'⟩

theorem exists_mem_of_mapM {g : α → Except ε β} {xs : List α} {ys : List β}
    (h : xs.mapM g = .ok ys) {x : α}
    (hx : x ∈ xs) : ∃ y ∈ ys, g x = .ok y := by
  induction xs generalizing ys with
  | nil => exact absurd hx List.not_mem_nil
  | cons first xs ih =>
    rw [List.mapM_cons, bind_eq_ok] at h
    obtain ⟨y, hy, h⟩ := h
    obtain ⟨others, hothers, h⟩ := bind_eq_ok.1 h
    rw [← pure_eq_ok.1 h]
    rcases List.mem_cons.1 hx with rfl | hx
    · exact ⟨y, List.mem_cons_self, hy⟩
    · obtain ⟨y', hy', hgx⟩ := ih hothers hx
      exact ⟨y', List.mem_cons_of_mem _ hy', hgx⟩

/-- When a function succeeds on some elements, one that follows it succeeds on fewer elements, and
gives no more. -/
theorem mapM_flatten_subset {g g' : α → Except ε (List β)} {xs xs' : List α} {lists : List (List β)}
    (hxs : xs' ⊆ xs) (hg : ∀ x ∈ xs', ∀ list, g x = .ok list →
      ∃ list', g' x = .ok list' ∧ list' ⊆ list)
    (h : xs.mapM g = .ok lists) :
    ∃ lists', xs'.mapM g' = .ok lists' ∧ lists'.flatten ⊆ lists.flatten := by
  induction xs' with
  | nil => exact ⟨[], rfl, List.nil_subset _⟩
  | cons x xs' ih =>
    obtain ⟨hx, hxs⟩ := List.cons_subset.1 hxs
    obtain ⟨hhead, htail⟩ := List.forall_mem_cons.1 hg
    obtain ⟨list, hlist, hgx⟩ := exists_mem_of_mapM h hx
    obtain ⟨list', hgx', hsub⟩ := hhead list hgx
    obtain ⟨lists', hmap, hrest⟩ := ih hxs htail
    refine ⟨list' :: lists', ?_, ?_⟩
    · rw [List.mapM_cons, hgx', hmap]
      rfl
    · rw [List.flatten_cons]
      exact List.append_subset.2 ⟨fun y hy => List.mem_flatten.2 ⟨list, hlist, hsub hy⟩, hrest⟩

theorem expected_eq_ok {r : Except AccessError α} {a : α} : expected r = .ok a ↔ r = .ok a := by
  cases r with
  | error e => exact iff_of_false nofun nofun
  | ok b => rw [show expected (.ok b) = .ok b from rfl, Except.ok.injEq, Except.ok.injEq]

/-! ### Errors -/

/-- Whatever goes wrong has the property. -/
def FailsOnly (p : ε → Prop) (r : Except ε α) : Prop := ∀ e, r = .error e → p e

variable {p : ε → Prop}

theorem failsOnly_ok (a : α) : FailsOnly p (.ok a) := fun _ h => absurd h nofun

theorem failsOnly_error {e : ε} (h : p e) : FailsOnly p (.error e : Except ε α) := by
  rintro _ ⟨⟩
  exact h

theorem failsOnly_error_iff {e : ε} : FailsOnly p (.error e : Except ε α) ↔ p e :=
  ⟨fun h => h e rfl, failsOnly_error⟩

theorem FailsOnly.bind_of_ok {g : α → Except ε β} (hr : FailsOnly p r)
    (hg : ∀ a, r = .ok a → FailsOnly p (g a)) :
    FailsOnly p (r >>= g) := by
  cases r with
  | error e => exact failsOnly_error (hr e rfl)
  | ok a => exact hg a rfl

theorem FailsOnly.bind {g : α → Except ε β} (hr : FailsOnly p r) (hg : ∀ a, FailsOnly p (g a)) :
    FailsOnly p (r >>= g) :=
  hr.bind_of_ok fun a _ => hg a

theorem failsOnly_map_iff {g : α → β} : FailsOnly p (r.map g) ↔ FailsOnly p r := by
  cases r with
  | error e => exact failsOnly_error_iff.trans failsOnly_error_iff.symm
  | ok a => exact iff_of_true (failsOnly_ok _) (failsOnly_ok _)

theorem FailsOnly.map (hr : FailsOnly p r) (g : α → β) : FailsOnly p (r.map g) :=
  failsOnly_map_iff.2 hr

theorem FailsOnly.ite {c : Prop} [Decidable c] {r' : Except ε α} (hr : FailsOnly p r)
    (hr' : FailsOnly p r') :
    FailsOnly p (if c then r else r') := by
  split
  · exact hr
  · exact hr'

theorem failsOnly_mapM {g : α → Except ε β} {xs : List α} (h : ∀ x ∈ xs, FailsOnly p (g x)) :
    FailsOnly p (xs.mapM g) := by
  induction xs with
  | nil => exact failsOnly_ok _
  | cons x xs ih =>
    obtain ⟨hx, hxs⟩ := List.forall_mem_cons.1 h
    rw [List.mapM_cons]
    exact hx.bind fun _ => (ih hxs).bind fun _ => failsOnly_ok _

theorem failsOnly_forM {g : α → Except ε Unit} {xs : List α} (h : ∀ x ∈ xs, FailsOnly p (g x)) :
    FailsOnly p (forM xs g) := by
  induction xs with
  | nil => exact failsOnly_ok _
  | cons x xs ih =>
    obtain ⟨hx, hxs⟩ := List.forall_mem_cons.1 h
    rw [List.forM_cons]
    exact hx.bind fun _ => ih hxs

end Except

end SourceReach
