import SourceReach.Proofs.Outcome
import SourceReach.Proofs.Tables
import SourceReach.Standard

/-!
# Tables that are read have each key once

`Value.Distinct` says of a value that no table in it has a key twice. Every step of the reader that
changes a value keeps this, down to the tables inside lines, so it holds of all tables that are read
(`distinct_of_table`).
-/

namespace SourceReach.Toml

namespace Value

/-- No table in the value has a key twice. -/
inductive Distinct : Value → Prop where
  | plain {v : Value} (hplain : v.isPlain = true) : Distinct v
  | array {vs : List Value} (hparts : ∀ v ∈ vs, Distinct v) : Distinct (.array vs)
  | table {t : Table} (hkeys : t.keys.Nodup) (hparts : ∀ entry ∈ t, Distinct entry.2) : Distinct
    (.table t)

variable {v : Value} {vs : List Value} {t : Table} {key : Text}

theorem Distinct.keys (h : Distinct (.table t)) : t.keys.Nodup := by
  cases h with
  | plain hplain => exact absurd hplain Bool.false_ne_true
  | table hkeys _ => exact hkeys

theorem Distinct.of_entry (h : Distinct (.table t)) {entry : Text × Value} (hentry : entry ∈ t) :
    entry.2.Distinct := by
  cases h with
  | plain hplain => exact absurd hplain Bool.false_ne_true
  | table _ hparts => exact hparts entry hentry

theorem Distinct.of_get? (h : Distinct (.table t)) (hkey : t.get? key = some v) : v.Distinct :=
  h.of_entry (Table.mem_of_get? hkey)

theorem Distinct.of_mem (h : Distinct (.array vs)) (hv : v ∈ vs) : v.Distinct := by
  cases h with
  | plain hplain => exact absurd hplain Bool.false_ne_true
  | array hparts => exact hparts v hv

theorem distinct_nil : Distinct (.table []) :=
  .table List.nodup_nil fun _ hentry => absurd hentry List.not_mem_nil

theorem Distinct.set (h : Distinct (.table t)) (key : Text) (hv : v.Distinct) :
    Distinct (.table (t.set key v)) := by
  refine .table (Table.nodup_keys_set h.keys key v) fun entry hentry => ?_
  rcases Table.mem_set hentry with rfl | hmem
  · exact hv
  · exact h.of_entry hmem

theorem Distinct.concat (h : Distinct (.array vs)) (hv : v.Distinct) :
    Distinct (.array (vs ++ [v])) := by
  refine .array fun w hw => ?_
  rcases List.mem_append.1 hw with hw | hw
  · exact h.of_mem hw
  · rwa [List.mem_singleton.1 hw]

theorem Distinct.replaceLast (h : Distinct (.array vs)) (hv : v.Distinct) :
    Distinct (.array (vs.dropLast ++ [v])) := by
  have hfront : Distinct (.array vs.dropLast) :=
    .array fun w hw => h.of_mem (List.dropLast_subset _ hw)
  exact hfront.concat hv

/-- A computation gives such values only. -/
def Yields (r : Read Value) : Prop := ∀ v, r = .ok v → v.Distinct

/-- A change of a value, which gives something else besides, keeps its tables without double
keys. -/
def Keeps {α : Type} (f : Value → Read (Value × α)) : Prop :=
  ∀ v, v.Distinct → ∀ v' a, f v = .ok (v', a) → v'.Distinct

end Value

open Value (Distinct Yields Keeps)

/-! ## Values without parts -/

theorem wellFormed_eq_ok {α : Type} {a? : Option α} {a : α} :
    wellFormed a? = .ok a ↔ a? = some a := by
  cases a? with
  | none => exact iff_of_false nofun nofun
  | some b => rw [wellFormed, Except.ok.injEq, Option.some.injEq]

theorem Value.isPlain_ofPoints (ps : List CodePoint) : (ofPoints ps).isPlain = true := by
  unfold ofPoints
  cases CodePoint.text? ps <;> rfl

theorem Scalar.yields_quoted (quote : Char) (t : Text) : Yields (quoted quote t) := by
  intro v h
  unfold quoted at h
  obtain ⟨-, -, h⟩ := Except.bind_eq_ok.1 h
  dsimp only at h
  split_ifs at h
  all_goals
    obtain ⟨points, -, h⟩ := Except.bind_eq_ok.1 h
    rw [← Except.pure_eq_ok.1 h]
    exact .plain (Value.isPlain_ofPoints _)

theorem Scalar.yields_number (t : Text) : Yields (number t) := by
  intro v h
  rw [number, wellFormed_eq_ok] at h
  split_ifs at h
  all_goals
    obtain ⟨x, -, rfl⟩ := Option.map_eq_some_iff.1 h
    exact .plain rfl

theorem Scalar.yields_bare (numberAllowed : Bool) (t : Text) : Yields (bare numberAllowed t) := by
  intro v h
  unfold bare at h
  split at h
  · next r hclock =>
    obtain ⟨digits, -, rfl⟩ := Option.map_eq_some_iff.1 hclock
    obtain ⟨c, -, rfl⟩ := Option.map_eq_some_iff.1 (wellFormed_eq_ok.1 h)
    exact .plain rfl
  · obtain ⟨date, -, h⟩ := Except.bind_eq_ok.1 h
    cases date with
    | some m =>
      rw [← Except.pure_eq_ok.1 h]
      exact .plain rfl
    | none =>
      dsimp only at h
      split_ifs at h
      exact yields_number t v h

/-! ## Arrays, pairs and tables inside a line -/

namespace Collection

theorem distinct_of_elements {value : Text → Read Value} (hvalue : ∀ t, Yields (value t))
    {kind : Option Value.Kind}
    {parts : List Text} {vs : List Value} (h : elements value kind parts = .ok vs) :
    ∀ v ∈ vs, v.Distinct := by
  induction parts generalizing kind vs with
  | nil =>
    rw [← Except.ok.inj h]
    exact fun v hv => absurd hv List.not_mem_nil
  | cons part parts ih =>
    rw [elements] at h
    split_ifs at h
    · exact ih h
    · obtain ⟨v, hv, h⟩ := Except.bind_eq_ok.1 h
      dsimp only at h
      split_ifs at h
      · exact absurd h nofun
      obtain ⟨-, -, h⟩ := Except.bind_eq_ok.1 h
      obtain ⟨others, hothers, h⟩ := Except.bind_eq_ok.1 h
      rw [← Except.pure_eq_ok.1 h]
      exact List.forall_mem_cons.2 ⟨hvalue _ v hv, ih hothers⟩

theorem yields_array {value : Text → Read Value} (hvalue : ∀ t, Yields (value t)) (t : Text) :
    Yields (array value t) := by
  intro v h
  unfold array at h
  obtain ⟨parts, -, h⟩ := Except.bind_eq_ok.1 h
  obtain ⟨vs, hvs, h⟩ := Except.bind_eq_ok.1 h
  rw [← Except.pure_eq_ok.1 h]
  exact .array (distinct_of_elements hvalue hvs)

/-- Going down into tables, some of them new, is harmless when what is done there is. -/
theorem keeps_descend {α : Type} {f : Value → Read (Value × α)} (hf : Keeps f) (names : List Text) :
    Keeps (descend f names) := by
  induction names with
  | nil => exact hf
  | cons name names ih =>
    intro v hv v' a h
    cases v with
    | table t =>
      rw [descend] at h
      obtain ⟨⟨child, b⟩, hchild, h⟩ := Except.bind_eq_ok.1 h
      obtain ⟨rfl, -⟩ := Prod.mk.inj (Except.pure_eq_ok.1 h)
      have hold : Distinct ((Table.get? t name).getD (.table [])) := by
        cases hname : Table.get? t name with
        | none => exact Value.distinct_nil
        | some old => exact hv.of_get? hname
      exact hv.set name (ih _ hold child b hchild)
    | _ => exact absurd h nofun

theorem keeps_addNew (name : Text) {v : Value ⊕ Pending} (hv : ∀ w, v = .inl w → w.Distinct) :
    Keeps (addNew name v) := by
  intro level hlevel level' pending h
  cases level with
  | table t =>
    unfold addNew at h
    by_cases hhas : Table.has t name = true
    · exact absurd ((if_pos hhas).symm.trans h) nofun
    dsimp only at h
    rw [if_neg hhas] at h
    cases v with
    | inl w =>
      obtain ⟨rfl, -⟩ := Prod.mk.inj (Except.ok.inj h)
      exact hlevel.set name (hv w rfl)
    | inr p =>
      dsimp only at h
      split_ifs at h
      obtain ⟨rfl, -⟩ := Prod.mk.inj (Except.ok.inj h)
      exact hlevel
  | _ => exact absurd h nofun

variable {value : Bool → Text → Read Value}
  (hvalue : ∀ numberAllowed t, Yields (value numberAllowed t))

include hvalue

theorem keeps_pair (line : Text) : Keeps (pair value line) := by
  intro level hlevel level' pending h
  unfold pair at h
  obtain ⟨⟨key, t, numberAllowed⟩, -, h⟩ := Except.bind_eq_ok.1 h
  obtain ⟨⟨names, name⟩, -, h⟩ := Except.bind_eq_ok.1 h
  refine keeps_descend (fun v hv v' a h => ?_) names level hlevel level' pending h
  obtain ⟨goesOn, -, h⟩ := Except.bind_eq_ok.1 h
  cases goesOn with
  | true => exact keeps_addNew name (v := .inr (pend name t)) nofun v hv v' a h
  | false =>
    obtain ⟨w, hw, h⟩ := Except.bind_eq_ok.1 h
    obtain ⟨u, hu, rfl⟩ := Except.map_eq_ok.1 hw
    refine keeps_addNew name (fun u' hu' => ?_) v hv v' a h
    rw [← Sum.inl.inj hu']
    exact hvalue numberAllowed t u hu

theorem distinct_of_pairs {parts : List Text} {level level' : Value} (hlevel : level.Distinct)
    (h : pairs value parts level = .ok level') : level'.Distinct := by
  induction parts generalizing level with
  | nil => rwa [← Except.ok.inj h]
  | cons part parts ih =>
    rw [pairs] at h
    obtain ⟨⟨next, pending⟩, hnext, h⟩ := Except.bind_eq_ok.1 h
    have hdistinct := keeps_pair hvalue part level hlevel next pending hnext
    dsimp only at h
    split_ifs at h
    · rwa [← Except.pure_eq_ok.1 h]
    · exact ih hdistinct h

theorem distinct_of_inlineInto {t : Text} {level level' : Value} (hlevel : level.Distinct)
    (h : inlineInto value t level = .ok level') : level'.Distinct := by
  unfold inlineInto at h
  split at h
  · rwa [← Except.pure_eq_ok.1 h]
  · split_ifs at h
    · rwa [← Except.pure_eq_ok.1 h]
    · obtain ⟨parts, -, h⟩ := Except.bind_eq_ok.1 h
      exact distinct_of_pairs hvalue hlevel h
  · obtain ⟨parts, -, h⟩ := Except.bind_eq_ok.1 h
    exact distinct_of_pairs hvalue hlevel h

end Collection

namespace Reader

theorem yields_valueWithin (n : Nat) (numberAllowed : Bool) (t : Text) :
    Yields (valueWithin n numberAllowed t) := by
  induction n generalizing numberAllowed t with
  | zero => exact fun v h => absurd h nofun
  | succ n ih =>
    intro v h
    cases t with
    | nil => exact absurd h nofun
    | cons c s =>
      rw [valueWithin] at h
      split_ifs at h
      · rw [← Except.ok.inj h]
        exact .plain rfl
      · rw [← Except.ok.inj h]
        exact .plain rfl
      · exact Scalar.yields_quoted c _ v h
      · exact Collection.yields_array (ih true) _ v h
      · exact Collection.distinct_of_inlineInto ih Value.distinct_nil h
      · exact Scalar.yields_bare numberAllowed _ v h

theorem yields_value (numberAllowed : Bool) (t : Text) : Yields (value numberAllowed t) :=
  yields_valueWithin _ _ t

/-! ## Headers -/

/-- Changing the value at the end of a way is harmless when the change is. -/
theorem keeps_within {α : Type} {f : Value → Read (Value × α)} (hf : Keeps f) (way : List Step) :
    Keeps (within f way) := by
  induction way with
  | nil => exact hf
  | cons step way ih =>
    intro v hv v' a h
    cases step with
    | key name =>
      cases v with
      | table t =>
        rw [within] at h
        split at h
        · next child hchild =>
          obtain ⟨⟨child', b⟩, hwithin, h⟩ := Except.bind_eq_ok.1 h
          obtain ⟨rfl, -⟩ := Prod.mk.inj (Except.pure_eq_ok.1 h)
          exact hv.set name (ih child (hv.of_get? hchild) child' b hwithin)
        · exact absurd h nofun
      | _ => exact absurd h nofun
    | last =>
      cases v with
      | array vs =>
        rw [within] at h
        split at h
        · next child hchild =>
          obtain ⟨⟨child', b⟩, hwithin, h⟩ := Except.bind_eq_ok.1 h
          obtain ⟨rfl, -⟩ := Prod.mk.inj (Except.pure_eq_ok.1 h)
          exact hv.replaceLast (ih child (hv.of_mem (List.mem_of_getLast? hchild)) child' b hwithin)
        · exact absurd h nofun
      | _ => exact absurd h nofun

theorem distinct_fresh (isLast arrays : Bool) : (fresh isLast arrays).Distinct := by
  have hone : Distinct (.array [.table []]) := .array fun v hv => by
    rw [List.mem_singleton.1 hv]
    exact Value.distinct_nil
  unfold fresh
  split_ifs
  · exact hone
  · exact Value.distinct_nil

theorem distinct_of_reopened {arrays : Bool} {implicit implicit' : List Text}
    {t : Table} {name : Text}
    {child child' : Value} (hchild : child.Distinct)
    (h : reopened arrays implicit t name child = .ok (child', implicit')) :
    child'.Distinct := by
  unfold reopened at h
  split_ifs at h
  · obtain ⟨rfl, -⟩ := Prod.mk.inj (Except.ok.inj h)
    exact hchild
  · split at h
    · obtain ⟨rfl, -⟩ := Prod.mk.inj (Except.ok.inj h)
      exact hchild.concat Value.distinct_nil
    · exact absurd h nofun

theorem distinct_of_entered {arrays isLast : Bool} {implicit implicit' : List Text}
    {t : Table} {name : Text}
    {child : Value} (ht : Distinct (.table t))
    (h : entered arrays isLast implicit t name = .ok (child, implicit')) :
    child.Distinct := by
  unfold entered at h
  split at h
  · next old hold =>
    split_ifs at h
    · exact distinct_of_reopened (ht.of_get? hold) h
    · obtain ⟨rfl, -⟩ := Prod.mk.inj (Except.ok.inj h)
      exact ht.of_get? hold
  · obtain ⟨rfl, -⟩ := Prod.mk.inj (Except.ok.inj h)
    exact distinct_fresh isLast arrays

theorem keeps_into {α : Type} {go : Value → Read (Value × List Step × α)} (hgo : Keeps go)
    (arrays : Bool) :
    Keeps (into arrays go) := by
  intro child hchild child' a h
  unfold into at h
  split_ifs at h
  · split at h
    · exact hgo _ hchild child' a h
    · next vs =>
      split at h
      · exact absurd h nofun
      · next v hv =>
        obtain ⟨⟨v', way, b⟩, hv', h⟩ := Except.bind_eq_ok.1 h
        obtain ⟨rfl, -⟩ := Prod.mk.inj (Except.pure_eq_ok.1 h)
        exact hchild.replaceLast (hgo v (hchild.of_mem (List.mem_of_getLast? hv)) v' _ hv')
    · split at h
      · exact absurd h nofun
      · exact hgo _ (.plain rfl) child' a h
    · exact absurd h nofun
  · exact hgo child hchild child' a h

theorem keeps_follow (arrays : Bool) (names implicit : List Text) :
    Keeps (follow arrays names implicit) := by
  induction names generalizing implicit with
  | nil =>
    intro v hv v' a h
    obtain ⟨rfl, -⟩ := Prod.mk.inj (Except.ok.inj h)
    exact hv
  | cons name names ih =>
    intro v hv v' a h
    unfold follow at h
    dsimp only at h
    by_cases hname : name = []
    · rw [if_pos hname] at h
      obtain ⟨_, hthrow, _⟩ := Except.bind_eq_ok.1 h
      exact absurd hthrow nofun
    rw [if_neg hname] at h
    split at h
    · next t =>
      obtain ⟨⟨child, implicit'⟩, hchild, h⟩ := Except.bind_eq_ok.1 h
      obtain ⟨⟨child', way, implicit''⟩, hinto, h⟩ := Except.bind_eq_ok.1 h
      obtain ⟨rfl, -⟩ := Prod.mk.inj (Except.pure_eq_ok.1 h)
      exact hv.set name
        (keeps_into (ih implicit') arrays child (distinct_of_entered hv hchild) child' _ hinto)
    · next vs =>
      split at h
      · exact absurd h nofun
      · next t ht =>
        obtain ⟨⟨child', way, implicit''⟩, hinto, h⟩ := Except.bind_eq_ok.1 h
        obtain ⟨rfl, -⟩ := Prod.mk.inj (Except.pure_eq_ok.1 h)
        have hlast : Distinct (.table t) := hv.of_mem (List.mem_of_getLast? ht)
        have hchild : Distinct ((Table.get? t name).getD (fresh names.isEmpty arrays)) := by
          cases hname : Table.get? t name with
          | none => exact distinct_fresh _ _
          | some old => exact hlast.of_get? hname
        exact hv.replaceLast
          (hlast.set name (keeps_into (ih implicit) arrays _ hchild child' _ hinto))
      · exact absurd h nofun
    · exact absurd h nofun
    · exact absurd h nofun

/-! ## Lines -/

/-- What a header leads through is kept without double keys, and so is what it makes. -/
theorem distinct_of_header {s s' : State} {line : Text} (hs : s.root.Distinct)
    (h : header s line = .ok s') :
    s'.root.Distinct := by
  unfold header at h
  dsimp only at h
  split at h
  · obtain ⟨pieces, -, h⟩ := Except.bind_eq_ok.1 h
    obtain ⟨names, -, h⟩ := Except.bind_eq_ok.1 h
    obtain ⟨⟨root, a⟩, hfollow, h⟩ := Except.bind_eq_ok.1 h
    rw [← Except.pure_eq_ok.1 h]
    exact keeps_follow _ _ _ s.root hs root a hfollow
  · obtain ⟨pieces, -, h⟩ := Except.bind_eq_ok.1 h
    obtain ⟨names, -, h⟩ := Except.bind_eq_ok.1 h
    obtain ⟨⟨root, a⟩, hfollow, h⟩ := Except.bind_eq_ok.1 h
    rw [← Except.pure_eq_ok.1 h]
    exact keeps_follow _ _ _ s.root hs root a hfollow
  · obtain ⟨_, hthrow, _⟩ := Except.bind_eq_ok.1 h
    exact absurd hthrow nofun

theorem distinct_of_ordinary {s s' : State} {line : Text} (hs : s.root.Distinct)
    (h : ordinary s line = .ok s') :
    s'.root.Distinct := by
  have hinline : Keeps fun v =>
      (do return (← Collection.inlineInto value line v, ()) : Read (Value × Unit)) := by
    intro v hv v' a h
    obtain ⟨w, hw, h⟩ := Except.bind_eq_ok.1 h
    obtain ⟨rfl, -⟩ := Prod.mk.inj (Except.pure_eq_ok.1 h)
    exact Collection.distinct_of_inlineInto yields_value hv hw
  unfold ordinary at h
  dsimp only at h
  split at h
  · split_ifs at h
    · obtain ⟨_, hthrow, _⟩ := Except.bind_eq_ok.1 h
      exact absurd hthrow nofun
    · obtain ⟨⟨root, a⟩, hwithin, h⟩ := Except.bind_eq_ok.1 h
      rw [← Except.pure_eq_ok.1 h]
      exact keeps_within hinline s.level s.root hs root a hwithin
  · split_ifs at h
    · rwa [← Except.pure_eq_ok.1 h]
    · obtain ⟨⟨root, pending⟩, hwithin, h⟩ := Except.bind_eq_ok.1 h
      rw [← Except.pure_eq_ok.1 h]
      exact keeps_within (Collection.keeps_pair yields_value line) s.level s.root hs root
        pending hwithin

theorem keeps_assign (name : Text) {v : Value} (hv : v.Distinct) : Keeps (assign name v) := by
  intro level hlevel level' a h
  cases level with
  | table t =>
    obtain ⟨rfl, -⟩ := Prod.mk.inj (Except.ok.inj h)
    exact hlevel.set name hv
  | _ => exact absurd h nofun

theorem distinct_of_continued {s s' : State} {p : Pending} {line : Text} (hs : s.root.Distinct)
    (h : continued s p line = .ok s') : s'.root.Distinct := by
  unfold continued at h
  dsimp only at h
  generalize (if p.continued || !p.text.contains '\n' then Text.trim line else line) = part at h
  by_cases hpart : (decide (part = []) && p.continued) = true
  · rw [if_pos hpart] at h
    rwa [← Except.pure_eq_ok.1 h]
  rw [if_neg hpart] at h
  obtain ⟨closed, -, h⟩ := Except.bind_eq_ok.1 h
  cases closed with
  | true =>
    obtain ⟨v, hv, h⟩ := Except.bind_eq_ok.1 h
    obtain ⟨⟨root, a⟩, hwithin, h⟩ := Except.bind_eq_ok.1 h
    rw [← Except.pure_eq_ok.1 h]
    exact keeps_within (keeps_assign p.key (yields_value true _ v hv)) s.level s.root hs
      root a hwithin
  | false => rwa [← Except.pure_eq_ok.1 h]

theorem distinct_of_line {s s' : State} {t : Text} (hs : s.root.Distinct) (h : line s t = .ok s') :
    s'.root.Distinct := by
  unfold line at h
  split at h
  · exact distinct_of_continued hs h
  · dsimp only at h
    split_ifs at h
    · rwa [← Except.ok.inj h]
    · exact distinct_of_header hs h
    · exact distinct_of_ordinary hs h

theorem distinct_of_lines {s s' : State} {ts : List Text} (hs : s.root.Distinct)
    (h : ts.foldlM line s = .ok s') :
    s'.root.Distinct := by
  induction ts generalizing s with
  | nil => rwa [← Except.pure_eq_ok.1 h]
  | cons t ts ih =>
    rw [List.foldlM_cons] at h
    obtain ⟨next, hnext, h⟩ := Except.bind_eq_ok.1 h
    exact ih (distinct_of_line hs hnext) h

/-- No table in a settings file is read with a key twice. -/
theorem distinct_of_table {text : Text} {t : Table} (h : table text = .ok t) :
    Distinct (.table t) := by
  unfold table at h
  obtain ⟨ts, -, h⟩ := Except.bind_eq_ok.1 h
  obtain ⟨s, hlines, h⟩ := Except.bind_eq_ok.1 h
  have hroot : s.root.Distinct := distinct_of_lines (s := {}) Value.distinct_nil hlines
  split at h
  · next entries hentries =>
    rw [← Except.pure_eq_ok.1 h, ← hentries]
    exact hroot
  · exact absurd h nofun

end Reader

namespace Format

/-- What is read is a dictionary: no table in it has a key twice. -/
def ReadsDistinct (format : Format) : Prop :=
  ∀ text t, format.read text = .ok t → Value.Distinct (.table t)

theorem standard_readsDistinct : standard.ReadsDistinct := fun _ _ => Reader.distinct_of_table

end Format

end SourceReach.Toml
