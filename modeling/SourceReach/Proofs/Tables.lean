import Mathlib.Data.Option.Basic
import Mathlib.Tactic.SplitIfs
import SourceReach.Toml.Value

/-!
# Tables as dictionaries

A table is looked up by key, and the order of its keys is an accident of how it was read.
`Value.Equiv` compares values by their parts, so tables are equivalent when their keys have
equivalent values (`equiv_table_iff`). A value that is neither table nor array is equivalent to
itself only (`Equiv.eq_of_plain`).
-/

namespace SourceReach

theorem Option.Rel.of_refl {α : Type} {r : α → α → Prop} (h : ∀ a, r a a) (a : Option α) :
    Option.Rel r a a := by
  cases a with
  | none => exact .none
  | some a => exact .some (h a)

theorem Option.Rel.eq_none_iff {α β : Type} {r : α → β → Prop} {a : Option α} {b : Option β}
    (h : Option.Rel r a b) :
    a = none ↔ b = none := by
  cases h with
  | none => exact iff_of_true rfl rfl
  | some _ => exact iff_of_false nofun nofun

namespace Toml

namespace Table

variable {t : Table} {key other : Text} {v : Value}

def keys (t : Table) : List Text := t.map (·.1)

theorem get?_cons (k : Text) (w : Value) (t : Table) (key : Text) :
    get? ((k, w) :: t) key = if key = k then some w else t.get? key := by
  unfold get?
  by_cases h : key = k
  · rw [if_pos h, List.lookup_cons, beq_iff_eq.2 h]
  · rw [if_neg h, List.lookup_cons, beq_eq_false_iff_ne.2 h]

theorem get?_set (t : Table) (key other : Text) (v : Value) :
    (t.set key v).get? other = if other = key then some v else t.get? other := by
  by_cases h : other = key
  · rw [if_pos h, h, get?_set_self]
  · rw [if_neg h, get?_set_of_ne h]

theorem get?_erase (t : Table) (key other : Text) :
    (t.erase key).get? other = if other = key then none else t.get? other := by
  induction t with
  | nil => simp [erase, get?]
  | cons entry t ih =>
    rcases entry with ⟨k, w⟩
    unfold erase at ih ⊢
    by_cases hk : k = key
    · rw [List.filter_cons_of_neg (by simpa using hk), ih, get?_cons, hk]
      by_cases h : other = key
      · rw [if_pos h, if_pos h]
      · rw [if_neg h, if_neg h, if_neg h]
    · rw [List.filter_cons_of_pos (by simpa using hk), get?_cons, get?_cons, ih]
      by_cases h : other = k
      · rw [if_pos h, if_pos h, if_neg fun heq => hk (h.symm.trans heq)]
      · rw [if_neg h, if_neg h]

theorem eq_nil_iff : t = [] ↔ ∀ key, t.get? key = none := by
  constructor
  · rintro rfl key
    rfl
  · intro h
    rcases t with _ | ⟨⟨k, w⟩, t⟩
    · rfl
    · have hk := h k
      rw [get?_cons, if_pos rfl] at hk
      exact absurd hk nofun

theorem mem_of_get? (h : t.get? key = some v) : (key, v) ∈ t := by
  obtain ⟨front, back, rfl, -⟩ := List.lookup_eq_some_iff.1 h
  exact List.mem_append_right _ List.mem_cons_self

theorem keys_set (t : Table) (key : Text) (v : Value) :
    (t.set key v).keys = if key ∈ t.keys then t.keys else t.keys ++ [key] := by
  induction t with
  | nil => rfl
  | cons entry t ih =>
    rcases entry with ⟨k, w⟩
    rw [set]
    unfold keys at ih ⊢
    by_cases hk : k = key
    · simp [hk]
    · have hkey : key ≠ k := fun h => hk h.symm
      rw [if_neg hk, List.map_cons, ih, List.map_cons]
      by_cases hmem : key ∈ t.map (·.1) <;> simp [hkey, hmem]

theorem nodup_keys_set (h : t.keys.Nodup) (key : Text) (v : Value) : (t.set key v).keys.Nodup := by
  rw [keys_set]
  split_ifs with hmem
  · exact h
  · refine List.nodup_append.2 ⟨h, List.pairwise_singleton _ key, ?_⟩
    rintro k hk other hother rfl
    exact hmem (List.mem_singleton.1 hother ▸ hk)

theorem mem_set {entry : Text × Value} (h : entry ∈ t.set key v) :
    entry = (key, v) ∨ entry ∈ t := by
  induction t with
  | nil => exact Or.inl (List.mem_singleton.1 h)
  | cons first t ih =>
    rcases first with ⟨k, w⟩
    rw [set] at h
    split_ifs at h with hk
    · rcases List.mem_cons.1 h with rfl | hmem
      · exact Or.inl (by rw [hk])
      · exact Or.inr (List.mem_cons_of_mem _ hmem)
    · rcases List.mem_cons.1 h with rfl | hmem
      · exact Or.inr List.mem_cons_self
      · exact (ih hmem).imp_right (List.mem_cons_of_mem _)

end Table

namespace Value

/-! ## Equality is decided -/

/-- Whether two values are the same. -/
def same : Value → Value → Bool
  | null, null => true
  | text t, text u => t = u
  | unpaired ps, unpaired qs => ps = qs
  | int m, int n => m = n
  | float x, float y => x = y
  | bool b, bool c => b = c
  | moment m, moment n => m = n
  | array vs, array ws => sameList vs ws
  | table t, table u => sameEntries t u
  | _, _ => false
where
  /-- Whether two lists of values are the same. -/
  sameList : List Value → List Value → Bool
    | [], [] => true
    | v :: vs, w :: ws => same v w && sameList vs ws
    | _, _ => false
  /-- Whether two lists of keys with values are the same. -/
  sameEntries : List (Text × Value) → List (Text × Value) → Bool
    | [], [] => true
    | (k, v) :: t, (l, w) :: u => k = l && (same v w && sameEntries t u)
    | _, _ => false

mutual

theorem same_iff (v w : Value) : same v w = true ↔ v = w := by
  cases v with
  | array vs =>
    cases w with
    | array ws => rw [same, sameList_iff vs ws, array.injEq]
    | _ => simp [same]
  | table t =>
    cases w with
    | table u => rw [same, sameEntries_iff t u, table.injEq]
    | _ => simp [same]
  | _ => cases w <;> simp [same]

theorem sameList_iff (vs ws : List Value) : same.sameList vs ws = true ↔ vs = ws := by
  cases vs with
  | nil => cases ws <;> simp [same.sameList]
  | cons v vs =>
    cases ws with
    | nil => simp [same.sameList]
    | cons w ws =>
      rw [same.sameList, Bool.and_eq_true, same_iff v w, sameList_iff vs ws, List.cons.injEq]

theorem sameEntries_iff (t u : List (Text × Value)) : same.sameEntries t u = true ↔ t = u := by
  cases t with
  | nil => cases u <;> simp [same.sameEntries]
  | cons entry t =>
    rcases entry with ⟨k, v⟩
    cases u with
    | nil => simp [same.sameEntries]
    | cons entry' u =>
      rcases entry' with ⟨l, w⟩
      rw [same.sameEntries, Bool.and_eq_true, Bool.and_eq_true, decide_eq_true_iff, same_iff v w,
        sameEntries_iff t u, List.cons.injEq, Prod.mk.injEq, and_assoc]

end

instance : DecidableEq Value := fun v w => decidable_of_iff _ (same_iff v w)

/-! ## Equality up to the order of keys -/

/-- A step to a part of a value: down from a table by a key, or into an array by a position. -/
inductive PartStep where
  | key (name : Text)
  | position (n : Nat)

/-- The part of a value that some steps lead to. -/
def part? : List PartStep → Value → Option Value
  | [], v => some v
  | .key name :: way, .table t => (Table.get? t name).bind (part? way)
  | .position n :: way, .array vs => vs[n]?.bind (part? way)
  | _ :: _, _ => none

/-- What a value is without regard to its parts: of a table nothing is left, and of an array its
length. -/
def face : Value → Value
  | .table _ => .table []
  | .array vs => .array (vs.map fun _ => .null)
  | v => v

/-- Two values are the same up to the order of the keys in their tables. -/
def Equiv (v v' : Value) : Prop := ∀ way, (part? way v).map face = (part? way v').map face

/-- The value has no parts. -/
def isPlain : Value → Bool
  | .table _ | .array _ => false
  | _ => true

variable {v v' v'' : Value} {t t' : Table}

theorem Equiv.refl (v : Value) : v.Equiv v := fun _ => rfl

theorem Equiv.trans (h : v.Equiv v') (h' : v'.Equiv v'') : v.Equiv v'' :=
  fun way => (h way).trans (h' way)

theorem Equiv.face (h : v.Equiv v') : v.face = v'.face := Option.some.inj (h [])

theorem face_of_isPlain (h : v.isPlain = true) : v.face = v := by
  cases v <;> first | rfl | exact absurd h Bool.false_ne_true

theorem isPlain_face (v : Value) : v.face.isPlain = v.isPlain := by cases v <;> rfl

/-- Only tables and arrays have parts in which equivalent values can differ. -/
theorem Equiv.eq_of_plain (h : v.Equiv v') (hplain : v.isPlain = true) : v = v' := by
  have hplain' : v'.isPlain = true := by
    rw [← isPlain_face, ← h.face, isPlain_face, hplain]
  rw [← face_of_isPlain hplain, h.face, face_of_isPlain hplain']

theorem Equiv.isPlain_eq (h : v.Equiv v') : v.isPlain = v'.isPlain := by
  rw [← isPlain_face, h.face, isPlain_face]

/-- Tables are equivalent when they have the same keys with equivalent values. -/
theorem equiv_table_iff :
    (table t).Equiv (table t') ↔ ∀ key, Option.Rel Equiv (t.get? key) (t'.get? key) := by
  constructor
  · intro h key
    have hkey : ∀ way, ((t.get? key).bind (part? way)).map Value.face =
        ((t'.get? key).bind (part? way)).map Value.face := fun way => h (.key key :: way)
    cases hv : t.get? key with
    | none =>
      cases hv' : t'.get? key with
      | none => exact .none
      | some w' =>
        have hface := hkey []
        rw [hv, hv'] at hface
        exact absurd hface nofun
    | some w =>
      cases hv' : t'.get? key with
      | none =>
        have hface := hkey []
        rw [hv, hv'] at hface
        exact absurd hface nofun
      | some w' =>
        refine .some fun way => ?_
        have hway := hkey way
        rwa [hv, hv'] at hway
  · intro h way
    cases way with
    | nil => rfl
    | cons step way =>
      cases step with
      | position n => rfl
      | key name =>
        show ((t.get? name).bind (part? way)).map Value.face =
          ((t'.get? name).bind (part? way)).map Value.face
        have hname := h name
        generalize t.get? name = w, t'.get? name = w' at hname ⊢
        cases hname with
        | none => rfl
        | some hvalue => exact hvalue way

theorem equiv_erase {key : Text} (h : t.has key = false) :
    (table (t.erase key)).Equiv (.table t) := by
  have hnone : t.get? key = none := Option.not_isSome_iff_eq_none.1 (Bool.eq_false_iff.1 h)
  apply equiv_table_iff.2
  intro name
  rw [Table.get?_erase]
  split_ifs with hname
  · rw [hname, hnone]
    exact .none
  · exact Option.Rel.of_refl Equiv.refl _

theorem Equiv.table_of_table (h : (table t).Equiv v) : ∃ t', v = table t' := by
  have hface := h.face
  cases v <;> first | exact ⟨_, rfl⟩ | exact absurd hface nofun

theorem Equiv.isTruthy_eq (h : v.Equiv v') : v.isTruthy = v'.isTruthy := by
  by_cases hplain : v.isPlain = true
  · rw [h.eq_of_plain hplain]
  · cases v with
    | table t =>
      obtain ⟨t', rfl⟩ := h.table_of_table
      have hnil : t = [] ↔ t' = [] := by
        rw [Table.eq_nil_iff, Table.eq_nil_iff]
        exact forall_congr' fun key => Option.Rel.eq_none_iff (equiv_table_iff.1 h key)
      show (!t.isEmpty) = !t'.isEmpty
      rw [Bool.eq_iff_iff]
      simp [hnil]
    | array vs =>
      have hface := h.face
      cases v' with
      | array vs' =>
        have hlength := congrArg List.length (Value.array.inj hface)
        rw [List.length_map, List.length_map] at hlength
        have hnil : vs = [] ↔ vs' = [] := by
          rw [← List.length_eq_zero_iff, hlength, List.length_eq_zero_iff]
        show (!vs.isEmpty) = !vs'.isEmpty
        rw [Bool.eq_iff_iff]
        simp [hnil]
      | _ => exact absurd hface nofun
    | _ => exact absurd rfl hplain

end Value

end Toml

end SourceReach
