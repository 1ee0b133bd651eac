import Mathlib.Data.List.Induction
import SourceReach.Proofs.Effective

/-!
# Values that fit

A value that is given for a key is taken, is refused with a message, or is a defect. Which of the
three is told by the value alone (`fits_iff`): where the other values are in order, saving it and
loading it come to just that (`save_map`, `ofConfiguration_set`), and where they all fit there is no
defect (`failsOnly_load`, `failsOnly_save`).
-/

namespace SourceReach

/-! ## Numbers that have been read -/

namespace Numeral

variable {base : Nat} {t : Text} {ds : List Nat} {n : Int}

theorem digitIn?_lt {c : Char} {d : Nat} (h : digitIn? base c = some d) : d < base := by
  have hfilter := (Option.filter_eq_some_iff.1 h).2
  simpa using hfilter

theorem digits?_lt (h : digits? base t = some ds) : ∀ d ∈ ds, d < base := by
  induction t using digits?.induct generalizing ds with
  | case1 => exact absurd h nofun
  | case2 c =>
    obtain ⟨d, hd, rfl⟩ := Option.map_eq_some_iff.1 h
    exact fun x hx => List.mem_singleton.1 hx ▸ digitIn?_lt hd
  | case3 c s ih =>
    obtain ⟨d, hd, h⟩ := Option.bind_eq_some_iff.1 h
    obtain ⟨rest, hrest, h⟩ := Option.bind_eq_some_iff.1 h
    rw [← Option.some.inj h]
    exact List.forall_mem_cons.2 ⟨digitIn?_lt hd, ih hrest⟩
  | case4 c d s hd ih =>
    rw [digits?.eq_4 _ _ _ _ hd] at h
    obtain ⟨d, hd, h⟩ := Option.bind_eq_some_iff.1 h
    obtain ⟨rest, hrest, h⟩ := Option.bind_eq_some_iff.1 h
    rw [← Option.some.inj h]
    exact List.forall_mem_cons.2 ⟨digitIn?_lt hd, ih hrest⟩

theorem value_lt (h : ∀ d ∈ ds, d < base) : value base ds < Nat.pow base ds.length := by
  induction ds using List.reverseRecOn with
  | nil => exact Nat.zero_lt_one
  | append_singleton ds d ih =>
    have hd : d < base := h d (by simp)
    have hds : value base ds + 1 ≤ Nat.pow base ds.length :=
      ih fun x hx => h x (List.mem_append_left _ hx)
    calc value base (ds ++ [d]) = value base ds * base + d := by simp [value]
      _ < value base ds * base + base := Nat.add_lt_add_left hd _
      _ = (value base ds + 1) * base := (Nat.succ_mul _ _).symm
      _ ≤ Nat.pow base ds.length * base := Nat.mul_le_mul_right base hds
      _ = Nat.pow base (ds ++ [d]).length := by rw [List.length_append, List.length_singleton]; rfl

-- The greatest number with a text is not to be worked out.
attribute [local irreducible] digitLimit

theorem hasText_of_int? (h : int? t = some n) : hasText n = true := by
  obtain ⟨m, hm, rfl⟩ := Option.map_eq_some_iff.1 h
  obtain ⟨ds, hds, hm⟩ := Option.bind_eq_some_iff.1 hm
  have hlength : ¬ digitLimit < ds.length := by
    intro hlong
    rw [if_pos hlong] at hm
    exact absurd hm nofun
  rw [if_neg hlength] at hm
  obtain rfl := Option.some.inj hm
  have hvalue : value 10 ds < Nat.pow 10 digitLimit :=
    calc value 10 ds < Nat.pow 10 ds.length := value_lt (digits?_lt hds)
      _ ≤ Nat.pow 10 digitLimit := Nat.pow_le_pow_right (by decide) (Nat.le_of_not_lt hlength)
  have habs : ∀ negative, (withSign negative (value 10 ds)).natAbs = value 10 ds := by
    intro negative
    cases negative <;> simp [withSign]
  rw [hasText, habs]
  exact decide_eq_true hvalue

end Numeral

namespace Settings

open Toml (Value Table)

variable {s s' : Settings} {key other : SettingKey} {v w : Value}
  {entries : List (SettingKey × Value)}
  {value : SettingKey → Value} {config : Table} {e : Failure}

/-! ## What is asked of one value -/

/-- The whole number that a value stands for. -/
def whole? : Value → Option Int
  | .int n => some n
  | .bool b => some (if b then 1 else 0)
  | .text t => Numeral.int? t
  | .float x@(.finite ..) => some x.toInt
  | _ => none

/-- A value that is taken as a count, or refused with a message: it is not infinite, and what is
refused has a text. -/
def FitsCount (v : Value) : Prop :=
  (∀ negative, v ≠ .float (.infinite negative)) ∧
    match whole? v with
    | some n => 1 ≤ n ∨ Numeral.hasText n = true
    | none => v.hasText = true

/-- Whether a command can be cut into words, if it is a string. -/
def splits : Value → Bool
  | .text t => (Shell.split? t).isSome
  | .unpaired ps => (Shell.splitPoints? ps).isSome
  | _ => true

/-- A value that is taken for its key, or refused with a message. -/
def Fits : SettingKey → Value → Prop
  | .maxDepth, v | .segments, v => FitsCount v
  | .extension, v => v.kind = .text
  | .diffCommand, v => splits v = true
  | .sourceRoot, _ | .strategy, _ => True

def checkOf : SettingKey → Value → Except Failure Unit
  | .maxDepth, v => checkCount .depthTooSmall v
  | .segments, v => checkCount .segmentsTooFew v
  | .strategy, v => if isStrategy v then .ok () else .error (.configuration .strategyInvalid)
  | .extension, v => checkExtension v
  | .diffCommand, v => if v.isTruthy then .ok () else .error (.configuration .diffCommandEmpty)
  | .sourceRoot, _ => .ok ()

/-- What becomes of a value that is given for a key: it is brought into the type of the key and
checked. -/
def accept (key : SettingKey) (v : Value) : Except Failure Unit := do checkOf key (← coerce key v)

theorem check_eq_forM (value : SettingKey → Value) :
    check value = forM SettingKey.all fun key => checkOf key (value key) := by
  simp only [check, SettingKey.all, List.forM_cons, List.forM_nil, checkOf]
  generalize checkCount .depthTooSmall (value .maxDepth) = depth,
    checkCount .segmentsTooFew (value .segments) = segments,
      checkExtension (value .extension) = extension
  cases depth <;> cases segments <;> cases isStrategy (value .strategy) <;> cases extension <;>
    cases (value .diffCommand).isTruthy <;> rfl

theorem failsOnly_checkCount_iff (error : Text → ConfigurationError) (n : Int) :
    Except.FailsOnly Failure.IsReported (checkCount error (.int n)) ↔
    1 ≤ n ∨ Numeral.hasText n = true := by
  have hcheck : checkCount error (.int n) = if n < 1 then
      .error (if Numeral.hasText n then .configuration (error (Value.int n).shown)
        else .defect .unwritable)
      else .ok () := by
    rw [checkCount, isBelowOne]
    by_cases hn : n < 1
    · rw [if_pos hn]
      show (if decide (n < 1) then _ else _) = _
      rw [if_pos (decide_eq_true hn)]
      rfl
    · rw [if_neg hn]
      show (if decide (n < 1) then _ else _) = _
      rw [if_neg (by simpa using hn)]
      rfl
  rw [hcheck]
  by_cases hn : n < 1
  · rw [if_pos hn, Except.failsOnly_error_iff]
    cases Numeral.hasText n with
    | true => exact iff_of_true trivial (Or.inr rfl)
    | false => exact iff_of_false id fun h => h.elim (fun h => absurd hn (by omega)) nofun
  · rw [if_neg hn]
    exact iff_of_true (Except.failsOnly_ok _) (Or.inl (by omega))

theorem integer_eq (key : SettingKey) (v : Value)
    (hfinite : ∀ negative, v ≠ .float (.infinite negative)) :
    integer key v = match whole? v with
      | some n => .ok n
      | none =>
        .error (if v.hasText then .configuration (.notAnInteger key.name v.shown)
            else .defect .unwritable) := by
  cases v with
  | text t =>
    rw [integer, whole?]
    cases Numeral.int? t <;> rfl
  | float x =>
    cases x with
    | infinite negative => exact absurd rfl (hfinite negative)
    | _ => rfl
  | _ => rfl

theorem fitsCount_iff (key : SettingKey) (error : Text → ConfigurationError) :
    Except.FailsOnly Failure.IsReported ((integer key v).map Value.int >>= checkCount error) ↔
    FitsCount v := by
  by_cases hfinite : ∀ negative, v ≠ .float (.infinite negative)
  · rw [integer_eq key v hfinite, FitsCount, and_iff_right hfinite]
    cases whole? v with
    | some n => exact failsOnly_checkCount_iff error n
    | none =>
      show Except.FailsOnly Failure.IsReported (.error _) ↔ _
      rw [Except.failsOnly_error_iff]
      cases v.hasText with
      | true => exact iff_of_true trivial rfl
      | false => exact iff_of_false id nofun
  · obtain ⟨negative, hv⟩ := not_forall.1 hfinite
    obtain rfl := not_not.1 hv
    exact iff_of_false (fun h => h _ rfl) fun h => h.1 negative rfl

/-- A value fits just when nothing goes wrong with it that is not reported. -/
theorem fits_iff : Except.FailsOnly Failure.IsReported (accept key v) ↔ Fits key v := by
  have hchecked : ∀ (c : Bool) (e : ConfigurationError),
      Except.FailsOnly Failure.IsReported (if c then .ok () else .error (.configuration e)) :=
        fun c e =>
    Except.FailsOnly.ite (Except.failsOnly_ok _) (Except.failsOnly_error trivial)
  cases key with
  | sourceRoot => exact iff_of_true (Except.failsOnly_ok _) trivial
  | maxDepth => exact fitsCount_iff .maxDepth _
  | segments => exact fitsCount_iff .segments _
  | strategy => exact iff_of_true (hchecked _ _) trivial
  | extension =>
    show Except.FailsOnly Failure.IsReported (checkExtension v) ↔ v.kind = .text
    cases v with
    | text t =>
      exact iff_of_true
        (Except.FailsOnly.ite (Except.failsOnly_ok _) (Except.failsOnly_error trivial)) rfl
    | unpaired ps =>
      exact iff_of_true
        (Except.FailsOnly.ite (Except.failsOnly_ok _) (Except.failsOnly_error trivial)) rfl
    | moment m => cases m <;> exact iff_of_false Except.failsOnly_error_iff.1 nofun
    | _ => exact iff_of_false (Except.failsOnly_error_iff.1) nofun
  | diffCommand =>
    have hcommand : ∀ words, Except.FailsOnly Failure.IsReported
      (command words >>= checkOf .diffCommand) ↔
        words.isSome = true := by
      intro words
      cases words with
      | none => exact iff_of_false Except.failsOnly_error_iff.1 nofun
      | some ws => exact iff_of_true (hchecked _ _) rfl
    have hkept : ∀ u, coerce .diffCommand u = .ok u →
        Except.FailsOnly Failure.IsReported (accept .diffCommand u) := by
      intro u hu
      rw [accept, hu]
      exact hchecked _ _
    cases v with
    | text t => exact (hcommand _).trans (by rw [Option.isSome_map]; rfl)
    | unpaired ps => exact (hcommand _).trans (by rw [Option.isSome_map]; rfl)
    | _ => exact iff_of_true (hkept _ rfl) rfl

/-- Every text fits, but for a command that cannot be cut into words. -/
theorem fits_text (key : SettingKey) (t : Text) :
    Fits key (.text t) ↔ (key = .diffCommand → (Shell.split? t).isSome = true) := by
  have hcount : FitsCount (.text t) := by
    refine ⟨nofun, ?_⟩
    rw [whole?]
    cases hn : Numeral.int? t with
    | some n => exact Or.inr (Numeral.hasText_of_int? hn)
    | none => rfl
  cases key with
  | maxDepth => exact iff_of_true hcount nofun
  | segments => exact iff_of_true hcount nofun
  | diffCommand => exact ⟨fun h _ => h, fun h => h rfl⟩
  | _ => exact iff_of_true (by trivial) nofun

theorem fits_unpaired (key : SettingKey) (ps : List CodePoint) :
    Fits key (.unpaired ps) ↔ (key = .diffCommand → (Shell.splitPoints? ps).isSome = true) := by
  cases key with
  | maxDepth => exact iff_of_true ⟨nofun, rfl⟩ nofun
  | segments => exact iff_of_true ⟨nofun, rfl⟩ nofun
  | diffCommand => exact ⟨fun h _ => h, fun h => h rfl⟩
  | _ => exact iff_of_true (by trivial) nofun

/-! ## One value among others -/

theorem checkOf_default (key : SettingKey) : checkOf key (({} : Settings).get key) = .ok () := by
  cases key <;> rfl

/-- When all other values are in order, what the check says is what it says of one value. -/
theorem check_of_others (h : ∀ other ≠ key, checkOf other (value other) = .ok ()) :
    check value = checkOf key (value key) := by
  rw [check_eq_forM]
  exact Except.forM_eq_of_others (by decide) (SettingKey.mem_all key) fun other _ hne => h other hne

theorem override_eq_error (hkeys : (entries.map (·.1)).Nodup) (h : s.override entries = .error e) :
    ∃ key v, entries.lookup key = some v ∧ coerce key v = .error e := by
  induction entries generalizing s with
  | nil => exact absurd h nofun
  | cons entry entries ih =>
    rcases entry with ⟨first, v⟩
    obtain ⟨hfirst, hkeys⟩ := List.nodup_cons.1 hkeys
    rw [override] at h
    cases hw : coerce first v with
    | error e' =>
      rw [hw] at h
      exact ⟨first, v, List.lookup_cons_self, hw.trans (congrArg Except.error (Except.error.inj h))⟩
    | ok w =>
      rw [hw] at h
      obtain ⟨key, u, hlookup, hu⟩ := ih hkeys h
      refine ⟨key, u, ?_, hu⟩
      have hne : key ≠ first := by
        rintro rfl
        obtain ⟨front, back, rfl, -⟩ := List.lookup_eq_some_iff.1 hlookup
        exact hfirst (by simp)
      rw [List.lookup_cons, beq_eq_false_iff_ne.2 hne]
      exact hlookup

/-- Values that fit are put into effect, or refused with a message. -/
theorem failsOnly_override (hkeys : (entries.map (·.1)).Nodup)
    (hfits : ∀ key v, entries.lookup key = some v → Fits key v) :
    Except.FailsOnly Failure.IsReported (({} : Settings).override entries >>= validate) := by
  have haccept : ∀ key v, entries.lookup key = some v →
      Except.FailsOnly Failure.IsReported (accept key v) :=
    fun key v hv => fits_iff.2 (hfits key v hv)
  refine Except.FailsOnly.bind_of_ok (fun e he => ?_) fun s hs => ?_
  · obtain ⟨key, v, hv, he⟩ := override_eq_error hkeys he
    refine haccept key v hv e ?_
    rw [accept, he]
    rfl
  · have hget := (override_eq_ok hkeys).1 hs
    refine Except.FailsOnly.bind ?_ fun _ => Except.failsOnly_ok _
    rw [check_eq_forM]
    refine Except.failsOnly_forM fun key _ => ?_
    cases hv : entries.lookup key with
    | none =>
      have hdefault := hget key
      rw [hv] at hdefault
      rw [← Except.ok.inj hdefault, checkOf_default]
      exact Except.failsOnly_ok _
    | some v =>
      have hcoerce := hget key
      rw [hv] at hcoerce
      have hkey := haccept key v hv
      rwa [accept, show coerce key v = .ok (s.get key) from hcoerce] at hkey

/-- When one value is given over settings that are in order, it is what decides. -/
theorem override_validate (hkeys : (entries.map (·.1)).Nodup) (hcheck : check s.get = .ok ())
    (hvalues : ∀ other, effective {} other (entries.lookup other) =
      if other = key then coerce key v else .ok (s.get other)) :
    (({} : Settings).override entries >>= validate).map (fun _ => ()) = accept key v := by
  rw [check_eq_forM] at hcheck
  have hothers : ∀ other, checkOf other (s.get other) = .ok () := fun other =>
    Except.forM_eq_ok.1 hcheck other (SettingKey.mem_all other)
  cases hv : coerce key v with
  | error e =>
    rw [accept, hv]
    cases hoverride : ({} : Settings).override entries with
    | ok s' =>
      have hget := (override_eq_ok hkeys).1 hoverride key
      rw [hvalues, if_pos rfl, hv] at hget
      exact absurd hget nofun
    | error e' =>
      -- No other value can have failed.
      obtain ⟨other, u, hu, he'⟩ := override_eq_error hkeys hoverride
      have heffective := hvalues other
      rw [hu, effective, he'] at heffective
      split_ifs at heffective
      rw [hv] at heffective
      exact congrArg Except.error (Except.error.inj heffective)
  | ok w =>
    have hvalues' : ∀ other,
        effective {} other (entries.lookup other) =
          .ok (if other = key then w else s.get other) := by
      intro other
      rw [hvalues, hv]
      split_ifs <;> rfl
    obtain ⟨s', hs'⟩ := exists_get hvalues'
    have hoverride : ({} : Settings).override entries = .ok s' :=
      (override_eq_ok hkeys).2 fun other => by rw [hvalues', hs']
    have hkey : check s'.get = checkOf key w := by
      have hw : s'.get key = w := by rw [hs', if_pos rfl]
      rw [← hw]
      refine check_of_others fun other hne => ?_
      rw [hs', if_neg hne]
      exact hothers other
    rw [hoverride, accept, hv]
    show (validate s').map _ = checkOf key w
    rw [validate, hkey]
    cases checkOf key w <;> rfl

theorem failsOnly_load (h : Sectioned config)
    (hfits : ∀ key v, (sectionOf config).get? key.name = some v → Fits key v) :
    Except.FailsOnly Failure.IsReported (ofConfiguration config) := by
  rw [ofConfiguration, h.entries_eq]
  exact failsOnly_override (nodup_listedEntries _) fun key v hv =>
    hfits key v (by rwa [← lookup_listedEntries])

theorem save_eq_map (h : Sectioned config) (hw : coerce key v = .ok w) :
    save config key v =
      (({} : Settings).override (storedEntries ((sectionOf config).set key.name w)) >>=
        validate).map
      fun s => (s, config.set sectionName (.table ((sectionOf config).set key.name w))) := by
  unfold save
  rw [hw]
  show (setIn (config.get? sectionName) key w >>= _) = _
  rw [h.setIn_eq]
  show (({} : Settings).override (storedEntries ((sectionOf config).set key.name w)) >>= _) = _
  cases ({} : Settings).override (storedEntries ((sectionOf config).set key.name w)) with
  | error e => rfl
  | ok s' =>
    show (validate s' >>= _) = (validate s').map _
    cases validate s' <;> rfl

theorem failsOnly_save (h : Sectioned config) (hkeys : (sectionOf config).keys.Nodup)
    (hfits : ∀ key v, (sectionOf config).get? key.name = some v → Fits key v) (hv : Fits key v) :
    Except.FailsOnly Failure.IsReported (save config key v) := by
  have haccept := fits_iff.2 hv
  cases hw : coerce key v with
  | error e =>
    rw [save, hw]
    refine Except.failsOnly_error (haccept e ?_)
    rw [accept, hw]
    rfl
  | ok w =>
    have hkey : Fits key w := fits_iff.1 (by rwa [accept, hw, ← coerce_coerced hw] at haccept)
    have hvalues : ∀ other u, (storedEntries ((sectionOf config).set key.name w)).lookup other =
      some u →
        Fits other u := by
      intro other u hu
      rw [lookup_storedEntries, Table.get?_set] at hu
      split_ifs at hu with hname
      · rw [name_injective hname, ← Option.some.inj hu]
        exact hkey
      · exact hfits other u hu
    rw [save_eq_map h hw]
    exact (failsOnly_override (nodup_storedEntries (Table.nodup_keys_set hkeys key.name w))
      hvalues).map _

variable (h : Sectioned config) (hload : ofConfiguration config = .ok s)

include h hload

/-- Loading a configuration with another value for a key comes to what is said of the value. -/
theorem ofConfiguration_set (key : SettingKey) (v : Value) :
    (ofConfiguration (config.set sectionName (.table ((sectionOf config).set key.name v)))).map
      (fun _ => ()) =
      accept key v := by
  obtain ⟨hstored, hcheck⟩ := (ofConfiguration_eq_ok h).1 hload
  rw [ofConfiguration, (sectioned_set _ _).entries_eq, sectionOf_set]
  refine override_validate (nodup_listedEntries _) hcheck fun other => ?_
  rw [lookup_listedEntries, Table.get?_set]
  by_cases hother : other = key
  · subst hother
    rw [if_pos rfl, if_pos rfl, effective]
  · rw [if_neg fun hname => hother (name_injective hname), if_neg hother, hstored other]

theorem save_map (hkeys : (sectionOf config).keys.Nodup) (key : SettingKey) (v : Value) :
    (save config key v).map (fun _ => ()) = accept key v := by
  obtain ⟨hstored, hcheck⟩ := (ofConfiguration_eq_ok h).1 hload
  cases hw : coerce key v with
  | error e =>
    rw [save, accept, hw]
    rfl
  | ok w =>
    have hvalues : ∀ other,
      effective {} other ((storedEntries ((sectionOf config).set key.name w)).lookup other) =
        if other = key then coerce key w else .ok (s.get other) := by
      intro other
      rw [lookup_storedEntries, effective_set hstored hw, coerce_coerced hw]
      split_ifs <;> rfl
    have hvalidate := override_validate
      (nodup_storedEntries (Table.nodup_keys_set hkeys key.name w)) hcheck hvalues
    have haccept : accept key w = accept key v := by rw [accept, accept, hw, coerce_coerced hw]
    rw [save_eq_map h hw, Except.map_map, hvalidate, haccept]

end Settings

end SourceReach
