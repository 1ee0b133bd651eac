import Mathlib.Tactic.Choose
import SourceReach.Proofs.Outcome
import SourceReach.Proofs.Tables
import SourceReach.Settings.Basic

/-!
# The settings in effect

What the settings have for a key is told by what is stored for it: the coerced value, or the default
where nothing is stored (`ofConfiguration_eq_ok`). The order of the stored keys makes no difference,
so equivalent configurations put equivalent settings into effect (`exists_ofConfiguration`), and
saving a key changes what the settings have for this key and nothing else (`save_eq_ok`).
-/

namespace SourceReach.Settings

open Toml (Value Table)

variable {s s' : Settings} {key other : SettingKey} {v w : Value} {config config' : Table}
  {entries : List (SettingKey × Value)}

/-! ## Values of keys -/

theorem get_ext (h : ∀ key, s.get key = s'.get key) : s = s' := by
  have hdepth : s.maxDepth = s'.maxDepth := Value.int.inj (h .maxDepth)
  have hsegments : s.segments = s'.segments := Value.int.inj (h .segments)
  have hroot : s.sourceRoot = s'.sourceRoot := h .sourceRoot
  have hstrategy : s.strategy = s'.strategy := h .strategy
  have hextension : s.extension = s'.extension := h .extension
  have hcommand : s.diffCommand = s'.diffCommand := h .diffCommand
  cases s
  cases s'
  simp_all

theorem exists_int_of_coerce (hkey : key = .maxDepth ∨ key = .segments) (h : coerce key v = .ok w) :
    ∃ n, w = .int n := by
  have hint : (integer key v).map Value.int = .ok w := by
    rcases hkey with rfl | rfl
    · exact h
    · exact h
  obtain ⟨n, -, rfl⟩ := Except.map_eq_ok.1 hint
  exact ⟨n, rfl⟩

theorem command_eq_ok {words : Option (List Value)} :
    command words = .ok w ↔ ∃ ws, words = some ws ∧ .array ws = w := by
  cases words <;> simp [command]

theorem coerce_coerced (h : coerce key v = .ok w) : coerce key w = .ok w := by
  by_cases hkey : key = .maxDepth ∨ key = .segments
  · obtain ⟨n, rfl⟩ := exists_int_of_coerce hkey h
    rcases hkey with rfl | rfl <;> rfl
  · cases key with
    | maxDepth => exact absurd (Or.inl rfl) hkey
    | segments => exact absurd (Or.inr rfl) hkey
    | diffCommand =>
      have hcommand : ∀ {words}, command words = .ok w → coerce .diffCommand w = .ok w := by
        intro words h
        obtain ⟨ws, -, rfl⟩ := command_eq_ok.1 h
        rfl
      cases v with
      | text t => exact hcommand h
      | unpaired ps => exact hcommand h
      | _ =>
        rw [← Except.ok.inj h]
        rfl
    | _ => rfl

theorem get_put (h : coerce key v = .ok w) :
    (s.put key w).get other = if other = key then w else s.get other := by
  by_cases hkey : key = .maxDepth ∨ key = .segments
  · obtain ⟨n, rfl⟩ := exists_int_of_coerce hkey h
    rcases hkey with rfl | rfl <;> cases other <;> rfl
  · cases key with
    | maxDepth => exact absurd (Or.inl rfl) hkey
    | segments => exact absurd (Or.inr rfl) hkey
    | _ => cases other <;> rfl

/-! ## Overriding -/

/-- The value that takes effect for a key when some value, or none, is given over settings. -/
def effective (base : Settings) (key : SettingKey) : Option Value → Except Failure Value
  | none => .ok (base.get key)
  | some v => coerce key v

/-- What the settings have for a key once the entries are over them, in whatever order the keys
come. -/
theorem override_eq_ok (hkeys : (entries.map (·.1)).Nodup) :
    s.override entries = .ok s' ↔ ∀ key, effective s key (entries.lookup key) =
      .ok (s'.get key) := by
  induction entries generalizing s with
  | nil =>
    rw [override, Except.ok.injEq]
    constructor
    · rintro rfl key
      rfl
    · exact fun h => get_ext fun key => Except.ok.inj (h key)
  | cons entry entries ih =>
    rcases entry with ⟨first, v⟩
    obtain ⟨hfirst, hkeys⟩ := List.nodup_cons.1 hkeys
    have hlookup : entries.lookup first = none := by
      rw [← Option.not_isSome_iff_eq_none, List.lookup_isSome_iff]
      rintro ⟨entry, hentry, heq⟩
      exact hfirst (List.mem_map.2 ⟨entry, hentry, (beq_iff_eq.1 heq).symm⟩)
    have hcons : ∀ key, ((first, v) :: entries).lookup key = if key = first then some v
        else entries.lookup key := by
      intro key
      by_cases h : key = first
      · rw [if_pos h, List.lookup_cons, beq_iff_eq.2 h]
      · rw [if_neg h, List.lookup_cons, beq_eq_false_iff_ne.2 h]
    -- A key that is not the first one is looked up in the rest, where the first one is not.
    have hstep : ∀ {w}, coerce first v = .ok w → ∀ key,
        effective (s.put first w) key (entries.lookup key) =
          effective s key (((first, v) :: entries).lookup key) := by
      intro w hw key
      rw [hcons]
      by_cases h : key = first
      · subst h
        rw [hlookup, if_pos rfl, effective, get_put hw, if_pos rfl]
        exact hw.symm
      · rw [if_neg h]
        cases entries.lookup key with
        | none => rw [effective, effective, get_put hw, if_neg h]
        | some u => rfl
    rw [override, Except.bind_eq_ok]
    constructor
    · rintro ⟨w, hw, h⟩ key
      rw [← hstep hw]
      exact (ih hkeys).1 h key
    · intro h
      have hw : coerce first v = .ok (s'.get first) := by
        have hkey := h first
        rwa [hcons, if_pos rfl] at hkey
      refine ⟨s'.get first, hw, (ih hkeys).2 fun key => ?_⟩
      rw [hstep hw]
      exact h key

theorem exists_int_of_effective (hkey : key = .maxDepth ∨ key = .segments) {given : Option Value}
    (h : effective s key given = .ok w) : ∃ n, w = .int n := by
  cases given with
  | some v => exact exists_int_of_coerce hkey h
  | none =>
    rw [← Except.ok.inj h]
    rcases hkey with rfl | rfl <;> exact ⟨_, rfl⟩

/-- There are settings for every choice of values that can take effect. -/
theorem exists_get {value : SettingKey → Value} {given : SettingKey → Option Value}
    (h : ∀ key, effective s key (given key) = .ok (value key)) : ∃ s' :
    Settings, ∀ key, s'.get key = value key := by
  obtain ⟨depth, hdepth⟩ := exists_int_of_effective (Or.inl rfl) (h .maxDepth)
  obtain ⟨segments, hsegments⟩ := exists_int_of_effective (Or.inr rfl) (h .segments)
  refine ⟨{ sourceRoot := value .sourceRoot, maxDepth := depth, segments,
            strategy := value .strategy, extension := value .extension,
            diffCommand := value .diffCommand }, fun key => ?_⟩
  cases key with
  | maxDepth => exact hdepth.symm
  | segments => exact hsegments.symm
  | _ => rfl

/-! ## Stored values -/

theorem lookup_filterMap_keys (f : SettingKey → Option Value) (key : SettingKey)
    (keys : List SettingKey) :
    (keys.filterMap fun k => (f k).map (k, ·)).lookup key = if key ∈ keys then f key else none := by
  induction keys with
  | nil => rfl
  | cons k keys ih =>
    by_cases hk : key = k
    · subst hk
      rw [if_pos List.mem_cons_self]
      cases hf : f key with
      | none =>
        rw [List.filterMap_cons_none (by rw [hf]; rfl), ih, hf, ite_self]
      | some v =>
        rw [List.filterMap_cons_some (by rw [hf]; rfl), List.lookup_cons_self]
    · have hmem : key ∈ k :: keys ↔ key ∈ keys := by simp [hk]
      simp only [hmem]
      cases hf : f k with
      | none => rw [List.filterMap_cons_none (by rw [hf]; rfl), ih]
      | some v =>
        rw [List.filterMap_cons_some (by rw [hf]; rfl), List.lookup_cons, beq_eq_false_iff_ne.2 hk]
        exact ih

theorem lookup_listedEntries (t : Table) (key : SettingKey) :
    (listedEntries t).lookup key = t.get? key.name := by
  rw [listedEntries, lookup_filterMap_keys fun k => t.get? k.name, if_pos (SettingKey.mem_all key)]

theorem nodup_listedEntries (t : Table) : ((listedEntries t).map (·.1)).Nodup := by
  have hsub : List.Sublist ((listedEntries t).map (·.1)) SettingKey.all := by
    unfold listedEntries
    induction SettingKey.all with
    | nil => exact List.Sublist.refl _
    | cons k keys ih =>
      cases hk : t.get? k.name with
      | none =>
        rw [List.filterMap_cons_none (by rw [hk]; rfl)]
        exact ih.cons k
      | some v =>
        rw [List.filterMap_cons_some (by rw [hk]; rfl), List.map_cons]
        exact ih.cons_cons k
  exact hsub.nodup (by decide)

theorem name_eq_of_ofName? {t : Text} (h : SettingKey.ofName? t = some key) : key.name = t := by
  unfold SettingKey.ofName? at h
  have hfound := List.find?_some h
  exact of_decide_eq_true hfound

theorem name_injective (h : key.name = other.name) : key = other := by
  have hname := congrArg SettingKey.ofName? h
  rw [SettingKey.ofName?_name, SettingKey.ofName?_name] at hname
  exact Option.some.inj hname

theorem lookup_storedEntries (t : Table) (key : SettingKey) :
    (storedEntries t).lookup key = t.get? key.name := by
  induction t with
  | nil => rfl
  | cons entry t ih =>
    rcases entry with ⟨name, v⟩
    rw [storedEntries, Table.get?_cons]
    unfold storedEntries at ih
    cases hname : SettingKey.ofName? name with
    | none =>
      have hne : key.name ≠ name := by
        rintro rfl
        exact absurd ((SettingKey.ofName?_name key).symm.trans hname) nofun
      rw [List.filterMap_cons_none (by rw [hname]; rfl), ih, if_neg hne]
    | some first =>
      obtain rfl := name_eq_of_ofName? hname
      rw [List.filterMap_cons_some (by rw [hname]; rfl), List.lookup_cons]
      by_cases hkey : key = first
      · rw [hkey, if_pos rfl, beq_self_eq_true]
      · have hne : key.name ≠ first.name := fun heq => hkey (name_injective heq)
        rw [if_neg hne, beq_eq_false_iff_ne.2 hkey]
        exact ih

theorem nodup_storedEntries {t : Table} (ht : t.keys.Nodup) :
    ((storedEntries t).map (·.1)).Nodup := by
  induction t with
  | nil => exact List.nodup_nil
  | cons entry t ih =>
    rcases entry with ⟨name, v⟩
    obtain ⟨hname, ht⟩ := List.nodup_cons.1 ht
    unfold storedEntries at ih ⊢
    cases hkey : SettingKey.ofName? name with
    | none =>
      rw [List.filterMap_cons_none (by rw [hkey]; rfl)]
      exact ih ht
    | some key =>
      rw [List.filterMap_cons_some (by rw [hkey]; rfl), List.map_cons]
      refine List.nodup_cons.2 ⟨fun hmem => ?_, ih ht⟩
      obtain ⟨⟨k, w⟩, hstored, rfl⟩ := List.mem_map.1 hmem
      obtain ⟨⟨other, u⟩, hentry, hsome⟩ := List.mem_filterMap.1 hstored
      obtain ⟨k', hk', heq⟩ := Option.map_eq_some_iff.1 hsome
      obtain ⟨rfl, rfl⟩ := Prod.mk.inj heq
      have hsame : other = name := (name_eq_of_ofName? hk').symm.trans (name_eq_of_ofName? hkey)
      exact hname (List.mem_map.2 ⟨(other, u), hentry, hsame⟩)

/-! ## Sections -/

/-- The section, if there is one, is a table. -/
def Sectioned (config : Table) : Prop := ∀ v, config.get? sectionName = some v → ∃ t, v = .table t

/-- The entries of the section; a configuration without section has none. -/
def sectionOf (config : Table) : Table :=
  match config.get? sectionName with
  | some (.table t) => t
  | _ => []

theorem validate_eq_ok : s.validate = .ok s' ↔ check s.get = .ok () ∧ s = s' := by
  unfold validate
  rw [Except.bind_eq_ok]
  constructor
  · rintro ⟨⟨⟩, hcheck, h⟩
    exact ⟨hcheck, Except.pure_eq_ok.1 h⟩
  · rintro ⟨hcheck, rfl⟩
    exact ⟨(), hcheck, rfl⟩

theorem Sectioned.cases (h : Sectioned config) :
    (config.get? sectionName = none ∧ sectionOf config = []) ∨
      config.get? sectionName = some (.table (sectionOf config)) := by
  cases hv : config.get? sectionName with
  | none => exact Or.inl ⟨rfl, by rw [sectionOf, hv]⟩
  | some v =>
    obtain ⟨t, rfl⟩ := h v hv
    refine Or.inr ?_
    rw [sectionOf, hv]

theorem Sectioned.entries_eq (h : Sectioned config) :
    Settings.entries (config.get? sectionName) = .ok (listedEntries (sectionOf config)) := by
  rcases h.cases with ⟨hnone, hnil⟩ | hsome
  · rw [hnone, hnil]
    rfl
  · rw [hsome]
    rfl

theorem Sectioned.setIn_eq (h : Sectioned config) (key : SettingKey) (w : Value) :
    setIn (config.get? sectionName) key w = .ok (Table.set (sectionOf config) key.name w) := by
  rcases h.cases with ⟨hnone, hnil⟩ | hsome
  · rw [hnone, hnil]
    rfl
  · rw [hsome]
    rfl

/-- The settings that a configuration puts into effect are the stored values over the defaults, if
they pass the check. -/
theorem ofConfiguration_eq_ok (h : Sectioned config) :
    ofConfiguration config = .ok s ↔
      (∀ key, effective {} key ((sectionOf config).get? key.name) = .ok (s.get key)) ∧
      check s.get = .ok () := by
  have hoverride : ({} : Settings).override (listedEntries (sectionOf config)) = .ok s ↔
      ∀ key, effective {} key ((sectionOf config).get? key.name) = .ok (s.get key) := by
    rw [override_eq_ok (nodup_listedEntries _)]
    simp only [lookup_listedEntries]
  rw [ofConfiguration, h.entries_eq, ← hoverride]
  show (({} : Settings).override (listedEntries (sectionOf config)) >>= validate) = .ok s ↔ _
  rw [Except.bind_eq_ok]
  constructor
  · rintro ⟨s', hs', hvalid⟩
    obtain ⟨hcheck, rfl⟩ := validate_eq_ok.1 hvalid
    exact ⟨hs', hcheck⟩
  · rintro ⟨hs, hcheck⟩
    exact ⟨s, hs, validate_eq_ok.2 ⟨hcheck, rfl⟩⟩

/-- Without the section the defaults are in effect. -/
theorem ofConfiguration_erase (config : Table) :
    Sectioned (config.erase sectionName) ∧ ofConfiguration (config.erase sectionName) = .ok {} := by
  have hnone : (config.erase sectionName).get? sectionName = none := by
    rw [Table.get?_erase, if_pos rfl]
  constructor
  · intro v hv
    exact absurd (hnone.symm.trans hv) nofun
  · unfold ofConfiguration
    rw [hnone]
    rfl

/-- With a coerced value stored for a key, this is what takes effect for it, and nothing else
changes. -/
theorem effective_set {t : Table}
    (hstored : ∀ key, effective {} key (t.get? key.name) = .ok (s.get key))
    (hw : coerce key v = .ok w) (other : SettingKey) :
    effective {} other ((t.set key.name w).get? other.name) =
      .ok (if other = key then w else s.get other) := by
  rw [Table.get?_set]
  by_cases hother : other = key
  · subst hother
    rw [if_pos rfl, if_pos rfl, effective, coerce_coerced hw]
  · rw [if_neg fun hname => hother (name_injective hname), if_neg hother, hstored other]

theorem sectionOf_set (config t : Table) : sectionOf (config.set sectionName (.table t)) = t := by
  rw [sectionOf, Table.get?_set_self]

theorem sectioned_set (config t : Table) : Sectioned (config.set sectionName (.table t)) := by
  intro v hv
  rw [Table.get?_set_self] at hv
  exact ⟨t, (Option.some.inj hv).symm⟩

/-- Saving a key changes what the settings have for it and nothing else, and fails when the value
cannot be coerced or the settings that it makes do not pass the check. -/
theorem save_eq_ok (h : Sectioned config) (hkeys : (sectionOf config).keys.Nodup)
    (hload : ofConfiguration config = .ok s) :
    save config key v = .ok (s', config') ↔
      ∃ w, coerce key v = .ok w ∧ (∀ other, s'.get other = if other = key then w else s.get other) ∧
        check s'.get = .ok () ∧
        config' = config.set sectionName (.table ((sectionOf config).set key.name w)) := by
  obtain ⟨hstored, -⟩ := (ofConfiguration_eq_ok h).1 hload
  have hoverride : ∀ w, coerce key v = .ok w → ∀ s₁ : Settings,
      ({} : Settings).override (storedEntries ((sectionOf config).set key.name w)) = .ok s₁ ↔
        ∀ other, s₁.get other = if other = key then w else s.get other := by
    intro w hw s₁
    rw [override_eq_ok (nodup_storedEntries (Table.nodup_keys_set hkeys _ _))]
    refine forall_congr' fun other => ?_
    rw [lookup_storedEntries, effective_set hstored hw, Except.ok.injEq, eq_comm]
  unfold save
  constructor
  · intro hsave
    obtain ⟨w, hw, hsave⟩ := Except.bind_eq_ok.1 hsave
    rw [h.setIn_eq] at hsave
    obtain ⟨table, htable, hsave⟩ := Except.bind_eq_ok.1 hsave
    obtain ⟨s₁, hs₁, hsave⟩ := Except.bind_eq_ok.1 hsave
    obtain ⟨s₂, hs₂, hsave⟩ := Except.bind_eq_ok.1 hsave
    obtain ⟨hcheck, rfl⟩ := validate_eq_ok.1 hs₂
    obtain ⟨rfl, rfl⟩ := Prod.mk.inj (Except.pure_eq_ok.1 hsave)
    rw [← Except.ok.inj htable] at hs₁ ⊢
    exact ⟨w, hw, (hoverride w hw s₁).1 hs₁, hcheck, rfl⟩
  · rintro ⟨w, hw, hget, hcheck, rfl⟩
    refine Except.bind_eq_ok.2 ⟨w, hw, Except.bind_eq_ok.2 ⟨_, h.setIn_eq key w, ?_⟩⟩
    refine Except.bind_eq_ok.2 ⟨s', (hoverride w hw s').2 hget, ?_⟩
    exact Except.bind_eq_ok.2 ⟨s', validate_eq_ok.2 ⟨hcheck, rfl⟩, rfl⟩

/-- What saving returns is what the saved configuration puts into effect. -/
theorem ofConfiguration_of_save (h : Sectioned config) (hkeys : (sectionOf config).keys.Nodup)
    (hload : ofConfiguration config = .ok s) (hsave : save config key v = .ok (s', config')) :
    ofConfiguration config' = .ok s' := by
  obtain ⟨w, hw, hget, hcheck, rfl⟩ := (save_eq_ok h hkeys hload).1 hsave
  obtain ⟨hstored, -⟩ := (ofConfiguration_eq_ok h).1 hload
  refine (ofConfiguration_eq_ok (sectioned_set _ _)).2 ⟨fun other => ?_, hcheck⟩
  rw [sectionOf_set, effective_set hstored hw, hget]

/-! ## Equivalent configurations -/

/-- Settings with equivalent values for all keys. -/
def Equiv (s s' : Settings) : Prop := ∀ key, (s.get key).Equiv (s'.get key)

/-- The settings are the defaults with the given values over them. -/
def InEffect (s : Settings) (given : SettingKey → Option Value) : Prop :=
  ∀ key, ∃ w, effective {} key (given key) = .ok w ∧ w.Equiv (s.get key)

theorem InEffect.of_equiv {given : SettingKey → Option Value} (h : s.InEffect given)
    (hs : s.Equiv s') :
    s'.InEffect given := by
  intro key
  obtain ⟨w, hw, hequiv⟩ := h key
  exact ⟨w, hw, hequiv.trans (hs key)⟩

/-- Tables and arrays are no numbers, and are left as they are for all other keys. -/
theorem coerce_of_not_isPlain {v' : Value} (hv : v.isPlain = false) (hv' : v'.isPlain = false)
    (h : coerce key v = .ok w) : w = v ∧ coerce key v' = .ok v' := by
  have hinteger : ∀ n, integer key v ≠ .ok n := by
    intro n hn
    cases v with
    | table t => exact absurd hn nofun
    | array vs => exact absurd hn nofun
    | _ => exact absurd hv nofun
  cases key with
  | maxDepth =>
    obtain ⟨n, hn, -⟩ := Except.map_eq_ok.1 h
    exact absurd hn (hinteger n)
  | segments =>
    obtain ⟨n, hn, -⟩ := Except.map_eq_ok.1 h
    exact absurd hn (hinteger n)
  | diffCommand =>
    have hkept : ∀ u : Value, u.isPlain = false → coerce .diffCommand u = .ok u := by
      intro u hu
      cases u with
      | text t => exact absurd hu nofun
      | unpaired ps => exact absurd hu nofun
      | _ => rfl
    exact ⟨Except.ok.inj (h.symm.trans (hkept v hv)), hkept v' hv'⟩
  | _ => exact ⟨(Except.ok.inj h).symm, rfl⟩

theorem exists_coerce_of_equiv {v' : Value} (h : v.Equiv v') (hv : coerce key v = .ok w) :
    ∃ w', coerce key v' = .ok w' ∧ w.Equiv w' := by
  cases hplain : v.isPlain with
  | true =>
    rw [← h.eq_of_plain hplain]
    exact ⟨w, hv, Value.Equiv.refl w⟩
  | false =>
    obtain ⟨rfl, hv'⟩ := coerce_of_not_isPlain hplain (h.isPlain_eq ▸ hplain) hv
    exact ⟨v', hv', h⟩

theorem exists_effective_of_rel {given given' : Option Value}
    (h : Option.Rel Value.Equiv given given')
    (hgiven : effective s key given = .ok w) :
    ∃ w', effective s key given' = .ok w' ∧ w.Equiv w' := by
  cases h with
  | none => exact ⟨w, hgiven, Value.Equiv.refl w⟩
  | some hv => exact exists_coerce_of_equiv hv hgiven

theorem isPlain_of_checkCount {error : Text → ConfigurationError}
    (h : checkCount error v = .ok ()) :
    v.isPlain = true := by
  obtain ⟨below, hbelow, -⟩ := Except.bind_eq_ok.1 h
  cases v <;> first | rfl | exact absurd hbelow nofun

theorem isPlain_of_isStrategy (h : isStrategy v = true) : v.isPlain = true := by
  cases v <;> first | rfl | exact absurd h nofun

theorem isPlain_of_checkExtension (h : checkExtension v = .ok ()) : v.isPlain = true := by
  cases v <;> first | rfl | exact absurd h nofun

/-- What the check asks of the values of the keys. -/
theorem check_eq_ok {value : SettingKey → Value} :
    check value = .ok () ↔ checkCount .depthTooSmall (value .maxDepth) = .ok () ∧
      checkCount .segmentsTooFew (value .segments) = .ok () ∧ isStrategy (value .strategy) = true ∧
      checkExtension (value .extension) = .ok () ∧ (value .diffCommand).isTruthy = true := by
  unfold check
  constructor
  · intro h
    obtain ⟨⟨⟩, hdepth, h⟩ := Except.bind_eq_ok.1 h
    obtain ⟨⟨⟩, hsegments, h⟩ := Except.bind_eq_ok.1 h
    dsimp only at h
    cases hstrategy : isStrategy (value .strategy) with
    | false =>
      rw [hstrategy] at h
      obtain ⟨_, hthrow, _⟩ := Except.bind_eq_ok.1 h
      exact absurd hthrow nofun
    | true =>
      rw [hstrategy] at h
      obtain ⟨⟨⟩, hextension, h⟩ := Except.bind_eq_ok.1 h
      cases hcommand : (value .diffCommand).isTruthy with
      | false =>
        rw [hcommand] at h
        exact absurd h nofun
      | true => exact ⟨hdepth, hsegments, rfl, hextension, rfl⟩
  · rintro ⟨hdepth, hsegments, hstrategy, hextension, hcommand⟩
    refine Except.bind_eq_ok.2 ⟨(), hdepth, Except.bind_eq_ok.2 ⟨(), hsegments, ?_⟩⟩
    dsimp only
    rw [hstrategy]
    refine Except.bind_eq_ok.2 ⟨(), hextension, ?_⟩
    rw [hcommand]
    rfl

/-- The check asks nothing that equivalent values answer in two ways. -/
theorem check_of_equiv {value value' : SettingKey → Value}
    (hequiv : ∀ key, (value key).Equiv (value' key))
    (h : check value = .ok ()) : check value' = .ok () := by
  obtain ⟨hdepth, hsegments, hstrategy, hextension, hcommand⟩ := check_eq_ok.1 h
  have hdepth' := (hequiv .maxDepth).eq_of_plain (isPlain_of_checkCount hdepth)
  have hsegments' := (hequiv .segments).eq_of_plain (isPlain_of_checkCount hsegments)
  have hstrategy' := (hequiv .strategy).eq_of_plain (isPlain_of_isStrategy hstrategy)
  have hextension' := (hequiv .extension).eq_of_plain (isPlain_of_checkExtension hextension)
  refine check_eq_ok.2 ⟨hdepth' ▸ hdepth, hsegments' ▸ hsegments, hstrategy' ▸ hstrategy,
    hextension' ▸ hextension, ?_⟩
  rw [← (hequiv .diffCommand).isTruthy_eq, hcommand]

theorem Sectioned.of_equiv (h : Sectioned config)
    (hequiv : (Value.table config).Equiv (.table config')) :
    Sectioned config' ∧ (Value.table (sectionOf config)).Equiv (.table (sectionOf config')) := by
  have hsection := Value.equiv_table_iff.1 hequiv sectionName
  unfold Sectioned sectionOf at *
  generalize config.get? sectionName = v, config'.get? sectionName = v' at h hsection ⊢
  cases hsection with
  | none => exact ⟨nofun, Value.Equiv.refl _⟩
  | some hvalue =>
    next u u' =>
    obtain ⟨t, rfl⟩ := h u rfl
    obtain ⟨t', rfl⟩ := hvalue.table_of_table
    refine ⟨fun w hw => ⟨t', (Option.some.inj hw).symm⟩, hvalue⟩

/-- Equivalent configurations put equivalent settings into effect. -/
theorem exists_ofConfiguration (h : Sectioned config)
    (hequiv : (Value.table config).Equiv (.table config'))
    (hload : ofConfiguration config = .ok s) :
    ∃ s', ofConfiguration config' = .ok s' ∧ s.Equiv s' := by
  obtain ⟨hsection', hentries⟩ := h.of_equiv hequiv
  obtain ⟨hstored, hcheck⟩ := (ofConfiguration_eq_ok h).1 hload
  have hvalues : ∀ key : SettingKey, ∃ w,
    effective {} key ((sectionOf config').get? key.name) = .ok w ∧
      (s.get key).Equiv w := fun key =>
    exists_effective_of_rel (Value.equiv_table_iff.1 hentries key.name) (hstored key)
  choose value hvalue hs using hvalues
  obtain ⟨s', hs'⟩ := exists_get hvalue
  refine ⟨s', (ofConfiguration_eq_ok hsection').2
    ⟨fun key => ?_, check_of_equiv (fun key => ?_) hcheck⟩, fun key => ?_⟩
  · rw [hs', hvalue]
  · rw [hs']
    exact hs key
  · rw [hs']
    exact hs key

end SourceReach.Settings
