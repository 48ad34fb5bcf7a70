/-
`NameTable.lean` -- what the tables answer after something was put into them.

Everything that is kept under names in this library is a `NameTable`, so the facts here are used by all
that follows. There are three of them in essence. Putting a value under a name changes the answer for
that name and no other (`get?_insert`); it leaves the order of the names alone if the name was there and
adds it at the end otherwise (`names_insert`); and inserting new names only makes the table longer, so
that whatever it answered before it still answers (`prefix_insertAllNew`).
-/
import Mathlib.Data.List.Induction
import Mathlib.Data.List.Nodup
import KernelShader.NameTable

set_option autoImplicit false

namespace KernelShader.NameTable

variable {α β : Type}

/-! ## Look-up and membership -/

theorem get?_mk_cons (key name : String) (value : α) (rest : List (String × α)) :
    get? ⟨(key, value) :: rest⟩ name = if name = key then some value else get? ⟨rest⟩ name := by
  unfold get?
  by_cases h : name = key
  · rw [if_pos h, h, List.lookup_cons_self]
  · rw [if_neg h, List.lookup_cons, beq_false_of_ne h]

/-- Look-up stops at the first of two stretches of entries that has the name. -/
theorem get?_mk_append (es fs : List (String × α)) (name : String) :
    get? ⟨es ++ fs⟩ name = (get? ⟨es⟩ name).or (get? ⟨fs⟩ name) := by
  unfold get?
  exact List.lookup_append

theorem mem_entries_of_get? {t : NameTable α} {name : String} {value : α}
    (h : t.get? name = some value) : (name, value) ∈ t.entries := by
  obtain ⟨es, fs, hsplit, -⟩ := List.lookup_eq_some_iff.mp h
  rw [hsplit]
  exact List.mem_append_right es List.mem_cons_self

theorem mem_values_of_get? {t : NameTable α} {name : String} {value : α}
    (h : t.get? name = some value) : value ∈ t.values :=
  List.mem_map.mpr ⟨(name, value), mem_entries_of_get? h, rfl⟩

theorem contains_iff_mem_names {t : NameTable α} {name : String} :
    t.contains name = true ↔ name ∈ t.names := by
  unfold contains names get?
  rw [List.lookup_isSome_iff, List.mem_map]
  constructor
  · rintro ⟨p, hp, heq⟩
    exact ⟨p, hp, (eq_of_beq heq).symm⟩
  · rintro ⟨p, hp, rfl⟩
    exact ⟨p, hp, beq_self_eq_true _⟩

theorem exists_get?_of_mem_names {t : NameTable α} {name : String} (h : name ∈ t.names) :
    ∃ value, t.get? name = some value :=
  Option.isSome_iff_exists.mp (contains_iff_mem_names.mpr h)

theorem get?_eq_none {t : NameTable α} {name : String} (h : name ∉ t.names) : t.get? name = none :=
  Option.not_isSome_iff_eq_none.mp (mt contains_iff_mem_names.mp h)

/-- Where no name is repeated, every entry is the one that look-up finds. -/
theorem get?_of_mem_entries {t : NameTable α} (hnodup : t.names.Nodup) {name : String} {value : α}
    (h : (name, value) ∈ t.entries) : t.get? name = some value := by
  obtain ⟨entries⟩ := t
  induction entries with
  | nil => exact absurd h List.not_mem_nil
  | cons entry rest ih =>
    obtain ⟨key, old⟩ := entry
    have hkey : key ∉ rest.map Prod.fst ∧ (rest.map Prod.fst).Nodup := List.nodup_cons.mp hnodup
    rw [get?_mk_cons]
    rcases List.mem_cons.mp h with heq | hrest
    · rw [Prod.mk.injEq] at heq
      rw [if_pos heq.1, heq.2]
    · have hne : name ≠ key := fun he => hkey.1 (he ▸ List.mem_map.mpr ⟨_, hrest, rfl⟩)
      rw [if_neg hne]
      exact ih hkey.2 hrest

/-! ## Replacing and adding one entry -/

theorem get?_insert (t : NameTable α) (name other : String) (value : α) :
    (t.insert name value).get? other = if other = name then some value else t.get? other := by
  obtain ⟨entries⟩ := t
  unfold insert
  induction entries with
  | nil => exact get?_mk_cons name other value []
  | cons entry rest ih =>
    obtain ⟨key, old⟩ := entry
    rw [insertEntry]
    by_cases hkey : key = name
    · rw [if_pos hkey, get?_mk_cons, get?_mk_cons, hkey]
      by_cases ho : other = name
      · rw [if_pos ho, if_pos ho]
      · rw [if_neg ho, if_neg ho, if_neg ho]
    · rw [if_neg hkey, get?_mk_cons, get?_mk_cons, ih]
      by_cases ho : other = key
      · have hne : other ≠ name := fun h => hkey (ho ▸ h)
        rw [if_pos ho, if_pos ho, if_neg hne]
      · rw [if_neg ho, if_neg ho]

theorem get?_insert_self (t : NameTable α) (name : String) (value : α) :
    (t.insert name value).get? name = some value := by
  rw [get?_insert, if_pos rfl]

theorem get?_insert_of_ne (t : NameTable α) {name other : String} (value : α) (h : other ≠ name) :
    (t.insert name value).get? other = t.get? other := by
  rw [get?_insert, if_neg h]

/-- What a table answers afterwards is the new value, or what it answered before. -/
theorem get?_insert_or {t : NameTable α} {name other : String} {value found : α}
    (h : (t.insert name value).get? other = some found) : found = value ∨ t.get? other = some found := by
  rw [get?_insert] at h
  by_cases hother : other = name
  · rw [if_pos hother, Option.some.injEq] at h
    exact Or.inl h.symm
  · rw [if_neg hother] at h
    exact Or.inr h

theorem contains_insert (t : NameTable α) (name other : String) (value : α) :
    (t.insert name value).contains other = (decide (other = name) || t.contains other) := by
  unfold contains
  rw [get?_insert]
  by_cases h : other = name
  · rw [if_pos h, decide_eq_true h]
    rfl
  · rw [if_neg h, decide_eq_false h, Bool.false_or]

/-- A new name comes last. -/
theorem entries_insert_of_not_mem {t : NameTable α} {name : String} (value : α)
    (h : name ∉ t.names) : (t.insert name value).entries = t.entries ++ [(name, value)] := by
  obtain ⟨entries⟩ := t
  unfold insert
  induction entries with
  | nil => rfl
  | cons entry rest ih =>
    obtain ⟨key, old⟩ := entry
    have hne : key ≠ name := fun he => h (he ▸ List.mem_cons_self)
    have hrest : name ∉ names ⟨rest⟩ := fun hmem => h (List.mem_cons_of_mem _ hmem)
    simp only [insertEntry, if_neg hne, List.cons_append, List.cons.injEq, true_and]
    exact ih hrest

theorem insertEntry_append_cons {name : String} {before after : List (String × α)} {old : α} (value : α)
    (h : name ∉ before.map Prod.fst) :
    insertEntry name value (before ++ (name, old) :: after) = before ++ (name, value) :: after := by
  induction before with
  | nil => simp [insertEntry]
  | cons entry rest ih =>
    obtain ⟨key, first⟩ := entry
    rw [List.map_cons, List.mem_cons, not_or] at h
    simp [insertEntry, Ne.symm h.1, ih h.2]

/-- An old name stays where it is. -/
theorem names_insert_of_mem {t : NameTable α} {name : String} (value : α) (h : name ∈ t.names) :
    (t.insert name value).names = t.names := by
  obtain ⟨entries⟩ := t
  unfold insert names at *
  induction entries with
  | nil => exact absurd h List.not_mem_nil
  | cons entry rest ih =>
    obtain ⟨key, old⟩ := entry
    rw [insertEntry]
    by_cases hkey : key = name
    · rw [if_pos hkey, List.map_cons, List.map_cons, hkey]
    · have hrest : name ∈ rest.map Prod.fst := by
        rcases List.mem_cons.mp h with he | hmem
        · exact absurd he.symm hkey
        · exact hmem
      rw [if_neg hkey, List.map_cons, List.map_cons, ih hrest]

theorem names_insert (t : NameTable α) (name : String) (value : α) :
    (t.insert name value).names = if name ∈ t.names then t.names else t.names ++ [name] := by
  by_cases h : name ∈ t.names
  · rw [if_pos h, names_insert_of_mem value h]
  · rw [if_neg h, names, entries_insert_of_not_mem value h, List.map_append]
    rfl

theorem nodup_names_insert {t : NameTable α} (name : String) (value : α) (h : t.names.Nodup) :
    (t.insert name value).names.Nodup := by
  rw [names_insert]
  by_cases hmem : name ∈ t.names
  · rw [if_pos hmem]
    exact h
  · rw [if_neg hmem]
    refine List.nodup_append.mpr ⟨h, List.nodup_singleton name, ?_⟩
    intro a ha b hb hab
    rw [List.mem_singleton.mp hb] at hab
    exact hmem (hab ▸ ha)

/-- Putting the value there that is there already changes nothing. -/
theorem insert_eq_self {t : NameTable α} {name : String} {value : α}
    (h : t.get? name = some value) : t.insert name value = t := by
  obtain ⟨entries⟩ := t
  unfold insert
  congr 1
  induction entries with
  | nil => exact nomatch h
  | cons entry rest ih =>
    obtain ⟨key, old⟩ := entry
    rw [get?_mk_cons] at h
    rw [insertEntry]
    by_cases hkey : name = key
    · rw [if_pos hkey, Option.some.injEq] at h
      rw [if_pos hkey.symm, hkey, h]
    · rw [if_neg hkey] at h
      rw [if_neg (Ne.symm hkey), ih h]

/-- A view that does not tell the new value from the old one does not see the replacement. -/
theorem map_values_insert {t : NameTable α} {name : String} {value old : α} (f : α → β)
    (h : t.get? name = some old) (hf : f value = f old) :
    (t.insert name value).values.map f = t.values.map f := by
  obtain ⟨entries⟩ := t
  unfold insert values
  induction entries with
  | nil => exact nomatch h
  | cons entry rest ih =>
    obtain ⟨key, first⟩ := entry
    rw [get?_mk_cons] at h
    simp only [insertEntry]
    by_cases hkey : name = key
    · rw [if_pos hkey, Option.some.injEq] at h
      rw [if_pos hkey.symm]
      simp only [List.map_cons, hf, h]
    · rw [if_neg hkey] at h
      rw [if_neg (Ne.symm hkey), List.map_cons, List.map_cons, ih h]
      rfl

/-- An entry of the table afterwards is the new one or an old one under another name. -/
theorem mem_entries_insert {t : NameTable α} {name key : String} {value old : α}
    (hnodup : t.names.Nodup) (h : (key, old) ∈ (t.insert name value).entries) :
    (key = name ∧ old = value) ∨ (key ≠ name ∧ (key, old) ∈ t.entries) := by
  have hget := get?_of_mem_entries (nodup_names_insert name value hnodup) h
  rw [get?_insert] at hget
  by_cases hkey : key = name
  · rw [if_pos hkey, Option.some.injEq] at hget
    exact Or.inl ⟨hkey, hget.symm⟩
  · rw [if_neg hkey] at hget
    exact Or.inr ⟨hkey, mem_entries_of_get? hget⟩

theorem values_insert_of_not_mem {t : NameTable α} {name : String} (value : α)
    (h : name ∉ t.names) : (t.insert name value).values = t.values ++ [value] := by
  rw [values, entries_insert_of_not_mem value h, List.map_append]
  rfl

/-! ## Changing every value -/

theorem names_mapValues (f : α → β) (t : NameTable α) : (t.mapValues f).names = t.names := by
  unfold names mapValues
  rw [List.map_map]
  rfl

theorem values_mapValues (f : α → β) (t : NameTable α) :
    (t.mapValues f).values = t.values.map f := by
  unfold values mapValues
  rw [List.map_map, List.map_map]
  rfl

theorem get?_mapValues (f : α → β) (t : NameTable α) (name : String) :
    (t.mapValues f).get? name = (t.get? name).map f := by
  obtain ⟨entries⟩ := t
  unfold mapValues
  induction entries with
  | nil => rfl
  | cons entry rest ih =>
    obtain ⟨key, value⟩ := entry
    rw [List.map_cons, get?_mk_cons, get?_mk_cons, ih]
    by_cases hkey : name = key
    · rw [if_pos hkey, if_pos hkey, Option.map_some]
    · rw [if_neg hkey, if_neg hkey]

theorem mapValues_insert (f : α → β) (t : NameTable α) (name : String) (value : α) :
    (t.insert name value).mapValues f = (t.mapValues f).insert name (f value) := by
  obtain ⟨entries⟩ := t
  unfold mapValues insert
  congr 1
  induction entries with
  | nil => rfl
  | cons entry rest ih =>
    obtain ⟨key, old⟩ := entry
    simp only [insertEntry, List.map_cons]
    by_cases hkey : key = name
    · rw [if_pos hkey, if_pos hkey, List.map_cons]
    · rw [if_neg hkey, if_neg hkey, List.map_cons, ih]

/-- Two tables that a view cannot tell apart have the same values under the same names, in that view. -/
theorem exists_get?_of_mapValues_eq {f : α → β} {t u : NameTable α}
    (h : u.mapValues f = t.mapValues f) {name : String} {old : α} (hget : t.get? name = some old) :
    ∃ value, u.get? name = some value ∧ f value = f old := by
  have hview : (u.get? name).map f = some (f old) := by
    rw [← get?_mapValues, h, get?_mapValues, hget, Option.map_some]
  exact Option.map_eq_some_iff.mp hview

theorem map_values_of_mapValues_eq {f : α → β} {t u : NameTable α}
    (h : u.mapValues f = t.mapValues f) : u.values.map f = t.values.map f := by
  rw [← values_mapValues, h, values_mapValues]

theorem exists_mem_of_mapValues_eq {f : α → β} {t u : NameTable α}
    (h : u.mapValues f = t.mapValues f) {value : α} (hmem : value ∈ u.values) :
    ∃ old ∈ t.values, f old = f value := by
  have hview : f value ∈ u.values.map f := List.mem_map_of_mem hmem
  rw [map_values_of_mapValues_eq h] at hview
  exact List.mem_map.mp hview

/-- Looking up every name in turn gives the values in order. -/
theorem map_get?_names {t : NameTable α} (hnodup : t.names.Nodup) :
    t.names.map t.get? = t.values.map some := by
  unfold names values
  rw [List.map_map, List.map_map]
  refine List.map_congr_left ?_
  rintro ⟨name, value⟩ hmem
  exact get?_of_mem_entries hnodup hmem

/-- Tables of the same names show the same values in a view, if they do so under every name. -/
theorem map_values_congr {t u : NameTable α} (f : α → β) (hnodup : t.names.Nodup)
    (hnames : u.names = t.names)
    (h : ∀ name a b, t.get? name = some a → u.get? name = some b → f b = f a) :
    u.values.map f = t.values.map f := by
  have hview : ∀ v : NameTable α, v.names.Nodup →
      (v.values.map f).map some = v.names.map fun name => (v.get? name).map f := by
    intro v hv
    have hlookup := congrArg (List.map (Option.map f)) (map_get?_names hv)
    rw [List.map_map, List.map_map] at hlookup
    rw [List.map_map]
    exact hlookup.symm
  refine List.map_inj_right (fun _ _ => Option.some.inj) |>.mp ?_
  rw [hview u (hnames ▸ hnodup), hview t hnodup, hnames]
  refine List.map_congr_left fun name hname => ?_
  obtain ⟨a, ha⟩ := exists_get?_of_mem_names hname
  obtain ⟨b, hb⟩ := exists_get?_of_mem_names (hnames ▸ hname)
  rw [ha, hb, Option.map_some, Option.map_some, h name a b ha hb]

/-! ## Values that know their names -/

/-- Every value stands once, under the name that it has itself. -/
structure Keyed (key : α → String) (t : NameTable α) : Prop where
  nodup : t.names.Nodup
  keys : t.values.map key = t.names

namespace Keyed

variable {key : α → String}

theorem empty : Keyed key (NameTable.empty : NameTable α) := ⟨List.nodup_nil, rfl⟩

theorem key_of_mem_entries {t : NameTable α} (h : Keyed key t) {name : String} {value : α}
    (hentry : (name, value) ∈ t.entries) : key value = name := by
  have hpairs : t.entries.map (fun entry => key entry.2) = t.entries.map Prod.fst := by
    rw [← names, ← h.keys, values, List.map_map]
    rfl
  exact List.map_inj_left.mp hpairs (name, value) hentry

theorem get?_of_mem {t : NameTable α} (h : Keyed key t) {value : α} (hmem : value ∈ t.values) :
    t.get? (key value) = some value := by
  obtain ⟨⟨name, value'⟩, hentry, rfl⟩ := List.mem_map.mp hmem
  rw [h.key_of_mem_entries hentry]
  exact get?_of_mem_entries h.nodup hentry

theorem insert {t : NameTable α} (h : Keyed key t) {name : String} {value : α}
    (hnew : name ∉ t.names) (hname : key value = name) : Keyed key (t.insert name value) := by
  refine ⟨nodup_names_insert name value h.nodup, ?_⟩
  rw [values_insert_of_not_mem value hnew, names_insert, if_neg hnew, List.map_append, h.keys,
    List.map_singleton, hname]

theorem entries_eq {t : NameTable α} (h : Keyed key t) :
    t.entries = t.values.map fun value => (key value, value) := by
  have hsame : ∀ entry ∈ t.entries, (key entry.2, entry.2) = entry := by
    rintro ⟨name, value⟩ hentry
    rw [h.key_of_mem_entries hentry]
  rw [values, List.map_map]
  exact ((List.map_congr_left hsame).trans (List.map_id' t.entries)).symm

/-- A value that takes the place of another of its name stands where that one stood. -/
theorem values_insert {t : NameTable α} (h : Keyed key t) {before after : List α} {old : α} (value : α)
    (hvalues : t.values = before ++ old :: after) (hkey : key value = key old) :
    (t.insert (key old) value).values = before ++ value :: after ∧
      Keyed key (t.insert (key old) value) := by
  have hnodup : (key old :: (before ++ after).map key).Nodup := by
    have hall := h.keys ▸ h.nodup
    rw [hvalues, List.map_append, List.map_cons] at hall
    rw [List.map_append]
    exact List.nodup_middle.mp hall
  have hearlier : key old ∉ (before.map fun value => (key value, value)).map Prod.fst := by
    intro hmem
    refine (List.nodup_cons.mp hnodup).1 ?_
    rw [List.map_append]
    simpa using Or.inl hmem
  have hentries := h.entries_eq
  rw [hvalues, List.map_append, List.map_cons] at hentries
  have hplace : (t.insert (key old) value).values = before ++ value :: after := by
    rw [NameTable.insert, hentries, insertEntry_append_cons value hearlier, values, List.map_append,
      List.map_cons, List.map_map, List.map_map]
    simp [Function.comp_def]
  have hold : key old ∈ t.names := by
    rw [← h.keys, hvalues]
    simp
  refine ⟨hplace, nodup_names_insert _ _ h.nodup, ?_⟩
  rw [hplace, names_insert_of_mem value hold, ← h.keys, hvalues]
  simp [hkey]

/-- Only the names matter. -/
theorem of_mapValues_eq {f : α → α} {t u : NameTable α} (h : Keyed key t)
    (hkey : ∀ value, key (f value) = key value) (heq : u.mapValues f = t.mapValues f) :
    Keyed key u := by
  have hnames : u.names = t.names := by rw [← names_mapValues f u, heq, names_mapValues]
  have hkeys : ∀ w : NameTable α, w.values.map key = (w.mapValues f).values.map key := by
    intro w
    rw [values_mapValues, List.map_map]
    exact List.map_congr_left fun value _ => (hkey value).symm
  refine ⟨?_, ?_⟩
  · rw [hnames]
    exact h.nodup
  · rw [hkeys, heq, ← hkeys, h.keys, hnames]

end Keyed

/-! ## Adding new names only -/

theorem prefix_insertNew (t : NameTable α) (name : String) (value : α) :
    t.entries <+: (t.insertNew name value).entries := by
  unfold insertNew
  by_cases h : t.contains name = true
  · simp only [if_pos h, List.prefix_rfl]
  · rw [if_neg h]
    exact List.prefix_append t.entries [(name, value)]

theorem contains_insertNew_self (t : NameTable α) (name : String) (value : α) :
    (t.insertNew name value).contains name = true := by
  unfold insertNew
  by_cases h : t.contains name = true
  · rw [if_pos h]
    exact h
  · rw [if_neg h, contains_iff_mem_names, names, List.map_append]
    exact List.mem_append_right _ List.mem_cons_self

/-- A longer table answers what the shorter one answered. -/
theorem get?_mono {t u : NameTable α} (h : t.entries <+: u.entries) {name : String} {value : α}
    (hget : t.get? name = some value) : u.get? name = some value := by
  obtain ⟨more, hmore⟩ := h
  have hu : u = ⟨t.entries ++ more⟩ := by rw [hmore]
  rw [hu, get?_mk_append, hget, Option.some_or]

theorem contains_mono {t u : NameTable α} (h : t.entries <+: u.entries) {name : String}
    (hcont : t.contains name = true) : u.contains name = true := by
  obtain ⟨value, hvalue⟩ := Option.isSome_iff_exists.mp hcont
  exact Option.isSome_iff_exists.mpr ⟨value, get?_mono h hvalue⟩

theorem insertAllNew_cons (t : NameTable α) (name : String) (value : α) (es : List (String × α)) :
    t.insertAllNew ((name, value) :: es) = (t.insertNew name value).insertAllNew es := rfl

/-- Whatever the entries, the table only gets longer at its end. -/
theorem prefix_insertAllNew (t : NameTable α) (es : List (String × α)) :
    t.entries <+: (t.insertAllNew es).entries := by
  induction es generalizing t with
  | nil => exact List.prefix_rfl
  | cons entry rest ih =>
    obtain ⟨name, value⟩ := entry
    rw [insertAllNew_cons]
    exact (prefix_insertNew t name value).trans (ih (t.insertNew name value))

/-- Every name among the entries is in the table afterwards. -/
theorem contains_insertAllNew {t : NameTable α} {es : List (String × α)} {name : String}
    (h : name ∈ es.map Prod.fst) : (t.insertAllNew es).contains name = true := by
  induction es generalizing t with
  | nil => exact absurd h List.not_mem_nil
  | cons entry rest ih =>
    obtain ⟨key, value⟩ := entry
    rw [insertAllNew_cons]
    rcases List.mem_cons.mp h with heq | hrest
    · have hkey : name = key := heq
      rw [hkey]
      exact contains_mono (prefix_insertAllNew _ rest) (contains_insertNew_self t key value)
    · exact ih hrest

theorem get?_insertNew (t : NameTable α) (name other : String) (value : α) :
    (t.insertNew name value).get? other = (t.get? other).or (get? ⟨[(name, value)]⟩ other) := by
  by_cases hold : t.contains name = true
  · rw [insertNew, if_pos hold, get?_mk_cons]
    by_cases hother : other = name
    · obtain ⟨old, hget⟩ := Option.isSome_iff_exists.mp hold
      rw [hother, hget, Option.some_or]
    · rw [if_neg hother]
      exact Option.or_none.symm
  · rw [insertNew, if_neg hold, get?_mk_append]

/-- A name that the table has keeps its value, and any other has that of the first entry under it. -/
theorem get?_insertAllNew (t : NameTable α) (es : List (String × α)) (name : String) :
    (t.insertAllNew es).get? name = (t.get? name).or (get? ⟨es⟩ name) := by
  induction es generalizing t with
  | nil => exact Option.or_none.symm
  | cons entry rest ih =>
    obtain ⟨key, value⟩ := entry
    have hentry : get? ⟨(key, value) :: rest⟩ name
        = (get? ⟨[(key, value)]⟩ name).or (get? ⟨rest⟩ name) := get?_mk_append [(key, value)] rest name
    rw [insertAllNew_cons, ih, get?_insertNew, hentry, Option.or_assoc]

/-! ## Tables built from entries -/

theorem insertAll_cons (t : NameTable α) (name : String) (value : α) (es : List (String × α)) :
    t.insertAll ((name, value) :: es) = (t.insert name value).insertAll es := rfl

theorem get?_insertAll_of_not_mem (t : NameTable α) {es : List (String × α)} {name : String}
    (h : name ∉ es.map Prod.fst) : (t.insertAll es).get? name = t.get? name := by
  induction es generalizing t with
  | nil => rfl
  | cons entry rest ih =>
    obtain ⟨key, value⟩ := entry
    rw [List.map_cons, List.mem_cons, not_or] at h
    rw [insertAll_cons, ih _ h.2, get?_insert_of_ne t value h.1]

/-- Entries under names that are new and distinct are appended as they are. -/
theorem entries_insertAll {t : NameTable α} {es : List (String × α)}
    (h : (t.names ++ es.map Prod.fst).Nodup) : (t.insertAll es).entries = t.entries ++ es := by
  induction es generalizing t with
  | nil => exact (List.append_nil t.entries).symm
  | cons entry rest ih =>
    obtain ⟨name, value⟩ := entry
    obtain ⟨-, -, hdisjoint⟩ := List.nodup_append.mp h
    have hnew : name ∉ t.names := fun hmem => hdisjoint name hmem name List.mem_cons_self rfl
    have hentries := entries_insert_of_not_mem value hnew
    have hnames : (t.insert name value).names ++ rest.map Prod.fst
        = t.names ++ ((name, value) :: rest).map Prod.fst := by
      rw [names_insert, if_neg hnew, List.append_assoc]
      rfl
    rw [insertAll_cons, ih (hnames ▸ h), hentries, List.append_assoc]
    rfl

theorem ofEntries_of_nodup {es : List (String × α)} (h : (es.map Prod.fst).Nodup) :
    ofEntries es = ⟨es⟩ := by
  have hentries : (ofEntries es).entries = es := entries_insertAll h
  exact congrArg NameTable.mk hentries

theorem ofEntries_concat (es : List (String × α)) (name : String) (value : α) :
    ofEntries (es ++ [(name, value)]) = (ofEntries es).insert name value := by
  simp only [ofEntries, insertAll, List.foldl_append, List.foldl_cons, List.foldl_nil]

/-- A name that comes again keeps the place where it came first. -/
theorem names_ofEntries (es : List (String × α)) :
    (ofEntries es).names = (es.map Prod.fst).eraseDups := by
  induction es using List.reverseRecOn with
  | nil => rfl
  | append_singleton es entry ih =>
    obtain ⟨name, value⟩ := entry
    rw [ofEntries_concat, names_insert, ih, List.map_append, List.map_singleton, List.eraseDups_append]
    by_cases hmem : name ∈ es.map Prod.fst
    · rw [if_pos (List.mem_eraseDups.mpr hmem)]
      simp [List.removeAll, hmem]
    · rw [if_neg (mt List.mem_eraseDups.mp hmem)]
      simp [List.removeAll, hmem, List.eraseDups_cons]

/-- A name that comes again has the value with which it came last. -/
theorem get?_ofEntries_last (before : List (String × α)) (name : String) (value : α)
    {after : List (String × α)} (h : name ∉ after.map Prod.fst) :
    (ofEntries (before ++ (name, value) :: after)).get? name = some value := by
  have hsplit : ofEntries (before ++ (name, value) :: after)
      = ((ofEntries before).insert name value).insertAll after := by
    simp only [ofEntries, insertAll, List.foldl_append, List.foldl_cons]
  rw [hsplit, get?_insertAll_of_not_mem _ h, get?_insert_self]

end KernelShader.NameTable
