/-
`Correction.lean` -- stores after corrections, name by name.

A correction gives types to names of functions, and after any number of them all that matters is which
type each name was given last. `Transcript.Corrected given` relates a function to itself after corrections
that gave the types `given`, and `Store.Corrected` does so for all functions of a store; both compose, the
later types going first. What may be given a type never changes, so whether an edit is accepted does not
depend on the edits before it.

The tables of two corrected functions may have come about in different ways, but a replay only looks
names up in them. Two stores corrected from one store, with the same type under every name, are therefore
replayed to the same texts (`replay_eq_of_corrected`).
-/
import KernelShader.Proofs.Store.Locality

set_option autoImplicit false

namespace KernelShader

open NameTable

/-! ## Tables that answer alike -/

namespace Generator

variable {t u : TypeTable} (h : ∀ name, t.get? name = u.get? name)
include h

theorem bodyText_congr (dialect : Dialect) (line : Line) :
    bodyText dialect t line = bodyText dialect u line := by
  unfold bodyText
  split
  · rfl
  · cases prepared? dialect line with
    | none => rfl
    | some tokens => simp only [withTypes_congr tokens fun name _ => h name]

theorem parameterText_congr : parameterText t = parameterText u := by
  funext name
  rw [parameterText, h name, parameterText]

theorem headText_congr (role : Role) (declaration : Declaration) :
    headText role t declaration = headText role u declaration := by
  unfold headText
  rw [parameterText_congr h]

theorem lineNames_congr (dialect : Dialect) : lineNames dialect t = lineNames dialect u := by
  funext line
  unfold lineNames
  cases prepared? dialect line with
  | none => rfl
  | some tokens =>
    refine typedNames_congr tokens fun name _ => ?_
    rw [contains, h name, contains]

theorem tailLine_replay_congr (dialect : Dialect) (tail : Line) :
    (tailLine dialect .replay t tail).1 = (tailLine dialect .replay u tail).1 := by
  match tail with
  | [] => rfl
  | [_] => rfl
  | _ :: second :: rest =>
    simp only [tailLine, bodyLine, bodyTypes_replay, bodyText_congr h dialect (second :: rest)]

/-- A replay asks a table for types and nothing else. -/
theorem generate_replay_congr (dialect : Dialect) (role : Role) (lines : List Line) :
    (generate dialect .replay role t lines).map Prod.fst
      = (generate dialect .replay role u lines).map Prod.fst := by
  cases lines with
  | nil => rfl
  | cons first rest =>
    have hbody : rest.map (bodyText dialect t) = rest.map (bodyText dialect u) :=
      List.map_congr_left fun line _ => bodyText_congr h dialect line
    rw [generate_replay_cons, generate_replay_cons, hbody, lineNames_congr h, parameterText_congr h]
    cases Declaration.parse first with
    | error fault => rfl
    | ok declaration =>
      simp only [bind, Except.bind, headText_congr h role declaration,
        tailLine_replay_congr h dialect declaration.tail]
      cases headText role u declaration with
      | error fault => rfl
      | ok head =>
        cases (lineNames dialect u (declaration.tail.drop 1)).mapM (parameterText u) with
        | error fault => rfl
        | ok tail =>
          cases (rest.flatMap (lineNames dialect u)).mapM (parameterText u) with
          | error fault => rfl
          | ok body => rfl

end Generator

/-! ## One function -/

namespace Transcript

theorem replay_congr {t u : Transcript} (hlines : t.lines = u.lines) (hkind : t.kind = u.kind)
    (hworkgroup : t.workgroup = u.workgroup)
    (htypes : ∀ name, t.types.get? name = u.types.get? name) (dialect : Dialect) :
    t.replay dialect = u.replay dialect := by
  have hsame : t.generatorRole = u.generatorRole := by
    unfold generatorRole
    rw [hkind, hworkgroup]
  rw [replay_eq_map_replayLines, replay_eq_map_replayLines]
  cases hrole : u.generatorRole with
  | error fault =>
    rw [replayLines_of_error hrole, replayLines_of_error (hsame.trans hrole)]
  | ok role =>
    rw [replayLines_of_ok hrole, replayLines_of_ok (hsame.trans hrole), hlines,
      Generator.generate_replay_congr htypes]

/-- The type of a name, where the return value of a helper counts as a name of its own. -/
def typeOf (t : Transcript) (name : String) : Option ShaderType :=
  if t.isEntry = false ∧ name = returnName then t.returns else t.types.get? name

theorem typeOf_returnName {t : Transcript} (hhelper : t.isEntry = false) :
    t.typeOf returnName = t.returns :=
  if_pos ⟨hhelper, rfl⟩

theorem typeOf_of_not_covered {t : Transcript} {name : String}
    (h : ¬ (t.isEntry = false ∧ name = returnName)) : t.typeOf name = t.types.get? name :=
  if_neg h

theorem kind_eq (t : Transcript) :
    t.kind = if t.isEntry = true then .entry else .helper t.returns := by
  obtain ⟨function, lines, types, kind, workgroup⟩ := t
  cases kind with
  | helper returns => rfl
  | entry => rfl

/-- The name can be given a type. -/
def editable (t : Transcript) (name : String) : Bool :=
  (!t.isEntry && name == returnName) || t.types.contains name

/-- The second function is the first one after corrections, `given` saying which names were given a type
and which type was the last. The name under which a helper is given its return type can also stand in its
table, and is then out of reach. -/
structure Corrected (given : String → Option ShaderType) (t t' : Transcript) : Prop where
  name : t'.name = t.name
  lines : t'.lines = t.lines
  workgroup : t'.workgroup = t.workgroup
  isEntry : t'.isEntry = t.isEntry
  contains : ∀ n, t'.types.contains n = t.types.contains n
  covered : t.isEntry = false → t'.types.get? returnName = t.types.get? returnName
  typeOf : ∀ n, t'.typeOf n = (given n).or (t.typeOf n)

theorem corrected_refl (t : Transcript) : t.Corrected (fun _ => none) t :=
  ⟨rfl, rfl, rfl, rfl, fun _ => rfl, fun _ => rfl, fun _ => rfl⟩

theorem Corrected.trans {given given' : String → Option ShaderType} {t t' t'' : Transcript}
    (h : t.Corrected given t') (h' : t'.Corrected given' t'') :
    t.Corrected (fun n => (given' n).or (given n)) t'' where
  name := h'.name.trans h.name
  lines := h'.lines.trans h.lines
  workgroup := h'.workgroup.trans h.workgroup
  isEntry := h'.isEntry.trans h.isEntry
  contains n := (h'.contains n).trans (h.contains n)
  covered hhelper := (h'.covered (h.isEntry.trans hhelper)).trans (h.covered hhelper)
  typeOf n := by rw [h'.typeOf, h.typeOf, Option.or_assoc]

theorem Corrected.editable {given : String → Option ShaderType} {t t' : Transcript}
    (h : t.Corrected given t') (name : String) : t'.editable name = t.editable name := by
  rw [Transcript.editable, h.isEntry, h.contains, Transcript.editable]

/-- Just the names that can be given a type are given one. -/
theorem exists_edit_iff (t : Transcript) (name : String) (type : ShaderType) :
    (∃ changed after, t.edit name type = .ok (changed, after)) ↔ t.editable name = true := by
  constructor
  · rintro ⟨changed, after, h⟩
    rcases edit_cases h with ⟨returns, hkind, rfl, -, -⟩ | ⟨old, -, hold, -, -⟩
    · simp [editable, isEntry_helper hkind]
    · simp [editable, NameTable.contains, hold]
  · intro h
    obtain ⟨function, lines, types, kind, workgroup⟩ := t
    cases kind with
    | helper returns =>
      by_cases hname : name = returnName
      · simp [edit, hname]
      · have hcontains : types.contains name = true := by simpa [editable, hname] using h
        obtain ⟨old, hold⟩ := Option.isSome_iff_exists.mp hcontains
        simp [edit, hname, hold]
    | entry =>
      have hcontains : types.contains name = true := by simpa [editable, isEntry] using h
      obtain ⟨old, hold⟩ := Option.isSome_iff_exists.mp hcontains
      simp [edit, hold]

/-- One edit gives one name its type. -/
theorem corrected_edit {t after : Transcript} {name : String} {type : ShaderType} {changed : Bool}
    (h : t.edit name type = .ok (changed, after)) :
    t.Corrected (fun n => if n = name then some type else none) after := by
  have houtline := outline_of_edit h
  rcases edit_cases h with ⟨returns, hkind, rfl, -, rfl⟩ | ⟨old, hreach, hold, -, rfl⟩
  · have hhelper := isEntry_helper hkind
    refine ⟨rfl, rfl, rfl, houtline.2, fun _ => rfl, fun _ => rfl, fun n => ?_⟩
    rw [typeOf, typeOf, houtline.2, hhelper]
    by_cases hn : n = returnName
    · simp [hn, Transcript.returns]
    · simp [hn]
  · have hopen : ¬ (t.isEntry = false ∧ name = returnName) := by
      rintro ⟨hhelper, hname⟩
      rcases hreach with hentry | hne
      · simp [isEntry, hentry] at hhelper
      · exact hne hname
    refine ⟨rfl, rfl, rfl, rfl, fun n => ?_, fun hhelper => ?_, fun n => ?_⟩
    · rw [contains_insert]
      by_cases hn : n = name
      · simp [hn, NameTable.contains, hold]
      · simp [hn]
    · have hne : returnName ≠ name := fun hname => hopen ⟨hhelper, hname.symm⟩
      exact get?_insert_of_ne t.types type hne
    · change (if t.isEntry = false ∧ n = returnName then t.returns
        else (t.types.insert name type).get? n) = _
      by_cases hn : n = name
      · rw [hn, if_neg hopen, get?_insert_self, if_pos rfl, Option.some_or]
      · rw [get?_insert_of_ne t.types type hn, if_neg hn, Option.none_or, typeOf]

/-- Two functions corrected from one, with the same type under every name, are replayed to the same
text. -/
theorem Corrected.replay_eq {given₁ given₂ : String → Option ShaderType} {t t₁ t₂ : Transcript}
    (h₁ : t.Corrected given₁ t₁) (h₂ : t.Corrected given₂ t₂)
    (hsame : ∀ n, (given₁ n).or (t.typeOf n) = (given₂ n).or (t.typeOf n)) (dialect : Dialect) :
    t₁.replay dialect = t₂.replay dialect := by
  have htypeOf : ∀ n, t₁.typeOf n = t₂.typeOf n := by
    intro n
    rw [h₁.typeOf, h₂.typeOf, hsame]
  have hentry : t₁.isEntry = t₂.isEntry := h₁.isEntry.trans h₂.isEntry.symm
  refine replay_congr (h₁.lines.trans h₂.lines.symm) ?_ (h₁.workgroup.trans h₂.workgroup.symm) ?_
    dialect
  · -- the return type of a helper is the type of a name like the others
    rw [t₁.kind_eq, t₂.kind_eq, hentry]
    by_cases hhelper : t₂.isEntry = false
    · have hreturn := htypeOf returnName
      rw [typeOf_returnName (hentry.trans hhelper), typeOf_returnName hhelper] at hreturn
      rw [hreturn]
    · rw [Bool.not_eq_false] at hhelper
      rw [if_pos hhelper, if_pos hhelper]
  · intro n
    by_cases hn : t.isEntry = false ∧ n = returnName
    · rw [hn.2, h₁.covered hn.1, h₂.covered hn.1]
    · have hvisible := htypeOf n
      rw [typeOf_of_not_covered (h₁.isEntry ▸ hn), typeOf_of_not_covered (h₂.isEntry ▸ hn)] at hvisible
      exact hvisible

end Transcript

/-! ## All functions -/

namespace Store

/-- The type of a name of a function. -/
def typeOf (s : Store) (function name : String) : Option ShaderType :=
  (s.get? function).bind (·.typeOf name)

/-- The name of the function can be given a type. -/
def editable (s : Store) (function name : String) : Bool :=
  (s.get? function).any (·.editable name)

/-- The second store is the first one after corrections, `given` saying for each function which names
were given a type and which type was the last. -/
structure Corrected (given : String → String → Option ShaderType) (s s' : Store) : Prop where
  names : s'.names = s.names
  function : ∀ {key t}, s.get? key = some t →
    ∃ t', s'.get? key = some t' ∧ t.Corrected (given key) t'

theorem corrected_refl (s : Store) : s.Corrected (fun _ _ => none) s :=
  ⟨rfl, fun {_ t} ht => ⟨t, ht, t.corrected_refl⟩⟩

theorem Corrected.trans {given given' : String → String → Option ShaderType} {s s' s'' : Store}
    (h : s.Corrected given s') (h' : s'.Corrected given' s'') :
    s.Corrected (fun key n => (given' key n).or (given key n)) s'' := by
  refine ⟨h'.names.trans h.names, fun {key t} ht => ?_⟩
  obtain ⟨t', ht', hcorrected⟩ := h.function ht
  obtain ⟨t'', ht'', hcorrected'⟩ := h'.function ht'
  exact ⟨t'', ht'', hcorrected.trans hcorrected'⟩

theorem get?_eq_none_of_names {s s' : Store} (h : s'.names = s.names) {function : String}
    (hnone : s.get? function = none) : s'.get? function = none := by
  by_contra hsome
  obtain ⟨t, ht⟩ := Option.ne_none_iff_exists'.mp hsome
  have hmem : function ∈ s.names :=
    h ▸ contains_iff_mem_names.mp (Option.isSome_iff_exists.mpr ⟨t, ht⟩)
  obtain ⟨t', ht'⟩ := exists_get?_of_mem_names hmem
  simp [hnone] at ht'

/-- Corrections do not change what can be given a type. -/
theorem Corrected.editable {given : String → String → Option ShaderType} {s s' : Store}
    (h : s.Corrected given s') (function name : String) :
    s'.editable function name = s.editable function name := by
  unfold Store.editable
  cases hget : s.get? function with
  | none => rw [get?_eq_none_of_names h.names hget]
  | some t =>
    obtain ⟨t', ht', hcorrected⟩ := h.function hget
    rw [ht', Option.any_some, Option.any_some, hcorrected.editable]

/-- One edit gives one name of one function its type. -/
theorem corrected_edit {s after : Store} {function name : String} {value : Value} {type : ShaderType}
    {changed : Bool} (htype : ShaderType.ofValue value = .ok type)
    (h : s.edit function name value = .ok (changed, after)) :
    s.Corrected (fun key n => if key = function ∧ n = name then some type else none) after := by
  obtain ⟨t, t', type', hget, htype', hedit, rfl⟩ := edit_eq_ok h
  obtain rfl : type = type' := Except.ok.inj (htype.symm.trans htype')
  have hmem : function ∈ s.names :=
    contains_iff_mem_names.mp (Option.isSome_iff_exists.mpr ⟨t, hget⟩)
  refine ⟨names_insert_of_mem t' hmem, fun {key u} hu => ?_⟩
  rw [get?_insert]
  by_cases hkey : key = function
  · obtain rfl : t = u := Option.some.inj (hget.symm.trans (hkey ▸ hu))
    refine ⟨t', if_pos hkey, ?_⟩
    simpa [hkey] using Transcript.corrected_edit hedit
  · refine ⟨u, by rw [if_neg hkey, hu], ?_⟩
    simpa [hkey] using u.corrected_refl

/-- **When an edit is accepted.** The value has to name a type, and the name has to be one that can be
given a type. -/
theorem exists_edit_iff (s : Store) (function name : String) (value : Value) :
    (∃ changed after, s.edit function name value = .ok (changed, after)) ↔
      s.editable function name = true ∧ ∃ type, ShaderType.ofValue value = .ok type := by
  constructor
  · rintro ⟨changed, after, h⟩
    obtain ⟨t, t', type, hget, htype, hedit, -⟩ := edit_eq_ok h
    have heditable := (t.exists_edit_iff name type).mp ⟨changed, t', hedit⟩
    refine ⟨?_, type, htype⟩
    rw [Store.editable, hget, Option.any_some, heditable]
  · rintro ⟨heditable, type, htype⟩
    unfold Store.editable at heditable
    cases hget : s.get? function with
    | none => simp [hget] at heditable
    | some t =>
      rw [hget, Option.any_some] at heditable
      obtain ⟨changed, t', hedit⟩ := (t.exists_edit_iff name type).mpr heditable
      refine ⟨changed, s.insert function t', ?_⟩
      simp [edit, Store.get, hget, htype, hedit, bind, Except.bind, pure, Except.pure]

/-- Two stores corrected from one, with the same type under every name, are replayed to the same texts
and assembled in the same order. -/
theorem replay_eq_of_corrected {given₁ given₂ : String → String → Option ShaderType}
    {s s₁ s₂ : Store} (hs : s.names.Nodup) (h₁ : s.Corrected given₁ s₁) (h₂ : s.Corrected given₂ s₂)
    (hsame : ∀ key n, (given₁ key n).or (s.typeOf key n) = (given₂ key n).or (s.typeOf key n))
    (dialect : Dialect) :
    s₁.replay dialect = s₂.replay dialect ∧ s₁.outline = s₂.outline := by
  have hnames : s₁.names = s₂.names := h₁.names.trans h₂.names.symm
  have halike : ∀ key t₂ t₁, s₂.get? key = some t₂ → s₁.get? key = some t₁ →
      t₁.name = t₂.name ∧ t₁.isEntry = t₂.isEntry ∧ t₁.replay dialect = t₂.replay dialect := by
    intro key t₂ t₁ ht₂ ht₁
    cases hget : s.get? key with
    | none =>
      rw [get?_eq_none_of_names h₁.names hget] at ht₁
      exact absurd ht₁.symm (Option.some_ne_none t₁)
    | some t =>
      obtain ⟨t₁', ht₁', hfrom₁⟩ := h₁.function hget
      obtain ⟨t₂', ht₂', hfrom₂⟩ := h₂.function hget
      obtain rfl : t₁' = t₁ := Option.some.inj (ht₁'.symm.trans ht₁)
      obtain rfl : t₂' = t₂ := Option.some.inj (ht₂'.symm.trans ht₂)
      refine ⟨hfrom₁.name.trans hfrom₂.name.symm, hfrom₁.isEntry.trans hfrom₂.isEntry.symm, ?_⟩
      refine hfrom₁.replay_eq hfrom₂ (fun n => ?_) dialect
      simpa [typeOf, hget] using hsame key n
  have hnodup : s₂.names.Nodup := h₂.names ▸ hs
  constructor
  · have hwritten := map_values_congr
      (fun t => (do return (t.name, ← t.replay dialect) : Except Fault (String × String))) hnodup
      hnames fun key t₂ t₁ ht₂ ht₁ => by
        obtain ⟨hname, -, hreplay⟩ := halike key t₂ t₁ ht₂ ht₁
        simp only [hname, hreplay]
    have hmapM : ∀ u : Store, (u.values.mapM fun t => do return (t.name, ← t.replay dialect))
        = (u.values.map fun t =>
            (do return (t.name, ← t.replay dialect) : Except Fault (String × String))).mapM id :=
      fun u => by rw [List.mapM_map]; rfl
    rw [replay, replay, hmapM, hmapM, hwritten]
  · refine map_values_congr _ hnodup hnames fun key t₂ t₁ ht₂ ht₁ => ?_
    obtain ⟨hname, hentry, -⟩ := halike key t₂ t₁ ht₂ ht₁
    rw [hname, hentry]

end Store

end KernelShader
