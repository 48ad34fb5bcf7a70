/-
`Store.lean` -- the recorded functions together: recording, editing, replaying and assembling.

A store keeps every function under its own name and no name twice (`Store.Indexed`). Under that, a replay
of the store is a replay of each function, listed under the same names in the same order
(`replay_eq_ok_iff`), and an edit of one function touches the text of no other.

The assembled shader asks two things of a store, in what order its functions come and which of them is
the entry point. `Store.outline` is just that, and since no edit changes it, none changes which texts a
shader is put together from.
-/
import KernelShader.Proofs.Transcript

set_option autoImplicit false

namespace KernelShader.Store

open NameTable

/-! ## Stores in order -/

/-- Every function stands under its own name, and no name is repeated. -/
structure Indexed (s : Store) : Prop where
  nodup : s.names.Nodup
  named : ∀ key t, (key, t) ∈ s.entries → key = t.name

theorem indexed_empty : Indexed (.empty : Store) where
  nodup := List.nodup_nil
  named := fun _ _ h => absurd h List.not_mem_nil

theorem Indexed.names_eq {s : Store} (h : s.Indexed) : s.names = s.values.map Transcript.name := by
  unfold names values
  rw [List.map_map]
  refine List.map_congr_left ?_
  rintro ⟨key, t⟩ hmem
  exact h.named key t hmem

/-! ## Recording -/

/-- **What recording does.** The name was new, an entry point was the first one, and the function comes
last. -/
theorem record_eq_ok {s after : Store} {t : Transcript} (h : s.record t = .ok after) :
    t.name ∉ s.names ∧ (t.isEntry = true → s.entry? = none) ∧
      after.entries = s.entries ++ [(t.name, t)] := by
  unfold record at h
  by_cases hcontains : s.contains t.name = true
  · rw [if_pos hcontains] at h
    exact nomatch h
  · have hnew : t.name ∉ s.names := fun hmem => hcontains (contains_iff_mem_names.mpr hmem)
    rw [if_neg hcontains] at h
    have hinsert : ∀ {x : Store}, x = s.insert t.name t →
        x.entries = s.entries ++ [(t.name, t)] := by
      rintro x rfl
      exact entries_insert_of_not_mem t hnew
    cases hentry : t.isEntry with
    | false =>
      simp only [hentry] at h
      exact ⟨hnew, fun hfalse => absurd hfalse Bool.false_ne_true, hinsert (Except.ok.inj h).symm⟩
    | true =>
      cases hold : s.entry? with
      | some entry =>
        simp only [hentry, hold] at h
        exact nomatch h
      | none =>
        simp only [hentry, hold] at h
        exact ⟨hnew, fun _ => rfl, hinsert (Except.ok.inj h).symm⟩

/-- A function under a new name is recorded, unless it would be a second entry point. -/
theorem exists_record {s : Store} {t : Transcript} (hnew : t.name ∉ s.names)
    (hentry : t.isEntry = true → s.entry? = none) : ∃ after, s.record t = .ok after := by
  have hcontains : ¬ s.contains t.name = true := fun h => hnew (contains_iff_mem_names.mp h)
  unfold record
  rw [if_neg hcontains]
  cases hkind : t.isEntry with
  | false => exact ⟨_, rfl⟩
  | true =>
    rw [hentry hkind]
    exact ⟨_, rfl⟩

theorem Indexed.record {s after : Store} {t : Transcript} (hs : s.Indexed)
    (h : s.record t = .ok after) : after.Indexed := by
  obtain ⟨hnew, -, hentries⟩ := record_eq_ok h
  have hafter : after = s.insert t.name t :=
    congrArg NameTable.mk (hentries.trans (entries_insert_of_not_mem t hnew).symm)
  refine ⟨hafter ▸ nodup_names_insert t.name t hs.nodup, ?_⟩
  intro key t' hmem
  rw [hentries, List.mem_append, List.mem_singleton] at hmem
  rcases hmem with hold | hpair
  · exact hs.named key t' hold
  · rw [Prod.mk.injEq] at hpair
    rw [hpair.1, hpair.2]

/-! ## Editing -/

/-- **What editing does.** One function is edited and put back in its place. -/
theorem edit_eq_ok {s after : Store} {name variableName : String} {value : Value} {changed : Bool}
    (h : s.edit name variableName value = .ok (changed, after)) :
    ∃ t t' type, s.get? name = some t ∧ ShaderType.ofValue value = .ok type ∧
      t.edit variableName type = .ok (changed, t') ∧ after = s.insert name t' := by
  unfold edit at h
  obtain ⟨t, hget, hmore⟩ := Check.bind_eq_ok_iff.mp h
  obtain ⟨type, htype, hrest⟩ := Check.bind_eq_ok_iff.mp hmore
  obtain ⟨⟨changed', t'⟩, hedit, hpair⟩ := Check.bind_eq_ok_iff.mp hrest
  have hparts := Prod.mk.inj (Except.ok.inj hpair)
  refine ⟨t, t', type, ?_, htype, ?_, hparts.2.symm⟩
  · unfold Store.get at hget
    cases hlookup : s.get? name with
    | none =>
      rw [hlookup] at hget
      exact nomatch hget
    | some t₀ =>
      rw [hlookup] at hget
      rw [Except.ok.inj hget]
  · rw [hedit, hparts.1]

/-- Putting an edited function back keeps a store in order. -/
theorem Indexed.insert {s : Store} {name : String} {t t' : Transcript} (hs : s.Indexed)
    (hget : s.get? name = some t) (hname : t'.name = t.name) :
    Indexed (s.insert name t') := by
  refine ⟨nodup_names_insert name t' hs.nodup, ?_⟩
  intro key t₁ hmem
  rcases mem_entries_insert hs.nodup hmem with ⟨hkey, rfl⟩ | ⟨-, hold⟩
  · rw [hkey, hname]
    exact hs.named name t (mem_entries_of_get? hget)
  · exact hs.named key t₁ hold

/-- An edit without a change leaves the store as it was. -/
theorem eq_of_edit_unchanged {s after : Store} {name variableName : String} {value : Value}
    (h : s.edit name variableName value = .ok (false, after)) : after = s := by
  obtain ⟨t, t', type, hget, -, hedit, rfl⟩ := edit_eq_ok h
  rw [Transcript.eq_of_edit_unchanged hedit]
  exact insert_eq_self hget

/-! ## Replaying -/

theorem replayEntry_eq_ok_iff {dialect : Dialect} {t : Transcript} {b : String × String} :
    (do return (t.name, ← t.replay dialect) : Except Fault (String × String)) = .ok b ↔
      b.1 = t.name ∧ t.replay dialect = .ok b.2 := by
  constructor
  · intro h
    obtain ⟨text, htext, hpair⟩ := Check.bind_eq_ok_iff.mp h
    rw [← Except.ok.inj hpair]
    exact ⟨rfl, htext⟩
  · rintro ⟨hname, htext⟩
    refine Check.bind_eq_ok_iff.mpr ⟨b.2, htext, ?_⟩
    rw [← hname]
    rfl

/-- The text listed is that of the function, under the same name. -/
def WrittenAs (dialect : Dialect) (e : String × Transcript) (b : String × String) : Prop :=
  b.1 = e.1 ∧ e.2.replay dialect = .ok b.2

theorem map_fst_of_writtenAs {dialect : Dialect} {entries : List (String × Transcript)}
    {es : List (String × String)} (h : List.Forall₂ (WrittenAs dialect) entries es) :
    es.map Prod.fst = entries.map Prod.fst := by
  induction h with
  | nil => rfl
  | cons hfirst hrest ih => rw [List.map_cons, List.map_cons, hfirst.1, ih]

/-- A replay lists the text of every function under its name, in the order of the store. -/
theorem replay_eq_ok_iff {s : Store} (hs : s.Indexed) {dialect : Dialect} {bodies : Bodies} :
    s.replay dialect = .ok bodies ↔
      List.Forall₂ (WrittenAs dialect) s.entries bodies.entries := by
  -- the texts in a list, before they are made a table
  have hlist : ∀ es : List (String × String),
      (s.values.mapM fun t => do return (t.name, ← t.replay dialect)) = .ok es ↔
        List.Forall₂ (WrittenAs dialect) s.entries es := by
    intro es
    have hnamed : ∀ e ∈ s.entries, e.1 = e.2.name := fun e he => hs.named e.1 e.2 he
    rw [Check.mapM_eq_ok_iff, values, List.forall₂_map_left_iff]
    constructor
    · intro h
      refine ((List.forall₂_and_left _ _).mpr ⟨hnamed, h⟩).imp ?_
      rintro e b ⟨hname, hb⟩
      rw [WrittenAs, hname]
      exact replayEntry_eq_ok_iff.mp hb
    · intro h
      refine ((List.forall₂_and_left _ _).mpr ⟨hnamed, h⟩).imp ?_
      rintro e b ⟨hname, hb⟩
      rw [WrittenAs, hname] at hb
      exact replayEntry_eq_ok_iff.mpr hb
  unfold replay
  constructor
  · intro h
    obtain ⟨es, hes, hok⟩ := Check.bind_eq_ok_iff.mp h
    have hforall := (hlist es).mp hes
    have hnodup : (es.map Prod.fst).Nodup := map_fst_of_writtenAs hforall ▸ hs.nodup
    rw [← Except.ok.inj hok, ofEntries_of_nodup hnodup]
    exact hforall
  · intro h
    have hnodup : (bodies.entries.map Prod.fst).Nodup := map_fst_of_writtenAs h ▸ hs.nodup
    refine Check.bind_eq_ok_iff.mpr ⟨bodies.entries, (hlist _).mpr h, ?_⟩
    rw [ofEntries_of_nodup hnodup]
    rfl

theorem names_of_replay {s : Store} (hs : s.Indexed) {dialect : Dialect} {bodies : Bodies}
    (h : s.replay dialect = .ok bodies) : bodies.names = s.names :=
  map_fst_of_writtenAs ((replay_eq_ok_iff hs).mp h)

/-- A replay has the text of every function under its name. -/
theorem get?_of_replay {s : Store} (hs : s.Indexed) {dialect : Dialect} {bodies : Bodies}
    (h : s.replay dialect = .ok bodies) {t : Transcript} (ht : t ∈ s.values) :
    ∃ text, bodies.get? t.name = some text ∧ t.replay dialect = .ok text := by
  have hnodup : bodies.names.Nodup := names_of_replay hs h ▸ hs.nodup
  have hwritten := (replay_eq_ok_iff hs).mp h
  obtain ⟨⟨key, u⟩, hmem, rfl⟩ := List.mem_map.mp ht
  obtain ⟨b, hb, hname, htext⟩ := Check.exists_of_mem_forall₂ hwritten hmem
  have hkey : u.name = b.1 := (hs.named key u hmem).symm.trans hname.symm
  exact ⟨b.2, hkey ▸ get?_of_mem_entries hnodup hb, htext⟩

/-- A store of complete functions can be replayed if their types can be written. -/
theorem exists_replay {s : Store} {dialect : Dialect} (h : ∀ t ∈ s.values, t.Complete)
    (htypes : ∀ t ∈ s.values, t.TypesWritable) : ∃ bodies, s.replay dialect = .ok bodies := by
  obtain ⟨es, hes⟩ : ∃ es, (s.values.mapM fun t => do return (t.name, ← t.replay dialect)) = .ok es := by
    refine Check.exists_mapM_eq_ok fun t ht => ?_
    obtain ⟨text, htext⟩ := (h t ht).exists_replay (htypes t ht) dialect
    exact ⟨(t.name, text), replayEntry_eq_ok_iff.mpr ⟨rfl, htext⟩⟩
  exact ⟨.ofEntries es, Check.bind_eq_ok_iff.mpr ⟨es, hes, rfl⟩⟩

theorem failsWith_replay {s : Store} (h : ∀ t ∈ s.values, t.Complete) (dialect : Dialect) :
    Check.FailsWith Fault.IsUnprintable (s.replay dialect) := by
  refine Check.FailsWith.bind (.mapM fun t ht => ?_) fun _ _ => .ok _
  exact ((h t ht).failsWith_replay dialect).bind fun _ _ => .ok _

/-- Recording a function with its text goes along with replaying the store. -/
theorem replay_record {s after : Store} (hs : s.Indexed) {t : Transcript} {dialect : Dialect}
    {bodies : Bodies} {text : String} (hrecord : s.record t = .ok after)
    (hreplay : s.replay dialect = .ok bodies) (htext : t.replay dialect = .ok text) :
    after.replay dialect = .ok (bodies.insert t.name text) := by
  obtain ⟨hnew, -, hentries⟩ := record_eq_ok hrecord
  have hnames := names_of_replay hs hreplay
  rw [replay_eq_ok_iff (hs.record hrecord), hentries,
    entries_insert_of_not_mem text (hnames ▸ hnew)]
  exact List.rel_append ((replay_eq_ok_iff hs).mp hreplay) (.cons ⟨rfl, htext⟩ .nil)

/-- What is replayed after recording could be replayed before. -/
theorem exists_replay_of_record {s after : Store} {t : Transcript} {dialect : Dialect}
    {bodies : Bodies} (hrecord : s.record t = .ok after) (h : after.replay dialect = .ok bodies) :
    ∃ old, s.replay dialect = .ok old := by
  obtain ⟨-, -, hentries⟩ := record_eq_ok hrecord
  have hvalues : after.values = s.values ++ [t] := by
    rw [values, hentries, List.map_append]
    rfl
  obtain ⟨texts, htexts, -⟩ := Check.bind_eq_ok_iff.mp h
  rw [hvalues, List.mapM_append] at htexts
  obtain ⟨old, hold, -⟩ := Check.bind_eq_ok_iff.mp htexts
  exact ⟨.ofEntries old, Check.bind_eq_ok_iff.mpr ⟨old, hold, rfl⟩⟩

/-! ## Assembling -/

/-- The names of the functions in order, and which of them is the entry point. -/
def outline (s : Store) : List (String × Bool) :=
  s.values.map fun t => (t.name, t.isEntry)

/-- The text that is kept for a function. -/
def bodyOf (bodies : Bodies) (name : String) : Except Fault String :=
  match bodies.get? name with
  | some text => .ok text
  | none => .error (.missingBody name)

theorem map_name_helpers (s : Store) :
    s.helpers.map Transcript.name = (s.outline.filter (!·.2)).map Prod.fst := by
  unfold helpers outline
  rw [List.filter_map, List.map_map]
  rfl

theorem map_name_entry? (s : Store) :
    s.entry?.map Transcript.name = (s.outline.find? (·.2)).map Prod.fst := by
  unfold entry? outline
  rw [List.find?_map, Option.map_map]
  rfl

/-- A recorded function comes last. -/
theorem outline_record {s after : Store} {t : Transcript} (h : s.record t = .ok after) :
    after.outline = s.outline ++ [(t.name, t.isEntry)] := by
  obtain ⟨-, -, hentries⟩ := record_eq_ok h
  unfold outline values
  rw [hentries, List.map_append, List.map_append]
  rfl

/-- Recording keeps it to one entry point. -/
theorem length_entries_record {s after : Store} {t : Transcript} (h : s.record t = .ok after)
    (hone : (s.outline.filter (·.2)).length ≤ 1) : (after.outline.filter (·.2)).length ≤ 1 := by
  obtain ⟨-, hfirst, -⟩ := record_eq_ok h
  rw [outline_record h, List.filter_append]
  cases hentry : t.isEntry with
  | false => simpa using hone
  | true =>
    have hnone : s.outline.find? (·.2) = none := by
      have hname := s.map_name_entry?
      rw [hfirst hentry, Option.map_none] at hname
      exact Option.map_eq_none_iff.mp hname.symm
    have hempty : s.outline.filter (·.2) = [] :=
      List.filter_eq_nil_iff.mpr (List.find?_eq_none.mp hnone)
    simp [hempty]

/-- A shader is assembled from the outline of a store and the texts, and from nothing else. -/
theorem assemble_eq (header : List String) (s : Store) (bodies : Bodies) :
    s.assemble header bodies = (do
      let functions ← ((s.outline.filter (!·.2)).map Prod.fst).mapM (bodyOf bodies)
      let entryPoint ← ((s.outline.find? (·.2)).map Prod.fst).mapM (bodyOf bodies)
      return { header, functions, entryPoint }) := by
  rw [← map_name_helpers, ← map_name_entry?]
  unfold assemble
  rw [List.mapM_map]
  cases s.entry? with
  | none => rfl
  | some entry => rfl

theorem assemble_congr {s s' : Store} (h : s'.outline = s.outline) (header : List String)
    (bodies : Bodies) : s'.assemble header bodies = s.assemble header bodies := by
  rw [assemble_eq, assemble_eq, h]

theorem exists_bodyOf {bodies : Bodies} {name : String} (h : name ∈ bodies.names) :
    ∃ text, bodyOf bodies name = .ok text := by
  obtain ⟨text, htext⟩ := exists_get?_of_mem_names h
  refine ⟨text, ?_⟩
  rw [bodyOf, htext]

/-- With a text for every function there is a shader. -/
theorem exists_assemble {s : Store} (hs : s.Indexed) {bodies : Bodies} (header : List String)
    (h : bodies.names = s.names) : ∃ source, s.assemble header bodies = .ok source := by
  have hname : ∀ p ∈ s.outline, ∃ text, bodyOf bodies p.1 = .ok text := by
    intro p hp
    obtain ⟨t, ht, rfl⟩ := List.mem_map.mp hp
    refine exists_bodyOf ?_
    rw [h, hs.names_eq]
    exact List.mem_map.mpr ⟨t, ht, rfl⟩
  obtain ⟨functions, hfunctions⟩ :
      ∃ fs, ((s.outline.filter (!·.2)).map Prod.fst).mapM (bodyOf bodies) = .ok fs := by
    refine Check.exists_mapM_eq_ok fun name hmem => ?_
    obtain ⟨p, hp, rfl⟩ := List.mem_map.mp hmem
    exact hname p (List.mem_of_mem_filter hp)
  obtain ⟨entryPoint, hentry⟩ :
      ∃ e, ((s.outline.find? (·.2)).map Prod.fst).mapM (bodyOf bodies) = .ok e := by
    cases hfind : s.outline.find? (·.2) with
    | none => exact ⟨none, rfl⟩
    | some p =>
      obtain ⟨text, htext⟩ := hname p (List.mem_of_find?_eq_some hfind)
      exact ⟨some text, Check.bind_eq_ok_iff.mpr ⟨text, htext, rfl⟩⟩
  refine ⟨{ header, functions, entryPoint }, ?_⟩
  rw [assemble_eq]
  exact Check.bind_eq_ok_iff.mpr ⟨functions, hfunctions,
    Check.bind_eq_ok_iff.mpr ⟨entryPoint, hentry, rfl⟩⟩

/-- **What a shader is made of.** The text of every helper in order, and that of the entry point. -/
theorem assemble_eq_ok {s : Store} {header : List String} {bodies : Bodies} {source : ShaderSource}
    (h : s.assemble header bodies = .ok source) :
    source.header = header ∧
    List.Forall₂ (fun name text => bodies.get? name = some text)
      ((s.outline.filter (!·.2)).map Prod.fst) source.functions ∧
    List.Forall₂ (fun name text => bodies.get? name = some text)
      ((s.outline.find? (·.2)).map Prod.fst).toList source.entryPoint.toList := by
  have hkept : ∀ {name text}, bodyOf bodies name = .ok text → bodies.get? name = some text := by
    intro name text hbody
    unfold bodyOf at hbody
    split at hbody
    · rename_i text' hget
      rw [hget, Except.ok.inj hbody]
    · exact nomatch hbody
  rw [assemble_eq] at h
  obtain ⟨functions, hfunctions, h⟩ := Check.bind_eq_ok_iff.mp h
  obtain ⟨entryPoint, hentry, h⟩ := Check.bind_eq_ok_iff.mp h
  rw [← Except.ok.inj h]
  refine ⟨rfl, (Check.mapM_eq_ok_iff.mp hfunctions).imp fun _ _ => hkept, ?_⟩
  cases hfind : s.outline.find? (·.2) with
  | none =>
    rw [hfind] at hentry
    rw [← Except.ok.inj hentry]
    exact .nil
  | some p =>
    rw [hfind] at hentry
    obtain ⟨text, htext, hsome⟩ := Check.bind_eq_ok_iff.mp hentry
    rw [← Except.ok.inj hsome]
    exact .cons (hkept htext) .nil

theorem isSome_entryPoint {s : Store} {header : List String} {bodies : Bodies}
    {source : ShaderSource} (h : s.assemble header bodies = .ok source) :
    source.entryPoint.isSome = s.entry?.isSome := by
  have hlength := (assemble_eq_ok h).2.2.length_eq
  rw [← map_name_entry?] at hlength
  cases hentry : s.entry? <;> cases hpoint : source.entryPoint <;> simp_all

/-- With other declarations in front, the functions are the same. -/
theorem assemble_of_header {s : Store} {header : List String} {bodies : Bodies}
    {source : ShaderSource} (h : s.assemble header bodies = .ok source) (header' : List String) :
    s.assemble header' bodies = .ok { source with header := header' } := by
  rw [assemble_eq] at h ⊢
  obtain ⟨functions, hfunctions, h⟩ := Check.bind_eq_ok_iff.mp h
  obtain ⟨entryPoint, hentry, h⟩ := Check.bind_eq_ok_iff.mp h
  rw [← Except.ok.inj h]
  exact Check.bind_eq_ok_iff.mpr ⟨functions, hfunctions,
    Check.bind_eq_ok_iff.mpr ⟨entryPoint, hentry, rfl⟩⟩

/-- No edit changes what a shader is assembled from. -/
theorem outline_of_edit {s after : Store} {name variableName : String} {value : Value}
    {changed : Bool} (h : s.edit name variableName value = .ok (changed, after)) :
    after.outline = s.outline := by
  obtain ⟨t, t', type, hget, -, hedit, rfl⟩ := edit_eq_ok h
  obtain ⟨hname, hentry⟩ := Transcript.outline_of_edit hedit
  refine map_values_insert _ hget ?_
  rw [hname, hentry]

end KernelShader.Store
