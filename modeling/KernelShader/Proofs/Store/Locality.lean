/-
`Locality.lean` -- what an edit changes in the texts of a store, and what it leaves.

An edit gives one name of one function another type. Of the text written again, it changes the type behind
that name in the places where the name is written with its type, and nothing else: no other line, no other
function, and, as long as the types have a text, not whether the function can be written at all. The places
are read off the tokens of each line (`Transcript.writtenNames`), so which lines change is known before
anything is written. The return type of a helper stands in one place, at the end of its head.
-/
import KernelShader.Proofs.Generator.Variation
import KernelShader.Proofs.Store

set_option autoImplicit false

namespace KernelShader

open NameTable Generator

/-! ## One function -/

namespace Transcript

/-- The lines of the function written again from its table. -/
def replayLines (dialect : Dialect) (t : Transcript) : Except Fault (List String) := do
  let role ← t.generatorRole
  let (lines, _) ← generate dialect .replay role t.types t.lines
  return lines

theorem replayLines_of_ok {t : Transcript} {role : Role} (h : t.generatorRole = .ok role)
    (dialect : Dialect) :
    t.replayLines dialect = (generate dialect .replay role t.types t.lines).map Prod.fst := by
  unfold replayLines
  rw [h]
  cases hlines : generate dialect .replay role t.types t.lines with
  | error fault => simp only [bind, Except.bind, hlines, Except.map]
  | ok pair => simp only [bind, Except.bind, hlines, Except.map, pure, Except.pure]

theorem replayLines_of_error {t : Transcript} {fault : Fault} (h : t.generatorRole = .error fault)
    (dialect : Dialect) : t.replayLines dialect = .error fault := by
  unfold replayLines
  rw [h]
  rfl

theorem replay_eq_map_replayLines (dialect : Dialect) (t : Transcript) :
    t.replay dialect = (t.replayLines dialect).map ("\n".intercalate ·) := by
  unfold replay write
  cases hrole : t.generatorRole with
  | error fault =>
    rw [replayLines_of_error hrole]
    rfl
  | ok role =>
    rw [replayLines_of_ok hrole]
    simp only [bind, Except.bind]
    cases generate dialect .replay role t.types t.lines with
    | error fault => rfl
    | ok pair => rfl

/-- The names that each line of the function writes with a type. -/
def writtenNames (dialect : Dialect) (t : Transcript) : List (List String) :=
  namesByLine dialect t.types t.lines

/-- The second text is the first with another type behind the name, in the given number of places. -/
def Retyped (name : String) (places : Nat) (old new : String) (before after : String) : Prop :=
  ∃ fronts last, fronts.length = places ∧
    before.toList = fill name.toList old.toList fronts last ∧
    after.toList = fill name.toList new.toList fronts last

/-- The lines before and after the type of a name has changed: every line has another type behind the
name wherever it writes the name with its type, and just those lines change. -/
structure RetypesVariable (name old new : String) (names : List (List String))
    (before after : List String) : Prop where
  length_before : before.length = names.length
  length_after : after.length = names.length
  line : ∀ {x : Nat} {written : List String} {b a : String}, names[x]? = some written →
    before[x]? = some b → after[x]? = some a →
    Retyped name (written.count name) old new b a ∧ (b ≠ a ↔ old ≠ new ∧ name ∈ written)

/-- The lines before and after the return type has changed: another type at the end of the head, and no
other line. -/
structure RetypesReturn (old new : String) (before after : List String) : Prop where
  length : after.length = before.length
  others : ∀ x, 0 < x → after[x]? = before[x]?
  first : ∀ {b a : String}, before[0]? = some b → after[0]? = some a →
    (∃ front back, b = front ++ ") -> " ++ old ++ back ∧ a = front ++ ") -> " ++ new ++ back) ∧
    (b ≠ a ↔ old ≠ new)

/-- Both runs fail in the same way, or both give lines that stand in a relation. -/
def BothWrite (R : List String → List String → Prop) (x y : Except Fault (List String)) : Prop :=
  (∃ fault, x = .error fault ∧ y = .error fault) ∨
  (∃ before after, x = .ok before ∧ y = .ok after ∧ R before after)

theorem retypesVariable_of_forall₂ {name : String} {names : List (List String)}
    {texts : List (ShaderType → String)}
    (h : List.Forall₂ (fun written text =>
      Varies name (written.count name) fun type => (text type).toList) names texts)
    (old new : ShaderType) :
    RetypesVariable name old.text new.text names (texts.map (· old)) (texts.map (· new)) where
  length_before := by rw [List.length_map, h.length_eq]
  length_after := by rw [List.length_map, h.length_eq]
  line := by
    intro x written b a hwritten hb ha
    rw [List.getElem?_map, Option.map_eq_some_iff] at hb ha
    obtain ⟨text, htext, rfl⟩ := hb
    obtain ⟨text', htext', rfl⟩ := ha
    obtain rfl : text = text' := Option.some.inj (htext.symm.trans htext')
    have hvaries : Varies name (written.count name) fun type => (text type).toList := by
      obtain ⟨hx, hget⟩ := List.getElem?_eq_some_iff.mp hwritten
      obtain ⟨hx', hget'⟩ := List.getElem?_eq_some_iff.mp htext
      have hline := h.get hx hx'
      simp only [List.get_eq_getElem] at hline
      rw [hget, hget'] at hline
      exact hline
    have hne := hvaries.ne_iff old new
    simp only [ne_eq, String.toList_inj, List.count_pos_iff] at hne
    obtain ⟨fronts, last, hplaces, hfill⟩ := hvaries
    refine ⟨⟨fronts, last, hplaces, hfill old, hfill new⟩, ?_⟩
    rw [ne_eq, hne, and_comm]

/-- **Editing a variable.** -/
theorem replayLines_insert (dialect : Dialect) {t : Transcript} {name : String} {old new : ShaderType}
    (hold : t.types.get? name = some old) (hwritten : old.Writable) (hnew : new.Writable) :
    BothWrite (RetypesVariable name old.text new.text (t.writtenNames dialect))
      (t.replayLines dialect)
      (replayLines dialect { t with types := t.types.insert name new }) := by
  have hcontains : t.types.contains name = true := by rw [contains, hold, Option.isSome_some]
  -- the table as it stands is the one with the old type
  have hsame : t.types.insert name old = t.types := insert_eq_self hold
  cases hrole : t.generatorRole with
  | error fault =>
    have hrole' : generatorRole { t with types := t.types.insert name new } = .error fault := hrole
    exact Or.inl ⟨fault, replayLines_of_error hrole dialect, replayLines_of_error hrole' dialect⟩
  | ok role =>
    have hrole' : generatorRole { t with types := t.types.insert name new } = .ok role := hrole
    rw [replayLines_of_ok hrole, replayLines_of_ok hrole']
    rcases generate_insert dialect role hcontains t.lines with
      ⟨fault, hfault⟩ | ⟨texts, htexts, hforall⟩
    · have hbefore := hfault old hwritten
      rw [hsame] at hbefore
      refine Or.inl ⟨fault, ?_, ?_⟩
      · rw [hbefore]
        rfl
      · rw [hfault new hnew]
        rfl
    · have hbefore := htexts old hwritten
      rw [hsame] at hbefore
      refine Or.inr ⟨texts.map (· old), texts.map (· new), ?_, ?_, ?_⟩
      · rw [hbefore]
        rfl
      · rw [htexts new hnew]
        rfl
      · exact retypesVariable_of_forall₂ hforall old new

theorem retypesReturn_cons (front old new back : String) (rest : List String) :
    RetypesReturn old new ((front ++ ") -> " ++ old ++ back) :: rest)
      ((front ++ ") -> " ++ new ++ back) :: rest) where
  length := rfl
  others := by
    intro x hx
    obtain ⟨y, rfl⟩ := Nat.exists_eq_succ_of_ne_zero (Nat.pos_iff_ne_zero.mp hx)
    rfl
  first := by
    intro b a hb ha
    obtain rfl : front ++ ") -> " ++ old ++ back = b := Option.some.inj hb
    obtain rfl : front ++ ") -> " ++ new ++ back = a := Option.some.inj ha
    refine ⟨⟨front, back, rfl, rfl⟩, not_congr ?_⟩
    rw [String.append_left_inj, String.append_right_inj]

/-- **Editing a return type.** -/
theorem replayLines_returns (dialect : Dialect) {t : Transcript} {returns : Option ShaderType}
    (hkind : t.kind = .helper returns) (hwritten : ∀ old ∈ returns, old.Writable) {new : ShaderType}
    (hnew : new.Writable) :
    BothWrite (RetypesReturn (resultText returns) new.text) (t.replayLines dialect)
      (replayLines dialect { t with kind := .helper (some new) }) := by
  have hrole : t.generatorRole = .ok (.helper returns) := by rw [generatorRole, hkind]
  have hrole' : generatorRole { t with kind := .helper (some new) } = .ok (.helper (some new)) := rfl
  have hresult : returnText returns = .ok (resultText returns) := returnText_eq_ok hwritten
  have hresult' : returnText (some new) = .ok new.text := hnew.write
  rw [replayLines_of_ok hrole, replayLines_of_ok hrole']
  cases t.lines with
  | nil =>
    refine Or.inr ⟨[], [], rfl, rfl, rfl, fun _ _ => rfl, ?_⟩
    intro b a hb
    exact nomatch hb
  | cons first rest =>
    simp only [generate_replay_cons, headText_helper, hresult, hresult']
    cases Declaration.parse first with
    | error fault => exact Or.inl ⟨fault, rfl, rfl⟩
    | ok declaration =>
      cases hparams : declaration.params.mapM (parameterText t.types) with
      | error fault =>
        refine Or.inl ⟨fault, ?_, ?_⟩
        · simp only [bind, Except.bind, hparams, Except.map]
        · simp only [bind, Except.bind, hparams, Except.map]
      | ok params =>
      -- the other types do not depend on the one returned
      cases htail : (lineNames dialect t.types (declaration.tail.drop 1)).mapM
          (parameterText t.types) with
      | error fault =>
        refine Or.inl ⟨fault, ?_, ?_⟩
        · simp only [bind, Except.bind, hparams, htail, Except.map]
        · simp only [bind, Except.bind, hparams, htail, Except.map]
      | ok tail =>
      cases (rest.flatMap (lineNames dialect t.types)).mapM (parameterText t.types) with
      | error fault =>
        refine Or.inl ⟨fault, ?_, ?_⟩
        · simp only [bind, Except.bind, hparams, htail, Except.map]
        · simp only [bind, Except.bind, hparams, htail, Except.map]
      | ok body =>
        refine Or.inr ⟨_, _, ?_, ?_, retypesReturn_cons ("fn " ++ declaration.name ++ "(" ++
          ", ".intercalate params) (resultText returns) new.text
          (tailLine dialect .replay t.types declaration.tail).1
          (rest.map (bodyText dialect t.types))⟩
        · simp only [bind, Except.bind, hparams, htail, Except.map]
          rfl
        · simp only [bind, Except.bind, hparams, htail, Except.map]
          rfl

/-! ## Functions that can still be written -/

theorem exists_parameterText_insert {types : TypeTable} {name param text : String}
    {type : ShaderType} (htype : type.Writable) (h : parameterText types param = .ok text) :
    ∃ text', parameterText (types.insert name type) param = .ok text' := by
  by_cases hparam : param = name
  · refine ⟨name ++ ": " ++ type.text, ?_⟩
    simp only [parameterText, hparam, get?_insert_self, htype.write, Except.map]
  · refine ⟨text, ?_⟩
    rw [parameterText, get?_insert_of_ne _ _ hparam]
    exact h

/-- A function that can be written can be written with another type for one of its names. -/
theorem exists_generate_insert {dialect : Dialect} {role : Role} {types : TypeTable} {name : String}
    {type : ShaderType} (hname : types.contains name = true) (htype : type.Writable)
    {lines : List Line} {written : List String × TypeTable}
    (h : generate dialect .replay role types lines = .ok written) :
    ∃ written', generate dialect .replay role (types.insert name type) lines = .ok written' := by
  have hparams : ∀ {names : List String} {texts : List String},
      names.mapM (parameterText types) = .ok texts →
      ∃ texts', names.mapM (parameterText (types.insert name type)) = .ok texts' := by
    intro names texts hnames
    refine Check.exists_mapM_eq_ok fun p hp => ?_
    obtain ⟨text, -, htext⟩ := Check.exists_of_mapM_eq_ok hnames hp
    exact exists_parameterText_insert htype htext
  cases lines with
  | nil => exact ⟨_, rfl⟩
  | cons first rest =>
    rw [generate_replay_cons] at h
    obtain ⟨declaration, hparse, h⟩ := Check.bind_eq_ok_iff.mp h
    obtain ⟨head, hhead, h⟩ := Check.bind_eq_ok_iff.mp h
    obtain ⟨tail, htail, h⟩ := Check.bind_eq_ok_iff.mp h
    obtain ⟨body, hbody, -⟩ := Check.bind_eq_ok_iff.mp h
    obtain ⟨hrole, htyped⟩ := params_of_headText hhead
    have hhead' : ∀ p ∈ declaration.params,
        ∃ text, parameterText (types.insert name type) p = .ok text := by
      intro p hp
      obtain ⟨old, hold, hwritable⟩ := htyped p hp
      have htext : parameterText types p = .ok (p ++ ": " ++ old.text) := by
        simp only [parameterText, hold, hwritable.write, Except.map]
      exact exists_parameterText_insert htype htext
    obtain ⟨head', hhead'⟩ := exists_headText hrole hhead'
    obtain ⟨tail', htail'⟩ := hparams htail
    obtain ⟨body', hbody'⟩ := hparams hbody
    rw [generate_replay_cons, lineNames_insert dialect hname]
    exact ⟨_, Check.bind_eq_ok_iff.mpr ⟨declaration, hparse, Check.bind_eq_ok_iff.mpr ⟨head', hhead',
      Check.bind_eq_ok_iff.mpr ⟨tail', htail', Check.bind_eq_ok_iff.mpr ⟨body', hbody', rfl⟩⟩⟩⟩⟩

/-- A helper that can be written can be written with another return type. -/
theorem exists_generate_returns {dialect : Dialect} {returns : Option ShaderType} {types : TypeTable}
    {type : ShaderType} (htype : type.Writable) {lines : List Line}
    {written : List String × TypeTable}
    (h : generate dialect .replay (.helper returns) types lines = .ok written) :
    ∃ written', generate dialect .replay (.helper (some type)) types lines = .ok written' := by
  cases lines with
  | nil => exact ⟨_, rfl⟩
  | cons first rest =>
    rw [generate_replay_cons] at h
    obtain ⟨declaration, hparse, h⟩ := Check.bind_eq_ok_iff.mp h
    obtain ⟨head, hhead, h⟩ := Check.bind_eq_ok_iff.mp h
    obtain ⟨params, hparams, -⟩ := Check.bind_eq_ok_iff.mp hhead
    have hhead' : headText (.helper (some type)) types declaration
        = .ok (helperHead type.text declaration.name params) := by
      rw [headText_helper]
      exact Check.bind_eq_ok_iff.mpr
        ⟨params, hparams, Check.map_eq_ok_iff.mpr ⟨type.text, htype.write, rfl⟩⟩
    obtain ⟨tail, htail, h⟩ := Check.bind_eq_ok_iff.mp h
    obtain ⟨body, hbody, -⟩ := Check.bind_eq_ok_iff.mp h
    rw [generate_replay_cons]
    exact ⟨_, Check.bind_eq_ok_iff.mpr ⟨declaration, hparse, Check.bind_eq_ok_iff.mpr ⟨_, hhead',
      Check.bind_eq_ok_iff.mpr ⟨tail, htail, Check.bind_eq_ok_iff.mpr ⟨body, hbody, rfl⟩⟩⟩⟩⟩

theorem exists_replay_of_replayLines {t : Transcript} {dialect : Dialect} {lines : List String}
    (h : t.replayLines dialect = .ok lines) : ∃ text, t.replay dialect = .ok text :=
  ⟨"\n".intercalate lines, by rw [replay_eq_map_replayLines, h]; rfl⟩

/-- An edit to a type that has a text keeps a function writable. -/
theorem exists_replay_of_edit {t t' : Transcript} {name : String} {type : ShaderType}
    {changed : Bool} (hedit : t.edit name type = .ok (changed, t')) (htype : type.Writable)
    {dialect : Dialect} {text : String} (htext : t.replay dialect = .ok text) :
    ∃ text', t'.replay dialect = .ok text' := by
  obtain ⟨written, hwrite, -⟩ := Check.map_eq_ok_iff.mp htext
  obtain ⟨role, lines, types, hrole, hgenerate, -, -⟩ := write_eq_ok_iff.mp hwrite
  have hlines : ∀ {t' : Transcript} {role' : Role} {written' : List String × TypeTable},
      t'.generatorRole = .ok role' →
      generate dialect .replay role' t'.types t'.lines = .ok written' →
      ∃ text', t'.replay dialect = .ok text' := by
    intro t' role' written' hrole' hgenerate'
    have hreplay : t'.replayLines dialect = .ok written'.1 := by
      rw [replayLines_of_ok hrole', hgenerate']
      rfl
    exact exists_replay_of_replayLines hreplay
  rcases edit_cases hedit with ⟨returns, hkind, -, -, rfl⟩ | ⟨old, -, hold, -, rfl⟩
  · obtain rfl : role = .helper returns := by
      rw [generatorRole, hkind] at hrole
      exact (Except.ok.inj hrole).symm
    obtain ⟨written', hgenerate'⟩ := exists_generate_returns htype hgenerate
    exact hlines rfl hgenerate'
  · have hname : t.types.contains name = true := by rw [contains, hold, Option.isSome_some]
    obtain ⟨written', hgenerate'⟩ := exists_generate_insert hname htype hgenerate
    have hrole' : generatorRole { t with types := t.types.insert name type } = .ok role := hrole
    exact hlines hrole' hgenerate'

end Transcript

/-! ## The whole store -/

namespace Store

/-- The stores that recording and editing lead to. -/
inductive Recorded : Store → Prop
  | empty : Recorded .empty
  | record {s after : Store} {t : Transcript} (h : Recorded s) (hrecord : s.record t = .ok after) :
    Recorded after
  | edit {s after : Store} {function variableName : String} {value : Value} {changed : Bool}
    (h : Recorded s) (hedit : s.edit function variableName value = .ok (changed, after)) :
    Recorded after

theorem Recorded.indexed {s : Store} (h : s.Recorded) : s.Indexed := by
  induction h with
  | empty => exact indexed_empty
  | record _ hrecord ih => exact ih.record hrecord
  | edit _ hedit ih =>
    obtain ⟨t, t', type, hget, -, hedit', rfl⟩ := edit_eq_ok hedit
    exact ih.insert hget (Transcript.outline_of_edit hedit').1

/-- Putting back a function that can be written replaces its text in the list of texts. -/
theorem forall₂_writtenAs_insertEntry {dialect : Dialect} {function text : String} {t : Transcript}
    (htext : t.replay dialect = .ok text) {entries : List (String × Transcript)}
    {texts : List (String × String)} (h : List.Forall₂ (WrittenAs dialect) entries texts) :
    List.Forall₂ (WrittenAs dialect) (insertEntry function t entries)
      (insertEntry function text texts) := by
  induction h with
  | nil => exact .cons ⟨rfl, htext⟩ .nil
  | @cons e b entries texts hfirst hrest ih =>
    obtain ⟨key, old⟩ := e
    obtain ⟨key', oldText⟩ := b
    obtain rfl : key' = key := hfirst.1
    simp only [insertEntry]
    by_cases hkey : key' = function
    · rw [if_pos hkey, if_pos hkey]
      exact .cons ⟨rfl, htext⟩ hrest
    · rw [if_neg hkey, if_neg hkey]
      exact .cons hfirst ih

/-- A store with one function put back is written with one text replaced. -/
theorem replay_insert {s : Store} (hs : s.Indexed) {function : String} {t t' : Transcript}
    (hget : s.get? function = some t) (hname : t'.name = t.name) {dialect : Dialect}
    {bodies : Bodies} (hbodies : s.replay dialect = .ok bodies) {text : String}
    (htext : t'.replay dialect = .ok text) :
    Store.replay dialect (s.insert function t') = .ok (bodies.insert function text) := by
  rw [replay_eq_ok_iff (hs.insert hget hname)]
  exact forall₂_writtenAs_insertEntry htext ((replay_eq_ok_iff hs).mp hbodies)

/-- The text that a replay has for a function. -/
theorem exists_replay_of_replay {s : Store} {dialect : Dialect} {bodies : Bodies}
    (h : s.replay dialect = .ok bodies) {t : Transcript} (ht : t ∈ s.values) :
    ∃ text, t.replay dialect = .ok text := by
  unfold replay at h
  obtain ⟨es, hes, -⟩ := Check.bind_eq_ok_iff.mp h
  obtain ⟨b, -, hb⟩ := Check.exists_of_mapM_eq_ok hes ht
  exact ⟨b.2, (replayEntry_eq_ok_iff.mp hb).2⟩

/-- **An edit changes only its places.** Let the old and the new type have a text. Editing a variable then
leaves it as it was whether and why its function cannot be written; if it can, the number of lines stays,
on every line the type behind the variable is replaced where the line writes the variable with its type,
and the lines that change are just those that do so. Editing the return type of a helper changes the end of
its head and no other line. Whatever the types are, no other function is touched, and if the new one has a
text, a store that can be written stays so, with the same text for every other function. -/
theorem edit_changes_only_its_places {s s' : Store} (hs : s.Recorded)
    {function variableName : String} {value : Value} {changed : Bool}
    (hedit : s.edit function variableName value = .ok (changed, s')) (dialect : Dialect) :
    ∃ t t' type, s.get? function = some t ∧ s'.get? function = some t' ∧
      ShaderType.ofValue value = .ok type ∧
      t.replay dialect = (t.replayLines dialect).map ("\n".intercalate ·) ∧
      t'.replay dialect = (t'.replayLines dialect).map ("\n".intercalate ·) ∧
      (t.isEntry = true ∨ variableName ≠ Transcript.returnName →
        ∃ old, t.types.get? variableName = some old ∧
          (old.Writable → type.Writable → Transcript.BothWrite
            (Transcript.RetypesVariable variableName old.text type.text (t.writtenNames dialect))
            (t.replayLines dialect) (t'.replayLines dialect))) ∧
      (t.isEntry = false → variableName = Transcript.returnName →
        (∀ old ∈ t.returns, old.Writable) → type.Writable →
        Transcript.BothWrite (Transcript.RetypesReturn (resultText t.returns) type.text)
          (t.replayLines dialect) (t'.replayLines dialect)) ∧
      (∀ other, other ≠ function → s'.get? other = s.get? other) ∧
      (type.Writable → ∀ bodies, s.replay dialect = .ok bodies →
        ∃ bodies', s'.replay dialect = .ok bodies' ∧ bodies'.names = bodies.names ∧
          ∀ other, other ≠ function → bodies'.get? other = bodies.get? other) := by
  obtain ⟨t, t', type, hget, htype, htedit, rfl⟩ := edit_eq_ok hedit
  have hothers : ∀ other, other ≠ function → (s.insert function t').get? other = s.get? other :=
    fun other hne => get?_insert_of_ne s t' hne
  -- the store is written as before, given that the edited function can be
  have hstore : type.Writable → ∀ bodies, s.replay dialect = .ok bodies →
      ∃ bodies', Store.replay dialect (s.insert function t') = .ok bodies' ∧
        bodies'.names = bodies.names ∧
        ∀ other, other ≠ function → bodies'.get? other = bodies.get? other := by
    intro hwritable bodies hbodies
    obtain ⟨text, htext⟩ := exists_replay_of_replay hbodies (mem_values_of_get? hget)
    obtain ⟨text', htext'⟩ := Transcript.exists_replay_of_edit htedit hwritable htext
    have hname : t'.name = t.name := (Transcript.outline_of_edit htedit).1
    refine ⟨bodies.insert function text', replay_insert hs.indexed hget hname hbodies htext', ?_, ?_⟩
    · refine names_insert_of_mem text' ?_
      rw [names_of_replay hs.indexed hbodies]
      exact contains_iff_mem_names.mp (Option.isSome_iff_exists.mpr ⟨t, hget⟩)
    · intro other hne
      exact get?_insert_of_ne bodies text' hne
  refine ⟨t, t', type, hget, get?_insert_self s function t', htype,
    t.replay_eq_map_replayLines dialect, t'.replay_eq_map_replayLines dialect, ?_⟩
  rcases Transcript.edit_cases htedit with ⟨returns, hkind, hname, -, rfl⟩ | ⟨old, hplace, hold, -, rfl⟩
  · have hhelper : t.isEntry = false := by rw [Transcript.isEntry, hkind]; rfl
    have hreturns : t.returns = returns := by rw [Transcript.returns, hkind]
    refine ⟨?_, fun _ _ hold hnew => ?_, hothers, hstore⟩
    · rintro (hentry | hother)
      · simp [hhelper] at hentry
      · exact absurd hname hother
    · rw [hreturns] at hold ⊢
      exact Transcript.replayLines_returns dialect hkind hold hnew
  · refine ⟨fun _ => ⟨old, hold, Transcript.replayLines_insert dialect hold⟩, ?_, hothers, hstore⟩
    intro hhelper hname
    rcases hplace with hkind | hother
    · simp [Transcript.isEntry, hkind] at hhelper
    · exact absurd hname hother

/-- A helper that writes `a` with its type among its parameters, behind its brace and on its third line;
on its second line `let` is a name, and `a` is not written with a type. -/
def busyHelper : Transcript where
  name := "f"
  kind := .helper (some .f32)
  workgroup := [1, 1, 1]
  lines := [["function", "f", "(", "a", ",", "b", ")", "\x7b", "let", "a", "=", "b", ";"],
    ["let", "let", "a"], ["const", "a", "=", "b", ".", "x"], ["\x7d"]]
  types := ⟨[("a", .f32), ("b", .f32), ("let", .u32)]⟩

/-- The store of that helper. -/
def busyStore : Store := ⟨[("f", busyHelper)]⟩

theorem busyStore_edit_retypes : ∃ s' t' before after, Recorded busyStore ∧
    busyStore.edit "f" "a" (.text "i32") = .ok (true, s') ∧ s'.get? "f" = some t' ∧
    busyHelper.replayLines .current = .ok before ∧ t'.replayLines .current = .ok after ∧
    Transcript.RetypesVariable "a" "f32" "i32" [["a", "b", "a"], ["let"], ["a"], []] before after := by
  have hrecord : Store.record .empty busyHelper = .ok busyStore := rfl
  have hrecorded : Recorded busyStore := .record .empty hrecord
  have hedit : busyStore.edit "f" "a" (.text "i32")
      = .ok (true, busyStore.insert "f" { busyHelper with
          types := busyHelper.types.insert "a" (.scalar .i32) }) := rfl
  obtain ⟨t, t', type, hget, hget', htype, -, -, hvariable, -⟩ :=
    edit_changes_only_its_places hrecorded hedit .current
  obtain rfl : busyHelper = t := by
    have hfound : busyStore.get? "f" = some busyHelper := by decide +kernel
    exact Option.some.inj (hfound.symm.trans hget)
  obtain rfl : ShaderType.scalar .i32 = type := by
    have hread : ShaderType.ofValue (.text "i32") = .ok (.scalar .i32) := rfl
    exact Except.ok.inj (hread.symm.trans htype)
  obtain ⟨old, hold, hboth⟩ := hvariable (Or.inr (by decide))
  obtain rfl : ShaderType.f32 = old := by
    have hfound : busyHelper.types.get? "a" = some .f32 := by decide +kernel
    exact Option.some.inj (hfound.symm.trans hold)
  have hboth := hboth trivial trivial
  have hnames : busyHelper.writtenNames .current = [["a", "b", "a"], ["let"], ["a"], []] := by
    decide +kernel
  have hwrites : (busyHelper.replayLines .current).toOption.isSome = true := by decide +kernel
  rcases hboth with ⟨fault, hfault, -⟩ | ⟨before, after, hbefore, hafter, hretypes⟩
  · rw [hfault] at hwrites
    exact absurd hwrites Bool.false_ne_true
  · rw [hnames] at hretypes
    exact ⟨_, t', before, after, hrecorded, hedit, hget', hbefore, hafter, hretypes⟩

end Store

end KernelShader
