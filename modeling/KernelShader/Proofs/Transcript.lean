/-
`Transcript.lean` -- recorded functions: what keeps them writable, and what an edit can do to them.

Writing a function again asks for three things: a declaration line, a type for every parameter, and a text
for every number in it, the workgroup size and the lengths of the types. A function that has been read once
has the first two and its workgroup size, and `Transcript.Complete` says so without mentioning the writing,
so that it can be carried along: an edit gives a type to a name that has one and takes none away, and
everything else it leaves as it is. The types are another matter, an edit may bring in any. So a complete
transcript can be written if its types can, and if it cannot, then because of a number that is too long.

An edit does one of two things, `edit_cases` says which, and nothing later looks into `Transcript.edit`
again.
-/
import KernelShader.Transcript
import KernelShader.Proofs.Generator.Replay
import KernelShader.Proofs.ShaderType.Writer

set_option autoImplicit false

namespace KernelShader

open NameTable

/-! ## Functions that can be written -/

namespace Generator

/-- Every type of the table can be written. -/
def TypesWritable (types : TypeTable) : Prop :=
  ∀ name type, types.get? name = some type → type.Writable

theorem typesWritable_of_values {types : TypeTable} (h : ∀ type ∈ types.values, type.Writable) :
    TypesWritable types := fun _ type htype => h type (mem_values_of_get? htype)

/-- The number of invocations of an entry point is not too long to be written. -/
def Role.Sized : Role → Prop
  | .helper _ => True
  | .entry invocations => Numeral.Writable invocations

/-- What the function returns, or the number of its invocations, is not too long to be written. -/
def Role.Writable : Role → Prop
  | .helper returns => ∀ type ∈ returns, type.Writable
  | .entry invocations => Numeral.Writable invocations

theorem TypesWritable.mono {types u : TypeTable} (h : TypesWritable u)
    (hgrows : types.entries <+: u.entries) : TypesWritable types :=
  fun name type htype => h name type (get?_mono hgrows htype)

theorem TypesWritable.parameterText {types : TypeTable} (h : TypesWritable types) {name : String}
    (hname : types.contains name = true) : ∃ text, parameterText types name = .ok text := by
  obtain ⟨type, htype⟩ := Option.isSome_iff_exists.mp hname
  refine ⟨name ++ ": " ++ type.text, ?_⟩
  rw [Generator.parameterText, htype]
  exact Check.map_eq_ok_iff.mpr ⟨type.text, (h name type htype).write, rfl⟩

theorem exists_returnText {returns : Option ShaderType} (h : ∀ type ∈ returns, type.Writable) :
    ∃ text, returnText returns = .ok text := by
  cases returns with
  | none => exact ⟨_, rfl⟩
  | some type => exact ⟨_, (h type rfl).write⟩

/-- A head can be written if its parameters and its role can. -/
theorem exists_headText {role : Role} {types : TypeTable} {declaration : Declaration}
    (hrole : role.Writable)
    (hparams : ∀ p ∈ declaration.params, ∃ text, parameterText types p = .ok text) :
    ∃ head, headText role types declaration = .ok head := by
  obtain ⟨params, hmapM⟩ := Check.exists_mapM_eq_ok hparams
  cases role with
  | helper returns =>
    obtain ⟨result, hresult⟩ := exists_returnText hrole
    exact ⟨_, Check.bind_eq_ok_iff.mpr ⟨params, hmapM,
      Check.bind_eq_ok_iff.mpr ⟨result, hresult, rfl⟩⟩⟩
  | entry invocations =>
    have hsize := Numeral.write_eq_ok_iff.mpr ⟨hrole, rfl⟩
    exact ⟨_, Check.bind_eq_ok_iff.mpr ⟨_, hsize,
      Check.bind_eq_ok_iff.mpr ⟨params, hmapM, rfl⟩⟩⟩

theorem TypesWritable.lineFits {types : TypeTable} (h : TypesWritable types) (dialect : Dialect)
    (line : Line) : LineFits dialect types line :=
  fun _ hname => h.parameterText (contains_of_mem_lineNames hname)

theorem TypesWritable.linesFit {dialect : Dialect} {phase : Phase} {types : TypeTable}
    {lines : List Line} (h : TypesWritable (bodyLines dialect phase types lines).2) :
    LinesFit dialect phase types lines := by
  induction lines generalizing types with
  | nil => exact trivial
  | cons line rest ih =>
    exact ⟨(h.mono (prefix_bodyLines dialect phase _ rest)).lineFits dialect line, ih h⟩

/-- A function with a declaration line whose parameters have types can be written, whatever follows, if
the types of the table that this leaves can. -/
theorem exists_generate {dialect : Dialect} {phase : Phase} {role : Role} {types : TypeTable}
    {first : Line} {rest : List Line} {declaration : Declaration} (hrole : role.Writable)
    (hparse : Declaration.parse first = .ok declaration)
    (hparams : ∀ p ∈ declaration.params, types.contains p = true)
    (htypes : TypesWritable
      (bodyLines dialect phase (tailLine dialect phase types declaration.tail).2 rest).2) :
    ∃ texts after, generate dialect phase role types (first :: rest) = .ok (texts, after) := by
  have htail := htypes.mono (prefix_bodyLines dialect phase _ rest)
  have hfirst := htail.mono (prefix_tailLine dialect phase types declaration.tail)
  obtain ⟨head, hhead⟩ := exists_headText hrole fun p hp => hfirst.parameterText (hparams p hp)
  exact ⟨_, _, generate_cons_eq_ok_iff.mpr ⟨declaration, head, hparse, hhead,
    ⟨htail.lineFits dialect _, htypes.linesFit⟩, rfl, rfl⟩⟩

/-! ## How writing fails -/

theorem failsWith_parameterText {types : TypeTable} {name : String}
    (h : types.contains name = true) :
    Check.FailsWith Fault.IsUnprintable (parameterText types name) := by
  obtain ⟨type, htype⟩ := Option.isSome_iff_exists.mp h
  rw [parameterText, htype]
  exact (ShaderType.failsWith_write type).map _

theorem failsWith_headText (role : Role) {types : TypeTable} {declaration : Declaration}
    (hparams : ∀ p ∈ declaration.params, types.contains p = true) :
    Check.FailsWith Fault.IsUnprintable (headText role types declaration) := by
  have hmapM : Check.FailsWith Fault.IsUnprintable (declaration.params.mapM (parameterText types)) :=
    .mapM fun p hp => failsWith_parameterText (hparams p hp)
  cases role with
  | helper returns =>
    refine hmapM.bind fun params _ => Check.FailsWith.bind ?_ fun result _ => .ok _
    cases returns with
    | none => exact .ok _
    | some type => exact ShaderType.failsWith_write type
  | entry invocations =>
    exact (Numeral.failsWith_write invocations).bind fun size _ => hmapM.bind fun params _ => .ok _

theorem failsWith_writeLine (dialect : Dialect) (phase : Phase) (types : TypeTable) (line : Line) :
    Check.FailsWith Fault.IsUnprintable (writeLine dialect phase types line) := by
  refine Check.FailsWith.bind ?_ fun _ _ => .ok _
  exact .mapM fun name hname => failsWith_parameterText (contains_of_mem_lineNames hname)

theorem failsWith_writeTail (dialect : Dialect) (phase : Phase) (types : TypeTable) (tail : Line) :
    Check.FailsWith Fault.IsUnprintable (writeTail dialect phase types tail) := by
  rcases tail with _ | ⟨token, _ | ⟨second, rest⟩⟩
  · exact .ok _
  · exact .ok _
  · exact (failsWith_writeLine dialect phase types _).bind fun _ _ => .ok _

theorem failsWith_writeLines (dialect : Dialect) (phase : Phase) (types : TypeTable)
    (lines : List Line) :
    Check.FailsWith Fault.IsUnprintable (writeLines dialect phase types lines) := by
  induction lines generalizing types with
  | nil => exact .ok _
  | cons line rest ih =>
    exact (failsWith_writeLine dialect phase types line).bind fun written _ =>
      (ih written.2).bind fun _ _ => .ok _

/-- A function with a declaration line and types for its parameters fails to be written only because of a
number that is too long. -/
theorem failsWith_generate (dialect : Dialect) (phase : Phase) (role : Role) {types : TypeTable}
    {first : Line} {declaration : Declaration} (hparse : Declaration.parse first = .ok declaration)
    (hparams : ∀ p ∈ declaration.params, types.contains p = true) (rest : List Line) :
    Check.FailsWith Fault.IsUnprintable (generate dialect phase role types (first :: rest)) := by
  refine Check.FailsWith.bind ?_ fun line _ =>
    (failsWith_writeLines dialect phase line.2 rest).bind fun _ _ => .ok _
  unfold declarationLine
  rw [hparse]
  exact (failsWith_headText role hparams).bind fun head _ =>
    (failsWith_writeTail dialect phase types declaration.tail).bind fun _ _ => .ok _

/-! ## What has been written -/

theorem exists_of_parameterText {types : TypeTable} {name text : String}
    (h : parameterText types name = .ok text) :
    ∃ type, types.get? name = some type ∧ type.Writable := by
  unfold parameterText at h
  cases htype : types.get? name with
  | none =>
    rw [htype] at h
    exact nomatch h
  | some type =>
    rw [htype] at h
    obtain ⟨written, hwritten, -⟩ := Check.map_eq_ok_iff.mp h
    exact ⟨type, rfl, (ShaderType.write_eq_ok_iff.mp hwritten).1⟩

/-- A head that has been written had types for all parameters, and all that stands in it has a text. -/
theorem params_of_headText {role : Role} {types : TypeTable} {declaration : Declaration}
    {head : String} (h : headText role types declaration = .ok head) :
    role.Writable ∧
      ∀ p ∈ declaration.params, ∃ type, types.get? p = some type ∧ type.Writable := by
  have hall : ∀ {texts : List String}, declaration.params.mapM (parameterText types) = .ok texts →
      ∀ p ∈ declaration.params, ∃ type, types.get? p = some type ∧ type.Writable := by
    intro texts hmapM p hp
    obtain ⟨text, -, htext⟩ := Check.exists_of_mapM_eq_ok hmapM hp
    exact exists_of_parameterText htext
  cases role with
  | helper returns =>
    obtain ⟨params, hparams, hmore⟩ := Check.bind_eq_ok_iff.mp h
    obtain ⟨result, hresult, -⟩ := Check.bind_eq_ok_iff.mp hmore
    refine ⟨?_, hall hparams⟩
    rintro type ⟨⟩
    exact (ShaderType.write_eq_ok_iff.mp hresult).1
  | entry invocations =>
    obtain ⟨size, hsize, hmore⟩ := Check.bind_eq_ok_iff.mp h
    obtain ⟨params, hparams, -⟩ := Check.bind_eq_ok_iff.mp hmore
    exact ⟨(Numeral.write_eq_ok_iff.mp hsize).1, hall hparams⟩

theorem Role.Writable.sized {role : Role} (h : role.Writable) : role.Sized := by
  cases role with
  | helper returns => exact trivial
  | entry invocations => exact h

end Generator

/-! ## Complete transcripts -/

namespace Transcript

/-- All is there that writing the function again asks for: a declaration line, a type for each
parameter on it, and a place in the shader, with a number of invocations that has a text. -/
def Complete (t : Transcript) : Prop :=
  ∃ first rest declaration role, t.lines = first :: rest ∧
    Declaration.parse first = .ok declaration ∧
    (∀ p ∈ declaration.params, t.types.contains p = true) ∧
    t.generatorRole = .ok role ∧ role.Sized

/-- Every type on record can be written. -/
def TypesWritable (t : Transcript) : Prop :=
  Generator.TypesWritable t.types ∧ ∀ type ∈ t.returns, type.Writable

theorem write_eq_ok_iff {phase : Generator.Phase} {dialect : Dialect} {t after : Transcript}
    {text : String} :
    t.write phase dialect = .ok (text, after) ↔
      ∃ role lines types, t.generatorRole = .ok role ∧
        Generator.generate dialect phase role t.types t.lines = .ok (lines, types) ∧
        text = "\n".intercalate lines ∧ after = { t with types } := by
  unfold write
  constructor
  · intro h
    obtain ⟨role, hrole, hmore⟩ := Check.bind_eq_ok_iff.mp h
    obtain ⟨⟨lines, types⟩, hgenerate, hpair⟩ := Check.bind_eq_ok_iff.mp hmore
    have hparts := Prod.mk.inj (Except.ok.inj hpair)
    exact ⟨role, lines, types, hrole, hgenerate, hparts.1.symm, hparts.2.symm⟩
  · rintro ⟨role, lines, types, hrole, hgenerate, rfl, rfl⟩
    refine Check.bind_eq_ok_iff.mpr ⟨role, hrole, ?_⟩
    exact Check.bind_eq_ok_iff.mpr ⟨(lines, types), hgenerate, rfl⟩

theorem TypesWritable.role {t : Transcript} (h : t.TypesWritable) {role : Generator.Role}
    (hrole : t.generatorRole = .ok role) (hsized : role.Sized) : role.Writable := by
  obtain ⟨name, lines, types, kind, workgroup⟩ := t
  cases kind with
  | helper returns =>
    obtain rfl : Generator.Role.helper returns = role := Except.ok.inj hrole
    exact h.2
  | entry =>
    obtain ⟨size, -, hsize⟩ := Check.bind_eq_ok_iff.mp hrole
    obtain rfl : Generator.Role.entry size.volume = role := Except.ok.inj hsize
    exact hsized

/-- A complete transcript can be written again, in either dialect, if its types can be written. -/
theorem Complete.exists_replay {t : Transcript} (h : t.Complete) (htypes : t.TypesWritable)
    (dialect : Dialect) : ∃ text, t.replay dialect = .ok text := by
  obtain ⟨first, rest, declaration, role, hlines, hparse, hparams, hrole, hsized⟩ := h
  have htable : Generator.TypesWritable (Generator.bodyLines dialect .replay
      (Generator.tailLine dialect .replay t.types declaration.tail).2 rest).2 := by
    rw [Generator.bodyLines_replay_table, Generator.tailLine_replay_table]
    exact htypes.1
  obtain ⟨texts, after, hgenerate⟩ :=
    Generator.exists_generate (htypes.role hrole hsized) hparse hparams htable
  rw [← hlines] at hgenerate
  exact ⟨_, Check.map_eq_ok_iff.mpr
    ⟨_, write_eq_ok_iff.mpr ⟨role, texts, after, hrole, hgenerate, rfl, rfl⟩, rfl⟩⟩

/-- A complete transcript that cannot be written again holds a number that is too long. -/
theorem Complete.failsWith_replay {t : Transcript} (h : t.Complete) (dialect : Dialect) :
    Check.FailsWith Fault.IsUnprintable (t.replay dialect) := by
  obtain ⟨first, rest, declaration, role, hlines, hparse, hparams, hrole, -⟩ := h
  refine Check.FailsWith.map _ ?_
  unfold write
  rw [hrole, hlines]
  exact (Generator.failsWith_generate dialect .replay role hparse hparams rest).bind fun _ _ => .ok _

/-- What has been written once is complete, with the table that the writing left. -/
theorem complete_of_write {phase : Generator.Phase} {dialect : Dialect} {t after : Transcript}
    {text : String} (hlines : t.lines ≠ []) (h : t.write phase dialect = .ok (text, after)) :
    after.Complete := by
  obtain ⟨role, lines, types, hrole, hgenerate, -, rfl⟩ := write_eq_ok_iff.mp h
  obtain ⟨first, rest, hcons⟩ := List.exists_cons_of_ne_nil hlines
  rw [hcons] at hgenerate
  obtain ⟨declaration, head, hparse, hhead, -⟩ := Generator.generate_cons_eq_ok_iff.mp hgenerate
  obtain ⟨hwritable, hparams⟩ := Generator.params_of_headText hhead
  refine ⟨first, rest, declaration, role, hcons, hparse, ?_, hrole, hwritable.sized⟩
  intro p hp
  obtain ⟨type, htype, -⟩ := hparams p hp
  exact contains_mono (Generator.prefix_generate hgenerate) (Option.isSome_iff_exists.mpr ⟨type, htype⟩)

/-- The text of a first reading is the text of a replay from the table it left. -/
theorem replay_of_write {dialect : Dialect} {t after : Transcript} {text : String}
    (h : t.write .infer dialect = .ok (text, after)) : after.replay dialect = .ok text := by
  obtain ⟨role, lines, types, hrole, hgenerate, rfl, rfl⟩ := write_eq_ok_iff.mp h
  have hreplay := Generator.generate_replay hgenerate List.prefix_rfl
  exact Check.map_eq_ok_iff.mpr ⟨_, write_eq_ok_iff.mpr ⟨role, lines, types, hrole, hreplay, rfl, rfl⟩, rfl⟩

theorem isEntry_helper {t : Transcript} {returns : Option ShaderType}
    (h : t.kind = .helper returns) : t.isEntry = false := by
  rw [isEntry, h]
  rfl

/-! ## Edits -/

/-- **What an edit does.** It changes the return type of a helper, or the type that a name of the table
has, and answers whether that was a change. -/
theorem edit_cases {t after : Transcript} {name : String} {type : ShaderType} {changed : Bool}
    (h : t.edit name type = .ok (changed, after)) :
    (∃ returns, t.kind = .helper returns ∧ name = returnName ∧ changed = (returns != some type) ∧
      after = { t with kind := .helper (some type) }) ∨
    (∃ old, (t.kind = .entry ∨ name ≠ returnName) ∧ t.types.get? name = some old ∧
      changed = (old != type) ∧ after = { t with types := t.types.insert name type }) := by
  obtain ⟨function, lines, types, kind, workgroup⟩ := t
  cases kind with
  | helper returns =>
    by_cases hname : name = returnName
    · simp only [edit, if_pos hname] at h
      have hparts := Prod.mk.inj (Except.ok.inj h)
      exact Or.inl ⟨returns, rfl, hname, hparts.1.symm, hparts.2.symm⟩
    · simp only [edit, if_neg hname] at h
      cases hget : types.get? name with
      | none => simp only [hget, reduceCtorEq] at h
      | some old =>
        simp only [hget] at h
        have hparts := Prod.mk.inj (Except.ok.inj h)
        exact Or.inr ⟨old, Or.inr hname, rfl, hparts.1.symm, hparts.2.symm⟩
  | entry =>
    simp only [edit] at h
    cases hget : types.get? name with
    | none => simp only [hget, reduceCtorEq] at h
    | some old =>
      simp only [hget] at h
      have hparts := Prod.mk.inj (Except.ok.inj h)
      exact Or.inr ⟨old, Or.inl rfl, rfl, hparts.1.symm, hparts.2.symm⟩

/-- An edit that changes nothing leaves the transcript as it was. -/
theorem eq_of_edit_unchanged {t after : Transcript} {name : String} {type : ShaderType}
    (h : t.edit name type = .ok (false, after)) : after = t := by
  rcases edit_cases h with ⟨returns, hkind, -, hsame, rfl⟩ | ⟨old, -, hold, hsame, rfl⟩
  · have hreturns : returns = some type := by simpa using hsame
    rw [← hreturns, ← hkind]
  · have htype : old = type := by simpa using hsame
    rw [insert_eq_self (htype ▸ hold)]

/-- An edit keeps the name of a function and whether it is the entry point. -/
theorem outline_of_edit {t after : Transcript} {name : String} {type : ShaderType} {changed : Bool}
    (h : t.edit name type = .ok (changed, after)) :
    after.name = t.name ∧ after.isEntry = t.isEntry := by
  rcases edit_cases h with ⟨returns, hkind, -, -, rfl⟩ | ⟨old, -, -, -, rfl⟩
  · refine ⟨rfl, ?_⟩
    unfold isEntry
    rw [hkind]
    rfl
  · exact ⟨rfl, rfl⟩

theorem Complete.edit {t after : Transcript} {name : String} {type : ShaderType} {changed : Bool}
    (hcomplete : t.Complete) (h : t.edit name type = .ok (changed, after)) : after.Complete := by
  obtain ⟨first, rest, declaration, role, hlines, hparse, hparams, hrole, hsized⟩ := hcomplete
  rcases edit_cases h with ⟨returns, hkind, -, -, rfl⟩ | ⟨old, -, -, -, rfl⟩
  · exact ⟨first, rest, declaration, .helper (some type), hlines, hparse, hparams, rfl, trivial⟩
  · refine ⟨first, rest, declaration, role, hlines, hparse, ?_, hrole, hsized⟩
    intro p hp
    rw [contains_insert, hparams p hp, Bool.or_true]

end Transcript

end KernelShader
