/-
`Acceptance.lean` -- when a function is added.

Adding a function checks its source, gives types to its parameters, writes it for the first time and
records it. The writing is by far the largest part, and it asks for the least: a source that has been
checked has a declaration line, its parameters have just been given types, and all that can still be wrong
is a number that is too long to be written. So a function is added exactly if its source and its types are
in order and its name is new, and whatever else happens is a fault about the arguments.
-/
import KernelShader.Proofs.Arguments
import KernelShader.Proofs.Generator.Extent
import KernelShader.Proofs.Session.Texts

set_option autoImplicit false

namespace KernelShader.Session

/-! ## Reading -/

/-- Functions of the kind, with the workgroup size, have the role in a shader. -/
def HasRole (kind : FunctionKind) (workgroup : List Int) (role : Generator.Role) : Prop :=
  ∀ name lines types, Transcript.generatorRole ⟨name, lines, types, kind, workgroup⟩ = .ok role

theorem hasRole_helper (returns : Option ShaderType) (workgroup : List Int) :
    HasRole (.helper returns) workgroup (.helper returns) := fun _ _ _ => rfl

theorem hasRole_entry {v : Value} {w : Workgroup.Size} (h : Workgroup.size v = .ok w) :
    HasRole .entry (w.toList.map Int.ofNat) (.entry w.volume) := by
  intro name lines types
  have hsize := Workgroup.size_toList (Workgroup.size_pos h)
  exact Check.bind_eq_ok_iff.mpr ⟨w, hsize, rfl⟩

/-- The source passes the check, it declares a function of the name, and the parameters that it declares
get types, none of them too long to be written. -/
def Acceptable (source : String) (declared arguments : Value) (name : String) : Prop :=
  Declaration.check (Source.tokenLines source) = .ok () ∧
  ∃ declaration types, Declaration.parse ((Source.tokenLines source).headD []) = .ok declaration ∧
    declaration.name = name ∧ Parameter.resolve declaration.params declared arguments = .ok types ∧
    Generator.TypesWritable types

/-- No line of the source has more tokens than can be written as a number. -/
def Countable (source : String) : Prop :=
  ∀ line ∈ Source.tokenLines source, Numeral.Writable line.length

variable {dialect : Dialect} {source : String} {declared arguments : Value} {kind : FunctionKind}
  {workgroup : List Int} {role : Generator.Role} {t : Transcript} {body : String} {misshapen : Prop}

/-- What has been read is an acceptable source, and the function has the name that it declares. -/
theorem acceptable_of_read
    (h : read dialect source declared arguments kind workgroup = .ok (t, body)) :
    Acceptable source declared arguments t.name ∧ t.kind = kind := by
  obtain ⟨hcheck, declaration, types, hparse, htypes, hwrite⟩ := read_eq_ok_iff.mp h
  obtain ⟨first, rest, hlines⟩ := Declaration.exists_cons_of_check hcheck
  obtain ⟨role, lines, after, -, hgenerate, -, rfl⟩ := Transcript.write_eq_ok_iff.mp hwrite
  have hfirst := hparse
  simp only [hlines, List.headD_cons] at hgenerate hfirst
  obtain ⟨declaration', head, hparse', hhead, -⟩ := Generator.generate_cons_eq_ok_iff.mp hgenerate
  obtain rfl := Except.ok.inj (hfirst.symm.trans hparse')
  -- only parameters are in the table, and all of them stand in the head
  have hwritable : Generator.TypesWritable types := by
    intro name type htype
    have hmem : name ∈ types.names :=
      NameTable.contains_iff_mem_names.mp (Option.isSome_iff_exists.mpr ⟨type, htype⟩)
    rw [Parameter.names_of_resolve htypes, List.mem_eraseDups] at hmem
    obtain ⟨type', htype', hwritable⟩ := (Generator.params_of_headText hhead).2 name hmem
    rw [Option.some.inj (htype.symm.trans htype')]
    exact hwritable
  exact ⟨⟨hcheck, declaration, types, hparse, rfl, htypes, hwritable⟩, rfl⟩

theorem writable_of_read (hrole : HasRole kind workgroup role)
    (h : read dialect source declared arguments kind workgroup = .ok (t, body)) : role.Writable := by
  obtain ⟨hcheck, declaration, types, -, -, hwrite⟩ := read_eq_ok_iff.mp h
  obtain ⟨first, rest, hlines⟩ := Declaration.exists_cons_of_check hcheck
  obtain ⟨role', lines, after, hrole', hgenerate, -, -⟩ := Transcript.write_eq_ok_iff.mp hwrite
  obtain rfl : role = role' := Except.ok.inj ((hrole _ _ _).symm.trans hrole')
  simp only [hlines] at hgenerate
  obtain ⟨_, head, -, hhead, -⟩ := Generator.generate_cons_eq_ok_iff.mp hgenerate
  exact (Generator.params_of_headText hhead).1

/-- **Reading succeeds on what is acceptable.** -/
theorem exists_read (hrole : HasRole kind workgroup role) (hwritable : role.Writable)
    (hcountable : Countable source) {name : String} (h : Acceptable source declared arguments name)
    (dialect : Dialect) :
    ∃ t body, read dialect source declared arguments kind workgroup = .ok (t, body) ∧
      t.name = name ∧ t.kind = kind := by
  obtain ⟨hcheck, declaration, types, hparse, hname, htypes, hall⟩ := h
  obtain ⟨first, rest, hlines⟩ := Declaration.exists_cons_of_check hcheck
  have hfirst := hparse
  unfold Countable at hcountable
  rw [hlines, List.headD_cons] at hfirst
  rw [hlines] at hcountable
  obtain ⟨texts, after, hgenerate⟩ := Generator.exists_generate_of_lengths dialect .infer hwritable
    hfirst (Parameter.contains_of_resolve htypes) hall hcountable
  rw [← hlines] at hgenerate
  have hwrite := Transcript.write_eq_ok_iff.mpr
    ⟨role, texts, after, hrole declaration.name (Source.tokenLines source) types, hgenerate, rfl, rfl⟩
  exact ⟨_, _, read_eq_ok_iff.mpr ⟨hcheck, declaration, types, hparse, htypes, hwrite⟩, hname, rfl⟩

/-- Whatever reading fails with is about the arguments: by the time the function is written, it has a
declaration line and types for all parameters. -/
theorem about_read (hrole : HasRole kind workgroup role) (dialect : Dialect) (source : String)
    (hdeclared : declared ≠ .none → declared.items? = none → misshapen)
    (harguments : arguments ≠ .none → arguments.items? = none → misshapen) :
    Check.FailsWith (Fault.About misshapen)
      (read dialect source declared arguments kind workgroup) := by
  refine (Declaration.faults_check _).bind fun _ hcheck => ?_
  refine (Declaration.faults_parse _).bind fun declaration hparse => ?_
  refine (Parameter.faults_resolve _ hdeclared harguments).bind fun types htypes => ?_
  refine Check.FailsWith.bind ?_ fun _ _ => .ok _
  obtain ⟨first, rest, hlines⟩ := Declaration.exists_cons_of_check hcheck
  rw [hlines, List.headD_cons] at hparse
  have hparams := Parameter.contains_of_resolve htypes
  -- all that writing asks for is there, unless there is a number that is too long
  unfold Transcript.write
  rw [hrole]
  refine Check.FailsWith.bind (.ok role) ?_
  rintro _ ⟨⟩
  refine Check.FailsWith.bind ?_ fun _ _ => .ok _
  intro fault hfault
  simp only [hlines] at hfault
  rw [Generator.failsWith_generate dialect .infer role hparse hparams rest fault hfault]
  exact .value rfl

/-! ## Adding -/

/-- **When adding succeeds.** -/
theorem add_succeeds_iff (hrole : HasRole kind workgroup role) (hcountable : Countable source)
    (declared arguments : Value) {s : Session}
    (hentry : kind = .entry → s.store.entry? = none) :
    (∃ body s', outcome (add source declared arguments kind workgroup) s = (.ok body, s')) ↔
      role.Writable ∧ ∃ name, Acceptable source declared arguments name ∧ name ∉ s.store.names := by
  constructor
  · rintro ⟨body, s', hout⟩
    rcases add_cases source declared arguments kind workgroup s with
      ⟨fault, -, hfails⟩ | ⟨t, body', store, hread, hrecord, -⟩
    · simp [hfails] at hout
    · exact ⟨writable_of_read hrole hread, t.name, (acceptable_of_read hread).1,
        (Store.record_eq_ok hrecord).1⟩
  · -- reading and recording both succeed, and these are the two ways to fail
    rintro ⟨hwritable, name, hacceptable, hnew⟩
    obtain ⟨t, body, hread, rfl, hkind⟩ := exists_read hrole hwritable hcountable hacceptable s.config.dialect
    have hfirst : t.isEntry = true → s.store.entry? = none := by
      intro hisEntry
      rw [Transcript.isEntry, hkind] at hisEntry
      exact hentry (eq_of_beq hisEntry)
    obtain ⟨store, hrecord⟩ := Store.exists_record hnew hfirst
    rcases add_cases source declared arguments kind workgroup s with
      ⟨fault, hfault | ⟨t', body', hread', hfault⟩, -⟩ | ⟨t', body', store', -, -, hout⟩
    · simp [hread] at hfault
    · rw [hread, Except.ok.injEq, Prod.mk.injEq] at hread'
      simp [← hread'.1, hrecord] at hfault
    · exact ⟨body', _, hout⟩

theorem about_record (store : Store) (t : Transcript) :
    Check.FailsWith (Fault.About misshapen) (store.record t) := by
  unfold Store.record
  split_ifs
  · exact .error (.value rfl)
  · split
    · exact .error (.value rfl)
    · exact .ok _

theorem about_add (hrole : HasRole kind workgroup role) (source : String)
    (hdeclared : declared ≠ .none → declared.items? = none → misshapen)
    (harguments : arguments ≠ .none → arguments.items? = none → misshapen) :
    FailsWith (Fault.About misshapen) (add source declared arguments kind workgroup) := by
  intro s fault s' h
  rcases add_cases source declared arguments kind workgroup s with
    ⟨fault', hcause, hout⟩ | ⟨t, body, store, -, -, hout⟩
  · rw [hout, Prod.mk.injEq, Except.error.injEq] at h
    rw [← h.1]
    rcases hcause with hread | ⟨t, body, -, hrecord⟩
    · exact about_read hrole _ _ hdeclared harguments fault' hread
    · exact about_record _ _ fault' hrecord
  · rw [hout] at h
    exact nomatch h

theorem about_addFunction (source : String) (returns : Value)
    (hdeclared : declared ≠ .none → declared.items? = none → misshapen)
    (harguments : arguments ≠ .none → arguments.items? = none → misshapen) :
    FailsWith (Fault.About misshapen) (addFunction source returns declared arguments) :=
  (FailsWith.liftExcept (ShaderType.faults_ofValue returns)).bind fun type =>
    about_add (hasRole_helper (some type) [1, 1, 1]) source hdeclared harguments

theorem about_addEntryPoint (source : String) {size : Value} (hsize : size.items? = none → misshapen)
    (hdeclared : declared ≠ .none → declared.items? = none → misshapen) :
    FailsWith (Fault.About misshapen) (addEntryPoint source size declared) := by
  intro s fault s' h
  unfold addEntryPoint at h
  rw [Outcome.get_bind] at h
  cases hentry : s.store.entry? with
  | some entry =>
    simp only [hentry, Outcome.throw_eq, Prod.mk.injEq, Except.error.injEq] at h
    rw [← h.1]
    exact .value rfl
  | none =>
    simp only [hentry, Outcome.liftExcept_bind] at h
    cases hw : Workgroup.size size with
    | error fault' =>
      simp only [hw, Prod.mk.injEq, Except.error.injEq] at h
      rw [← h.1]
      exact Workgroup.faults_size hsize fault' hw
    | ok w =>
      simp only [hw] at h
      exact about_add (hasRole_entry hw) source hdeclared (absurd rfl) s fault s' h

theorem faults_of_addFunction (source : String) (returns declared arguments : Value) :
    FailsWith Fault.AboutArguments (addFunction source returns declared arguments) :=
  fun s fault s' h => (about_addFunction source returns (fun _ _ => trivial) (fun _ _ => trivial)
    s fault s' h).aboutArguments

theorem faults_of_addEntryPoint (source : String) (size declared : Value) :
    FailsWith Fault.AboutArguments (addEntryPoint source size declared) :=
  fun s fault s' h => (about_addEntryPoint source (fun _ => trivial) (fun _ _ => trivial)
    s fault s' h).aboutArguments

theorem addFunction_succeeds_iff (hcountable : Countable source) {returns : Value} {s : Session} :
    (∃ body s', outcome (addFunction source returns declared arguments) s = (.ok body, s')) ↔
      (∃ type, ShaderType.ofValue returns = .ok type ∧ type.Writable) ∧
        ∃ name, Acceptable source declared arguments name ∧ name ∉ s.store.names := by
  unfold addFunction
  rw [Outcome.liftExcept_bind]
  cases ShaderType.ofValue returns with
  | error fault =>
    constructor
    · rintro ⟨body, s', hout⟩
      exact nomatch hout
    · rintro ⟨⟨type, htype, -⟩, -⟩
      exact nomatch htype
  | ok type =>
    simp only
    rw [add_succeeds_iff (hasRole_helper (some type) [1, 1, 1]) hcountable declared arguments
      fun h => nomatch h]
    constructor
    · rintro ⟨hwritable, hname⟩
      exact ⟨⟨type, rfl, hwritable type rfl⟩, hname⟩
    · rintro ⟨⟨type', htype, hwritable⟩, hname⟩
      obtain rfl := Except.ok.inj htype
      refine ⟨?_, hname⟩
      rintro _ ⟨⟩
      exact hwritable

theorem addEntryPoint_succeeds_iff (hcountable : Countable source) {size : Value} {s : Session} :
    (∃ body s', outcome (addEntryPoint source size declared) s = (.ok body, s')) ↔
      s.store.entry? = none ∧
      (∃ w, Workgroup.size size = .ok w ∧ Numeral.Writable w.volume) ∧
        ∃ name, Acceptable source declared .none name ∧ name ∉ s.store.names := by
  unfold addEntryPoint
  rw [Outcome.get_bind]
  cases hentry : s.store.entry? with
  | some entry =>
    constructor
    · rintro ⟨body, s', hout⟩
      exact nomatch hout
    · rintro ⟨hnone, -⟩
      exact nomatch hnone
  | none =>
    simp only [Outcome.liftExcept_bind]
    cases hsize : Workgroup.size size with
    | error fault =>
      constructor
      · rintro ⟨body, s', hout⟩
        exact nomatch hout
      · rintro ⟨-, ⟨w, hw, -⟩, -⟩
        exact nomatch hw
    | ok w =>
      simp only
      rw [add_succeeds_iff (hasRole_entry hsize) hcountable declared .none fun _ => hentry]
      constructor
      · rintro ⟨hwritable, hname⟩
        exact ⟨trivial, ⟨w, rfl, hwritable⟩, hname⟩
      · rintro ⟨-, ⟨w', hw, hwritable⟩, hname⟩
        obtain rfl := Except.ok.inj hw
        exact ⟨hwritable, hname⟩

/-- **Adding succeeds exactly on what is acceptable.** A helper is added if and only if its return type is
one, its source passes the check and its parameters get types, and the name it declares is new. For an
entry point there has to be none yet, and a workgroup size takes the place of the return type. Numbers that
are too long to be written are out: the lengths of array types, the product of a workgroup size, and the
number of tokens on a line. Whatever else comes of either is a fault about the arguments, and never one
about a missing key or index: on a source that passes the check, with types for its parameters, the
generator gives a text in every dialect, phase and role, or stops at a number that is too long. -/
theorem adding_succeeds_iff_acceptable (s : Session) (source : String) (declared : Value)
    (hcountable : Countable source) :
    (∀ returns arguments,
      ((∃ body s', s.answer (.addFunction source returns declared arguments)
          = (.ok (.body body), s')) ↔
        (∃ type, ShaderType.ofValue returns = .ok type ∧ type.Writable) ∧
          ∃ name, Acceptable source declared arguments name ∧ name ∉ s.store.names) ∧
      ∀ fault s', s.answer (.addFunction source returns declared arguments) = (.error fault, s') →
        fault.AboutArguments) ∧
    (∀ size,
      ((∃ body s', s.answer (.addEntryPoint source size declared) = (.ok (.body body), s')) ↔
        s.store.entry? = none ∧
        (∃ w, Workgroup.size size = .ok w ∧ Numeral.Writable w.volume) ∧
          ∃ name, Acceptable source declared .none name ∧ name ∉ s.store.names) ∧
      ∀ fault s', s.answer (.addEntryPoint source size declared) = (.error fault, s') →
        fault.AboutArguments) ∧
    ∀ dialect phase (role : Generator.Role) declaration (types : TypeTable),
      Declaration.check (Source.tokenLines source) = .ok () →
      Declaration.parse ((Source.tokenLines source).headD []) = .ok declaration →
      (∀ p ∈ declaration.params, types.contains p = true) →
      (∀ fault, Generator.generate dialect phase role types (Source.tokenLines source) = .error fault →
        fault = .numeralUnprintable) ∧
      (role.Writable → Generator.TypesWritable types →
        ∃ texts after, Generator.generate dialect phase role types (Source.tokenLines source)
          = .ok (texts, after)) := by
  have hbody : ∀ {m : SessionM String}, (∃ body s', outcome (Answer.body <$> m) s
      = (.ok (.body body), s')) ↔ ∃ body s', outcome m s = (.ok body, s') := by
    intro m
    simp only [Outcome.map_eq_ok_iff, Answer.body.injEq, exists_eq_right]
  refine ⟨fun returns arguments => ⟨?_, fun fault s' h => ?_⟩,
    fun size => ⟨?_, fun fault s' h => ?_⟩, ?_⟩
  · exact hbody.trans (addFunction_succeeds_iff hcountable)
  · exact faults_of_addFunction source returns declared arguments s fault s'
      (Outcome.map_eq_error_iff.mp h)
  · exact hbody.trans (addEntryPoint_succeeds_iff hcountable)
  · exact faults_of_addEntryPoint source size declared s fault s' (Outcome.map_eq_error_iff.mp h)
  · intro dialect phase role declaration types hcheck hparse hparams
    obtain ⟨first, rest, hlines⟩ := Declaration.exists_cons_of_check hcheck
    unfold Countable at hcountable
    rw [hlines] at hcountable hparse ⊢
    refine ⟨Generator.failsWith_generate dialect phase role hparse hparams rest, ?_⟩
    intro hwritable htypes
    exact Generator.exists_generate_of_lengths dialect phase hwritable hparse hparams htypes hcountable

/-- A function with a parameter that is named twice. -/
def doubledSource : String := "function f(a, a) \x7b\n  return a[0];\n\x7d"

theorem doubledSource_added :
    Countable doubledSource ∧
    (∃ body s', (fresh {} none).answer (.addFunction doubledSource (.text "f32") .none .none)
      = (.ok (.body body), s')) ∧
    (¬ ∃ body s', (fresh {} none).answer (.addFunction doubledSource (.text "f64") .none .none)
      = (.ok (.body body), s')) ∧
    ∃ body s', (fresh {} none).answer (.addEntryPoint doubledSource (.int 64) .none)
      = (.ok (.body body), s') := by
  have hlines : Source.tokenLines doubledSource = [["function", "f", "(", "a", ",", "a", ")", "\x7b"],
      ["return", "a", "[", "0", "]", ";"], ["\x7d"]] := by decide +kernel
  have hcountable : Countable doubledSource := by
    unfold Countable
    decide +kernel
  have hacceptable : Acceptable doubledSource .none .none "f" := by
    unfold Acceptable
    rw [hlines]
    refine ⟨rfl, ⟨"f", ["a", "a"], ["\x7b"]⟩, ⟨[("a", .f32)]⟩, rfl, rfl, rfl, ?_⟩
    refine Generator.typesWritable_of_values ?_
    intro type htype
    rw [List.mem_singleton.mp htype]
    exact trivial
  have hnew : "f" ∉ (fresh {} none).store.names := List.not_mem_nil
  have hproduct : Numeral.Writable (Workgroup.Size.volume ⟨64, 1, 1⟩) := by decide +kernel
  obtain ⟨hhelper, hentry, -⟩ :=
    adding_succeeds_iff_acceptable (fresh {} none) doubledSource .none hcountable
  refine ⟨hcountable, ?_, ?_, ?_⟩
  · exact (hhelper (.text "f32") .none).1.mpr ⟨⟨.f32, rfl, trivial⟩, "f", hacceptable, hnew⟩
  · rw [(hhelper (.text "f64") .none).1]
    rintro ⟨⟨type, htype, -⟩, -⟩
    exact nomatch htype
  · exact (hentry (.int 64)).1.mpr
      ⟨rfl, ⟨⟨64, 1, 1⟩, rfl, hproduct⟩, "f", hacceptable, hnew⟩

end KernelShader.Session
