/-
`Assembly.lean` -- what the shader of a session is put together from.

A run of operations is followed by its answers: `functionsAdded` lists the functions that it has added and
`inputsRegistered` the inputs that it has registered, each in the order in which the answers came. All
that a run can do to the order of things in a session is to make these two lists longer (`Grown`, said of
one operation first and then of a whole run). So the shader always has one declaration for every input,
then the text of every helper in the order in which they were first read, and the text of the entry point
last; and since there is a text for every function and a type for every parameter, there is a shader unless
a number in it is too long to be written.
-/
import KernelShader.Proofs.Rig.Runs
import KernelShader.Proofs.Session.Acceptance
import KernelShader.Proofs.Session.Current

set_option autoImplicit false

namespace KernelShader.Session

/-! ## Runs and their answers -/

/-- The name that a source declares. -/
def declaredName (source : String) : String :=
  match Declaration.parse ((Source.tokenLines source).headD []) with
  | .ok declaration => declaration.name
  | .error _ => ""

/-- The function that an operation has added, going by its answer, and whether it is the entry point. -/
def added : Operation → Except Fault Answer → List (String × Bool)
  | .addFunction source .., .ok _ => [(declaredName source, false)]
  | .addEntryPoint source .., .ok _ => [(declaredName source, true)]
  | _, _ => []

/-- The input that an operation has registered, going by its answer. -/
def registered : Operation → Except Fault Answer → List Input
  | .registerInput .., .ok (.input i) => [i]
  | _, _ => []

/-- The functions that a run adds, in order. -/
def functionsAdded : Session → List Operation → List (String × Bool)
  | _, [] => []
  | s, operation :: rest =>
    added operation (s.answer operation).1 ++ functionsAdded (s.answer operation).2 rest

/-- The inputs that a run registers, in order. -/
def inputsRegistered : Session → List Operation → List Input
  | _, [] => []
  | s, operation :: rest =>
    registered operation (s.answer operation).1 ++ inputsRegistered (s.answer operation).2 rest

/-! ## One operation -/

/-- The second session has the functions and the inputs of the first, in the same order, and after them
those of the lists. A second entry point is not among them. -/
structure Grown (s s' : Session) (functions : List (String × Bool)) (inputs : List Input) : Prop where
  outline : s'.store.outline = s.store.outline ++ functions
  single : (s.store.outline.filter (·.2)).length ≤ 1 → (s'.store.outline.filter (·.2)).length ≤ 1
  inputs : s'.rig.inputs.values.map Input.released
    = s.rig.inputs.values.map Input.released ++ inputs.map Input.released
  rig : Rig.Reachable s'.rig

theorem Grown.trans {s s₁ s₂ : Session} {fs gs : List (String × Bool)} {is js : List Input}
    (h : Grown s s₁ fs is) (h' : Grown s₁ s₂ gs js) : Grown s s₂ (fs ++ gs) (is ++ js) where
  outline := by rw [h'.outline, h.outline, List.append_assoc]
  single := fun hone => h'.single (h.single hone)
  inputs := by rw [h'.inputs, h.inputs, List.map_append, List.append_assoc]
  rig := h'.rig

variable {s s' : Session}

/-- Nothing is added where the order of the functions stays and the buffers persist. -/
theorem grown_nil (houtline : s'.store.outline = s.store.outline)
    (hinputs : s'.rig.inputs.values.map Input.released = s.rig.inputs.values.map Input.released)
    (hrig : Rig.Reachable s'.rig) : Grown s s' [] [] where
  outline := by rw [houtline, List.append_nil]
  single := fun hone => houtline ▸ hone
  inputs := by rw [hinputs, List.map_nil, List.append_nil]
  rig := hrig

theorem grown_of_continues (hreachable : Rig.Reachable s.rig)
    (houtline : s'.store.outline = s.store.outline) (hrig : Rig.Continues s.rig s'.rig) :
    Grown s s' [] [] :=
  grown_nil houtline (by rw [hrig.inputs]) (hreachable.continues hrig)

theorem Quiet.grown (h : Quiet s s') (hreachable : Rig.Reachable s.rig) : Grown s s' [] [] :=
  grown_of_continues hreachable (by rw [h.store]) h.rig

theorem grown_registerInput (h : Rig.Reachable s.rig) (name : String) (data group : Value) :
    let operation := Operation.registerInput name data group
    Grown s (s.answer operation).2 [] (registered operation (s.answer operation).1) := by
  have hreachable := h.registerInput name data group
  intro operation
  rw [answer_eq, perform, Outcome.map_eq, registerInput]
  rcases Rig.registerInput_appends name data group s.rig with
    ⟨fault, r, hout, hgone⟩ | ⟨i, r, hout, hinputs, -⟩
  · rw [outcome_forgetting_of_error hout]
    exact grown_of_continues h rfl hgone.toContinues
  · rw [hout] at hreachable
    rw [outcome_forgetting_of_ok hout]
    refine ⟨(List.append_nil _).symm, id, ?_, hreachable⟩
    simp only
    rw [hinputs, List.map_append]
    rfl

theorem grown_registerOutput (h : Rig.Reachable s.rig) (name link : String) (data : Value) :
    Grown s (s.answer (.registerOutput name link data)).2 [] [] := by
  have hreachable := h.registerOutput name link data
  rw [answer_eq, perform, Outcome.map_eq, registerOutput]
  rcases Rig.registerOutput_appends name link data s.rig with
    ⟨fault, r, hout, hgone⟩ | ⟨o, r, hout, hinputs, -⟩
  · rw [outcome_forgetting_of_error hout]
    exact grown_of_continues h rfl hgone.toContinues
  · rw [hout] at hreachable
    rw [outcome_forgetting_of_ok hout]
    refine grown_nil rfl ?_ hreachable
    simp only
    rw [hinputs]

theorem grown_close (h : Rig.Reachable s.rig) : Grown s (s.answer .close).2 [] [] := by
  have hrig : (outcome close s).2.rig = (outcome Rig.release s.rig).2 := by rw [outcome_close]
  have hpersists := h.registered.persists_release
  rw [answer_eq, perform_close, Outcome.map_eq]
  refine grown_nil ?_ ?_ (hrig ▸ h.release)
  · rw [(sameTexts_close s).store]
  · rw [hrig]
    exact NameTable.map_values_of_mapValues_eq hpersists.inputs

/-- A function that is added comes last, under the name that its source declares. -/
theorem grown_add (h : Rig.Reachable s.rig) (source : String) (declared arguments : Value)
    (kind : FunctionKind) (workgroup : List Int) :
    (∃ fault, outcome (add source declared arguments kind workgroup) s = (.error fault, s)) ∨
    (∃ body s', outcome (add source declared arguments kind workgroup) s = (.ok body, s') ∧
      Grown s s' [(declaredName source, kind == .entry)] []) := by
  rcases add_cases source declared arguments kind workgroup s with
    ⟨fault, -, hout⟩ | ⟨t, body, store, hread, hrecord, hout⟩
  · exact Or.inl ⟨fault, hout⟩
  · obtain ⟨⟨-, declaration, types, hparse, hname, -⟩, hkind⟩ := acceptable_of_read hread
    have hdeclared : declaredName source = t.name := by
      rw [declaredName, hparse]
      exact hname
    have houtline : store.outline = s.store.outline ++ [(declaredName source, kind == .entry)] := by
      rw [Store.outline_record hrecord, hdeclared, Transcript.isEntry, hkind]
    refine Or.inr ⟨body, _, hout, houtline, Store.length_entries_record hrecord, ?_, ?_⟩
    · exact (List.append_nil _).symm
    · exact h.continues (continues_log s.rig _)

theorem grown_addFunction (h : Rig.Reachable s.rig) (source : String)
    (returns declared arguments : Value) :
    let operation := Operation.addFunction source returns declared arguments
    Grown s (s.answer operation).2 (added operation (s.answer operation).1) [] := by
  have hsame : Grown s s [] [] := grown_of_continues h rfl (refl_of Rig.Continues s.rig)
  intro operation
  rw [answer_eq, perform, Outcome.map_eq, addFunction, Outcome.liftExcept_bind]
  cases ShaderType.ofValue returns with
  | error fault => exact hsame
  | ok type =>
    simp only
    rcases grown_add h source declared arguments (.helper (some type)) [1, 1, 1] with
      ⟨fault, hout⟩ | ⟨body, s', hout, hgrown⟩
    · rw [hout]
      exact hsame
    · rw [hout]
      exact hgrown

theorem grown_addEntryPoint (h : Rig.Reachable s.rig) (source : String) (size declared : Value) :
    let operation := Operation.addEntryPoint source size declared
    Grown s (s.answer operation).2 (added operation (s.answer operation).1) [] := by
  have hsame : Grown s s [] [] := grown_of_continues h rfl (refl_of Rig.Continues s.rig)
  intro operation
  rw [answer_eq, perform, Outcome.map_eq, addEntryPoint, Outcome.get_bind]
  cases s.store.entry? with
  | some entry => exact hsame
  | none =>
    simp only [Outcome.liftExcept_bind]
    cases Workgroup.size size with
    | error fault => exact hsame
    | ok w =>
      simp only
      rcases grown_add h source declared .none .entry (w.toList.map Int.ofNat) with
        ⟨fault, hout⟩ | ⟨body, s', hout, hgrown⟩
      · rw [hout]
        exact hsame
      · rw [hout]
        exact hgrown

theorem Revises.grown (h : Revises s s') (hreachable : Rig.Reachable s.rig) : Grown s s' [] [] := by
  cases h with
  | logs events => exact grown_of_continues hreachable rfl (continues_log s.rig _)
  | rewrites edited hbodies => exact grown_of_continues hreachable rfl (continues_log s.rig _)

/-- **One operation.** All it does to the order of functions and inputs is to add what it answers. -/
theorem grown_answer (h : Rig.Reachable s.rig) (operation : Operation) :
    Grown s (s.answer operation).2 (added operation (s.answer operation).1)
      (registered operation (s.answer operation).1) := by
  cases operation with
  | registerInput name data group => exact grown_registerInput h name data group
  | registerOutput name link data => exact grown_registerOutput h name link data
  | addFunction source returns declared arguments =>
    exact grown_addFunction h source returns declared arguments
  | addEntryPoint source size declared => exact grown_addEntryPoint h source size declared
  | listVariables function =>
    have hquiet : Keeps Quiet (perform (.listVariables function)) :=
      Keeps.get.bind fun s' => (Keeps.liftExcept _).bind fun _ => Keeps.pure _
    exact (hquiet s).grown h
  | submitEdit function variableName type =>
    rw [answer_eq, perform, Outcome.map_eq]
    rcases submitEdit_cases function variableName type s with
      ⟨fault, hout⟩ | ⟨changed, store, hedit, hout⟩
    · rw [hout]
      exact grown_of_continues h rfl (refl_of Rig.Continues s.rig)
    · rw [hout]
      exact grown_of_continues h (Store.outline_of_edit hedit) (refl_of Rig.Continues s.rig)
  | confirm =>
    rw [answer_eq, perform, Outcome.map_eq]
    exact (revises_confirm s).grown h
  | regenerate =>
    rw [answer_eq, perform, Outcome.map_eq]
    exact (revises_regenerate s).grown h
  | build => exact (quiet_build.map _ s).grown h
  | execute counts =>
    exact ((quiet_execute counts).bind (fun _ => Keeps.pure Answer.done) s).grown h
  | run counts => exact ((quiet_run counts).map _ s).grown h
  | readBack waiting => exact ((quiet_readBack waiting).map _ s).grown h
  | close => exact grown_close h

/-! ## Whole runs -/

theorem grown_after (h : Rig.Reachable s.rig) (operations : List Operation) :
    Grown s (s.after operations) (functionsAdded s operations) (inputsRegistered s operations) := by
  induction operations generalizing s with
  | nil => exact grown_of_continues h rfl (refl_of Rig.Continues s.rig)
  | cons operation rest ih =>
    have hfirst := grown_answer h operation
    exact hfirst.trans (ih hfirst.rig)

/-! ## The shader -/

/-- The functions of an outline as a shader shows them: helpers in order, then the entry point. -/
def shownNames (outline : List (String × Bool)) : List String :=
  (outline.filter (!·.2)).map Prod.fst ++ ((outline.find? (·.2)).map Prod.fst).toList

/-- With one entry point at most, a shader shows every function once. -/
theorem shownNames_perm {outline : List (String × Bool)}
    (hone : (outline.filter (·.2)).length ≤ 1) :
    (shownNames outline).Perm (outline.map Prod.fst) := by
  -- the first entry point is all of them
  have hentry : (outline.find? (·.2)).toList = outline.filter (·.2) := by
    rw [← List.head?_filter]
    cases hfilter : outline.filter (·.2) with
    | nil => rfl
    | cons p rest =>
      rw [hfilter, List.length_cons] at hone
      obtain rfl : rest = [] := List.eq_nil_of_length_eq_zero (by omega)
      rfl
  have hshown : shownNames outline
      = (outline.filter (!·.2) ++ outline.filter (·.2)).map Prod.fst := by
    rw [shownNames, List.map_append, ← hentry]
    cases outline.find? (·.2) with
    | none => rfl
    | some p => rfl
  rw [hshown]
  exact ((List.perm_append_comm).trans (List.filter_append_perm (·.2) outline)).map Prod.fst

theorem Grown.declarations {functions : List (String × Bool)} {inputs : List Input}
    (h : Grown s s' functions inputs) (hempty : s.rig.inputs.values = []) :
    s'.rig.inputs.values.map Input.declaration = inputs.map Input.declaration := by
  -- a declaration does not mention the buffer, so it does not matter what has been released
  have hreleased : ∀ is : List Input,
      is.map Input.declaration = (is.map Input.released).map Input.declaration := by
    intro is
    rw [List.map_map]
    rfl
  rw [hreleased, h.inputs, hempty, List.map_nil, List.nil_append, ← hreleased]

/-- What confirming or regenerating shows is the shader that the session has from then on. -/
theorem source_of_confirm {source : ShaderSource} (h : outcome confirm s = (.ok source, s')) :
    s'.source = .ok source := by
  rcases confirm_cases s with ⟨-, hout⟩ | ⟨-, fault, -, hout⟩ | ⟨-, bodies, -, hout⟩
  · rw [hout, Prod.mk.injEq] at h
    rw [← h.2]
    exact h.1
  · rw [hout] at h
    exact nomatch h
  · rw [hout, Prod.mk.injEq] at h
    rw [← h.2]
    exact h.1

theorem source_of_regenerate {source : ShaderSource} (h : outcome regenerate s = (.ok source, s')) :
    s'.source = .ok source := by
  rcases regenerate_cases s with ⟨fault, -, hout⟩ | ⟨bodies, -, hout⟩
  · rw [hout] at h
    exact nomatch h
  · rw [hout, Prod.mk.injEq] at h
    rw [← h.2, source_rewritten]
    exact h.1

/-- Regenerating fails because of a number that is too long, and for no other reason. -/
theorem InStep.failsWith_regenerate (h : s.InStep) :
    Check.FailsWith Fault.IsUnprintable (outcome regenerate s).1 := by
  rcases regenerate_cases s with ⟨fault, hreplay, hout⟩ | ⟨bodies, hbodies, hout⟩
  · rw [hout]
    exact .error (Store.failsWith_replay h.complete _ fault hreplay)
  · rw [hout]
    exact h.failsWith_sourceOf (Store.names_of_replay h.indexed hbodies)

theorem InStep.regenerate_of_not_declarable (h : s.InStep) (hplaces : ¬ s.rig.Declarable) :
    (outcome regenerate s).1 = .error .numeralUnprintable := by
  rcases regenerate_cases s with ⟨fault, hreplay, hout⟩ | ⟨bodies, hbodies, hout⟩
  · rw [hout, Store.failsWith_replay h.complete _ fault hreplay]
  · rw [hout, sourceOf_of_not_declarable hplaces]

/-- **The shader holds every function once.** After any run, no two functions have the same name and at
most one is the entry point; there is a text for every function and for nothing else, and every parameter
on a declaration line has a type. So all that can keep the shader from being shown is a number that is too
long to be written. If the places of the inputs can be written, there is a shader; if the types can be as
well, confirming and regenerating show it. It has one declaration for every input in order of registration,
the text of every helper in the order in which they were added, and the text of the entry point last, and
these are the texts of all functions, each once. -/
theorem shader_holds_every_function_once (config : Config) (device : Option Device)
    (operations : List Operation) :
    let start := fresh config device
    let s := start.after operations
    s.store.names = s.store.values.map Transcript.name ∧ s.store.names.Nodup ∧
    (s.store.values.filter Transcript.isEntry).length ≤ 1 ∧
    s.bodies.names = s.store.names ∧
    (∀ t ∈ s.store.values, ∃ first rest declaration, t.lines = first :: rest ∧
      Declaration.parse first = .ok declaration ∧
      ∀ p ∈ declaration.params, t.types.contains p = true) ∧
    (∀ fault, s.source = .error fault ∨ s.shaderText = .error fault ∨
      (s.answer .confirm).1 = .error fault ∨ (s.answer .regenerate).1 = .error fault →
        fault = .numeralUnprintable) ∧
    (s.rig.Declarable → s.TypesWritable →
      (∃ source s', s.answer .confirm = (.ok (.source source), s') ∧ s'.source = .ok source) ∧
      ∃ source s', s.answer .regenerate = (.ok (.source source), s') ∧ s'.source = .ok source) ∧
    (s.rig.Declarable → ∃ source, s.source = .ok source ∧ s.shaderText = .ok source.text ∧
      source.header = (inputsRegistered start operations).map Input.declaration ∧
      List.Forall₂ (fun name text => s.bodies.get? name = some text)
        (shownNames (functionsAdded start operations))
        (source.functions ++ source.entryPoint.toList) ∧
      source.functions.length = ((functionsAdded start operations).filter (!·.2)).length ∧
      (shownNames (functionsAdded start operations)).Perm s.store.names) := by
  intro start s
  have hstep : s.InStep := (inStep_fresh config device).after operations
  have hgrown := grown_after (s := start) (Rig.Reachable.fresh device config.label []) operations
  have houtline : s.store.outline = functionsAdded start operations := hgrown.outline
  have hone : (s.store.outline.filter (·.2)).length ≤ 1 := hgrown.single (Nat.zero_le 1)
  have hnames : s.store.names = s.store.outline.map Prod.fst := by
    rw [hstep.indexed.names_eq, Store.outline, List.map_map]
    rfl
  refine ⟨hstep.indexed.names_eq, hstep.indexed.nodup, ?_, hstep.names, ?_, ?_, ?_, ?_⟩
  · rw [Store.outline, List.filter_map, List.length_map] at hone
    exact hone
  · intro t ht
    obtain ⟨first, rest, declaration, role, hlines, hparse, hparams, -⟩ := hstep.complete t ht
    exact ⟨first, rest, declaration, hlines, hparse, hparams⟩
  · have hregenerate : Check.FailsWith Fault.IsUnprintable (s.answer .regenerate).1 := by
      rw [answer_regenerate]
      exact hstep.failsWith_regenerate.map _
    rintro fault (hfault | hfault | hfault | hfault)
    · exact hstep.failsWith_sourceOf hstep.names fault hfault
    · exact hstep.failsWith_shaderText fault hfault
    · exact hregenerate fault (hstep.answer_confirm ▸ hfault)
    · exact hregenerate fault hfault
  · intro hplaces htypes
    obtain ⟨source, hsource⟩ := hstep.exists_regenerate htypes hplaces
    have hconfirm : outcome confirm s = (.ok source, (outcome confirm s).2) :=
      Prod.ext (hstep.confirm_eq_regenerate.trans hsource) rfl
    have hregenerate : outcome regenerate s = (.ok source, (outcome regenerate s).2) :=
      Prod.ext hsource rfl
    refine ⟨⟨source, _, Outcome.map_eq_ok_iff.mpr ⟨source, hconfirm, rfl⟩, source_of_confirm hconfirm⟩,
      source, _, Outcome.map_eq_ok_iff.mpr ⟨source, hregenerate, rfl⟩, source_of_regenerate hregenerate⟩
  · intro hplaces
    obtain ⟨source, hsource⟩ := hstep.exists_sourceOf hplaces hstep.names
    obtain ⟨header, hheader, hassembled⟩ := sourceOf_eq_ok_iff.mp hsource
    obtain ⟨-, rfl⟩ := Rig.header_eq_ok_iff.mp hheader
    obtain ⟨hlines, hfunctions, hentry⟩ := Store.assemble_eq_ok hassembled
    rw [houtline] at hfunctions hentry
    refine ⟨source, hsource, ?_, hlines.trans (hgrown.declarations rfl),
      List.rel_append hfunctions hentry, ?_, ?_⟩
    · exact Check.map_eq_ok_iff.mpr ⟨source, hsource, rfl⟩
    · rw [← hfunctions.length_eq, List.length_map]
    · rw [← houtline, hnames]
      exact shownNames_perm hone

/-- An input in a group whose number has one digit too many. -/
def boundlessRun : List Operation :=
  [.registerInput "a" (.words [7]) (.int (Nat.pow 10 Numeral.maxDigits : Nat))]

/-- The input is accepted and there is no function whose types could be to blame, and yet there is no shader
to show. -/
theorem boundlessRun_shows_nothing :
    let s := (fresh {} (some {})).after boundlessRun
    s.rig.inputs.names = ["a"] ∧ s.store.names = [] ∧
      s.source = .error .numeralUnprintable ∧ s.shaderText = .error .numeralUnprintable ∧
      (s.answer .confirm).1 = .error .numeralUnprintable ∧
      (s.answer .regenerate).1 = .error .numeralUnprintable := by
  have hinputs : ((fresh {} (some {})).after boundlessRun).rig.inputs.names = ["a"] := by
    decide +kernel
  have hstore : ((fresh {} (some {})).after boundlessRun).store.names = [] := by decide +kernel
  have hplaces : ¬ ((fresh {} (some {})).after boundlessRun).rig.Declarable := by decide +kernel
  have hstep : ((fresh {} (some {})).after boundlessRun).InStep := (inStep_fresh _ _).after boundlessRun
  -- from here on the session is not looked into any more
  generalize (fresh {} (some {})).after boundlessRun = s at *
  have hregenerate : (s.answer .regenerate).1 = .error .numeralUnprintable := by
    rw [answer_regenerate, hstep.regenerate_of_not_declarable hplaces]
    rfl
  exact ⟨hinputs, hstore, sourceOf_of_not_declarable hplaces s.bodies,
    shaderText_of_not_declarable hplaces, hstep.answer_confirm.trans hregenerate, hregenerate⟩

/-- The entry point comes first here, and names are used again in vain. -/
def tangledRun : List Operation :=
  let data := Value.words [7]
  [.addEntryPoint "function main() \x7b\n  let b = 1;\n\x7d" (.int 1) .none,
    .registerInput "b" data (.int 1),
    .addFunction "function f(a) \x7b\n  return a;\n\x7d" (.text "f32") .none .none,
    .addFunction "function f(c) \x7b\n  return c;\n\x7d" (.text "f32") .none .none,
    .registerInput "b" data (.int 0), .registerInput "a" data (.int 0),
    .addEntryPoint "function last() \x7b\n\x7d" (.int 1) .none,
    .submitEdit "f" "a" (.text "i32"), .close]

theorem tangledRun_shows :
    let s := (fresh {} (some {})).after tangledRun
    s.rig.Declarable ∧ s.TypesWritable ∧
    (∃ source s', s.answer .confirm = (.ok (.source source), s') ∧ s'.source = .ok source) ∧
    ∃ source f main, s.source = .ok source ∧ source.functions = [f] ∧ source.entryPoint = some main ∧
      s.bodies.get? "f" = some f ∧ s.bodies.get? "main" = some main ∧ source.header.length = 2 := by
  have hfunctions : functionsAdded (fresh {} (some {})) tangledRun = [("main", true), ("f", false)] := by
    decide +kernel
  have hinputs : (inputsRegistered (fresh {} (some {})) tangledRun).length = 2 := by decide +kernel
  have hplaces : ((fresh {} (some {})).after tangledRun).rig.Declarable := by decide +kernel
  have htypes : ((fresh {} (some {})).after tangledRun).TypesWritable :=
    typesWritable_of_values (by decide +kernel)
  obtain ⟨-, -, -, -, -, -, hconfirm, hshader⟩ :=
    shader_holds_every_function_once {} (some {}) tangledRun
  generalize (fresh {} (some {})).after tangledRun = s at *
  obtain ⟨source, hsource, -, hheader, hshown, hlength, -⟩ := hshader hplaces
  rw [hfunctions] at hshown hlength
  obtain ⟨f, hf⟩ := List.length_eq_one_iff.mp hlength
  rw [hf] at hshown
  obtain ⟨hfirst, hrest⟩ := List.forall₂_cons.mp hshown
  obtain ⟨main, rest, hmain, hnil, hentry⟩ := List.forall₂_cons_left_iff.mp hrest
  rw [List.forall₂_nil_left_iff.mp hnil] at hentry
  have hlines : source.header.length = 2 := by rw [hheader, List.length_map, hinputs]
  exact ⟨hplaces, htypes, (hconfirm hplaces htypes).1, source, f, main, hsource, hf,
    Option.toList_eq_singleton_iff.mp hentry, hfirst, hmain, hlines⟩

end KernelShader.Session
