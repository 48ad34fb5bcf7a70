/-
`Emission.lean` -- the shader that is printed is the shader that is run.

The program prints a shader in one mode and runs it in another, and comes to the text in two ways. To print
it, the functions are read into a session without a device, and declarations of the inputs, numbered by
their places in the list, are put in front of what that session shows. To run it, the inputs are registered
one after the other, each with an output, and the session numbers them itself; the functions are read
after that, and the text that the session shows then is compiled.

The two agree because reading a function does not look at the rig, and because an input that is registered
gets the next number. A run that does not get so far as to ask the device for a shader may have failed at
an input, and then there is nothing to agree on; printing does not register anything and goes through.
-/
import KernelShader.CommandLine.Run
import KernelShader.Proofs.Rig.Header
import KernelShader.Proofs.Session.Shaders

set_option autoImplicit false

namespace KernelShader.CommandLine

open Session (SameTexts OnlyLogs Along)

variable {s : Settings} {main : String}

/-! ## Reading the functions -/

theorem matches_addOne (s : Settings) (main text : String) :
    Matches SameTexts (addOne s main text) (addOne s main text) := by
  refine Matches.liftExcept_bind fun declaration => ?_
  by_cases h : declaration.name = main
  · rw [if_pos h]
    exact (Session.matches_addEntryPoint _ _ _).bind fun _ => Matches.pure _
  · rw [if_neg h]
    exact (Session.matches_addFunction _ _ _ _).bind fun _ => Matches.pure _

theorem matches_addAll (s : Settings) (main : String) (functions : List String) :
    Matches SameTexts (addAll s main functions) (addAll s main functions) :=
  Matches.forM (matches_addOne s main) functions

theorem onlyLogs_addOne (s : Settings) (main text : String) : Keeps OnlyLogs (addOne s main text) := by
  refine (Keeps.liftExcept _).bind fun declaration => ?_
  by_cases h : declaration.name = main
  · rw [if_pos h]
    exact (Session.onlyLogs_addEntryPoint _ _ _).bind fun _ => Keeps.pure _
  · rw [if_neg h]
    exact (Session.onlyLogs_addFunction _ _ _ _).bind fun _ => Keeps.pure _

theorem onlyLogs_addAll (s : Settings) (main : String) (functions : List String) :
    Keeps OnlyLogs (addAll s main functions) := Keeps.forM (onlyLogs_addOne s main) functions

/-! ## Registering the inputs -/

/-- The declaration of an input that has been given a number. -/
def numbered (input : NamedArray) (number : Nat) : Except Fault String :=
  bindingDeclaration 0 number input.name
    (match input.array.element.scalarKind? with
      | some kind => kind.word
      | none => "")

theorem inputHeader_eq (inputs : List NamedArray) :
    inputHeader inputs = inputs.zipIdx.mapM fun p => numbered p.1 p.2 := rfl

theorem along_registerPair {P : String → Prop} (input : NamedArray) :
    Keeps (Along (Rig.Offers P)) (registerPair input) :=
  (Session.along_registerInput (Rig.offers_otherCalls.registerInput _ _ _)).bind fun _ =>
    (Session.along_registerOutput (Rig.offers_otherCalls.registerOutput _ _ _)).bind fun _ =>
      Keeps.pure _

/-- One input more is declared, under the next number. -/
theorem registerPair_eq_ok {input : NamedArray} {t t' : Session} {u : Unit}
    (h : outcome (registerPair input) t = (.ok u, t')) :
    t'.rig.header = (do
        let lines ← t.rig.header
        let line ← numbered input t.rig.nextBinding
        return lines ++ [line]) ∧
      t'.rig.nextBinding = t.rig.nextBinding + 1 := by
  obtain ⟨i, t₁, hinput, h⟩ := Outcome.bind_eq_ok_iff.mp h
  obtain ⟨o, t₂, houtput, hdone⟩ := Outcome.bind_eq_ok_iff.mp h
  rw [Outcome.pure_eq, Prod.mk.injEq] at hdone
  rw [← hdone.2]
  obtain ⟨hheader, hnext, hgroup, array, hdata⟩ :=
    Rig.registerInput_declares (Session.forgetting_eq_ok hinput)
  have hkind : input.array.element.scalarKind? = some i.element := by
    simp only [ShaderType.ofHostData] at hdata
    split at hdata
    · rename_i kind hkind
      rw [hkind, (Prod.mk.inj (Except.ok.inj hdata)).1]
    · simp at hdata
  have hdeclared : bindingDeclaration i.group t.rig.nextBinding input.name i.element.word
      = numbered input t.rig.nextBinding := by
    rw [← Value.int.inj hgroup, numbered, hkind]
  obtain ⟨hsame, hnumber⟩ := Rig.header_of_registerOutput (Session.forgetting_eq_ok houtput)
  exact ⟨by rw [hsame, hheader, hdeclared], by rw [hnumber, hnext]⟩

/-- The inputs are declared in order. They are counted from the number that is next when the loop starts,
which is what the induction needs; for a new session this is zero. -/
theorem registerPairs_eq_ok {inputs : List NamedArray} {t t' : Session} {u : PUnit}
    (h : outcome (inputs.forM registerPair) t = (.ok u, t')) :
    t'.rig.header = (do
      let lines ← t.rig.header
      let more ← (inputs.zipIdx t.rig.nextBinding).mapM fun p => numbered p.1 p.2
      return lines ++ more) := by
  induction inputs generalizing t with
  | nil =>
    rw [Outcome.forM_nil, Prod.mk.injEq] at h
    rw [← h.2, List.zipIdx_nil, List.mapM_nil]
    simp only [pure_bind, List.append_nil, bind_pure]
  | cons input rest ih =>
    rw [Outcome.forM_cons] at h
    obtain ⟨_, t₁, hfirst, hrest⟩ := Outcome.bind_eq_ok_iff.mp h
    obtain ⟨hheader, hnext⟩ := registerPair_eq_ok hfirst
    rw [ih hrest, hheader, hnext, List.zipIdx_cons, List.mapM_cons]
    simp only [bind_assoc, pure_bind, List.append_assoc, List.singleton_append]

/-! ## The device -/

/-- Getting hold of a device asks for no shader, and is all that the device has been asked for. -/
theorem acquire_calls (machine : Machine) (waiting : Waiting) (preference : String) :
    (∀ call ∈ (machine.acquire waiting preference).calls, call.code? = none) ∧
      ∀ {device}, (machine.acquire waiting preference).outcome = .ok device →
        device.trace = (machine.acquire waiting preference).calls := by
  unfold Machine.acquire
  simp only
  split
  · exact ⟨by simp [Call.code?], by simp⟩
  · exact ⟨by simp [Call.code?], by simp⟩
  · split
    · exact ⟨by simp [Call.code?], by simp⟩
    · refine ⟨by simp [Call.code?], fun {device} hdevice => ?_⟩
      rw [← Except.ok.inj hdevice]

/-- A session on a device begins with the calls that led to it, and otherwise like one without. -/
theorem create_eq_ok {config : Config} {acquisition : Acquisition} {t : Session}
    (h : Session.create config acquisition = .ok t) :
    ∃ device, acquisition.outcome = .ok device ∧ t.trace = device.trace ∧ t.rig.inputs = .empty ∧
      t.rig.nextBinding = 0 ∧ SameTexts t (Session.fresh config none) := by
  unfold Session.create at h
  cases hdevice : acquisition.outcome with
  | error refusal =>
    rw [hdevice] at h
    simp at h
  | ok device =>
    rw [hdevice] at h
    obtain rfl := Except.ok.inj h
    exact ⟨device, rfl, rfl, rfl, rfl, rfl, rfl, rfl, rfl⟩

/-! ## Running -/

/-- **How far a run gets that asks for a shader.** Everything before went through, and the text is the one
that the session shows when all functions have been read. -/
theorem displays_of_runAll {functions : List String} {inputs : List NamedArray} {t : Session}
    (hnone : ∀ call ∈ t.trace, call.code? = none) {label code : String}
    (h : .createShader label code ∈ (outcome (runAll s main functions inputs) t).2.trace) :
    ∃ t₁ t₂, outcome (inputs.forM registerPair) t = (.ok ⟨⟩, t₁) ∧
      outcome (addAll s main functions) t₁ = (.ok ⟨⟩, t₂) ∧ t₂.Displays code := by
  have hcode : (Call.createShader label code).code? = some code := rfl
  unfold runAll at h
  rcases hregister : outcome (inputs.forM registerPair) t with ⟨x, t₁⟩
  -- neither registering nor reading asks for a shader, so the call is one of the last step
  have hsilent : Call.createShader label code ∉ t₁.trace := by
    intro hmem
    have hoffers : Along (Rig.Offers fun _ => False) t t₁ :=
      (Keeps.forM along_registerPair inputs).of_outcome_eq hregister
    rcases hoffers.rig.of_mem hmem hcode with hbefore | hnever
    · exact absurd (hnone _ hbefore) (Option.some_ne_none code)
    · exact hnever
  cases x with
  | error fault =>
    rw [Outcome.bind_of_error hregister] at h
    exact absurd h hsilent
  | ok _ =>
    rw [Outcome.bind_of_ok hregister] at h
    rcases hadd : outcome (addAll s main functions) t₁ with ⟨y, t₂⟩
    have hlogs : OnlyLogs t₁ t₂ := (onlyLogs_addAll s main functions).of_outcome_eq hadd
    cases y with
    | error fault =>
      rw [Outcome.bind_of_error hadd, hlogs.trace] at h
      exact absurd h hsilent
    | ok _ =>
      rw [Outcome.bind_of_ok hadd] at h
      refine ⟨t₁, t₂, rfl, hadd, ?_⟩
      rcases (Session.presents_run _ t₂).offers.of_mem h hcode with hbefore | hdisplays
      · rw [← Session.trace, hlogs.trace] at hbefore
        exact absurd hbefore hsilent
      · exact hdisplays

/-- The buffers are given back without another call for a shader. -/
theorem mem_calls_emitRun {machine : Machine} {functions : List String} {inputs : List NamedArray}
    {label code : String}
    (h : .createShader label code ∈ (emitRun machine s main functions inputs).calls) :
    ∃ t, Session.create (sessionConfig s)
        (machine.acquire .sync (sessionConfig s).powerPreference) = .ok t ∧
      .createShader label code ∈ (outcome (runAll s main functions inputs) t).2.trace := by
  have hcode : (Call.createShader label code).code? = some code := rfl
  unfold emitRun at h
  cases hcreate : Session.create (sessionConfig s)
      (machine.acquire .sync (sessionConfig s).powerPreference) with
  | error fault =>
    simp only [hcreate] at h
    exact absurd ((acquire_calls _ _ _).1 _ h) (Option.some_ne_none code)
  | ok t =>
    refine ⟨t, rfl, ?_⟩
    simp only [hcreate] at h
    rcases hrun : outcome (runAll s main functions inputs) t with ⟨x, t₁⟩
    unfold outcome at hrun
    rw [hrun] at h
    cases x with
    | error fault => exact h
    | ok readings =>
      have hclose : Along (Rig.Offers fun _ => False) t₁ (outcome Session.close t₁).2 :=
        Session.along_close Rig.offers_otherCalls.release t₁
      exact (hclose.rig.of_mem h hcode).resolve_right id

/-! ## Printing -/

theorem emitShader_of_showShader {functions : List String} {inputs : List NamedArray}
    {x : Except Fault String} {t : Session}
    (h : outcome (showShader s main functions inputs) (Session.fresh (sessionConfig s) none) = (x, t)) :
    emitShader s main functions inputs = reportOf x t id := by
  unfold outcome at h
  unfold emitShader
  rw [h]

theorem emitShader_eq {functions : List String} {inputs : List NamedArray} {t : Session}
    {header : List String} {text : String}
    (hadd : outcome (addAll s main functions) (Session.fresh (sessionConfig s) none) = (.ok ⟨⟩, t))
    (hheader : inputHeader inputs = .ok header) (htext : t.shaderText = .ok text) :
    emitShader s main functions inputs
      = { out := "\n".intercalate (header ++ [text]), calls := t.trace, log := t.rig.log } := by
  have hshow : outcome (showShader s main functions inputs) (Session.fresh (sessionConfig s) none)
      = (.ok ("\n".intercalate (header ++ [text])), t) := by
    rw [showShader, Outcome.bind_of_ok hadd, Outcome.liftExcept_bind, hheader]
    simp only [Outcome.get_bind, Outcome.liftExcept_bind, htext, Outcome.pure_eq]
  exact emitShader_of_showShader hshow

/-- **Printing follows running.** Whatever shader a run asks the device for, printing gives. -/
theorem emitShader_of_emitRun {machine : Machine} {functions : List String}
    {inputs : List NamedArray} {label code : String}
    (h : .createShader label code ∈ (emitRun machine s main functions inputs).calls) :
    (emitShader s main functions inputs).fault = none ∧
      (emitShader s main functions inputs).out = code := by
  obtain ⟨t, hcreate, hrun⟩ := mem_calls_emitRun h
  obtain ⟨device, hdevice, htrace, hinputs, hnext, hsame⟩ := create_eq_ok hcreate
  obtain ⟨hsilent, hcalls⟩ := acquire_calls machine .sync (sessionConfig s).powerPreference
  have hnone : ∀ call ∈ t.trace, call.code? = none := by
    rw [htrace, hcalls hdevice]
    exact hsilent
  obtain ⟨t₁, t₂, hregister, hadd, hdisplays⟩ := displays_of_runAll hnone hrun
  -- the functions are read once with the inputs registered and once without anything
  have hregistered : SameTexts t t₁ :=
    ((Keeps.forM (along_registerPair (P := fun _ => True)) inputs).of_outcome_eq hregister).toSameTexts
  have hstart : SameTexts t₁ (Session.fresh (sessionConfig s) none) :=
    trans_of SameTexts hregistered.symm hsame
  obtain ⟨b, hbare, hends⟩ := (matches_addAll s main functions).exists_of_eq_ok hstart hadd
  have hempty : b.rig.header = .ok [] :=
    ((onlyLogs_addAll s main functions).of_outcome_eq hbare).header.trans rfl
  obtain ⟨lines, text, hlines, htext, hcode⟩ := hdisplays.exists_bare hends hempty
  -- and the declarations are those of the inputs in order
  have hheader : t₂.rig.header = inputHeader inputs := by
    have hnone : t.rig.header = pure [] := by
      rw [Rig.header, hinputs]
      rfl
    rw [((onlyLogs_addAll s main functions).of_outcome_eq hadd).header, registerPairs_eq_ok hregister,
      hnone, hnext, inputHeader_eq]
    simp only [pure_bind, List.nil_append, bind_pure]
  rw [emitShader_eq hbare (hheader.symm.trans hlines) htext, hcode]
  exact ⟨rfl, rfl⟩

/-! ## The program -/

theorem calls_ofReport (s : Settings) (r : Report) : (Outcome.ofReport s r).calls = r.calls := by
  unfold Outcome.ofReport
  cases r.fault with
  | none => rfl
  | some fault =>
    by_cases huser : isUserFault fault = true
    · simp only [if_pos huser]
    · simp only [if_neg huser]

theorem ofReport_of_none (s : Settings) {r : Report} (h : r.fault = none) :
    (Outcome.ofReport s r).exit = .ok 0 ∧ (Outcome.ofReport s r).out = r.out := by
  unfold Outcome.ofReport
  rw [h]
  exact ⟨rfl, rfl⟩

/-- Whatever the mode, the inputs are read first, and then the name of the entry point. -/
theorem emit_eq {machine : Machine} {functions : List String} {specs : List (Option String)}
    {inputs : List NamedArray} (hinputs : specs.mapM (readInput? s.element) = .ok inputs)
    (hmain : mainName s functions = .ok main) :
    emit machine s functions specs = match s.emit with
      | some .tokens => { out := tokensText functions }
      | some .wgsl => emitShader s main functions inputs
      | some .run => emitRun machine s main functions inputs
      | none => {} := by
  unfold emit
  rw [hinputs, hmain]
  rfl

theorem exists_of_mem_calls_emit {machine : Machine} {functions : List String}
    {specs : List (Option String)} {call : Call} (h : call ∈ (emit machine s functions specs).calls) :
    ∃ inputs main, specs.mapM (readInput? s.element) = .ok inputs ∧
      mainName s functions = .ok main := by
  unfold emit at h
  cases hinputs : specs.mapM (readInput? s.element) with
  | error fault =>
    rw [hinputs] at h
    exact absurd h List.not_mem_nil
  | ok inputs =>
    cases hmain : mainName s functions with
    | error fault =>
      rw [hinputs, hmain] at h
      exact absurd h List.not_mem_nil
    | ok main => exact ⟨inputs, main, rfl, rfl⟩

theorem runSettings_eq {openFile : String → FileAnswer} {text : String}
    {specs : List (Option String)} (hsource : source? openFile s = .ok (some (text, specs)))
    (hfunctions : (Source.functions text).isEmpty = false) (machine : Machine) :
    runSettings openFile machine s = .ofReport s (emit machine s (Source.functions text) specs) := by
  unfold runSettings
  rw [hsource]
  simp [hfunctions]

theorem exists_of_mem_calls_runSettings {openFile : String → FileAnswer} {machine : Machine}
    {call : Call} (h : call ∈ (runSettings openFile machine s).calls) :
    ∃ text specs, source? openFile s = .ok (some (text, specs)) ∧
      (Source.functions text).isEmpty = false := by
  unfold runSettings at h
  split at h
  · exact absurd h List.not_mem_nil
  · exact absurd h List.not_mem_nil
  · rename_i text specs hsource
    by_cases hempty : (Source.functions text).isEmpty = true
    · simp only [if_pos hempty] at h
      exact absurd h List.not_mem_nil
    · exact ⟨text, specs, hsource, eq_false_of_ne_true hempty⟩

/-- **What is printed is what is run.** Whatever the source, the inputs and the other settings are, on
whatever machine: if a run gets so far as to ask the device for a shader, then printing ends well, and what
it prints is the text of that shader. -/
theorem printed_eq_compiled (openFile : String → FileAnswer) (machine machine' : Machine)
    (s : Settings) {label code : String}
    (h : .createShader label code
      ∈ (runSettings openFile machine { s with emit := some .run }).calls) :
    (runSettings openFile machine' { s with emit := some .wgsl }).exit = .ok 0 ∧
      (runSettings openFile machine' { s with emit := some .wgsl }).out = code := by
  obtain ⟨text, specs, hsource, hfunctions⟩ := exists_of_mem_calls_runSettings h
  rw [runSettings_eq hsource hfunctions, calls_ofReport] at h
  obtain ⟨inputs, main, hinputs, hmain⟩ := exists_of_mem_calls_emit h
  rw [emit_eq hinputs hmain] at h
  -- neither the source nor the functions nor the session depend on the mode
  obtain ⟨hfault, hout⟩ := emitShader_of_emitRun (s := { s with emit := some .wgsl }) h
  have hreport : runSettings openFile machine' { s with emit := some .wgsl }
      = .ofReport { s with emit := some .wgsl }
          (emitShader { s with emit := some .wgsl } main (Source.functions text) inputs) := by
    rw [runSettings_eq (s := { s with emit := some .wgsl }) hsource hfunctions,
      emit_eq (s := { s with emit := some .wgsl }) hinputs hmain]
  obtain ⟨hexit, hprinted⟩ := ofReport_of_none { s with emit := some .wgsl } hfault
  rw [hreport]
  exact ⟨hexit, hprinted.trans hout⟩

/-- A source that has its entry point in front. -/
def kernelFirst : String :=
  "function k() \x7b\n" ++
  "a[id.x] = f(1);\n" ++
  "\x7d\n" ++
  "function f(x) \x7b\n" ++
  "return x;\n" ++
  "\x7d\n"

/-- Its shader, with the entry point at the end. -/
def kernelLast : String :=
  "@group(0) @binding(0) var<storage, read_write> a : array<f32>;\n" ++
  "fn f(x: f32) -> f32 \x7b\n" ++
  "return x;\n" ++
  "\x7d\n" ++
  "@compute @workgroup_size(1) fn k(@builtin(global_invocation_id) id: vec3<u32>) \x7b\n" ++
  "a [ id.x ] = f ( 1 ) ;\n" ++
  "\x7d\n"

def kernelSettings : Settings :=
  { file := some "k", main := some "k", inputs := [some "a=1"] }

/-- The shader is run on a machine with a device, and printed on one without any. -/
theorem kernelLast_printed :
    .createShader "pywgsl module" kernelLast
      ∈ (runSettings (fun _ => .content kernelFirst.toUTF8) {}
          { kernelSettings with emit := some .run }).calls ∧
    let printed := runSettings (fun _ => .content kernelFirst.toUTF8) .bare
      { kernelSettings with emit := some .wgsl }
    printed.exit = .ok 0 ∧ printed.out = kernelLast := by
  have hcompiled : .createShader "pywgsl module" kernelLast
      ∈ (runSettings (fun _ => .content kernelFirst.toUTF8) {}
          { kernelSettings with emit := some .run }).calls := by decide +kernel
  exact ⟨hcompiled, printed_eq_compiled _ {} .bare kernelSettings hcompiled⟩

end KernelShader.CommandLine
