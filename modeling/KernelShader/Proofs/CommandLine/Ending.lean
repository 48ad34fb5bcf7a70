/-
`Ending.lean` -- how the program ends when it only prints.

With a source in hand, the modes that print tokens or a shader end in one of three ways. Either all
functions are shown and the exit code is zero, or nothing is shown and it is one, or nothing is shown and a
fault passes through. Reading functions never leads to the last: whatever is wrong with them is a fault
about what the user asked for (`Fault.About`). Reading the inputs does, at an input without a text and at
one without an element type, since neither is a fault of that sort; `BreaksOff` says which inputs these
are, and that those before them are in order.
-/
import KernelShader.Proofs.CommandLine.Reading
import KernelShader.Proofs.Source.Functions

set_option autoImplicit false

namespace KernelShader.CommandLine

variable {s : Settings} {main : String} {functions : List String} {specs : List (Option String)}

/-! ## Inputs -/

theorem splitEquals_cons (c : Char) (cs : List Char) :
    splitEquals (c :: cs) = if c = '=' then ([], some cs)
      else (c :: (splitEquals cs).1, (splitEquals cs).2) := by
  unfold splitEquals
  by_cases h : c = '='
  · simp [h]
  · simp only [h, List.dropWhile_cons, List.takeWhile_cons, bne_iff_ne, ne_eq, not_false_eq_true,
      if_true, if_false]
    cases cs.dropWhile (· != '=') with
    | nil => rfl
    | cons d value => rfl

/-- A text is split at its first `=`. -/
theorem splitEquals_eq_some_iff {cs name value : List Char} :
    splitEquals cs = (name, some value) ↔ cs = name ++ '=' :: value ∧ '=' ∉ name := by
  induction cs generalizing name with
  | nil => simp [splitEquals]
  | cons c rest ih =>
    rw [splitEquals_cons]
    by_cases h : c = '='
    · rw [if_pos h, h]
      cases name with
      | nil => simp
      | cons d ds =>
        simp only [Prod.mk.injEq, reduceCtorEq, false_and, List.cons_append, List.cons.injEq,
          List.mem_cons, not_or, false_iff, not_and]
        intro hd hno
        exact absurd hd.1 hno
    · rw [if_neg h]
      cases name with
      | nil => simp [h]
      | cons d ds =>
        -- the first letter belongs to the name, and the rest is split where the induction says
        have hrest : splitEquals rest = (ds, some value) ↔
            (splitEquals rest).1 = ds ∧ (splitEquals rest).2 = some value := Prod.ext_iff
        rw [Prod.mk.injEq, List.cons.injEq, and_assoc, ← hrest, ih]
        simp only [List.cons_append, List.cons.injEq, List.mem_cons, not_or]
        constructor
        · rintro ⟨rfl, hsplit, hno⟩
          exact ⟨⟨rfl, hsplit⟩, fun heq => h heq.symm, hno⟩
        · rintro ⟨⟨rfl, hsplit⟩, -, hno⟩
          exact ⟨rfl, hsplit, hno⟩

/-- The input has a name, `=`, and after it numbers with commas between. -/
def WellWritten (spec : String) : Prop :=
  ∃ name values : List Char, spec.toList = name ++ '=' :: values ∧ '=' ∉ name ∧ name ≠ [] ∧
    values ≠ [] ∧ ∀ number ∈ commaParts (String.ofList values), (Numeral.readBinary? number).isSome

theorem readNumber_eq_ok_iff {text : String} :
    (∃ cell, readNumber text = .ok cell) ↔ (Numeral.readBinary? text).isSome = true := by
  unfold readNumber
  cases Numeral.readBinary? text <;> simp

theorem splitSpec_eq_ok_iff {spec name : String} {texts : List String} :
    splitSpec spec = .ok (name, texts) ↔
      ∃ front values : List Char, spec.toList = front ++ '=' :: values ∧ '=' ∉ front ∧ front ≠ [] ∧
        values ≠ [] ∧ name = String.ofList (Text.trim front) ∧
        texts = commaParts (String.ofList values) := by
  constructor
  · intro h
    unfold splitSpec at h
    split at h
    · rename_i c front v values hsplit
      obtain ⟨hspec, hno⟩ := splitEquals_eq_some_iff.mp hsplit
      rw [Except.ok.injEq, Prod.mk.injEq] at h
      exact ⟨c :: front, v :: values, hspec, hno, List.cons_ne_nil _ _, List.cons_ne_nil _ _, h.1.symm,
        h.2.symm⟩
    · exact nomatch h
  · rintro ⟨front, values, hspec, hno, hfront, hvalues, rfl, rfl⟩
    obtain ⟨c, front, rfl⟩ := List.exists_cons_of_ne_nil hfront
    obtain ⟨v, values, rfl⟩ := List.exists_cons_of_ne_nil hvalues
    rw [splitSpec, splitEquals_eq_some_iff.mpr ⟨hspec, hno⟩]

theorem wellWritten_iff {spec : String} : WellWritten spec ↔
    ∃ name texts cells, splitSpec spec = .ok (name, texts) ∧ texts.mapM readNumber = .ok cells := by
  constructor
  · rintro ⟨front, values, hspec, hno, hfront, hvalues, hall⟩
    obtain ⟨cells, hcells⟩ := Check.exists_mapM_eq_ok fun text htext =>
      readNumber_eq_ok_iff.mpr (hall text htext)
    exact ⟨_, _, cells, splitSpec_eq_ok_iff.mpr ⟨front, values, hspec, hno, hfront, hvalues, rfl, rfl⟩,
      hcells⟩
  · rintro ⟨name, texts, cells, hsplit, hcells⟩
    obtain ⟨front, values, hspec, hno, hfront, hvalues, -, rfl⟩ := splitSpec_eq_ok_iff.mp hsplit
    refine ⟨front, values, hspec, hno, hfront, hvalues, fun text htext => ?_⟩
    obtain ⟨cell, -, hcell⟩ := Check.exists_of_mapM_eq_ok hcells htext
    exact readNumber_eq_ok_iff.mp ⟨cell, hcell⟩

/-- An input that is not well written is a fault about what the user asked for. -/
theorem readInput_of_not_wellWritten {spec : String} (h : ¬ WellWritten spec)
    (kind : Option ScalarKind) :
    ∃ fault, readInput kind spec = .error fault ∧ isUserFault fault = true := by
  -- a part that is missing and a part that is no number are told to the user in different words
  have hsplits : Check.FailsWith (isUserFault · = true) (splitSpec spec) := by
    unfold splitSpec
    split
    · exact .ok _
    · exact .error rfl
  have hnumber : ∀ text, Check.FailsWith (isUserFault · = true) (readNumber text) := by
    intro text
    unfold readNumber
    split
    · exact .ok _
    · exact .error rfl
  unfold readInput
  cases hsplit : splitSpec spec with
  | error fault => exact ⟨fault, rfl, hsplits fault hsplit⟩
  | ok parts =>
    obtain ⟨name, texts⟩ := parts
    cases hcells : texts.mapM readNumber with
    | error fault =>
      refine ⟨fault, ?_, Check.FailsWith.mapM (fun text _ => hnumber text) fault hcells⟩
      exact Check.bind_eq_error_iff.mpr (.inr ⟨_, rfl, Check.bind_eq_error_iff.mpr (.inl hcells)⟩)
    | ok cells => exact absurd (wellWritten_iff.mpr ⟨name, texts, cells, hsplit, hcells⟩) h

/-- A well-written input is read, provided that there is an element type. -/
theorem readInput_of_wellWritten {spec : String} (h : WellWritten spec) :
    readInput none spec = .error .elementMissing ∧
      ∀ kind, ∃ input, readInput (some kind) spec = .ok input := by
  obtain ⟨name, texts, cells, hsplit, hcells⟩ := wellWritten_iff.mp h
  constructor
  · refine Check.bind_eq_error_iff.mpr (.inr ⟨_, hsplit, ?_⟩)
    exact Check.bind_eq_error_iff.mpr (.inr ⟨cells, hcells, rfl⟩)
  · intro kind
    let array := HostArray.ofCells (HostElement.ofScalarKind kind) [cells.length] cells
      (HostArray.length_eq_count cells)
    refine ⟨⟨name, array⟩, Check.bind_eq_ok_iff.mpr ⟨_, hsplit, ?_⟩⟩
    exact Check.bind_eq_ok_iff.mpr ⟨cells, hcells, rfl⟩

theorem exists_readInput?_iff {kind : Option ScalarKind} {x : Option String} :
    (∃ input, readInput? kind x = .ok input) ↔ kind ≠ none ∧ ∃ spec, x = some spec ∧ WellWritten spec := by
  cases x with
  | none => simp [readInput?]
  | some spec =>
    by_cases hspec : WellWritten spec
    · obtain ⟨hmissing, hread⟩ := readInput_of_wellWritten hspec
      cases kind with
      | none => simp [readInput?, hmissing]
      | some kind => simp [readInput?, hread kind, hspec]
    · obtain ⟨fault, hfault, -⟩ := readInput_of_not_wellWritten hspec kind
      simp [readInput?, hfault, hspec]

/-- One input lets a fault through if it has no text, or if it is well written but has no element type. -/
theorem readInput?_lets_through_iff {kind : Option ScalarKind} {x : Option String} {fault : Fault} :
    readInput? kind x = .error fault ∧ isUserFault fault = false ↔
      (x = none ∧ fault = .inputMissing) ∨
      (kind = none ∧ fault = .elementMissing ∧ ∃ spec, x = some spec ∧ WellWritten spec) := by
  cases x with
  | none =>
    constructor
    · rintro ⟨h, -⟩
      exact .inl ⟨rfl, (Except.error.inj h).symm⟩
    · rintro (⟨-, rfl⟩ | ⟨-, -, spec, h, -⟩)
      · exact ⟨rfl, rfl⟩
      · exact nomatch h
  | some spec =>
    by_cases hspec : WellWritten spec
    · obtain ⟨hmissing, hread⟩ := readInput_of_wellWritten hspec
      cases kind with
      | none =>
        constructor
        · rintro ⟨h, -⟩
          exact .inr ⟨rfl, Except.error.inj (h.symm.trans hmissing), spec, rfl, hspec⟩
        · rintro (⟨h, -⟩ | ⟨-, rfl, -⟩)
          · exact nomatch h
          · exact ⟨hmissing, rfl⟩
      | some kind =>
        obtain ⟨input, hinput⟩ := hread kind
        simp [readInput?, hinput]
    · obtain ⟨fault', hfault, huser⟩ := readInput_of_not_wellWritten hspec kind
      constructor
      · rintro ⟨h, hnot⟩
        rw [Except.error.inj (h.symm.trans hfault)] at hnot
        exact absurd huser (ne_true_of_eq_false hnot)
      · rintro (⟨h, -⟩ | ⟨-, -, spec', h, hspec'⟩)
        · exact nomatch h
        · exact absurd (Option.some.inj h ▸ hspec') hspec

/-- Reading the inputs breaks off with the fault: at one without a text, or at one that is well written
but has no element type. The inputs before it have been read. -/
inductive BreaksOff (kind : Option ScalarKind) : Fault → List (Option String) → Prop
  | untold (rest : List (Option String)) : BreaksOff kind .inputMissing (none :: rest)
  | untyped {spec : String} (rest : List (Option String)) (hkind : kind = none)
      (hspec : WellWritten spec) : BreaksOff kind .elementMissing (some spec :: rest)
  | later {fault : Fault} {spec : String} {rest : List (Option String)} (hkind : kind ≠ none)
      (hspec : WellWritten spec) (hrest : BreaksOff kind fault rest) :
      BreaksOff kind fault (some spec :: rest)

/-- **Where the inputs let a fault through.** The first input that is not read decides. -/
theorem readInputs_breaks_off_iff {kind : Option ScalarKind} {fault : Fault} :
    specs.mapM (readInput? kind) = .error fault ∧ isUserFault fault = false ↔
      BreaksOff kind fault specs := by
  induction specs with
  | nil =>
    constructor
    · rintro ⟨h, -⟩
      exact nomatch h
    · intro h
      exact nomatch h
  | cons x rest ih =>
    rw [Check.mapM_cons_eq_error_iff, or_and_right, and_assoc, ih, readInput?_lets_through_iff,
      exists_readInput?_iff]
    constructor
    · rintro ((⟨rfl, rfl⟩ | ⟨hkind, rfl, spec, rfl, hspec⟩) | ⟨⟨hkind, spec, rfl, hspec⟩, hrest⟩)
      · exact .untold rest
      · exact .untyped rest hkind hspec
      · exact .later hkind hspec hrest
    · rintro (_ | ⟨_, hkind, hspec⟩ | ⟨hkind, hspec, hrest⟩)
      · exact .inl (.inl ⟨rfl, rfl⟩)
      · exact .inl (.inr ⟨hkind, rfl, _, rfl, hspec⟩)
      · exact .inr ⟨⟨hkind, _, rfl, hspec⟩, hrest⟩

/-! ## Functions -/

/-- A fault about sources, types and values is one about what the user asked for. -/
theorem isUserFault_of_about {fault : Fault} (h : fault.About False) : isUserFault fault = true := by
  rcases h with hkind | ⟨hshape, -⟩
  · simp only [List.mem_cons, List.not_mem_nil, or_false] at hkind
    unfold isUserFault
    rcases hkind with hkind | hkind | hkind
    · rw [hkind]
      rfl
    · rw [hkind]
      rfl
    · rw [hkind]
      rfl
  · exact hshape.elim

theorem about_declarationOf {text : String} (h : Source.tokenLines text ≠ []) :
    Check.FailsWith (Fault.About False) (declarationOf text) := by
  rw [declarationOf_eq h]
  exact Declaration.faults_parse _

theorem about_mainName (s : Settings) (hsome : functions ≠ [])
    (hlines : ∀ text ∈ functions, Source.tokenLines text ≠ []) :
    Check.FailsWith (Fault.About False) (mainName s functions) := by
  have hlast : Check.FailsWith (Fault.About False) (mainName.lastName functions) := by
    refine .map _ (about_declarationOf (hlines _ ?_))
    rw [List.getLastD_eq_getLast?, List.getLast?_eq_some_getLast hsome]
    exact List.getLast_mem hsome
  unfold mainName
  split
  · split_ifs
    · exact hlast
    · exact .ok _
  · exact hlast

/-- Lists of types and components of a size can be walked through. -/
theorem about_addOne (s : Settings) (main : String) {text : String}
    (hlines : Source.tokenLines text ≠ []) : FailsWith (Fault.About False) (addOne s main text) := by
  refine (FailsWith.liftExcept (about_declarationOf hlines)).bind fun declaration => ?_
  by_cases h : declaration.name = main
  · rw [if_pos h]
    refine (Session.about_addEntryPoint _ (fun hnone => ?_) (absurd rfl)).bind fun _ => .pure _
    exact nomatch hnone
  · rw [if_neg h]
    refine (Session.about_addFunction _ _ (fun _ hnone => ?_) (absurd rfl)).bind fun _ => .pure _
    exact nomatch hnone

theorem about_addAll (s : Settings) (main : String)
    (hlines : ∀ text ∈ functions, Source.tokenLines text ≠ []) :
    FailsWith (Fault.About False) (addAll s main functions) :=
  .forM fun text htext => about_addOne s main (hlines text htext)

/-- A number that is too long is a fault about a value. -/
theorem about_inputHeader (inputs : List NamedArray) :
    Check.FailsWith (Fault.About False) (inputHeader inputs) := by
  rw [inputHeader_eq]
  refine .mapM fun p _ fault hfault => ?_
  rw [failsWith_bindingDeclaration _ _ _ _ fault hfault]
  exact .value rfl

/-! ## Printing -/

/-- What is printed when everything has gone well: the tokens of all functions, or the shader of all
functions, each of which can be read, with the declarations of the inputs in front. -/
inductive Prints (s : Settings) (main : String) (functions : List String)
    (inputs : List NamedArray) : String → Prop
  | tokens (hmode : s.emit = some .tokens) : Prints s main functions inputs (tokensText functions)
  | shader {parts : List (Transcript × String)} {header : List String} (hmode : s.emit = some .wgsl)
      (hparts : functions.mapM (readFunction s main) = .ok parts)
      (hnodup : (parts.map (·.1.name)).Nodup) (hheader : inputHeader inputs = .ok header) :
      Prints s main functions inputs (ShaderSource.ofParts header parts).text

theorem Prints.unique {inputs : List NamedArray} {out out' : String}
    (h : Prints s main functions inputs out) (h' : Prints s main functions inputs out') : out = out' := by
  obtain htokens | ⟨hshader, hparts, -, hheader⟩ := h
  · obtain - | ⟨hshader, -, -, -⟩ := h'
    · rfl
    · exact nomatch htokens.symm.trans hshader
  · obtain htokens | ⟨-, hparts', -, hheader'⟩ := h'
    · exact nomatch hshader.symm.trans htokens
    · rw [Except.ok.inj (hparts.symm.trans hparts'), Except.ok.inj (hheader.symm.trans hheader')]

/-- A shader is printed, or there is a fault about the functions or the declarations and there is none to
print. -/
theorem emitShader_cases (hmode : s.emit = some .wgsl) (hsome : functions ≠ [])
    (hlines : ∀ text ∈ functions, Source.tokenLines text ≠ []) (inputs : List NamedArray) :
    ((emitShader s main functions inputs).fault = none ∧
      Prints s main functions inputs (emitShader s main functions inputs).out) ∨
    ((∃ fault, (emitShader s main functions inputs).fault = some fault ∧ fault.About False) ∧
      (emitShader s main functions inputs).out = "" ∧ ∀ out, ¬ Prints s main functions inputs out) := by
  rcases hadd : outcome (addAll s main functions) (Session.fresh (sessionConfig s) none) with ⟨x, t⟩
  cases x with
  | ok _ =>
    obtain ⟨parts, hparts, hnodup⟩ := (addAll_succeeds_iff s main functions).mp ⟨t, hadd⟩
    cases hheader : inputHeader inputs with
    | ok header =>
      obtain ⟨hfault, hout⟩ := emitShader_of_parts hsome hparts hnodup hheader
      rw [hout]
      exact .inl ⟨hfault, .shader hmode hparts hnodup hheader⟩
    | error fault =>
      obtain ⟨hfault, hout⟩ := emitShader_of_error inputs (.inr ⟨by rw [hadd]; rfl, hheader⟩)
      refine .inr ⟨⟨fault, hfault, about_inputHeader inputs fault hheader⟩, hout, ?_⟩
      rintro _ (htokens | ⟨-, -, -, hheader'⟩)
      · exact nomatch htokens.symm.trans hmode
      · exact nomatch hheader.symm.trans hheader'
  | error fault =>
    obtain ⟨hfault, hout⟩ := emitShader_of_error inputs (.inl (by rw [hadd]))
    refine .inr ⟨⟨fault, hfault, about_addAll s main hlines _ _ _ hadd⟩, hout, ?_⟩
    rintro _ (htokens | ⟨-, hparts, hnodup, -⟩)
    · exact nomatch htokens.symm.trans hmode
    · obtain ⟨t', hadd'⟩ := (addAll_succeeds_iff s main functions).mpr ⟨_, hparts, hnodup⟩
      exact nomatch hadd.symm.trans hadd'

/-- **How the printing modes go.** The inputs are not read, or something is wrong with the functions, or
all of them are printed. -/
theorem emit_cases (machine : Machine) (hmode : s.emit = some .tokens ∨ s.emit = some .wgsl)
    (hsome : functions ≠ []) (hlines : ∀ text ∈ functions, Source.tokenLines text ≠ [])
    (specs : List (Option String)) :
    let r := emit machine s functions specs
    (∃ fault, specs.mapM (readInput? s.element) = .error fault ∧ r.fault = some fault ∧ r.out = "") ∨
    (∃ inputs fault, specs.mapM (readInput? s.element) = .ok inputs ∧ r.fault = some fault ∧
      fault.About False ∧ r.out = "" ∧
      ∀ main out, mainName s functions = .ok main → ¬ Prints s main functions inputs out) ∨
    (∃ inputs main, specs.mapM (readInput? s.element) = .ok inputs ∧
      mainName s functions = .ok main ∧ r.fault = none ∧ Prints s main functions inputs r.out) := by
  intro r
  -- the inputs come first and the entry point second; the mode does not matter before that
  cases hinputs : specs.mapM (readInput? s.element) with
  | error fault =>
    refine .inl ⟨fault, rfl, ?_⟩
    simp only [r, emit, hinputs]
    exact ⟨rfl, rfl⟩
  | ok inputs =>
    cases hmain : mainName s functions with
    | error fault =>
      refine .inr (.inl ⟨inputs, fault, rfl, ?_, about_mainName s hsome hlines fault hmain, ?_, ?_⟩)
      · simp only [r, emit, hinputs, hmain]
        rfl
      · simp only [r, emit, hinputs, hmain]
        rfl
      · intro main out h
        exact nomatch h
    | ok main =>
      have hr : r = _ := emit_eq hinputs hmain
      rcases hmode with htokens | hshader
      · rw [htokens] at hr
        rw [hr]
        exact .inr (.inr ⟨inputs, main, rfl, rfl, rfl, .tokens htokens⟩)
      · rw [hshader] at hr
        rw [hr]
        rcases emitShader_cases hshader hsome hlines inputs with
          ⟨hnone, hprints⟩ | ⟨⟨fault, hfault, habout⟩, hout, hnot⟩
        · exact .inr (.inr ⟨inputs, main, rfl, rfl, hnone, hprints⟩)
        · refine .inr (.inl ⟨inputs, fault, rfl, hfault, habout, hout, ?_⟩)
          rintro main' out ⟨⟩
          exact hnot out

section Emit

variable (machine : Machine) (hmode : s.emit = some .tokens ∨ s.emit = some .wgsl)
  (hsome : functions ≠ []) (hlines : ∀ text ∈ functions, Source.tokenLines text ≠ [])
  (specs : List (Option String))

include hmode hsome hlines

/-- Only the inputs let a fault through. -/
theorem emit_breaks_off_iff (fault : Fault) :
    (emit machine s functions specs).fault = some fault ∧ isUserFault fault = false ↔
      BreaksOff s.element fault specs := by
  rw [← readInputs_breaks_off_iff]
  rcases emit_cases machine hmode hsome hlines specs with
    ⟨fault', hinputs, hfault, -⟩ | ⟨inputs, fault', hinputs, hfault, habout, -⟩ |
      ⟨inputs, main, hinputs, -, hfault, -⟩
  · rw [hfault, hinputs, Option.some.injEq, Except.error.injEq]
  · rw [hfault, hinputs, Option.some.injEq]
    constructor
    · rintro ⟨rfl, hnot⟩
      exact absurd (isUserFault_of_about habout) (ne_true_of_eq_false hnot)
    · rintro ⟨h, -⟩
      exact nomatch h
  · rw [hfault, hinputs]
    simp

/-- Nothing is printed before a fault. -/
theorem out_emit_of_fault (h : (emit machine s functions specs).fault ≠ none) :
    (emit machine s functions specs).out = "" := by
  rcases emit_cases machine hmode hsome hlines specs with
    ⟨-, -, -, hout⟩ | ⟨-, -, -, -, -, hout, -⟩ | ⟨-, -, -, -, hnone, -⟩
  · exact hout
  · exact hout
  · exact absurd hnone h

theorem emit_prints_iff (out : String) :
    (emit machine s functions specs).fault = none ∧ (emit machine s functions specs).out = out ↔
      ∃ inputs main, specs.mapM (readInput? s.element) = .ok inputs ∧
        mainName s functions = .ok main ∧ Prints s main functions inputs out := by
  rcases emit_cases machine hmode hsome hlines specs with
    ⟨fault, hinputs, hfault, -⟩ | ⟨inputs, fault, hinputs, hfault, -, -, hnot⟩ |
      ⟨inputs, main, hinputs, hmain, hfault, hprints⟩
  · simp [hfault, hinputs]
  · rw [hfault, hinputs]
    constructor
    · rintro ⟨h, -⟩
      exact nomatch h
    · rintro ⟨_, main, ⟨⟩, hmain, hprints⟩
      exact absurd hprints (hnot main out hmain)
  · constructor
    · rintro ⟨-, rfl⟩
      exact ⟨inputs, main, hinputs, hmain, hprints⟩
    · rintro ⟨inputs', main', hinputs', hmain', hprints'⟩
      obtain rfl := Except.ok.inj (hinputs.symm.trans hinputs')
      obtain rfl := Except.ok.inj (hmain.symm.trans hmain')
      exact ⟨hfault, hprints.unique hprints'⟩

end Emit

/-! ## The program -/

/-- The exit code tells the faults apart, and what is printed is that of the report. -/
theorem ofReport_cases (s : Settings) (r : Report) :
    (Outcome.ofReport s r).out = r.out ∧
    ((r.fault = none ∧ (Outcome.ofReport s r).exit = .ok 0) ∨
    ∃ fault, r.fault = some fault ∧
      ((isUserFault fault = true ∧ (Outcome.ofReport s r).exit = .ok 1) ∨
        (isUserFault fault = false ∧ (Outcome.ofReport s r).exit = .error fault))) := by
  unfold Outcome.ofReport
  cases r.fault with
  | none => exact ⟨rfl, .inl ⟨rfl, rfl⟩⟩
  | some fault =>
    cases huser : isUserFault fault with
    | true => simp [huser]
    | false => simp [huser]

theorem exit_ofReport_eq_error_iff {r : Report} {fault : Fault} :
    (Outcome.ofReport s r).exit = .error fault ↔ r.fault = some fault ∧ isUserFault fault = false := by
  obtain ⟨-, ⟨hfault, hexit⟩ | ⟨fault', hfault, ⟨huser, hexit⟩ | ⟨huser, hexit⟩⟩⟩ := ofReport_cases s r
  · simp [hfault, hexit]
  · rw [hfault, hexit]
    constructor
    · intro h
      exact nomatch h
    · rintro ⟨⟨⟩, hnot⟩
      exact absurd huser (ne_true_of_eq_false hnot)
  · rw [hfault, hexit, Except.error.injEq, Option.some.injEq]
    constructor
    · rintro rfl
      exact ⟨rfl, huser⟩
    · exact And.left

theorem exit_ofReport_eq_zero_iff {r : Report} :
    (Outcome.ofReport s r).exit = .ok 0 ↔ r.fault = none := by
  obtain ⟨-, ⟨hfault, hexit⟩ | ⟨fault', hfault, ⟨-, hexit⟩ | ⟨-, hexit⟩⟩⟩ := ofReport_cases s r
  · simp [hfault, hexit]
  · simp [hfault, hexit]
  · simp [hfault, hexit]

/-- **All or nothing.** Whatever arguments ask for tokens or a shader, once the source is there: a fault
passes through the program exactly if reading the inputs breaks off with it, and then nothing has been
printed; otherwise the exit code is zero or one, and with one nothing has been printed. It is zero exactly
if there is a function, all inputs are read, the entry point has a name and, for a shader, every function
is read, no name comes twice and the inputs can be declared; and what has been printed then shows all
functions. -/
theorem printing_all_or_nothing (openFile : String → FileAnswer) (machine : Machine)
    {arguments : List String} {s : Settings} {text : String} {specs : List (Option String)}
    (hrequest : Request.ofArguments arguments = .run s)
    (hmode : s.emit = some .tokens ∨ s.emit = some .wgsl)
    (hsource : source? openFile s = .ok (some (text, specs))) :
    let ending := run openFile machine arguments
    let functions := Source.functions text
    (∀ fault, ending.exit = .error fault ↔ functions ≠ [] ∧ BreaksOff s.element fault specs) ∧
    (ending.exit = .ok 0 ∨
      ending.out = "" ∧ (ending.exit = .ok 1 ∨ ∃ fault, ending.exit = .error fault)) ∧
    ∀ out, ending.exit = .ok 0 ∧ ending.out = out ↔ functions ≠ [] ∧ ∃ inputs main,
      specs.mapM (readInput? s.element) = .ok inputs ∧ mainName s functions = .ok main ∧
        Prints s main functions inputs out := by
  intro ending functions
  have hrun : ending = runSettings openFile machine s := by
    simp only [ending, run, hrequest]
  by_cases hnil : functions = []
  · -- without a function the inputs are not even looked at
    have hending : ending = { exit := .ok 1, err := "No 'function' definitions found\n" } := by
      have hempty : (Source.functions text).isEmpty = true := List.isEmpty_iff.mpr hnil
      rw [hrun, runSettings, hsource]
      simp only [hempty, if_true]
    rw [hending]
    simp [hnil]
  · have hempty : (Source.functions text).isEmpty = false := by
      rw [Bool.eq_false_iff, ne_eq, List.isEmpty_iff]
      exact hnil
    have hlines : ∀ function ∈ functions, Source.tokenLines function ≠ [] := by
      intro function hfunction
      obtain ⟨token, first, later, hline, -⟩ := Source.exists_tokenLines_of_mem_functions hfunction
      rw [hline]
      exact List.cons_ne_nil _ _
    have hending := hrun.trans (runSettings_eq hsource hempty machine)
    rw [hending]
    refine ⟨fun fault => ?_, ?_, fun out => ?_⟩
    · rw [exit_ofReport_eq_error_iff, emit_breaks_off_iff machine hmode hnil hlines]
      exact (and_iff_right hnil).symm
    · obtain ⟨hout, ⟨-, hexit⟩ | ⟨fault, hfault, hexit⟩⟩ :=
        ofReport_cases s (emit machine s functions specs)
      · exact .inl hexit
      · have hsilent : (emit machine s functions specs).out = "" := by
          refine out_emit_of_fault machine hmode hnil hlines specs ?_
          rw [hfault]
          exact Option.some_ne_none fault
        exact .inr ⟨hout.trans hsilent, hexit.imp And.right fun h => ⟨fault, h.2⟩⟩
    · rw [exit_ofReport_eq_zero_iff, (ofReport_cases s _).1, emit_prints_iff machine hmode hnil hlines]
      exact (and_iff_right hnil).symm

/-- The arguments print the shader of a source that has its entry point in front. -/
def kernelArguments : List String := ["k", "--main", "k", "--input", "a=1"]

/-- All of it is printed: both functions and the declaration of the input. -/
theorem kernelArguments_print_all :
    Request.ofArguments kernelArguments = .run kernelSettings ∧
    source? (fun _ => .content kernelFirst.toUTF8) kernelSettings
      = .ok (some (kernelFirst, [some "a=1"])) ∧
    let ending := run (fun _ => .content kernelFirst.toUTF8) .bare kernelArguments
    ending.exit = .ok 0 ∧ ending.out = kernelLast := by
  have hrequest : Request.ofArguments kernelArguments = .run kernelSettings := by decide +kernel
  have hdecoded : String.fromUTF8? kernelFirst.toUTF8 = some kernelFirst := by decide +kernel
  have hunified : String.ofList (unifyNewlines kernelFirst.toList) = kernelFirst := by decide +kernel
  have hsource : source? (fun _ => .content kernelFirst.toUTF8) kernelSettings
      = .ok (some (kernelFirst, [some "a=1"])) := by
    have hread : readFile (fun _ => .content kernelFirst.toUTF8) "k" = .ok kernelFirst := by
      rw [readFile, if_neg (by decide)]
      simp only [hdecoded, hunified]
    have hfile : ¬ "k".isEmpty = true := by decide
    simp only [source?, kernelSettings, hread, if_neg hfile]
    rfl
  have hsome : Source.functions kernelFirst ≠ [] := by decide +kernel
  have hshader : ([some "a=1"].mapM (readInput? kernelSettings.element)).toOption.bind (fun inputs =>
      ((Source.functions kernelFirst).mapM (readFunction kernelSettings "k")).toOption.bind fun parts =>
        (inputHeader inputs).toOption.bind fun header =>
          some (parts.map (·.1.name), (ShaderSource.ofParts header parts).text))
      = some (["k", "f"], kernelLast) := by decide +kernel
  obtain ⟨-, -, hexact⟩ := printing_all_or_nothing (fun _ => .content kernelFirst.toUTF8) .bare hrequest
    (.inr rfl) hsource
  refine ⟨hrequest, hsource, (hexact kernelLast).mpr ⟨hsome, ?_⟩⟩
  obtain ⟨inputs, hinputs, hshader⟩ := Check.exists_of_toOption hshader
  obtain ⟨parts, hparts, hshader⟩ := Check.exists_of_toOption hshader
  obtain ⟨header, hheader, hshader⟩ := Check.exists_of_toOption hshader
  obtain ⟨hnames, htext⟩ := Prod.mk.inj (Option.some.inj hshader)
  refine ⟨inputs, "k", hinputs, rfl, ?_⟩
  rw [← htext]
  refine .shader rfl hparts ?_ hheader
  rw [hnames]
  decide

/-- An input that is taken away again is let through by the arguments, and by the program as well. -/
theorem clearedInput_passes_through :
    let arguments := ["--demo", "--emit", "tokens", "--input=--"]
    (∃ s text specs, Request.ofArguments arguments = .run s ∧ s.emit = some .tokens ∧
      source? (fun _ => .missing) s = .ok (some (text, specs))) ∧
    (run (fun _ => .missing) {} arguments).exit = .error .inputMissing := by
  intro arguments
  let s : Settings := { demo := true, emit := some .tokens, inputs := [none] }
  have hrequest : Request.ofArguments arguments = .run s := by decide +kernel
  have hsource : source? (fun _ => .missing) s = .ok (some (demoProgram, [none])) := rfl
  have hfunctions : (Source.functions demoProgram).isEmpty = false := by decide +kernel
  refine ⟨⟨s, _, _, hrequest, rfl, hsource⟩, ?_⟩
  rw [run, hrequest]
  simp only
  rw [runSettings_eq hsource hfunctions, exit_ofReport_eq_error_iff]
  exact ⟨rfl, rfl⟩

end KernelShader.CommandLine
