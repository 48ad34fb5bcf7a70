/-
`Results.lean` -- what a run returns.

As long as a session has not been closed, every input has a buffer with room for the data it was registered
with, which holds just that data until something is dispatched, and every output has a buffer of its size
(`Stored`). With a device that answers and an entry point to dispatch, a run then goes through. For each
output it returns what the dispatch left in the input that the output is linked to, and behind that what
was in the output before.
-/
import KernelShader.Proofs.Rig.Transfer
import KernelShader.Proofs.Session.ReadBack

set_option autoImplicit false

namespace KernelShader

/-- The bytes of an array that can go into a buffer are as many as the array has. -/
theorem length_bytes_of_ofHostData {data : Value} {element : ScalarKind} {array : HostArray}
    (hdata : ShaderType.ofHostData data = .ok (element, array)) :
    (Bytes.ofWords array.words).length = array.byteCount := by
  have hbytes : array.element.bytes = 4 := Rig.bytes_of_ofHostData hdata
  rw [Bytes.length_ofWords, HostArray.words, List.length_map, array.whole, HostArray.byteCount, hbytes,
    Nat.mul_comm]

namespace Session

/-! ## The data of the inputs -/

/-- In the course of the operations the input was registered, with the array as its data. -/
def Supplied (start : Session) (operations : List Operation) (i : Input) (array : HostArray) : Prop :=
  ∃ earlier data group later, operations = earlier ++ .registerInput i.name data group :: later ∧
    ((start.after earlier).answer (.registerInput i.name data group)).1 = .ok (.input i) ∧
    ShaderType.ofHostData data = .ok (i.element, array)

theorem Supplied.concat {start : Session} {operations : List Operation} {i : Input} {array : HostArray}
    (h : Supplied start operations i array) (operation : Operation) :
    Supplied start (operations ++ [operation]) i array := by
  obtain ⟨earlier, data, group, later, rfl, hanswer, hdata⟩ := h
  exact ⟨earlier, data, group, later ++ [operation], by simp, hanswer, hdata⟩

/-- The input has been supplied with data, and its buffer has room for it and holds it until something is
dispatched. -/
def HoldsInput (start : Session) (operations : List Operation) (i : Input) : Prop :=
  ∃ array bytes, Supplied start operations i array ∧ i.size = array.byteCount ∧
    (start.after operations).rig.Held i.buffer bytes ∧ i.size ≤ bytes.length ∧
    (start.rig.submittedSince (start.after operations).rig = [] →
      bytes = Bytes.overwrite (Bytes.ofWords array.words) (Bytes.zeros i.size))

/-- The output has a buffer of its size. -/
def HoldsOutput (s : Session) (o : Output) : Prop :=
  ∃ bytes, s.rig.Held o.buffer bytes ∧ bytes.length = o.size

/-- Every entry has its buffer. -/
structure Stored (start : Session) (operations : List Operation) : Prop where
  inputs : ∀ i ∈ (start.after operations).rig.inputs.values, HoldsInput start operations i
  outputs : ∀ o ∈ (start.after operations).rig.outputs.values, HoldsOutput (start.after operations) o

/-- There is room for all copies. -/
theorem Stored.roomy {start : Session} {operations : List Operation} (h : Stored start operations)
    (hregistered : (start.after operations).rig.Registered) : (start.after operations).rig.Roomy := by
  intro d hd o ho
  obtain ⟨bytes, ⟨place, d', hplace, hd', hbytes⟩, hlength⟩ := h.outputs o ho
  obtain ⟨i, hlink, -, hsize⟩ := hregistered.fed o ho
  rw [hd, Option.some.injEq] at hd'
  unfold Rig.copyOf
  rw [hlink]
  intro buffer n hbuffer hn
  rw [hplace, Option.some.injEq] at hbuffer
  rw [Memory.getElem?_lengths, hd', ← hbuffer, hbytes, Option.map_some, Option.some.injEq] at hn
  omega

/-- An operation that runs nothing. Entries that were there before keep what they hold. -/
theorem Stored.idle {start : Session} {operations : List Operation} {operation : Operation}
    (h : Stored start operations)
    (hprogresses : start.rig.Progresses (start.after operations).rig)
    (hidle : (start.after operations).rig.Idle (start.after (operations ++ [operation])).rig)
    (hinputs : ∀ i ∈ (start.after (operations ++ [operation])).rig.inputs.values,
      i ∈ (start.after operations).rig.inputs.values ∨
        HoldsInput start (operations ++ [operation]) i)
    (houtputs : ∀ o ∈ (start.after (operations ++ [operation])).rig.outputs.values,
      o ∈ (start.after operations).rig.outputs.values ∨
        HoldsOutput (start.after (operations ++ [operation])) o) :
    Stored start (operations ++ [operation]) := by
  have hsubmitted : start.rig.submittedSince (start.after (operations ++ [operation])).rig
      = start.rig.submittedSince (start.after operations).rig := by
    rw [hprogresses.submittedSince_trans hidle.progresses, hidle.submittedSince_eq, List.append_nil]
  constructor
  · intro i hi
    rcases hinputs i hi with hold | hnew
    · obtain ⟨array, bytes, hsupplied, hsize, hheld, hroom, hdata⟩ := h.inputs i hold
      refine ⟨array, bytes, hsupplied.concat operation, hsize, hheld.idle hidle, hroom, ?_⟩
      rwa [hsubmitted]
    · exact hnew
  · intro o ho
    rcases houtputs o ho with hold | hnew
    · obtain ⟨bytes, hheld, hlength⟩ := h.outputs o hold
      exact ⟨bytes, hheld.idle hidle, hlength⟩
    · exact hnew

/-- An operation that works with the buffers as they are. -/
theorem Stored.serves {start : Session} {operations : List Operation} {operation : Operation}
    (h : Stored start operations)
    (hprogresses : start.rig.Progresses (start.after operations).rig)
    (hregistered : (start.after operations).rig.Registered)
    (hserves : (start.after operations).rig.Serves (start.after (operations ++ [operation])).rig) :
    Stored start (operations ++ [operation]) := by
  have hroomy : (start.after operations).rig.Roomy := h.roomy hregistered
  constructor
  · intro i hi
    rw [hserves.inputs] at hi
    obtain ⟨array, bytes, hsupplied, hsize, hheld, hroom, hdata⟩ := h.inputs i hi
    obtain ⟨bytes', hheld', hlength, hsame⟩ := hheld.serves hserves hroomy
    refine ⟨array, bytes', hsupplied.concat operation, hsize, hheld', by omega, ?_⟩
    intro hnone
    rw [hprogresses.submittedSince_trans hserves.progresses, List.append_eq_nil_iff] at hnone
    rw [hsame hnone.2, hdata hnone.1]
  · intro o ho
    rw [hserves.outputs] at ho
    obtain ⟨bytes, hheld, hlength⟩ := h.outputs o ho
    obtain ⟨bytes', hheld', hlength', -⟩ := hheld.serves hserves hroomy
    exact ⟨bytes', hheld', by omega⟩

/-- A new input holds its data. -/
theorem holdsInput_of_registerInput {start : Session} {operations : List Operation} {name : String}
    {data group : Value} {i : Input} {r : Rig}
    (h : outcome (Rig.registerInput name data group) (start.after operations).rig = (.ok i, r))
    (hr : (start.after (operations ++ [.registerInput name data group])).rig = r) :
    HoldsInput start (operations ++ [.registerInput name data group]) i := by
  obtain ⟨element, array, place, d, d', hcheck, hd, hd', hi, -, -, hmemory⟩ :=
    Rig.registerInput_stores h
  have hname : i.name = name := by simp [hi]
  have hsize : i.size = array.byteCount := by simp [hi]
  have hanswer : ((start.after operations).answer (.registerInput name data group)).1
      = .ok (.input i) := by
    rw [answer_eq, perform, Outcome.map_eq, registerInput, outcome_forgetting_of_ok h]
    rfl
  refine ⟨array, Bytes.overwrite (Bytes.ofWords array.words) (Bytes.zeros array.byteCount), ?_, hsize,
    ?_, ?_, fun _ => by rw [hsize]⟩
  · refine ⟨operations, data, group, [], by rw [hname], by rw [hname]; exact hanswer, ?_⟩
    rw [hi]
    exact (Rig.checkInput_eq_ok_iff.mp hcheck).1
  · refine ⟨⟨d.memory.length⟩, d', by simp [hi], hr ▸ hd', ?_⟩
    rw [hmemory]
    exact List.getElem?_concat_length
  · rw [Bytes.length_overwrite, Bytes.length_zeros]
    omega

theorem holdsOutput_of_registerOutput {s : Session} {name link : String} {data : Value} {o : Output}
    {r r' : Rig} (h : outcome (Rig.registerOutput name link data) r = (.ok o, r')) (hr : s.rig = r') :
    HoldsOutput s o := by
  obtain ⟨source, size, d, d', -, -, hd', ho, -, -, hmemory⟩ := Rig.registerOutput_stores h
  refine ⟨Bytes.zeros size, ⟨⟨d.memory.length⟩, d', by simp [ho], hr ▸ hd', ?_⟩, ?_⟩
  · rw [hmemory]
    exact List.getElem?_concat_length
  · rw [Bytes.length_zeros, ho]

/-- **A run of operations** in which the session is not closed. -/
theorem stored_after (config : Config) (device : Option Device) (operations : List Operation)
    (hopen : Operation.close ∉ operations) : Stored (fresh config device) operations := by
  refine after_induction config device (P := fun operations => Operation.close ∉ operations →
    Stored (fresh config device) operations) ?_ ?_ operations hopen
  · intro _
    exact ⟨fun _ h => absurd h List.not_mem_nil, fun _ h => absurd h List.not_mem_nil⟩
  intro operations operation answer r ih hregistered _ hr hadvances hopen
  rw [List.mem_append, not_or] at hopen
  have hstored := ih hopen.1
  have hprogresses := (accounted_after config device operations).progresses
  cases hadvances with
  | works hserves _ =>
    rw [← hr] at hserves
    exact hstored.serves hprogresses hregistered hserves
  | refuses hconsults hidle =>
    refine hstored.idle hprogresses (hr ▸ hidle) ?_ ?_
    · intro i hi
      rw [hr, hconsults.inputs] at hi
      exact Or.inl hi
    · intro o ho
      rw [hr, hconsults.outputs] at ho
      exact Or.inl ho
  | registersInput h =>
    obtain ⟨_, _, _, _, _, hcheck, -, -, -, hinputs, houtputs, -⟩ := Rig.registerInput_stores h
    have hnew := (Rig.checkName_eq_ok_iff.mp (Rig.checkInput_eq_ok hcheck).1).1
    have hidle := (Rig.idle_registerInput _ _ _).of_outcome_eq h
    refine hstored.idle hprogresses (hr ▸ hidle) ?_ ?_
    · intro i hi
      rw [hr, hinputs, NameTable.values_insert_of_not_mem _ hnew, List.mem_append,
        List.mem_singleton] at hi
      refine hi.imp_right fun hadded => ?_
      rw [hadded]
      exact holdsInput_of_registerInput h hr
    · intro o ho
      rw [hr, houtputs] at ho
      exact Or.inl ho
  | registersOutput h =>
    obtain ⟨_, _, _, _, hcheck, -, -, -, hinputs, houtputs, -⟩ := Rig.registerOutput_stores h
    have hnew := (Rig.checkName_eq_ok_iff.mp (Rig.checkOutput_eq_ok hcheck).2.1).2
    have hidle := (Rig.idle_registerOutput _ _ _).of_outcome_eq h
    refine hstored.idle hprogresses (hr ▸ hidle) ?_ ?_
    · intro i hi
      rw [hr, hinputs] at hi
      exact Or.inl hi
    · intro o ho
      rw [hr, houtputs, NameTable.values_insert_of_not_mem _ hnew, List.mem_append,
        List.mem_singleton] at ho
      refine ho.imp_right fun hadded => ?_
      rw [hadded]
      exact holdsOutput_of_registerOutput h hr
  | releases => exact absurd (List.mem_singleton_self _) hopen.2

/-! ## The order of the outputs -/

/-- The output that an operation registers, if it is answered with one. -/
def Operation.registered? : Operation → Except Fault Answer → Option Output
  | .registerOutput .., .ok (.output o) => some o
  | _, _ => none

/-- The outputs that are registered in the course of the operations, in order. -/
def registeredOutputs : Session → List Operation → List Output
  | _, [] => []
  | s, operation :: rest =>
    (operation.registered? (s.answer operation).1).toList ++
      registeredOutputs (s.answer operation).2 rest

theorem registeredOutputs_concat (s : Session) (operations : List Operation) (operation : Operation) :
    registeredOutputs s (operations ++ [operation]) = registeredOutputs s operations ++
      (operation.registered? ((s.after operations).answer operation).1).toList := by
  induction operations generalizing s with
  | nil => simp [registeredOutputs, after]
  | cons first rest ih =>
    rw [List.cons_append, registeredOutputs, ih, registeredOutputs, List.append_assoc]
    rfl

/-- The table of outputs has them in order of registration. -/
theorem values_outputs_eq (config : Config) (device : Option Device) (operations : List Operation)
    (hopen : Operation.close ∉ operations) :
    ((fresh config device).after operations).rig.outputs.values
      = registeredOutputs (fresh config device) operations := by
  refine after_induction config device (P := fun operations => Operation.close ∉ operations →
    ((fresh config device).after operations).rig.outputs.values
      = registeredOutputs (fresh config device) operations) (fun _ => rfl) ?_ operations hopen
  intro operations operation answer r ih _ hanswer hr hadvances hopen
  rw [List.mem_append, not_or] at hopen
  rw [registeredOutputs_concat, ← ih hopen.1, hanswer, hr]
  cases hadvances with
  | works hserves houtput =>
    have hnone : operation.registered? answer = none := by
      unfold Operation.registered?
      split
      · exact absurd rfl (houtput _ _ _)
      · rfl
    rw [hserves.outputs, hnone]
    exact (List.append_nil _).symm
  | refuses hconsults _ =>
    rw [hconsults.outputs]
    cases operation <;> exact (List.append_nil _).symm
  | registersInput h =>
    obtain ⟨-, -, -, -, -, -, -, -, -, -, houtputs, -⟩ := Rig.registerInput_stores h
    rw [houtputs]
    exact (List.append_nil _).symm
  | registersOutput h =>
    obtain ⟨_, _, _, _, hcheck, -, -, -, -, houtputs, -⟩ := Rig.registerOutput_stores h
    have hnew := (Rig.checkName_eq_ok_iff.mp (Rig.checkOutput_eq_ok hcheck).2.1).2
    rw [houtputs, NameTable.values_insert_of_not_mem _ hnew]
    rfl
  | releases => exact absurd (List.mem_singleton_self _) hopen.2

/-! ## Runs that go through -/

theorem compile_succeeds {s : Session} (hwilling : s.rig.Willing) (text entryPoint : String) :
    ∃ a s', outcome (compile text entryPoint s.rig.signature) s = (.ok a, s') := by
  unfold compile
  rw [Outcome.bind_of_ok (outcome_invalidate s), Outcome.bind_of_ok (outcome_report _ _)]
  set s₀ : Session := logging { s with artifact := none, bindGroups := none } [.compiling text]
  have hlog : Rig.Continues s.rig s₀.rig := continues_log s.rig _
  obtain ⟨layout, r₁, hlayout⟩ := hwilling.buildLayout s₀.rig hlog
  have hrig₁ : outcome (onRig Rig.buildLayout) s₀ = (.ok layout, { s₀ with rig := r₁ }) := by
    rw [outcome_onRig, hlayout]
  have hfits : layout.signature = s.rig.signature := (Rig.buildLayout_eq_ok hlayout).1
  have hgone₁ : Rig.Continues s₀.rig r₁ := Rig.continues_buildLayout.of_outcome_eq hlayout
  obtain ⟨a, r₂, hcompile⟩ :=
    hwilling.compile hfits text entryPoint r₁ (trans_of Rig.Continues hlog hgone₁)
  have hrig₂ : outcome (onRig (Rig.compile text entryPoint layout s.rig.signature))
      { s₀ with rig := r₁ } = (.ok a, { s₀ with rig := r₂ }) := by
    rw [outcome_onRig, hcompile]
  rw [Outcome.bind_of_ok hrig₁, Outcome.bind_of_ok hrig₂]
  exact ⟨_, _, rfl⟩

/-- Bind groups are made for an artifact that fits, and hold the inputs. -/
theorem Fits.bindTo_succeeds {s : Session} {a : Artifact} (hfits : s.Fits a)
    (hwilling : s.rig.Willing) :
    ∃ groups s', outcome (bindTo a) s = (.ok a, s') ∧ s'.artifact = s.artifact ∧
      s'.bindGroups = some groups ∧ Rig.Still s.rig s'.rig ∧ s'.rig.Wired groups s'.rig.bound := by
  obtain ⟨groups, r, hgroups⟩ := hwilling.buildGroups hfits.signature s.rig (refl_of Rig.Continues s.rig)
  have hstill : Rig.Still s.rig r := (Rig.still_building.buildGroups a.layout).of_outcome_eq hgroups
  have hrig : outcome (onRig (Rig.buildGroups a.layout)) s = (.ok groups, { s with rig := r }) := by
    rw [outcome_onRig, hgroups]
  unfold bindTo
  rw [Outcome.bind_of_ok hrig]
  refine ⟨groups, { s with rig := r, bindGroups := some groups }, rfl, rfl, rfl, hstill, ?_⟩
  have hwired := Rig.buildGroups_wires hgroups hwilling hfits.laid.length_eq.symm
  rwa [← hstill.bound_eq] at hwired

/-- **Building goes through** if there is an entry point and the header can be written, and leaves bind groups
that hold the inputs. -/
theorem build_succeeds {s : Session} (hstep : s.InStep) (hcurrent : s.Current)
    (hplaces : s.rig.Declarable) (hwilling : s.rig.Willing) (hentry : s.store.entry?.isSome) :
    ∃ a groups s', outcome build s = (.ok a, s') ∧ s'.artifact = some a ∧
      s'.bindGroups = some groups ∧ Rig.Still s.rig s'.rig ∧ s'.rig.Wired groups s'.rig.bound := by
  obtain ⟨entry, hentry⟩ := Option.isSome_iff_exists.mp hentry
  obtain ⟨text, htext⟩ := hstep.exists_shaderText hplaces
  have hout := outcome_build_of_some hentry htext
  cases husable : s.usable? text entry.name s.rig.signature with
  | some a =>
    rw [husable] at hout
    have ha := artifact_of_usable? husable
    obtain ⟨groups, s', hbind, hartifact, hmore⟩ := (hcurrent.fits ha).bindTo_succeeds hwilling
    exact ⟨a, groups, s', hout.trans hbind, hartifact.trans ha, hmore⟩
  | none =>
    rw [husable] at hout
    obtain ⟨a, s₁, hcompile⟩ := compile_succeeds hwilling text entry.name
    rcases compile_cases htext hentry with
      ⟨fault, _, hfail, -⟩ | ⟨a', s₁', hok, -, ha, -, hfits⟩
    · simp [hcompile] at hfail
    · have hstill : Rig.Still s.rig s₁'.rig :=
        ((along_compile Rig.still_building _ _ _).of_outcome_eq hok).rig
      obtain ⟨groups, s', hbind, hartifact, hgroups, hstill', hwired⟩ :=
        hfits.bindTo_succeeds (hwilling.continues hstill.toContinues)
      refine ⟨a', groups, s', ?_, hartifact.trans ha, hgroups, trans_of Rig.Still hstill hstill', hwired⟩
      rw [hout]
      exact (Outcome.bind_of_ok hok bindTo).trans hbind

/-- **A run goes through**, and what it consists of. -/
theorem run_succeeds {s : Session} (hstep : s.InStep) (hcurrent : s.Current)
    (hregistered : s.rig.Registered) (hroomy : s.rig.Roomy) (hplaces : s.rig.Declarable)
    (hwilling : s.rig.Willing) (hentry : s.store.entry?.isSome) {counts : Value} {ns : List Nat}
    (hcounts : Workgroup.counts counts = .ok ns)
    (hheld : ∀ o ∈ s.rig.outputs.values, ∃ bytes, s.rig.Held o.buffer bytes ∧ 4 ∣ bytes.length) :
    ∃ (groups : List (Ref .group)) (readings : NameTable Rig.Reading) (s₁ s₂ s' : Session),
      outcome (run counts) s = (.ok readings, s') ∧
      Rig.Still s.rig s₁.rig ∧ s₁.rig.Wired groups s₁.rig.bound ∧
      Rig.Dispatched groups ns s₁.rig s₂.rig ∧
      outcome (Rig.readBack .sync) s₂.rig = (.ok readings, s'.rig) := by
  obtain ⟨a, groups, s₁, hbuild, ha, hgroups, hstill, hwired⟩ :=
    build_succeeds hstep hcurrent hplaces hwilling hentry
  have hwilling₁ := hwilling.continues hstill.toContinues
  have hregistered₁ := hregistered.persists hstill.persists
  have hroomy₁ : s₁.rig.Roomy := hstill.serves.roomy hroomy
  obtain ⟨_, r, hexecute⟩ :=
    hwilling₁.execute hregistered₁ a groups hcounts s₁.rig (refl_of Rig.Continues s₁.rig)
  rcases Rig.execute_cases a groups counts s₁.rig with ⟨fault, _, hfail, -⟩ | ⟨ns', r', hok, hns, hran⟩
  · simp [hexecute] at hfail
  rw [hcounts, Except.ok.injEq] at hns
  rw [← hns] at hran
  -- the outputs are as long after the dispatch as they were, so that they can be read
  have hheld' : ∀ o ∈ r'.outputs.values, ∃ bytes, r'.Held o.buffer bytes ∧ 4 ∣ bytes.length := by
    intro o ho
    rw [hran.outputs, hstill.outputs] at ho
    obtain ⟨bytes, hbytes, hwhole⟩ := hheld o ho
    obtain ⟨bytes', hbytes', hlength, -⟩ := (hbytes.idle hstill.idle).serves hran.serves hroomy₁
    exact ⟨bytes', hbytes', hlength ▸ hwhole⟩
  obtain ⟨readings, r'', hread⟩ :=
    (hwilling₁.continues hran.toContinues).readBack .sync hran.submitted hheld'
  refine ⟨groups, readings, s₁, { s₁ with rig := r' }, { s₁ with rig := r'' }, ?_, hstill, hwired, hran,
    hread⟩
  have hexecuted : outcome (execute counts) s₁ = (.ok (), { s₁ with rig := r' }) := by
    rw [outcome_execute_of_built ha hgroups, outcome_dispatchBuilt ha hgroups, outcome_onRig, hok]
  unfold run
  rw [Outcome.bind_of_ok hbuild, Outcome.bind_of_ok hexecuted, readBack, outcome_onRig, hread]

/-! ## What a run returns -/

/-- **A run returns what the dispatch left in the linked inputs.** The session has come about in any way
without being closed, its device answers and has a kernel that changes bound buffers only, there is an
entry point, the places of the inputs can be written, the counts are in order and the outputs are made of
whole words. Then a run succeeds. It has one entry for every output, in order of registration, with the kind
of elements of the linked input. In front the entry has what that input holds after the pass, and behind
that what the output held before. If the pass changed nothing and it was the first, the front is the data
the input was registered with. -/
theorem run_returns_linked_inputs (config : Config) (device : Device) (operations : List Operation)
    (hopen : Operation.close ∉ operations) (hconfined : device.kernel.Confined)
    (hwilling : ((fresh config (some device)).after operations).rig.Willing)
    (hentry : ((fresh config (some device)).after operations).store.entry?.isSome)
    (hplaces : ((fresh config (some device)).after operations).rig.Declarable)
    (hwhole : ∀ o ∈ registeredOutputs (fresh config (some device)) operations, 4 ∣ o.size)
    {counts : Value} {ns : List Nat} (hcounts : Workgroup.counts counts = .ok ns) :
    let start := fresh config (some device)
    let s := start.after operations
    ∃ d readings s', s.rig.device = some d ∧
      s.answer (.run counts) = (.ok (.readings readings), s') ∧
      List.Forall₂ (fun o entry => ∃ i array, s.rig.inputs.get? o.link = some i ∧
          Supplied start operations i array ∧ i.size = array.byteCount ∧
          Rig.Delivered i o d.memory (device.kernel.run s.rig.bound ns d.memory) entry ∧
          (device.kernel.run s.rig.bound ns d.memory = d.memory →
            start.rig.submittedSince s.rig = [] →
            entry.2.bytes.take i.size = Bytes.ofWords array.words))
        (registeredOutputs start operations) readings.entries := by
  intro start s
  have hreachable : Reachable s := ⟨config, some device, operations, rfl⟩
  have hregistered : s.rig.Registered := hreachable.rig.registered
  have hstored : Stored start operations := stored_after config (some device) operations hopen
  have hvalues : s.rig.outputs.values = registeredOutputs start operations :=
    values_outputs_eq config (some device) operations hopen
  have hheld : ∀ o ∈ s.rig.outputs.values, ∃ bytes, s.rig.Held o.buffer bytes ∧ 4 ∣ bytes.length := by
    intro o ho
    obtain ⟨bytes, hbytes, hlength⟩ := hstored.outputs o ho
    rw [hvalues] at ho
    exact ⟨bytes, hbytes, hlength ▸ hwhole o ho⟩
  obtain ⟨groups, readings, s₁, s₂, s', hrun, hstill, hwired, hran, hread⟩ :=
    run_succeeds hreachable.inStep hreachable.current hregistered (hstored.roomy hregistered) hplaces
      hwilling hentry hcounts hheld
  obtain ⟨d, hd, hprogress⟩ :=
    (accounted_after config (some device) operations).progresses.device (d := device) rfl
  obtain ⟨d₁, hd₁, -⟩ := hstill.device hd
  have hmemory : d₁.memory = d.memory := (hstill.still hd hd₁).unchanged
  have hkernel : d₁.kernel = device.kernel := (hstill.still hd hd₁).kernel.trans hprogress.kernel
  have hregistered₁ := hregistered.persists hstill.persists
  obtain ⟨-, -, hreports⟩ := (hregistered₁.persists hran.persists).readBack_eq_ok hread
  refine ⟨d, readings, s', hd, ?_, ?_⟩
  · exact Outcome.map_eq_ok_iff.mpr ⟨readings, hrun, rfl⟩
  · rw [hran.outputs, hstill.outputs, hvalues] at hreports
    have hmembers := (List.forall₂_and_left (p := (· ∈ s.rig.outputs.values)) _ _).mpr
      ⟨fun o ho => hvalues ▸ ho, hreports⟩
    refine hmembers.imp ?_
    rintro o entry ⟨ho, hentry⟩
    obtain ⟨i, hlink, -, -⟩ := hregistered.fed o ho
    obtain ⟨array, bytes, hsupplied, hsize, hsource, hroom, hdata⟩ :=
      hstored.inputs i (NameTable.mem_values_of_get? hlink)
    obtain ⟨old, htarget, hlength⟩ := hstored.outputs o ho
    have hdelivered := hran.delivered hregistered₁ hwired hd₁ (hkernel ▸ hconfined)
      (hstill.outputs ▸ ho) (hstill.inputs ▸ hlink) (hsource.idle hstill.idle) hroom
      (htarget.idle hstill.idle) hlength
      (hentry.of_still ((Rig.still_readBack .sync).of_outcome_eq hread))
    rw [hmemory, hkernel, hstill.bound_eq] at hdelivered
    refine ⟨i, array, hlink, hsupplied, hsize, hdelivered, ?_⟩
    intro hsame hfirst
    obtain ⟨source, hbuffer, hfront⟩ := hdelivered.front
    obtain ⟨place, d₂, hplace, hd₂, hbytes⟩ := hsource
    obtain ⟨_, data, _, _, -, -, hhost⟩ := hsupplied
    rw [hplace, Option.some.injEq] at hbuffer
    rw [hd, Option.some.injEq] at hd₂
    rw [hfront, hsame, ← hbuffer, hd₂, List.getD_eq_getElem?_getD, hbytes, hdata hfirst]
    refine Bytes.take_overwrite ?_
    rw [length_bytes_of_ofHostData hhost, hsize]

/-- A device that answers in the beginning answers in the end. -/
theorem willing_after (config : Config) {device : Device} (h : device.Willing)
    (operations : List Operation) : ((fresh config (some device)).after operations).rig.Willing := by
  obtain ⟨d, hd, hprogress⟩ :=
    (accounted_after config (some device) operations).progresses.device (d := device) rfl
  exact ⟨d, hd, hprogress.willing h⟩

/-- Two inputs in two groups and three outputs, two of them linked to one input and one of these longer
than it is. -/
def firstRun : List Operation :=
  let single : Value := .array ⟨⟨.signed, 4, false⟩, [1], [.int (-1)], rfl⟩
  let pair := Value.words [7, 9]
  let triple := Value.words [0, 0, 0]
  [.registerInput "a" pair (.int 0), .registerInput "b" single (.int 1),
    .registerOutput "c" "a" triple, .registerOutput "e" "b" single, .registerOutput "f" "a" pair,
    .addEntryPoint "function main() \x7b\n\x7d" (.int 1) .none]

/-- The same with a dispatch already made. -/
def secondRun : List Operation := firstRun ++ [.execute (.int 1)]

/-- Every word of a bound buffer goes up by one with each dispatch. -/
def incrementing : Device := { kernel := Kernel.incrementWords }

/-- A second dispatch that changes the inputs: all three outputs are returned with what it left there. A
first dispatch that changes nothing: they are returned with the data of the inputs. -/
theorem secondRun_returns :
    (∃ d readings s', ((fresh {} (some incrementing)).after secondRun).rig.device = some d ∧
      ((fresh {} (some incrementing)).after secondRun).answer (.run (.int 2))
        = (.ok (.readings readings), s') ∧
      List.Forall₂ (fun o entry => ∃ i,
          ((fresh {} (some incrementing)).after secondRun).rig.inputs.get? o.link = some i ∧
          Rig.Delivered i o d.memory (Kernel.incrementWords.run
            ((fresh {} (some incrementing)).after secondRun).rig.bound [2] d.memory) entry)
        (registeredOutputs (fresh {} (some incrementing)) secondRun) readings.entries) ∧
    (∃ readings s', ((fresh {} (some {})).after firstRun).answer (.run (.int 2))
        = (.ok (.readings readings), s') ∧
      List.Forall₂ (fun o entry => ∃ i array,
          ((fresh {} (some {})).after firstRun).rig.inputs.get? o.link = some i ∧
          Supplied (fresh {} (some {})) firstRun i array ∧
          entry.2.bytes.take i.size = Bytes.ofWords array.words)
        (registeredOutputs (fresh {} (some {})) firstRun) readings.entries) := by
  have hcounts : Workgroup.counts (.int 2) = .ok [2] := rfl
  constructor
  · obtain ⟨d, readings, s', hd, hrun, hentries⟩ := run_returns_linked_inputs {} incrementing secondRun
      (by simp [secondRun, firstRun]) Kernel.confined_incrementWords
      (willing_after {} (fun _ _ => rfl) secondRun) (by decide +kernel) (by decide +kernel)
      (by decide +kernel) hcounts
    refine ⟨d, readings, s', hd, hrun, hentries.imp ?_⟩
    rintro o entry ⟨i, -, hlink, -, -, hdelivered, -⟩
    exact ⟨i, hlink, hdelivered⟩
  · have hfirst : (fresh {} (some {})).rig.submittedSince ((fresh {} (some {})).after firstRun).rig
        = [] := by decide +kernel
    obtain ⟨d, readings, s', -, hrun, hentries⟩ := run_returns_linked_inputs {} {} firstRun
      (by simp [firstRun]) Kernel.confined_idle (willing_after {} (fun _ _ => rfl) firstRun)
      (by decide +kernel) (by decide +kernel) (by decide +kernel) hcounts
    refine ⟨readings, s', hrun, hentries.imp ?_⟩
    rintro o entry ⟨i, array, hlink, hsupplied, -, -, hdata⟩
    exact ⟨i, array, hlink, hsupplied, hdata (Kernel.run_idle _ _ _) hfirst⟩

example : (((fresh {} (some incrementing)).after secondRun).answer (.run (.int 2))).1.toOption
    = some (.readings ⟨[("c", ⟨.u32, [9, 0, 0, 0, 11, 0, 0, 0, 0, 0, 0, 0]⟩),
      ("e", ⟨.i32, [1, 0, 0, 0]⟩), ("f", ⟨.u32, [9, 0, 0, 0, 11, 0, 0, 0]⟩)]⟩) := by
  decide +kernel

end Session

end KernelShader
