/-
`Failure.lean` -- operations that do everything or nothing.

Registering a buffer, adding a function, listing variables and submitting an edit can fail at many points:
at the arguments, at the source, at the store, or at a device in the middle of a conversation. Wherever it
happens, what the session is made of stays as it was, its compiled shader included, and of the rig only
the device has noticed.
-/
import KernelShader.Proofs.Session.Current

set_option autoImplicit false

namespace KernelShader.Session

/-- The operations that take effect as a whole or not at all. -/
def Operation.isAtomic : Operation → Bool
  | .registerInput .. | .registerOutput .. | .addFunction .. | .addEntryPoint ..
  | .listVariables _ | .submitEdit .. => true
  | .confirm | .regenerate | .build | .execute _ | .run _ | .readBack _ | .close => false

/-- At most the device has noticed. -/
structure Unmoved (s s' : Session) : Prop where
  rest : s' = { s with rig := s'.rig }
  rig : Rig.Consults s.rig s'.rig

theorem unmoved_self (s : Session) : Unmoved s s := ⟨rfl, refl_of Rig.Consults s.rig⟩

/-! ## Registering -/

theorem forgetting_eq_error {α : Type} {work : RigM α} {s s' : Session} {fault : Fault}
    (h : outcome (onRig work >>= fun a => invalidate >>= fun _ => pure a) s = (.error fault, s')) :
    ∃ r, outcome work s.rig = (.error fault, r) ∧ s' = { s with rig := r } := by
  rcases hwork : outcome work s.rig with ⟨x, r⟩
  cases x with
  | ok a =>
    rw [outcome_forgetting_of_ok hwork] at h
    exact nomatch h
  | error fault' =>
    rw [outcome_forgetting_of_error hwork, Prod.mk.injEq, Except.error.injEq] at h
    exact ⟨r, by rw [h.1], h.2.symm⟩

theorem unmoved_of_registerInput {name : String} {data group : Value} {s s' : Session} {fault : Fault}
    (h : outcome (registerInput name data group) s = (.error fault, s')) : Unmoved s s' := by
  obtain ⟨r, hwork, rfl⟩ := forgetting_eq_error h
  exact ⟨rfl, Rig.consults_of_registerInput_error hwork⟩

theorem unmoved_of_registerOutput {name link : String} {data : Value} {s s' : Session} {fault : Fault}
    (h : outcome (registerOutput name link data) s = (.error fault, s')) : Unmoved s s' := by
  obtain ⟨r, hwork, rfl⟩ := forgetting_eq_error h
  exact ⟨rfl, Rig.consults_of_registerOutput_error hwork⟩

/-! ## Reading and editing -/

/-- A computation that fails with the session as it was, or else succeeds. -/
theorem unmoved_of_cases {α : Type} {m : SessionM α} {s s' : Session} {fault : Fault}
    (hcases : (∃ fault, outcome m s = (.error fault, s)) ∨ ∃ a s₁, outcome m s = (.ok a, s₁))
    (h : outcome m s = (.error fault, s')) : Unmoved s s' := by
  rcases hcases with ⟨fault', hout⟩ | ⟨a, s₁, hout⟩
  · rw [hout, Prod.mk.injEq] at h
    exact h.2 ▸ unmoved_self s
  · rw [hout] at h
    exact nomatch h

theorem unmoved_of_addFunction {source : String} {returns declared arguments : Value}
    {s s' : Session} {fault : Fault}
    (h : outcome (addFunction source returns declared arguments) s = (.error fault, s')) :
    Unmoved s s' := by
  refine unmoved_of_cases ?_ h
  rcases addFunction_cases source returns declared arguments s with hfault | ⟨body, s₁, hout, -⟩
  · exact Or.inl hfault
  · exact Or.inr ⟨body, s₁, hout⟩

theorem unmoved_of_addEntryPoint {source : String} {size declared : Value} {s s' : Session}
    {fault : Fault} (h : outcome (addEntryPoint source size declared) s = (.error fault, s')) :
    Unmoved s s' := by
  refine unmoved_of_cases ?_ h
  rcases addEntryPoint_cases source size declared s with hfault | ⟨body, s₁, hout, -⟩
  · exact Or.inl hfault
  · exact Or.inr ⟨body, s₁, hout⟩

theorem unmoved_of_submitEdit {function variableName : String} {type : Value} {s s' : Session}
    {fault : Fault} (h : outcome (submitEdit function variableName type) s = (.error fault, s')) :
    Unmoved s s' := by
  refine unmoved_of_cases ?_ h
  rcases submitEdit_cases function variableName type s with hfault | ⟨changed, store, -, hout⟩
  · exact Or.inl hfault
  · exact Or.inr ⟨changed, _, hout⟩

/-! ## Any operation -/

theorem unmoved_of_answer {s s' : Session} {operation : Operation} {fault : Fault}
    (hatomic : operation.isAtomic = true) (h : s.answer operation = (.error fault, s')) :
    Unmoved s s' := by
  rw [answer_eq] at h
  cases operation with
  | registerInput name data group =>
    exact unmoved_of_registerInput (Outcome.map_eq_error_iff.mp h)
  | registerOutput name link data =>
    exact unmoved_of_registerOutput (Outcome.map_eq_error_iff.mp h)
  | addFunction source returns declared arguments =>
    exact unmoved_of_addFunction (Outcome.map_eq_error_iff.mp h)
  | addEntryPoint source size declared =>
    exact unmoved_of_addEntryPoint (Outcome.map_eq_error_iff.mp h)
  | submitEdit function variableName type =>
    exact unmoved_of_submitEdit (Outcome.map_eq_error_iff.mp h)
  | listVariables function =>
    refine unmoved_of_cases ?_ h
    simp only [perform]
    rw [Outcome.get_bind, Outcome.liftExcept_bind]
    cases s.variableTypes function with
    | error fault' => exact Or.inl ⟨fault', rfl⟩
    | ok table => exact Or.inr ⟨_, s, rfl⟩
  | confirm | regenerate | build | execute _ | run _ | readBack _ | close =>
    exact absurd hatomic Bool.false_ne_true

/-- **Failures leave no trace.** When registering an input or an output, adding a function or an entry
point, listing variables or submitting an edit fails, with whatever arguments and at whatever call to the
device, then the session is what it was, but for a device that has gone on from where it was. -/
theorem failed_operation_keeps_session {s s' : Session} {operation : Operation} {fault : Fault}
    (hatomic : operation.isAtomic = true) (h : s.answer operation = (.error fault, s')) :
    s' = { s with rig := { s.rig with device := s'.rig.device } } ∧ Rig.Continues s.rig s'.rig := by
  have hunmoved := unmoved_of_answer hatomic h
  refine ⟨?_, hunmoved.rig.toContinues⟩
  rw [← hunmoved.rig.rest]
  exact hunmoved.rest

/-- A device with room for the data of one buffer. -/
def smallDevice : Device where
  failures := fun before call => match call with
    | .writeBuffer .. => if before.length = 1 then none else some (.outOfMemory, "")
    | _ => none

/-- An entry point with an input, compiled, and a type that has been changed since. -/
def preparedSession : Session :=
  (fresh {} (some smallDevice)).after
    [.registerInput "a" (.words [7]) (.int 0),
      .addEntryPoint "function main() \x7b\n  let b = 1;\n\x7d" (.int 1) .none,
      .build, .submitEdit "main" "b" (.text "i32")]

/-- One more input. -/
def onceMore : Operation :=
  .registerInput "c" (.words [8]) (.int 0)

theorem preparedSession_kept :
    ∃ s' fault, preparedSession.answer onceMore = (.error fault, s') ∧
      s'.rig.trace.length = preparedSession.rig.trace.length + 2 ∧ s'.artifact.isSome = true ∧
      s' = { preparedSession with rig := { preparedSession.rig with device := s'.rig.device } } := by
  have hfails : (preparedSession.answer onceMore).1.isOk = false := by decide +kernel
  have htrace : (preparedSession.answer onceMore).2.rig.trace.length
      = preparedSession.rig.trace.length + 2 := by decide +kernel
  have hartifact : preparedSession.artifact.isSome = true := by decide +kernel
  generalize preparedSession = s at *
  rcases h : s.answer onceMore with ⟨x, s'⟩
  rw [h] at hfails htrace
  cases x with
  | ok answer => exact nomatch hfails
  | error fault =>
    obtain ⟨heq, -⟩ := failed_operation_keeps_session rfl h
    have hsame : s'.artifact = s.artifact := by rw [heq]
    exact ⟨s', fault, rfl, htrace, hsame ▸ hartifact, heq⟩

end KernelShader.Session
