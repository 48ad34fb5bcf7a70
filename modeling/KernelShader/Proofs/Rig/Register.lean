/-
`Register.lean` -- what registering a buffer does to a rig.

A registration fails and leaves everything but the device as it was, or it adds one entry; there is
nothing in between, although two calls to the device come first and either may fail.
-/
import KernelShader.Proofs.Rig.Calls
import KernelShader.Rig.Register

set_option autoImplicit false

namespace KernelShader

/-- An array of unsigned words, as the data of a buffer. -/
def Value.words (values : List Int) : Value :=
  .array ⟨⟨.unsigned, 4, false⟩, [values.length], values.map .int, by
    rw [List.length_map, HostArray.count_singleton]⟩

namespace Rig

/-- **What registering an input does.** It fails and nothing but the device has noticed, or the input
has passed its checks and is put into the table under the next binding number, with a buffer made for it. -/
theorem registerInput_cases (name : String) (data group : Value) (r : Rig) :
    (∃ fault r', outcome (registerInput name data group) r = (.error fault, r') ∧ Consults r r') ∨
    (∃ element array place buffer r', r.checkInput name data group = .ok (element, array, place) ∧
      Consults r r' ∧ r'.Made buffer (.createBuffer name array.byteCount inputUsage) ∧
      let input : Input := ⟨name, element, array.byteCount, place, r.nextBinding, some buffer⟩
      outcome (registerInput name data group) r = (.ok input,
        { r' with
          inputs := r.inputs.insert name input, nextBinding := r.nextBinding + 1
          log := r'.log ++ [.inputBound name place r.nextBinding element array.byteCount] })) := by
  unfold registerInput
  rw [Outcome.get_bind, Outcome.liftExcept_bind]
  cases hcheck : r.checkInput name data group with
  | error fault => exact Or.inl ⟨fault, r, rfl, refl_of Consults r⟩
  | ok checked =>
    obtain ⟨element, array, place⟩ := checked
    simp only
    have hcreate := consults_onDevice
      (Device.makes_createBuffer name array.byteCount inputUsage).grows
    rcases hx : outcome (onDevice (Device.createBuffer name array.byteCount inputUsage)) r
      with ⟨x, r₁⟩
    have hgone : Consults r r₁ := hcreate.of_outcome_eq hx
    cases x with
    | error fault =>
      rw [Outcome.bind_of_error hx]
      exact Or.inl ⟨fault, r₁, rfl, hgone⟩
    | ok buffer =>
      rw [Outcome.bind_of_ok hx]
      have hwrite := consults_onDevice
        (Device.speaks_writeBuffer buffer (Bytes.ofWords array.words)).grows
      rcases hy : outcome (onDevice (Device.writeBuffer buffer (Bytes.ofWords array.words))) r₁
        with ⟨y, r₂⟩
      have hgone' : Consults r r₂ := trans_of Consults hgone (hwrite.of_outcome_eq hy)
      cases y with
      | error fault =>
        rw [Outcome.bind_of_error hy]
        exact Or.inl ⟨fault, r₂, rfl, hgone'⟩
      | ok _ =>
        rw [Outcome.bind_of_ok hy]
        have hmade := (made_of_makes (Device.makes_createBuffer _ _ _) hx).continues
          (hwrite.of_outcome_eq hy).toContinues
        refine Or.inr ⟨element, array, place, buffer, r₂, rfl, hgone', hmade, ?_⟩
        rw [← hgone'.inputs, ← hgone'.nextBinding]
        rfl

/-- A registration that fails has done nothing but talk to the device. -/
theorem consults_of_registerInput_error {name : String} {data group : Value} {r r' : Rig}
    {fault : Fault} (h : outcome (registerInput name data group) r = (.error fault, r')) :
    Consults r r' := by
  rcases registerInput_cases name data group r with ⟨_, r₁, hout, hgone⟩ | ⟨_, _, _, _, _, -, -, -, hout⟩
  · rw [hout, Prod.mk.injEq] at h
    exact h.2 ▸ hgone
  · rw [hout] at h
    exact nomatch h

/-- **What registering an output does.** It fails and nothing but the device has noticed, or the
output has passed its checks and is put into the table, with a buffer made for it. -/
theorem registerOutput_cases (name link : String) (data : Value) (r : Rig) :
    (∃ fault r', outcome (registerOutput name link data) r = (.error fault, r') ∧ Consults r r') ∨
    (∃ source size buffer r', r.checkOutput name link data = .ok (source, size) ∧
      Consults r r' ∧ r'.Made buffer (.createBuffer name size outputUsage) ∧
      let output : Output := ⟨name, source.element, size, link, some buffer⟩
      outcome (registerOutput name link data) r = (.ok output,
        { r' with
          outputs := r.outputs.insert name output
          log := r'.log ++ [.outputBound name link size] })) := by
  unfold registerOutput
  rw [Outcome.get_bind, Outcome.liftExcept_bind]
  cases hcheck : r.checkOutput name link data with
  | error fault => exact Or.inl ⟨fault, r, rfl, refl_of Consults r⟩
  | ok checked =>
    obtain ⟨source, size⟩ := checked
    simp only
    have hcreate := consults_onDevice (Device.makes_createBuffer name size outputUsage).grows
    rcases hx : outcome (onDevice (Device.createBuffer name size outputUsage)) r with ⟨x, r₁⟩
    have hgone : Consults r r₁ := hcreate.of_outcome_eq hx
    cases x with
    | error fault =>
      rw [Outcome.bind_of_error hx]
      exact Or.inl ⟨fault, r₁, rfl, hgone⟩
    | ok buffer =>
      rw [Outcome.bind_of_ok hx]
      have hmade := made_of_makes (Device.makes_createBuffer _ _ _) hx
      refine Or.inr ⟨source, size, buffer, r₁, rfl, hgone, hmade, ?_⟩
      rw [← hgone.outputs]
      rfl

theorem consults_of_registerOutput_error {name link : String} {data : Value} {r r' : Rig}
    {fault : Fault} (h : outcome (registerOutput name link data) r = (.error fault, r')) :
    Consults r r' := by
  rcases registerOutput_cases name link data r with ⟨_, r₁, hout, hgone⟩ | ⟨_, _, _, _, -, -, -, hout⟩
  · rw [hout, Prod.mk.injEq] at h
    exact h.2 ▸ hgone
  · rw [hout] at h
    exact nomatch h

/-- Giving back keeps what destroying a buffer keeps, and what striking it out of the tables keeps. -/
theorem keeps_release {R : Rig → Rig → Prop} [IsPreorder Rig R]
    (hdestroy : ∀ buffer, Keeps R (onDevice (Device.destroy buffer)))
    (hmodify : ∀ f : Rig → Rig, (∀ r, (f r).device = r.device) →
      (∀ r, (f r).submitted = r.submitted) → Keeps R (modify f : RigM PUnit)) :
    Keeps R release := by
  refine Keeps.get.bind fun r => (Keeps.forM (fun i => ?_) _).bind fun _ => Keeps.forM (fun o => ?_) _
  · unfold releaseInput
    cases i.buffer with
    | none => exact Keeps.pure _
    | some buffer => exact (hdestroy buffer).bind fun _ => hmodify _ (fun _ => rfl) fun _ => rfl
  · unfold releaseOutput
    cases o.buffer with
    | none => exact Keeps.pure _
    | some buffer => exact (hdestroy buffer).bind fun _ => hmodify _ (fun _ => rfl) fun _ => rfl

end Rig

end KernelShader
