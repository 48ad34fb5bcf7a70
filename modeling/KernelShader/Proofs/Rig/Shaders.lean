/-
`Shaders.lean` -- which shaders a device is asked for.

There is one call that hands a text to the device as a shader, and compiling makes it. Everything else that
is done with a rig makes other calls, so whatever is to be true of the texts that reach the device has to
be shown of the text that is compiled, and of no other step. A device that fails at the call has been asked
all the same, and so these statements are about failing work as well.
-/
import KernelShader.Proofs.Rig.Building

set_option autoImplicit false

namespace KernelShader

/-- The text of the shader that a call asks for. -/
def Call.code? : Call → Option String
  | .createShader _ code => some code
  | _ => none

namespace Rig

variable {P : String → Prop}

/-- Every shader that the device is asked for on the way has a text with the property. -/
abbrev Offers (P : String → Prop) : Rig → Rig → Prop := Shows trace Call.code? P

theorem offers_otherCalls : KeptByOtherCalls (Offers P) where
  speaks := by
    intro α call m hm hcall
    refine shows_onDevice (hm.shows_of_none ?_)
    cases call <;> simp_all [Call.compiles, Call.code?]
  device := by
    intro r r' hdevice
    refine Shows.of_eq ?_
    rw [trace, hdevice, trace]

/-- The first of the three calls is the one that counts. -/
theorem shows_buildPipeline {sourceText : String} (h : P sourceText) (label entryPoint : String)
    (layouts : List (Ref .layout)) :
    Keeps (Shows Device.trace Call.code? P)
      (buildPipeline label sourceText entryPoint layouts) := by
  refine Keeps.bind ?_ fun shader => Keeps.bind ?_ fun layout => Keeps.bind ?_ fun _ => Keeps.pure _
  · refine (Device.makes_createShader _ _).shows ?_
    rintro _ ⟨⟩
    exact h
  · exact (Device.makes_createPipelineLayout _ _).shows_of_none rfl
  · exact (Device.makes_createPipeline _ _ _ _).shows_of_none rfl

/-- **The text that is compiled** is the only one that the device is asked for. -/
theorem offers_compile {sourceText : String} (h : P sourceText) (entryPoint : String)
    (layout : Layout) (signature : Signature) :
    Keeps (Offers P) (compile sourceText entryPoint layout signature) :=
  keeps_compile (fun _ _ => shows_onDevice (shows_buildPipeline h _ _ _)) offers_otherCalls.report
    layout signature

end Rig

end KernelShader
