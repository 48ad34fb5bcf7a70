/-
`Shaders.lean` -- which shaders a session asks its device for.

A session hands the device one text only, the one that it would show at that moment, and only if it has an
entry point. Building is the step that does so; since no work with the shader changes what the session
shows, a whole run asks for nothing but what was shown when it began (`Presents`).

What a session shows comes from two sides that do not meet before then. Reading functions looks at the
functions read so far and never at the rig (`matches_add`), and it leaves the rig alone but for the log;
registering buffers leaves the functions alone. So functions may be read without a device, and the text
that they give is the one that they give with it.
-/
import KernelShader.Proofs.Rig.Shaders
import KernelShader.Proofs.Session.Current

set_option autoImplicit false

namespace KernelShader

/-- A shader with any function is its declarations, and after them the shader without any. -/
theorem ShaderSource.text_eq_of_ne_nil {source : ShaderSource}
    (hparts : source.functions ++ source.entryPoint.toList ≠ []) :
    source.text = "\n".intercalate (source.header ++ [text { source with header := [] }]) := by
  unfold text
  rw [List.append_assoc, List.nil_append]
  -- there is a line end between two nonempty lists only
  by_cases hheader : source.header = []
  · rw [hheader, List.nil_append, List.nil_append, String.intercalate_singleton]
  · rw [String.intercalate_append_of_ne_nil hheader hparts,
      String.intercalate_append_of_ne_nil hheader (List.cons_ne_nil _ _),
      String.intercalate_singleton]
    simp only [String.append_assoc]

namespace Session

/-! ## What the device is asked for -/

/-- The session has an entry point, and its shader reads so. -/
def Displays (s : Session) (code : String) : Prop :=
  s.store.entry?.isSome = true ∧ s.shaderText = .ok code

theorem SameShader.displays {s s' : Session} (h : SameShader s s') : s'.Displays = s.Displays := by
  funext code
  rw [Displays, Displays, h.text, h.isSome_entry]

/-- The shader is the same, and no other text has been handed to the device. -/
structure Presents (s s' : Session) : Prop extends SameShader s s' where
  offers : Rig.Offers s.Displays s.rig s'.rig

instance : IsPreorder Session Presents where
  refl s := ⟨refl_of SameShader s, refl_of (Rig.Offers s.Displays) s.rig⟩
  trans s s₁ s₂ h h' := by
    -- the second stretch offers what is shown when it begins, which is what was shown at first
    have hoffers := h'.offers
    rw [h.displays] at hoffers
    exact ⟨trans_of SameShader h.toSameShader h'.toSameShader,
      trans_of (Rig.Offers s.Displays) h.offers hoffers⟩

theorem presents_of_along {s s' : Session} (hquiet : Quiet s s')
    (hoffers : Along (Rig.Offers s.Displays) s s') : Presents s s' :=
  ⟨sameShader_of_continues hquiet.store hquiet.bodies hquiet.rig, hoffers.rig⟩

/-- **What is built is what is shown.** -/
theorem presents_build : Keeps Presents build := by
  intro s
  refine presents_of_along (quiet_build s) (along_build_of Rig.offers_otherCalls.buildGroups ?_)
  intro entry text hentry htext
  have hdisplays : s.Displays text := ⟨by rw [hentry]; rfl, htext⟩
  exact along_compile_of Rig.offers_otherCalls.report Rig.offers_otherCalls.buildLayout fun layout =>
    Rig.offers_compile hdisplays entry.name layout _

theorem presents_dispatchBuilt (counts : Value) : Keeps Presents (dispatchBuilt counts) := fun s =>
  presents_of_along (quiet_dispatchBuilt counts s)
    (along_dispatchBuilt Rig.offers_otherCalls.execute counts s)

theorem presents_readBack (waiting : Waiting) : Keeps Presents (readBack waiting) := fun s =>
  presents_of_along (quiet_readBack waiting s)
    (along_onRig (Rig.offers_otherCalls.readBack waiting) s)

theorem presents_run (counts : Value) : Keeps Presents (run counts) :=
  keeps_run presents_build (presents_dispatchBuilt counts) (presents_readBack .sync)

/-! ## Reading functions without a rig -/

theorem matches_add (source : String) (declared arguments : Value) (kind : FunctionKind)
    (workgroup : List Int) :
    Matches SameTexts (add source declared arguments kind workgroup)
      (add source declared arguments kind workgroup) := by
  intro s t h
  rw [outcome_add, outcome_add, h.config, h.store]
  cases read s.config.dialect source declared arguments kind workgroup with
  | error fault => exact ⟨rfl, h⟩
  | ok pair =>
    simp only
    cases s.store.record pair.1 with
    | error fault => exact ⟨rfl, h⟩
    | ok store =>
      refine ⟨rfl, h.config, rfl, ?_, h.edited⟩
      exact congrArg (NameTable.insert · pair.1.name pair.2) h.bodies

theorem matches_addFunction (source : String) (returns declared arguments : Value) :
    Matches SameTexts (addFunction source returns declared arguments)
      (addFunction source returns declared arguments) :=
  Matches.liftExcept_bind fun _ => matches_add _ _ _ _ _

theorem matches_addEntryPoint (source : String) (size declared : Value) :
    Matches SameTexts (addEntryPoint source size declared) (addEntryPoint source size declared) := by
  intro s t h
  unfold addEntryPoint
  rw [Outcome.get_bind, Outcome.get_bind, h.store]
  cases s.store.entry? with
  | some entry => exact ⟨rfl, h⟩
  | none => exact Matches.liftExcept_bind (fun _ => matches_add _ _ _ _ _) s t h

/-- Without any function this would be wrong: a line end that follows no function is printed twice. -/
theorem Displays.exists_bare {s t : Session} {code : String} (h : s.Displays code)
    (hsame : SameTexts s t) (hbare : t.rig.header = .ok []) :
    ∃ lines text, s.rig.header = .ok lines ∧ t.shaderText = .ok text ∧
      code = "\n".intercalate (lines ++ [text]) := by
  obtain ⟨hentry, htext⟩ := h
  obtain ⟨source, hshown, rfl⟩ := Check.map_eq_ok_iff.mp htext
  obtain ⟨lines, hlines, hsource⟩ := Check.bind_eq_ok_iff.mp hshown
  have hheader : source.header = lines := (Store.assemble_eq_ok hsource).1
  have hparts : source.functions ++ source.entryPoint.toList ≠ [] := by
    obtain ⟨point, hpoint⟩ :=
      Option.isSome_iff_exists.mp ((Store.isSome_entryPoint hsource).trans hentry)
    rw [hpoint]
    exact List.append_ne_nil_of_right_ne_nil _ (List.cons_ne_nil _ _)
  refine ⟨lines, ShaderSource.text { source with header := [] }, hlines, ?_, ?_⟩
  · have hassemble := Store.assemble_of_header hsource []
    rw [← hsame.store, ← hsame.bodies] at hassemble
    exact Check.map_eq_ok_iff.mpr ⟨_, Check.bind_eq_ok_iff.mpr ⟨[], hbare, hassemble⟩, rfl⟩
  · rw [← hheader]
    exact ShaderSource.text_eq_of_ne_nil hparts

/-- Nothing has happened to the rig but that events were put on its log. -/
def OnlyLogs (s s' : Session) : Prop := s'.rig = { s.rig with log := s'.rig.log }

instance : IsPreorder Session OnlyLogs where
  refl _ := rfl
  trans s s₁ s₂ h h' := by
    unfold OnlyLogs at h h' ⊢
    rw [h', h]

theorem OnlyLogs.header {s s' : Session} (h : OnlyLogs s s') : s'.rig.header = s.rig.header := by
  rw [h]
  rfl

theorem OnlyLogs.trace {s s' : Session} (h : OnlyLogs s s') : s'.trace = s.trace := by
  rw [Session.trace, h]
  rfl

theorem Reads.onlyLogs {s s' : Session} {body : String} (h : Reads s s' body) : OnlyLogs s s' := by
  obtain ⟨_, _, _, _, _, t, store, -, -, rfl⟩ := h
  rfl

theorem onlyLogs_addFunction (source : String) (returns declared arguments : Value) :
    Keeps OnlyLogs (addFunction source returns declared arguments) := by
  intro s
  rcases addFunction_cases source returns declared arguments s with
    ⟨fault, hout⟩ | ⟨body, s', hout, hreads⟩
  · rw [hout]
    exact refl_of OnlyLogs s
  · rw [hout]
    exact hreads.onlyLogs

theorem onlyLogs_addEntryPoint (source : String) (size declared : Value) :
    Keeps OnlyLogs (addEntryPoint source size declared) := by
  intro s
  rcases addEntryPoint_cases source size declared s with
    ⟨fault, hout⟩ | ⟨body, s', hout, hreads⟩
  · rw [hout]
    exact refl_of OnlyLogs s
  · rw [hout]
    exact hreads.onlyLogs

end Session

end KernelShader
