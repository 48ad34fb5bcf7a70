/-
`Staleness.lean` -- how long a layout may be used.

A layout remembers the places of the inputs it was built for and is compared with the places there are when
it is used. Of all operations only one adds a place, the registration of an input, and none takes one away
or changes one (`Reachable.signature_next`). So after any run the places are those from before it with some
added behind them, and none are added exactly if no registration of an input has gone through.
-/
import KernelShader.Proofs.Rig.Runs

set_option autoImplicit false

namespace KernelShader

namespace Rig

variable {α : Type}

/-! ## Places over a run -/

/-- The operation registers an input. A registration that fails does not count. -/
def addsInput (r : Rig) : Operation → Bool
  | .registerInput name data group => (outcome (registerInput name data group) r).1.isOk
  | _ => false

/-- Some operation of the run registers an input. -/
def addsInputs (r : Rig) : List Operation → Bool
  | [] => false
  | operation :: rest => r.addsInput operation || (r.next operation).addsInputs rest

theorem Persists.signature_eq {r r' : Rig} (h : Persists r r') : r'.signature = r.signature := by
  -- a place does not mention the buffer, so it does not matter whether that has been given back
  have hplaces : ∀ r : Rig, r.signature
      = (r.inputs.values.map Input.released).map fun i => ⟨i.name, i.group, i.binding⟩ :=
    fun r => by rw [signature, List.map_map]; rfl
  rw [hplaces, hplaces, NameTable.map_values_of_mapValues_eq h.inputs]

theorem signature_registerInput (name : String) (data group : Value) (r : Rig) :
    ∃ places, (r.next (.registerInput name data group)).signature = r.signature ++ places ∧
      (places ≠ [] ↔ r.addsInput (.registerInput name data group) = true) := by
  simp only [next, addsInput]
  rcases registerInput_appends name data group r with
    ⟨fault, r', hout, hgone⟩ | ⟨i, r', hout, hinputs, -, -⟩
  · rw [hout]
    refine ⟨[], ?_, by simp [Except.isOk, Except.toBool]⟩
    rw [List.append_nil]
    exact hgone.persists.signature_eq
  · rw [hout]
    refine ⟨[⟨i.name, i.group, i.binding⟩], ?_, by simp [Except.isOk, Except.toBool]⟩
    rw [signature, hinputs, List.map_append]
    rfl

theorem signature_registerOutput (name link : String) (data : Value) (r : Rig) :
    (r.next (.registerOutput name link data)).signature = r.signature := by
  simp only [next]
  rcases registerOutput_appends name link data r with
    ⟨fault, r', hout, hgone⟩ | ⟨o, r', hout, hinputs, -⟩
  · rw [hout]
    exact hgone.persists.signature_eq
  · rw [hout, signature, hinputs]
    rfl

/-- Only the registration of an input adds a place. -/
theorem Reachable.signature_next {r : Rig} (h : Reachable r) (operation : Operation) :
    ∃ places, (r.next operation).signature = r.signature ++ places ∧
      (places ≠ [] ↔ r.addsInput operation = true) := by
  -- whatever leaves the places as they are adds none
  have hsame : ∀ {r' : Rig}, r'.signature = r.signature →
      ∃ places, r'.signature = r.signature ++ places ∧ (places ≠ [] ↔ false = true) :=
    fun heq => ⟨[], by rw [heq, List.append_nil], by simp⟩
  cases operation with
  | registerInput name data group => exact signature_registerInput name data group r
  | registerOutput name link data => exact hsame (signature_registerOutput name link data r)
  | release => exact hsame h.registered.persists_release.signature_eq
  | buildLayout => exact hsame (continues_buildLayout r).signature_eq
  | buildGroups layout => exact hsame (continues_buildGroups layout r).signature_eq
  | compile sourceText entryPoint layout signature =>
    exact hsame (continues_compile sourceText entryPoint layout signature r).signature_eq
  | execute artifact groups counts =>
    exact hsame (continues_execute artifact groups counts r).signature_eq
  | readBack waiting => exact hsame (continues_readBack waiting r).signature_eq

theorem Reachable.signature_after {r : Rig} (h : Reachable r) (operations : List Operation) :
    ∃ places, (r.after operations).signature = r.signature ++ places ∧
      (places ≠ [] ↔ r.addsInputs operations = true) := by
  induction operations generalizing r with
  | nil => exact ⟨[], (List.append_nil _).symm, by simp [addsInputs]⟩
  | cons operation rest ih =>
    obtain ⟨places, hnext, hplaces⟩ := h.signature_next operation
    obtain ⟨later, hafter, hlater⟩ := ih (h.next operation)
    refine ⟨places ++ later, ?_, ?_⟩
    · rw [← List.append_assoc, ← hnext]
      exact hafter
    · rw [addsInputs, Bool.or_eq_true, ← hplaces, ← hlater, ← not_and_or, Ne, List.append_eq_nil_iff]

/-- Places are never taken back, so a run that has added one does not come back to the old ones. -/
theorem Reachable.signature_after_ne_iff {r : Rig} (h : Reachable r) (operations : List Operation) :
    r.signature ≠ (r.after operations).signature ↔ r.addsInputs operations = true := by
  obtain ⟨places, hafter, hplaces⟩ := h.signature_after operations
  rw [hafter, ← hplaces, Ne, List.self_eq_append_right]

/-! ## Layouts that are refused -/

/-- The computation fails because the layout does not fit. Nothing has been done then, and nothing has been
asked of the device. -/
def Refuses (m : RigM α) (r : Rig) : Prop :=
  ∃ fault, outcome m r = (.error fault, r) ∧ fault.kind = .layoutMismatch

/-- A fault about the layout is a refusal: it does not come after something has been done. -/
def RefusesAtOnce (m : RigM α) (r : Rig) : Prop :=
  ∀ fault r', outcome m r = (.error fault, r') → fault.kind = .layoutMismatch → r' = r

/-- A computation that starts with a test of the layout. -/
theorem refuses_iff_of_test {m : RigM α} {r : Rig} {p : Prop} (refusal : Fault)
    (hkind : refusal.kind = .layoutMismatch) (hrefused : ¬p → outcome m r = (.error refusal, r))
    (hpassed : p → ∀ {fault r'}, outcome m r = (.error fault, r') → fault.kind ≠ .layoutMismatch) :
    (Refuses m r ↔ ¬p) ∧ RefusesAtOnce m r := by
  refine ⟨⟨?_, fun hp => ⟨refusal, hrefused hp, hkind⟩⟩, ?_⟩
  · rintro ⟨fault, hout, hmismatch⟩ hp
    exact hpassed hp hout hmismatch
  · intro fault r' hout hmismatch
    have hp : ¬p := fun hp => hpassed hp hout hmismatch
    rw [hrefused hp] at hout
    exact (Prod.mk.inj hout).2.symm

theorem buildGroups_refuses_iff (layout : Layout) (r : Rig) :
    (Refuses (buildGroups layout) r ↔ layout.signature ≠ r.signature) ∧
      RefusesAtOnce (buildGroups layout) r := by
  refine refuses_iff_of_test .staleLayout rfl ?_ fun hfits => kind_of_buildGroups hfits
  intro hstale
  rw [outcome_buildGroups, if_neg hstale]

theorem compile_refuses_iff (sourceText entryPoint : String) (layout : Layout)
    (signature : Signature) (r : Rig) :
    (Refuses (compile sourceText entryPoint layout signature) r ↔ layout.signature ≠ signature) ∧
      RefusesAtOnce (compile sourceText entryPoint layout signature) r := by
  refine refuses_iff_of_test
    (.layoutCovers (layout.signature.map (·.name)) (signature.map (·.name))) rfl ?_
    fun hfits => kind_of_compile hfits
  intro hstale
  unfold compile
  rw [if_pos hstale]
  rfl

/-- **A layout goes stale exactly by a new input.** Take a layout that was built at some point of a run, and
whatever was done after that. Neither the bind groups nor a shader can be made with it, for the inputs there
are then, exactly if an input has been registered since: registrations that failed do not count, nor do
outputs, nor does giving back the buffers. And the layout is refused before the device is asked for
anything. -/
theorem layout_stale_iff_input_added (device : Option Device) (label : String)
    (before later : List Operation) {layout : Layout} {laid : Rig}
    (hlayout : outcome buildLayout (after { device, label } before) = (.ok layout, laid)) :
    let r := laid.after later
    (Refuses (buildGroups layout) r ↔ laid.addsInputs later = true) ∧
    RefusesAtOnce (buildGroups layout) r ∧
    ∀ sourceText entryPoint,
      (Refuses (compile sourceText entryPoint layout r.signature) r ↔ laid.addsInputs later = true) ∧
      RefusesAtOnce (compile sourceText entryPoint layout r.signature) r := by
  intro r
  -- building the layout adds no place either, so it does not matter that it comes before the run
  have hcontinues := continues_buildLayout.of_outcome_eq hlayout
  have hreachable : Reachable laid :=
    ((Reachable.fresh device label []).after before).continues hcontinues
  have hstale : layout.signature ≠ r.signature ↔ laid.addsInputs later = true := by
    rw [(buildLayout_eq_ok hlayout).1, ← hcontinues.signature_eq]
    exact hreachable.signature_after_ne_iff later
  obtain ⟨hgroups, hgroupsAtOnce⟩ := buildGroups_refuses_iff layout r
  refine ⟨hgroups.trans hstale, hgroupsAtOnce, fun sourceText entryPoint => ?_⟩
  obtain ⟨hcompile, hcompileAtOnce⟩ := compile_refuses_iff sourceText entryPoint layout r.signature r
  exact ⟨hcompile.trans hstale, hcompileAtOnce⟩

/-- Much is done, but no input is registered: the name is in use. -/
def idleRun : List Operation :=
  [.registerInput "a" (.words [7, 8]) (.int 0), .registerOutput "b" "a" (.words [7, 8]), .release]

theorem idleRun_leaves_layout : ∃ layout laid,
    outcome buildLayout
      (after { device := some {}, label := "kernel" } [.registerInput "a" (.words [7, 8]) (.int 0)])
        = (.ok layout, laid) ∧
    laid.addsInputs idleRun = false ∧ ¬Refuses (buildGroups layout) (laid.after idleRun) ∧
    laid.addsInputs (.registerInput "c" (.words [7, 8]) (.int 2) :: idleRun) = true ∧
    Refuses (buildGroups layout)
      (laid.after (.registerInput "c" (.words [7, 8]) (.int 2) :: idleRun)) := by
  -- the start and what is built from it stand for themselves, so that only the three tests compute
  generalize hstart : after { device := some {}, label := "kernel" }
    [.registerInput "a" (.words [7, 8]) (.int 0)] = start
  have hbuilt : (outcome buildLayout start).1.isOk = true := by
    rw [← hstart]
    decide +kernel
  have hidle : (outcome buildLayout start).2.addsInputs idleRun = false := by
    rw [← hstart]
    decide +kernel
  have hlate : (outcome buildLayout start).2.addsInputs
      (.registerInput "c" (.words [7, 8]) (.int 2) :: idleRun) = true := by
    rw [← hstart]
    decide +kernel
  generalize hout : outcome buildLayout start = result at hbuilt hidle hlate
  obtain ⟨_ | layout, laid⟩ := result
  · exact absurd hbuilt Bool.false_ne_true
  have hstale := fun later =>
    (layout_stale_iff_input_added (some {}) "kernel" [.registerInput "a" (.words [7, 8]) (.int 0)] later
      (hstart ▸ hout)).1
  refine ⟨layout, laid, rfl, hidle, ?_, hlate, (hstale _).mpr hlate⟩
  rw [hstale, hidle]
  exact Bool.false_ne_true

end Rig

end KernelShader
