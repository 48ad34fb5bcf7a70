/-
`Runs.lean` -- what a run of any operations leaves of the buffers of a rig.

A run starts without buffers and goes through registrations, releases, builds, dispatches and readings in
any order, with any arguments, on a device that may fail at any call. Every rig on the way is `Reachable`,
so its tables are in order. Two things are added to that here. The tables only grow (`Retains`): an entry
keeps its place and everything about it but its buffer. And a dispatch copies within bounds: among its
calls, up to the one it fails at if it does, every copy goes from an input to an output linked to it, takes
the whole of the one and fits into the other.
-/
import KernelShader.Proofs.Rig.Registry

set_option autoImplicit false

namespace KernelShader

/-- A copy between two buffers, without the encoder it is recorded with. -/
structure BufferCopy where
  source : Option (Ref .buffer)
  target : Option (Ref .buffer)
  size : Nat
  deriving DecidableEq, Repr

/-- The copy that a call asks for. -/
def Call.copied? : Call → Option BufferCopy
  | .copy _ source target size => some ⟨source, target, size⟩
  | _ => none

namespace Rig

variable {α : Type}

/-! ## Runs -/

/-- What can be asked of a rig. -/
inductive Operation where
  | registerInput (name : String) (data group : Value)
  | registerOutput (name link : String) (data : Value)
  | release
  | buildLayout
  | buildGroups (layout : Layout)
  | compile (sourceText entryPoint : String) (layout : Layout) (signature : Signature)
  | execute (artifact : Artifact) (groups : List (Ref .group)) (counts : Value)
  | readBack (waiting : Waiting)

/-- The rig after an operation, whether or not it failed. -/
def next (r : Rig) : Operation → Rig
  | .registerInput name data group => (outcome (registerInput name data group) r).2
  | .registerOutput name link data => (outcome (registerOutput name link data) r).2
  | .release => (outcome release r).2
  | .buildLayout => (outcome buildLayout r).2
  | .buildGroups layout => (outcome (buildGroups layout) r).2
  | .compile sourceText entryPoint layout signature =>
    (outcome (compile sourceText entryPoint layout signature) r).2
  | .execute artifact groups counts => (outcome (execute artifact groups counts) r).2
  | .readBack waiting => (outcome (readBack waiting) r).2

/-- The rig after a run. -/
def after (r : Rig) (operations : List Operation) : Rig := operations.foldl next r

theorem Reachable.next {r : Rig} (h : Reachable r) (operation : Operation) :
    Reachable (r.next operation) := by
  cases operation with
  | registerInput name data group => exact h.registerInput name data group
  | registerOutput name link data => exact h.registerOutput name link data
  | release => exact h.release
  | buildLayout => exact h.continues (continues_buildLayout r)
  | buildGroups layout => exact h.continues (continues_buildGroups layout r)
  | compile sourceText entryPoint layout signature =>
    exact h.continues (continues_compile sourceText entryPoint layout signature r)
  | execute artifact groups counts => exact h.continues (continues_execute artifact groups counts r)
  | readBack waiting => exact h.continues (continues_readBack waiting r)

theorem Reachable.after {r : Rig} (h : Reachable r) (operations : List Operation) :
    Reachable (r.after operations) := by
  induction operations generalizing r with
  | nil => exact h
  | cons operation rest ih => exact ih (h.next operation)

/-! ## Entries that are kept -/

/-- Every entry is where it was, with everything but its buffer. -/
structure Retains (r r' : Rig) : Prop where
  inputs : r.inputs.values.map Input.released <+: r'.inputs.values.map Input.released
  outputs : r.outputs.values.map Output.released <+: r'.outputs.values.map Output.released

instance : IsPreorder Rig Retains where
  refl _ := ⟨List.prefix_rfl, List.prefix_rfl⟩
  trans _ _ _ h h' := ⟨h.inputs.trans h'.inputs, h.outputs.trans h'.outputs⟩

theorem Persists.retains {r r' : Rig} (h : Persists r r') : Retains r r' := by
  have hinputs := NameTable.map_values_of_mapValues_eq h.inputs
  have houtputs := NameTable.map_values_of_mapValues_eq h.outputs
  exact ⟨hinputs ▸ List.prefix_rfl, houtputs ▸ List.prefix_rfl⟩

theorem retains_registerInput (name : String) (data group : Value) (r : Rig) :
    Retains r (outcome (registerInput name data group) r).2 := by
  rcases registerInput_appends name data group r with
    ⟨fault, r', hout, hgone⟩ | ⟨i, r', hout, hinputs, houtputs, -⟩
  · rw [hout]
    exact hgone.persists.retains
  · rw [hout]
    refine ⟨?_, ?_⟩
    · rw [hinputs, List.map_append]
      exact List.prefix_append _ _
    · simp only [houtputs, List.prefix_rfl]

theorem retains_registerOutput (name link : String) (data : Value) (r : Rig) :
    Retains r (outcome (registerOutput name link data) r).2 := by
  rcases registerOutput_appends name link data r with
    ⟨fault, r', hout, hgone⟩ | ⟨o, r', hout, hinputs, houtputs⟩
  · rw [hout]
    exact hgone.persists.retains
  · rw [hout]
    refine ⟨?_, ?_⟩
    · simp only [hinputs, List.prefix_rfl]
    · rw [houtputs, List.map_append]
      exact List.prefix_append _ _

theorem Reachable.retains_next {r : Rig} (h : Reachable r) (operation : Operation) :
    Retains r (r.next operation) := by
  cases operation with
  | registerInput name data group => exact retains_registerInput name data group r
  | registerOutput name link data => exact retains_registerOutput name link data r
  | release => exact h.registered.persists_release.retains
  | buildLayout => exact (continues_buildLayout r).persists.retains
  | buildGroups layout => exact (continues_buildGroups layout r).persists.retains
  | compile sourceText entryPoint layout signature =>
    exact (continues_compile sourceText entryPoint layout signature r).persists.retains
  | execute artifact groups counts =>
    exact (continues_execute artifact groups counts r).persists.retains
  | readBack waiting => exact (continues_readBack waiting r).persists.retains

theorem Reachable.retains_after {r : Rig} (h : Reachable r) (operations : List Operation) :
    Retains r (r.after operations) := by
  induction operations generalizing r with
  | nil => exact refl_of Retains r
  | cons operation rest ih =>
    exact trans_of Retains (h.retains_next operation) (ih (h.next operation))

/-! ## Copies -/

/-- The device goes on, and every copy that it is asked for on the way has the property. -/
structure Copying (P : BufferCopy → Prop) (r r' : Rig) : Prop extends Continues r r' where
  copies : Shows trace Call.copied? P r r'

instance (P : BufferCopy → Prop) : IsPreorder Rig (Copying P) where
  refl r := ⟨refl_of Continues r, refl_of (Shows trace Call.copied? P) r⟩
  trans _ _ _ h h' := ⟨trans_of Continues h.toContinues h'.toContinues,
    trans_of (Shows trace Call.copied? P) h.copies h'.copies⟩

theorem copying_onDevice {P : BufferCopy → Prop} {m : DeviceM α} (hgrows : Keeps Device.Extends m)
    (hshows : Keeps (Shows Device.trace Call.copied? P) m) : Keeps (Copying P) (onDevice m) :=
  fun r => ⟨continues_onDevice hgrows r, shows_onDevice hshows r⟩

/-- A call that is no copy. -/
theorem copying_of_speaks {P : BufferCopy → Prop} {call : Call} {m : DeviceM α}
    (hm : Device.Speaks call m) (hcall : call.copied? = none) : Keeps (Copying P) (onDevice m) :=
  copying_onDevice hm.grows (hm.shows_of_none hcall)

theorem copying_encodePass {P : BufferCopy → Prop} (label : String) (encoder : Ref .encoder)
    (pipeline : Ref .pipeline) (groups : List (Ref .group)) (counts : List Nat) :
    Keeps (Copying P) (onDevice (encodePass label encoder pipeline groups counts)) := by
  refine copying_onDevice (conversation_encodePass _ _ _ _ _).grows (shows_encodePass ?_ _ _ _ _ _)
  intro call hpass
  cases call <;> simp_all [Call.inPass, Call.copied?]

/-- The copy goes from an input to an output that is linked to it. It takes as many bytes as the one was
made with, and the other was made with no fewer. -/
def Carries (r : Rig) (copy : BufferCopy) : Prop :=
  ∃ o ∈ r.outputs.values, ∃ i ∈ r.inputs.values, i.name = o.link ∧
    copy = ⟨i.buffer, o.buffer, i.size⟩ ∧ i.size ≤ o.size ∧
    (∀ buffer, i.buffer = some buffer → r.Made buffer (.createBuffer i.name i.size inputUsage)) ∧
    (∀ buffer, o.buffer = some buffer → r.Made buffer (.createBuffer o.name o.size outputUsage))

theorem Registered.exists_linked {r : Rig} (h : Registered r) {o : Output}
    (ho : o ∈ r.outputs.values) : ∃ i ∈ r.inputs.values, r.inputs.get? o.link = some i ∧
      i.name = o.link ∧ o.element = i.element ∧ i.size ≤ o.size := by
  obtain ⟨i, hget, helement, hsize⟩ := h.fed o ho
  have hname : i.name = o.link := h.inputs.key_of_mem_entries (NameTable.mem_entries_of_get? hget)
  exact ⟨i, NameTable.mem_values_of_get? hget, hget, hname, helement, hsize⟩

/-- Whatever has been done with the device since, the copy for an output is within bounds. -/
theorem Registered.copying_encodeCopy {r : Rig} (h : Registered r) (encoder : Ref .encoder)
    {o : Output} (ho : o ∈ r.outputs.values) {r₁ : Rig} (hinputs : r₁.inputs = r.inputs) :
    Copying r.Carries r₁ (outcome (encodeCopy encoder o) r₁).2 := by
  obtain ⟨i, hi, hget, hname, -, hsize⟩ := h.exists_linked ho
  have hinput : r₁.input o.link = .ok i := by rw [input, hinputs, hget]
  have hcarries : r.Carries ⟨i.buffer, o.buffer, i.size⟩ :=
    ⟨o, ho, i, hi, hname, rfl, hsize, h.owned i hi, h.staged o ho⟩
  have hcopy := Device.speaks_copy encoder i.buffer o.buffer i.size
  unfold encodeCopy
  rw [Outcome.get_bind, Outcome.liftExcept_bind, hinput]
  refine copying_onDevice hcopy.grows (hcopy.shows ?_) r₁
  rintro _ ⟨⟩
  exact hcarries

/-- **Copies are within bounds.** -/
theorem Registered.copying_execute {r : Rig} (h : Registered r) (artifact : Artifact)
    (groups : List (Ref .group)) (counts : Value) :
    Copying r.Carries r (outcome (execute artifact groups counts) r).2 := by
  unfold execute
  rw [Outcome.liftExcept_bind]
  cases Workgroup.counts counts with
  | error fault => exact refl_of (Copying r.Carries) r
  | ok ns =>
    simp only
    rw [Outcome.get_bind]
    refine Keeps.bind_at (copying_of_speaks (Device.makes_createEncoder _).toSpeaks rfl r) ?_
    intro encoder r₁ hgone₁
    refine Keeps.bind_at (copying_encodePass _ _ _ _ _ r₁) fun _ r₂ hgone₂ => ?_
    -- the outputs are those of `r`, and so are the inputs that they are linked to
    have hinputs : r₂.inputs = r.inputs := by rw [hgone₂.inputs, hgone₁.inputs]
    have hstep : ∀ o s, o ∈ r.outputs.values ∧ s.inputs = r.inputs →
        Copying r.Carries s (outcome (encodeCopy encoder o) s).2 :=
      fun o s ho => h.copying_encodeCopy encoder ho.1 ho.2
    refine Keeps.bind_at ?_ fun _ r₃ _ => ?_
    · refine Keeps.forM_of_condition hstep ?_ _ r₂ fun o ho => ⟨ho, hinputs⟩
      rintro o s s' hcopying ⟨ho, hs⟩
      exact ⟨ho, hcopying.inputs.trans hs⟩
    · refine Keeps.bind ?_ ?_ r₃
      · exact copying_of_speaks (Device.makes_finish _).toSpeaks rfl
      intro commands
      refine (copying_of_speaks (Device.speaks_submit _) rfl).bind fun _ => ?_
      -- what is left only writes down that it was done
      exact fun r₄ => ⟨⟨rfl, rfl, rfl, rfl, id, fun {d} hd => ⟨d, hd, refl_of Device.Extends d⟩⟩,
        Shows.of_eq rfl⟩

/-! ## The registry over a run -/

theorem registerInput_eq_ok {name : String} {data group : Value} {r r' : Rig} {i : Input}
    (h : outcome (registerInput name data group) r = (.ok i, r')) :
    r'.inputs.values = r.inputs.values ++ [i] ∧ i.name = name ∧ group = .int i.group := by
  rcases registerInput_appends name data group r with
    ⟨fault, _, hout, -⟩ | ⟨j, r₁, hout, hinputs, -, hadded⟩
  · rw [hout] at h
    exact nomatch h
  · rw [hout, Prod.mk.injEq, Except.ok.injEq] at h
    obtain ⟨rfl, rfl⟩ := h
    exact ⟨hinputs, hadded⟩

/-- **The registry is sound throughout.** After any run the inputs are numbered from zero in order of
registration and the next number is how many there are; no name is used twice; inputs have sizes of whole
words, and every output has the element type of the input it is linked to and room for it. Whatever is
done later leaves every entry in its place, as it was but for its buffer. An input that is registered now
gets the group that is given for it, and comes last. And whatever a dispatch copies now, be it complete or
not, goes from an input to an output with room for it. -/
theorem registry_sound_throughout (device : Option Device) (label : String)
    (operations later : List Operation) :
    let r := after { device, label } operations
    r.inputs.values.map Input.binding = List.range r.inputs.values.length ∧
    r.nextBinding = r.inputs.values.length ∧
    (r.inputs.values.map Input.name ++ r.outputs.values.map Output.name).Nodup ∧
    (∀ i ∈ r.inputs.values, 0 < i.size ∧ 4 ∣ i.size) ∧
    (∀ o ∈ r.outputs.values, ∃ i ∈ r.inputs.values,
      i.name = o.link ∧ o.element = i.element ∧ i.size ≤ o.size) ∧
    Retains r (r.after later) ∧
    (∀ name data group i r', outcome (registerInput name data group) r = (.ok i, r') →
      r'.inputs.values = r.inputs.values ++ [i] ∧ i.name = name ∧ group = .int i.group) ∧
    ∀ artifact groups counts, ∃ calls,
      (outcome (execute artifact groups counts) r).2.trace = r.trace ++ calls ∧
      ∀ copy ∈ calls.filterMap Call.copied?, r.Carries copy := by
  intro r
  have hreachable : Reachable r := (Reachable.fresh device label []).after operations
  have h := hreachable.registered
  -- the numbers are those below the next one, so there are as many
  have hcount : r.nextBinding = r.inputs.values.length := by
    have hlength := congrArg List.length h.bindings
    simpa using hlength.symm
  refine ⟨hcount ▸ h.bindings, hcount, ?_, h.sizes, ?_, hreachable.retains_after later,
    fun _ _ _ _ _ hinput => registerInput_eq_ok hinput, ?_⟩
  · rw [h.inputs.keys, h.outputs.keys]
    exact h.inputs.nodup.append h.outputs.nodup h.apart
  · intro o ho
    obtain ⟨i, hi, -, hfits⟩ := h.exists_linked ho
    exact ⟨i, hi, hfits⟩
  · intro artifact groups counts
    exact (h.copying_execute artifact groups counts).copies

/-- A device that loses the data of the first buffer it has made, and is reliable from then on. -/
def losingOnce : Device where
  failures := fun before call => match call with
    | .writeBuffer .. => if before.length = 1 then some (.runtime, "") else none
    | _ => none

/-- An input is registered in vain and once more, a second one follows, a name is used again, and of two
outputs one is linked to nothing. -/
def stumblingRun : List Operation :=
  let data := Value.words [7, 8]
  [.registerInput "a" data (.int 1), .registerInput "a" data (.int 1), .registerInput "b" data (.int 0),
    .registerInput "b" data (.int 3), .registerOutput "c" "b" data, .registerOutput "d" "e" data]

/-- A shader that was compiled for no inputs. -/
def bareArtifact : Artifact := ⟨⟨0⟩, ⟨[], []⟩, ⟨0⟩, ⟨0⟩, "main", ""⟩

theorem stumblingRun_sound :
    let r := after { device := some losingOnce, label := "kernel" } stumblingRun
    r.inputs.values.map Input.binding = [0, 1] ∧ r.outputs.values.map Output.link = ["b"] ∧
      Retains r (r.after [.release]) ∧ (r.after [.release]).inputs ≠ r.inputs ∧
      ∃ calls copy,
        (outcome (execute bareArtifact [] (.int 1)) r).2.trace = r.trace ++ calls ∧
        calls.filterMap Call.copied? = [copy] ∧ r.Carries copy := by
  intro r
  obtain ⟨hbindings, -, -, -, -, hretains, -, hcopies⟩ :=
    registry_sound_throughout (some losingOnce) "kernel" stumblingRun [.release]
  have hcount : r.inputs.values.length = 2 := by decide +kernel
  refine ⟨hbindings.trans (congrArg List.range hcount), by decide +kernel, hretains, by decide +kernel, ?_⟩
  obtain ⟨calls, hcalls, hcarries⟩ := hcopies bareArtifact [] (.int 1)
  have hlast : calls
      = (outcome (execute bareArtifact [] (.int 1)) r).2.trace.drop r.trace.length := by
    rw [hcalls, List.drop_left]
  have hone : calls.filterMap Call.copied? = [⟨some ⟨2⟩, some ⟨3⟩, 8⟩] := by
    rw [hlast]
    decide +kernel
  exact ⟨calls, _, hcalls, hone, hcarries _ (hone ▸ List.mem_singleton_self _)⟩

end Rig

end KernelShader
