/-
`Ledger.lean` -- where the buffers are that a rig has made.

What a rig holds are the buffers in its tables. Building, dispatching and reading back reach no others, and
neither make nor destroy any (`Handles`); for a dispatch this is so if its bind groups were made of the
inputs as they are. A registration makes a buffer and enters it, or fails; the one failure that leaves
something behind is a device that makes the buffer of an input and then refuses its data. Giving back goes
through the tables, so a buffer that has been given back is no longer there to be given back again.

Put together: the ledger of the device is kept whatever is done with the rig, and after a release that goes
through nothing is held any more.
-/
import KernelShader.Proofs.Device.Lifetime
import KernelShader.Proofs.Rig.Dispatch
import KernelShader.Proofs.Rig.Registry

set_option autoImplicit false

namespace KernelShader.Rig

variable {α β : Type}

/-- The buffers that the rig holds. -/
def buffers (r : Rig) : List (Ref .buffer) :=
  r.inputs.values.filterMap Input.buffer ++ r.outputs.values.filterMap Output.buffer

theorem mem_buffers_of_input {r : Rig} {i : Input} (hi : i ∈ r.inputs.values) {buffer : Ref .buffer}
    (hbuffer : i.buffer = some buffer) : buffer ∈ r.buffers :=
  List.mem_append_left _ (List.mem_filterMap.mpr ⟨i, hi, hbuffer⟩)

theorem mem_buffers_of_output {r : Rig} {o : Output} (ho : o ∈ r.outputs.values)
    {buffer : Ref .buffer} (hbuffer : o.buffer = some buffer) : buffer ∈ r.buffers :=
  List.mem_append_right _ (List.mem_filterMap.mpr ⟨o, ho, hbuffer⟩)

theorem Continues.buffers_eq {r r' : Rig} (h : Continues r r') : r'.buffers = r.buffers := by
  rw [buffers, h.inputs, h.outputs, buffers]

/-! ## Work with the buffers as they are -/

/-- No buffer has been made, filled or destroyed since, and only those of the rig have been reached. -/
structure Handles (r r' : Rig) : Prop extends Continues r r' where
  minds : ∀ {d d'}, r.device = some d → r'.device = some d' → Device.Minds r.buffers d d'

instance : IsPreorder Rig Handles where
  refl r := by
    refine ⟨refl_of Continues r, ?_⟩
    intro d d' hd hd'
    rw [hd, Option.some.injEq] at hd'
    exact hd' ▸ refl_of (Device.Minds r.buffers) d
  trans r r₁ r₂ h h' := by
    refine ⟨trans_of Continues h.toContinues h'.toContinues, ?_⟩
    intro d d₂ hd hd₂
    obtain ⟨d₁, hd₁, -⟩ := h.device hd
    have hminds := h'.minds hd₁ hd₂
    rw [h.buffers_eq] at hminds
    exact trans_of (Device.Minds r.buffers) (h.minds hd hd₁) hminds

theorem handles_onDevice {m : DeviceM α} {r : Rig}
    (hm : ∀ {d}, r.device = some d → Device.Minds r.buffers d (outcome m d).2) :
    Handles r (outcome (onDevice m) r).2 := by
  cases hd : r.device with
  | none =>
    rw [outcome_onDevice_of_none hd]
    exact refl_of Handles r
  | some d =>
    rw [outcome_onDevice_of_some hd]
    refine ⟨⟨rfl, rfl, rfl, rfl, ?_, ?_⟩, ?_⟩
    · intro hnone
      simp [hd] at hnone
    · intro d₀ hd₀
      rw [hd, Option.some.injEq] at hd₀
      exact ⟨_, rfl, hd₀ ▸ (hm hd).toExtends⟩
    · intro d₀ d' hd₀ hd'
      rw [hd, Option.some.injEq] at hd₀
      rw [← hd₀, ← Option.some.inj hd']
      exact hm hd

/-- One call that names buffers of the rig. -/
theorem handles_of_speaks {call : Call} {m : DeviceM α} (hspeaks : Device.Speaks call m)
    (hstill : Keeps Device.Still m) (hspares : call.sparesBuffers = true) {named : List (Ref .buffer)}
    (hnamed : ∀ d : Device, d.reached call = named) {r : Rig}
    (hheld : ∀ buffer ∈ named, buffer ∈ r.buffers) : Handles r (outcome (onDevice m) r).2 :=
  handles_onDevice fun {d} _ => hspeaks.minds hspares (hstill d).progress fun buffer hreaches =>
    hheld buffer (hreaches.mem_of_named hnamed)

/-- Work that does not reach the device. -/
theorem handles_modify {f : Rig → Rig} (hcontinues : Keeps Continues (modify f : RigM PUnit))
    (hdevice : ∀ r, (f r).device = r.device) : Keeps Handles (modify f : RigM PUnit) := by
  intro r
  refine ⟨hcontinues r, ?_⟩
  intro d d' hd hd'
  have hsame : some d' = some d := hd'.symm.trans ((hdevice r).trans hd)
  rw [Option.some.inj hsame]
  exact refl_of (Device.Minds r.buffers) d

theorem handles_report (e : Event) : Keeps Handles (report e) :=
  handles_modify (continues_report e) fun _ => rfl

/-! ### Building -/

theorem minds_buildPipeline (held : List (Ref .buffer)) (label sourceText entryPoint : String)
    (layouts : List (Ref .layout)) :
    Keeps (Device.Minds held) (buildPipeline label sourceText entryPoint layouts) := by
  refine Keeps.bind ?_ fun shader => Keeps.bind ?_ fun layout => Keeps.bind ?_ fun _ => Keeps.pure _
  · exact (Device.makes_createShader _ _).minds_of_nil (Device.still_createShader _ _) rfl fun _ => rfl
  · exact (Device.makes_createPipelineLayout _ _).minds_of_nil
      (Device.still_createPipelineLayout _ _) rfl fun _ => rfl
  · exact (Device.makes_createPipeline _ _ _ _).minds_of_nil
      (Device.still_createPipeline _ _ _ _) rfl fun _ => rfl

/-- The buffers of a group are inputs of the rig. -/
theorem mem_buffers_of_groupInputs {r : Rig} {group : Nat} {buffer : Ref .buffer}
    (h : buffer ∈ ((r.groupInputs group).map fun i =>
      (⟨i.binding, i.buffer, i.size⟩ : GroupEntry)).filterMap GroupEntry.buffer) :
    buffer ∈ r.buffers := by
  rw [List.filterMap_map] at h
  obtain ⟨i, hi, hbuffer⟩ := List.mem_filterMap.mp h
  exact mem_buffers_of_input (List.mem_filter.mp hi).1 hbuffer

theorem handles_createGroup (place : Nat × Ref .layout) :
    Keeps Handles (createGroup place.1 place.2) := by
  intro r
  unfold createGroup
  rw [Outcome.get_bind]
  exact handles_of_speaks (Device.makes_createGroup _ _ _).toSpeaks (Device.still_createGroup _ _ _)
    rfl (fun _ => rfl) fun buffer hbuffer => mem_buffers_of_groupInputs hbuffer

theorem handles_building : KeptByBuilding Handles where
  report := handles_report
  buildLayout := keeps_buildLayout fun _ _ _ =>
    handles_of_speaks (Device.makes_createLayout _ _).toSpeaks (Device.still_createLayout _ _) rfl
      (fun _ => rfl) fun _ hnone => absurd hnone List.not_mem_nil
  compile := fun _ _ => keeps_compile
    (fun _ _ _ => handles_onDevice fun {d} _ => minds_buildPipeline _ _ _ _ _ d) handles_report
  buildGroups layout r := by
    rw [outcome_buildGroups]
    by_cases hfits : layout.signature = r.signature
    · rw [if_pos hfits]
      exact Keeps.mapM handles_createGroup _ r
    · rw [if_neg hfits]
      exact refl_of Handles r

/-! ### Reading back -/

theorem handles_readOutput (waiting : Waiting) {o : Output} {r : Rig} (ho : o ∈ r.outputs.values) :
    Handles r (outcome (readOutput waiting o) r).2 := by
  unfold readOutput
  cases hbuffer : o.buffer with
  | none => exact refl_of Handles r
  | some buffer =>
    have hheld : ∀ {r₁}, Handles r r₁ → ∀ b ∈ [buffer], b ∈ r₁.buffers := by
      intro r₁ hhandles b hb
      rw [List.mem_singleton.mp hb, hhandles.buffers_eq]
      exact mem_buffers_of_output ho hbuffer
    have hmap := handles_of_speaks (Device.speaks_map waiting buffer) (Device.still_map waiting buffer)
      rfl (fun _ => rfl) (hheld (refl_of Handles r))
    refine Keeps.bind_at hmap fun _ r₁ hhandles₁ => ?_
    -- the fault of the reading is kept until the buffer has been unmapped
    refine Keeps.bind_at (s := r₁) ?_ fun read r₂ hhandles₂ => ?_
    · rw [Outcome.observing_eq]
      refine Keeps.bind_at (handles_of_speaks (Device.speaks_readMapped buffer)
        (Device.still_readMapped buffer) rfl (fun _ => rfl) (hheld hhandles₁)) fun bytes r₂ _ => ?_
      by_cases hwhole : bytes.length % 4 ≠ 0
      · rw [if_pos hwhole]
        exact refl_of Handles r₂
      · rw [if_neg hwhole]
        exact refl_of Handles r₂
    · refine Keeps.bind_at (handles_of_speaks (Device.speaks_unmap buffer) (Device.still_unmap buffer)
        rfl (fun _ => rfl) (hheld (trans_of Handles hhandles₁ hhandles₂))) fun _ r₃ _ => ?_
      exact (Keeps.liftExcept read).bind (fun _ => Keeps.pure _) r₃

theorem handles_readBack (waiting : Waiting) : Keeps Handles (readBack waiting) := by
  intro r
  unfold readBack
  rw [Outcome.get_bind]
  by_cases h : (!r.submitted) = true
  · rw [if_pos h]
    exact refl_of Handles r
  · rw [if_neg h]
    refine Keeps.bind_at ?_ fun _ r₁ _ => refl_of Handles r₁
    have hstep : ∀ o (r₁ : Rig), o ∈ r₁.outputs.values →
        Handles r₁ (outcome (readOutput waiting o) r₁).2 := fun o r₁ => handles_readOutput waiting
    refine Keeps.mapM_of_condition hstep ?_ _ r fun o ho => ho
    intro o r₁ r₂ hhandles ho
    rw [hhandles.outputs]
    exact ho

/-! ### Dispatching -/

/-- The bind groups were made of inputs of the rig. -/
def MadeOfInputs (r : Rig) (groups : List (Ref .group)) : Prop :=
  ∀ group ∈ groups, ∃ place handle, r.Made group (r.groupCall place handle)

theorem Bound.madeOfInputs {r : Rig} {handles : List (Ref .layout)} {groups : List (Ref .group)}
    (h : r.Bound handles groups) : r.MadeOfInputs groups := by
  intro group hgroup
  obtain ⟨place, -, hmade⟩ := Check.exists_of_mem_forall₂ h.flip hgroup
  exact ⟨place.1, place.2, hmade⟩

theorem MadeOfInputs.continues {r r' : Rig} {groups : List (Ref .group)} (h : r.MadeOfInputs groups)
    (hcontinues : Continues r r') : r'.MadeOfInputs groups := by
  intro group hgroup
  obtain ⟨place, handle, hmade⟩ := h group hgroup
  refine ⟨place, handle, ?_⟩
  rw [hcontinues.groupCall_eq]
  exact hmade.continues hcontinues

theorem MadeOfInputs.binds {r : Rig} {groups : List (Ref .group)} (h : r.MadeOfInputs groups)
    {d : Device} (hd : r.device = some d) : ∀ group ∈ groups, d.Binds r.buffers group := by
  intro group hgroup
  obtain ⟨place, handle, d₀, hd₀, hmaker⟩ := h group hgroup
  rw [hd, Option.some.injEq] at hd₀
  exact ⟨_, _, _, hd₀ ▸ hmaker, fun buffer hbuffer => mem_buffers_of_groupInputs hbuffer⟩

theorem minds_encodePass {held : List (Ref .buffer)} (label : String) (encoder : Ref .encoder)
    (pipeline : Ref .pipeline) {groups : List (Ref .group)} (counts : List Nat) {d : Device}
    (hbinds : ∀ group ∈ groups, d.Binds held group) :
    Device.Minds held d (outcome (encodePass label encoder pipeline groups counts) d).2 := by
  unfold encodePass
  refine Keeps.bind_at ((Device.makes_beginPass _ _).minds_of_nil (Device.still_beginPass _ _) rfl
    (fun _ => rfl) d) fun pass d₁ hminds₁ => ?_
  refine Keeps.bind_at ((Device.speaks_setPipeline pass pipeline).minds_of_nil
    (Device.still_setPipeline pass pipeline) rfl (fun _ => rfl) d₁) fun _ d₂ hminds₂ => ?_
  have hextends : Device.Extends d d₂ := trans_of Device.Extends hminds₁.toExtends hminds₂.toExtends
  refine Keeps.bind_at ?_ fun _ d₃ _ => Keeps.bind ?_ (fun _ => ?_) d₃
  · have hstep : ∀ (place : Ref .group × Nat) (d₃ : Device), d₃.Binds held place.1 →
        Device.Minds held d₃ (outcome (Device.setGroup pass place.2 place.1) d₃).2 :=
      fun place d₃ hgroup => (Device.speaks_setGroup pass place.2 place.1).minds rfl
        (Device.still_setGroup pass place.2 place.1 d₃).progress fun _ => hgroup.mem_of_setGroup
    refine Keeps.forM_of_condition hstep ?_ _ d₂ ?_
    · rintro ⟨group, index⟩ d₃ d₄ hminds hgroup
      exact hgroup.extends hminds.toExtends
    · rintro ⟨group, index⟩ hplace
      exact (hbinds group (List.fst_mem_of_mem_zipIdx hplace)).extends hextends
  · exact (Device.speaks_dispatch pass counts).minds_of_nil (Device.still_dispatch pass counts) rfl
      fun _ => rfl
  · exact (Device.speaks_endPass pass).minds_of_nil (Device.still_endPass pass) rfl fun _ => rfl

theorem handles_encodeCopy (encoder : Ref .encoder) {o : Output} {r : Rig} (ho : o ∈ r.outputs.values) :
    Handles r (outcome (encodeCopy encoder o) r).2 := by
  unfold encodeCopy input
  rw [Outcome.get_bind, Outcome.liftExcept_bind]
  cases hlink : r.inputs.get? o.link with
  | none => exact refl_of Handles r
  | some i =>
    refine handles_of_speaks (Device.speaks_copy _ _ _ _) (Device.still_copy _ _ _ _) rfl
      (fun _ => rfl) fun buffer hbuffer => ?_
    rcases List.mem_append.mp hbuffer with hsource | htarget
    · exact mem_buffers_of_input (NameTable.mem_values_of_get? hlink) (Option.mem_toList.mp hsource)
    · exact mem_buffers_of_output ho (Option.mem_toList.mp htarget)

theorem handles_draft (artifact : Artifact) {groups : List (Ref .group)} (counts : List Nat) {r : Rig}
    (hgroups : r.MadeOfInputs groups) : Handles r (outcome (draft r artifact groups counts) r).2 := by
  have hnone : ∀ {r₁ : Rig} (b : Ref .buffer), b ∈ [] → b ∈ r₁.buffers := fun _ hb =>
    absurd hb List.not_mem_nil
  unfold draft
  refine Keeps.bind_at (handles_of_speaks (Device.makes_createEncoder _).toSpeaks
    (Device.still_createEncoder _) rfl (fun _ => rfl) hnone) fun encoder r₁ hhandles₁ => ?_
  refine Keeps.bind_at ?_ fun _ r₂ hhandles₂ => ?_
  · exact handles_onDevice fun {d₁} hd₁ => minds_encodePass _ _ _ _
      ((hgroups.continues hhandles₁.toContinues).binds hd₁)
  · have houtputs : r₂.outputs = r.outputs := hhandles₂.outputs.trans hhandles₁.outputs
    refine Keeps.bind_at ?_ fun _ r₃ _ => ?_
    · have hstep : ∀ o (r₃ : Rig), o ∈ r₃.outputs.values →
          Handles r₃ (outcome (encodeCopy encoder o) r₃).2 := fun o r₃ => handles_encodeCopy encoder
      refine Keeps.forM_of_condition hstep ?_ _ r₂ ?_
      · intro o r₃ r₄ hhandles ho
        rw [hhandles.outputs]
        exact ho
      · intro o ho
        rw [houtputs]
        exact ho
    · exact handles_of_speaks (Device.makes_finish _).toSpeaks (Device.still_finish _) rfl
        (fun _ => rfl) hnone

/-- A copy to an output goes from a buffer of the rig to a buffer of the rig. -/
theorem mem_buffers_of_copyOf {r : Rig} {o : Output} (ho : o ∈ r.outputs.values) (d : Device)
    {buffer : Ref .buffer} (h : buffer ∈ d.commandBuffers (r.copyOf o)) : buffer ∈ r.buffers := by
  unfold copyOf at h
  cases hlink : r.inputs.get? o.link with
  | none =>
    rw [hlink] at h
    rcases List.mem_append.mp h with hsource | htarget
    · simp at hsource
    · exact mem_buffers_of_output ho (Option.mem_toList.mp htarget)
  | some i =>
    rw [hlink] at h
    rcases List.mem_append.mp h with hsource | htarget
    · exact mem_buffers_of_input (NameTable.mem_values_of_get? hlink) (Option.mem_toList.mp hsource)
    · exact mem_buffers_of_output ho (Option.mem_toList.mp htarget)

/-- What is submitted was collected with the same buffers at hand. -/
theorem handles_submit {artifact : Artifact} {groups : List (Ref .group)} {counts : List Nat}
    {r r' : Rig} {list : Ref .commands} (hgroups : r.MadeOfInputs groups)
    (hdraft : outcome (draft r artifact groups counts) r = (.ok list, r')) (hhandles : Handles r r') :
    Handles r' (outcome (onDevice (Device.submit list)) r').2 := by
  obtain ⟨d', hd', hlist⟩ := draft_eq_ok hdraft
  refine handles_onDevice fun {d} hd => ?_
  rw [hd', Option.some.injEq] at hd
  rw [← hd]
  refine (Device.speaks_submit list).minds rfl (Device.progress_submit hlist) fun buffer => ?_
  refine Device.mem_of_submit hlist fun d'' hprogress command hcommand buffer hbuffer => ?_
  -- the first command is the pass, which reaches what its groups bind; the others are the copies
  rcases List.mem_cons.mp hcommand with hpass | hcopy
  · rw [hpass] at hbuffer
    obtain ⟨group, hgroup, hmem⟩ := List.mem_flatMap.mp hbuffer
    have hbinds := (hgroups.continues hhandles.toContinues).binds hd' group hgroup
    exact (hbinds.extends hprogress.toExtends).mem hmem
  · obtain ⟨o, ho, rfl⟩ := List.mem_map.mp hcopy
    rw [hhandles.buffers_eq]
    exact mem_buffers_of_copyOf ho d'' hbuffer

/-- **A dispatch.** If its bind groups were made of the inputs as they are, it reaches no other buffers,
neither while its commands are collected nor when they are run. -/
theorem handles_execute (artifact : Artifact) {groups : List (Ref .group)} (counts : Value) {r : Rig}
    (hgroups : r.MadeOfInputs groups) : Handles r (outcome (execute artifact groups counts) r).2 := by
  rw [execute_eq, Outcome.liftExcept_bind]
  cases Workgroup.counts counts with
  | error fault => exact refl_of Handles r
  | ok ns =>
    simp only
    rw [Outcome.get_bind]
    have hdraft := handles_draft artifact ns hgroups
    rcases hx : outcome (draft r artifact groups ns) r with ⟨x, r₁⟩
    rw [hx] at hdraft
    cases x with
    | error fault =>
      rw [Outcome.bind_of_error hx]
      exact hdraft
    | ok list =>
      rw [Outcome.bind_of_ok hx]
      refine trans_of Handles hdraft ?_
      refine Keeps.bind_at (handles_submit hgroups hx hdraft) fun _ r₂ _ => ?_
      refine Keeps.bind ?_ (fun _ => handles_report _) r₂
      exact handles_modify (continues_modify (fun _ => rfl) (fun _ => rfl) (fun _ => rfl)
        (fun _ => rfl) fun _ => rfl) fun _ => rfl

/-! ## The ledger -/

/-- Every buffer made since the start is held, given back or without its data, and none that was given
back has been reached again. -/
def Ledger (start : Device) (r : Rig) : Prop :=
  ∃ d, r.device = some d ∧ Device.Ledger start d r.buffers

theorem Ledger.handles {start : Device} {r r' : Rig} (h : Ledger start r) (hhandles : Handles r r') :
    Ledger start r' := by
  obtain ⟨d, hd, hledger⟩ := h
  obtain ⟨d', hd', -⟩ := hhandles.device hd
  refine ⟨d', hd', ?_⟩
  rw [hhandles.buffers_eq]
  exact hledger.minds (hhandles.minds hd hd')

theorem perm_buffers_of_input {r r' : Rig} {name : String} {i : Input} {buffer : Ref .buffer}
    (hnew : name ∉ r.inputs.names) (hinputs : r'.inputs = r.inputs.insert name i)
    (houtputs : r'.outputs = r.outputs) (hbuffer : i.buffer = some buffer) :
    r'.buffers.Perm (buffer :: r.buffers) := by
  rw [buffers, hinputs, NameTable.values_insert_of_not_mem _ hnew, houtputs, List.filterMap_append,
    List.filterMap_cons_some hbuffer, List.filterMap_nil, List.append_assoc]
  exact List.perm_middle

theorem perm_buffers_of_output {r r' : Rig} {name : String} {o : Output} {buffer : Ref .buffer}
    (hnew : name ∉ r.outputs.names) (hinputs : r'.inputs = r.inputs)
    (houtputs : r'.outputs = r.outputs.insert name o) (hbuffer : o.buffer = some buffer) :
    r'.buffers.Perm (buffer :: r.buffers) := by
  rw [buffers, houtputs, NameTable.values_insert_of_not_mem _ hnew, hinputs, List.filterMap_append,
    List.filterMap_cons_some hbuffer, List.filterMap_nil, ← List.append_assoc]
  exact List.perm_append_singleton _ _

/-- **Registering an input.** Its buffer is held if the registration goes through. If the device makes the
buffer and then refuses the data, it is left on the device. -/
theorem Ledger.registerInput {start : Device} {r : Rig} (h : Ledger start r) (name : String)
    (data group : Value) : Ledger start (outcome (registerInput name data group) r).2 := by
  have hkept := h
  obtain ⟨d, hd, hledger⟩ := h
  unfold Rig.registerInput
  rw [Outcome.get_bind, Outcome.liftExcept_bind]
  cases hcheck : r.checkInput name data group with
  | error fault => exact hkept
  | ok checked =>
    obtain ⟨element, array, place⟩ := checked
    simp only
    rcases hx : outcome (Device.createBuffer name array.byteCount inputUsage) d with ⟨x, d₁⟩
    have hcreate : outcome (onDevice (Device.createBuffer name array.byteCount inputUsage)) r
        = (x, { r with device := some d₁ }) := by
      rw [outcome_onDevice_of_some hd, hx]
    cases x with
    | error fault =>
      rw [Outcome.bind_of_error hcreate]
      exact ⟨d₁, rfl, hledger.createBuffer_error hx⟩
    | ok buffer =>
      rw [Outcome.bind_of_ok hcreate]
      -- between the two calls the buffer is in no table, and yet someone has to have it
      have hmade := hledger.createBuffer_ok hx
      rcases hy : outcome (Device.writeBuffer buffer (Bytes.ofWords array.words)) d₁ with ⟨y, d₂⟩
      have hwrite : outcome (onDevice (Device.writeBuffer buffer (Bytes.ofWords array.words)))
          { r with device := some d₁ } = (y, { r with device := some d₂ }) := by
        rw [outcome_onDevice_of_some rfl, hy]
      cases y with
      | error fault =>
        rw [Outcome.bind_of_error hwrite]
        exact ⟨d₂, rfl, hmade.writeBuffer_error hy⟩
      | ok _ =>
        rw [Outcome.bind_of_ok hwrite]
        refine ⟨d₂, rfl, (hmade.writeBuffer_ok hy).of_perm ?_⟩
        have hnew := (checkName_eq_ok_iff.mp (checkInput_eq_ok hcheck).1).1
        exact perm_buffers_of_input hnew rfl rfl rfl

theorem Ledger.registerOutput {start : Device} {r : Rig} (h : Ledger start r) (name link : String)
    (data : Value) : Ledger start (outcome (registerOutput name link data) r).2 := by
  have hkept := h
  obtain ⟨d, hd, hledger⟩ := h
  unfold Rig.registerOutput
  rw [Outcome.get_bind, Outcome.liftExcept_bind]
  cases hcheck : r.checkOutput name link data with
  | error fault => exact hkept
  | ok checked =>
    obtain ⟨source, size⟩ := checked
    simp only
    rcases hx : outcome (Device.createBuffer name size outputUsage) d with ⟨x, d₁⟩
    have hcreate : outcome (onDevice (Device.createBuffer name size outputUsage)) r
        = (x, { r with device := some d₁ }) := by
      rw [outcome_onDevice_of_some hd, hx]
    cases x with
    | error fault =>
      rw [Outcome.bind_of_error hcreate]
      exact ⟨d₁, rfl, hledger.createBuffer_error hx⟩
    | ok buffer =>
      rw [Outcome.bind_of_ok hcreate]
      refine ⟨d₁, rfl, (hledger.createBuffer_ok hx).of_perm ?_⟩
      have hnew := (checkName_eq_ok_iff.mp (checkOutput_eq_ok hcheck).2.1).2
      exact perm_buffers_of_output hnew rfl rfl rfl

/-! ## Giving back -/

/-- The ledger is kept, and one of the two tables is as it was. -/
structure Settles (table : Rig → β) (r r' : Rig) : Prop where
  ledger : ∀ {start}, Ledger start r → Ledger start r'
  kept : table r' = table r

instance (table : Rig → β) : IsPreorder Rig (Settles table) where
  refl _ := ⟨id, rfl⟩
  trans _ _ _ h h' := ⟨fun hledger => h'.ledger (h.ledger hledger), h'.kept.trans h.kept⟩

/-- A buffer is given back and then taken out of its table, or the device fails and it stays there. -/
theorem settles_giveBack (table : Rig → β) (buffer : Ref .buffer) (f : Rig → Rig) {r : Rig}
    (htable : ∀ device, table { r with device } = table r ∧ table (f { r with device }) = table r)
    (hbuffers : ∀ device, (f { r with device }).device = device ∧
      r.buffers.Perm (buffer :: (f { r with device }).buffers)) :
    Settles table r (outcome (onDevice (Device.destroy buffer) >>= fun _ => modify f) r).2 ∧
      ∀ u r', outcome (onDevice (Device.destroy buffer) >>= fun _ => modify f) r = (.ok u, r') →
        ∃ device, r' = f { r with device } := by
  cases hd : r.device with
  | none =>
    rw [Outcome.bind_of_error (outcome_onDevice_of_none hd _)]
    exact ⟨refl_of (Settles table) r, fun u r' hout => by simp at hout⟩
  | some d =>
    rcases hx : outcome (Device.destroy buffer) d with ⟨x, d₁⟩
    have hdestroy : outcome (onDevice (Device.destroy buffer)) r
        = (x, { r with device := some d₁ }) := by
      rw [outcome_onDevice_of_some hd, hx]
    have hheld : buffer ∈ r.buffers := (hbuffers none).2.mem_iff.mpr List.mem_cons_self
    cases x with
    | error fault =>
      rw [Outcome.bind_of_error hdestroy]
      refine ⟨⟨?_, (htable _).1⟩, fun u r' hout => by simp at hout⟩
      rintro start ⟨d₀, hd₀, hledger⟩
      rw [hd, Option.some.injEq] at hd₀
      rw [← hd₀] at hledger
      exact ⟨d₁, rfl, hledger.destroy_error hheld hx⟩
    | ok u =>
      rw [Outcome.bind_of_ok hdestroy]
      refine ⟨⟨?_, (htable _).2⟩, fun u r' hout => ⟨some d₁, ?_⟩⟩
      · rintro start ⟨d₀, hd₀, hledger⟩
        rw [hd, Option.some.injEq] at hd₀
        rw [← hd₀] at hledger
        exact ⟨d₁, (hbuffers _).1, (hledger.of_perm (hbuffers _).2.symm).destroy_ok hx⟩
      · exact (Prod.mk.inj hout).2.symm

/-- The inputs that are left to be released come last in the table; those before have no buffer. -/
def InputsLeft (rest : List Input) (r : Rig) : Prop :=
  r.inputs.Keyed Input.name ∧
    ∃ done, r.inputs.values = done ++ rest ∧ done.filterMap Input.buffer = []

/-- The same for outputs. -/
def OutputsLeft (rest : List Output) (r : Rig) : Prop :=
  r.outputs.Keyed Output.name ∧
    ∃ done, r.outputs.values = done ++ rest ∧ done.filterMap Output.buffer = []

theorem settles_releaseInput (i : Input) (rest : List Input) (r : Rig) (h : InputsLeft (i :: rest) r) :
    Settles outputs r (outcome (releaseInput i) r).2 ∧
      ∀ u r', outcome (releaseInput i) r = (.ok u, r') → InputsLeft rest r' := by
  obtain ⟨hkeyed, done, hvalues, hdone⟩ := h
  unfold releaseInput
  cases hbuffer : i.buffer with
  | none =>
    refine ⟨refl_of (Settles outputs) r, fun u r' hout => ?_⟩
    rw [← (Prod.mk.inj hout).2]
    exact ⟨hkeyed, done ++ [i], by simp [hvalues], by simp [hdone, hbuffer]⟩
  | some buffer =>
    obtain ⟨hplace, hkeyed'⟩ := hkeyed.values_insert i.released hvalues rfl
    have hperm : ∀ device, r.buffers.Perm
        (buffer :: { r with device, inputs := r.inputs.insert i.name i.released }.buffers) := by
      intro device
      simp only [buffers, hplace, hvalues]
      simp [hbuffer, Input.released, hdone]
    obtain ⟨hsettles, hreleased⟩ := settles_giveBack outputs buffer
      (fun r => { r with inputs := r.inputs.insert i.name i.released })
      (fun _ => ⟨rfl, rfl⟩) fun device => ⟨rfl, hperm device⟩
    refine ⟨hsettles, fun u r' hout => ?_⟩
    obtain ⟨device, rfl⟩ := hreleased u r' hout
    exact ⟨hkeyed', done ++ [i.released], by simp [hplace], by simp [hdone, Input.released]⟩

theorem settles_releaseOutput (o : Output) (rest : List Output) (r : Rig)
    (h : OutputsLeft (o :: rest) r) :
    Settles inputs r (outcome (releaseOutput o) r).2 ∧
      ∀ u r', outcome (releaseOutput o) r = (.ok u, r') → OutputsLeft rest r' := by
  obtain ⟨hkeyed, done, hvalues, hdone⟩ := h
  unfold releaseOutput
  cases hbuffer : o.buffer with
  | none =>
    refine ⟨refl_of (Settles inputs) r, fun u r' hout => ?_⟩
    rw [← (Prod.mk.inj hout).2]
    exact ⟨hkeyed, done ++ [o], by simp [hvalues], by simp [hdone, hbuffer]⟩
  | some buffer =>
    obtain ⟨hplace, hkeyed'⟩ := hkeyed.values_insert o.released hvalues rfl
    have hperm : ∀ device, r.buffers.Perm
        (buffer :: { r with device, outputs := r.outputs.insert o.name o.released }.buffers) := by
      intro device
      simp only [buffers, hplace, hvalues]
      simp [hbuffer, Output.released, hdone]
    obtain ⟨hsettles, hreleased⟩ := settles_giveBack inputs buffer
      (fun r => { r with outputs := r.outputs.insert o.name o.released })
      (fun _ => ⟨rfl, rfl⟩) fun device => ⟨rfl, hperm device⟩
    refine ⟨hsettles, fun u r' hout => ?_⟩
    obtain ⟨device, rfl⟩ := hreleased u r' hout
    exact ⟨hkeyed', done ++ [o.released], by simp [hplace], by simp [hdone, Output.released]⟩

/-- **Giving back.** The ledger is kept wherever it stops, and if it does not stop, nothing is held. -/
theorem Ledger.release {start : Device} {r : Rig} (h : Ledger start r) (hregistered : Registered r) :
    Ledger start (outcome release r).2 ∧
      ∀ u r', outcome release r = (.ok u, r') → r'.buffers = [] := by
  unfold Rig.release
  rw [Outcome.get_bind]
  obtain ⟨hsettles, hinputs⟩ := Keeps.forM_of_left settles_releaseInput r.inputs.values
    (show InputsLeft r.inputs.values r from ⟨hregistered.inputs, [], rfl, rfl⟩)
  rcases hx : outcome (r.inputs.values.forM releaseInput) r with ⟨x, r₁⟩
  rw [hx] at hsettles
  cases x with
  | error fault =>
    rw [Outcome.bind_of_error hx]
    exact ⟨hsettles.ledger h, fun u r' hout => by simp at hout⟩
  | ok u =>
    rw [Outcome.bind_of_ok hx]
    have hleft : OutputsLeft r.outputs.values r₁ := by
      rw [OutputsLeft, hsettles.kept]
      exact ⟨hregistered.outputs, [], rfl, rfl⟩
    obtain ⟨hsettles', houtputs⟩ := Keeps.forM_of_left settles_releaseOutput r.outputs.values hleft
    refine ⟨hsettles'.ledger (hsettles.ledger h), fun u' r' hout => ?_⟩
    obtain ⟨-, doneInputs, hvalues, hnone⟩ := hinputs u r₁ hx
    obtain ⟨-, doneOutputs, hvalues', hnone'⟩ := houtputs u' r' hout
    rw [hout] at hsettles'
    rw [buffers, hsettles'.kept, hvalues, hvalues', List.append_nil, List.append_nil, hnone, hnone']
    rfl

end KernelShader.Rig
