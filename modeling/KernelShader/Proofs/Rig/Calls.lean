/-
`Calls.lean` -- what work on a rig does to its device, and what it has made there.

Building and dispatching leave the buffers of a rig alone; all they do is talk to the device, whose record
goes on (`Continues`). What they made there can be told from the record afterwards: an artifact has a
module made from its text, a pipeline made from that module (`Built`), and bind groups are made under the
layouts they belong to, one for each group and in order (`Bound`). A dispatch shows on record as the steps
of its compute pass, from the pipeline to the workgroup counts.
-/
import KernelShader.Proofs.Device.Conversation
import KernelShader.Rig.Dispatch

set_option autoImplicit false

namespace KernelShader

/-- A step of a compute pass, without the pass it belongs to. -/
inductive PassStep where
  | pipeline (pipeline : Ref .pipeline)
  | group (index : Nat) (group : Ref .group)
  | dispatch (counts : List Nat)
  deriving DecidableEq, Repr

/-- The step of a compute pass that a call is. -/
def Call.passStep? : Call → Option PassStep
  | .setPipeline _ pipeline => some (.pipeline pipeline)
  | .setGroup _ index group => some (.group index group)
  | .dispatch _ counts => some (.dispatch counts)
  | _ => none

/-- The call is one of those that make up a compute pass. -/
def Call.inPass : Call → Bool
  | .beginPass .. | .setPipeline .. | .setGroup .. | .dispatch .. | .endPass .. => true
  | _ => false

namespace Rig

variable {α β : Type}

/-! ## Talking to the device -/

theorem outcome_onDevice_of_none {r : Rig} (h : r.device = none) (m : DeviceM α) :
    outcome (onDevice m) r = (.error noDevice, r) := by
  unfold onDevice
  rw [Outcome.get_bind, h]
  rfl

theorem outcome_onDevice_of_some {r : Rig} {d : Device} (h : r.device = some d) (m : DeviceM α) :
    outcome (onDevice m) r = ((outcome m d).1, { r with device := some (outcome m d).2 }) := by
  have hwork : outcome (onDevice m) r
      = outcome (liftExcept (outcome m d).1 : RigM α) { r with device := some (outcome m d).2 } := by
    unfold onDevice
    rw [Outcome.get_bind, h]
    rfl
  rw [hwork, Outcome.liftExcept_eq]

theorem onDevice_eq_ok {m : DeviceM α} {r r' : Rig} {a : α}
    (h : outcome (onDevice m) r = (.ok a, r')) :
    ∃ d d', r.device = some d ∧ outcome m d = (.ok a, d') ∧ r' = { r with device := some d' } := by
  cases hdevice : r.device with
  | none =>
    rw [outcome_onDevice_of_none hdevice] at h
    exact nomatch h
  | some d =>
    rw [outcome_onDevice_of_some hdevice, Prod.mk.injEq] at h
    exact ⟨d, (outcome m d).2, rfl, Prod.ext h.1 rfl, h.2.symm⟩

/-- Of the faults that a conversation with the device can end with, none is about layouts. -/
theorem kind_of_onDevice {m : DeviceM α} (hm : Device.Conversation m) :
    FailsWith (fun fault => fault.kind ≠ .layoutMismatch) (onDevice m) := by
  intro r fault r' h
  cases hdevice : r.device with
  | none =>
    rw [outcome_onDevice_of_none hdevice, Prod.mk.injEq, Except.error.injEq] at h
    rw [← h.1]
    exact FaultKind.noConfusion
  | some d =>
    rw [outcome_onDevice_of_some hdevice, Prod.mk.injEq] at h
    obtain ⟨kind, message, rfl⟩ := hm.faults d fault _ (Prod.ext h.1 rfl)
    exact FaultKind.noConfusion

theorem adds_onDevice {view : Call → Option β} {m : DeviceM α} {seen : List β}
    (hm : Adds Device.trace view m seen) : Adds trace view (onDevice m) seen := by
  intro r a r' h
  obtain ⟨d, d', hd, hcall, rfl⟩ := onDevice_eq_ok h
  obtain ⟨calls, hcalls, hseen⟩ := hm d a d' hcall
  refine ⟨calls, ?_, hseen⟩
  rw [trace, trace, hd]
  exact hcalls

theorem adds_report {view : Call → Option β} (e : Event) : Adds trace view (report e) [] :=
  Adds.silent fun _ => rfl

theorem shows_onDevice {view : Call → Option β} {P : β → Prop} {m : DeviceM α}
    (hm : Keeps (Shows Device.trace view P) m) : Keeps (Shows trace view P) (onDevice m) := by
  intro r
  cases hdevice : r.device with
  | none =>
    rw [outcome_onDevice_of_none hdevice]
    exact Shows.of_eq rfl
  | some d =>
    obtain ⟨calls, hcalls, hP⟩ := hm d
    refine ⟨calls, ?_, hP⟩
    rw [outcome_onDevice_of_some hdevice, trace, trace, hdevice]
    exact hcalls

/-! ## A device that goes on -/

/-- The buffers are the same, and the device has gone on from where it was. -/
structure Continues (r r' : Rig) : Prop where
  label : r'.label = r.label
  inputs : r'.inputs = r.inputs
  outputs : r'.outputs = r.outputs
  nextBinding : r'.nextBinding = r.nextBinding
  gone : r.device = none → r'.device = none
  device : ∀ {d}, r.device = some d → ∃ d', r'.device = some d' ∧ Device.Extends d d'

instance : IsPreorder Rig Continues where
  refl r := ⟨rfl, rfl, rfl, rfl, id, fun {d} h => ⟨d, h, refl_of Device.Extends d⟩⟩
  trans r r₁ r₂ h h' := by
    refine ⟨h'.label.trans h.label, h'.inputs.trans h.inputs, h'.outputs.trans h.outputs,
      h'.nextBinding.trans h.nextBinding, fun hnone => h'.gone (h.gone hnone), ?_⟩
    intro d hd
    obtain ⟨d₁, hd₁, hextends⟩ := h.device hd
    obtain ⟨d₂, hd₂, hextends'⟩ := h'.device hd₁
    exact ⟨d₂, hd₂, trans_of Device.Extends hextends hextends'⟩

theorem Continues.signature_eq {r r' : Rig} (h : Continues r r') : r'.signature = r.signature := by
  rw [signature, h.inputs, signature]

theorem Continues.groups_eq {r r' : Rig} (h : Continues r r') : r'.groups = r.groups := by
  rw [groups, topGroup, h.inputs, groups, topGroup]

theorem Continues.groupInputs_eq {r r' : Rig} (h : Continues r r') (group : Nat) :
    r'.groupInputs group = r.groupInputs group := by
  rw [groupInputs, h.inputs, groupInputs]

/-- Nothing has happened but a conversation with the device. -/
structure Consults (r r' : Rig) : Prop extends Continues r r' where
  rest : r' = { r with device := r'.device }

instance : IsPreorder Rig Consults where
  refl r := ⟨refl_of Continues r, rfl⟩
  trans r r₁ r₂ h h' := by
    refine ⟨trans_of Continues h.toContinues h'.toContinues, ?_⟩
    rw [h'.rest, h.rest]

theorem consults_onDevice {m : DeviceM α} (hm : Keeps Device.Extends m) :
    Keeps Consults (onDevice m) := by
  intro r
  cases hdevice : r.device with
  | none =>
    rw [outcome_onDevice_of_none hdevice]
    exact refl_of Consults r
  | some d =>
    rw [outcome_onDevice_of_some hdevice]
    refine ⟨⟨rfl, rfl, rfl, rfl, fun hnone => ?_, fun {d'} hd' => ⟨_, rfl, ?_⟩⟩, rfl⟩
    · rw [hdevice] at hnone
      exact nomatch hnone
    · rw [hdevice, Option.some.injEq] at hd'
      rw [← hd']
      exact hm d

theorem continues_onDevice {m : DeviceM α} (hm : Keeps Device.Extends m) :
    Keeps Continues (onDevice m) := fun r => (consults_onDevice hm r).toContinues

theorem continues_modify {f : Rig → Rig} (hdevice : ∀ r, (f r).device = r.device)
    (hlabel : ∀ r, (f r).label = r.label) (hinputs : ∀ r, (f r).inputs = r.inputs)
    (houtputs : ∀ r, (f r).outputs = r.outputs) (hnext : ∀ r, (f r).nextBinding = r.nextBinding) :
    Keeps Continues (modify f : RigM PUnit) := by
  intro r
  refine ⟨hlabel r, hinputs r, houtputs r, hnext r, fun hnone => (hdevice r).trans hnone, ?_⟩
  intro d hd
  exact ⟨d, (hdevice r).trans hd, refl_of Device.Extends d⟩

theorem continues_report (e : Event) : Keeps Continues (report e) :=
  continues_modify (fun _ => rfl) (fun _ => rfl) (fun _ => rfl) (fun _ => rfl) fun _ => rfl

/-! ## What has been made -/

/-- The device has the object, and the call made it. -/
def Made (r : Rig) {kind : ObjectKind} (object : Ref kind) (call : Call) : Prop :=
  ∃ d, r.device = some d ∧ d.maker object = some call

theorem Made.continues {r r' : Rig} {kind : ObjectKind} {object : Ref kind} {call : Call}
    (h : r.Made object call) (hcontinues : Continues r r') : r'.Made object call := by
  obtain ⟨d, hd, hmaker⟩ := h
  obtain ⟨d', hd', hextends⟩ := hcontinues.device hd
  exact ⟨d', hd', hextends.maker_eq hmaker⟩

/-- A call that hands out an object has made it. -/
theorem made_of_makes {kind : ObjectKind} {call : Call} {m : DeviceM (Ref kind)}
    (hm : Device.Makes call m) {r r' : Rig} {object : Ref kind}
    (h : outcome (onDevice m) r = (.ok object, r')) : r'.Made object call := by
  obtain ⟨d, d', -, hcall, rfl⟩ := onDevice_eq_ok h
  exact ⟨d', rfl, hm.maker hcall⟩

theorem trace_of_speaks {call : Call} {m : DeviceM α} (hm : Device.Speaks call m) {r r' : Rig} {a : α}
    (h : outcome (onDevice m) r = (.ok a, r')) : r'.trace = r.trace ++ [call] := by
  obtain ⟨d, d', hd, hcall, rfl⟩ := onDevice_eq_ok h
  rw [trace, trace, hd]
  exact hm.trace hcall

/-- If every step of a loop makes an object by one call while the rig goes on, these calls are what the
loop leaves on record, and all of the objects are there at its end. -/
theorem mapM_eq_ok_of_makes {γ : Type} {kind : ObjectKind} {f : γ → RigM (Ref kind)}
    {call : γ → Call} {r : Rig} (hkeeps : ∀ c, Keeps Continues (f c))
    (hmakes : ∀ c r₁, Continues r r₁ →
      ∃ m, outcome (f c) r₁ = outcome (onDevice m) r₁ ∧ Device.Makes (call c) m)
    (l : List γ) {r₁ r' : Rig} {objects : List (Ref kind)} (hcontinues : Continues r r₁)
    (h : outcome (l.mapM f) r₁ = (.ok objects, r')) :
    r'.trace = r₁.trace ++ l.map call ∧
      List.Forall₂ (fun c object => r'.Made object (call c)) l objects := by
  refine ⟨?_, ?_⟩
  · induction l generalizing r₁ objects with
    | nil =>
      rw [List.mapM_nil, Outcome.pure_eq, Prod.mk.injEq] at h
      rw [← h.2, List.map_nil, List.append_nil]
    | cons c rest ih =>
      rw [List.mapM_cons] at h
      obtain ⟨object, r₂, hfirst, hmore⟩ := Outcome.bind_eq_ok_iff.mp h
      obtain ⟨others, r₃, hrest, hpure⟩ := Outcome.bind_eq_ok_iff.mp hmore
      rw [Outcome.pure_eq, Prod.mk.injEq] at hpure
      rw [hpure.2] at hrest
      -- the calls are said with the rig before the loop, since every step leaves its buffers alone
      have htrace := ih (trans_of Continues hcontinues ((hkeeps c).of_outcome_eq hfirst)) hrest
      obtain ⟨m, hm, hmade⟩ := hmakes c r₁ hcontinues
      rw [hm] at hfirst
      rw [htrace, trace_of_speaks hmade.toSpeaks hfirst, List.map_cons, List.append_assoc,
        List.singleton_append]
  · refine Keeps.forall₂_of_mapM_eq_ok (P := fun c object r => r.Made object (call c)) hkeeps ?_ ?_ l
      hcontinues h
    · intro c r₁ object r₂ hgone hfirst
      obtain ⟨m, hm, hmade⟩ := hmakes c r₁ hgone
      rw [hm] at hfirst
      exact made_of_makes hmade hfirst
    · intro c object r₁ r₂ hgone hmade
      exact hmade.continues hgone

/-! ## Layouts and bind groups -/

/-- The call that makes the layout of a group. -/
def layoutCall (r : Rig) (group : Nat) : Call :=
  .createLayout s!"{r.label} bind group layout {group}" ((r.groupInputs group).map (·.binding))

/-- The call that makes the bind group of a group under a layout. -/
def groupCall (r : Rig) (group : Nat) (handle : Ref .layout) : Call :=
  .createGroup s!"{r.label} bind group {group}" handle
    ((r.groupInputs group).map fun i => ⟨i.binding, i.buffer, i.size⟩)

theorem Continues.layoutCall_eq {r r' : Rig} (h : Continues r r') (group : Nat) :
    r'.layoutCall group = r.layoutCall group := by
  rw [layoutCall, h.label, h.groupInputs_eq, layoutCall]

theorem Continues.groupCall_eq {r r' : Rig} (h : Continues r r') (group : Nat)
    (handle : Ref .layout) : r'.groupCall group handle = r.groupCall group handle := by
  rw [groupCall, h.label, h.groupInputs_eq, groupCall]

/-- The layouts are those of the groups of the rig, in order. -/
def Laid (r : Rig) (handles : List (Ref .layout)) : Prop :=
  List.Forall₂ (fun group handle => r.Made handle (r.layoutCall group)) r.groups handles

/-- The bind groups are those of the groups of the rig under the layouts, in order. -/
def Bound (r : Rig) (handles : List (Ref .layout)) (groups : List (Ref .group)) : Prop :=
  List.Forall₂ (fun place group => r.Made group (r.groupCall place.1 place.2))
    (r.groups.zip handles) groups

theorem Laid.continues {r r' : Rig} {handles : List (Ref .layout)} (h : r.Laid handles)
    (hcontinues : Continues r r') : r'.Laid handles := by
  unfold Laid at h ⊢
  rw [hcontinues.groups_eq]
  refine h.imp ?_
  intro group handle hmade
  rw [hcontinues.layoutCall_eq]
  exact hmade.continues hcontinues

theorem Bound.continues {r r' : Rig} {handles : List (Ref .layout)} {groups : List (Ref .group)}
    (h : r.Bound handles groups) (hcontinues : Continues r r') : r'.Bound handles groups := by
  unfold Bound at h ⊢
  rw [hcontinues.groups_eq]
  refine h.imp ?_
  intro place group hmade
  rw [hcontinues.groupCall_eq]
  exact hmade.continues hcontinues

theorem createLayout_makes (r : Rig) (group : Nat) :
    ∃ m, outcome (createLayout group) r = outcome (onDevice m) r ∧
      Device.Makes (r.layoutCall group) m :=
  ⟨_, Outcome.get_bind _ r, Device.makes_createLayout _ _⟩

theorem createGroup_makes (r : Rig) (group : Nat) (handle : Ref .layout) :
    ∃ m, outcome (createGroup group handle) r = outcome (onDevice m) r ∧
      Device.Makes (r.groupCall group handle) m :=
  ⟨_, Outcome.get_bind _ r, Device.makes_createGroup _ _ _⟩

theorem continues_createLayout (group : Nat) : Keeps Continues (createLayout group) := by
  intro r
  obtain ⟨m, hm, hmakes⟩ := createLayout_makes r group
  rw [hm]
  exact continues_onDevice hmakes.grows r

theorem continues_createGroup (place : Nat × Ref .layout) :
    Keeps Continues (createGroup place.1 place.2) := by
  intro r
  obtain ⟨m, hm, hmakes⟩ := createGroup_makes r place.1 place.2
  rw [hm]
  exact continues_onDevice hmakes.grows r

/-- Building layouts keeps what every call for a layout keeps. -/
theorem keeps_buildLayout {R : Rig → Rig → Prop} [IsPreorder Rig R]
    (h : ∀ label bindings, Keeps R (onDevice (Device.createLayout label bindings))) :
    Keeps R buildLayout := by
  refine Keeps.get.bind fun _ => (Keeps.mapM (fun group => ?_) _).bind fun _ => Keeps.pure _
  exact Keeps.get.bind fun _ => h _ _

theorem continues_buildLayout : Keeps Continues buildLayout :=
  keeps_buildLayout fun _ _ => continues_onDevice (Device.makes_createLayout _ _).grows

theorem outcome_buildGroups (layout : Layout) (r : Rig) :
    outcome (buildGroups layout) r = if layout.signature = r.signature then
      outcome ((r.groups.zip layout.handles).mapM fun place => createGroup place.1 place.2) r
    else (.error .staleLayout, r) := by
  unfold buildGroups
  rw [Outcome.get_bind]
  by_cases h : layout.signature = r.signature
  · rw [if_pos h, if_neg (not_not_intro h)]
  · rw [if_neg h, if_pos h]
    rfl

/-- Building bind groups keeps what every call for a bind group keeps. -/
theorem keeps_buildGroups {R : Rig → Rig → Prop} [IsPreorder Rig R]
    (h : ∀ label handle entries, Keeps R (onDevice (Device.createGroup label handle entries)))
    (layout : Layout) : Keeps R (buildGroups layout) := by
  intro r
  rw [outcome_buildGroups]
  by_cases hfits : layout.signature = r.signature
  · rw [if_pos hfits]
    exact Keeps.mapM (fun _ => Keeps.get.bind fun _ => h _ _ _) _ r
  · rw [if_neg hfits]
    exact refl_of R r

theorem continues_buildGroups (layout : Layout) : Keeps Continues (buildGroups layout) :=
  keeps_buildGroups (fun _ _ _ => continues_onDevice (Device.makes_createGroup _ _ _).grows) layout

theorem adds_buildLayout : Adds trace Call.passStep? buildLayout [] := by
  refine Adds.get.silent_bind fun r => ?_
  refine (Adds.mapM_silent (fun group => ?_) _).silent_bind fun _ => Adds.pure _
  exact Adds.get.silent_bind fun _ => adds_onDevice (Device.makes_createLayout _ _).adds

theorem adds_buildGroups (layout : Layout) : Adds trace Call.passStep? (buildGroups layout) [] := by
  intro r groups r' h
  rw [outcome_buildGroups] at h
  by_cases hfits : layout.signature = r.signature
  · rw [if_pos hfits] at h
    refine Adds.mapM_silent (fun place => ?_) _ r groups r' h
    exact Adds.get.silent_bind fun _ => adds_onDevice (Device.makes_createGroup _ _ _).adds
  · rw [if_neg hfits] at h
    exact nomatch h

theorem kind_of_buildLayout : FailsWith (fun fault => fault.kind ≠ .layoutMismatch) buildLayout := by
  refine FailsWith.get.bind fun r => ?_
  refine (FailsWith.mapM (fun group => ?_) _).bind fun _ => FailsWith.pure _
  exact FailsWith.get.bind fun _ => kind_of_onDevice (Device.makes_createLayout _ _).toConversation

/-- A layout for the inputs of the rig is not refused. -/
theorem kind_of_buildGroups {layout : Layout} {r r' : Rig} {fault : Fault}
    (hfits : layout.signature = r.signature)
    (h : outcome (buildGroups layout) r = (.error fault, r')) : fault.kind ≠ .layoutMismatch := by
  rw [outcome_buildGroups, if_pos hfits] at h
  refine FailsWith.mapM (P := fun fault => fault.kind ≠ .layoutMismatch) (fun place => ?_) _ r fault r' h
  exact FailsWith.get.bind fun _ => kind_of_onDevice (Device.makes_createGroup _ _ _).toConversation

/-- A layout that has been built is one for the inputs of the rig, with a handle for every group, each
made by one call. -/
theorem buildLayout_eq_ok {r r' : Rig} {layout : Layout}
    (h : outcome buildLayout r = (.ok layout, r')) :
    layout.signature = r.signature ∧ r'.Laid layout.handles ∧
      r'.trace = r.trace ++ r'.groups.map r'.layoutCall := by
  unfold buildLayout at h
  rw [Outcome.get_bind] at h
  obtain ⟨handles, r₁, hloop, hpure⟩ := Outcome.bind_eq_ok_iff.mp h
  rw [Outcome.pure_eq, Prod.mk.injEq, Except.ok.injEq] at hpure
  have hcontinues : Continues r r₁ := (Keeps.mapM continues_createLayout _).of_outcome_eq hloop
  have hloop' : r₁.trace = r.trace ++ r.groups.map r₁.layoutCall ∧
      List.Forall₂ (fun group handle => r₁.Made handle (r₁.layoutCall group)) r.groups handles := by
    refine mapM_eq_ok_of_makes continues_createLayout ?_ r.groups (refl_of Continues r) hloop
    intro group r₂ hgone
    rw [hcontinues.layoutCall_eq, ← hgone.layoutCall_eq]
    exact createLayout_makes r₂ group
  rw [← hcontinues.groups_eq] at hloop'
  rw [← hpure.1, ← hpure.2]
  exact ⟨rfl, hloop'.2, hloop'.1⟩

/-- Bind groups that have been built are those under the layout, which was one for the inputs, each made
by one call. -/
theorem buildGroups_eq_ok {layout : Layout} {r r' : Rig} {groups : List (Ref .group)}
    (h : outcome (buildGroups layout) r = (.ok groups, r')) :
    layout.signature = r.signature ∧ r'.Bound layout.handles groups ∧
      r'.trace = r.trace ++
        (r'.groups.zip layout.handles).map fun place => r'.groupCall place.1 place.2 := by
  rw [outcome_buildGroups] at h
  by_cases hfits : layout.signature = r.signature
  · rw [if_pos hfits] at h
    have hcontinues : Continues r r' := (Keeps.mapM continues_createGroup _).of_outcome_eq h
    have hloop : r'.trace = r.trace ++
          (r.groups.zip layout.handles).map (fun place => r'.groupCall place.1 place.2) ∧
        List.Forall₂ (fun place group => r'.Made group (r'.groupCall place.1 place.2))
          (r.groups.zip layout.handles) groups := by
      refine mapM_eq_ok_of_makes continues_createGroup ?_ _ (refl_of Continues r) h
      intro place r₂ hgone
      rw [hcontinues.groupCall_eq, ← hgone.groupCall_eq]
      exact createGroup_makes r₂ place.1 place.2
    rw [← hcontinues.groups_eq] at hloop
    exact ⟨hfits, hloop.2, hloop.1⟩
  · rw [if_neg hfits] at h
    exact nomatch h

/-! ## Compiled shaders -/

/-- The parts of an artifact are there, made from its text and from one another. -/
structure Built (r : Rig) (a : Artifact) : Prop where
  shader : r.Made a.shader (.createShader s!"{r.label} module" a.sourceText)
  pipelineLayout :
    r.Made a.pipelineLayout (.createPipelineLayout s!"{r.label} layout" a.layout.handles)
  pipeline : r.Made a.pipeline (.createPipeline r.label a.pipelineLayout a.shader a.entryPoint)

theorem Built.continues {r r' : Rig} {a : Artifact} (h : r.Built a) (hcontinues : Continues r r') :
    r'.Built a := by
  have hlabel := hcontinues.label
  refine ⟨?_, ?_, ?_⟩
  · rw [hlabel]
    exact h.shader.continues hcontinues
  · rw [hlabel]
    exact h.pipelineLayout.continues hcontinues
  · rw [hlabel]
    exact h.pipeline.continues hcontinues

theorem conversation_buildPipeline (label sourceText entryPoint : String)
    (layouts : List (Ref .layout)) :
    Device.Conversation (buildPipeline label sourceText entryPoint layouts) :=
  (Device.makes_createShader _ _).toConversation.bind fun shader =>
    (Device.makes_createPipelineLayout _ _).toConversation.bind fun layout =>
      (Device.makes_createPipeline _ layout shader _).toConversation.bind fun _ =>
        Device.Conversation.pure _

/-- The three parts are made one from another, and still there at the end. -/
theorem buildPipeline_eq_ok {label sourceText entryPoint : String} {layouts : List (Ref .layout)}
    {d d' : Device} {shader : Ref .shader} {layout : Ref .pipelineLayout} {pipeline : Ref .pipeline}
    (h : outcome (buildPipeline label sourceText entryPoint layouts) d
      = (.ok (shader, layout, pipeline), d')) :
    d'.maker shader = some (.createShader s!"{label} module" sourceText) ∧
    d'.maker layout = some (.createPipelineLayout s!"{label} layout" layouts) ∧
    d'.maker pipeline = some (.createPipeline label layout shader entryPoint) := by
  unfold buildPipeline at h
  obtain ⟨shader', d₁, hshader, hmore⟩ := Outcome.bind_eq_ok_iff.mp h
  obtain ⟨layout', d₂, hlayout, hmore⟩ := Outcome.bind_eq_ok_iff.mp hmore
  obtain ⟨pipeline', d₃, hpipeline, hpure⟩ := Outcome.bind_eq_ok_iff.mp hmore
  simp only [Outcome.pure_eq, Prod.mk.injEq, Except.ok.injEq] at hpure
  obtain ⟨⟨rfl, rfl, rfl⟩, rfl⟩ := hpure
  have hgrows := (Device.makes_createPipelineLayout _ _).grows.of_outcome_eq hlayout
  have hgrows' := (Device.makes_createPipeline _ _ _ _).grows.of_outcome_eq hpipeline
  refine ⟨?_, ?_, ?_⟩
  · exact hgrows'.maker_eq (hgrows.maker_eq ((Device.makes_createShader _ _).maker hshader))
  · exact hgrows'.maker_eq ((Device.makes_createPipelineLayout _ _).maker hlayout)
  · exact (Device.makes_createPipeline _ _ _ _).maker hpipeline

/-- The steps of compiling under a layout that is one for the inputs. -/
theorem outcome_compile_of_eq {layout : Layout} {signature : Signature}
    (h : layout.signature = signature) (sourceText entryPoint : String) (r : Rig) :
    outcome (compile sourceText entryPoint layout signature) r = outcome (do
      let (shader, pipelineLayout, pipeline) ← (onDevice
        (buildPipeline r.label sourceText entryPoint layout.handles)).adapt (rejection r.label)
      report (.pipelineBuilt r.label entryPoint)
      return { shader, layout, pipelineLayout, pipeline, entryPoint, sourceText }) r := by
  unfold compile
  rw [if_neg (not_not_intro h)]
  rfl

/-- Compiling a text keeps what building a pipeline from it and reporting that keep. -/
theorem keeps_compile {R : Rig → Rig → Prop} [IsPreorder Rig R] {sourceText entryPoint : String}
    (hpipeline : ∀ label layouts,
      Keeps R (onDevice (buildPipeline label sourceText entryPoint layouts)))
    (hreport : ∀ e, Keeps R (report e)) (layout : Layout) (signature : Signature) :
    Keeps R (compile sourceText entryPoint layout signature) := by
  unfold compile
  by_cases h : layout.signature ≠ signature
  · rw [if_pos h]
    exact fun r => refl_of R r
  · rw [if_neg h]
    refine Keeps.get.bind fun r => ?_
    exact (Keeps.adapt _ (hpipeline _ _)).bind fun _ => (hreport _).bind fun _ => Keeps.pure _

theorem continues_compile (sourceText entryPoint : String) (layout : Layout)
    (signature : Signature) :
    Keeps Continues (compile sourceText entryPoint layout signature) :=
  keeps_compile (fun _ _ => continues_onDevice (conversation_buildPipeline _ _ _ _).grows)
    continues_report layout signature

/-- An artifact that has been compiled is one for the inputs, the text and the entry point, and the
device has its parts. -/
theorem compile_eq_ok {sourceText entryPoint : String} {layout : Layout} {signature : Signature}
    {r r' : Rig} {a : Artifact}
    (h : outcome (compile sourceText entryPoint layout signature) r = (.ok a, r')) :
    layout.signature = signature ∧ a.layout = layout ∧ a.entryPoint = entryPoint ∧
      a.sourceText = sourceText ∧ r'.Built a := by
  by_cases hfits : layout.signature = signature
  · rw [outcome_compile_of_eq hfits] at h
    obtain ⟨⟨shader, pipelineLayout, pipeline⟩, r₁, hbuild, hmore⟩ := Outcome.bind_eq_ok_iff.mp h
    obtain ⟨_, r₂, hreport, hpure⟩ := Outcome.bind_eq_ok_iff.mp hmore
    obtain ⟨d, d', hd, hmake, rfl⟩ := onDevice_eq_ok (Outcome.adapt_eq_ok_iff.mp hbuild)
    obtain ⟨hshader, hlayout, hpipeline⟩ := buildPipeline_eq_ok hmake
    rw [Outcome.pure_eq, Prod.mk.injEq, Except.ok.injEq] at hpure
    have hcontinues := (continues_report _).of_outcome_eq hreport
    rw [← hpure.1, ← hpure.2]
    refine ⟨hfits, rfl, rfl, rfl, Built.continues ?_ hcontinues⟩
    exact ⟨⟨d', rfl, hshader⟩, ⟨d', rfl, hlayout⟩, ⟨d', rfl, hpipeline⟩⟩
  · unfold compile at h
    rw [if_pos hfits] at h
    exact nomatch h

theorem adds_buildPipeline (label sourceText entryPoint : String) (layouts : List (Ref .layout)) :
    Adds Device.trace Call.passStep? (buildPipeline label sourceText entryPoint layouts) [] :=
  (Device.makes_createShader _ _).adds.silent_bind fun shader =>
    (Device.makes_createPipelineLayout _ _).adds.silent_bind fun layout =>
      (Device.makes_createPipeline _ layout shader _).adds.silent_bind fun _ => Adds.pure _

theorem adds_compile (sourceText entryPoint : String) (layout : Layout) (signature : Signature) :
    Adds trace Call.passStep? (compile sourceText entryPoint layout signature) [] := by
  intro r a r' h
  have hfits : layout.signature = signature := (compile_eq_ok h).1
  rw [outcome_compile_of_eq hfits] at h
  refine Adds.silent_bind ?_ (fun _ => ?_) r a r' h
  · exact (adds_onDevice (adds_buildPipeline _ _ _ _)).adapt _
  · exact (adds_report _).silent_bind fun _ => Adds.pure _

theorem kind_of_compile {sourceText entryPoint : String} {layout : Layout} {signature : Signature}
    {r r' : Rig} {fault : Fault} (hfits : layout.signature = signature)
    (h : outcome (compile sourceText entryPoint layout signature) r = (.error fault, r')) :
    fault.kind ≠ .layoutMismatch := by
  rw [outcome_compile_of_eq hfits] at h
  refine FailsWith.bind (P := fun fault => fault.kind ≠ .layoutMismatch) ?_ (fun _ => ?_) r fault r' h
  · refine (kind_of_onDevice (conversation_buildPipeline _ _ _ _)).adapt ?_
    intro fault hkind
    unfold rejection
    split
    · exact FaultKind.noConfusion
    · exact FaultKind.noConfusion
    · exact hkind
  · exact FailsWith.of_ok (f := fun r => (_, _)) fun _ => rfl

/-! ## Dispatches -/

theorem conversation_encodePass (label : String) (encoder : Ref .encoder)
    (pipeline : Ref .pipeline) (groups : List (Ref .group)) (counts : List Nat) :
    Device.Conversation (encodePass label encoder pipeline groups counts) := by
  refine (Device.makes_beginPass _ _).toConversation.bind fun pass => ?_
  refine (Device.speaks_setPipeline pass _).toConversation.bind fun _ => ?_
  refine Device.Conversation.bind (Device.Conversation.forM ?_ _) fun _ => ?_
  · rintro ⟨group, index⟩
    exact (Device.speaks_setGroup pass index group).toConversation
  · exact (Device.speaks_dispatch pass _).toConversation.bind fun _ =>
      (Device.speaks_endPass pass).toConversation

/-- The steps of a compute pass: the pipeline, every bind group at its place, the counts. -/
def passSteps (pipeline : Ref .pipeline) (groups : List (Ref .group)) (counts : List Nat) :
    List PassStep :=
  [.pipeline pipeline] ++
    (groups.zipIdx.map (fun place => .group place.2 place.1) ++ [.dispatch counts])

theorem adds_encodePass (label : String) (encoder : Ref .encoder) (pipeline : Ref .pipeline)
    (groups : List (Ref .group)) (counts : List Nat) :
    Adds Device.trace Call.passStep? (encodePass label encoder pipeline groups counts)
      (passSteps pipeline groups counts) := by
  refine (Device.makes_beginPass _ _).adds.silent_bind fun pass => ?_
  refine (Device.speaks_setPipeline pass _).adds.bind fun _ => ?_
  refine Adds.bind (Adds.forM ?_ _) fun _ => ?_
  · rintro ⟨group, index⟩
    exact (Device.speaks_setGroup pass index group).adds
  · exact (Device.speaks_dispatch pass _).adds.bind_silent fun _ => (Device.speaks_endPass pass).adds

/-- Nothing is seen of a compute pass in a view that does not show its calls. -/
theorem shows_encodePass {view : Call → Option β} {P : β → Prop}
    (hview : ∀ call : Call, call.inPass = true → view call = none) (label : String)
    (encoder : Ref .encoder) (pipeline : Ref .pipeline) (groups : List (Ref .group))
    (counts : List Nat) :
    Keeps (Shows Device.trace view P) (encodePass label encoder pipeline groups counts) := by
  refine ((Device.makes_beginPass _ _).shows_of_none (hview _ rfl)).bind fun pass => ?_
  refine ((Device.speaks_setPipeline pass _).shows_of_none (hview _ rfl)).bind fun _ => ?_
  refine (Keeps.forM ?_ _).bind fun _ => ?_
  · rintro ⟨group, index⟩
    exact (Device.speaks_setGroup pass index group).shows_of_none (hview _ rfl)
  · exact ((Device.speaks_dispatch pass _).shows_of_none (hview _ rfl)).bind fun _ =>
      (Device.speaks_endPass pass).shows_of_none (hview _ rfl)

theorem keeps_encodeCopy {R : Rig → Rig → Prop} [IsPreorder Rig R]
    (h : ∀ encoder source target size, Keeps R (onDevice (Device.copy encoder source target size)))
    (encoder : Ref .encoder) (o : Output) : Keeps R (encodeCopy encoder o) :=
  Keeps.get.bind fun _ => (Keeps.liftExcept _).bind fun _ => h _ _ _ _

theorem continues_encodeCopy (encoder : Ref .encoder) (o : Output) :
    Keeps Continues (encodeCopy encoder o) :=
  keeps_encodeCopy (fun _ _ _ _ => continues_onDevice (Device.speaks_copy _ _ _ _).grows) encoder o

theorem adds_encodeCopy (encoder : Ref .encoder) (o : Output) :
    Adds trace Call.passStep? (encodeCopy encoder o) [] :=
  Adds.get.bind fun _ => (Adds.liftExcept _).bind fun _ =>
    adds_onDevice (Device.speaks_copy _ _ _ _).adds

/-- A dispatch keeps what its calls to the device keep, and what writing down that it was done keeps. -/
theorem keeps_execute {R : Rig → Rig → Prop} [IsPreorder Rig R]
    (hencoder : ∀ label, Keeps R (onDevice (Device.createEncoder label)))
    (hpass : ∀ label encoder pipeline groups counts,
      Keeps R (onDevice (encodePass label encoder pipeline groups counts)))
    (hcopy : ∀ encoder source target size,
      Keeps R (onDevice (Device.copy encoder source target size)))
    (hfinish : ∀ encoder, Keeps R (onDevice (Device.finish encoder)))
    (hsubmit : ∀ commands, Keeps R (onDevice (Device.submit commands)))
    (hdone : Keeps R (modify fun r => { r with submitted := true } : RigM PUnit))
    (hreport : ∀ e, Keeps R (report e)) (artifact : Artifact) (groups : List (Ref .group))
    (counts : Value) : Keeps R (execute artifact groups counts) := by
  refine (Keeps.liftExcept _).bind fun counts => Keeps.get.bind fun r => ?_
  refine (hencoder _).bind fun encoder => (hpass _ _ _ _ _).bind fun _ => ?_
  refine (Keeps.forM (keeps_encodeCopy hcopy encoder) _).bind fun _ => ?_
  exact (hfinish _).bind fun commands => (hsubmit _).bind fun _ => hdone.bind fun _ => hreport _

theorem continues_execute (artifact : Artifact) (groups : List (Ref .group)) (counts : Value) :
    Keeps Continues (execute artifact groups counts) :=
  keeps_execute (fun _ => continues_onDevice (Device.makes_createEncoder _).grows)
    (fun _ _ _ _ _ => continues_onDevice (conversation_encodePass _ _ _ _ _).grows)
    (fun _ _ _ _ => continues_onDevice (Device.speaks_copy _ _ _ _).grows)
    (fun _ => continues_onDevice (Device.makes_finish _).grows)
    (fun _ => continues_onDevice (Device.speaks_submit _).grows)
    (continues_modify (fun _ => rfl) (fun _ => rfl) (fun _ => rfl) (fun _ => rfl) fun _ => rfl)
    continues_report artifact groups counts

/-- **A dispatch on record.** The counts were in order, and among the calls of the dispatch those of a
compute pass set its pipeline, its bind groups at their places, and the counts. -/
theorem execute_eq_ok {artifact : Artifact} {groups : List (Ref .group)} {counts : Value}
    {r r' : Rig} {u : Unit} (h : outcome (execute artifact groups counts) r = (.ok u, r')) :
    ∃ ns calls, Workgroup.counts counts = .ok ns ∧ r'.trace = r.trace ++ calls ∧
      calls.filterMap Call.passStep? = passSteps artifact.pipeline groups ns := by
  unfold execute at h
  rw [Outcome.liftExcept_bind] at h
  cases hcounts : Workgroup.counts counts with
  | error fault =>
    rw [hcounts] at h
    exact nomatch h
  | ok ns =>
    rw [hcounts] at h
    refine ⟨ns, ?_⟩
    suffices hadds : Adds trace Call.passStep? _ (passSteps artifact.pipeline groups ns) by
      obtain ⟨calls, hcalls, hseen⟩ := hadds r u r' h
      exact ⟨calls, rfl, hcalls, hseen⟩
    refine Adds.get.silent_bind fun r => ?_
    refine (adds_onDevice (Device.makes_createEncoder _).adds).silent_bind fun encoder => ?_
    refine (adds_onDevice (adds_encodePass _ _ _ _ _)).bind_silent fun _ => ?_
    refine (Adds.forM_silent (adds_encodeCopy encoder) _).silent_bind fun _ => ?_
    refine (adds_onDevice (Device.makes_finish _).adds).silent_bind fun commands => ?_
    refine (adds_onDevice (Device.speaks_submit _).adds).silent_bind fun _ => ?_
    exact Adds.bind (Adds.silent fun _ => rfl) fun _ => adds_report _

/-! ## Reading back -/

section Reading

variable {R : Rig → Rig → Prop} [IsPreorder Rig R]
  (hmap : ∀ waiting buffer, Keeps R (onDevice (Device.map waiting buffer)))
  (hread : ∀ buffer, Keeps R (onDevice (Device.readMapped buffer)))
  (hunmap : ∀ buffer, Keeps R (onDevice (Device.unmap buffer)))

include hmap hread hunmap

/-- Reading an output keeps what mapping, reading and unmapping a buffer keep. -/
theorem keeps_readOutput (waiting : Waiting) (o : Output) : Keeps R (readOutput waiting o) := by
  have hmapped : ∀ buffer, Keeps R (readMapped buffer) := by
    intro buffer
    refine (hread buffer).bind fun bytes => ?_
    by_cases h : bytes.length % 4 ≠ 0
    · rw [if_pos h]
      exact fun r => refl_of R r
    · rw [if_neg h]
      exact fun r => refl_of R r
  unfold readOutput
  cases o.buffer with
  | none => exact Keeps.throw _
  | some buffer =>
    refine (hmap _ _).bind fun _ => (Keeps.observing (hmapped buffer)).bind fun outcome => ?_
    exact (hunmap _).bind fun _ => (Keeps.liftExcept _).bind fun _ => Keeps.pure _

theorem keeps_readBack (waiting : Waiting) : Keeps R (readBack waiting) := by
  refine Keeps.get.bind fun r => ?_
  by_cases h : (!r.submitted) = true
  · rw [if_pos h]
    exact fun r => refl_of R r
  · rw [if_neg h]
    exact (Keeps.mapM (keeps_readOutput hmap hread hunmap waiting) _).bind fun _ => Keeps.pure _

end Reading

theorem continues_readBack (waiting : Waiting) : Keeps Continues (readBack waiting) :=
  keeps_readBack (fun _ _ => continues_onDevice (Device.speaks_map _ _).grows)
    (fun _ => continues_onDevice (Device.speaks_readMapped _).grows)
    (fun _ => continues_onDevice (Device.speaks_unmap _).grows) waiting

/-! ## All work on a rig -/

/-- The relation is kept by everything that building does with a rig. -/
structure KeptByBuilding (R : Rig → Rig → Prop) : Prop where
  report : ∀ e, Keeps R (report e)
  buildLayout : Keeps R buildLayout
  compile : ∀ sourceText entryPoint layout signature,
    Keeps R (compile sourceText entryPoint layout signature)
  buildGroups : ∀ layout, Keeps R (buildGroups layout)

/-- The relation is kept by everything that building, dispatching and reading back do with a rig. -/
structure KeptAtWork (R : Rig → Rig → Prop) : Prop extends KeptByBuilding R where
  execute : ∀ artifact groups counts, Keeps R (execute artifact groups counts)
  readBack : ∀ waiting, Keeps R (readBack waiting)

theorem continues_atWork : KeptAtWork Continues :=
  ⟨⟨continues_report, continues_buildLayout, continues_compile, continues_buildGroups⟩,
    continues_execute, continues_readBack⟩

end Rig

end KernelShader
