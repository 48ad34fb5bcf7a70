/-
`Dispatch.lean` -- what a dispatch runs.

A dispatch first collects commands and then submits them. Up to the submission nothing that was there
before has changed (`Still`), and the list that is submitted is one compute pass with the bind groups it
was given, followed by one copy for every output. So a dispatch that fails has run nothing, and one that
succeeds has run just that list (`Dispatched`).

Building and reading back run nothing either. For all work between registrations it follows that whatever
has been run has copied into the buffers of the outputs and of no others (`Serves`).
-/
import KernelShader.Proofs.Device.Commands
import KernelShader.Proofs.Device.Memory
import KernelShader.Proofs.Rig.Calls

set_option autoImplicit false

namespace KernelShader.Rig

variable {α : Type}

/-! ## Rigs on which nothing is run -/

/-- Nothing has been run on the device since. -/
structure Idle (r r' : Rig) : Prop where
  submitted : r'.submitted = r.submitted
  gone : r.device = none → r'.device = none
  device : ∀ {d}, r.device = some d → ∃ d', r'.device = some d' ∧ Device.Idle d d'

instance : IsPreorder Rig Idle where
  refl r := ⟨rfl, id, fun {d} hd => ⟨d, hd, refl_of Device.Idle d⟩⟩
  trans r r₁ r₂ h h' := by
    refine ⟨h'.submitted.trans h.submitted, fun hnone => h'.gone (h.gone hnone), ?_⟩
    intro d hd
    obtain ⟨d₁, hd₁, hidle⟩ := h.device hd
    obtain ⟨d₂, hd₂, hidle'⟩ := h'.device hd₁
    exact ⟨d₂, hd₂, trans_of Device.Idle hidle hidle'⟩

/-- The buffers are the same and hold what they held. -/
structure Still (r r' : Rig) : Prop extends Continues r r' where
  submitted : r'.submitted = r.submitted
  still : ∀ {d d'}, r.device = some d → r'.device = some d' → Device.Still d d'

instance : IsPreorder Rig Still where
  refl r := by
    refine ⟨refl_of Continues r, rfl, ?_⟩
    intro d d' hd hd'
    rw [hd, Option.some.injEq] at hd'
    exact hd' ▸ refl_of Device.Still d
  trans r r₁ r₂ h h' := by
    refine ⟨trans_of Continues h.toContinues h'.toContinues, h'.submitted.trans h.submitted, ?_⟩
    intro d d₂ hd hd₂
    obtain ⟨d₁, hd₁, -⟩ := h.device hd
    exact trans_of Device.Still (h.still hd hd₁) (h'.still hd₁ hd₂)

theorem Still.idle {r r' : Rig} (h : Still r r') : Idle r r' := by
  refine ⟨h.submitted, h.gone, ?_⟩
  intro d hd
  obtain ⟨d', hd', -⟩ := h.device hd
  exact ⟨d', hd', (h.still hd hd').toIdle⟩

theorem still_onDevice {m : DeviceM α} (hm : Keeps Device.Still m) : Keeps Still (onDevice m) := by
  intro r
  have hconsults := consults_onDevice (fun d => (hm d).toExtends) r
  refine ⟨hconsults.toContinues, ?_, ?_⟩
  · rw [hconsults.rest]
  · intro d d' hd hd'
    rw [outcome_onDevice_of_some hd, Option.some.injEq] at hd'
    rw [← hd']
    exact hm d

/-- Work that does not reach the device. -/
theorem still_modify {f : Rig → Rig} (hcontinues : Keeps Continues (modify f : RigM PUnit))
    (hdevice : ∀ r, (f r).device = r.device) (hsubmitted : ∀ r, (f r).submitted = r.submitted) :
    Keeps Still (modify f : RigM PUnit) := by
  intro r
  refine ⟨hcontinues r, hsubmitted r, ?_⟩
  intro d d' hd hd'
  have hsame : some d' = some d := hd'.symm.trans ((hdevice r).trans hd)
  rw [Option.some.inj hsame]
  exact refl_of Device.Still d

theorem still_report (e : Event) : Keeps Still (report e) :=
  still_modify (continues_report e) (fun _ => rfl) fun _ => rfl

theorem still_buildPipeline (label sourceText entryPoint : String) (layouts : List (Ref .layout)) :
    Keeps Device.Still (buildPipeline label sourceText entryPoint layouts) :=
  (Device.still_createShader _ _).bind fun _ => (Device.still_createPipelineLayout _ _).bind fun _ =>
    (Device.still_createPipeline _ _ _ _).bind fun _ => Keeps.pure _

/-- Building runs nothing. -/
theorem still_building : KeptByBuilding Still where
  report := still_report
  buildLayout := keeps_buildLayout fun _ _ => still_onDevice (Device.still_createLayout _ _)
  compile := fun _ _ => keeps_compile (fun _ _ => still_onDevice (still_buildPipeline _ _ _ _))
    still_report
  buildGroups := keeps_buildGroups fun _ _ _ => still_onDevice (Device.still_createGroup _ _ _)

theorem still_readBack (waiting : Waiting) : Keeps Still (readBack waiting) :=
  keeps_readBack (fun _ _ => still_onDevice (Device.still_map _ _))
    (fun _ => still_onDevice (Device.still_readMapped _))
    (fun _ => still_onDevice (Device.still_unmap _)) waiting

/-! ## Encoding a dispatch -/

theorem still_encodePass (label : String) (encoder : Ref .encoder) (pipeline : Ref .pipeline)
    (groups : List (Ref .group)) (counts : List Nat) :
    Keeps Device.Still (encodePass label encoder pipeline groups counts) := by
  refine (Device.still_beginPass _ _).bind fun pass => ?_
  refine (Device.still_setPipeline pass _).bind fun _ => (Keeps.forM ?_ _).bind fun _ => ?_
  · rintro ⟨group, index⟩
    exact Device.still_setGroup pass index group
  · exact (Device.still_dispatch pass _).bind fun _ => Device.still_endPass pass

/-- The bind groups that are set one after the other are those of the pass. -/
theorem setGroups_eq_ok {pass : Ref .pass} (places : List (Ref .group × Nat)) {d d' : Device} {u : Unit}
    (h : outcome (places.forM fun place => Device.setGroup pass place.2 place.1) d = (.ok u, d'))
    {p : ComputePass} (hp : d.Drafted pass p) :
    d'.Drafted pass { p with groups := p.groups ++ places.map Prod.fst } ∧
      d'.encoders = d.encoders := by
  induction places generalizing d p with
  | nil =>
    rw [Outcome.forM_nil, Prod.mk.injEq] at h
    rw [← h.2, List.map_nil, List.append_nil]
    exact ⟨hp, rfl⟩
  | cons place rest ih =>
    rw [Outcome.forM_cons] at h
    obtain ⟨_, d₁, hfirst, hmore⟩ := Outcome.bind_eq_ok_iff.mp h
    obtain ⟨hp₁, hencoders₁⟩ := Device.setGroup_eq_ok hfirst hp
    obtain ⟨hp', hencoders'⟩ := ih hmore hp₁
    rw [List.append_assoc, List.singleton_append] at hp'
    exact ⟨hp', hencoders'.trans hencoders₁⟩

/-- An encoded compute pass is one command, with the bind groups and the counts it was given. -/
theorem encodePass_eq_ok {label : String} {encoder : Ref .encoder} {pipeline : Ref .pipeline}
    {groups : List (Ref .group)} {counts : List Nat} {d d' : Device} {u : Unit}
    (h : outcome (encodePass label encoder pipeline groups counts) d = (.ok u, d'))
    {commands : List Command} (hencoded : d.Encoded encoder commands) :
    d'.Encoded encoder (commands ++ [.compute groups counts]) := by
  unfold encodePass at h
  obtain ⟨pass, d₁, hbegin, h⟩ := Outcome.bind_eq_ok_iff.mp h
  obtain ⟨_, d₂, hpipeline, h⟩ := Outcome.bind_eq_ok_iff.mp h
  obtain ⟨_, d₃, hgroups, h⟩ := Outcome.bind_eq_ok_iff.mp h
  obtain ⟨_, d₄, hdispatch, hend⟩ := Outcome.bind_eq_ok_iff.mp h
  obtain ⟨hp₁, hencoders₁⟩ := Device.beginPass_eq_ok hbegin
  obtain ⟨hpasses₂, hencoders₂⟩ := Device.setPipeline_eq_ok hpipeline
  have hp₂ : d₂.Drafted pass { encoder } := by
    rw [Device.Drafted, hpasses₂]
    exact hp₁
  obtain ⟨hp₃, hencoders₃⟩ := setGroups_eq_ok groups.zipIdx hgroups hp₂
  obtain ⟨hp₄, hencoders₄⟩ := Device.dispatch_eq_ok hdispatch hp₃
  -- until the pass is ended, the encoder holds what it held before
  have hencoded₄ : d₄.Encoded encoder commands := by
    rw [Device.Encoded, hencoders₄, hencoders₃, hencoders₂, hencoders₁]
    exact hencoded
  have hended := Device.endPass_eq_ok hend hp₄ hencoded₄
  rw [List.zipIdx_map_fst] at hended
  exact hended

/-- The copy from the input of an output. -/
def copyOf (r : Rig) (o : Output) : Command :=
  match r.inputs.get? o.link with
  | some i => .copy i.buffer o.buffer i.size
  | none => .copy none o.buffer 0

theorem target?_copyOf (r : Rig) (o : Output) : (r.copyOf o).target? = o.buffer := by
  unfold copyOf
  cases r.inputs.get? o.link with
  | some i => rfl
  | none => rfl

theorem Continues.copyOf_eq {r r' : Rig} (h : Continues r r') : r'.copyOf = r.copyOf := by
  funext o
  rw [copyOf, h.inputs, copyOf]

theorem still_encodeCopy (encoder : Ref .encoder) (o : Output) : Keeps Still (encodeCopy encoder o) :=
  Keeps.get.bind fun _ => (Keeps.liftExcept _).bind fun _ => still_onDevice (Device.still_copy _ _ _ _)

theorem encodeCopy_eq_ok {encoder : Ref .encoder} {o : Output} {r r' : Rig} {u : Unit}
    (h : outcome (encodeCopy encoder o) r = (.ok u, r')) {d : Device} (hd : r.device = some d)
    {commands : List Command} (hencoded : d.Encoded encoder commands) :
    ∃ d', r'.device = some d' ∧ d'.Encoded encoder (commands ++ [r.copyOf o]) := by
  unfold encodeCopy at h
  rw [Outcome.get_bind, Outcome.liftExcept_bind] at h
  unfold input at h
  unfold copyOf
  cases hlink : r.inputs.get? o.link with
  | none =>
    rw [hlink] at h
    simp at h
  | some i =>
    rw [hlink] at h
    obtain ⟨d₀, d', hd₀, hcopy, rfl⟩ := onDevice_eq_ok h
    rw [hd, Option.some.injEq] at hd₀
    rw [← hd₀] at hcopy
    exact ⟨d', rfl, Device.copy_eq_ok hcopy hencoded⟩

/-- The copies are encoded in the order of the outputs. -/
theorem encodeCopies_eq_ok {encoder : Ref .encoder} (outputs : List Output) {r r₁ r' : Rig} {u : Unit}
    (h : outcome (outputs.forM (encodeCopy encoder)) r₁ = (.ok u, r'))
    (hinputs : r₁.inputs = r.inputs) {d : Device} (hd : r₁.device = some d) {commands : List Command}
    (hencoded : d.Encoded encoder commands) :
    ∃ d', r'.device = some d' ∧ d'.Encoded encoder (commands ++ outputs.map r.copyOf) := by
  induction outputs generalizing r₁ d commands with
  | nil =>
    rw [Outcome.forM_nil, Prod.mk.injEq] at h
    rw [← h.2, List.map_nil, List.append_nil]
    exact ⟨d, hd, hencoded⟩
  | cons o rest ih =>
    rw [Outcome.forM_cons] at h
    obtain ⟨_, r₂, hfirst, hmore⟩ := Outcome.bind_eq_ok_iff.mp h
    obtain ⟨d₂, hd₂, hencoded₂⟩ := encodeCopy_eq_ok hfirst hd hencoded
    have hstep : Still r₁ r₂ := (still_encodeCopy encoder o).of_outcome_eq hfirst
    obtain ⟨d', hd', hencoded'⟩ := ih hmore (hstep.inputs.trans hinputs) hd₂ hencoded₂
    have hcopy : r₁.copyOf o = r.copyOf o := by rw [copyOf, hinputs, copyOf]
    rw [hcopy, List.append_assoc, List.singleton_append] at hencoded'
    exact ⟨d', hd', hencoded'⟩

/-! ## A dispatch in two halves -/

/-- Collects the commands of a dispatch. -/
def draft (r : Rig) (artifact : Artifact) (groups : List (Ref .group)) (counts : List Nat) :
    RigM (Ref .commands) := do
  let encoder ← onDevice (Device.createEncoder s!"{r.label} encoder")
  onDevice (encodePass r.label encoder artifact.pipeline groups counts)
  r.outputs.values.forM (encodeCopy encoder)
  onDevice (Device.finish encoder)

/-- Submits the commands of a dispatch. -/
def launch (artifact : Artifact) (counts : List Nat) (list : Ref .commands) : RigM Unit := do
  onDevice (Device.submit list)
  modify fun r => { r with submitted := true }
  report (.dispatched artifact.entryPoint counts)

theorem execute_eq (artifact : Artifact) (groups : List (Ref .group)) (counts : Value) :
    execute artifact groups counts = (do
      let counts ← liftExcept (Workgroup.counts counts)
      let r ← get
      draft r artifact groups counts >>= launch artifact counts) := by
  unfold execute draft launch
  simp only [bind_assoc]

theorem still_draft (r : Rig) (artifact : Artifact) (groups : List (Ref .group)) (counts : List Nat) :
    Keeps Still (draft r artifact groups counts) := by
  refine (still_onDevice (Device.still_createEncoder _)).bind fun encoder => ?_
  refine (still_onDevice (still_encodePass _ _ _ _ _)).bind fun _ => ?_
  exact (Keeps.forM (still_encodeCopy encoder) _).bind fun _ => still_onDevice (Device.still_finish _)

/-- **What has been collected.** The compute pass comes first, then a copy for every output. -/
theorem draft_eq_ok {artifact : Artifact} {groups : List (Ref .group)} {counts : List Nat} {r r' : Rig}
    {list : Ref .commands} (h : outcome (draft r artifact groups counts) r = (.ok list, r')) :
    ∃ d', r'.device = some d' ∧
      d'.commands[list.index]? = some (.compute groups counts :: r.outputs.values.map r.copyOf) := by
  unfold draft at h
  obtain ⟨encoder, r₁, hencoder, h⟩ := Outcome.bind_eq_ok_iff.mp h
  obtain ⟨_, r₂, hpass, h⟩ := Outcome.bind_eq_ok_iff.mp h
  obtain ⟨_, r₃, hcopies, hfinish⟩ := Outcome.bind_eq_ok_iff.mp h
  obtain ⟨d, d₁, hd, hcall₁, rfl⟩ := onDevice_eq_ok hencoder
  obtain ⟨_, d₂, hd₁, hcall₂, rfl⟩ := onDevice_eq_ok hpass
  obtain rfl : d₁ = _ := Option.some.inj hd₁
  have hencoded := encodePass_eq_ok hcall₂ (Device.createEncoder_eq_ok hcall₁)
  obtain ⟨d₃, hd₃, hencoded₃⟩ := encodeCopies_eq_ok (r := r) _ hcopies rfl rfl hencoded
  obtain ⟨_, d₄, hd₄, hcall₄, rfl⟩ := onDevice_eq_ok hfinish
  rw [hd₃, Option.some.injEq] at hd₄
  rw [← hd₄] at hcall₄
  exact ⟨d₄, rfl, Device.finish_eq_ok hcall₄ hencoded₃⟩

/-- From the one rig to the other, one list of commands has been run: a compute pass with the bind groups
and the counts, and a copy for every output. -/
structure Dispatched (groups : List (Ref .group)) (counts : List Nat) (r r' : Rig) : Prop
    extends Continues r r' where
  submitted : r'.submitted = true
  ran : ∃ d d₁ list, r.device = some d ∧ Device.Still d d₁ ∧
    d₁.commands[list.index]? = some (.compute groups counts :: r.outputs.values.map r.copyOf) ∧
    r'.device = some (d₁.ran list) ∧ Device.Extends d₁ (d₁.ran list) ∧
    d₁.submittedSince (d₁.ran list) = [list]

/-- What a dispatch makes of memory. The kernel and the bind groups are those that were there before. -/
theorem Dispatched.memory_eq {groups : List (Ref .group)} {counts : List Nat} {r r' : Rig}
    (h : Dispatched groups counts r r') {d d' : Device} (hd : r.device = some d)
    (hd' : r'.device = some d') :
    ∃ d₁, Device.Still d d₁ ∧ d'.memory
      = (.compute groups counts :: r.outputs.values.map r.copyOf).foldl d₁.runCommand d.memory := by
  obtain ⟨d₀, d₁, list, hd₀, hstill, hlist, hran, -⟩ := h.ran
  rw [hd, Option.some.injEq] at hd₀
  rw [hd', Option.some.injEq] at hran
  refine ⟨d₁, hd₀ ▸ hstill, ?_⟩
  rw [hran, Device.ran, List.getD_eq_getElem?_getD, hlist, hd₀, hstill.unchanged]
  rfl

/-- **What a dispatch does.** It fails and nothing has been run, or its commands have been run. -/
theorem execute_cases (artifact : Artifact) (groups : List (Ref .group)) (counts : Value) (r : Rig) :
    (∃ fault r', outcome (execute artifact groups counts) r = (.error fault, r') ∧ Still r r') ∨
    (∃ ns r', outcome (execute artifact groups counts) r = (.ok (), r') ∧
      Workgroup.counts counts = .ok ns ∧ Dispatched groups ns r r') := by
  have hcontinues := continues_execute artifact groups counts r
  rw [execute_eq, Outcome.liftExcept_bind] at hcontinues ⊢
  cases hcounts : Workgroup.counts counts with
  | error fault => exact Or.inl ⟨fault, r, rfl, refl_of Still r⟩
  | ok ns =>
    simp only [hcounts, Outcome.get_bind] at hcontinues ⊢
    rcases hx : outcome (draft r artifact groups ns) r with ⟨x, r₁⟩
    have hdraft : Still r r₁ := (still_draft r artifact groups ns).of_outcome_eq hx
    cases x with
    | error fault =>
      rw [Outcome.bind_of_error hx]
      exact Or.inl ⟨fault, r₁, rfl, hdraft⟩
    | ok list =>
      obtain ⟨d₁, hd₁, hlist⟩ := draft_eq_ok hx
      obtain ⟨d, hd⟩ : ∃ d, r.device = some d := by
        cases hdevice : r.device with
        | some d => exact ⟨d, rfl⟩
        | none => simp [hdraft.gone hdevice] at hd₁
      rw [Outcome.bind_of_ok hx] at hcontinues ⊢
      unfold launch at hcontinues ⊢
      -- the two outcomes of the submission are the two outcomes of the dispatch
      rcases Device.submit_cases list d₁ with ⟨fault, d₂, hfail, hstill⟩ | ⟨hok, hextends, hsince⟩
      · have hsubmit : outcome (onDevice (Device.submit list)) r₁
            = (.error fault, { r₁ with device := some d₂ }) := by
          rw [outcome_onDevice_of_some hd₁, hfail]
        rw [Outcome.bind_of_error hsubmit]
        refine Or.inl ⟨fault, _, rfl, trans_of Still hdraft ?_⟩
        have hkept := consults_onDevice (Device.speaks_submit list).grows r₁
        rw [hsubmit] at hkept
        refine ⟨hkept.toContinues, rfl, ?_⟩
        intro d' d'' hd' hd''
        rw [hd₁, Option.some.injEq] at hd'
        rw [← hd', ← Option.some.inj hd'']
        exact hstill
      · have hsubmit : outcome (onDevice (Device.submit list)) r₁
            = (.ok (), { r₁ with device := some (d₁.ran list) }) := by
          rw [outcome_onDevice_of_some hd₁, hok]
        rw [Outcome.bind_of_ok hsubmit] at hcontinues ⊢
        exact Or.inr ⟨ns, _, rfl, rfl, hcontinues, rfl, d, d₁, list, hd, hdraft.still hd hd₁, hlist,
          rfl, hextends, hsince⟩

/-! ## Reading back -/

/-- The entry is what the buffer of the output holds. -/
def Reports (r : Rig) (o : Output) (entry : String × Reading) : Prop :=
  ∃ buffer d, o.buffer = some buffer ∧ r.device = some d ∧
    entry = (o.name, ⟨o.element, d.memory.getD buffer.index []⟩)

theorem Reports.still {r r' : Rig} {o : Output} {entry : String × Reading} (h : r.Reports o entry)
    (hstill : Still r r') : r'.Reports o entry := by
  obtain ⟨buffer, d, hbuffer, hd, hentry⟩ := h
  obtain ⟨d', hd', -⟩ := hstill.device hd
  refine ⟨buffer, d', hbuffer, hd', ?_⟩
  rw [hentry, (hstill.still hd hd').unchanged]

theorem Reports.of_still {r r' : Rig} {o : Output} {entry : String × Reading} (h : r'.Reports o entry)
    (hstill : Still r r') : r.Reports o entry := by
  obtain ⟨buffer, d', hbuffer, hd', hentry⟩ := h
  cases hd : r.device with
  | none => simp [hstill.gone hd] at hd'
  | some d =>
    refine ⟨buffer, d, hbuffer, hd, ?_⟩
    rw [hentry, (hstill.still hd hd').unchanged]

theorem still_readOutput (waiting : Waiting) (o : Output) : Keeps Still (readOutput waiting o) :=
  keeps_readOutput (fun _ _ => still_onDevice (Device.still_map _ _))
    (fun _ => still_onDevice (Device.still_readMapped _))
    (fun _ => still_onDevice (Device.still_unmap _)) waiting o

theorem readMapped_eq_ok {buffer : Ref .buffer} {r r' : Rig} {bytes : Bytes}
    (h : outcome (readMapped buffer) r = (.ok bytes, r')) :
    ∃ d, r.device = some d ∧ bytes = d.memory.getD buffer.index [] := by
  unfold readMapped at h
  obtain ⟨read, r₁, hread, h⟩ := Outcome.bind_eq_ok_iff.mp h
  obtain ⟨d, d₁, hd, hcall, -⟩ := onDevice_eq_ok hread
  by_cases hwhole : read.length % 4 ≠ 0
  · rw [if_pos hwhole] at h
    simp at h
  · rw [if_neg hwhole] at h
    have hbytes : read = bytes := Except.ok.inj (Prod.mk.inj h).1
    exact ⟨d, hd, hbytes ▸ Device.readMapped_eq_ok hcall⟩

theorem readOutput_eq_ok {waiting : Waiting} {o : Output} {r r' : Rig} {entry : String × Reading}
    (h : outcome (readOutput waiting o) r = (.ok entry, r')) : r'.Reports o entry := by
  refine Reports.still ?_ ((still_readOutput waiting o).of_outcome_eq h)
  unfold readOutput at h
  cases hbuffer : o.buffer with
  | none =>
    rw [hbuffer] at h
    simp at h
  | some buffer =>
    rw [hbuffer] at h
    obtain ⟨_, r₁, hmap, h⟩ := Outcome.bind_eq_ok_iff.mp h
    obtain ⟨x, r₂, hread, h⟩ := Outcome.bind_eq_ok_iff.mp h
    obtain ⟨_, r₃, -, h⟩ := Outcome.bind_eq_ok_iff.mp h
    rw [Outcome.liftExcept_bind] at h
    rw [Outcome.observing_eq, Prod.mk.injEq, Except.ok.injEq] at hread
    cases x with
    | error fault => simp at h
    | ok bytes =>
      have hentry : (o.name, (⟨o.element, bytes⟩ : Reading)) = entry :=
        Except.ok.inj (Prod.mk.inj h).1
      -- the buffer is read after it has been mapped, which does not change what it holds
      have hstill : Still r r₁ := (still_onDevice (Device.still_map waiting buffer)).of_outcome_eq hmap
      obtain ⟨d₁, hd₁, hbytes⟩ := readMapped_eq_ok (Prod.ext hread.1 rfl)
      obtain ⟨d, _, hd, -, -⟩ := onDevice_eq_ok hmap
      refine ⟨buffer, d, hbuffer, hd, ?_⟩
      rw [← hentry, hbytes, (hstill.still hd hd₁).unchanged]

/-- **What is read back.** Something has been dispatched, and there is an entry for every output, in
order, with what its buffer holds. -/
theorem readBack_eq_ok {waiting : Waiting} {r r' : Rig} {readings : NameTable Reading}
    (h : outcome (readBack waiting) r = (.ok readings, r')) :
    r.submitted = true ∧ ∃ entries, readings = .ofEntries entries ∧
      List.Forall₂ r'.Reports r.outputs.values entries := by
  unfold readBack at h
  rw [Outcome.get_bind] at h
  by_cases hsubmitted : (!r.submitted) = true
  · rw [if_pos hsubmitted] at h
    simp at h
  · rw [if_neg hsubmitted] at h
    obtain ⟨entries, r₁, hloop, hpure⟩ := Outcome.bind_eq_ok_iff.mp h
    obtain ⟨hreadings, rfl⟩ := Prod.mk.inj hpure
    refine ⟨by simpa using hsubmitted, entries, (Except.ok.inj hreadings).symm, ?_⟩
    refine Keeps.forall₂_of_mapM_eq_ok (P := fun o entry r => r.Reports o entry)
      (still_readOutput waiting) ?_ ?_ _ (refl_of Still r) hloop
    · intro o r₂ entry r₃ _ hread
      exact readOutput_eq_ok hread
    · intro o entry r₂ r₃ hstill hreports
      exact hreports.still hstill

/-! ## What has been run since -/

/-- The commands that the device has run since. -/
def submittedSince (r r' : Rig) : List (Ref .commands) :=
  match r.device, r'.device with
  | some d, some d' => d.submittedSince d'
  | _, _ => []

/-- The buffers that the device has copied into since. -/
def filledSince (r r' : Rig) : List (Ref .buffer) :=
  match r.device, r'.device with
  | some d, some d' => d.filledSince d'
  | _, _ => []

theorem submittedSince_of_some {r r' : Rig} {d d' : Device} (hd : r.device = some d)
    (hd' : r'.device = some d') : r.submittedSince r' = d.submittedSince d' := by
  rw [submittedSince, hd, hd']

theorem filledSince_of_some {r r' : Rig} {d d' : Device} (hd : r.device = some d)
    (hd' : r'.device = some d') : r.filledSince r' = d.filledSince d' := by
  rw [filledSince, hd, hd']

theorem submittedSince_of_none {r r' : Rig} (h : r.device = none) : r.submittedSince r' = [] := by
  rw [submittedSince, h]

theorem filledSince_of_none {r r' : Rig} (h : r.device = none) : r.filledSince r' = [] := by
  rw [filledSince, h]

/-- The device has gone on, and the flag says whether anything has been run. -/
structure Progresses (r r' : Rig) : Prop where
  gone : r.device = none → r'.device = none
  device : ∀ {d}, r.device = some d → ∃ d', r'.device = some d' ∧ Device.Progress d d'
  submitted : r'.submitted = (r.submitted || !(r.submittedSince r').isEmpty)

namespace Progresses

variable {r r₁ r₂ : Rig}

theorem submittedSince_trans (h : Progresses r r₁) (h' : Progresses r₁ r₂) :
    r.submittedSince r₂ = r.submittedSince r₁ ++ r₁.submittedSince r₂ := by
  cases hd : r.device with
  | none =>
    rw [submittedSince_of_none hd, submittedSince_of_none hd, submittedSince_of_none (h.gone hd),
      List.append_nil]
  | some d =>
    obtain ⟨d₁, hd₁, hprogress⟩ := h.device hd
    obtain ⟨d₂, hd₂, hprogress'⟩ := h'.device hd₁
    rw [submittedSince_of_some hd hd₂, submittedSince_of_some hd hd₁, submittedSince_of_some hd₁ hd₂]
    exact Device.submittedSince_trans hprogress.toExtends hprogress'.toExtends

theorem filledSince_trans (h : Progresses r r₁) (h' : Progresses r₁ r₂) :
    r.filledSince r₂ = r.filledSince r₁ ++ r₁.filledSince r₂ := by
  cases hd : r.device with
  | none =>
    rw [filledSince_of_none hd, filledSince_of_none hd, filledSince_of_none (h.gone hd),
      List.append_nil]
  | some d =>
    obtain ⟨d₁, hd₁, hprogress⟩ := h.device hd
    obtain ⟨d₂, hd₂, hprogress'⟩ := h'.device hd₁
    rw [filledSince_of_some hd hd₂, filledSince_of_some hd hd₁, filledSince_of_some hd₁ hd₂]
    exact Device.filledSince_trans hprogress hprogress'

end Progresses

theorem Idle.submittedSince_eq {r r' : Rig} (h : Idle r r') : r.submittedSince r' = [] := by
  cases hd : r.device with
  | none => exact submittedSince_of_none hd
  | some d =>
    obtain ⟨d', hd', hidle⟩ := h.device hd
    rw [submittedSince_of_some hd hd', hidle.unsubmitted]

theorem Idle.filledSince_eq {r r' : Rig} (h : Idle r r') : r.filledSince r' = [] := by
  cases hd : r.device with
  | none => exact filledSince_of_none hd
  | some d =>
    obtain ⟨d', hd', hidle⟩ := h.device hd
    rw [filledSince_of_some hd hd', hidle.filledSince_eq]

theorem Idle.progresses {r r' : Rig} (h : Idle r r') : Progresses r r' := by
  refine ⟨h.gone, ?_, ?_⟩
  · intro d hd
    obtain ⟨d', hd', hidle⟩ := h.device hd
    exact ⟨d', hd', hidle.progress⟩
  · rw [h.submittedSince_eq, h.submitted]
    simp

instance : IsPreorder Rig Progresses where
  refl r := (refl_of Idle r).progresses
  trans r r₁ r₂ h h' := by
    refine ⟨fun hnone => h'.gone (h.gone hnone), ?_, ?_⟩
    · intro d hd
      obtain ⟨d₁, hd₁, hprogress⟩ := h.device hd
      obtain ⟨d₂, hd₂, hprogress'⟩ := h'.device hd₁
      exact ⟨d₂, hd₂, trans_of Device.Progress hprogress hprogress'⟩
    · rw [h'.submitted, h.submitted, h.submittedSince_trans h']
      cases r.submittedSince r₁ with
      | nil => simp
      | cons list rest => simp

/-- Every output has room for what a dispatch copies into it. -/
def Roomy (r : Rig) : Prop :=
  ∀ {d}, r.device = some d → ∀ o ∈ r.outputs.values, (r.copyOf o).Fits d.memory.lengths

/-- The buffers are the same, and whatever has been run since has copied into those of the outputs, each
time into all of them and into no others. If nothing has been run, they hold what they held, and if there
is room for the copies, they are as long as they were. -/
structure Serves (r r' : Rig) : Prop extends Continues r r' where
  progresses : Progresses r r'
  filled : r.filledSince r'
    = (r.submittedSince r').flatMap fun _ => r.outputs.values.filterMap Output.buffer
  unchanged : r.submittedSince r' = [] → ∀ {d d'}, r.device = some d → r'.device = some d' →
    d'.memory = d.memory
  lengths : r.Roomy → ∀ {d d'}, r.device = some d → r'.device = some d' →
    d'.memory.lengths = d.memory.lengths

theorem Serves.roomy {r r' : Rig} (h : Serves r r') (hroomy : r.Roomy) : r'.Roomy := by
  intro d' hd' o ho
  cases hd : r.device with
  | none => simp [h.gone hd] at hd'
  | some d =>
    rw [h.outputs] at ho
    rw [h.copyOf_eq, h.lengths hroomy hd hd']
    exact hroomy hd o ho

instance : IsPreorder Rig Serves where
  refl r := by
    have hidle := refl_of Idle r
    have hsame : ∀ {d d'}, r.device = some d → r.device = some d' → d' = d := fun hd hd' =>
      Option.some.inj (hd'.symm.trans hd)
    refine ⟨refl_of Continues r, hidle.progresses, ?_, fun _ => ?_, fun _ => ?_⟩
    · rw [hidle.filledSince_eq, hidle.submittedSince_eq, List.flatMap_nil]
    · intro d d' hd hd'
      rw [hsame hd hd']
    · intro d d' hd hd'
      rw [hsame hd hd']
  trans r r₁ r₂ h h' := by
    refine ⟨trans_of Continues h.toContinues h'.toContinues,
      trans_of Progresses h.progresses h'.progresses, ?_, ?_, ?_⟩
    · rw [h.progresses.filledSince_trans h'.progresses, h.progresses.submittedSince_trans h'.progresses,
        h.filled, h'.filled, h.outputs, List.flatMap_append]
    · intro hnone d d₂ hd hd₂
      rw [h.progresses.submittedSince_trans h'.progresses, List.append_eq_nil_iff] at hnone
      obtain ⟨d₁, hd₁, -⟩ := h.device hd
      rw [h'.unchanged hnone.2 hd₁ hd₂, h.unchanged hnone.1 hd hd₁]
    · intro hroomy d d₂ hd hd₂
      obtain ⟨d₁, hd₁, -⟩ := h.device hd
      rw [h'.lengths (h.roomy hroomy) hd₁ hd₂, h.lengths hroomy hd hd₁]

theorem Still.serves {r r' : Rig} (h : Still r r') : Serves r r' := by
  refine ⟨h.toContinues, h.idle.progresses, ?_, fun _ => ?_, fun _ => ?_⟩
  · rw [h.idle.filledSince_eq, h.idle.submittedSince_eq, List.flatMap_nil]
  · intro d d' hd hd'
    exact (h.still hd hd').unchanged
  · intro d d' hd hd'
    rw [(h.still hd hd').unchanged]

/-- A dispatch runs one list of commands, which copies into the buffer of every output. -/
theorem Dispatched.submits {groups : List (Ref .group)} {counts : List Nat} {r r' : Rig}
    (h : Dispatched groups counts r r') :
    (∃ list, r.submittedSince r' = [list]) ∧ Progresses r r' ∧
      r.filledSince r' = r.outputs.values.filterMap Output.buffer := by
  obtain ⟨d, d₁, list, hd, hstill, hlist, hd', hextends, hsince⟩ := h.ran
  obtain ⟨hprogress, hfilled⟩ := Device.progress_ran hextends hsince hlist
  have hone : r.submittedSince r' = [list] := by
    rw [submittedSince_of_some hd hd', Device.submittedSince_trans hstill.toExtends hextends,
      hstill.unsubmitted, hsince, List.nil_append]
  refine ⟨⟨list, hone⟩, ⟨h.gone, ?_, ?_⟩, ?_⟩
  · intro d₀ hd₀
    rw [hd, Option.some.injEq] at hd₀
    exact ⟨_, hd', hd₀ ▸ trans_of Device.Progress hstill.progress hprogress⟩
  · rw [hone, h.submitted]
    simp
  · have htargets : (r.outputs.values.map r.copyOf).filterMap Command.target?
        = r.outputs.values.filterMap Output.buffer := by
      rw [List.filterMap_map]
      exact congrArg (List.filterMap · _) (funext r.target?_copyOf)
    rw [filledSince_of_some hd hd', Device.filledSince_trans hstill.progress hprogress,
      hstill.filledSince_eq, hfilled, List.nil_append, List.filterMap_cons_none rfl, htargets]

theorem Dispatched.serves {groups : List (Ref .group)} {counts : List Nat} {r r' : Rig}
    (h : Dispatched groups counts r r') : Serves r r' := by
  obtain ⟨⟨list, hone⟩, hprogress, hfilled⟩ := h.submits
  refine ⟨h.toContinues, hprogress, ?_, fun hnone => ?_, fun hroomy => ?_⟩
  · rw [hfilled, hone, List.flatMap_singleton]
  · simp [hone] at hnone
  · intro d d' hd hd'
    obtain ⟨d₁, -, hmemory⟩ := h.memory_eq hd hd'
    rw [hmemory]
    refine d₁.lengths_foldl_runCommand _ ?_
    intro command hcommand
    rcases List.mem_cons.mp hcommand with hpass | hcopy
    · rw [hpass]
      trivial
    · obtain ⟨o, ho, rfl⟩ := List.mem_map.mp hcopy
      exact hroomy hd o ho

/-- **Work between registrations.** -/
theorem serves_atWork : KeptAtWork Serves where
  report e r := (still_report e r).serves
  buildLayout r := (still_building.buildLayout r).serves
  compile sourceText entryPoint layout signature r :=
    (still_building.compile sourceText entryPoint layout signature r).serves
  buildGroups layout r := (still_building.buildGroups layout r).serves
  execute artifact groups counts r := by
    rcases execute_cases artifact groups counts r with ⟨_, r', hout, hstill⟩ | ⟨_, r', hout, -, hran⟩
    · rw [hout]
      exact hstill.serves
    · rw [hout]
      exact hran.serves
  readBack waiting r := (still_readBack waiting r).serves

end KernelShader.Rig
