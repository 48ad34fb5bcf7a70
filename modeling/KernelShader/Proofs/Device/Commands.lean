/-
`Commands.lean` -- what is encoded, and when it reaches memory.

Which commands a device has run can be told from its record: those that were submitted by a call that went
through (`submittedSince`). Between submissions memory only grows at its end, and nothing that has been
handed out changes: a bind group keeps its buffers and a list of commands its commands (`Idle`). Most calls
do not touch memory at all (`Still`); the exceptions are making a buffer, writing to one and submitting.

The second half follows a list of commands from the encoder to the submission. What an encoder holds is
said by looking it up, and each call that encodes adds one command to it.
-/
import Mathlib.Data.List.GetD
import KernelShader.Proofs.Device.Conversation

set_option autoImplicit false

namespace KernelShader

variable {α : Type}

/-- The commands that a call has the device run. -/
def Call.submits : Call → List (Ref .commands)
  | .submit commands => commands
  | _ => []

/-- The buffer that a command copies into. -/
def Command.target? : Command → Option (Ref .buffer)
  | .copy _ target _ => target
  | .compute .. => none

/-- What a list begins with is found at the same place in the longer one. -/
theorem getElem?_of_prefix {l l' : List α} (h : l <+: l') {k : Nat} {a : α} (ha : l[k]? = some a) :
    l'[k]? = some a := by
  obtain ⟨rest, rfl⟩ := h
  obtain ⟨hlt, -⟩ := List.getElem?_eq_some_iff.mp ha
  rw [List.getElem?_append_left hlt, ha]

namespace Device

/-! ## Submissions on record -/

/-- The commands that the device has run since, in order. Submissions that failed do not count. -/
def submittedSince (d d' : Device) : List (Ref .commands) :=
  (passed d.failures d.trace (d'.trace.drop d.trace.length)).flatMap Call.submits

theorem submittedSince_of_trace {d d' : Device} {calls : List Call}
    (h : d'.trace = d.trace ++ calls) :
    d.submittedSince d' = (passed d.failures d.trace calls).flatMap Call.submits := by
  rw [submittedSince, h, List.drop_left]

theorem submittedSince_self (d : Device) : d.submittedSince d = [] := by
  have htrace : d.trace = d.trace ++ [] := (List.append_nil _).symm
  rw [submittedSince_of_trace htrace, passed, List.flatMap_nil]

/-- What has been run is added up along the record. -/
theorem submittedSince_trans {d d₁ d₂ : Device} (h : Extends d d₁) (h' : Extends d₁ d₂) :
    d.submittedSince d₂ = d.submittedSince d₁ ++ d₁.submittedSince d₂ := by
  obtain ⟨calls, htrace, -⟩ := h.calls
  obtain ⟨more, htrace', -⟩ := h'.calls
  have hall : d₂.trace = d.trace ++ (calls ++ more) := by
    rw [htrace', htrace, List.append_assoc]
  rw [submittedSince_of_trace hall, submittedSince_of_trace htrace, submittedSince_of_trace htrace',
    passed_append, List.flatMap_append, h.failures, htrace]

theorem submittedSince_of_recorded {d d' : Device} {call : Call}
    (h : d'.trace = d.trace ++ [call]) :
    d.submittedSince d' = if (d.failures d.trace call).isNone then call.submits else [] := by
  rw [submittedSince_of_trace h]
  by_cases hpass : (d.failures d.trace call).isNone = true
  · simp [passed, hpass]
  · simp [passed, hpass]

/-! ## Between submissions -/

/-- The device has run nothing since. Buffers may have been added, but those there were hold what they
held, and so do bind groups and lists of commands. -/
structure Idle (d d' : Device) : Prop extends Extends d d' where
  kernel : d'.kernel = d.kernel
  memory : d.memory <+: d'.memory
  groups : d.groups <+: d'.groups
  commands : d.commands <+: d'.commands
  unsubmitted : d.submittedSince d' = []

instance : IsPreorder Device Idle where
  refl d := ⟨refl_of Extends d, rfl, List.prefix_rfl, List.prefix_rfl, List.prefix_rfl,
    submittedSince_self d⟩
  trans d d₁ d₂ h h' := by
    refine ⟨trans_of Extends h.toExtends h'.toExtends, h'.kernel.trans h.kernel,
      h.memory.trans h'.memory, h.groups.trans h'.groups, h.commands.trans h'.commands, ?_⟩
    rw [submittedSince_trans h.toExtends h'.toExtends, h.unsubmitted, h'.unsubmitted,
      List.append_nil]

/-- Besides, memory is what it was. -/
structure Still (d d' : Device) : Prop extends Idle d d' where
  unchanged : d'.memory = d.memory

instance : IsPreorder Device Still where
  refl d := ⟨refl_of Idle d, rfl⟩
  trans _ _ _ h h' := ⟨trans_of Idle h.toIdle h'.toIdle, h'.unchanged.trans h.unchanged⟩

/-- The part of a device that has to be followed through the effect of a call: the kernel and the buffers
are as before, bind groups and lists of commands may have been added. -/
structure Leaves (d d' : Device) : Prop where
  kernel : d'.kernel = d.kernel
  memory : d'.memory = d.memory
  groups : d.groups <+: d'.groups
  commands : d.commands <+: d'.commands

theorem Leaves.of_eq {d d' : Device} (hkernel : d'.kernel = d.kernel) (hmemory : d'.memory = d.memory)
    (hgroups : d'.groups = d.groups) (hcommands : d'.commands = d.commands) : Leaves d d' :=
  ⟨hkernel, hmemory, hgroups ▸ List.prefix_rfl, hcommands ▸ List.prefix_rfl⟩

/-- A call that submits nothing. Where the device fails, all that happens is that the call is on record. -/
theorem still_call {call : Call} {m : DeviceM α} (hspeaks : Speaks call (perform call >>= fun _ => m))
    (hcall : call.submits = []) (heffect : ∀ d, Leaves d (outcome m d).2) :
    Keeps Still (perform call >>= fun _ => m) := by
  intro d
  have hleaves : Leaves d (outcome (perform call >>= fun _ => m) d).2 := by
    cases h : d.failures d.trace call with
    | some fault =>
      rw [outcome_call_of_some h]
      exact .of_eq rfl rfl rfl rfl
    | none =>
      rw [outcome_call_of_none h]
      obtain ⟨hkernel, hmemory, hgroups, hcommands⟩ := heffect (d.called call)
      exact ⟨hkernel, hmemory, hgroups, hcommands⟩
  refine ⟨⟨hspeaks.grows d, hleaves.kernel, hleaves.memory ▸ List.prefix_rfl, hleaves.groups,
    hleaves.commands, ?_⟩, hleaves.memory⟩
  rw [submittedSince_of_recorded (hspeaks.recorded d), hcall, ite_self]

/-! ## The calls one by one -/

theorem still_perform {call : Call} (hmakes : call.makes = none) (hcall : call.submits = []) :
    Keeps Still (perform call) := by
  have hspeaks := speaks_perform hmakes
  have hpure : perform call = perform call >>= fun _ => pure () := (bind_pure _).symm
  rw [hpure] at hspeaks ⊢
  exact still_call hspeaks hcall fun _ => .of_eq rfl rfl rfl rfl

theorem still_map (waiting : Waiting) (buffer : Ref .buffer) : Keeps Still (map waiting buffer) :=
  still_perform rfl rfl

theorem still_readMapped (buffer : Ref .buffer) : Keeps Still (readMapped buffer) :=
  still_call (speaks_readMapped buffer) rfl fun _ => .of_eq rfl rfl rfl rfl

theorem still_unmap (buffer : Ref .buffer) : Keeps Still (unmap buffer) := still_perform rfl rfl

theorem still_destroy (buffer : Ref .buffer) : Keeps Still (destroy buffer) := still_perform rfl rfl

theorem still_createLayout (label : String) (bindings : List Nat) :
    Keeps Still (createLayout label bindings) :=
  still_call (makes_createLayout label bindings).toSpeaks rfl fun _ => .of_eq rfl rfl rfl rfl

theorem still_createGroup (label : String) (layout : Ref .layout) (entries : List GroupEntry) :
    Keeps Still (createGroup label layout entries) :=
  still_call (makes_createGroup label layout entries).toSpeaks rfl fun _ =>
    ⟨rfl, rfl, List.prefix_append _ _, List.prefix_rfl⟩

theorem still_createShader (label code : String) : Keeps Still (createShader label code) :=
  still_call (makes_createShader label code).toSpeaks rfl fun _ => .of_eq rfl rfl rfl rfl

theorem still_createPipelineLayout (label : String) (layouts : List (Ref .layout)) :
    Keeps Still (createPipelineLayout label layouts) :=
  still_call (makes_createPipelineLayout label layouts).toSpeaks rfl fun _ => .of_eq rfl rfl rfl rfl

theorem still_createPipeline (label : String) (layout : Ref .pipelineLayout) (shader : Ref .shader)
    (entryPoint : String) : Keeps Still (createPipeline label layout shader entryPoint) :=
  still_call (makes_createPipeline label layout shader entryPoint).toSpeaks rfl fun _ =>
    .of_eq rfl rfl rfl rfl

theorem still_createEncoder (label : String) : Keeps Still (createEncoder label) :=
  still_call (makes_createEncoder label).toSpeaks rfl fun _ => .of_eq rfl rfl rfl rfl

theorem still_beginPass (encoder : Ref .encoder) (label : String) :
    Keeps Still (beginPass encoder label) :=
  still_call (makes_beginPass encoder label).toSpeaks rfl fun _ => .of_eq rfl rfl rfl rfl

theorem still_setPipeline (pass : Ref .pass) (pipeline : Ref .pipeline) :
    Keeps Still (setPipeline pass pipeline) := still_perform rfl rfl

theorem still_setGroup (pass : Ref .pass) (index : Nat) (group : Ref .group) :
    Keeps Still (setGroup pass index group) :=
  still_call (speaks_setGroup pass index group) rfl fun _ => .of_eq rfl rfl rfl rfl

theorem still_dispatch (pass : Ref .pass) (counts : List Nat) : Keeps Still (dispatch pass counts) :=
  still_call (speaks_dispatch pass counts) rfl fun _ => .of_eq rfl rfl rfl rfl

theorem still_endPass (pass : Ref .pass) : Keeps Still (endPass pass) := by
  refine still_call (speaks_endPass pass) rfl fun d => ?_
  rw [Outcome.get_bind]
  cases d.passes[pass.index]? with
  | none => exact .of_eq rfl rfl rfl rfl
  | some p => exact .of_eq rfl rfl rfl rfl

theorem still_copy (encoder : Ref .encoder) (source target : Option (Ref .buffer)) (size : Nat) :
    Keeps Still (copy encoder source target size) :=
  still_call (speaks_copy encoder source target size) rfl fun _ => .of_eq rfl rfl rfl rfl

theorem still_finish (encoder : Ref .encoder) : Keeps Still (finish encoder) :=
  still_call (makes_finish encoder).toSpeaks rfl fun _ =>
    ⟨rfl, rfl, List.prefix_rfl, List.prefix_append _ _⟩

/-! ## Buffers that are made and filled -/

/-- The call has gone through, and this is the device after its effect. -/
theorem modify_call_eq_ok {call : Call} {f : Device → Device} {d d' : Device} {u : PUnit}
    (h : outcome (perform call >>= fun _ => (modify f : DeviceM PUnit)) d = (.ok u, d')) :
    d.failures d.trace call = none ∧ d' = f (d.called call) := by
  obtain ⟨hpass, heffect⟩ := call_eq_ok h
  rw [Outcome.modify_eq, Prod.mk.injEq] at heffect
  exact ⟨hpass, heffect.2.symm⟩

theorem modifyGet_call_eq_ok {call : Call} {f : Device → α × Device} {d d' : Device} {a : α}
    (h : outcome (perform call >>= fun _ => (modifyGet f : DeviceM α)) d = (.ok a, d')) :
    a = (f (d.called call)).1 ∧ d' = (f (d.called call)).2 := by
  obtain ⟨-, heffect⟩ := call_eq_ok h
  rw [Outcome.modifyGet_eq, Prod.mk.injEq, Except.ok.injEq] at heffect
  exact ⟨heffect.1.symm, heffect.2.symm⟩

/-- A new buffer comes after all others, filled with zeros. -/
theorem createBuffer_eq_ok {label : String} {size usage : Nat} {d d' : Device} {buffer : Ref .buffer}
    (h : outcome (createBuffer label size usage) d = (.ok buffer, d')) :
    buffer = ⟨d.memory.length⟩ ∧ d'.memory = d.memory ++ [Bytes.zeros size] := by
  obtain ⟨rfl, rfl⟩ := modifyGet_call_eq_ok h
  exact ⟨rfl, rfl⟩

theorem writeBuffer_eq_ok {buffer : Ref .buffer} {data : Bytes} {d d' : Device} {u : Unit}
    (h : outcome (writeBuffer buffer data) d = (.ok u, d')) :
    d'.memory = d.memory.modify buffer.index (Bytes.overwrite data) := by
  obtain ⟨-, rfl⟩ := modify_call_eq_ok h
  rfl

/-- Any call that submits nothing and leaves the buffers there were alone. -/
theorem idle_of_speaks {call : Call} {m : DeviceM α} (hspeaks : Speaks call m)
    (hcall : call.submits = []) {d₀ d : Device} (h : Idle d₀ d)
    (hkernel : (outcome m d).2.kernel = d.kernel) (hmemory : d₀.memory <+: (outcome m d).2.memory)
    (hgroups : (outcome m d).2.groups = d.groups)
    (hcommands : (outcome m d).2.commands = d.commands) : Idle d₀ (outcome m d).2 := by
  have hgrows : Extends d (outcome m d).2 := hspeaks.grows d
  refine ⟨trans_of Extends h.toExtends hgrows, hkernel.trans h.kernel, hmemory,
    hgroups ▸ h.groups, hcommands ▸ h.commands, ?_⟩
  rw [submittedSince_trans h.toExtends hgrows, h.unsubmitted,
    submittedSince_of_recorded (hspeaks.recorded d), hcall, ite_self, List.append_nil]

theorem idle_createBuffer (label : String) (size usage : Nat) :
    Keeps Idle (createBuffer label size usage) := by
  intro d
  have hidle := idle_of_speaks (makes_createBuffer label size usage).toSpeaks rfl (refl_of Idle d)
  unfold createBuffer at hidle ⊢
  cases h : d.failures d.trace (.createBuffer label size usage) with
  | some fault =>
    rw [outcome_call_of_some h] at hidle ⊢
    exact hidle rfl List.prefix_rfl rfl rfl
  | none =>
    rw [outcome_call_of_none h] at hidle ⊢
    exact hidle rfl (List.prefix_append _ _) rfl rfl

/-- Writing to a buffer that was not there before leaves alone those that were. -/
theorem Idle.writeBuffer {d₀ d : Device} (h : Idle d₀ d) {buffer : Ref .buffer}
    (hnew : d₀.memory.length ≤ buffer.index) (data : Bytes) :
    Idle d₀ (outcome (writeBuffer buffer data) d).2 := by
  have hidle := idle_of_speaks (speaks_writeBuffer buffer data) rfl h
  unfold Device.writeBuffer at hidle ⊢
  cases hfail : d.failures d.trace (.writeBuffer buffer 0 data) with
  | some fault =>
    rw [outcome_call_of_some hfail] at hidle ⊢
    exact hidle rfl h.memory rfl rfl
  | none =>
    rw [outcome_call_of_none hfail] at hidle ⊢
    refine hidle rfl ?_ rfl rfl
    refine List.prefix_iff_getElem?.mpr fun k hk => ?_
    have hother : ¬ buffer.index = k := by omega
    have hold := List.prefix_iff_getElem?.mp h.memory k hk
    change (d.memory.modify buffer.index (Bytes.overwrite data))[k]? = _
    rw [List.getElem?_modify, hold]
    simp [hother]

theorem readMapped_eq_ok {buffer : Ref .buffer} {d d' : Device} {bytes : Bytes}
    (h : outcome (readMapped buffer) d = (.ok bytes, d')) : bytes = d.memory.getD buffer.index [] := by
  obtain ⟨-, heffect⟩ := call_eq_ok h
  exact (Except.ok.inj (Prod.mk.inj heffect).1).symm

/-! ## Encoding -/

/-- The device has handed out an encoder that holds these commands. -/
def Encoded (d : Device) (encoder : Ref .encoder) (commands : List Command) : Prop :=
  d.encoders[encoder.index]? = some commands

/-- The compute pass is being encoded, and this is what has been said of it. -/
def Drafted (d : Device) (pass : Ref .pass) (p : ComputePass) : Prop := d.passes[pass.index]? = some p

theorem createEncoder_eq_ok {label : String} {d d' : Device} {encoder : Ref .encoder}
    (h : outcome (createEncoder label) d = (.ok encoder, d')) : d'.Encoded encoder [] := by
  obtain ⟨rfl, rfl⟩ := modifyGet_call_eq_ok h
  exact List.getElem?_concat_length

theorem beginPass_eq_ok {encoder : Ref .encoder} {label : String} {d d' : Device} {pass : Ref .pass}
    (h : outcome (beginPass encoder label) d = (.ok pass, d')) :
    d'.Drafted pass { encoder } ∧ d'.encoders = d.encoders := by
  obtain ⟨rfl, rfl⟩ := modifyGet_call_eq_ok h
  exact ⟨List.getElem?_concat_length, rfl⟩

theorem setPipeline_eq_ok {pass : Ref .pass} {pipeline : Ref .pipeline} {d d' : Device} {u : Unit}
    (h : outcome (setPipeline pass pipeline) d = (.ok u, d')) :
    d'.passes = d.passes ∧ d'.encoders = d.encoders := by
  have hpure : setPipeline pass pipeline = perform _ >>= fun _ => pure () := (bind_pure _).symm
  rw [hpure] at h
  obtain ⟨-, heffect⟩ := call_eq_ok h
  rw [Outcome.pure_eq, Prod.mk.injEq] at heffect
  exact ⟨heffect.2 ▸ rfl, heffect.2 ▸ rfl⟩

/-- A pass is changed where it is being encoded. -/
theorem Drafted.modify {d : Device} {pass : Ref .pass} {p : ComputePass} (h : d.Drafted pass p)
    (f : ComputePass → ComputePass) :
    Drafted { d with passes := d.passes.modify pass.index f } pass (f p) := by
  unfold Drafted at h ⊢
  rw [List.getElem?_modify, h]
  simp

theorem setGroup_eq_ok {pass : Ref .pass} {index : Nat} {group : Ref .group} {d d' : Device}
    {u : Unit} (h : outcome (setGroup pass index group) d = (.ok u, d')) {p : ComputePass}
    (hp : d.Drafted pass p) :
    d'.Drafted pass { p with groups := p.groups ++ [group] } ∧ d'.encoders = d.encoders := by
  obtain ⟨-, rfl⟩ := modify_call_eq_ok h
  exact ⟨hp.modify _, rfl⟩

theorem dispatch_eq_ok {pass : Ref .pass} {counts : List Nat} {d d' : Device} {u : Unit}
    (h : outcome (dispatch pass counts) d = (.ok u, d')) {p : ComputePass} (hp : d.Drafted pass p) :
    d'.Drafted pass { p with counts } ∧ d'.encoders = d.encoders := by
  obtain ⟨-, rfl⟩ := modify_call_eq_ok h
  exact ⟨hp.modify _, rfl⟩

/-- A command is added to what an encoder holds. -/
theorem Encoded.modify {d : Device} {encoder : Ref .encoder} {commands : List Command}
    (h : d.Encoded encoder commands) (command : Command) :
    Encoded { d with encoders := d.encoders.modify encoder.index (· ++ [command]) } encoder
      (commands ++ [command]) := by
  unfold Encoded at h ⊢
  rw [List.getElem?_modify, h]
  simp

theorem endPass_eq_ok {pass : Ref .pass} {d d' : Device} {u : Unit}
    (h : outcome (endPass pass) d = (.ok u, d')) {p : ComputePass} (hp : d.Drafted pass p)
    {commands : List Command} (hencoded : d.Encoded p.encoder commands) :
    d'.Encoded p.encoder (commands ++ [.compute p.groups p.counts]) := by
  obtain ⟨-, heffect⟩ := call_eq_ok h
  have hpass : (d.called (.endPass pass)).passes[pass.index]? = some p := hp
  rw [Outcome.get_bind, hpass] at heffect
  have hcalled : (d.called (.endPass pass)).Encoded p.encoder commands := hencoded
  have hadded := hcalled.modify (.compute p.groups p.counts)
  rwa [← (Prod.mk.inj heffect).2]

theorem copy_eq_ok {encoder : Ref .encoder} {source target : Option (Ref .buffer)} {size : Nat}
    {d d' : Device} {u : Unit} (h : outcome (copy encoder source target size) d = (.ok u, d'))
    {commands : List Command} (hencoded : d.Encoded encoder commands) :
    d'.Encoded encoder (commands ++ [.copy source target size]) := by
  obtain ⟨-, rfl⟩ := modify_call_eq_ok h
  exact Encoded.modify (d := d.called _) hencoded _

/-- What an encoder held is what its list of commands is from then on. -/
theorem finish_eq_ok {encoder : Ref .encoder} {d d' : Device} {list : Ref .commands}
    (h : outcome (finish encoder) d = (.ok list, d')) {commands : List Command}
    (hencoded : d.Encoded encoder commands) : d'.commands[list.index]? = some commands := by
  obtain ⟨rfl, rfl⟩ := modifyGet_call_eq_ok h
  have hheld : (d.called (.finish encoder)).encoders.getD encoder.index [] = commands := by
    rw [List.getD_eq_getElem?_getD]
    exact congrArg (Option.getD · []) hencoded
  simp only [hheld]
  exact List.getElem?_concat_length

/-! ## Submitting -/

/-- The device after it has run commands. -/
def ran (d : Device) (list : Ref .commands) : Device :=
  { d.called (.submit [list]) with
    memory := (d.commands.getD list.index []).foldl d.runCommand d.memory }

/-- A submission fails and nothing has been run, or the commands have been run and no others. -/
theorem submit_cases (list : Ref .commands) (d : Device) :
    (∃ fault d', outcome (submit list) d = (.error fault, d') ∧ Still d d') ∨
    (outcome (submit list) d = (.ok (), d.ran list) ∧ Extends d (d.ran list) ∧
      d.submittedSince (d.ran list) = [list]) := by
  have hspeaks := speaks_submit list
  have hgrows := hspeaks.grows d
  have hsince := submittedSince_of_recorded (hspeaks.recorded d)
  unfold submit at hgrows hsince ⊢
  cases hfail : d.failures d.trace (.submit [list]) with
  | some fault =>
    rw [outcome_call_of_some hfail] at hgrows hsince ⊢
    rw [hfail] at hsince
    exact Or.inl ⟨_, _, rfl, ⟨hgrows, rfl, List.prefix_rfl, List.prefix_rfl, List.prefix_rfl, hsince⟩,
      rfl⟩
  | none =>
    rw [outcome_call_of_none hfail] at hgrows hsince ⊢
    rw [hfail] at hsince
    exact Or.inr ⟨rfl, hgrows, hsince⟩

/-! ## What has been copied into -/

/-- The buffers that the device has copied into since, in the order of the copies. -/
def filledSince (d d' : Device) : List (Ref .buffer) :=
  (d.submittedSince d').flatMap fun list =>
    (d'.commands.getD list.index []).filterMap Command.target?

/-- The device has gone on with the same kernel. Lists of commands are what they were, and all that have
been run are there. -/
structure Progress (d d' : Device) : Prop extends Extends d d' where
  kernel : d'.kernel = d.kernel
  commands : d.commands <+: d'.commands
  known : ∀ list ∈ d.submittedSince d', list.index < d'.commands.length

theorem Idle.progress {d d' : Device} (h : Idle d d') : Progress d d' := by
  refine ⟨h.toExtends, h.kernel, h.commands, ?_⟩
  intro list hlist
  rw [h.unsubmitted] at hlist
  exact absurd hlist List.not_mem_nil

instance : IsPreorder Device Progress where
  refl d := (refl_of Idle d).progress
  trans d d₁ d₂ h h' := by
    refine ⟨trans_of Extends h.toExtends h'.toExtends, h'.kernel.trans h.kernel,
      h.commands.trans h'.commands, ?_⟩
    intro list hlist
    rw [submittedSince_trans h.toExtends h'.toExtends, List.mem_append] at hlist
    rcases hlist with hbefore | hsince
    · have hknown := h.known list hbefore
      have hgrown := h'.commands.length_le
      omega
    · exact h'.known list hsince

/-- What has been copied into is added up along the record, because lists of commands stay as they are. -/
theorem filledSince_trans {d d₁ d₂ : Device} (h : Progress d d₁) (h' : Progress d₁ d₂) :
    d.filledSince d₂ = d.filledSince d₁ ++ d₁.filledSince d₂ := by
  unfold filledSince
  rw [submittedSince_trans h.toExtends h'.toExtends, List.flatMap_append, List.append_left_inj]
  refine List.flatMap_congr fun list hlist => ?_
  have hknown := h.known list hlist
  have hsame : d₂.commands[list.index]? = some d₁.commands[list.index] :=
    List.prefix_iff_getElem?.mp h'.commands _ hknown
  rw [List.getD_eq_getElem?_getD, hsame, Option.getD_some, List.getD_eq_getElem _ _ hknown]

theorem Idle.filledSince_eq {d d' : Device} (h : Idle d d') : d.filledSince d' = [] := by
  rw [filledSince, h.unsubmitted, List.flatMap_nil]

/-- What running one list of commands adds. -/
theorem progress_ran {d : Device} {list : Ref .commands} {commands : List Command}
    (hextends : Extends d (d.ran list)) (hsince : d.submittedSince (d.ran list) = [list])
    (hlist : d.commands[list.index]? = some commands) :
    Progress d (d.ran list) ∧ d.filledSince (d.ran list) = commands.filterMap Command.target? := by
  obtain ⟨hlt, hcommands⟩ := List.getElem?_eq_some_iff.mp hlist
  refine ⟨⟨hextends, rfl, List.prefix_rfl, ?_⟩, ?_⟩
  · intro list' hlist'
    rw [hsince, List.mem_singleton] at hlist'
    rw [hlist']
    exact hlt
  · have hheld : (d.ran list).commands.getD list.index [] = commands := by
      rw [← hcommands]
      exact List.getD_eq_getElem _ _ hlt
    rw [filledSince, hsince, List.flatMap_singleton, hheld]

/-- Submitting a list that has been collected. -/
theorem progress_submit {d : Device} {list : Ref .commands} {commands : List Command}
    (hlist : d.commands[list.index]? = some commands) : Progress d (outcome (submit list) d).2 := by
  rcases submit_cases list d with ⟨fault, d', hfail, hstill⟩ | ⟨hok, hextends, hsince⟩
  · rw [hfail]
    exact hstill.progress
  · rw [hok]
    exact (progress_ran hextends hsince hlist).1

end Device

end KernelShader
