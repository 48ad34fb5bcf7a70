/-
`Conversation.lean` -- what can be said to a device, and what it leaves on record.

A conversation does nothing to a device but make calls: it adds to the record, counts an object for each
call that made one, and fails only where the device fails. Sequences and loops of conversations are
conversations, so everything that is built from single calls is one. Of each single call it is shown that
it is a conversation, that a success of it leaves just that call on record, and, if it hands out an
object, that it is the maker of that object.

What a longer computation leaves on record is said through a view of the calls, such as the pipelines
that are set; this is composed from the parts of the computation in the same way, on a device and on
everything that has one (`Adds`).
-/
import KernelShader.Proofs.Device.Record

set_option autoImplicit false

namespace KernelShader

variable {α β : Type}

namespace Device

/-! ## Conversations -/

/-- The fault is one of a device. -/
def FromDevice (fault : Fault) : Prop := ∃ kind message, fault = .device kind message

/-- A computation that does nothing to a device but make calls, and that fails only where the device
does. -/
structure Conversation (m : DeviceM α) : Prop where
  grows : Keeps Extends m
  succeeds : ∀ d, d.Willing → ∃ a d', outcome m d = (.ok a, d')
  faults : FailsWith FromDevice m

namespace Conversation

theorem pure (a : α) : Conversation (pure a : DeviceM α) :=
  ⟨Keeps.pure a, fun d _ => ⟨a, d, rfl⟩, FailsWith.pure a⟩

theorem bind {m : DeviceM α} {f : α → DeviceM β} (hm : Conversation m)
    (hf : ∀ a, Conversation (f a)) : Conversation (m >>= f) := by
  refine ⟨hm.grows.bind fun a => (hf a).grows, ?_, hm.faults.bind fun a => (hf a).faults⟩
  intro d hwilling
  obtain ⟨a, d', hfirst⟩ := hm.succeeds d hwilling
  have hgrows : Extends d d' := hm.grows.of_outcome_eq hfirst
  obtain ⟨b, d'', hrest⟩ := (hf a).succeeds d' (hgrows.willing hwilling)
  refine ⟨b, d'', ?_⟩
  rw [Outcome.bind_of_ok hfirst, hrest]

theorem forM {f : α → DeviceM PUnit} (h : ∀ a, Conversation (f a)) (l : List α) :
    Conversation (l.forM f) := by
  induction l with
  | nil => exact Conversation.pure _
  | cons a rest ih =>
    rw [Outcome.forM_cons]
    exact (h a).bind fun _ => ih

end Conversation

/-! ## Single calls -/

theorem outcome_perform (call : Call) (d : Device) :
    outcome (perform call) d = match d.failures d.trace call with
      | some (kind, message) => (.error (.device kind message), d.called call)
      | none => (.ok (), d.called call) := by
  have hperform : outcome (perform call) d = outcome (match d.failures d.trace call with
      | some (kind, message) => throw (.device kind message)
      | none => pure () : DeviceM Unit) (d.called call) := rfl
  rw [hperform]
  rcases d.failures d.trace call with _ | ⟨kind, message⟩
  · rfl
  · rfl

/-- A call that goes through is followed by its effect on the device with the call on its record. -/
theorem outcome_call_of_none {call : Call} {d : Device} (h : d.failures d.trace call = none)
    (m : DeviceM α) : outcome (perform call >>= fun _ => m) d = outcome m (d.called call) := by
  have hcall : outcome (perform call) d = (.ok (), d.called call) := by rw [outcome_perform, h]
  exact Outcome.bind_of_ok hcall _

theorem outcome_call_of_some {call : Call} {d : Device} {kind : DeviceFaultKind} {message : String}
    (h : d.failures d.trace call = some (kind, message)) (m : DeviceM α) :
    outcome (perform call >>= fun _ => m) d = (.error (.device kind message), d.called call) := by
  refine Outcome.bind_of_error ?_ _
  rw [outcome_perform, h]

theorem call_eq_ok {call : Call} {m : DeviceM α} {d d' : Device} {a : α}
    (h : outcome (perform call >>= fun _ => m) d = (.ok a, d')) :
    d.failures d.trace call = none ∧ outcome m (d.called call) = (.ok a, d') := by
  cases hfail : d.failures d.trace call with
  | some fault =>
    rw [outcome_call_of_some hfail] at h
    exact nomatch h
  | none =>
    rw [outcome_call_of_none hfail] at h
    exact ⟨rfl, h⟩

/-- Where the effect of a call cannot fail, it is the device that does. -/
theorem call_eq_error {call : Call} {m : DeviceM α} (f : Device → α × Device)
    (hm : ∀ d, outcome m d = (.ok (f d).1, (f d).2)) {d d' : Device} {fault : Fault}
    (h : outcome (perform call >>= fun _ => m) d = (.error fault, d')) :
    (d.failures d.trace call).isNone = false ∧ d' = d.called call := by
  cases hfail : d.failures d.trace call with
  | some failure =>
    rw [outcome_call_of_some hfail, Prod.mk.injEq] at h
    exact ⟨rfl, h.2.symm⟩
  | none =>
    rw [outcome_call_of_none hfail, hm] at h
    simp at h

/-- A conversation of one call, which is on record whether or not the device fails at it. -/
structure Speaks (call : Call) (m : DeviceM α) : Prop extends Conversation m where
  recorded : ∀ d, (outcome m d).2.trace = d.trace ++ [call]

theorem Speaks.trace {call : Call} {m : DeviceM α} (h : Speaks call m) {d d' : Device} {a : α}
    (hm : outcome m d = (.ok a, d')) : d'.trace = d.trace ++ [call] := by
  have hrecorded := h.recorded d
  rwa [hm] at hrecorded

/-- A conversation of one call that hands out an object. -/
structure Makes {kind : ObjectKind} (call : Call) (m : DeviceM (Ref kind)) : Prop
    extends Speaks call m where
  maker : ∀ {d d' : Device} {r : Ref kind}, outcome m d = (.ok r, d') → d'.maker r = some call

/-- A call with an effect that follows it. -/
theorem speaks_call {call : Call} {m : DeviceM α} (f : Device → α × Device)
    (hm : ∀ d, outcome m d = (.ok (f d).1, (f d).2)) (hf : ∀ d, Follows call d (f d).2) :
    Speaks call (perform call >>= fun _ => m) where
  grows := by
    intro d
    cases h : d.failures d.trace call with
    | some fault =>
      rw [outcome_call_of_some h]
      exact extends_of_failed (by rw [h]; exact Option.some_ne_none _)
    | none =>
      rw [outcome_call_of_none h, hm]
      exact extends_of_follows h (hf _)
  succeeds := by
    intro d hwilling
    refine ⟨(f (d.called call)).1, (f (d.called call)).2, ?_⟩
    rw [outcome_call_of_none (hwilling.failures_eq_none call), hm]
  faults := by
    intro d fault d' h
    cases hfail : d.failures d.trace call with
    | some failure =>
      rw [outcome_call_of_some hfail, Prod.mk.injEq, Except.error.injEq] at h
      exact ⟨failure.1, failure.2, h.1.symm⟩
    | none =>
      rw [outcome_call_of_none hfail, hm] at h
      exact nomatch h
  recorded := by
    intro d
    cases h : d.failures d.trace call with
    | some fault =>
      rw [outcome_call_of_some h]
      rfl
    | none =>
      rw [outcome_call_of_none h, hm, (hf _).trace]
      rfl

/-- A call that hands out the next object of its kind. -/
theorem makes_call {kind : ObjectKind} {call : Call} {f : Device → Device}
    (hmakes : call.makes = some kind) (hf : ∀ d, Follows call d (f d)) :
    Makes call (perform call >>= fun _ =>
      (modifyGet fun d => (⟨d.tally kind⟩, f d) : DeviceM (Ref kind))) where
  toSpeaks := speaks_call (fun d => (⟨d.tally kind⟩, f d)) (fun _ => rfl) hf
  maker := by
    intro d d' r h
    obtain ⟨hpass, heffect⟩ := call_eq_ok h
    rw [Outcome.modifyGet_eq, Prod.mk.injEq, Except.ok.injEq] at heffect
    rw [← heffect.1, ← heffect.2, tally_called]
    exact maker_of_follows hpass (hf _) hmakes

/-! ## The calls one by one -/

theorem makes_createBuffer (label : String) (size usage : Nat) :
    Makes (.createBuffer label size usage) (createBuffer label size usage) :=
  makes_call rfl fun _ => .making rfl rfl rfl fun kind => by cases kind <;> simp [tally]

theorem makes_createLayout (label : String) (bindings : List Nat) :
    Makes (.createLayout label bindings) (createLayout label bindings) :=
  makes_call rfl fun _ => .making rfl rfl rfl fun kind => by cases kind <;> simp [tally]

theorem makes_createGroup (label : String) (layout : Ref .layout) (entries : List GroupEntry) :
    Makes (.createGroup label layout entries) (createGroup label layout entries) :=
  makes_call rfl fun _ => .making rfl rfl rfl fun kind => by cases kind <;> simp [tally]

theorem makes_createShader (label code : String) :
    Makes (.createShader label code) (createShader label code) :=
  makes_call rfl fun _ => .making rfl rfl rfl fun kind => by cases kind <;> simp [tally]

theorem makes_createPipelineLayout (label : String) (layouts : List (Ref .layout)) :
    Makes (.createPipelineLayout label layouts) (createPipelineLayout label layouts) :=
  makes_call rfl fun _ => .making rfl rfl rfl fun kind => by cases kind <;> simp [tally]

theorem makes_createPipeline (label : String) (layout : Ref .pipelineLayout)
    (shader : Ref .shader) (entryPoint : String) :
    Makes (.createPipeline label layout shader entryPoint)
      (createPipeline label layout shader entryPoint) :=
  makes_call rfl fun _ => .making rfl rfl rfl fun kind => by cases kind <;> simp [tally]

theorem makes_createEncoder (label : String) : Makes (.createEncoder label) (createEncoder label) :=
  makes_call rfl fun _ => .making rfl rfl rfl fun kind => by cases kind <;> simp [tally]

theorem makes_beginPass (encoder : Ref .encoder) (label : String) :
    Makes (.beginPass encoder label) (beginPass encoder label) :=
  makes_call rfl fun _ => .making rfl rfl rfl fun kind => by cases kind <;> simp [tally]

theorem makes_finish (encoder : Ref .encoder) : Makes (.finish encoder) (finish encoder) :=
  makes_call rfl fun _ => .making rfl rfl rfl fun kind => by cases kind <;> simp [tally]

/-- A call without an effect of its own. -/
theorem speaks_perform {call : Call} (h : call.makes = none) : Speaks call (perform call) := by
  have hpure : perform call = perform call >>= fun _ => pure () := (bind_pure _).symm
  rw [hpure]
  exact speaks_call (fun d => ((), d)) (fun _ => rfl) fun _ => .silent h rfl rfl fun _ => rfl

theorem speaks_writeBuffer (buffer : Ref .buffer) (data : Bytes) :
    Speaks (.writeBuffer buffer 0 data) (writeBuffer buffer data) :=
  speaks_call (fun d => ((), _)) (fun _ => rfl) fun _ => .silent rfl rfl rfl fun kind => by
    cases kind <;> simp [tally]

theorem speaks_map (waiting : Waiting) (buffer : Ref .buffer) :
    Speaks (.map waiting buffer) (map waiting buffer) := speaks_perform rfl

theorem speaks_readMapped (buffer : Ref .buffer) :
    Speaks (.readMapped buffer) (readMapped buffer) :=
  speaks_call (fun d => (_, d)) (fun _ => rfl) fun _ => .silent rfl rfl rfl fun _ => rfl

theorem speaks_unmap (buffer : Ref .buffer) : Speaks (.unmap buffer) (unmap buffer) :=
  speaks_perform rfl

theorem speaks_destroy (buffer : Ref .buffer) : Speaks (.destroy buffer) (destroy buffer) :=
  speaks_perform rfl

theorem speaks_setPipeline (pass : Ref .pass) (pipeline : Ref .pipeline) :
    Speaks (.setPipeline pass pipeline) (setPipeline pass pipeline) := speaks_perform rfl

theorem speaks_setGroup (pass : Ref .pass) (index : Nat) (group : Ref .group) :
    Speaks (.setGroup pass index group) (setGroup pass index group) :=
  speaks_call (fun d => ((), _)) (fun _ => rfl) fun _ => .silent rfl rfl rfl fun kind => by
    cases kind <;> simp [tally]

theorem speaks_dispatch (pass : Ref .pass) (counts : List Nat) :
    Speaks (.dispatch pass counts) (dispatch pass counts) :=
  speaks_call (fun d => ((), _)) (fun _ => rfl) fun _ => .silent rfl rfl rfl fun kind => by
    cases kind <;> simp [tally]

/-- The device after a pass has been ended. -/
def ended (d : Device) (pass : Ref .pass) : Device :=
  match d.passes[pass.index]? with
  | some p => { d with
      encoders := d.encoders.modify p.encoder.index (· ++ [.compute p.groups p.counts]) }
  | none => d

theorem speaks_endPass (pass : Ref .pass) : Speaks (.endPass pass) (endPass pass) := by
  refine speaks_call (fun d => ((), d.ended pass)) ?_ ?_
  · intro d
    rw [Outcome.get_bind]
    unfold ended
    cases d.passes[pass.index]? with
    | none => rfl
    | some p => rfl
  · intro d
    unfold ended
    cases d.passes[pass.index]? with
    | none => exact .silent rfl rfl rfl fun _ => rfl
    | some p => exact .silent rfl rfl rfl fun kind => by cases kind <;> simp [tally]

theorem speaks_copy (encoder : Ref .encoder) (source target : Option (Ref .buffer)) (size : Nat) :
    Speaks (.copy encoder source target size) (copy encoder source target size) :=
  speaks_call (fun d => ((), _)) (fun _ => rfl) fun _ => .silent rfl rfl rfl fun kind => by
    cases kind <;> simp [tally]

theorem length_runCommand (d : Device) (memory : Memory) (command : Command) :
    (d.runCommand memory command).length = memory.length := by
  match command with
  | .compute groups counts => exact List.length_mapIdx
  | .copy (some source) (some target) size => exact List.length_modify ..
  | .copy none _ _ => rfl
  | .copy (some _) none _ => rfl

/-- Running commands makes no buffer and takes none away. -/
theorem length_foldl_runCommand (d : Device) (commands : List Command) (memory : Memory) :
    (commands.foldl d.runCommand memory).length = memory.length := by
  induction commands generalizing memory with
  | nil => rfl
  | cons command rest ih => rw [List.foldl_cons, ih, length_runCommand]

theorem speaks_submit (commands : Ref .commands) :
    Speaks (.submit [commands]) (submit commands) := by
  refine speaks_call (fun d => ((), _)) (fun _ => rfl) fun d => .silent rfl rfl rfl ?_
  intro kind
  cases kind <;> simp [tally, length_foldl_runCommand]

end Device

/-! ## Views of the record -/

section Views

variable {σ : Type} {record : σ → List Call} {view : Call → Option β}

/-- Every success of the computation puts just these on record, as far as the view shows calls. -/
def Adds (record : σ → List Call) (view : Call → Option β) (m : ExceptT Fault (StateM σ) α)
    (seen : List β) : Prop :=
  ∀ s a s', outcome m s = (.ok a, s') →
    ∃ calls, record s' = record s ++ calls ∧ calls.filterMap view = seen

namespace Adds

theorem silent {m : ExceptT Fault (StateM σ) α}
    (h : ∀ s, record (outcome m s).2 = record s) : Adds record view m [] := by
  intro s a s' hm
  have hrecord := h s
  rw [hm] at hrecord
  exact ⟨[], by rw [hrecord, List.append_nil], rfl⟩

theorem pure (a : α) : Adds record view (pure a : ExceptT Fault (StateM σ) α) [] :=
  silent fun _ => rfl

theorem get : Adds record view (get : ExceptT Fault (StateM σ) σ) [] := silent fun _ => rfl

theorem liftExcept (x : Except Fault α) :
    Adds record view (liftExcept x : ExceptT Fault (StateM σ) α) [] :=
  silent fun s => by rw [Outcome.liftExcept_eq]

theorem bind {γ : Type} {m : ExceptT Fault (StateM σ) α} {f : α → ExceptT Fault (StateM σ) γ}
    {seen seen' : List β} (hm : Adds record view m seen) (hf : ∀ a, Adds record view (f a) seen') :
    Adds record view (m >>= f) (seen ++ seen') := by
  intro s b s'' h
  obtain ⟨a, s', hfirst, hrest⟩ := Outcome.bind_eq_ok_iff.mp h
  obtain ⟨calls, hcalls, hseen⟩ := hm s a s' hfirst
  obtain ⟨more, hmore, hseen'⟩ := hf a s' b s'' hrest
  refine ⟨calls ++ more, ?_, ?_⟩
  · rw [hmore, hcalls, List.append_assoc]
  · rw [List.filterMap_append, hseen, hseen']

theorem adapt {m : ExceptT Fault (StateM σ) α} {seen : List β} (hm : Adds record view m seen)
    (f : Fault → Fault) : Adds record view (m.adapt f) seen :=
  fun s a s' h => hm s a s' (Outcome.adapt_eq_ok_iff.mp h)

theorem silent_bind {γ : Type} {m : ExceptT Fault (StateM σ) α}
    {f : α → ExceptT Fault (StateM σ) γ} {seen : List β} (hm : Adds record view m [])
    (hf : ∀ a, Adds record view (f a) seen) : Adds record view (m >>= f) seen := hm.bind hf

theorem bind_silent {γ : Type} {m : ExceptT Fault (StateM σ) α}
    {f : α → ExceptT Fault (StateM σ) γ} {seen : List β} (hm : Adds record view m seen)
    (hf : ∀ a, Adds record view (f a) []) : Adds record view (m >>= f) seen := by
  rw [← List.append_nil seen]
  exact hm.bind hf

theorem forM {γ : Type} {f : γ → ExceptT Fault (StateM σ) PUnit} {seen : γ → β}
    (h : ∀ a, Adds record view (f a) [seen a]) (l : List γ) :
    Adds record view (l.forM f) (l.map seen) := by
  induction l with
  | nil => exact Adds.pure _
  | cons a rest ih =>
    rw [Outcome.forM_cons]
    exact (h a).bind fun _ => ih

theorem forM_silent {γ : Type} {f : γ → ExceptT Fault (StateM σ) PUnit}
    (h : ∀ a, Adds record view (f a) []) (l : List γ) : Adds record view (l.forM f) [] := by
  induction l with
  | nil => exact Adds.pure _
  | cons a rest ih =>
    rw [Outcome.forM_cons]
    exact (h a).bind fun _ => ih

theorem mapM {γ : Type} {f : γ → ExceptT Fault (StateM σ) α} {seen : γ → List β}
    (h : ∀ a, Adds record view (f a) (seen a)) (l : List γ) :
    Adds record view (l.mapM f) (l.flatMap seen) := by
  induction l with
  | nil => exact Adds.pure _
  | cons a rest ih =>
    rw [List.mapM_cons, List.flatMap_cons]
    exact (h a).bind fun _ => ih.bind_silent fun _ => Adds.pure _

theorem mapM_silent {γ : Type} {f : γ → ExceptT Fault (StateM σ) α}
    (h : ∀ a, Adds record view (f a) []) (l : List γ) : Adds record view (l.mapM f) [] := by
  have hmapM := Adds.mapM h l
  rwa [List.flatMap_eq_nil_iff.mpr fun _ _ => rfl] at hmapM

end Adds

/-- One call is seen as the view shows it. -/
theorem Device.Speaks.adds {call : Call} {m : DeviceM α} (h : Device.Speaks call m) :
    Adds Device.trace view m (view call).toList := by
  intro d a d' hm
  refine ⟨[call], h.trace hm, ?_⟩
  cases hview : view call with
  | none => rw [List.filterMap_cons_none hview]; rfl
  | some seen => rw [List.filterMap_cons_some hview]; rfl

/-- More calls are on record, and whatever the view shows of them has the property. Unlike `Adds` this is
about failing computations as well. -/
def Shows (record : σ → List Call) (view : Call → Option β) (P : β → Prop) (s s' : σ) : Prop :=
  ∃ calls, record s' = record s ++ calls ∧ ∀ b ∈ calls.filterMap view, P b

theorem Shows.of_eq {P : β → Prop} {s s' : σ} (h : record s' = record s) :
    Shows record view P s s' := by
  refine ⟨[], ?_, ?_⟩
  · rw [h, List.append_nil]
  · intro b hb
    exact absurd hb List.not_mem_nil

instance (P : β → Prop) : IsPreorder σ (Shows record view P) where
  refl s := Shows.of_eq rfl
  trans s s₁ s₂ h h' := by
    obtain ⟨calls, hcalls, hP⟩ := h
    obtain ⟨more, hmore, hP'⟩ := h'
    refine ⟨calls ++ more, ?_, ?_⟩
    · rw [hmore, hcalls, List.append_assoc]
    · intro b hb
      rw [List.filterMap_append, List.mem_append] at hb
      rcases hb with hb | hb
      · exact hP b hb
      · exact hP' b hb

/-- A call that is on record was there before, or what the view shows of it has the property. -/
theorem Shows.of_mem {P : β → Prop} {s s' : σ} (h : Shows record view P s s') {call : Call} {b : β}
    (hcall : call ∈ record s') (hview : view call = some b) : call ∈ record s ∨ P b := by
  obtain ⟨calls, hcalls, hP⟩ := h
  rw [hcalls, List.mem_append] at hcall
  exact hcall.imp_right fun hnew => hP b (List.mem_filterMap.mpr ⟨call, hnew, hview⟩)

theorem Device.Speaks.shows {P : β → Prop} {call : Call} {m : DeviceM α} (h : Device.Speaks call m)
    (hP : ∀ b, view call = some b → P b) : Keeps (Shows Device.trace view P) m := by
  intro d
  refine ⟨[call], h.recorded d, ?_⟩
  intro b hb
  obtain ⟨call', hcall, hview⟩ := List.mem_filterMap.mp hb
  rw [List.mem_singleton.mp hcall] at hview
  exact hP b hview

theorem Device.Speaks.shows_of_none {P : β → Prop} {call : Call} {m : DeviceM α}
    (h : Device.Speaks call m) (hview : view call = none) : Keeps (Shows Device.trace view P) m := by
  refine h.shows fun b hb => ?_
  rw [hview] at hb
  exact nomatch hb

end Views

end KernelShader
