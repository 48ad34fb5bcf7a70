/-
`Building.lean` -- the calls by which a shader is built, and the work that makes none of them.

Building asks for a layout for every group, then for the module, the pipeline layout and the pipeline, and
last for a bind group under every layout. It is one call for each object, in this order, and nothing but one
of these calls can fail; so where it fails, the calls that were made are the first of the whole list
(`Issues`). All other work on a rig makes other calls, and what these keep it keeps (`KeptByOtherCalls`). In
particular a pipeline more has been made exactly if something has been compiled.
-/
import KernelShader.Proofs.Rig.Register

set_option autoImplicit false

namespace KernelShader

variable {α β : Type}

/-! ## Calls in order -/

/-- The calls ask for objects of these kinds in this order, one by one: for all of them where there is a
result, and up to some call where there is a fault. -/
def Fulfils (calls : List Call) (kinds : List ObjectKind) : Except Fault α → Prop
  | .ok _ => calls.map Call.makes = kinds.map some
  | .error _ => calls ≠ [] ∧ calls.map Call.makes <+: kinds.map some

theorem Fulfils.map {calls : List Call} {kinds : List ObjectKind} {x : Except Fault α} (f : α → β)
    (h : Fulfils calls kinds x) : Fulfils calls kinds (x.map f) := by
  cases x with
  | ok a => exact h
  | error fault => exact h

theorem Fulfils.mapError {calls : List Call} {kinds : List ObjectKind} {x : Except Fault α}
    (f : Fault → Fault) (h : Fulfils calls kinds x) : Fulfils calls kinds (x.mapError f) := by
  cases x with
  | ok a => exact h
  | error fault => exact h

/-- Whether or not there is a fault, nothing else has been asked for. -/
theorem Fulfils.isPrefix {calls : List Call} {kinds : List ObjectKind} {x : Except Fault α}
    (h : Fulfils calls kinds x) : calls.map Call.makes <+: kinds.map some := by
  cases x with
  | ok a => exact h ▸ List.prefix_rfl
  | error fault => exact h.2

/-- The first object has been asked for. -/
theorem Fulfils.exists_first {calls : List Call} {kind : ObjectKind} {kinds : List ObjectKind}
    {x : Except Fault α} (h : Fulfils calls (kind :: kinds) x) :
    ∃ call ∈ calls, call.makes = some kind := by
  have hprefix := h.isPrefix
  cases calls with
  | nil =>
    cases x with
    | ok a => exact absurd h (List.cons_ne_nil _ _).symm
    | error fault => exact absurd rfl h.1
  | cons call rest =>
    rw [List.map_cons, List.map_cons, List.cons_prefix_cons] at hprefix
    exact ⟨call, List.mem_cons_self, hprefix.1⟩

section Issues

variable {σ : Type} {record : σ → List Call} {s : σ}

/-- The computation asks for objects of these kinds one after the other, and fails at none but these
calls. -/
def Issues (record : σ → List Call) (m : ExceptT Fault (StateM σ) α) (kinds : List ObjectKind)
    (s : σ) : Prop :=
  ∃ calls, record (outcome m s).2 = record s ++ calls ∧ Fulfils calls kinds (outcome m s).1

namespace Issues

theorem silent {m : ExceptT Fault (StateM σ) α} {a : α} {s' : σ} (h : outcome m s = (.ok a, s'))
    (hrecord : record s' = record s) : Issues record m [] s := by
  refine ⟨[], ?_, ?_⟩
  · rw [h, hrecord, List.append_nil]
  · rw [h]
    rfl

theorem bind {m : ExceptT Fault (StateM σ) α} {f : α → ExceptT Fault (StateM σ) β}
    {kinds more : List ObjectKind} (hm : Issues record m kinds s)
    (hf : ∀ a s', outcome m s = (.ok a, s') → Issues record (f a) more s') :
    Issues record (m >>= f) (kinds ++ more) s := by
  obtain ⟨calls, hcalls, hkinds⟩ := hm
  rcases hx : outcome m s with ⟨x, s'⟩
  rw [hx] at hcalls hkinds
  cases x with
  | error fault =>
    refine ⟨calls, ?_, ?_⟩
    · rw [Outcome.bind_of_error hx]
      exact hcalls
    · rw [Outcome.bind_of_error hx, Fulfils, List.map_append]
      exact ⟨hkinds.1, hkinds.2.trans (List.prefix_append _ _)⟩
  | ok a =>
    obtain ⟨calls', hcalls', hkinds'⟩ := hf a s' hx
    rw [← Outcome.bind_of_ok hx] at hcalls' hkinds'
    refine ⟨calls ++ calls', by rw [hcalls', hcalls, List.append_assoc], ?_⟩
    have hfirst : calls.map Call.makes = kinds.map some := hkinds
    cases hy : (outcome (m >>= f) s).1 with
    | ok b =>
      rw [hy] at hkinds'
      rw [Fulfils, List.map_append, List.map_append, hfirst, hkinds']
    | error fault =>
      rw [hy] at hkinds'
      refine ⟨List.append_ne_nil_of_right_ne_nil _ hkinds'.1, ?_⟩
      rw [List.map_append, List.map_append, hfirst]
      exact (List.prefix_append_right_inj _).mpr hkinds'.2

theorem bind_cons {m : ExceptT Fault (StateM σ) α} {f : α → ExceptT Fault (StateM σ) β}
    {kind : ObjectKind} {more : List ObjectKind} (hm : Issues record m [kind] s)
    (hf : ∀ a s', outcome m s = (.ok a, s') → Issues record (f a) more s') :
    Issues record (m >>= f) (kind :: more) s := hm.bind hf

theorem bind_silent {m : ExceptT Fault (StateM σ) α} {f : α → ExceptT Fault (StateM σ) β}
    {kinds : List ObjectKind} (hm : Issues record m kinds s)
    (hf : ∀ a s', Issues record (f a) [] s') : Issues record (m >>= f) kinds s := by
  rw [← List.append_nil kinds]
  exact hm.bind fun a s' _ => hf a s'

theorem adapt {m : ExceptT Fault (StateM σ) α} {kinds : List ObjectKind}
    (hm : Issues record m kinds s) (f : Fault → Fault) : Issues record (m.adapt f) kinds s := by
  obtain ⟨calls, hcalls, hkinds⟩ := hm
  exact ⟨calls, hcalls, hkinds.mapError f⟩

/-- A loop of which every step asks for one object, wherever the steps before it have led to. -/
theorem mapM {γ : Type} {R : σ → σ → Prop} [IsPreorder σ R] {f : γ → ExceptT Fault (StateM σ) α}
    {kind : ObjectKind} (hkeeps : ∀ c, Keeps R (f c))
    (hf : ∀ c s', R s s' → Issues record (f c) [kind] s') (l : List γ) {s₁ : σ} (hs₁ : R s s₁) :
    Issues record (l.mapM f) (List.replicate l.length kind) s₁ := by
  induction l generalizing s₁ with
  | nil => exact silent rfl rfl
  | cons c rest ih =>
    rw [List.mapM_cons, List.length_cons, List.replicate_succ]
    refine (hf c s₁ hs₁).bind_cons fun a s₂ ha => ?_
    have hs₂ : R s s₂ := trans_of R hs₁ ((hkeeps c).of_outcome_eq ha)
    exact (ih hs₂).bind_silent fun _ _ => silent rfl rfl

end Issues

end Issues

theorem Device.Speaks.issues {call : Call} {m : DeviceM α} (h : Device.Speaks call m)
    {kind : ObjectKind} (hmakes : call.makes = some kind) (d : Device) :
    Issues Device.trace m [kind] d := by
  refine ⟨[call], h.recorded d, ?_⟩
  have hkinds : [call].map Call.makes = [kind].map some := by rw [List.map_singleton, hmakes]; rfl
  cases (outcome m d).1 with
  | ok a => exact hkinds
  | error fault => exact ⟨List.cons_ne_nil _ _, hkinds ▸ List.prefix_rfl⟩

namespace Rig

theorem issues_onDevice {m : DeviceM α} {kinds : List ObjectKind} {r : Rig} {d : Device}
    (hdevice : r.device = some d) (h : Issues Device.trace m kinds d) :
    Issues trace (onDevice m) kinds r := by
  obtain ⟨calls, hcalls, hkinds⟩ := h
  refine ⟨calls, ?_, ?_⟩
  · rw [outcome_onDevice_of_some hdevice, trace, trace, hdevice]
    exact hcalls
  · rw [outcome_onDevice_of_some hdevice]
    exact hkinds

/-! ## Building in order -/

theorem issues_buildLayout {r : Rig} {d : Device} (hdevice : r.device = some d) :
    Issues trace buildLayout (List.replicate r.groups.length .layout) r := by
  have hlayout : ∀ group r₁, Continues r r₁ → Issues trace (createLayout group) [.layout] r₁ := by
    intro group r₁ hgone
    obtain ⟨d₁, hdevice₁, -⟩ := hgone.device hdevice
    obtain ⟨m, hm, hmakes⟩ := createLayout_makes r₁ group
    unfold Issues
    rw [hm]
    exact issues_onDevice hdevice₁ (hmakes.issues rfl d₁)
  have hloop := Issues.mapM continues_createLayout hlayout r.groups (refl_of Continues r)
  unfold Issues buildLayout
  rw [Outcome.get_bind]
  exact hloop.bind_silent fun _ _ => Issues.silent rfl rfl

theorem issues_buildGroups {layout : Layout} {r : Rig} {d : Device} (hdevice : r.device = some d)
    (hfits : layout.signature = r.signature) (hlaid : r.Laid layout.handles) :
    Issues trace (buildGroups layout) (List.replicate r.groups.length .group) r := by
  have hgroup : ∀ (place : Nat × Ref .layout) r₁, Continues r r₁ →
      Issues trace (createGroup place.1 place.2) [.group] r₁ := by
    intro place r₁ hgone
    obtain ⟨d₁, hdevice₁, -⟩ := hgone.device hdevice
    obtain ⟨m, hm, hmakes⟩ := createGroup_makes r₁ place.1 place.2
    unfold Issues
    rw [hm]
    exact issues_onDevice hdevice₁ (hmakes.issues rfl d₁)
  have hlength : (r.groups.zip layout.handles).length = r.groups.length := by
    rw [List.length_zip, ← hlaid.length_eq, Nat.min_self]
  have hloop := Issues.mapM continues_createGroup hgroup (r.groups.zip layout.handles)
    (refl_of Continues r)
  rw [hlength] at hloop
  unfold Issues
  rw [outcome_buildGroups, if_pos hfits]
  exact hloop

theorem issues_buildPipeline (label sourceText entryPoint : String) (layouts : List (Ref .layout))
    (d : Device) :
    Issues Device.trace (buildPipeline label sourceText entryPoint layouts)
      [.shader, .pipelineLayout, .pipeline] d := by
  refine ((Device.makes_createShader _ _).issues rfl d).bind_cons fun shader d₁ _ => ?_
  refine ((Device.makes_createPipelineLayout _ _).issues rfl d₁).bind_cons fun layout d₂ _ => ?_
  exact ((Device.makes_createPipeline _ _ _ _).issues rfl d₂).bind_silent
    fun _ _ => Issues.silent rfl rfl

theorem issues_compile {layout : Layout} {signature : Signature} {r : Rig} {d : Device}
    (hdevice : r.device = some d) (hfits : layout.signature = signature)
    (sourceText entryPoint : String) :
    Issues trace (compile sourceText entryPoint layout signature)
      [.shader, .pipelineLayout, .pipeline] r := by
  unfold Issues
  rw [outcome_compile_of_eq hfits]
  refine Issues.bind_silent ?_ fun _ _ => Issues.silent rfl rfl
  exact (issues_onDevice hdevice (issues_buildPipeline _ _ _ _ d)).adapt _

end Rig

/-! ## Work that does not compile -/

/-- The call is one of those that compiling makes. -/
def Call.compiles : Call → Bool
  | .createShader .. | .createPipelineLayout .. | .createPipeline .. => true
  | _ => false

namespace Rig

theorem outcome_onDevice_bind (m : DeviceM α) (f : α → DeviceM β) (r : Rig) :
    outcome (onDevice (m >>= f)) r = outcome (onDevice m >>= fun a => onDevice (f a)) r := by
  cases hdevice : r.device with
  | none =>
    rw [outcome_onDevice_of_none hdevice, Outcome.bind_of_error (outcome_onDevice_of_none hdevice m)]
  | some d =>
    have hfirst := outcome_onDevice_of_some hdevice m
    rw [outcome_onDevice_of_some hdevice]
    rcases hx : outcome m d with ⟨x, d'⟩
    rw [hx] at hfirst
    cases x with
    | error fault => rw [Outcome.bind_of_error hx, Outcome.bind_of_error hfirst]
    | ok a =>
      rw [Outcome.bind_of_ok hx, Outcome.bind_of_ok hfirst, outcome_onDevice_of_some rfl]

/-- The relation is kept by every call but those that compiling makes, and wherever the device is left
alone. -/
structure KeptByOtherCalls (R : Rig → Rig → Prop) : Prop where
  speaks : ∀ {α : Type} {call : Call} {m : DeviceM α}, Device.Speaks call m →
    call.compiles = false → Keeps R (onDevice m)
  device : ∀ {r r' : Rig}, r'.device = r.device → R r r'

namespace KeptByOtherCalls

variable {R : Rig → Rig → Prop}

theorem modify (h : KeptByOtherCalls R) {f : Rig → Rig} (hf : ∀ r, (f r).device = r.device) :
    Keeps R (modify f : RigM PUnit) := Keeps.modify fun r => h.device (hf r)

theorem report (h : KeptByOtherCalls R) (e : Event) : Keeps R (report e) := h.modify fun _ => rfl

variable [IsPreorder Rig R]

theorem buildLayout (h : KeptByOtherCalls R) : Keeps R buildLayout :=
  keeps_buildLayout fun _ _ => h.speaks (Device.makes_createLayout _ _).toSpeaks rfl

theorem buildGroups (h : KeptByOtherCalls R) (layout : Layout) : Keeps R (buildGroups layout) :=
  keeps_buildGroups (fun _ _ _ => h.speaks (Device.makes_createGroup _ _ _).toSpeaks rfl) layout

theorem onDevice_bind {m : DeviceM α} {f : α → DeviceM β} (hm : Keeps R (onDevice m))
    (hf : ∀ a, Keeps R (onDevice (f a))) : Keeps R (onDevice (m >>= f)) := by
  intro r
  rw [outcome_onDevice_bind]
  exact hm.bind hf r

theorem onDevice_forM (h : KeptByOtherCalls R) {f : α → DeviceM PUnit}
    (hf : ∀ a, Keeps R (onDevice (f a))) (l : List α) : Keeps R (onDevice (l.forM f)) := by
  induction l with
  | nil =>
    intro r
    refine h.device ?_
    cases hdevice : r.device with
    | none => rw [outcome_onDevice_of_none hdevice, hdevice]
    | some d =>
      rw [outcome_onDevice_of_some hdevice]
      rfl
  | cons a rest ih =>
    rw [Outcome.forM_cons]
    exact onDevice_bind (hf a) fun _ => ih

theorem encodePass (h : KeptByOtherCalls R) (label : String) (encoder : Ref .encoder)
    (pipeline : Ref .pipeline) (groups : List (Ref .group)) (counts : List Nat) :
    Keeps R (onDevice (encodePass label encoder pipeline groups counts)) := by
  refine onDevice_bind (h.speaks (Device.makes_beginPass _ _).toSpeaks rfl) fun pass => ?_
  refine onDevice_bind (h.speaks (Device.speaks_setPipeline pass _) rfl) fun _ => ?_
  refine onDevice_bind (h.onDevice_forM ?_ _) fun _ => ?_
  · rintro ⟨group, index⟩
    exact h.speaks (Device.speaks_setGroup pass index group) rfl
  · exact onDevice_bind (h.speaks (Device.speaks_dispatch pass _) rfl) fun _ =>
      h.speaks (Device.speaks_endPass pass) rfl

theorem execute (h : KeptByOtherCalls R) (artifact : Artifact) (groups : List (Ref .group))
    (counts : Value) : Keeps R (execute artifact groups counts) :=
  keeps_execute (fun _ => h.speaks (Device.makes_createEncoder _).toSpeaks rfl) h.encodePass
    (fun _ _ _ _ => h.speaks (Device.speaks_copy _ _ _ _) rfl)
    (fun _ => h.speaks (Device.makes_finish _).toSpeaks rfl)
    (fun _ => h.speaks (Device.speaks_submit _) rfl) (h.modify fun _ => rfl) h.report artifact groups
    counts

theorem readBack (h : KeptByOtherCalls R) (waiting : Waiting) : Keeps R (readBack waiting) :=
  keeps_readBack (fun _ _ => h.speaks (Device.speaks_map _ _) rfl)
    (fun _ => h.speaks (Device.speaks_readMapped _) rfl)
    (fun _ => h.speaks (Device.speaks_unmap _) rfl) waiting

theorem registerInput (h : KeptByOtherCalls R) (name : String) (data group : Value) :
    Keeps R (registerInput name data group) := by
  refine Keeps.get.bind fun r => (Keeps.liftExcept _).bind fun checked => ?_
  refine (h.speaks (Device.makes_createBuffer _ _ _).toSpeaks rfl).bind fun buffer => ?_
  refine (h.speaks (Device.speaks_writeBuffer _ _) rfl).bind fun _ => ?_
  refine Keeps.bind (h.modify fun _ => rfl) fun _ => ?_
  exact (h.report _).bind fun _ => Keeps.pure _

theorem registerOutput (h : KeptByOtherCalls R) (name link : String) (data : Value) :
    Keeps R (registerOutput name link data) := by
  refine Keeps.get.bind fun r => (Keeps.liftExcept _).bind fun checked => ?_
  refine (h.speaks (Device.makes_createBuffer _ _ _).toSpeaks rfl).bind fun buffer => ?_
  refine Keeps.bind (h.modify fun _ => rfl) fun _ => ?_
  exact (h.report _).bind fun _ => Keeps.pure _

theorem release (h : KeptByOtherCalls R) : Keeps R release :=
  keeps_release (fun _ => h.speaks (Device.speaks_destroy _) rfl) fun _ hdevice _ => h.modify hdevice

end KeptByOtherCalls

end Rig

/-! ## Pipelines -/

/-- A call that makes no object of the kind leaves the number of these objects alone. -/
theorem Device.Speaks.tally_eq {call : Call} {m : DeviceM α} (h : Device.Speaks call m)
    {kind : ObjectKind} (hmakes : call.makes ≠ some kind) (d : Device) :
    (outcome m d).2.tally kind = d.tally kind := by
  obtain ⟨calls, htrace, htally⟩ := (h.grows d).calls
  rw [h.recorded d, List.append_cancel_left_eq] at htrace
  rw [htally, ← htrace, making_singleton, if_neg fun hmade => hmakes hmade.2, List.length_nil,
    Nat.add_zero]

namespace Rig

/-- How many pipelines the device has made. -/
def pipelines (r : Rig) : Nat :=
  match r.device with
  | some d => d.tally .pipeline
  | none => 0

theorem pipelines_onDevice {m : DeviceM α} {r : Rig} {d : Device} (hdevice : r.device = some d) :
    (outcome (onDevice m) r).2.pipelines = (outcome m d).2.tally .pipeline := by
  rw [outcome_onDevice_of_some hdevice, pipelines]

/-- No pipeline has been made. -/
def SamePipelines (r r' : Rig) : Prop := r'.pipelines = r.pipelines

instance : IsPreorder Rig SamePipelines where
  refl _ := rfl
  trans _ _ _ h h' := h'.trans h

theorem samePipelines_otherCalls : KeptByOtherCalls SamePipelines where
  speaks := by
    intro α call m hm hcall r
    have hmakes : call.makes ≠ some .pipeline := by
      intro hmakes
      cases call <;> simp_all [Call.makes, Call.compiles]
    unfold SamePipelines
    cases hdevice : r.device with
    | none => rw [outcome_onDevice_of_none hdevice]
    | some d => rw [pipelines_onDevice hdevice, hm.tally_eq hmakes, pipelines, hdevice]
  device := by
    intro r r' hdevice
    rw [SamePipelines, pipelines, hdevice, pipelines]

end Rig

section Counts

variable {σ : Type} {count : σ → Nat} {s : σ}

/-- The count goes up by one if the computation succeeds, and stays as it is if it fails. -/
def Counts (count : σ → Nat) (m : ExceptT Fault (StateM σ) α) (s : σ) : Prop :=
  count (outcome m s).2 = count s + if (outcome m s).1.isOk then 1 else 0

theorem Counts.after {m : ExceptT Fault (StateM σ) α} {f : α → ExceptT Fault (StateM σ) β}
    (hm : count (outcome m s).2 = count s)
    (hf : ∀ a s', outcome m s = (.ok a, s') → Counts count (f a) s') :
    Counts count (m >>= f) s := by
  rcases hx : outcome m s with ⟨x, s'⟩
  rw [hx] at hm
  cases x with
  | error fault =>
    rw [Counts, Outcome.bind_of_error hx]
    exact hm
  | ok a =>
    rw [Counts, Outcome.bind_of_ok hx, hf a s' hx, hm]

theorem Counts.before {m : ExceptT Fault (StateM σ) α} {f : α → ExceptT Fault (StateM σ) β}
    (hm : Counts count m s)
    (hf : ∀ a s', ∃ b s'', outcome (f a) s' = (.ok b, s'') ∧ count s'' = count s') :
    Counts count (m >>= f) s := by
  unfold Counts at hm ⊢
  rcases hx : outcome m s with ⟨x, s'⟩
  rw [hx] at hm
  cases x with
  | error fault =>
    rw [Outcome.bind_of_error hx]
    exact hm
  | ok a =>
    obtain ⟨b, s'', hb, hcount⟩ := hf a s'
    rw [Outcome.bind_of_ok hx, hb, hcount, hm]
    rfl

theorem Counts.adapt {m : ExceptT Fault (StateM σ) α} (hm : Counts count m s) (f : Fault → Fault) :
    Counts count (m.adapt f) s := by
  unfold Counts at hm ⊢
  rw [Outcome.adapt_eq, hm]
  cases (outcome m s).1 with
  | ok a => rfl
  | error fault => rfl

end Counts

namespace Rig

theorem counts_createPipeline (label : String) (layout : Ref .pipelineLayout) (shader : Ref .shader)
    (entryPoint : String) (d : Device) :
    Counts (Device.tally · .pipeline) (Device.createPipeline label layout shader entryPoint) d := by
  unfold Counts Device.createPipeline
  cases hfail : d.failures d.trace (.createPipeline label layout shader entryPoint) with
  | some fault =>
    rw [Device.outcome_call_of_some hfail]
    exact Device.tally_called d _ _
  | none =>
    rw [Device.outcome_call_of_none hfail]
    rfl

theorem counts_buildPipeline (label sourceText entryPoint : String) (layouts : List (Ref .layout))
    (d : Device) :
    Counts (Device.tally · .pipeline) (buildPipeline label sourceText entryPoint layouts) d := by
  refine Counts.after ((Device.makes_createShader _ _).tally_eq (by simp [Call.makes]) d) ?_
  intro shader d₁ _
  refine Counts.after ((Device.makes_createPipelineLayout _ _).tally_eq (by simp [Call.makes]) d₁) ?_
  intro layout d₂ _
  exact (counts_createPipeline _ _ _ _ d₂).before fun _ d₃ => ⟨_, d₃, rfl, rfl⟩

/-- **A pipeline is made exactly if a shader is compiled.** -/
theorem counts_compile {layout : Layout} {signature : Signature}
    (hfits : layout.signature = signature) (sourceText entryPoint : String) (r : Rig) :
    Counts pipelines (compile sourceText entryPoint layout signature) r := by
  unfold Counts
  rw [outcome_compile_of_eq hfits]
  refine Counts.before (Counts.adapt ?_ _) fun _ r₁ => ⟨_, _, rfl, rfl⟩
  unfold Counts
  cases hdevice : r.device with
  | none =>
    rw [outcome_onDevice_of_none hdevice]
    rfl
  | some d =>
    rw [pipelines_onDevice hdevice, outcome_onDevice_of_some hdevice, pipelines, hdevice]
    exact counts_buildPipeline _ _ _ _ d

end Rig

end KernelShader
