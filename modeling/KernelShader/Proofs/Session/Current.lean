/-
`Current.lean` -- what has been compiled is what would be compiled now.

A dispatch uses the artifact and the bind groups at hand without looking at the shader again. That is
sound because every operation that changes the text of the shader or its inputs forgets both, and because
building leaves a matching pair, or an artifact alone, or nothing, wherever the device fails. `Current` is
that statement: the artifact at hand fits the shader as it stands, its parts are on the device, and the
bind groups at hand were made under its layouts.

An operation either leaves the pair alone while the shader stays the same and the device goes on
(`Untouched`), or it forgets the pair; only building is neither.
-/
import KernelShader.Proofs.Rig.Register
import KernelShader.Proofs.Session.Confirm

set_option autoImplicit false

namespace KernelShader.Session

open Rig (Continues)

/-! ## The same shader on the same buffers -/

/-- The shader reads the same and is for the same buffers, and the device has gone on. -/
structure SameShader (s s' : Session) : Prop where
  text : s'.shaderText = s.shaderText
  entry : s'.store.entry?.map Transcript.name = s.store.entry?.map Transcript.name
  rig : Continues s.rig s'.rig

instance : IsPreorder Session SameShader where
  refl s := ⟨rfl, rfl, refl_of Continues s.rig⟩
  trans _ _ _ h h' := ⟨h'.text.trans h.text, h'.entry.trans h.entry, trans_of Continues h.rig h'.rig⟩

theorem SameShader.isSome_entry {s s' : Session} (h : SameShader s s') :
    s'.store.entry?.isSome = s.store.entry?.isSome := by
  rw [← Option.isSome_map (f := Transcript.name), h.entry, Option.isSome_map]

/-- Besides, the artifact and the bind groups at hand are the same. -/
structure Untouched (s s' : Session) : Prop extends SameShader s s' where
  artifact : s'.artifact = s.artifact
  bindGroups : s'.bindGroups = s.bindGroups

instance : IsPreorder Session Untouched where
  refl s := ⟨refl_of SameShader s, rfl, rfl⟩
  trans _ _ _ h h' := ⟨trans_of SameShader h.toSameShader h'.toSameShader,
    h'.artifact.trans h.artifact, h'.bindGroups.trans h.bindGroups⟩

/-- The text of the shader depends on the rig by its inputs alone. -/
theorem shaderText_of_continues {s s' : Session} (hstore : s'.store = s.store)
    (hbodies : s'.bodies = s.bodies) (hrig : Continues s.rig s'.rig) :
    s'.shaderText = s.shaderText := by
  have hheader : s'.rig.header = s.rig.header := by rw [Rig.header, hrig.inputs, Rig.header]
  rw [shaderText, source, hstore, hbodies, hheader, shaderText, source]

theorem sameShader_of_continues {s s' : Session} (hstore : s'.store = s.store)
    (hbodies : s'.bodies = s.bodies) (hrig : Continues s.rig s'.rig) : SameShader s s' :=
  ⟨shaderText_of_continues hstore hbodies hrig, by rw [hstore], hrig⟩

theorem untouched_rig (s : Session) {r : Rig} (h : Continues s.rig r) :
    Untouched s { s with rig := r } :=
  ⟨sameShader_of_continues rfl rfl h, rfl, rfl⟩

theorem untouched_onRig {α : Type} {work : RigM α} (hwork : Keeps Continues work) :
    Keeps Untouched (onRig work) := by
  intro s
  rw [outcome_onRig]
  exact untouched_rig s (hwork s.rig)

theorem continues_log (r : Rig) (log : List Event) : Continues r { r with log } :=
  ⟨rfl, rfl, rfl, rfl, id, fun {d} hd => ⟨d, hd, refl_of Device.Extends d⟩⟩

theorem untouched_logging (s : Session) (events : List Event) : Untouched s (s.logging events) :=
  untouched_rig s (continues_log s.rig _)

/-! ## What has been compiled -/

/-- The artifact is one for the shader as it stands, and the device has its parts. -/
structure Fits (s : Session) (a : Artifact) : Prop where
  text : s.shaderText = .ok a.sourceText
  entry : s.store.entry?.map Transcript.name = some a.entryPoint
  signature : a.signature = s.rig.signature
  laid : s.rig.Laid a.layout.handles
  built : s.rig.Built a

theorem Fits.sameShader {s s' : Session} {a : Artifact} (h : s.Fits a) (hsame : SameShader s s') :
    s'.Fits a where
  text := hsame.text.trans h.text
  entry := hsame.entry.trans h.entry
  signature := by rw [h.signature, hsame.rig.signature_eq]
  laid := h.laid.continues hsame.rig
  built := h.built.continues hsame.rig

/-- An artifact at hand fits, and bind groups at hand belong to it. -/
structure Current (s : Session) : Prop where
  fits : ∀ {a}, s.artifact = some a → s.Fits a
  bound : ∀ {groups}, s.bindGroups = some groups →
    ∃ a, s.artifact = some a ∧ s.rig.Bound a.layout.handles groups

theorem current_of_none {s : Session} (hartifact : s.artifact = none)
    (hgroups : s.bindGroups = none) : s.Current := by
  refine ⟨fun {a} ha => ?_, fun {groups} hg => ?_⟩
  · rw [hartifact] at ha
    exact nomatch ha
  · rw [hgroups] at hg
    exact nomatch hg

theorem Current.untouched {s s' : Session} (h : s.Current) (hsame : Untouched s s') :
    s'.Current := by
  refine ⟨fun {a} ha => ?_, fun {groups} hg => ?_⟩
  · exact (h.fits (hsame.artifact ▸ ha)).sameShader hsame.toSameShader
  · obtain ⟨a, ha, hbound⟩ := h.bound (hsame.bindGroups ▸ hg)
    exact ⟨a, hsame.artifact.trans ha, hbound.continues hsame.rig⟩

/-! ## Registering and closing -/

/-- Work on the rig that changes its buffers only when it succeeds, and after which the pair is
forgotten. -/
theorem Current.forgetting {α : Type} {work : RigM α} {s : Session} (h : s.Current)
    (hwork : ∀ fault r, outcome work s.rig = (.error fault, r) → Continues s.rig r) :
    (outcome (onRig work >>= fun a => invalidate >>= fun _ => pure a) s).2.Current := by
  rcases hx : outcome work s.rig with ⟨x, r⟩
  cases x with
  | error fault =>
    rw [outcome_forgetting_of_error hx]
    exact h.untouched (untouched_rig s (hwork fault r hx))
  | ok a =>
    rw [outcome_forgetting_of_ok hx]
    exact current_of_none rfl rfl

theorem Current.registerInput {s : Session} (h : s.Current) (name : String) (data group : Value) :
    (outcome (registerInput name data group) s).2.Current :=
  h.forgetting fun _ _ hfault => (Rig.consults_of_registerInput_error hfault).toContinues

theorem Current.registerOutput {s : Session} (h : s.Current) (name link : String) (data : Value) :
    (outcome (registerOutput name link data) s).2.Current :=
  h.forgetting fun _ _ hfault => (Rig.consults_of_registerOutput_error hfault).toContinues

theorem current_close (s : Session) : (outcome close s).2.Current := by
  rw [outcome_close]
  exact current_of_none rfl rfl

/-! ## Building -/

/-- **What compiling does.** It forgets what was compiled before. Then it fails, for a reason other than
a layout that does not fit, or it leaves an artifact that fits; in both cases the shader is the same. -/
theorem compile_cases {s : Session} {text : String} {entry : Transcript}
    (htext : s.shaderText = .ok text) (hentry : s.store.entry? = some entry) :
    (∃ fault s', outcome (compile text entry.name s.rig.signature) s = (.error fault, s') ∧
      SameShader s s' ∧ s'.artifact = none ∧ s'.bindGroups = none ∧ fault.kind ≠ .layoutMismatch) ∨
    (∃ a s', outcome (compile text entry.name s.rig.signature) s = (.ok a, s') ∧
      SameShader s s' ∧ s'.artifact = some a ∧ s'.bindGroups = none ∧ s'.Fits a) := by
  unfold compile
  rw [Outcome.bind_of_ok (outcome_invalidate s), Outcome.bind_of_ok (outcome_report _ _)]
  -- from here on the old pair is gone, so a failure on the way leaves none behind
  set s₀ : Session := logging { s with artifact := none, bindGroups := none } [.compiling text]
  have hsame₀ : SameShader s s₀ := sameShader_of_continues rfl rfl (continues_log s.rig _)
  rcases hx : outcome Rig.buildLayout s₀.rig with ⟨x, r₁⟩
  have hrig₁ : outcome (onRig Rig.buildLayout) s₀ = (x, { s₀ with rig := r₁ }) := by
    rw [outcome_onRig, hx]
  have hgone₁ : Continues s₀.rig r₁ := Rig.continues_buildLayout.of_outcome_eq hx
  have hsame₁ : SameShader s { s₀ with rig := r₁ } :=
    trans_of SameShader hsame₀ (untouched_rig s₀ hgone₁).toSameShader
  cases x with
  | error fault =>
    rw [Outcome.bind_of_error hrig₁]
    exact Or.inl ⟨fault, _, rfl, hsame₁, rfl, rfl, Rig.kind_of_buildLayout _ _ _ hx⟩
  | ok layout =>
    rw [Outcome.bind_of_ok hrig₁]
    obtain ⟨hsignature, hlaid, -⟩ := Rig.buildLayout_eq_ok hx
    have hfits : layout.signature = s.rig.signature := hsignature
    rcases hy : outcome (Rig.compile text entry.name layout s.rig.signature) r₁ with ⟨y, r₂⟩
    have hrig₂ : outcome (onRig (Rig.compile text entry.name layout s.rig.signature))
        { s₀ with rig := r₁ } = (y, { s₀ with rig := r₂ }) := by
      rw [outcome_onRig, hy]
    have hgone₂ : Continues r₁ r₂ := (Rig.continues_compile _ _ _ _).of_outcome_eq hy
    have hsame₂ : SameShader s { s₀ with rig := r₂ } :=
      trans_of SameShader hsame₁ (untouched_rig { s₀ with rig := r₁ } hgone₂).toSameShader
    cases y with
    | error fault =>
      rw [Outcome.bind_of_error hrig₂]
      exact Or.inl ⟨fault, _, rfl, hsame₂, rfl, rfl, Rig.kind_of_compile hfits hy⟩
    | ok a =>
      rw [Outcome.bind_of_ok hrig₂]
      obtain ⟨-, hlayout, hname, hsource, hbuilt⟩ := Rig.compile_eq_ok hy
      have hsame₃ : SameShader s { s₀ with rig := r₂, artifact := some a } :=
        ⟨hsame₂.text, hsame₂.entry, hsame₂.rig⟩
      refine Or.inr ⟨a, { s₀ with rig := r₂, artifact := some a }, rfl, hsame₃, rfl, rfl, ?_⟩
      refine ⟨?_, ?_, ?_, ?_, hbuilt⟩
      · rw [hsame₃.text, htext, hsource]
      · rw [hsame₃.entry, hentry, hname]
        rfl
      · rw [Artifact.signature, hlayout, hfits]
        exact hsame₃.rig.signature_eq.symm
      · rw [hlayout]
        exact hlaid.continues hgone₂

/-- **What making bind groups does.** Under an artifact that fits it fails and leaves the pair alone, for
a reason other than a layout that does not fit, or it completes the pair. -/
theorem bindTo_cases {s : Session} {a : Artifact} (hfits : s.Fits a) :
    (∃ fault s', outcome (bindTo a) s = (.error fault, s') ∧ Untouched s s' ∧
      fault.kind ≠ .layoutMismatch) ∨
    (∃ groups s', outcome (bindTo a) s = (.ok a, s') ∧ SameShader s s' ∧
      s'.artifact = s.artifact ∧ s'.bindGroups = some groups ∧
      s'.rig.Bound a.layout.handles groups) := by
  unfold bindTo
  rcases hx : outcome (Rig.buildGroups a.layout) s.rig with ⟨x, r⟩
  have hrig : outcome (onRig (Rig.buildGroups a.layout)) s = (x, { s with rig := r }) := by
    rw [outcome_onRig, hx]
  have hgone : Continues s.rig r := (Rig.continues_buildGroups a.layout).of_outcome_eq hx
  cases x with
  | error fault =>
    rw [Outcome.bind_of_error hrig]
    exact Or.inl ⟨fault, _, rfl, untouched_rig s hgone, Rig.kind_of_buildGroups hfits.signature hx⟩
  | ok groups =>
    rw [Outcome.bind_of_ok hrig]
    refine Or.inr ⟨groups, { s with rig := r, bindGroups := some groups }, rfl, ?_, rfl, rfl, ?_⟩
    · exact sameShader_of_continues rfl rfl hgone
    · exact (Rig.buildGroups_eq_ok hx).2.1

theorem outcome_build_of_none {s : Session} (hentry : s.store.entry? = none) :
    outcome build s = (.error .noEntry, s) := by
  rw [build_eq, Outcome.get_bind, hentry]
  rfl

theorem outcome_build_of_error {s : Session} {entry : Transcript} {fault : Fault}
    (hentry : s.store.entry? = some entry) (htext : s.shaderText = .error fault) :
    outcome build s = (.error fault, s) := by
  have hlift : outcome (liftExcept s.shaderText : SessionM String) s = (.error fault, s) := by
    rw [Outcome.liftExcept_eq, htext]
  rw [build_eq, Outcome.get_bind, hentry]
  exact Outcome.bind_of_error hlift _

theorem outcome_build_of_some {s : Session} {entry : Transcript} {text : String}
    (hentry : s.store.entry? = some entry) (htext : s.shaderText = .ok text) :
    outcome build s = outcome (match s.usable? text entry.name s.rig.signature with
      | some artifact => bindTo artifact
      | none => compile text entry.name s.rig.signature >>= bindTo) s := by
  have hlift : outcome (liftExcept s.shaderText : SessionM String) s = (.ok text, s) := by
    rw [Outcome.liftExcept_eq, htext]
  rw [build_eq, Outcome.get_bind, hentry]
  exact Outcome.bind_of_ok hlift _

/-- An artifact is used again only if it is the one at hand. -/
theorem artifact_of_usable? {s : Session} {text entryPoint : String} {signature : Signature}
    {a : Artifact} (h : s.usable? text entryPoint signature = some a) : s.artifact = some a := by
  unfold usable? at h
  exact (Option.filter_eq_some_iff.mp h).1

/-- The computation fails for a reason other than a layout that does not fit, or it leaves an artifact
with bind groups. In both cases what is at hand is current and the shader is the same. -/
def Builds (m : SessionM Artifact) (s : Session) : Prop :=
  (∃ fault s', outcome m s = (.error fault, s') ∧ SameShader s s' ∧ s'.Current ∧
    fault.kind ≠ .layoutMismatch) ∨
  (∃ a groups s', outcome m s = (.ok a, s') ∧ SameShader s s' ∧ s'.Current ∧
    s'.artifact = some a ∧ s'.bindGroups = some groups)

theorem Current.builds_bindTo {s : Session} (h : s.Current) {a : Artifact}
    (ha : s.artifact = some a) : Builds (bindTo a) s := by
  rcases bindTo_cases (h.fits ha) with
    ⟨fault, s', hout, hsame, hkind⟩ | ⟨groups, s', hout, hsame, hartifact, hgroups, hbound⟩
  · exact Or.inl ⟨fault, s', hout, hsame.toSameShader, h.untouched hsame, hkind⟩
  · have ha' : s'.artifact = some a := hartifact.trans ha
    refine Or.inr ⟨a, groups, s', hout, hsame, ⟨fun {b} hb => ?_, fun {gs} hgs => ?_⟩, ha', hgroups⟩
    · rw [ha', Option.some.injEq] at hb
      rw [← hb]
      exact (h.fits ha).sameShader hsame
    · rw [hgroups, Option.some.injEq] at hgs
      rw [← hgs]
      exact ⟨a, ha', hbound⟩

theorem Builds.of_sameShader {m : SessionM Artifact} {s s₁ : Session} (hsame : SameShader s s₁)
    {m' : SessionM Artifact} (hout : outcome m' s = outcome m s₁) (h : Builds m s₁) :
    Builds m' s := by
  unfold Builds
  rw [hout]
  rcases h with ⟨fault, s₂, hm, hsame₂, hcurrent, hkind⟩ | ⟨a, groups, s₂, hm, hsame₂, hmore⟩
  · exact Or.inl ⟨fault, s₂, hm, trans_of SameShader hsame hsame₂, hcurrent, hkind⟩
  · exact Or.inr ⟨a, groups, s₂, hm, trans_of SameShader hsame hsame₂, hmore⟩

theorem builds_compile {s : Session} {text : String} {entry : Transcript}
    (htext : s.shaderText = .ok text) (hentry : s.store.entry? = some entry) :
    Builds (compile text entry.name s.rig.signature >>= bindTo) s := by
  rcases compile_cases htext hentry with
    ⟨fault, s₁, hout, hsame, ha, hg, hkind⟩ | ⟨a, s₁, hout, hsame, ha, hg, hfits⟩
  · exact Or.inl ⟨fault, s₁, Outcome.bind_of_error hout _, hsame, current_of_none ha hg, hkind⟩
  · have hcurrent : s₁.Current := by
      refine ⟨fun {b} hb => ?_, fun {gs} hgs => ?_⟩
      · rw [ha, Option.some.injEq] at hb
        exact hb ▸ hfits
      · rw [hg] at hgs
        exact nomatch hgs
    exact (hcurrent.builds_bindTo ha).of_sameShader hsame (Outcome.bind_of_ok hout bindTo)

/-- **What building does.** -/
theorem Current.builds {s : Session} (hstep : s.InStep) (h : s.Current) : Builds build s := by
  cases hentry : s.store.entry? with
  | none =>
    exact Or.inl ⟨.noEntry, s, outcome_build_of_none hentry, refl_of SameShader s, h,
      FaultKind.noConfusion⟩
  | some entry =>
    cases htext : s.shaderText with
    | error fault =>
      refine Or.inl ⟨fault, s, outcome_build_of_error hentry htext, refl_of SameShader s, h, ?_⟩
      rw [hstep.failsWith_shaderText fault htext]
      exact FaultKind.noConfusion
    | ok text =>
      have hout := outcome_build_of_some hentry htext
      cases husable : s.usable? text entry.name s.rig.signature with
      | some a =>
        rw [husable] at hout
        exact (h.builds_bindTo (artifact_of_usable? husable)).of_sameShader (refl_of SameShader s) hout
      | none =>
        rw [husable] at hout
        exact (builds_compile htext hentry).of_sameShader (refl_of SameShader s) hout

/-- Building does not fail because a layout does not fit. -/
theorem Current.kind_of_build {s s' : Session} (hstep : s.InStep) (h : s.Current) {fault : Fault}
    (hout : outcome build s = (.error fault, s')) : fault.kind ≠ .layoutMismatch := by
  rcases h.builds hstep with ⟨fault', s₁, hfail, -, -, hkind⟩ | ⟨a, groups, s₁, hok, -⟩
  · rw [hfail, Prod.mk.injEq, Except.error.injEq] at hout
    rw [← hout.1]
    exact hkind
  · rw [hok] at hout
    exact nomatch hout

/-! ## Dispatching -/

/-- The calls that the session has made to its device. -/
def trace (s : Session) : List Call := s.rig.trace

theorem adds_onRig {α β : Type} {view : Call → Option β} {work : RigM α} {seen : List β}
    (h : Adds Rig.trace view work seen) : Adds trace view (onRig work) seen := by
  intro s a s' hs
  rw [outcome_onRig, Prod.mk.injEq] at hs
  rw [← hs.2]
  exact h s.rig a _ (Prod.ext hs.1 rfl)

theorem adds_compile (text entryPoint : String) (signature : Signature) :
    Adds trace Call.passStep? (compile text entryPoint signature) [] := by
  refine Adds.silent_bind (Adds.silent fun _ => rfl) fun _ => ?_
  refine (adds_onRig (Rig.adds_report _)).silent_bind fun _ => ?_
  refine (adds_onRig Rig.adds_buildLayout).silent_bind fun layout => ?_
  refine (adds_onRig (Rig.adds_compile _ _ _ _)).silent_bind fun artifact => ?_
  exact Adds.silent fun _ => rfl

theorem adds_bindTo (artifact : Artifact) : Adds trace Call.passStep? (bindTo artifact) [] := by
  refine (adds_onRig (Rig.adds_buildGroups _)).silent_bind fun groups => ?_
  exact Adds.silent fun _ => rfl

/-- Building encodes no compute pass. -/
theorem adds_build : Adds trace Call.passStep? build [] := by
  rw [build_eq]
  refine Adds.get.silent_bind fun s => ?_
  cases s.store.entry? with
  | none => exact Adds.silent fun _ => rfl
  | some entry =>
    refine (Adds.liftExcept _).silent_bind fun text => ?_
    cases s.usable? text entry.name s.rig.signature with
    | some artifact => exact adds_bindTo artifact
    | none => exact (adds_compile _ _ _).silent_bind adds_bindTo

theorem outcome_dispatchBuilt {s : Session} {a : Artifact} {groups : List (Ref .group)}
    (ha : s.artifact = some a) (hg : s.bindGroups = some groups) (counts : Value) :
    outcome (dispatchBuilt counts) s = outcome (onRig (Rig.execute a groups counts)) s := by
  unfold dispatchBuilt
  rw [Outcome.get_bind, ha, hg]

theorem untouched_dispatchBuilt (counts : Value) : Keeps Untouched (dispatchBuilt counts) := by
  refine Keeps.get.bind fun s => ?_
  match s.artifact, s.bindGroups with
  | some a, some groups => exact untouched_onRig (Rig.continues_execute a groups counts)
  | some _, none => exact Keeps.pure _
  | none, _ => exact Keeps.pure _

theorem outcome_execute_of_built {s : Session} {a : Artifact} {groups : List (Ref .group)}
    (ha : s.artifact = some a) (hg : s.bindGroups = some groups) (counts : Value) :
    outcome (execute counts) s = outcome (dispatchBuilt counts) s := by
  have hbuilt : ¬ (s.artifact.isNone || s.bindGroups.isNone) = true := by
    rw [ha, hg]
    exact Bool.false_ne_true
  unfold execute
  rw [Outcome.get_bind, if_neg hbuilt]

theorem outcome_execute_of_missing {s : Session} (h : s.artifact = none ∨ s.bindGroups = none)
    (counts : Value) :
    outcome (execute counts) s = outcome (build >>= fun _ => dispatchBuilt counts) s := by
  have hmissing : (s.artifact.isNone || s.bindGroups.isNone) = true := by
    rcases h with h | h
    · rw [h]
      rfl
    · rw [h]
      exact Bool.or_true _
  unfold execute
  rw [Outcome.get_bind, if_pos hmissing]

/-- A dispatch of what is at hand leaves it at hand, with the steps of its compute pass on record. -/
theorem dispatchBuilt_eq_ok {s s' : Session} {a : Artifact} {groups : List (Ref .group)}
    {counts : Value} {u : Unit} (ha : s.artifact = some a) (hg : s.bindGroups = some groups)
    (h : outcome (dispatchBuilt counts) s = (.ok u, s')) :
    Untouched s s' ∧ ∃ ns calls, Workgroup.counts counts = .ok ns ∧ s'.trace = s.trace ++ calls ∧
      calls.filterMap Call.passStep? = Rig.passSteps a.pipeline groups ns := by
  refine ⟨(untouched_dispatchBuilt counts).of_outcome_eq h, ?_⟩
  rw [outcome_dispatchBuilt ha hg, outcome_onRig, Prod.mk.injEq] at h
  rw [← h.2]
  exact Rig.execute_eq_ok (Prod.ext h.1 rfl)

/-- The second session is the first after a dispatch with the given counts: the shader is the same, the
artifact and bind groups at hand are current, and the only compute pass on record since is one with
them. -/
def Dispatches (s s' : Session) (counts : Value) : Prop :=
  ∃ a groups ns calls, SameShader s s' ∧ s'.Current ∧ s'.artifact = some a ∧
    s'.bindGroups = some groups ∧ Workgroup.counts counts = .ok ns ∧ s'.trace = s.trace ++ calls ∧
    calls.filterMap Call.passStep? = Rig.passSteps a.pipeline groups ns

/-- A dispatch of the pair at hand, after calls that encode no compute pass. -/
theorem dispatches_of_built {s s₁ s' : Session} {a : Artifact} {groups : List (Ref .group)}
    {before : List Call} {counts : Value} {u : Unit} (hsame : SameShader s s₁)
    (hcurrent : s₁.Current) (ha : s₁.artifact = some a) (hg : s₁.bindGroups = some groups)
    (hbefore : s₁.trace = s.trace ++ before) (hsilent : before.filterMap Call.passStep? = [])
    (hout : outcome (dispatchBuilt counts) s₁ = (.ok u, s')) : Dispatches s s' counts := by
  obtain ⟨huntouched, ns, calls, hns, hcalls, hseen⟩ := dispatchBuilt_eq_ok ha hg hout
  refine ⟨a, groups, ns, before ++ calls, trans_of SameShader hsame huntouched.toSameShader,
    hcurrent.untouched huntouched, huntouched.artifact.trans ha, huntouched.bindGroups.trans hg,
    hns, ?_, ?_⟩
  · rw [hcalls, hbefore, List.append_assoc]
  · rw [List.filterMap_append, hsilent, List.nil_append, hseen]

/-- **What executing does.** If it succeeds it has dispatched a current pair, built before if there was
none. -/
theorem Current.dispatches {s s' : Session} (hstep : s.InStep) (h : s.Current) {counts : Value}
    {u : Unit} (hout : outcome (execute counts) s = (.ok u, s')) : Dispatches s s' counts := by
  by_cases hmissing : s.artifact = none ∨ s.bindGroups = none
  · rw [outcome_execute_of_missing hmissing] at hout
    obtain ⟨a, s₁, hbuild, hrest⟩ := Outcome.bind_eq_ok_iff.mp hout
    obtain ⟨before, hbefore, hsilent⟩ := adds_build s a s₁ hbuild
    rcases h.builds hstep with ⟨fault, s₂, hfail, -⟩ | ⟨a₂, groups, s₂, hok, hsame, hcurrent, ha, hg⟩
    · rw [hbuild] at hfail
      exact nomatch hfail
    · rw [hbuild, Prod.mk.injEq] at hok
      rw [hok.2] at hbefore hrest
      exact dispatches_of_built hsame hcurrent ha hg hbefore hsilent hrest
  · rw [not_or] at hmissing
    obtain ⟨a, ha⟩ := Option.ne_none_iff_exists'.mp hmissing.1
    obtain ⟨groups, hg⟩ := Option.ne_none_iff_exists'.mp hmissing.2
    rw [outcome_execute_of_built ha hg] at hout
    exact dispatches_of_built (refl_of SameShader s) h ha hg (List.append_nil _).symm rfl hout

/-! ## Operations and runs -/

/-- Being in step and current carries over. -/
def StaysCurrent (s s' : Session) : Prop := s.InStep ∧ s.Current → s'.InStep ∧ s'.Current

instance : IsPreorder Session StaysCurrent where
  refl _ := id
  trans _ _ _ h h' := fun hs => h' (h hs)

theorem staysCurrent_build : Keeps StaysCurrent build := by
  rintro s ⟨hstep, hcurrent⟩
  refine ⟨hstep.of_sameTexts (quiet_build s).toSameTexts, ?_⟩
  rcases hcurrent.builds hstep with ⟨fault, s', hout, -, hcurrent', -⟩ | ⟨_, _, s', hout, -, hcurrent', -⟩
  · rw [hout]
    exact hcurrent'
  · rw [hout]
    exact hcurrent'

theorem staysCurrent_dispatchBuilt (counts : Value) : Keeps StaysCurrent (dispatchBuilt counts) := by
  rintro s ⟨hstep, hcurrent⟩
  exact ⟨hstep.of_sameTexts (quiet_dispatchBuilt counts s).toSameTexts,
    hcurrent.untouched (untouched_dispatchBuilt counts s)⟩

theorem staysCurrent_execute (counts : Value) : Keeps StaysCurrent (execute counts) :=
  keeps_execute staysCurrent_build (staysCurrent_dispatchBuilt counts)

theorem staysCurrent_readBack (waiting : Waiting) : Keeps StaysCurrent (readBack waiting) := by
  rintro s ⟨hstep, hcurrent⟩
  exact ⟨hstep.of_sameTexts (quiet_readBack waiting s).toSameTexts,
    hcurrent.untouched (untouched_onRig (Rig.continues_readBack waiting) s)⟩

theorem staysCurrent_run (counts : Value) : Keeps StaysCurrent (run counts) :=
  keeps_run staysCurrent_build (staysCurrent_dispatchBuilt counts) (staysCurrent_readBack .sync)

/-- An edit does not change the shader as it stands. -/
theorem untouched_submitEdit {s : Session} {function variableName : String} {type : Value}
    {changed : Bool} {store : Store}
    (h : s.store.edit function variableName type = .ok (changed, store)) :
    Untouched s { s with store, edited := s.edited || changed } := by
  have houtline : store.outline = s.store.outline := Store.outline_of_edit h
  refine ⟨⟨?_, ?_, refl_of Continues s.rig⟩, rfl, rfl⟩
  · simp only [shaderText, source, Store.assemble_congr houtline]
  · rw [Store.map_name_entry?, houtline, Store.map_name_entry?]

/-- Where nothing is written again the pair is kept, and so are the texts it was made from. -/
theorem Current.revises {s s' : Session} (h : s.Current) (hrevises : Revises s s') : s'.Current := by
  cases hrevises with
  | logs events => exact h.untouched (untouched_logging s events)
  | rewrites edited hbodies => exact current_of_none rfl rfl

/-- **One operation.** What is at hand after it is current. -/
theorem Current.answer {s : Session} (hstep : s.InStep) (h : s.Current) (operation : Operation) :
    (s.answer operation).2.Current := by
  -- reading a function forgets what was compiled if it succeeds, and does nothing otherwise
  have hadd : ∀ m : SessionM String,
      ((∃ fault, outcome m s = (.error fault, s)) ∨
        (∃ body s', outcome m s = (.ok body, s') ∧ Reads s s' body)) →
      (outcome (Answer.body <$> m) s).2.Current := by
    intro m hcases
    rw [Outcome.map_eq]
    rcases hcases with ⟨fault, hm⟩ | ⟨body, s', hm, hreads⟩
    · rw [hm]
      exact h
    · obtain ⟨-, -, -, -, -, t, store, -, -, rfl⟩ := hreads
      rw [hm]
      exact current_of_none rfl rfl
  rw [answer_eq]
  cases operation with
  | registerInput name data group =>
    rw [perform, Outcome.map_eq]
    exact h.registerInput name data group
  | registerOutput name link data =>
    rw [perform, Outcome.map_eq]
    exact h.registerOutput name link data
  | addFunction source returns declared arguments =>
    exact hadd _ (addFunction_cases source returns declared arguments s)
  | addEntryPoint source size declared => exact hadd _ (addEntryPoint_cases source size declared s)
  | listVariables function =>
    have hsame : Keeps Untouched (perform (.listVariables function)) :=
      Keeps.get.bind fun s' => (Keeps.liftExcept _).bind fun _ => Keeps.pure _
    exact h.untouched (hsame s)
  | submitEdit function variableName type =>
    rw [perform, Outcome.map_eq]
    rcases submitEdit_cases function variableName type s with
      ⟨fault, hm⟩ | ⟨changed, store, hedit, hm⟩
    · rw [hm]
      exact h
    · rw [hm]
      exact h.untouched (untouched_submitEdit hedit)
  | confirm =>
    rw [perform, Outcome.map_eq]
    exact h.revises (revises_confirm s)
  | regenerate =>
    rw [perform, Outcome.map_eq]
    exact h.revises (revises_regenerate s)
  | build => exact (staysCurrent_build.map _ s ⟨hstep, h⟩).2
  | execute counts =>
    exact ((staysCurrent_execute counts).bind (fun _ => Keeps.pure Answer.done) s ⟨hstep, h⟩).2
  | run counts => exact ((staysCurrent_run counts).map _ s ⟨hstep, h⟩).2
  | readBack waiting => exact ((staysCurrent_readBack waiting).map _ s ⟨hstep, h⟩).2
  | close =>
    rw [perform_close, Outcome.map_eq]
    exact current_close s

/-- **A run of operations.** -/
theorem Current.after {s : Session} (hstep : s.InStep) (h : s.Current)
    (operations : List Operation) : (s.after operations).Current := by
  induction operations generalizing s with
  | nil => exact h
  | cons operation rest ih =>
    rw [after_cons]
    exact ih (hstep.answer operation) (h.answer hstep operation)

theorem Reachable.inStep {s : Session} (h : Reachable s) : s.InStep := by
  obtain ⟨config, device, operations, rfl⟩ := h
  exact (inStep_fresh config device).after operations

theorem Reachable.current {s : Session} (h : Reachable s) : s.Current := by
  obtain ⟨config, device, operations, rfl⟩ := h
  exact (current_of_none rfl rfl).after (inStep_fresh config device) operations

/-- **No stale pipeline is dispatched.** However a session came about, and whichever calls its device
fails at: an artifact at hand is one for the shader, the entry point and the inputs as they are; bind
groups at hand come with such an artifact and were made under its layouts, one for each group; a dispatch
that succeeds puts one compute pass on record, which sets a pipeline whose module was made from the text
of the shader at that moment; and building never fails because a layout does not fit. -/
theorem dispatch_uses_current_shader {s : Session} (hs : Reachable s) :
    (∀ a, s.artifact = some a → s.shaderText = .ok a.sourceText ∧
      s.store.entry?.map Transcript.name = some a.entryPoint ∧ a.signature = s.rig.signature) ∧
    (∀ groups, s.bindGroups = some groups → ∃ a, s.artifact = some a ∧
      s.rig.Laid a.layout.handles ∧ s.rig.Bound a.layout.handles groups) ∧
    (∀ counts answer s', s.answer (.execute counts) = (.ok answer, s') →
      ∃ text entryPoint shader layout pipeline groups ns calls,
        s.shaderText = .ok text ∧ s.store.entry?.map Transcript.name = some entryPoint ∧
        s'.bindGroups = some groups ∧ Workgroup.counts counts = .ok ns ∧
        s'.rig.trace = s.rig.trace ++ calls ∧
        calls.filterMap Call.passStep? = Rig.passSteps pipeline groups ns ∧
        s'.rig.Made pipeline (.createPipeline s.rig.label layout shader entryPoint) ∧
        s'.rig.Made shader (.createShader s!"{s.rig.label} module" text)) ∧
    (∀ fault s', s.answer .build = (.error fault, s') → fault.kind ≠ .layoutMismatch) := by
  have hstep := hs.inStep
  have hcurrent := hs.current
  refine ⟨?_, ?_, ?_, ?_⟩
  · intro a ha
    exact ⟨(hcurrent.fits ha).text, (hcurrent.fits ha).entry, (hcurrent.fits ha).signature⟩
  · intro groups hg
    obtain ⟨a, ha, hbound⟩ := hcurrent.bound hg
    exact ⟨a, ha, (hcurrent.fits ha).laid, hbound⟩
  · intro counts answer s' hout
    obtain ⟨u, s₁, hexecute, hpure⟩ := Outcome.bind_eq_ok_iff.mp hout
    rw [Outcome.pure_eq, Prod.mk.injEq] at hpure
    rw [← hpure.2]
    obtain ⟨a, groups, ns, calls, hsame, hcurrent', ha, hg, hns, hcalls, hseen⟩ :=
      hcurrent.dispatches hstep hexecute
    have hfits := hcurrent'.fits ha
    refine ⟨a.sourceText, a.entryPoint, a.shader, a.pipelineLayout, a.pipeline, groups, ns, calls,
      hsame.text ▸ hfits.text, hsame.entry ▸ hfits.entry, hg, hns, hcalls, hseen, ?_, ?_⟩
    · exact hsame.rig.label ▸ hfits.built.pipeline
    · exact hsame.rig.label ▸ hfits.built.shader
  · intro fault s' hout
    exact hcurrent.kind_of_build hstep (Outcome.map_eq_error_iff.mp hout)

/-- A device that refuses the first bind group it is asked for. -/
def refusingOnce : Device where
  failures := fun before call => match call with
    | .createGroup .. => if before.any (·.makes == some .group) then none else some (.validation, "")
    | _ => none

/-- Building fails after the shader was compiled, a type is then changed and confirmed, and the shader
is dispatched. -/
def recoveredRun : List Operation :=
  [.registerInput "a" (.words [7]) (.int 1),
    .addEntryPoint "function main() \x7b\n  let b = 1;\n\x7d" (.int 1) .none,
    .build, .submitEdit "main" "b" (.text "i32"), .confirm, .execute (.int 1)]

theorem recoveredRun_dispatches_current :
    let s := (fresh {} (some refusingOnce)).after recoveredRun
    ∃ a groups, s.artifact = some a ∧ s.bindGroups = some groups ∧ groups.length = 2 ∧
      s.shaderText = .ok a.sourceText ∧ s.rig.Bound a.layout.handles groups := by
  intro s
  have hbound : (s.bindGroups.map List.length) = some 2 := by decide +kernel
  have hreachable : Reachable s := ⟨{}, some refusingOnce, recoveredRun, rfl⟩
  obtain ⟨groups, hgroups, hlength⟩ := Option.map_eq_some_iff.mp hbound
  obtain ⟨hartifact, hgroup, -, -⟩ := dispatch_uses_current_shader hreachable
  obtain ⟨a, ha, -, hmade⟩ := hgroup groups hgroups
  exact ⟨a, groups, ha, hgroups, hlength, (hartifact a ha).1, hmade⟩

end KernelShader.Session
