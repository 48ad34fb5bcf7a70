/-
`Texts.lean` -- what the operations of a session do to its functions and their texts.

Four parts of a session make up its texts: the dialect, the store, the cached bodies and the flag that
says a type has changed. Most operations leave all four alone, and `SameTexts` says so for each of them
whether it succeeds or fails; those that have to do with running the shader keep besides whatever the work
on the rig keeps (`Along`), in particular the buffers (`Quiet`). The others are reading a function, editing
a type, and writing everything again; for each of these there is one statement of everything it can do,
failures included.
-/
import KernelShader.Session.Operation
import KernelShader.Proofs.Store
import KernelShader.Proofs.Rig.Calls

set_option autoImplicit false

namespace KernelShader.Session

/-! ## Working on the rig -/

theorem outcome_onRig {α : Type} (work : RigM α) (s : Session) :
    outcome (onRig work) s = ((outcome work s.rig).1, { s with rig := (outcome work s.rig).2 }) := by
  have hrig : outcome (onRig work) s
      = outcome (liftExcept (outcome work s.rig).1 : SessionM α)
          { s with rig := (outcome work s.rig).2 } := rfl
  rw [hrig, Outcome.liftExcept_eq]

/-- The session with events added to its log. -/
def logging (s : Session) (events : List Event) : Session :=
  { s with rig := { s.rig with log := s.rig.log ++ events } }

theorem logging_nil (s : Session) : s.logging [] = s := by
  rw [logging, List.append_nil]

theorem logging_logging (s : Session) (es fs : List Event) :
    (s.logging es).logging fs = s.logging (es ++ fs) := by
  simp only [logging, List.append_assoc]

theorem outcome_report (e : Event) (s : Session) :
    outcome (report e) s = (.ok (), s.logging [e]) := by
  rw [report, outcome_onRig]
  rfl

theorem outcome_invalidate (s : Session) :
    outcome invalidate s = (.ok (), { s with artifact := none, bindGroups := none }) := rfl

/-- Where the rig fails, what was compiled is not forgotten. -/
theorem outcome_forgetting_of_error {α : Type} {work : RigM α} {s : Session} {fault : Fault} {r : Rig}
    (h : outcome work s.rig = (.error fault, r)) :
    outcome (onRig work >>= fun a => invalidate >>= fun _ => pure a) s
      = (.error fault, { s with rig := r }) := by
  have hrig : outcome (onRig work) s = (.error fault, { s with rig := r }) := by rw [outcome_onRig, h]
  exact Outcome.bind_of_error hrig _

theorem outcome_forgetting_of_ok {α : Type} {work : RigM α} {s : Session} {a : α} {r : Rig}
    (h : outcome work s.rig = (.ok a, r)) :
    outcome (onRig work >>= fun a => invalidate >>= fun _ => pure a) s
      = (.ok a, { s with rig := r, artifact := none, bindGroups := none }) := by
  have hrig : outcome (onRig work) s = (.ok a, { s with rig := r }) := by rw [outcome_onRig, h]
  rw [Outcome.bind_of_ok hrig, Outcome.bind_of_ok (outcome_invalidate _)]
  rfl

theorem forgetting_eq_ok {α : Type} {work : RigM α} {s s' : Session} {a : α}
    (h : outcome (onRig work >>= fun a => invalidate >>= fun _ => pure a) s = (.ok a, s')) :
    outcome work s.rig = (.ok a, s'.rig) := by
  rcases hwork : outcome work s.rig with ⟨x, r⟩
  cases x with
  | error fault =>
    rw [outcome_forgetting_of_error hwork] at h
    exact nomatch h
  | ok b =>
    rw [outcome_forgetting_of_ok hwork, Prod.mk.injEq, Except.ok.injEq] at h
    rw [h.1, ← h.2]

/-- Closing forgets what was compiled, and then gives back what the rig holds. -/
theorem outcome_close (s : Session) :
    outcome close s = ((outcome Rig.release s.rig).1,
      { s with rig := (outcome Rig.release s.rig).2, artifact := none, bindGroups := none }) := by
  unfold close
  rw [Outcome.bind_of_ok (outcome_invalidate s), outcome_onRig]

theorem perform_close : perform .close = (fun _ => Answer.done) <$> close := by
  rw [map_eq_pure_bind]
  rfl

theorem perform_execute (counts : Value) :
    perform (.execute counts) = (fun _ => Answer.done) <$> execute counts := by
  rw [map_eq_pure_bind]
  rfl

/-! ## Operations that leave the texts alone -/

/-- The two sessions have the same dialect, functions, texts and flag. -/
structure SameTexts (s s' : Session) : Prop where
  config : s'.config = s.config
  store : s'.store = s.store
  bodies : s'.bodies = s.bodies
  edited : s'.edited = s.edited

instance : IsPreorder Session SameTexts where
  refl _ := ⟨rfl, rfl, rfl, rfl⟩
  trans _ _ _ h h' := ⟨h'.config.trans h.config, h'.store.trans h.store, h'.bodies.trans h.bodies,
    h'.edited.trans h.edited⟩

theorem SameTexts.symm {s s' : Session} (h : SameTexts s s') : SameTexts s' s :=
  ⟨h.config.symm, h.store.symm, h.bodies.symm, h.edited.symm⟩

theorem sameTexts_onRig {α : Type} (work : RigM α) : Keeps SameTexts (onRig work) := by
  intro s
  rw [outcome_onRig]
  exact ⟨rfl, rfl, rfl, rfl⟩

theorem sameTexts_invalidate : Keeps SameTexts invalidate :=
  Keeps.modify fun _ => ⟨rfl, rfl, rfl, rfl⟩

theorem sameTexts_registerInput (name : String) (data group : Value) :
    Keeps SameTexts (registerInput name data group) :=
  (sameTexts_onRig _).bind fun _ => sameTexts_invalidate.bind fun _ => Keeps.pure _

theorem sameTexts_registerOutput (name link : String) (data : Value) :
    Keeps SameTexts (registerOutput name link data) :=
  (sameTexts_onRig _).bind fun _ => sameTexts_invalidate.bind fun _ => Keeps.pure _

theorem sameTexts_close : Keeps SameTexts close :=
  sameTexts_invalidate.bind fun _ => sameTexts_onRig _

/-! ## Operations that have to do with running the shader -/

/-- The texts are the same, and the rigs are related. -/
structure Along (R : Rig → Rig → Prop) (s s' : Session) : Prop extends SameTexts s s' where
  rig : R s.rig s'.rig

section Along

variable {R : Rig → Rig → Prop} [IsPreorder Rig R]

instance : IsPreorder Session (Along R) where
  refl s := ⟨refl_of SameTexts s, refl_of R s.rig⟩
  trans _ _ _ h h' := ⟨trans_of SameTexts h.toSameTexts h'.toSameTexts, trans_of R h.rig h'.rig⟩

omit [IsPreorder Rig R] in
theorem along_onRig {α : Type} {work : RigM α} (h : Keeps R work) : Keeps (Along R) (onRig work) := by
  intro s
  refine ⟨sameTexts_onRig work s, ?_⟩
  rw [outcome_onRig]
  exact h s.rig

/-- What is kept of earlier builds belongs neither to the texts nor to the rig. -/
theorem along_modify {f : Session → Session} (htexts : ∀ s, SameTexts s (f s))
    (hrig : ∀ s, (f s).rig = s.rig) : Keeps (Along R) (modify f : SessionM PUnit) := by
  refine Keeps.modify fun s => ⟨htexts s, ?_⟩
  rw [hrig]
  exact refl_of R s.rig

theorem along_invalidate : Keeps (Along R) invalidate :=
  along_modify (fun _ => ⟨rfl, rfl, rfl, rfl⟩) fun _ => rfl

theorem along_registerInput {name : String} {data group : Value}
    (h : Keeps R (Rig.registerInput name data group)) :
    Keeps (Along R) (registerInput name data group) :=
  (along_onRig h).bind fun _ => along_invalidate.bind fun _ => Keeps.pure _

theorem along_registerOutput {name link : String} {data : Value}
    (h : Keeps R (Rig.registerOutput name link data)) :
    Keeps (Along R) (registerOutput name link data) :=
  (along_onRig h).bind fun _ => along_invalidate.bind fun _ => Keeps.pure _

theorem along_close (h : Keeps R Rig.release) : Keeps (Along R) close :=
  along_invalidate.bind fun _ => along_onRig h

/-- Compiling keeps what reporting it, building the layout and compiling this very text keep. -/
theorem along_compile_of (hreport : ∀ e, Keeps R (Rig.report e)) (hlayout : Keeps R Rig.buildLayout)
    {text entryPoint : String} {signature : Signature}
    (hcompile : ∀ layout, Keeps R (Rig.compile text entryPoint layout signature)) :
    Keeps (Along R) (compile text entryPoint signature) := by
  refine along_invalidate.bind fun _ => ?_
  refine (along_onRig (hreport _)).bind fun _ => (along_onRig hlayout).bind fun layout => ?_
  refine (along_onRig (hcompile layout)).bind fun artifact => ?_
  exact Keeps.bind (along_modify (fun _ => ⟨rfl, rfl, rfl, rfl⟩) fun _ => rfl) fun _ => Keeps.pure _

theorem along_compile (h : Rig.KeptByBuilding R) (text entryPoint : String) (signature : Signature) :
    Keeps (Along R) (compile text entryPoint signature) :=
  along_compile_of h.report h.buildLayout fun layout => h.compile text entryPoint layout signature

end Along

/-- Makes the bind groups for an artifact. -/
def bindTo (artifact : Artifact) : SessionM Artifact := do
  let groups ← onRig (Rig.buildGroups artifact.layout)
  modify fun s => { s with bindGroups := some groups }
  return artifact

/-- Dispatching keeps what building and dispatching what has been built keep. -/
theorem keeps_execute {S : Session → Session → Prop} [IsPreorder Session S] {counts : Value}
    (hbuild : Keeps S build) (hdispatch : Keeps S (dispatchBuilt counts)) :
    Keeps S (execute counts) := by
  refine Keeps.get.bind fun s => ?_
  by_cases hmissing : (s.artifact.isNone || s.bindGroups.isNone) = true
  · rw [if_pos hmissing]
    exact hbuild.bind fun _ => hdispatch
  · rw [if_neg hmissing]
    exact hdispatch

theorem keeps_run {S : Session → Session → Prop} [IsPreorder Session S] {counts : Value}
    (hbuild : Keeps S build) (hdispatch : Keeps S (dispatchBuilt counts))
    (hread : Keeps S (readBack .sync)) : Keeps S (run counts) :=
  hbuild.bind fun _ => (keeps_execute hbuild hdispatch).bind fun _ => hread

/-- Building takes the artifact at hand or compiles one, and then makes the bind groups for it. -/
theorem build_eq : build = (do
    let s ← get
    match s.store.entry? with
    | none => throw .noEntry
    | some entry =>
      let text ← liftExcept s.shaderText
      match s.usable? text entry.name s.rig.signature with
      | some artifact => bindTo artifact
      | none => compile text entry.name s.rig.signature >>= bindTo) := by
  unfold build
  refine bind_congr fun s => ?_
  cases s.store.entry? with
  | none => rfl
  | some entry =>
    refine bind_congr fun text => ?_
    cases h : s.usable? text entry.name s.rig.signature with
    | none =>
      simp only [h]
      rfl
    | some artifact =>
      simp only [h, pure_bind]
      rfl

section Along

variable {R : Rig → Rig → Prop} [IsPreorder Rig R]

theorem along_bindTo (hgroups : ∀ layout, Keeps R (Rig.buildGroups layout)) (artifact : Artifact) :
    Keeps (Along R) (bindTo artifact) := by
  refine (along_onRig (hgroups _)).bind fun groups => ?_
  exact Keeps.bind (along_modify (fun _ => ⟨rfl, rfl, rfl, rfl⟩) fun _ => rfl) fun _ => Keeps.pure _

/-- What is compiled, if anything is, is the shader as it stands. -/
theorem along_build_of (hgroups : ∀ layout, Keeps R (Rig.buildGroups layout)) {s : Session}
    (hcompile : ∀ entry text, s.store.entry? = some entry → s.shaderText = .ok text →
      Keeps (Along R) (compile text entry.name s.rig.signature)) :
    Along R s (outcome build s).2 := by
  rw [build_eq, Outcome.get_bind]
  cases hentry : s.store.entry? with
  | none => exact refl_of (Along R) s
  | some entry =>
    simp only [Outcome.liftExcept_bind]
    cases htext : s.shaderText with
    | error fault => exact refl_of (Along R) s
    | ok text =>
      simp only
      cases s.usable? text entry.name s.rig.signature with
      | some artifact => exact along_bindTo hgroups artifact s
      | none => exact (hcompile entry text hentry htext).bind (along_bindTo hgroups) s

theorem along_build (h : Rig.KeptByBuilding R) : Keeps (Along R) build := fun _ =>
  along_build_of h.buildGroups fun _ _ _ _ => along_compile h _ _ _

theorem along_dispatchBuilt
    (hexecute : ∀ artifact groups counts, Keeps R (Rig.execute artifact groups counts))
    (counts : Value) : Keeps (Along R) (dispatchBuilt counts) := by
  refine Keeps.get.bind fun s => ?_
  match s.artifact, s.bindGroups with
  | some artifact, some groups => exact along_onRig (hexecute artifact groups counts)
  | some _, none => exact Keeps.pure _
  | none, _ => exact Keeps.pure _

theorem along_execute (h : Rig.KeptAtWork R) (counts : Value) : Keeps (Along R) (execute counts) :=
  keeps_execute (along_build h.toKeptByBuilding) (along_dispatchBuilt h.execute counts)

omit [IsPreorder Rig R] in
theorem along_readBack (h : Rig.KeptAtWork R) (waiting : Waiting) :
    Keeps (Along R) (readBack waiting) := along_onRig (h.readBack waiting)

theorem along_run (h : Rig.KeptAtWork R) (counts : Value) : Keeps (Along R) (run counts) :=
  keeps_run (along_build h.toKeptByBuilding) (along_dispatchBuilt h.execute counts)
    (along_readBack h .sync)

end Along

/-- The texts are the same, the buffers are the same, and the device has gone on. -/
abbrev Quiet : Session → Session → Prop := Along Rig.Continues

theorem quiet_build : Keeps Quiet build := along_build Rig.continues_atWork.toKeptByBuilding

theorem quiet_dispatchBuilt (counts : Value) : Keeps Quiet (dispatchBuilt counts) :=
  along_dispatchBuilt Rig.continues_atWork.execute counts

theorem quiet_execute (counts : Value) : Keeps Quiet (execute counts) :=
  along_execute Rig.continues_atWork counts

theorem quiet_readBack (waiting : Waiting) : Keeps Quiet (readBack waiting) :=
  along_readBack Rig.continues_atWork waiting

theorem quiet_run (counts : Value) : Keeps Quiet (run counts) :=
  along_run Rig.continues_atWork counts

/-! ## Reading a function -/

/-- How reading succeeds: the lines are in order, the parameters get types, and the function is written
for the first time. -/
theorem read_eq_ok_iff {dialect : Dialect} {source : String} {declared arguments : Value}
    {kind : FunctionKind} {workgroup : List Int} {t : Transcript} {body : String} :
    read dialect source declared arguments kind workgroup = .ok (t, body) ↔
      Declaration.check (Source.tokenLines source) = .ok () ∧
      ∃ declaration types,
        Declaration.parse ((Source.tokenLines source).headD []) = .ok declaration ∧
        Parameter.resolve declaration.params declared arguments = .ok types ∧
        Transcript.write .infer dialect
          ⟨declaration.name, Source.tokenLines source, types, kind, workgroup⟩ = .ok (body, t) := by
  unfold read
  constructor
  · intro h
    obtain ⟨_, hcheck, h⟩ := Check.bind_eq_ok_iff.mp h
    obtain ⟨declaration, hparse, h⟩ := Check.bind_eq_ok_iff.mp h
    obtain ⟨types, htypes, h⟩ := Check.bind_eq_ok_iff.mp h
    obtain ⟨⟨body', t'⟩, hwrite, hpair⟩ := Check.bind_eq_ok_iff.mp h
    obtain ⟨rfl, rfl⟩ := Prod.mk.inj (Except.ok.inj hpair)
    exact ⟨hcheck, declaration, types, hparse, htypes, hwrite⟩
  · rintro ⟨hcheck, declaration, types, hparse, htypes, hwrite⟩
    refine Check.bind_eq_ok_iff.mpr ⟨(), hcheck, Check.bind_eq_ok_iff.mpr ⟨declaration, hparse, ?_⟩⟩
    refine Check.bind_eq_ok_iff.mpr ⟨types, htypes, ?_⟩
    exact Check.bind_eq_ok_iff.mpr ⟨(body, t), hwrite, rfl⟩

/-- **What reading gives.** A complete transcript, of which the text is a replay. -/
theorem read_eq_ok {dialect : Dialect} {source : String} {declared arguments : Value}
    {kind : FunctionKind} {workgroup : List Int} {t : Transcript} {body : String}
    (h : read dialect source declared arguments kind workgroup = .ok (t, body)) :
    t.Complete ∧ t.replay dialect = .ok body := by
  obtain ⟨hcheck, declaration, types, -, -, hwrite⟩ := read_eq_ok_iff.mp h
  have hlines : Source.tokenLines source ≠ [] := by
    intro hnil
    rw [hnil] at hcheck
    exact nomatch hcheck
  refine ⟨Transcript.complete_of_write ?_ hwrite, Transcript.replay_of_write hwrite⟩
  exact hlines

/-- The session after a function has been recorded with its text. -/
def recorded (s : Session) (store : Store) (name body : String) : Session :=
  logging { s with
    store, bodies := s.bodies.insert name body, artifact := none, bindGroups := none }
    [.added name body]

/-- The second session is the first with one more function, which gave the text. -/
def Reads (s s' : Session) (body : String) : Prop :=
  ∃ source declared arguments kind workgroup t store,
    read s.config.dialect source declared arguments kind workgroup = .ok (t, body) ∧
    s.store.record t = .ok store ∧ s' = s.recorded store t.name body

theorem outcome_add (source : String) (declared arguments : Value) (kind : FunctionKind)
    (workgroup : List Int) (s : Session) :
    outcome (add source declared arguments kind workgroup) s
      = match read s.config.dialect source declared arguments kind workgroup with
        | .error fault => (.error fault, s)
        | .ok (t, body) => match s.store.record t with
          | .error fault => (.error fault, s)
          | .ok store => (.ok body, s.recorded store t.name body) := by
  unfold add
  rw [Outcome.get_bind, Outcome.liftExcept_bind]
  cases read s.config.dialect source declared arguments kind workgroup with
  | error fault => rfl
  | ok pair =>
    obtain ⟨t, body⟩ := pair
    simp only [Outcome.liftExcept_bind]
    cases s.store.record t with
    | error fault => rfl
    | ok store =>
      simp only
      rw [Outcome.bind_of_ok (Outcome.set_eq s _), Outcome.bind_of_ok (outcome_invalidate _),
        Outcome.bind_of_ok (outcome_report _ _)]
      rfl

/-- **What adding a function does.** It reads the function and records it, and where either fails, it
leaves the session as it was. -/
theorem add_cases (source : String) (declared arguments : Value) (kind : FunctionKind)
    (workgroup : List Int) (s : Session) :
    (∃ fault, (read s.config.dialect source declared arguments kind workgroup = .error fault ∨
        ∃ t body, read s.config.dialect source declared arguments kind workgroup = .ok (t, body) ∧
          s.store.record t = .error fault) ∧
      outcome (add source declared arguments kind workgroup) s = (.error fault, s)) ∨
    (∃ t body store,
      read s.config.dialect source declared arguments kind workgroup = .ok (t, body) ∧
      s.store.record t = .ok store ∧
      outcome (add source declared arguments kind workgroup) s
        = (.ok body, s.recorded store t.name body)) := by
  rw [outcome_add]
  cases read s.config.dialect source declared arguments kind workgroup with
  | error fault => exact Or.inl ⟨fault, Or.inl rfl, rfl⟩
  | ok pair =>
    obtain ⟨t, body⟩ := pair
    simp only
    cases hrecord : s.store.record t with
    | error fault => exact Or.inl ⟨fault, Or.inr ⟨t, body, rfl, hrecord⟩, rfl⟩
    | ok store => exact Or.inr ⟨t, body, store, rfl, hrecord, rfl⟩

theorem add_reads (source : String) (declared arguments : Value) (kind : FunctionKind)
    (workgroup : List Int) (s : Session) :
    (∃ fault, outcome (add source declared arguments kind workgroup) s = (.error fault, s)) ∨
    (∃ body s', outcome (add source declared arguments kind workgroup) s = (.ok body, s') ∧
      Reads s s' body) := by
  rcases add_cases source declared arguments kind workgroup s with
    ⟨fault, -, hout⟩ | ⟨t, body, store, hread, hrecord, hout⟩
  · exact Or.inl ⟨fault, hout⟩
  · exact Or.inr ⟨body, _, hout, source, declared, arguments, kind, workgroup, t, store, hread,
      hrecord, rfl⟩

theorem addFunction_cases (source : String) (returns declared arguments : Value) (s : Session) :
    (∃ fault, outcome (addFunction source returns declared arguments) s = (.error fault, s)) ∨
    (∃ body s', outcome (addFunction source returns declared arguments) s = (.ok body, s') ∧
      Reads s s' body) := by
  unfold addFunction
  rw [Outcome.liftExcept_bind]
  cases ShaderType.ofValue returns with
  | error fault => exact Or.inl ⟨fault, rfl⟩
  | ok type => exact add_reads source declared arguments (.helper (some type)) [1, 1, 1] s

theorem addEntryPoint_cases (source : String) (size declared : Value) (s : Session) :
    (∃ fault, outcome (addEntryPoint source size declared) s = (.error fault, s)) ∨
    (∃ body s', outcome (addEntryPoint source size declared) s = (.ok body, s') ∧
      Reads s s' body) := by
  unfold addEntryPoint
  rw [Outcome.get_bind]
  cases s.store.entry? with
  | some entry => exact Or.inl ⟨_, rfl⟩
  | none =>
    simp only [Outcome.liftExcept_bind]
    cases Workgroup.size size with
    | error fault => exact Or.inl ⟨fault, rfl⟩
    | ok size => exact add_reads source declared .none .entry (size.toList.map Int.ofNat) s

/-! ## Editing and writing again -/

/-- **What an edit does.** It fails and leaves the session as it was, or it edits the store and raises
the flag if that was a change. -/
theorem submitEdit_cases (function variableName : String) (type : Value) (s : Session) :
    (∃ fault, outcome (submitEdit function variableName type) s = (.error fault, s)) ∨
    (∃ changed store, s.store.edit function variableName type = .ok (changed, store) ∧
      outcome (submitEdit function variableName type) s
        = (.ok changed, { s with store, edited := s.edited || changed })) := by
  unfold submitEdit
  rw [Outcome.get_bind, Outcome.liftExcept_bind]
  cases s.store.edit function variableName type with
  | error fault => exact Or.inl ⟨fault, rfl⟩
  | ok pair => exact Or.inr ⟨pair.1, pair.2, rfl, rfl⟩

/-- The reports of functions that are written again, up to the first that cannot be. -/
def replayEvents (dialect : Dialect) : List Transcript → List Event
  | [] => []
  | t :: rest =>
    match t.replay dialect with
    | .ok body => .regenerated t.name body :: replayEvents dialect rest
    | .error _ => []

/-- The session with the functions that have been written again reported. -/
def reported (s : Session) : Session := s.logging (replayEvents s.config.dialect s.store.values)

/-- The session with all functions written again. -/
def rewritten (s : Session) (bodies : Bodies) : Session :=
  { s.reported with bodies, artifact := none, bindGroups := none }

theorem outcome_replayOne (dialect : Dialect) (t : Transcript) (s : Session) :
    outcome (replayOne dialect t) s = match t.replay dialect with
      | .ok body => (.ok (t.name, body), s.logging [.regenerated t.name body])
      | .error fault => (.error fault, s) := by
  unfold replayOne
  rw [Outcome.liftExcept_bind]
  cases t.replay dialect with
  | error fault => rfl
  | ok body =>
    simp only
    rw [Outcome.bind_of_ok (outcome_report _ s)]
    rfl

theorem outcome_mapM_replayOne (dialect : Dialect) (ts : List Transcript) (s : Session) :
    outcome (ts.mapM (replayOne dialect)) s
      = (ts.mapM fun t => do return (t.name, ← t.replay dialect),
          s.logging (replayEvents dialect ts)) := by
  induction ts generalizing s with
  | nil =>
    rw [List.mapM_nil, List.mapM_nil, replayEvents, logging_nil]
    rfl
  | cons t rest ih =>
    have hone := outcome_replayOne dialect t s
    rw [List.mapM_cons, List.mapM_cons]
    cases htext : t.replay dialect with
    | error fault =>
      simp only [htext] at hone
      rw [Outcome.bind_of_error hone]
      simp only [replayEvents, htext, logging_nil]
      rfl
    | ok body =>
      simp only [htext] at hone
      rw [Outcome.bind_of_ok hone]
      have hrest := ih (s.logging [.regenerated t.name body])
      simp only [replayEvents, htext]
      cases htexts : rest.mapM fun t => do return (t.name, ← t.replay dialect) with
      | error fault =>
        rw [htexts] at hrest
        rw [Outcome.bind_of_error hrest, logging_logging]
        simp only [bind, Except.bind, pure, Except.pure]
        rfl
      | ok texts =>
        rw [htexts] at hrest
        rw [Outcome.bind_of_ok hrest, logging_logging]
        simp only [bind, Except.bind, pure, Except.pure]
        rfl

/-- **What writing everything again does.** It fails at the first function that cannot be written and
leaves the texts as they were, or replaces them all. -/
theorem outcome_replayAll (s : Session) :
    outcome replayAll s = match s.store.replay s.config.dialect with
      | .ok bodies => (.ok (), s.rewritten bodies)
      | .error fault => (.error fault, s.reported) := by
  have hall := outcome_mapM_replayOne s.config.dialect s.store.values s
  unfold replayAll Store.replay
  rw [Outcome.get_bind]
  cases htexts : s.store.values.mapM fun t => do return (t.name, ← t.replay s.config.dialect) with
  | error fault =>
    rw [htexts] at hall
    rw [Outcome.bind_of_error hall]
    rfl
  | ok texts =>
    rw [htexts] at hall
    rw [Outcome.bind_of_ok hall]
    rfl

/-- The shader with the given texts in place of the cached ones. -/
def sourceOf (s : Session) (bodies : Bodies) : Except Fault ShaderSource := do
  let header ← s.rig.header
  s.store.assemble header bodies

theorem sourceOf_bodies (s : Session) : s.sourceOf s.bodies = s.source := rfl

theorem source_rewritten (s : Session) (bodies : Bodies) :
    (s.rewritten bodies).source = s.sourceOf bodies := rfl

theorem sourceOf_eq_ok_iff {s : Session} {bodies : Bodies} {source : ShaderSource} :
    s.sourceOf bodies = .ok source ↔
      ∃ header, s.rig.header = .ok header ∧ s.store.assemble header bodies = .ok source :=
  Check.bind_eq_ok_iff

theorem outcome_currentSource (s : Session) : outcome currentSource s = (s.source, s) := by
  unfold currentSource
  rw [Outcome.get_bind, Outcome.liftExcept_eq]

/-- **What regenerating does.** It fails with the first function that cannot be written, or it replaces
all texts; there may still be no shader then, for want of a header. -/
theorem regenerate_cases (s : Session) :
    (∃ fault, s.store.replay s.config.dialect = .error fault ∧
      outcome regenerate s = (.error fault, s.reported)) ∨
    (∃ bodies, s.store.replay s.config.dialect = .ok bodies ∧
      outcome regenerate s = (s.sourceOf bodies, s.rewritten bodies)) := by
  have hreplay := outcome_replayAll s
  unfold regenerate
  cases htexts : s.store.replay s.config.dialect with
  | error fault =>
    simp only [htexts] at hreplay
    exact Or.inl ⟨fault, rfl, Outcome.bind_of_error hreplay _⟩
  | ok bodies =>
    simp only [htexts] at hreplay
    refine Or.inr ⟨bodies, rfl, ?_⟩
    rw [Outcome.bind_of_ok hreplay, outcome_currentSource, source_rewritten]

/-- **What confirming does.** While the flag is down it shows the texts at hand. While it is up, it does
what regenerating does, and takes the flag down if that has given a shader. -/
theorem confirm_cases (s : Session) :
    (s.edited = false ∧ outcome confirm s = (s.source, s.logging [.unchanged])) ∨
    (s.edited = true ∧ ∃ fault, s.store.replay s.config.dialect = .error fault ∧
      outcome confirm s = (.error fault, s.reported)) ∨
    (s.edited = true ∧ ∃ bodies, s.store.replay s.config.dialect = .ok bodies ∧
      outcome confirm s
        = (s.sourceOf bodies, { s.rewritten bodies with edited := !(s.sourceOf bodies).isOk })) := by
  unfold confirm
  rw [Outcome.get_bind]
  cases hedited : s.edited with
  | false =>
    refine Or.inl ⟨rfl, ?_⟩
    rw [if_neg Bool.false_ne_true, Outcome.bind_of_ok (outcome_report .unchanged s),
      outcome_currentSource]
    rfl
  | true =>
    refine Or.inr ?_
    rw [if_pos rfl]
    rcases regenerate_cases s with ⟨fault, hreplay, hout⟩ | ⟨bodies, hreplay, hout⟩
    · exact Or.inl ⟨rfl, fault, hreplay, Outcome.bind_of_error hout _⟩
    · refine Or.inr ⟨rfl, bodies, hreplay, ?_⟩
      cases hsource : s.sourceOf bodies with
      | error fault =>
        -- the texts are new, but the flag stays up
        rw [hsource] at hout
        rw [Outcome.bind_of_error hout]
        have hflag : (s.rewritten bodies).edited = true := hedited
        change (_, s.rewritten bodies) = (_, { s.rewritten bodies with edited := true })
        rw [← hflag]
      | ok source =>
        rw [hsource] at hout
        rw [Outcome.bind_of_ok hout, Outcome.bind_of_ok (Outcome.modify_eq _ _),
          outcome_currentSource]
        exact Prod.ext hsource rfl

/-- What confirming and regenerating can do to a session: put something on the log, or write all texts
again. -/
inductive Revises (s : Session) : Session → Prop where
  | logs (events : List Event) : Revises s (s.logging events)
  | rewrites {bodies : Bodies} (edited : Bool)
      (hbodies : s.store.replay s.config.dialect = .ok bodies) :
      Revises s { s.rewritten bodies with edited }

theorem revises_regenerate (s : Session) : Revises s (outcome regenerate s).2 := by
  rcases regenerate_cases s with ⟨fault, -, hout⟩ | ⟨bodies, hbodies, hout⟩
  · rw [hout]
    exact .logs _
  · rw [hout]
    exact .rewrites s.edited hbodies

theorem revises_confirm (s : Session) : Revises s (outcome confirm s).2 := by
  rcases confirm_cases s with ⟨-, hout⟩ | ⟨-, fault, -, hout⟩ | ⟨-, bodies, hbodies, hout⟩
  · rw [hout]
    exact .logs _
  · rw [hout]
    exact .logs _
  · rw [hout]
    exact .rewrites _ hbodies

/-! ## Every operation -/

theorem answer_eq (s : Session) (operation : Operation) :
    s.answer operation = outcome (perform operation) s := rfl

theorem after_cons (s : Session) (operation : Operation) (rest : List Operation) :
    s.after (operation :: rest) = (s.answer operation).2.after rest := rfl

/-- What an operation can do to the texts of a session, with its answer: leave them alone, read a function,
change a type, confirm, or write everything again. -/
inductive TextStep (s : Session) : Operation → Except Fault Answer → Session → Prop where
  | rests {operation : Operation} {answer : Except Fault Answer} {s' : Session} (hsame : SameTexts s s')
      (hoperation : operation ≠ .confirm) (hanswer : answer ≠ .ok (.changed true)) :
      TextStep s operation answer s'
  | reads {operation : Operation} {body : String} {s' : Session} (hreads : Reads s s' body)
      (hoperation : operation ≠ .confirm) : TextStep s operation (.ok (.body body)) s'
  | edits {function variableName : String} {type : Value} {store : Store}
      (hedit : s.store.edit function variableName type = .ok (true, store)) :
      TextStep s (.submitEdit function variableName type) (.ok (.changed true))
        { s with store, edited := true }
  | confirms : TextStep s .confirm ((outcome confirm s).1.map Answer.source) (outcome confirm s).2
  | regenerates : TextStep s .regenerate ((outcome regenerate s).1.map Answer.source)
      (outcome regenerate s).2

theorem TextStep.of_map {α : Type} {s : Session} {operation : Operation} {m : SessionM α}
    {wrap : α → Answer} (hsame : Keeps SameTexts m) (hoperation : operation ≠ .confirm)
    (hwrap : ∀ a, wrap a ≠ .changed true) :
    TextStep s operation (outcome (wrap <$> m) s).1 (outcome (wrap <$> m) s).2 := by
  rw [Outcome.map_eq]
  refine .rests (hsame s) hoperation fun hanswer => ?_
  obtain ⟨a, -, ha⟩ := Check.map_eq_ok_iff.mp hanswer
  exact hwrap a ha

theorem TextStep.of_add {s : Session} {operation : Operation} {m : SessionM String}
    (h : (∃ fault, outcome m s = (.error fault, s)) ∨
      (∃ body s', outcome m s = (.ok body, s') ∧ Reads s s' body))
    (hoperation : operation ≠ .confirm) :
    TextStep s operation (outcome (Answer.body <$> m) s).1 (outcome (Answer.body <$> m) s).2 := by
  rw [Outcome.map_eq]
  rcases h with ⟨fault, hm⟩ | ⟨body, s', hm, hreads⟩
  · rw [hm]
    exact .rests (refl_of SameTexts s) hoperation fun hanswer => nomatch hanswer
  · rw [hm]
    exact .reads hreads hoperation

/-- **What each operation does to the texts.** -/
theorem textStep_answer (s : Session) (operation : Operation) :
    TextStep s operation (s.answer operation).1 (s.answer operation).2 := by
  rw [answer_eq]
  cases operation with
  | registerInput name data group =>
    exact .of_map (sameTexts_registerInput name data group) Operation.noConfusion
      fun _ => Answer.noConfusion
  | registerOutput name link data =>
    exact .of_map (sameTexts_registerOutput name link data) Operation.noConfusion
      fun _ => Answer.noConfusion
  | addFunction source returns declared arguments =>
    exact .of_add (addFunction_cases source returns declared arguments s) Operation.noConfusion
  | addEntryPoint source size declared =>
    exact .of_add (addEntryPoint_cases source size declared s) Operation.noConfusion
  | listVariables function =>
    have htypes : perform (.listVariables function)
        = Answer.types <$> ((do liftExcept ((← get).variableTypes function)) : SessionM TypeTable) := rfl
    rw [htypes]
    exact .of_map (Keeps.get.bind fun _ => Keeps.liftExcept _) Operation.noConfusion
      fun _ => Answer.noConfusion
  | submitEdit function variableName type =>
    rw [perform, Outcome.map_eq]
    rcases submitEdit_cases function variableName type s with
      ⟨fault, hm⟩ | ⟨changed, store, hedit, hm⟩
    · rw [hm]
      exact .rests (refl_of SameTexts s) Operation.noConfusion fun hanswer => nomatch hanswer
    · rw [hm]
      cases changed with
      | true =>
        rw [Bool.or_true]
        exact .edits hedit
      | false =>
        -- nothing has changed, so the store is the same one and the flag stays as it is
        rw [Store.eq_of_edit_unchanged hedit, Bool.or_false]
        refine .rests (refl_of SameTexts s) Operation.noConfusion fun hanswer => ?_
        exact Bool.false_ne_true (Answer.changed.inj (Except.ok.inj hanswer))
  | confirm =>
    rw [perform, Outcome.map_eq]
    exact .confirms
  | regenerate =>
    rw [perform, Outcome.map_eq]
    exact .regenerates
  | build =>
    exact .of_map (fun s => (quiet_build s).toSameTexts) Operation.noConfusion
      fun _ => Answer.noConfusion
  | execute counts =>
    rw [perform_execute]
    exact .of_map (fun s => (quiet_execute counts s).toSameTexts) Operation.noConfusion
      fun _ => Answer.noConfusion
  | run counts =>
    exact .of_map (fun s => (quiet_run counts s).toSameTexts) Operation.noConfusion
      fun _ => Answer.noConfusion
  | readBack waiting =>
    exact .of_map (fun s => (quiet_readBack waiting s).toSameTexts) Operation.noConfusion
      fun _ => Answer.noConfusion
  | close =>
    rw [perform_close]
    exact .of_map sameTexts_close Operation.noConfusion fun _ => Answer.noConfusion

end KernelShader.Session
