/-
`Recompilation.lean` -- when a shader is compiled anew.

Building compiles unless there is an artifact at hand for the very text, entry point and inputs. What is at
hand is the outcome of everything that was done before, failures in the middle of earlier builds included;
but it can be told from the operations and their answers alone. Some operations put the shader out of date
(`outdates`), a compilation brings it up to date, and nothing else matters (`History`). With one exception
they do so only if they succeed: closing forgets what is compiled before it gives back the first buffer, and
so also where a buffer cannot be given back.

The invariant is that the artifact at hand is the last one compiled as long as that is up to date, and that
there is none afterwards (`Tracks`). Every operation does one of three things to the artifact: it leaves it,
forgets it, or compiles a new one (`Affects`). A confirmation goes by the flag of the session, which is up
after every change of a type, but also where a confirmation has failed; there it would fail again (`Waits`).

All this is about sessions whose header can be written. In any other, building fails before it makes a call,
and nothing that can be done to the session changes that.
-/
import KernelShader.Proofs.Rig.Building
import KernelShader.Proofs.Session.Lifetime

set_option autoImplicit false

namespace KernelShader.Session

open Rig (SamePipelines samePipelines_otherCalls)

/-! ## Histories -/

/-- How many pipelines the device of the session has made. -/
def pipelines (s : Session) : Nat := s.rig.pipelines

/-- The operation puts what is compiled out of date: a registration or a function that is accepted, writing
everything again, confirming after a change, all of these if they succeed; and closing, whether or not it
does. -/
def outdates (changed : Bool) : Operation → Except Fault Answer → Bool
  | .registerInput .., .ok _ | .registerOutput .., .ok _ => true
  | .addFunction .., .ok _ | .addEntryPoint .., .ok _ => true
  | .regenerate, .ok _ => true
  | .confirm, .ok _ => changed
  | .close, _ => true
  | _, _ => false

/-- What is remembered of a run: whether an edit has been answered as a change since the last confirmation,
what was compiled last, and whether it has been put out of date since then, or since the start. -/
structure History where
  changed : Bool := false
  compiled : Option Artifact := none
  outdated : Bool := false

/-- The history after one more operation. Something has been compiled if a pipeline has been made. -/
def History.next (h : History) (s : Session) (operation : Operation) : History :=
  let result := s.answer operation
  let changed := changedAfter h.changed operation result.1
  if s.pipelines < result.2.pipelines then
    { changed, compiled := result.2.artifact, outdated := false }
  else { h with changed, outdated := h.outdated || outdates h.changed operation result.1 }

/-- The history after a run. -/
def History.over (h : History) : Session → List Operation → History
  | _, [] => h
  | s, operation :: rest => (h.next s operation).over (s.answer operation).2 rest

/-! ## The flag and the changes -/

/-- The flag is up after a change, and where it is up without one, the functions cannot be written. -/
structure Waits (changed : Bool) (s : Session) : Prop where
  edited : changed = true → s.edited = true
  changed : s.edited = true →
    changed = true ∨ ∀ bodies, s.store.replay s.config.dialect ≠ .ok bodies

theorem waits_fresh (config : Config) (device : Option Device) : Waits false (fresh config device) :=
  ⟨fun hchanged => absurd hchanged Bool.false_ne_true, fun hedited => absurd hedited Bool.false_ne_true⟩

theorem Waits.of_sameTexts {changed : Bool} {s s' : Session} (h : Waits changed s)
    (hsame : SameTexts s s') : Waits changed s' := by
  constructor
  · rw [hsame.edited]
    exact h.edited
  · rw [hsame.edited, hsame.store, hsame.config]
    exact h.changed

/-- A function that is added does not make the others fit to be written. -/
theorem Waits.reads {changed : Bool} {s s' : Session} {body : String} (h : Waits changed s)
    (hreads : Reads s s' body) : Waits changed s' := by
  obtain ⟨source, declared, arguments, kind, workgroup, t, store, -, hrecord, rfl⟩ := hreads
  refine ⟨h.edited, fun hedited => (h.changed hedited).imp_right fun hnone after hafter => ?_⟩
  obtain ⟨bodies, hbodies⟩ := Store.exists_replay_of_record hrecord hafter
  exact hnone bodies hbodies

/-- With a header, a confirmation takes the flag down unless a function cannot be written. -/
theorem InStep.waits_confirm {s : Session} (h : s.InStep) (hplaces : s.rig.Declarable) :
    Waits false (outcome confirm s).2 := by
  refine ⟨fun hchanged => absurd hchanged Bool.false_ne_true, ?_⟩
  rcases confirm_cases s with
    ⟨hedited, hout⟩ | ⟨-, fault, hreplay, hout⟩ | ⟨-, bodies, hbodies, hout⟩
  · rw [hout]
    intro hflag
    exact absurd (hedited.symm.trans hflag) Bool.false_ne_true
  · rw [hout]
    refine fun _ => Or.inr fun bodies hbodies => ?_
    exact nomatch hreplay.symm.trans hbodies
  · obtain ⟨source, hsource⟩ := h.exists_sourceOf hplaces (Store.names_of_replay h.indexed hbodies)
    rw [hout, hsource]
    exact fun hflag => absurd hflag Bool.false_ne_true

/-- **One step.** -/
theorem Waits.step {changed : Bool} {s s' : Session} {operation : Operation}
    {answer : Except Fault Answer} (h : Waits changed s) (hinStep : s.InStep)
    (hplaces : s.rig.Declarable) (hstep : TextStep s operation answer s') :
    Waits (changedAfter changed operation answer) s' := by
  cases hstep with
  | rests hsame hoperation hanswer =>
    rw [changedAfter_of_ne hoperation hanswer]
    exact h.of_sameTexts hsame
  | reads hreads hoperation =>
    rw [changedAfter_of_ne hoperation (Answer.noConfusion <| Except.ok.inj ·)]
    exact h.reads hreads
  | edits hedit => exact ⟨fun _ => rfl, fun _ => Or.inl rfl⟩
  | confirms => exact hinStep.waits_confirm hplaces
  | regenerates =>
    -- the texts may be new, but neither the functions nor the flag are
    rcases regenerate_cases s with ⟨fault, -, hout⟩ | ⟨bodies, -, hout⟩
    · rw [hout]
      exact ⟨h.edited, h.changed⟩
    · rw [hout]
      exact ⟨h.edited, h.changed⟩

/-! ## What an operation does to the artifact -/

/-- What an operation can do to the artifact at hand: leave it, forget it, or compile one. -/
inductive Affects (changed : Bool) (s : Session) (operation : Operation) (answer : Except Fault Answer)
    (s' : Session) : Prop where
  | leaves (hpipelines : s'.pipelines = s.pipelines) (hartifact : s'.artifact = s.artifact)
      (hentry : s'.store.entry?.isSome = s.store.entry?.isSome)
      (houtdates : outdates changed operation answer = false) : Affects changed s operation answer s'
  | forgets (hpipelines : s'.pipelines = s.pipelines) (hartifact : s'.artifact = none)
      (houtdates : outdates changed operation answer = true) : Affects changed s operation answer s'
  | compiles (hpipelines : s.pipelines < s'.pipelines) (hartifact : s'.artifact.isSome = true) :
      Affects changed s operation answer s'

/-- An operation that touches nothing and does not count. -/
theorem Affects.of_untouched {changed : Bool} {s s' : Session} {operation : Operation}
    {answer : Except Fault Answer} (h : Untouched s s') (hpipelines : s'.pipelines = s.pipelines)
    (houtdates : outdates changed operation answer = false) : Affects changed s operation answer s' :=
  .leaves hpipelines h.artifact h.toSameShader.isSome_entry houtdates

/-! ## Building -/

/-- An artifact that fits is used. -/
theorem Fits.usable? {s : Session} {a : Artifact} (h : s.Fits a) (ha : s.artifact = some a)
    {text : String} (htext : s.shaderText = .ok text) {entry : Transcript}
    (hentry : s.store.entry? = some entry) :
    s.usable? text entry.name s.rig.signature = some a := by
  have hsource : a.sourceText = text := Except.ok.inj (h.text.symm.trans htext)
  have hname : a.entryPoint = entry.name := by
    have hnames := h.entry
    rw [hentry, Option.map_some, Option.some.injEq] at hnames
    exact hnames.symm
  have hmatches : a.matches text entry.name s.rig.signature = true := by
    simp [Artifact.matches, hsource, hname, h.signature]
  rw [Session.usable?, ha, Option.filter_some, if_pos hmatches]

/-- Building under what is at hand: bind groups for an artifact, and all of it without one. -/
theorem Current.outcome_build {s : Session} (h : s.Current) {text : String}
    (htext : s.shaderText = .ok text) {entry : Transcript} (hentry : s.store.entry? = some entry) :
    outcome build s = outcome (match s.artifact with
      | some a => bindTo a
      | none => compile text entry.name s.rig.signature >>= bindTo) s := by
  rw [outcome_build_of_some hentry htext]
  cases hartifact : s.artifact with
  | some a => rw [(h.fits hartifact).usable? hartifact htext hentry]
  | none => rw [Session.usable?, hartifact, Option.filter_none]

theorem counts_compile (text entryPoint : String) (s : Session) :
    Counts pipelines (compile text entryPoint s.rig.signature) s := by
  have hsame : ∀ {α : Type} {work : RigM α}, Keeps SamePipelines work → ∀ s₁ : Session,
      (outcome (onRig work) s₁).2.pipelines = s₁.pipelines :=
    fun hwork s₁ => ((along_onRig hwork) s₁).rig
  refine Counts.after rfl fun _ s₁ hs₁ => ?_
  refine Counts.after (hsame (samePipelines_otherCalls.report _) s₁) fun _ s₂ hs₂ => ?_
  refine Counts.after (hsame samePipelines_otherCalls.buildLayout s₂) fun layout s₃ hs₃ => ?_
  -- forgetting and reporting have left the inputs alone, so the layout is one for them
  have hrig : outcome Rig.buildLayout s₂.rig = (.ok layout, s₃.rig) := by
    rw [outcome_onRig, Prod.mk.injEq] at hs₃
    rw [← hs₃.2]
    exact Prod.ext hs₃.1 rfl
  have hfits : layout.signature = s.rig.signature := by
    rw [outcome_invalidate, Prod.mk.injEq] at hs₁
    rw [outcome_report, Prod.mk.injEq] at hs₂
    rw [(Rig.buildLayout_eq_ok hrig).1, ← hs₂.2, ← hs₁.2]
    rfl
  refine Counts.before ?_ fun _ s₄ => ⟨_, _, rfl, rfl⟩
  have hcounts := Rig.counts_compile hfits text entryPoint s₃.rig
  unfold Counts at hcounts ⊢
  rw [outcome_onRig]
  exact hcounts

theorem pipelines_bindTo (a : Artifact) (s : Session) :
    (outcome (bindTo a) s).2.pipelines = s.pipelines :=
  (along_bindTo samePipelines_otherCalls.buildGroups a s).rig

/-- Making bind groups does not change which artifact is at hand. -/
theorem Fits.artifact_bindTo {s : Session} {a : Artifact} (h : s.Fits a) :
    (outcome (bindTo a) s).2.artifact = s.artifact := by
  rcases bindTo_cases h with ⟨fault, s', hout, hsame, -⟩ | ⟨groups, s', hout, -, hartifact, -, -⟩
  · rw [hout]
    exact hsame.artifact
  · rw [hout]
    exact hartifact

/-- Work with the shader, which goes on with the artifact at hand, or compiles one where there is none. -/
structure Renews (s s' : Session) : Prop where
  current : StaysCurrent s s'
  same : SameShader s s'
  artifact : s.InStep ∧ s.Current → (s'.pipelines = s.pipelines ∧ s'.artifact = s.artifact) ∨
    (s.pipelines < s'.pipelines ∧ s.artifact = none ∧ s'.artifact.isSome = true)

instance : IsPreorder Session Renews where
  refl s := ⟨refl_of StaysCurrent s, refl_of SameShader s, fun _ => Or.inl ⟨rfl, rfl⟩⟩
  trans s s₁ s₂ h h' := by
    refine ⟨trans_of StaysCurrent h.current h'.current, trans_of SameShader h.same h'.same, ?_⟩
    intro hs
    rcases h.artifact hs with ⟨hpipelines, hartifact⟩ | ⟨hmade, hnone, hsome⟩ <;>
      rcases h'.artifact (h.current hs) with ⟨hpipelines', hartifact'⟩ | ⟨hmade', hnone', hsome'⟩
    · exact Or.inl ⟨hpipelines'.trans hpipelines, hartifact'.trans hartifact⟩
    · exact Or.inr ⟨hpipelines ▸ hmade', hartifact ▸ hnone', hsome'⟩
    · exact Or.inr ⟨hpipelines' ▸ hmade, hnone, hartifact' ▸ hsome⟩
    · -- nothing is compiled twice, since there is an artifact after the first time
      rw [hnone'] at hsome
      exact absurd hsome Bool.false_ne_true

theorem renews_of_untouched {s s' : Session} (hcurrent : StaysCurrent s s') (h : Untouched s s')
    (hpipelines : s'.pipelines = s.pipelines) : Renews s s' :=
  ⟨hcurrent, h.toSameShader, fun _ => Or.inl ⟨hpipelines, h.artifact⟩⟩

/-- A build with a shader to build goes on with the artifact at hand, or compiles one. -/
theorem Current.artifact_build {s : Session} (h : s.Current) {text : String}
    (htext : s.shaderText = .ok text) {entry : Transcript} (hentry : s.store.entry? = some entry) :
    ((outcome build s).2.pipelines = s.pipelines ∧ (outcome build s).2.artifact = s.artifact) ∨
    (s.pipelines < (outcome build s).2.pipelines ∧ s.artifact = none ∧
      (outcome build s).2.artifact.isSome = true) := by
  rw [h.outcome_build htext hentry]
  cases hartifact : s.artifact with
  | some a =>
    have hfits := h.fits hartifact
    exact Or.inl ⟨pipelines_bindTo a s, hfits.artifact_bindTo.trans hartifact⟩
  | none =>
    have hcounts := counts_compile text entry.name s
    dsimp only
    rcases compile_cases htext hentry with
      ⟨fault, s₁, hout, -, hnone, -⟩ | ⟨a, s₁, hout, -, hsome, -, hfits⟩
    · rw [Counts, hout] at hcounts
      rw [Outcome.bind_of_error hout]
      exact Or.inl ⟨hcounts, hnone⟩
    · rw [Counts, hout] at hcounts
      rw [Outcome.bind_of_ok hout, pipelines_bindTo, hfits.artifact_bindTo, hsome]
      exact Or.inr ⟨hcounts ▸ Nat.lt_succ_self _, rfl, rfl⟩

theorem renews_build : Keeps Renews build := by
  intro s
  have hquiet := quiet_build s
  refine ⟨staysCurrent_build s, ?_, ?_⟩
  · exact sameShader_of_continues hquiet.store hquiet.bodies hquiet.rig
  rintro ⟨hstep, hcurrent⟩
  cases hentry : s.store.entry? with
  | none =>
    rw [outcome_build_of_none hentry]
    exact Or.inl ⟨rfl, rfl⟩
  | some entry =>
    cases htext : s.shaderText with
    | error fault =>
      rw [outcome_build_of_error hentry htext]
      exact Or.inl ⟨rfl, rfl⟩
    | ok text => exact hcurrent.artifact_build htext hentry

theorem renews_dispatchBuilt (counts : Value) : Keeps Renews (dispatchBuilt counts) := fun s =>
  renews_of_untouched (staysCurrent_dispatchBuilt counts s) (untouched_dispatchBuilt counts s)
    (along_dispatchBuilt samePipelines_otherCalls.execute counts s).rig

theorem renews_readBack (waiting : Waiting) : Keeps Renews (readBack waiting) := fun s =>
  renews_of_untouched (staysCurrent_readBack waiting s)
    (untouched_onRig (Rig.continues_readBack waiting) s)
    (along_onRig (samePipelines_otherCalls.readBack waiting) s).rig

theorem Renews.affects {changed : Bool} {s s' : Session} (h : Renews s s') (hstep : s.InStep)
    (hcurrent : s.Current) {operation : Operation} {answer : Except Fault Answer}
    (houtdates : outdates changed operation answer = false) : Affects changed s operation answer s' := by
  rcases h.artifact ⟨hstep, hcurrent⟩ with ⟨hpipelines, hartifact⟩ | ⟨hmade, -, hsome⟩
  · exact .leaves hpipelines hartifact h.same.isSome_entry houtdates
  · exact .compiles hmade hsome

/-! ## Every operation -/

/-- Registering: the artifact is forgotten if the registration succeeds, and only then. -/
theorem affects_forgetting {α : Type} {work : RigM α} (wrap : α → Answer) (operation : Operation)
    {changed : Bool} {s : Session} (hpipelines : Keeps SamePipelines work)
    (hfails : ∀ fault r, outcome work s.rig = (.error fault, r) → Rig.Continues s.rig r)
    (hok : ∀ answer, outdates changed operation (.ok answer) = true)
    (herror : ∀ fault, outdates changed operation (.error fault) = false) :
    Affects changed s operation
      (outcome (wrap <$> (onRig work >>= fun a => invalidate >>= fun _ => pure a)) s).1
      (outcome (wrap <$> (onRig work >>= fun a => invalidate >>= fun _ => pure a)) s).2 := by
  rw [Outcome.map_eq]
  rcases hx : outcome work s.rig with ⟨x, r⟩
  have hsame : SamePipelines s.rig r := hpipelines.of_outcome_eq hx
  cases x with
  | error fault =>
    rw [outcome_forgetting_of_error hx]
    exact .of_untouched (untouched_rig s (hfails fault r hx)) hsame (herror fault)
  | ok a =>
    rw [outcome_forgetting_of_ok hx]
    exact .forgets hsame rfl (hok _)

/-- Adding: the artifact is forgotten if the function is accepted, and only then. -/
theorem affects_adding {m : SessionM String} (operation : Operation) {changed : Bool} {s : Session}
    (hcases : (∃ fault, outcome m s = (.error fault, s)) ∨
      ∃ body s', outcome m s = (.ok body, s') ∧ Reads s s' body)
    (hok : ∀ answer, outdates changed operation (.ok answer) = true)
    (herror : ∀ fault, outdates changed operation (.error fault) = false) :
    Affects changed s operation (outcome (Answer.body <$> m) s).1 (outcome (Answer.body <$> m) s).2 := by
  rw [Outcome.map_eq]
  rcases hcases with ⟨fault, hm⟩ | ⟨body, s', hm, hreads⟩
  · rw [hm]
    exact .of_untouched (refl_of Untouched s) rfl (herror fault)
  · obtain ⟨-, -, -, -, -, t, store, -, -, rfl⟩ := hreads
    rw [hm]
    exact .forgets rfl rfl (hok _)

/-- Regenerating forgets the artifact if it succeeds, and only then. -/
theorem InStep.affects_regenerate {s : Session} (h : s.InStep) (hplaces : s.rig.Declarable)
    (changed : Bool) :
    Affects changed s .regenerate ((outcome regenerate s).1.map Answer.source)
      (outcome regenerate s).2 := by
  rcases regenerate_cases s with ⟨fault, -, hout⟩ | ⟨bodies, hbodies, hout⟩
  · rw [hout]
    exact .of_untouched (untouched_logging s _) rfl rfl
  · obtain ⟨source, hsource⟩ := h.exists_sourceOf hplaces (Store.names_of_replay h.indexed hbodies)
    rw [hout, hsource]
    exact .forgets rfl rfl rfl

/-- Confirming forgets the artifact if it succeeds and there has been a change. -/
theorem InStep.affects_confirm {changed : Bool} {s : Session} (h : s.InStep)
    (hplaces : s.rig.Declarable) (hwaits : Waits changed s) :
    Affects changed s .confirm ((outcome confirm s).1.map Answer.source) (outcome confirm s).2 := by
  rcases confirm_cases s with
    ⟨hedited, hout⟩ | ⟨-, fault, -, hout⟩ | ⟨hedited, bodies, hbodies, hout⟩
  · -- the flag is down, so there has been no change
    have hchanged : changed = false := by
      rw [Bool.eq_false_iff]
      intro hchanged
      exact absurd (hedited.symm.trans (hwaits.edited hchanged)) Bool.false_ne_true
    obtain ⟨source, hsource⟩ := h.exists_sourceOf hplaces h.names
    rw [hout, ← sourceOf_bodies, hsource]
    exact .of_untouched (untouched_logging s _) rfl hchanged
  · rw [hout]
    exact .of_untouched (untouched_logging s _) rfl rfl
  · have hchanged : changed = true :=
      (hwaits.changed hedited).resolve_right fun hnone => hnone bodies hbodies
    obtain ⟨source, hsource⟩ := h.exists_sourceOf hplaces (Store.names_of_replay h.indexed hbodies)
    rw [hout, hsource]
    exact .forgets rfl rfl hchanged

/-- **One operation.** -/
theorem InStep.affects {changed : Bool} {s : Session} (hstep : s.InStep) (hcurrent : s.Current)
    (hplaces : s.rig.Declarable) (hwaits : Waits changed s) (operation : Operation) :
    Affects changed s operation (s.answer operation).1 (s.answer operation).2 := by
  rw [answer_eq]
  cases operation with
  | registerInput name data group =>
    exact affects_forgetting Answer.input _ (samePipelines_otherCalls.registerInput name data group)
      (fun _ _ hfault => (Rig.consults_of_registerInput_error hfault).toContinues) (fun _ => rfl)
      fun _ => rfl
  | registerOutput name link data =>
    exact affects_forgetting Answer.output _ (samePipelines_otherCalls.registerOutput name link data)
      (fun _ _ hfault => (Rig.consults_of_registerOutput_error hfault).toContinues) (fun _ => rfl)
      fun _ => rfl
  | addFunction source returns declared arguments =>
    exact affects_adding _ (addFunction_cases source returns declared arguments s) (fun _ => rfl)
      fun _ => rfl
  | addEntryPoint source size declared =>
    exact affects_adding _ (addEntryPoint_cases source size declared s) (fun _ => rfl) fun _ => rfl
  | listVariables function =>
    have hsame : Keeps Eq (perform (.listVariables function)) :=
      Keeps.get.bind fun s' => (Keeps.liftExcept _).bind fun _ => Keeps.pure _
    rw [← hsame s]
    exact .of_untouched (refl_of Untouched s) rfl rfl
  | submitEdit function variableName type =>
    rw [perform, Outcome.map_eq]
    rcases submitEdit_cases function variableName type s with
      ⟨fault, hm⟩ | ⟨changed, store, hedit, hm⟩
    · rw [hm]
      exact .of_untouched (refl_of Untouched s) rfl rfl
    · rw [hm]
      exact .of_untouched (untouched_submitEdit hedit) rfl rfl
  | confirm =>
    rw [perform, Outcome.map_eq]
    exact hstep.affects_confirm hplaces hwaits
  | regenerate =>
    rw [perform, Outcome.map_eq]
    exact hstep.affects_regenerate hplaces changed
  | build => exact (renews_build.map _ s).affects hstep hcurrent rfl
  | execute counts =>
    have hrenews := keeps_execute renews_build (renews_dispatchBuilt counts)
    exact (hrenews.bind (fun _ => Keeps.pure Answer.done) s).affects hstep hcurrent rfl
  | run counts =>
    have hrenews := keeps_run renews_build (renews_dispatchBuilt counts) (renews_readBack .sync)
    exact (hrenews.map _ s).affects hstep hcurrent rfl
  | readBack waiting => exact ((renews_readBack waiting).map _ s).affects hstep hcurrent rfl
  | close =>
    have hpipelines := (along_close samePipelines_otherCalls.release s).rig
    rw [perform_close, Outcome.map_eq]
    rw [outcome_close] at hpipelines ⊢
    exact .forgets hpipelines rfl rfl

/-! ## Every run -/

/-- The history is right about the session: the artifact at hand is the one compiled last unless it is out
of date, and with an entry point something has been compiled or is out of date. -/
structure Tracks (h : History) (s : Session) : Prop where
  waits : Waits h.changed s
  artifact : s.artifact = if h.outdated then none else h.compiled
  compiled : s.store.entry?.isSome = true → h.outdated = false → h.compiled.isSome = true

theorem tracks_fresh (config : Config) (device : Option Device) : Tracks {} (fresh config device) :=
  ⟨waits_fresh config device, rfl, fun hentry => absurd hentry Bool.false_ne_true⟩

/-- **One operation.** -/
theorem Tracks.answer {h : History} {s : Session} (ht : Tracks h s) (hstep : s.InStep)
    (hcurrent : s.Current) (hplaces : s.rig.Declarable) (operation : Operation) :
    Tracks (h.next s operation) (s.answer operation).2 := by
  have hwaits := ht.waits.step hstep hplaces (textStep_answer s operation)
  unfold History.next
  dsimp only
  cases hstep.affects hcurrent hplaces ht.waits operation with
  | leaves hpipelines hartifact hentry houtdates =>
    rw [if_neg (Nat.not_lt.mpr (Nat.le_of_eq hpipelines)), houtdates, Bool.or_false]
    refine ⟨hwaits, hartifact.trans ht.artifact, ?_⟩
    rw [hentry]
    exact ht.compiled
  | forgets hpipelines hartifact houtdates =>
    rw [if_neg (Nat.not_lt.mpr (Nat.le_of_eq hpipelines)), houtdates, Bool.or_true]
    exact ⟨hwaits, hartifact, fun _ hdue => absurd hdue.symm Bool.false_ne_true⟩
  | compiles hpipelines hartifact =>
    rw [if_pos hpipelines]
    exact ⟨hwaits, rfl, fun _ _ => hartifact⟩

/-- Inputs are only ever added, so a header that can be written in the end could be at any time before. -/
theorem declarable_of_after {s : Session} (hreachable : Rig.Reachable s.rig)
    (operations : List Operation) (h : (s.after operations).rig.Declarable) : s.rig.Declarable :=
  h.of_append (grown_after hreachable operations).inputs

/-- **A run of operations.** -/
theorem Tracks.after {h : History} {s : Session} (ht : Tracks h s) (hstep : s.InStep)
    (hcurrent : s.Current) (hreachable : Rig.Reachable s.rig) (operations : List Operation)
    (hplaces : (s.after operations).rig.Declarable) :
    Tracks (h.over s operations) (s.after operations) := by
  induction operations generalizing h s with
  | nil => exact ht
  | cons operation rest ih =>
    have hfirst := declarable_of_after hreachable (operation :: rest) hplaces
    exact ih (ht.answer hstep hcurrent hfirst operation) (hstep.answer operation)
      (hcurrent.answer hstep operation) (grown_answer hreachable operation).rig hplaces

/-- With an entry point, there is no artifact at hand exactly if what was compiled is out of date. -/
theorem Tracks.cases {h : History} {s : Session} (ht : Tracks h s) {entry : Transcript}
    (hentry : s.store.entry? = some entry) :
    (h.outdated = true ∧ s.artifact = none) ∨
      (h.outdated = false ∧ ∃ a, h.compiled = some a ∧ s.artifact = some a) := by
  have hartifact := ht.artifact
  cases houtdated : h.outdated with
  | true =>
    rw [houtdated] at hartifact
    exact Or.inl ⟨rfl, hartifact⟩
  | false =>
    rw [houtdated] at hartifact
    obtain ⟨a, ha⟩ := Option.isSome_iff_exists.mp (ht.compiled (by rw [hentry]; rfl) houtdated)
    exact Or.inr ⟨rfl, a, ha, hartifact.trans ha⟩

/-! ## The calls of a build -/

theorem issues_onRig {α : Type} {work : RigM α} {kinds : List ObjectKind} {s : Session}
    (h : Issues Rig.trace work kinds s.rig) : Issues trace (onRig work) kinds s := by
  unfold Issues
  rw [outcome_onRig]
  exact h

theorem Fits.issues_bindTo {s : Session} {a : Artifact} (h : s.Fits a) {d : Device}
    (hdevice : s.rig.device = some d) :
    Issues trace (bindTo a) (List.replicate s.rig.groups.length .group) s := by
  have hgroups := Rig.issues_buildGroups hdevice h.signature h.laid
  exact (issues_onRig hgroups).bind_silent fun _ _ => Issues.silent rfl rfl

theorem issues_compile {s : Session} {d : Device} (hdevice : s.rig.device = some d)
    (text entryPoint : String) :
    Issues trace (compile text entryPoint s.rig.signature)
      (List.replicate s.rig.groups.length .layout ++ [.shader, .pipelineLayout, .pipeline]) s := by
  unfold Issues compile
  rw [Outcome.bind_of_ok (outcome_invalidate s), Outcome.bind_of_ok (outcome_report _ _)]
  -- what has been forgotten and reported by now is neither in the rig nor on its record
  set s₀ : Session := logging { s with artifact := none, bindGroups := none } [.compiling text]
  have hlayout : Issues trace (onRig Rig.buildLayout)
      (List.replicate s.rig.groups.length .layout) s₀ :=
    issues_onRig (Rig.issues_buildLayout (r := s₀.rig) hdevice)
  refine hlayout.bind fun layout s₁ hs₁ => ?_
  rw [outcome_onRig, Prod.mk.injEq] at hs₁
  have hrig : outcome Rig.buildLayout s₀.rig = (.ok layout, s₁.rig) := by
    rw [← hs₁.2]
    exact Prod.ext hs₁.1 rfl
  obtain ⟨d₁, hdevice₁, -⟩ := (Rig.continues_buildLayout.of_outcome_eq hrig).device hdevice
  have hfits : layout.signature = s.rig.signature := (Rig.buildLayout_eq_ok hrig).1
  exact (issues_onRig (Rig.issues_compile hdevice₁ hfits text entryPoint)).bind_silent
    fun _ _ => Issues.silent rfl rfl

/-- Without an artifact at hand, all of it is asked for. -/
theorem Current.issues_build_of_none {s : Session} (h : s.Current) {text : String}
    (htext : s.shaderText = .ok text) (hartifact : s.artifact = none) {entry : Transcript}
    (hentry : s.store.entry? = some entry) {d : Device} (hdevice : s.rig.device = some d) :
    Issues trace build (List.replicate s.rig.groups.length .layout ++
      [.shader, .pipelineLayout, .pipeline] ++ List.replicate s.rig.groups.length .group) s := by
  unfold Issues
  rw [h.outcome_build htext hentry, hartifact]
  refine (issues_compile hdevice text entry.name).bind fun a s₁ hs₁ => ?_
  rcases compile_cases htext hentry with ⟨fault, _, hout, -⟩ | ⟨b, s₂, hout, hsame, -, -, hfits⟩
  · rw [hs₁] at hout
    exact nomatch hout
  · rw [hs₁, Prod.mk.injEq, Except.ok.injEq] at hout
    obtain ⟨rfl, rfl⟩ := hout
    obtain ⟨d₁, hdevice₁, -⟩ := hsame.rig.device hdevice
    rw [← hsame.rig.groups_eq]
    exact hfits.issues_bindTo hdevice₁

/-- With an artifact at hand, only bind groups are asked for, and it is the artifact of the build. -/
theorem Current.issues_build_of_some {s : Session} (h : s.Current) {text : String}
    (htext : s.shaderText = .ok text) {a : Artifact} (hartifact : s.artifact = some a) {entry : Transcript}
    (hentry : s.store.entry? = some entry) {d : Device} (hdevice : s.rig.device = some d) :
    Issues trace build (List.replicate s.rig.groups.length .group) s ∧
      (outcome build s).2.artifact = some a ∧ ∀ b, (outcome build s).1 = .ok b → b = a := by
  have hfits := h.fits hartifact
  have hbuild := h.outcome_build htext hentry
  rw [hartifact] at hbuild
  unfold Issues
  rw [hbuild]
  refine ⟨hfits.issues_bindTo hdevice, hfits.artifact_bindTo.trans hartifact, fun b hb => ?_⟩
  rcases bindTo_cases hfits with ⟨fault, s', hout, -⟩ | ⟨groups, s', hout, -⟩
  · rw [hout] at hb
    exact nomatch hb
  · rw [hout] at hb
    exact (Except.ok.inj hb).symm

/-- **A shader is compiled again exactly if it is out of date.** Take a session with a device and an entry
point, after any operations, whose header can be written. If something that counts has happened since the
last compilation, or none has been, then building asks for the layouts, the module, the pipeline layout and
the pipeline, and after them for the bind groups; otherwise it asks for bind groups alone, keeps the artifact
last compiled and answers with it. In both cases it asks in order, until all is there or a call fails. If the
header cannot be written, building fails for that and asks for nothing. -/
theorem build_compiles_iff_outdated (config : Config) (device : Device)
    (operations : List Operation) {entry : Transcript}
    (hentry : ((fresh config (some device)).after operations).store.entry? = some entry) :
    let s := (fresh config (some device)).after operations
    let history := History.over {} (fresh config (some device)) operations
    let groups := s.rig.groups.length
    (s.rig.Declarable → ∃ calls, (s.answer .build).2.trace = s.trace ++ calls ∧
      (history.outdated = true ↔ ∃ call ∈ calls, call.makes = some .layout) ∧
      (history.outdated = true → Fulfils calls (List.replicate groups .layout ++
        [.shader, .pipelineLayout, .pipeline] ++ List.replicate groups .group) (s.answer .build).1) ∧
      (history.outdated = false →
        Fulfils calls (List.replicate groups .group) (s.answer .build).1 ∧
        ∃ a, history.compiled = some a ∧ (s.answer .build).2.artifact = some a ∧
          ∀ answer, (s.answer .build).1 = .ok answer → answer = .artifact a)) ∧
    (¬ s.rig.Declarable → s.answer .build = (.error .numeralUnprintable, s)) := by
  intro s history groups
  have hreachable : Reachable s := ⟨config, some device, operations, rfl⟩
  have hcurrent := hreachable.current
  have hanswer : s.answer .build = ((outcome build s).1.map Answer.artifact, (outcome build s).2) :=
    Outcome.map_eq _ _ _
  rw [hanswer]
  refine ⟨fun hplaces => ?_, fun hplaces => ?_⟩
  · obtain ⟨text, htext⟩ := hreachable.inStep.exists_shaderText hplaces
    obtain ⟨d, hdevice, -⟩ := ledger_after config device operations
    have htracks : Tracks history s :=
      (tracks_fresh config (some device)).after (inStep_fresh config _) (current_of_none rfl rfl)
        (Rig.Reachable.fresh (some device) config.label []) operations hplaces
    rcases htracks.cases hentry with ⟨houtdated, hnone⟩ | ⟨houtdated, a, hcompiled, hsome⟩
    · obtain ⟨calls, htrace, hfulfils⟩ := hcurrent.issues_build_of_none htext hnone hentry hdevice
      refine ⟨calls, htrace, ?_, fun _ => hfulfils.map _, fun hnot => ?_⟩
      · -- there is a layout for group zero at least, and it is asked for first
        have hfirst := hfulfils
        rw [Rig.groups, List.length_range, List.replicate_succ] at hfirst
        exact iff_of_true houtdated hfirst.exists_first
      · exact absurd (houtdated.symm.trans hnot).symm Bool.false_ne_true
    · obtain ⟨⟨calls, htrace, hfulfils⟩, hartifact, hresult⟩ :=
        hcurrent.issues_build_of_some htext hsome hentry hdevice
      refine ⟨calls, htrace, ?_, fun hyes => ?_, fun _ => ⟨hfulfils.map _, a, hcompiled, hartifact, ?_⟩⟩
      · rw [houtdated]
        refine iff_of_false Bool.false_ne_true ?_
        rintro ⟨call, hmem, hlayout⟩
        have hkind := hfulfils.isPrefix.subset (List.mem_map_of_mem hmem)
        rw [hlayout, List.map_replicate] at hkind
        exact absurd (Option.some.inj (List.eq_of_mem_replicate hkind)) ObjectKind.noConfusion
      · exact absurd (houtdated.symm.trans hyes) Bool.false_ne_true
      · intro answer hok
        obtain ⟨b, hb, rfl⟩ := Check.map_eq_ok_iff.mp hok
        rw [hresult b hb]
  · rw [outcome_build_of_error hentry (shaderText_of_not_declarable hplaces)]
    rfl

/-- In the first four steps the bind groups are refused after the shader was compiled, and a type is
changed; the fifth confirms that. -/
theorem recoveredRun_recompiles :
    let s := (fresh {} (some refusingOnce)).after (recoveredRun.take 4)
    let s' := (fresh {} (some refusingOnce)).after (recoveredRun.take 5)
    (History.over {} (fresh {} (some refusingOnce)) (recoveredRun.take 4)).outdated = false ∧
    (∃ calls a, (s.answer .build).2.trace = s.trace ++ calls ∧
      calls.map Call.makes <+: [some .group, some .group] ∧ (s.answer .build).2.artifact = some a) ∧
    (History.over {} (fresh {} (some refusingOnce)) (recoveredRun.take 5)).outdated = true ∧
    ∃ calls, (s'.answer .build).2.trace = s'.trace ++ calls ∧
      ∃ call ∈ calls, call.makes = some .layout := by
  have hkeeps := @build_compiles_iff_outdated {} refusingOnce (recoveredRun.take 4)
  have hrenews := @build_compiles_iff_outdated {} refusingOnce (recoveredRun.take 5)
  have hkept : (History.over {} (fresh {} (some refusingOnce)) (recoveredRun.take 4)).outdated
      = false := by decide +kernel
  have houtdated : (History.over {} (fresh {} (some refusingOnce)) (recoveredRun.take 5)).outdated
      = true := by decide +kernel
  have hgroups : ((fresh {} (some refusingOnce)).after (recoveredRun.take 4)).rig.groups.length = 2 := by
    decide +kernel
  have hsome : ((fresh {} (some refusingOnce)).after (recoveredRun.take 4)).store.entry?.isSome
      = true := by decide +kernel
  have hsome' : ((fresh {} (some refusingOnce)).after (recoveredRun.take 5)).store.entry?.isSome
      = true := by decide +kernel
  have hplaces : ((fresh {} (some refusingOnce)).after (recoveredRun.take 4)).rig.Declarable := by
    decide +kernel
  have hplaces' : ((fresh {} (some refusingOnce)).after (recoveredRun.take 5)).rig.Declarable := by
    decide +kernel
  -- from here on the two sessions are not looked into any more
  generalize (fresh {} (some refusingOnce)).after (recoveredRun.take 4) = s at *
  generalize (fresh {} (some refusingOnce)).after (recoveredRun.take 5) = s' at *
  generalize History.over {} (fresh {} (some refusingOnce)) (recoveredRun.take 4) = history at *
  generalize History.over {} (fresh {} (some refusingOnce)) (recoveredRun.take 5) = history' at *
  obtain ⟨entry, hentry⟩ := Option.isSome_iff_exists.mp hsome
  obtain ⟨entry', hentry'⟩ := Option.isSome_iff_exists.mp hsome'
  obtain ⟨calls, htrace, -, -, hsame⟩ := (hkeeps hentry).1 hplaces
  obtain ⟨calls', htrace', hlayout, -, -⟩ := (hrenews hentry').1 hplaces'
  obtain ⟨hfulfils, a, -, hartifact, -⟩ := hsame hkept
  have hfront := hfulfils.isPrefix
  rw [hgroups] at hfront
  exact ⟨hkept, ⟨calls, a, htrace, hfront, hartifact⟩, houtdated, calls', htrace',
    hlayout.mp houtdated⟩

/-- A device that gives no buffer back. -/
def clingingDevice : Device where
  failures := fun _ call => match call with
    | .destroy .. => some (.runtime, "device lost")
    | _ => none

/-- The shader is built once. -/
def builtRun : List Operation :=
  [.registerInput "a" (.words [7]) (.int 0), .addEntryPoint "function main() \x7b\n\x7d" (.int 1) .none,
    .build]

/-- Closing fails here, and is the only thing that happens between two builds; but the second build asks for
a layout again and ends with another artifact. -/
theorem failedClose_recompiles :
    let s := (fresh {} (some clingingDevice)).after builtRun
    let s' := (s.answer .close).2
    s.artifact.isSome = true ∧ (s.answer .close).1.isOk = false ∧
    (∃ calls, (s'.answer .build).2.trace = s'.trace ++ calls ∧
      ∃ call ∈ calls, call.makes = some .layout) ∧
    (s'.answer .build).1.isOk = true ∧ (s'.answer .build).2.artifact ≠ s.artifact := by
  intro s s'
  refine ⟨by decide +kernel, by decide +kernel, ?_, by decide +kernel, by decide +kernel⟩
  exact ⟨(s'.answer .build).2.trace.drop s'.trace.length, by decide +kernel, by decide +kernel⟩

end KernelShader.Session
