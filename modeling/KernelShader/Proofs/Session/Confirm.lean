/-
`Confirm.lean` -- confirming shows what writing everything again would show.

Confirming trusts one flag. If the flag is down it writes nothing and shows the cached texts, so these
have to be what a replay of the store would give, for every function, at every moment at which the flag
is down. `InStep` is that statement together with what it takes to keep it: the store is in order, its
functions can be written, the cache has a text for each of them and no other. Every operation keeps it,
whether it succeeds or fails.

The critical case is a function that is read while the flag is up. Its own text is a replay of its own
table (`read_eq_ok`), the other texts may be behind, and the flag stays up; nothing has to be known about
them until the flag comes down, and that only happens after everything has been written again.

A number that is too long to be written, in a type or in the place of an input, makes confirming and
regenerating fail, and then they fail alike. A confirmation that fails leaves the flag up although the texts
may have been written again by then, so that texts can have caught up with the store while the flag says
otherwise (`Caught`).
-/
import KernelShader.Proofs.Rig.Header
import KernelShader.Proofs.Session.Texts

set_option autoImplicit false

namespace KernelShader.Session

open NameTable

/-! ## Texts in step with the store -/

/-- The cached texts belong to the functions of the store, and unless a type has changed since, they are
what a replay gives. -/
structure InStep (s : Session) : Prop where
  indexed : s.store.Indexed
  complete : ∀ t ∈ s.store.values, t.Complete
  names : s.bodies.names = s.store.names
  current : s.edited = false → s.store.replay s.config.dialect = .ok s.bodies

theorem inStep_fresh (config : Config) (device : Option Device) : (fresh config device).InStep where
  indexed := Store.indexed_empty
  complete := fun _ h => absurd h List.not_mem_nil
  names := rfl
  current := fun _ => rfl

theorem InStep.of_sameTexts {s s' : Session} (h : s.InStep) (hsame : SameTexts s s') : s'.InStep where
  indexed := hsame.store ▸ h.indexed
  complete := hsame.store ▸ h.complete
  names := by rw [hsame.bodies, hsame.store, h.names]
  current := by
    intro hedited
    rw [hsame.store, hsame.config, hsame.bodies]
    exact h.current (hsame.edited ▸ hedited)

/-- The types of all functions can be written. -/
def TypesWritable (s : Session) : Prop := ∀ t ∈ s.store.values, t.TypesWritable

theorem typesWritable_of_values {s : Session}
    (h : ∀ t ∈ s.store.values, (∀ type ∈ t.types.values, type.Writable) ∧
      ∀ type ∈ t.returns, type.Writable) : s.TypesWritable :=
  fun t ht => ⟨Generator.typesWritable_of_values (h t ht).1, (h t ht).2⟩

/-- In step, everything can be written again if its types can be written. -/
theorem InStep.exists_replay {s : Session} (h : s.InStep) (htypes : s.TypesWritable) :
    ∃ bodies, s.store.replay s.config.dialect = .ok bodies := Store.exists_replay h.complete htypes

/-- With a text for every function there is a shader, if there is a header. -/
theorem InStep.exists_sourceOf {s : Session} (h : s.InStep) (hplaces : s.rig.Declarable)
    {bodies : Bodies} (hnames : bodies.names = s.store.names) :
    ∃ source, s.sourceOf bodies = .ok source := by
  obtain ⟨source, hsource⟩ :=
    Store.exists_assemble h.indexed (s.rig.inputs.values.map Input.declaration) hnames
  exact ⟨source, sourceOf_eq_ok_iff.mpr ⟨_, hplaces.header, hsource⟩⟩

theorem sourceOf_of_not_declarable {s : Session} (h : ¬ s.rig.Declarable) (bodies : Bodies) :
    s.sourceOf bodies = .error .numeralUnprintable := by
  unfold sourceOf
  rw [Rig.header_of_not_declarable h]
  rfl

/-- The one thing that can be wrong with a shader is a number in its header. -/
theorem InStep.failsWith_sourceOf {s : Session} (h : s.InStep) {bodies : Bodies}
    (hnames : bodies.names = s.store.names) :
    Check.FailsWith Fault.IsUnprintable (s.sourceOf bodies) := by
  by_cases hplaces : s.rig.Declarable
  · obtain ⟨source, hsource⟩ := h.exists_sourceOf hplaces hnames
    rw [hsource]
    exact .ok source
  · rw [sourceOf_of_not_declarable hplaces]
    exact .error rfl

theorem InStep.exists_shaderText {s : Session} (h : s.InStep) (hplaces : s.rig.Declarable) :
    ∃ text, s.shaderText = .ok text := by
  obtain ⟨source, hsource⟩ := h.exists_sourceOf hplaces h.names
  exact ⟨source.text, Check.map_eq_ok_iff.mpr ⟨source, hsource, rfl⟩⟩

theorem InStep.failsWith_shaderText {s : Session} (h : s.InStep) :
    Check.FailsWith Fault.IsUnprintable s.shaderText := (h.failsWith_sourceOf h.names).map _

theorem shaderText_of_not_declarable {s : Session} (h : ¬ s.rig.Declarable) :
    s.shaderText = .error .numeralUnprintable := by
  rw [shaderText, ← sourceOf_bodies, sourceOf_of_not_declarable h]
  rfl

/-! ## What each operation keeps -/

theorem InStep.reads {s s' : Session} {body : String} (h : s.InStep) (hreads : Reads s s' body) :
    s'.InStep := by
  obtain ⟨source, declared, arguments, kind, workgroup, t, store, hread, hrecord, rfl⟩ := hreads
  obtain ⟨hcomplete, hbody⟩ := read_eq_ok hread
  obtain ⟨hnew, -, hentries⟩ := Store.record_eq_ok hrecord
  have hnewBody : t.name ∉ s.bodies.names := h.names ▸ hnew
  refine ⟨h.indexed.record hrecord, ?_, ?_, ?_⟩
  · intro t' ht'
    change t' ∈ store.entries.map Prod.snd at ht'
    rw [hentries, List.map_append, List.mem_append] at ht'
    rcases ht' with hold | hlast
    · exact h.complete t' hold
    · rw [List.mem_singleton.mp hlast]
      exact hcomplete
  · change (s.bodies.insert t.name body).names = store.entries.map Prod.fst
    rw [names_insert, if_neg hnewBody, h.names, hentries, List.map_append]
    rfl
  · intro hedited
    exact Store.replay_record h.indexed hrecord (h.current hedited) hbody

theorem InStep.edits {s : Session} {function variableName : String} {type : Value} {store : Store}
    (h : s.InStep) (hedit : s.store.edit function variableName type = .ok (true, store)) :
    InStep { s with store, edited := true } := by
  obtain ⟨t, t', shaderType, hget, -, htedit, rfl⟩ := Store.edit_eq_ok hedit
  have hmem : function ∈ s.store.names :=
    contains_iff_mem_names.mp (Option.isSome_iff_exists.mpr ⟨t, hget⟩)
  have hname := (Transcript.outline_of_edit htedit).1
  refine ⟨h.indexed.insert hget hname, ?_, ?_, fun hedited => absurd hedited Bool.noConfusion⟩
  · intro t₁ ht₁
    obtain ⟨⟨key, t₂⟩, hentry, rfl⟩ := List.mem_map.mp ht₁
    rcases mem_entries_insert h.indexed.nodup hentry with ⟨-, rfl⟩ | ⟨-, hold⟩
    · exact (h.complete t (mem_values_of_get? hget)).edit htedit
    · exact h.complete t₂ (List.mem_map.mpr ⟨_, hold, rfl⟩)
  · change s.bodies.names = (s.store.insert function t').names
    rw [names_insert_of_mem t' hmem, h.names]

theorem sameTexts_logging (s : Session) (events : List Event) : SameTexts s (s.logging events) :=
  ⟨rfl, rfl, rfl, rfl⟩

theorem InStep.revises {s s' : Session} (h : s.InStep) (hrevises : Revises s s') : s'.InStep := by
  cases hrevises with
  | logs events => exact h.of_sameTexts (sameTexts_logging s events)
  | rewrites edited hbodies =>
    exact ⟨h.indexed, h.complete, Store.names_of_replay h.indexed hbodies, fun _ => hbodies⟩

/-! ## Texts that have caught up -/

/-- The cached texts are what a replay gives, if it gives any. The flag may still be up: a confirmation that
fails does not take it down. -/
def Caught (s : Session) : Prop :=
  ∀ bodies, s.store.replay s.config.dialect = .ok bodies → s.bodies = bodies

theorem Caught.of_sameTexts {s s' : Session} (h : s.Caught) (hsame : SameTexts s s') : s'.Caught := by
  intro bodies hbodies
  rw [hsame.store, hsame.config] at hbodies
  rw [hsame.bodies]
  exact h bodies hbodies

theorem InStep.caught {s : Session} (h : s.InStep) (hedited : s.edited = false) : s.Caught :=
  fun _ hbodies => Except.ok.inj ((h.current hedited).symm.trans hbodies)

theorem Caught.reads {s s' : Session} {body : String} (h : s.Caught) (hstep : s.InStep)
    (hreads : Reads s s' body) : s'.Caught := by
  obtain ⟨source, declared, arguments, kind, workgroup, t, store, hread, hrecord, rfl⟩ := hreads
  intro after hafter
  obtain ⟨bodies, hbodies⟩ := Store.exists_replay_of_record hrecord hafter
  have hall := Store.replay_record hstep.indexed hrecord hbodies (read_eq_ok hread).2
  rw [← h bodies hbodies] at hall
  exact Except.ok.inj (hall.symm.trans hafter)

theorem Caught.revises {s s' : Session} (h : s.Caught) (hrevises : Revises s s') : s'.Caught := by
  cases hrevises with
  | logs events => exact h.of_sameTexts (sameTexts_logging s events)
  | rewrites edited hbodies => exact fun _ hagain => Except.ok.inj (hbodies.symm.trans hagain)

/-- After a confirmation the texts have caught up, whether it has shown a shader or not. -/
theorem InStep.caught_confirm {s : Session} (h : s.InStep) : (outcome confirm s).2.Caught := by
  rcases confirm_cases s with
    ⟨hedited, hout⟩ | ⟨-, fault, hreplay, hout⟩ | ⟨-, bodies, hbodies, hout⟩
  · rw [hout]
    exact (h.caught hedited).of_sameTexts (sameTexts_logging s _)
  · rw [hout]
    intro bodies hbodies
    exact nomatch hreplay.symm.trans hbodies
  · rw [hout]
    exact fun _ hagain => Except.ok.inj (hbodies.symm.trans hagain)

/-! ## Runs of operations -/

/-- **One step.** It keeps the texts in step. -/
theorem InStep.step {s s' : Session} {operation : Operation} {answer : Except Fault Answer}
    (h : s.InStep) (hstep : TextStep s operation answer s') : s'.InStep := by
  cases hstep with
  | rests hsame _ _ => exact h.of_sameTexts hsame
  | reads hreads _ => exact h.reads hreads
  | edits hedit => exact h.edits hedit
  | confirms => exact h.revises (revises_confirm s)
  | regenerates => exact h.revises (revises_regenerate s)

theorem InStep.answer {s : Session} (h : s.InStep) (operation : Operation) :
    (s.answer operation).2.InStep := h.step (textStep_answer s operation)

/-- **A run of operations.** The texts stay in step. -/
theorem InStep.after {s : Session} (h : s.InStep) (operations : List Operation) :
    (s.after operations).InStep := by
  induction operations generalizing s with
  | nil => exact h
  | cons operation rest ih => exact ih (h.answer operation)

/-! ## Runs without a change -/

/-- Whether an edit has been answered as a change since the last confirmation, after one more operation and
its answer. -/
def changedAfter (changed : Bool) : Operation → Except Fault Answer → Bool
  | .submitEdit .., .ok (.changed true) => true
  | .confirm, _ => false
  | _, _ => changed

/-- Whether an edit has been answered as a change since the last confirmation. -/
def changedSinceConfirm : Session → Bool → List Operation → Bool
  | _, changed, [] => changed
  | s, changed, operation :: rest =>
    changedSinceConfirm (s.answer operation).2
      (changedAfter changed operation (s.answer operation).1) rest

theorem changedAfter_of_ne {changed : Bool} {operation : Operation} {answer : Except Fault Answer}
    (hoperation : operation ≠ .confirm) (hanswer : answer ≠ .ok (.changed true)) :
    changedAfter changed operation answer = changed := by
  unfold changedAfter
  split
  · exact absurd rfl hanswer
  · exact absurd rfl hoperation
  · rfl

/-- **One step.** While nothing has changed since the last confirmation, the texts have caught up. -/
theorem Caught.step {s s' : Session} {operation : Operation} {answer : Except Fault Answer}
    {changed : Bool} (h : changed = false → s.Caught) (hinStep : s.InStep)
    (hstep : TextStep s operation answer s')
    (hchanged : changedAfter changed operation answer = false) : s'.Caught := by
  cases hstep with
  | rests hsame hoperation hanswer =>
    rw [changedAfter_of_ne hoperation hanswer] at hchanged
    exact (h hchanged).of_sameTexts hsame
  | reads hreads hoperation =>
    rw [changedAfter_of_ne hoperation (Answer.noConfusion <| Except.ok.inj ·)] at hchanged
    exact (h hchanged).reads hinStep hreads
  | edits hedit => exact absurd hchanged Bool.noConfusion
  | confirms => exact hinStep.caught_confirm
  | regenerates => exact (h hchanged).revises (revises_regenerate s)

/-- **A run of operations.** -/
theorem InStep.caught_after {s : Session} (hstep : s.InStep) {changed : Bool}
    (h : changed = false → s.Caught) (operations : List Operation)
    (hchanged : changedSinceConfirm s changed operations = false) : (s.after operations).Caught := by
  induction operations generalizing s changed with
  | nil => exact h hchanged
  | cons operation rest ih =>
    exact ih (hstep.answer operation) (Caught.step h hstep (textStep_answer s operation)) hchanged

/-! ## Confirming and regenerating -/

theorem regenerate_eq (s : Session) :
    (outcome regenerate s).1 = s.store.replay s.config.dialect >>= s.sourceOf := by
  rcases regenerate_cases s with ⟨fault, hreplay, hout⟩ | ⟨bodies, hreplay, hout⟩
  · rw [hout, hreplay]
    rfl
  · rw [hout, hreplay]
    rfl

/-- Confirming ends as regenerating does: with the same shader, or the same fault. -/
theorem InStep.confirm_eq_regenerate {s : Session} (h : s.InStep) :
    (outcome confirm s).1 = (outcome regenerate s).1 := by
  rw [regenerate_eq]
  rcases confirm_cases s with
    ⟨hedited, hout⟩ | ⟨-, fault, hreplay, hout⟩ | ⟨-, bodies, hreplay, hout⟩
  · -- nothing is written again, but the cached texts are what a replay gives
    rw [hout, h.current hedited]
    rfl
  · rw [hout, hreplay]
    rfl
  · rw [hout, hreplay]
    rfl

theorem answer_regenerate (s : Session) : s.answer .regenerate
    = ((outcome regenerate s).1.map Answer.source, (outcome regenerate s).2) := Outcome.map_eq ..

theorem InStep.answer_confirm {s : Session} (h : s.InStep) :
    (s.answer .confirm).1 = (s.answer .regenerate).1 := by
  rw [answer_regenerate, answer_eq, perform, Outcome.map_eq, h.confirm_eq_regenerate]

/-- Regenerating shows the shader of the functions written again, if they and the header can be written. -/
theorem InStep.exists_regenerate {s : Session} (h : s.InStep) (htypes : s.TypesWritable)
    (hplaces : s.rig.Declarable) : ∃ source, (outcome regenerate s).1 = .ok source := by
  obtain ⟨bodies, hbodies⟩ := h.exists_replay htypes
  obtain ⟨source, hsource⟩ := h.exists_sourceOf hplaces (Store.names_of_replay h.indexed hbodies)
  refine ⟨source, ?_⟩
  rw [regenerate_eq, hbodies]
  exact hsource

/-- Where the texts have caught up, writing everything again leaves the shader as it is. -/
theorem Caught.shaderText_regenerate {s : Session} (h : s.Caught) :
    (outcome regenerate s).2.shaderText = s.shaderText := by
  rcases regenerate_cases s with ⟨fault, -, hout⟩ | ⟨bodies, hbodies, hout⟩
  · rw [hout]
    rfl
  · rw [hout, shaderText, source_rewritten, ← h bodies hbodies]
    rfl

/-- **Confirming agrees with regenerating.** After any operations on a fresh session, confirming and
regenerating end alike, with the same shader or the same fault, and with a shader if the types on record
and the places of the inputs can be written. If no edit has been answered as a change since the last
confirmation, regenerating leaves the text of the shader as it was, and the cached texts are those of a
replay. -/
theorem confirm_agrees_with_regenerate (config : Config) (device : Option Device)
    (operations : List Operation) :
    let start := fresh config device
    let s := start.after operations
    (s.answer .confirm).1 = (s.answer .regenerate).1 ∧
    (s.TypesWritable → s.rig.Declarable → ∃ source, (s.answer .confirm).1 = .ok (.source source) ∧
      (s.answer .regenerate).1 = .ok (.source source)) ∧
    (changedSinceConfirm start false operations = false →
      (s.answer .regenerate).2.shaderText = s.shaderText ∧
      (s.TypesWritable → s.store.replay s.config.dialect = .ok s.bodies)) := by
  intro start s
  have hfresh := inStep_fresh config device
  have hstep : s.InStep := hfresh.after operations
  refine ⟨hstep.answer_confirm, ?_, ?_⟩
  · intro htypes hplaces
    obtain ⟨source, hsource⟩ := hstep.exists_regenerate htypes hplaces
    have hanswer : (s.answer .regenerate).1 = .ok (.source source) := by
      rw [answer_regenerate, hsource]
      rfl
    exact ⟨source, hstep.answer_confirm.trans hanswer, hanswer⟩
  · intro hchanged
    have hcaught : s.Caught :=
      hfresh.caught_after (fun _ => hfresh.caught rfl) operations hchanged
    refine ⟨?_, fun htypes => ?_⟩
    · rw [answer_regenerate]
      exact hcaught.shaderText_regenerate
    · obtain ⟨bodies, hbodies⟩ := hstep.exists_replay htypes
      rw [hbodies, hcaught bodies hbodies]

/-- A helper is read, one of its types is changed, the change is confirmed, and the same type is given
once more. -/
def correctedRun : List Operation :=
  [.addFunction "function f(a) \x7b\n  let b = a;\n\x7d" (.text "f32") .none .none,
    .submitEdit "f" "b" (.text "i32"), .confirm, .submitEdit "f" "b" (.text "i32")]

theorem correctedRun_regenerates :
    let s := (fresh {} none).after correctedRun
    changedSinceConfirm (fresh {} none) false correctedRun = false ∧ s.TypesWritable ∧
      s.rig.Declarable ∧ (∃ source, (s.answer .confirm).1 = .ok (.source source)) ∧
      (s.answer .regenerate).2.shaderText = s.shaderText ∧
      s.store.replay s.config.dialect = .ok s.bodies := by
  have hquiet : changedSinceConfirm (fresh {} none) false correctedRun = false := by decide +kernel
  have htypes : ((fresh {} none).after correctedRun).TypesWritable :=
    typesWritable_of_values (by decide +kernel)
  have hplaces : ((fresh {} none).after correctedRun).rig.Declarable := by decide +kernel
  obtain ⟨-, hshows, hkeeps⟩ := confirm_agrees_with_regenerate {} none correctedRun
  replace hkeeps := hkeeps hquiet
  -- from here on the session is not looked into any more
  generalize (fresh {} none).after correctedRun = s at *
  obtain ⟨source, hsource, -⟩ := hshows htypes hplaces
  exact ⟨hquiet, htypes, hplaces, ⟨source, hsource⟩, hkeeps.1, hkeeps.2 htypes⟩

end KernelShader.Session
