/-
`ReadBack.lean` -- which outputs have been filled when they are read.

Reading back is refused until something has been dispatched. The guard is one flag for the whole session,
so what it lets through is not decided output by output: an output that is registered after the last
dispatch is read like the others, and no command has copied anything into its buffer. What holds is that an
output has been filled exactly if some dispatch went through while it was registered (`dispatchedFor`).

Every operation either leaves the buffers registered as they are, or registers one, or gives them back
(`Advances`); only in the first case can anything be run.
-/
import Mathlib.Data.List.Induction
import KernelShader.Proofs.Rig.Storage
import KernelShader.Proofs.Session.Assembly

set_option autoImplicit false

namespace KernelShader

namespace Session

/-! ## What an operation does with the rig -/

/-- What an operation can do with the rig: work with the buffers as they are, refuse a registration,
register an input or an output, or give back buffers. -/
inductive Advances (s : Session) : Operation → Except Fault Answer → Rig → Prop where
  | works {operation : Operation} {answer : Except Fault Answer} {r : Rig}
      (hserves : Rig.Serves s.rig r)
      (houtput : ∀ name link data, operation ≠ .registerOutput name link data) :
      Advances s operation answer r
  | refuses {operation : Operation} {fault : Fault} {r : Rig} (hconsults : Rig.Consults s.rig r)
      (hidle : Rig.Idle s.rig r) : Advances s operation (.error fault) r
  | registersInput {name : String} {data group : Value} {i : Input} {r : Rig}
      (h : outcome (Rig.registerInput name data group) s.rig = (.ok i, r)) :
      Advances s (.registerInput name data group) (.ok (.input i)) r
  | registersOutput {name link : String} {data : Value} {o : Output} {r : Rig}
      (h : outcome (Rig.registerOutput name link data) s.rig = (.ok o, r)) :
      Advances s (.registerOutput name link data) (.ok (.output o)) r
  | releases {answer : Except Fault Answer} : Advances s .close answer (outcome Rig.release s.rig).2

theorem still_log (r : Rig) (events : List Event) : Rig.Still r { r with log := r.log ++ events } :=
  Rig.still_modify
    (f := fun r => { r with log := r.log ++ events })
    (Rig.continues_modify (fun _ => rfl) (fun _ => rfl) (fun _ => rfl) (fun _ => rfl) fun _ => rfl)
    (fun _ => rfl) (fun _ => rfl) r

/-- The operation is about functions and types. -/
def Operation.isTextual : Operation → Bool
  | .addFunction .. | .addEntryPoint .. | .listVariables _ | .submitEdit .. | .confirm
  | .regenerate => true
  | _ => false

/-- Operations on functions and types leave the rig alone, apart from what they put on its log. -/
theorem rig_of_textual {s : Session} {operation : Operation}
    (htextual : operation.isTextual = true) :
    ∃ events, (s.answer operation).2.rig = (s.logging events).rig := by
  have hsame : s.rig = (s.logging []).rig := by rw [logging_nil]
  have hadd : ∀ m : SessionM String,
      ((∃ fault, outcome m s = (.error fault, s)) ∨
        (∃ body s', outcome m s = (.ok body, s') ∧ Reads s s' body)) →
      ∃ events, (outcome (Answer.body <$> m) s).2.rig = (s.logging events).rig := by
    intro m hcases
    rw [Outcome.map_eq]
    rcases hcases with ⟨fault, hm⟩ | ⟨body, s', hm, hreads⟩
    · rw [hm]
      exact ⟨[], hsame⟩
    · obtain ⟨-, -, -, -, -, t, store, -, -, rfl⟩ := hreads
      rw [hm]
      exact ⟨_, rfl⟩
  have hrevises : ∀ {s' : Session}, Revises s s' → ∃ events, s'.rig = (s.logging events).rig := by
    intro s' h
    cases h with
    | logs events => exact ⟨events, rfl⟩
    | rewrites edited hbodies => exact ⟨_, rfl⟩
  rw [answer_eq]
  cases operation with
  | addFunction source returns declared arguments =>
    exact hadd _ (addFunction_cases source returns declared arguments s)
  | addEntryPoint source size declared => exact hadd _ (addEntryPoint_cases source size declared s)
  | listVariables function =>
    have hkept : Keeps (Along Eq) (perform (.listVariables function)) :=
      Keeps.get.bind fun s' => (Keeps.liftExcept _).bind fun _ => Keeps.pure _
    exact ⟨[], (hkept s).rig.symm.trans hsame⟩
  | submitEdit function variableName type =>
    rw [perform, Outcome.map_eq]
    rcases submitEdit_cases function variableName type s with ⟨fault, hm⟩ | ⟨changed, store, -, hm⟩
    · rw [hm]
      exact ⟨[], hsame⟩
    · rw [hm]
      exact ⟨[], hsame⟩
  | confirm =>
    rw [perform, Outcome.map_eq]
    exact hrevises (revises_confirm s)
  | regenerate =>
    rw [perform, Outcome.map_eq]
    exact hrevises (revises_regenerate s)
  | _ => simp [Operation.isTextual] at htextual

/-- **One operation.** -/
theorem advances_answer (s : Session) (operation : Operation) :
    Advances s operation (s.answer operation).1 (s.answer operation).2.rig := by
  have htext : operation.isTextual = true → Rig.Serves s.rig (s.answer operation).2.rig := by
    intro htextual
    obtain ⟨events, hrig⟩ := rig_of_textual htextual
    rw [hrig]
    exact (still_log s.rig events).serves
  rw [answer_eq]
  cases operation with
  | registerInput name data group =>
    rw [perform, Outcome.map_eq]
    rcases hx : outcome (Rig.registerInput name data group) s.rig with ⟨x, r⟩
    cases x with
    | error fault =>
      have hout : outcome (registerInput name data group) s = (.error fault, { s with rig := r }) :=
        outcome_forgetting_of_error hx
      rw [hout]
      exact .refuses (Rig.consults_of_registerInput_error hx)
        ((Rig.idle_registerInput name data group).of_outcome_eq hx)
    | ok i =>
      have hout : outcome (registerInput name data group) s
          = (.ok i, { s with rig := r, artifact := none, bindGroups := none }) :=
        outcome_forgetting_of_ok hx
      rw [hout]
      exact .registersInput hx
  | registerOutput name link data =>
    rw [perform, Outcome.map_eq]
    rcases hx : outcome (Rig.registerOutput name link data) s.rig with ⟨x, r⟩
    cases x with
    | error fault =>
      have hout : outcome (registerOutput name link data) s = (.error fault, { s with rig := r }) :=
        outcome_forgetting_of_error hx
      rw [hout]
      exact .refuses (Rig.consults_of_registerOutput_error hx)
        ((Rig.idle_registerOutput name link data).of_outcome_eq hx)
    | ok o =>
      have hout : outcome (registerOutput name link data) s
          = (.ok o, { s with rig := r, artifact := none, bindGroups := none }) :=
        outcome_forgetting_of_ok hx
      rw [hout]
      exact .registersOutput hx
  | addFunction source returns declared arguments => exact .works (htext rfl) (by simp)
  | addEntryPoint source size declared => exact .works (htext rfl) (by simp)
  | listVariables function => exact .works (htext rfl) (by simp)
  | submitEdit function variableName type => exact .works (htext rfl) (by simp)
  | confirm => exact .works (htext rfl) (by simp)
  | regenerate => exact .works (htext rfl) (by simp)
  | build =>
    exact .works ((along_build Rig.serves_atWork.toKeptByBuilding).map _ s).rig (by simp)
  | execute counts =>
    exact .works ((along_execute Rig.serves_atWork counts).bind
      (fun _ => Keeps.pure Answer.done) s).rig (by simp)
  | run counts => exact .works ((along_run Rig.serves_atWork counts).map _ s).rig (by simp)
  | readBack waiting =>
    exact .works ((along_readBack Rig.serves_atWork waiting).map _ s).rig (by simp)
  | close =>
    rw [perform_close, Outcome.map_eq, outcome_close]
    exact .releases

/-! ## Dispatches that an output has seen -/

/-- While the session goes through the operations, there is one that has the device run commands at a time
when the output is registered. -/
def dispatchedFor (name : String) : Session → List Operation → Bool
  | _, [] => false
  | s, operation :: rest =>
    let s' := (s.answer operation).2
    (s.rig.outputs.contains name && !(s.rig.submittedSince s'.rig).isEmpty) ||
      dispatchedFor name s' rest

theorem after_concat (s : Session) (operations : List Operation) (operation : Operation) :
    s.after (operations ++ [operation]) = ((s.after operations).answer operation).2 := by
  simp [after]

theorem dispatchedFor_concat (name : String) (s : Session) (operations : List Operation)
    (operation : Operation) :
    dispatchedFor name s (operations ++ [operation]) = (dispatchedFor name s operations ||
      ((s.after operations).rig.outputs.contains name &&
        !((s.after operations).rig.submittedSince (s.after (operations ++ [operation])).rig).isEmpty)) := by
  induction operations generalizing s with
  | nil => simp [dispatchedFor, after]
  | cons first rest ih =>
    rw [List.cons_append, dispatchedFor, ih, dispatchedFor, Bool.or_assoc]
    rfl

/-- What is known of the outputs after a run: buffers that have been copied into are among those there
are, an output that a dispatch has seen is registered, and these are the ones that have been filled. -/
structure Accounted (start : Session) (operations : List Operation) : Prop where
  progresses : start.rig.Progresses (start.after operations).rig
  inside : ∀ buffer ∈ start.rig.filledSince (start.after operations).rig,
    ∀ {d}, (start.after operations).rig.device = some d → buffer.index < d.memory.length
  seen : ∀ name, dispatchedFor name start operations = true →
    (start.after operations).rig.outputs.contains name = true
  filled : ∀ o ∈ (start.after operations).rig.outputs.values, ∀ buffer, o.buffer = some buffer →
    (buffer ∈ start.rig.filledSince (start.after operations).rig ↔
      dispatchedFor o.name start operations = true)

theorem accounted_nil (config : Config) (device : Option Device) :
    Accounted (fresh config device) [] := by
  have hidle := refl_of Rig.Idle (fresh config device).rig
  refine ⟨hidle.progresses, ?_, ?_, ?_⟩
  · intro buffer hbuffer
    rw [show (fresh config device).after [] = fresh config device from rfl, hidle.filledSince_eq]
      at hbuffer
    exact absurd hbuffer List.not_mem_nil
  · intro name hname
    simp [dispatchedFor] at hname
  · intro o ho
    exact absurd ho List.not_mem_nil

/-- An operation that runs nothing. Outputs that it registers have buffers that were not there before. -/
theorem Accounted.idle {start : Session} {operations : List Operation} {operation : Operation}
    (h : Accounted start operations)
    (hidle : (start.after operations).rig.Idle (start.after (operations ++ [operation])).rig)
    (hnames : ∀ name, (start.after operations).rig.outputs.contains name = true →
      (start.after (operations ++ [operation])).rig.outputs.contains name = true)
    (houtputs : ∀ o ∈ (start.after (operations ++ [operation])).rig.outputs.values,
      ∀ buffer, o.buffer = some buffer → o ∈ (start.after operations).rig.outputs.values ∨
        ¬ (start.after operations).rig.outputs.contains o.name = true ∧
          ∃ d, (start.after operations).rig.device = some d ∧ d.memory.length ≤ buffer.index) :
    Accounted start (operations ++ [operation]) := by
  have hprogresses := trans_of Rig.Progresses h.progresses hidle.progresses
  have hfilled : start.rig.filledSince (start.after (operations ++ [operation])).rig
      = start.rig.filledSince (start.after operations).rig := by
    rw [h.progresses.filledSince_trans hidle.progresses, hidle.filledSince_eq, List.append_nil]
  have hdispatched : ∀ name, dispatchedFor name start (operations ++ [operation])
      = dispatchedFor name start operations := by
    intro name
    rw [dispatchedFor_concat, hidle.submittedSince_eq]
    simp
  refine ⟨hprogresses, ?_, ?_, ?_⟩
  · intro buffer hbuffer d' hd'
    rw [hfilled] at hbuffer
    cases hd : (start.after operations).rig.device with
    | none => simp [hidle.gone hd] at hd'
    | some d =>
      obtain ⟨d₁, hd₁, hgrown⟩ := hidle.device hd
      rw [hd₁, Option.some.injEq] at hd'
      have hinside := h.inside buffer hbuffer hd
      have hlength := hgrown.memory.length_le
      rw [← hd']
      omega
  · intro name hname
    rw [hdispatched] at hname
    exact hnames name (h.seen name hname)
  · intro o ho buffer hbuffer
    rw [hfilled, hdispatched]
    rcases houtputs o ho buffer hbuffer with hold | ⟨hunknown, d, hd, hnew⟩
    · exact h.filled o hold buffer hbuffer
    · -- the buffer is too new to have been copied into, and so is the name to have been seen
      constructor
      · intro hmem
        have hinside := h.inside buffer hmem hd
        omega
      · intro hname
        exact absurd (h.seen o.name hname) hunknown

/-- An operation that works with the buffers as they are. Whatever it runs fills every output. -/
theorem Accounted.serves {start : Session} {operations : List Operation} {operation : Operation}
    (h : Accounted start operations) (hregistered : (start.after operations).rig.Registered)
    (hserves : (start.after operations).rig.Serves (start.after (operations ++ [operation])).rig) :
    Accounted start (operations ++ [operation]) := by
  have hfilled : start.rig.filledSince (start.after (operations ++ [operation])).rig
      = start.rig.filledSince (start.after operations).rig ++
        ((start.after operations).rig.submittedSince
          (start.after (operations ++ [operation])).rig).flatMap
            fun _ => (start.after operations).rig.outputs.values.filterMap Output.buffer := by
    rw [h.progresses.filledSince_trans hserves.progresses, hserves.filled]
  refine ⟨trans_of Rig.Progresses h.progresses hserves.progresses, ?_, ?_, ?_⟩
  · intro buffer hbuffer d' hd'
    cases hd : (start.after operations).rig.device with
    | none => simp [hserves.gone hd] at hd'
    | some d =>
      obtain ⟨d₁, hd₁, hextends⟩ := hserves.device hd
      rw [hd₁, Option.some.injEq] at hd'
      have hgrown : d.memory.length ≤ d'.memory.length := hd' ▸ hextends.tally_le .buffer
      rw [hfilled, List.mem_append] at hbuffer
      rcases hbuffer with hbefore | hsince
      · have hinside := h.inside buffer hbefore hd
        omega
      · obtain ⟨list, -, htarget⟩ := List.mem_flatMap.mp hsince
        obtain ⟨o, ho, hbuffer⟩ := List.mem_filterMap.mp htarget
        obtain ⟨d₂, hd₂, hmaker⟩ := hregistered.staged o ho buffer hbuffer
        rw [hd, Option.some.injEq] at hd₂
        have hinside : buffer.index < d.memory.length := hd₂ ▸ Device.lt_of_maker hmaker
        omega
  · intro name hname
    rw [hserves.outputs]
    rw [dispatchedFor_concat, Bool.or_eq_true, Bool.and_eq_true] at hname
    rcases hname with hbefore | hnow
    · exact h.seen name hbefore
    · exact hnow.1
  · intro o ho buffer hbuffer
    rw [hserves.outputs] at ho
    have hknown : (start.after operations).rig.outputs.contains o.name = true := by
      rw [NameTable.contains, hregistered.outputs.get?_of_mem ho]
      rfl
    have htarget : buffer ∈ (start.after operations).rig.outputs.values.filterMap Output.buffer :=
      List.mem_filterMap.mpr ⟨o, ho, hbuffer⟩
    rw [hfilled, dispatchedFor_concat, hknown, List.mem_append, h.filled o ho buffer hbuffer,
      Bool.or_eq_true, Bool.true_and]
    cases (start.after operations).rig.submittedSince (start.after (operations ++ [operation])).rig with
    | nil => simp
    | cons list rest => simp [htarget]

theorem Reachable.rig {s : Session} (h : Reachable s) : Rig.Reachable s.rig := by
  obtain ⟨config, device, operations, rfl⟩ := h
  exact (grown_after (s := fresh config device) (Rig.Reachable.fresh device config.label [])
    operations).rig

/-- **Induction over a run.** What holds at the start and is kept by every operation, whatever that does
with the rig, holds after all of them. -/
theorem after_induction (config : Config) (device : Option Device) {P : List Operation → Prop}
    (hnil : P [])
    (hconcat : ∀ operations operation answer r, P operations →
      ((fresh config device).after operations).rig.Registered →
      (((fresh config device).after operations).answer operation).1 = answer →
      ((fresh config device).after (operations ++ [operation])).rig = r →
      Advances ((fresh config device).after operations) operation answer r →
      P (operations ++ [operation]))
    (operations : List Operation) : P operations := by
  induction operations using List.reverseRecOn with
  | nil => exact hnil
  | append_singleton operations operation ih =>
    have hreachable : Reachable ((fresh config device).after operations) :=
      ⟨config, device, operations, rfl⟩
    have hadvances := advances_answer ((fresh config device).after operations) operation
    rw [← after_concat] at hadvances
    exact hconcat operations operation _ _ ih hreachable.rig.registered rfl rfl hadvances

/-- **A run of operations.** -/
theorem accounted_after (config : Config) (device : Option Device) (operations : List Operation) :
    Accounted (fresh config device) operations := by
  refine after_induction config device (accounted_nil config device) ?_ operations
  intro operations operation answer r ih hregistered _ hr hadvances
  cases hadvances with
  | works hserves _ =>
    rw [← hr] at hserves
    exact ih.serves hregistered hserves
  | refuses hconsults hidle =>
    refine ih.idle (hr ▸ hidle) ?_ ?_
    · intro name hname
      rwa [hr, hconsults.outputs]
    · intro o ho buffer _
      rw [hr, hconsults.outputs] at ho
      exact Or.inl ho
  | registersInput h =>
    obtain ⟨-, -, -, -, -, -, -, -, -, -, houtputs, -⟩ := Rig.registerInput_stores h
    have hidle := (Rig.idle_registerInput _ _ _).of_outcome_eq h
    refine ih.idle (hr ▸ hidle) ?_ ?_
    · intro name hname
      rwa [hr, houtputs]
    · intro o ho buffer _
      rw [hr, houtputs] at ho
      exact Or.inl ho
  | registersOutput h =>
    obtain ⟨source, size, d, d', hcheck, hd, -, ho, -, houtputs, -⟩ := Rig.registerOutput_stores h
    have hnew := (Rig.checkName_eq_ok_iff.mp (Rig.checkOutput_eq_ok hcheck).2.1).2
    have hidle := (Rig.idle_registerOutput _ _ _).of_outcome_eq h
    refine ih.idle (hr ▸ hidle) ?_ ?_
    · intro other hother
      rw [hr, houtputs, NameTable.contains_insert, hother]
      simp
    · intro p hp buffer hbuffer
      rw [hr, houtputs, NameTable.values_insert_of_not_mem _ hnew, List.mem_append,
        List.mem_singleton] at hp
      rcases hp with hold | hadded
      · exact Or.inl hold
      · rw [hadded, ho, Option.some.injEq] at hbuffer
        refine Or.inr ⟨?_, d, hd, by simp [← hbuffer]⟩
        rw [hadded, ho, NameTable.contains_iff_mem_names]
        exact hnew
  | releases =>
    have hidle := Rig.idle_release ((fresh config device).after operations).rig
    have hpersists := hregistered.persists_release
    rw [← hr] at hidle hpersists
    refine ih.idle hidle ?_ ?_
    · intro name hname
      rw [NameTable.contains_iff_mem_names] at hname ⊢
      rwa [← NameTable.names_mapValues Output.released, hpersists.outputs, NameTable.names_mapValues]
    · intro o ho buffer hbuffer
      -- an output keeps its buffer or has none any more
      have hget := (hregistered.persists hpersists).outputs.get?_of_mem ho
      rcases hpersists.staging hget with hnone | hold
      · simp [hnone] at hbuffer
      · exact Or.inl (NameTable.mem_values_of_get? hold)

/-! ## Entries that are read -/

/-- What a run that succeeds consists of: a build that leaves an artifact with bind groups, a dispatch of
these, and reading back. -/
theorem run_eq_ok {s s' : Session} (hstep : s.InStep) (hcurrent : s.Current) {counts : Value}
    {readings : NameTable Rig.Reading} (h : outcome (run counts) s = (.ok readings, s')) :
    ∃ (a : Artifact) (groups : List (Ref .group)) (ns : List Nat) (s₁ s₂ : Session),
      outcome build s = (.ok a, s₁) ∧ s₁.bindGroups = some groups ∧
      Workgroup.counts counts = .ok ns ∧ Rig.Dispatched groups ns s₁.rig s₂.rig ∧
      outcome (Rig.readBack .sync) s₂.rig = (.ok readings, s'.rig) := by
  unfold run at h
  obtain ⟨a, s₁, hbuild, h⟩ := Outcome.bind_eq_ok_iff.mp h
  obtain ⟨_, s₂, hexecute, hread⟩ := Outcome.bind_eq_ok_iff.mp h
  rcases hcurrent.builds hstep with ⟨fault, _, hfail, -⟩ | ⟨a', groups, s₀, hok, -, -, ha, hg⟩
  · simp [hbuild] at hfail
  · obtain ⟨haa, rfl⟩ := Prod.mk.inj (hbuild.symm.trans hok)
    rw [outcome_execute_of_built ha hg, outcome_dispatchBuilt ha hg, outcome_onRig] at hexecute
    obtain ⟨hexecuted, rfl⟩ := Prod.mk.inj hexecute
    rw [readBack, outcome_onRig] at hread
    obtain ⟨hreadings, rfl⟩ := Prod.mk.inj hread
    rcases Rig.execute_cases a' groups counts s₁.rig with
      ⟨fault, r, hfail, -⟩ | ⟨ns, r, hran, hcounts, hdispatched⟩
    · simp [hfail] at hexecuted
    · rw [hran] at hreadings ⊢
      exact ⟨a, groups, ns, s₁, _, hbuild, hg, hcounts, hdispatched, Prod.ext hreadings rfl⟩

/-- **Which outputs have been filled when they are read.** Whenever outputs are read, there is an entry for
each of them and something has been dispatched. The buffer of an output has been copied into exactly if a
dispatch went through while the output was registered. In a run, which dispatches first, every output that
is read has been copied into by that dispatch. -/
theorem output_filled_iff_dispatchedFor (config : Config) (device : Option Device)
    (operations : List Operation) :
    let start := fresh config device
    let s := start.after operations
    (∀ waiting readings s', s.answer (.readBack waiting) = (.ok (.readings readings), s') →
      readings.names = s.rig.outputs.names ∧ start.rig.submittedSince s.rig ≠ [] ∧
      ∀ o ∈ s.rig.outputs.values, ∃ buffer, o.buffer = some buffer ∧
        (buffer ∈ start.rig.filledSince s.rig ↔ dispatchedFor o.name start operations = true)) ∧
    (∀ counts readings s', s.answer (.run counts) = (.ok (.readings readings), s') →
      readings.names = s.rig.outputs.names ∧
      ∀ o ∈ s.rig.outputs.values, ∃ buffer, o.buffer = some buffer ∧
        buffer ∈ s.rig.filledSince s'.rig) := by
  intro start s
  have hreachable : Reachable s := ⟨config, device, operations, rfl⟩
  have hregistered := hreachable.rig.registered
  have haccounted : Accounted start operations := accounted_after config device operations
  refine ⟨?_, ?_⟩
  · intro waiting readings s' hanswer
    obtain ⟨_, hread, hsame⟩ := Outcome.map_eq_ok_iff.mp hanswer
    rw [Answer.readings.injEq] at hsame
    rw [hsame, readBack, outcome_onRig, Prod.mk.injEq] at hread
    obtain ⟨hsubmitted, hnames, hreports⟩ := hregistered.readBack_eq_ok (Prod.ext hread.1 rfl)
    refine ⟨hnames, ?_, ?_⟩
    · intro hnone
      have hflag := haccounted.progresses.submitted
      rw [hsubmitted, hnone] at hflag
      simp [start, fresh] at hflag
    · intro o ho
      obtain ⟨_, -, buffer, _, hbuffer, -⟩ := Check.exists_of_mem_forall₂ hreports ho
      exact ⟨buffer, hbuffer, haccounted.filled o ho buffer hbuffer⟩
  · intro counts readings s' hanswer
    obtain ⟨_, hrun, hsame⟩ := Outcome.map_eq_ok_iff.mp hanswer
    rw [Answer.readings.injEq] at hsame
    rw [hsame] at hrun
    obtain ⟨a, groups, ns, s₁, s₂, hbuild, -, -, hdispatched, hread⟩ :=
      run_eq_ok hreachable.inStep hreachable.current hrun
    have hbuilt : Rig.Still s.rig s₁.rig :=
      ((along_build Rig.still_building).of_outcome_eq hbuild).rig
    have hkept : Rig.Still s₂.rig s'.rig := (Rig.still_readBack .sync).of_outcome_eq hread
    have houtputs : s₂.rig.outputs = s.rig.outputs := hdispatched.outputs.trans hbuilt.outputs
    have hregistered₂ := (hregistered.persists hbuilt.persists).persists hdispatched.persists
    obtain ⟨-, hnames, hreports⟩ := hregistered₂.readBack_eq_ok hread
    rw [houtputs] at hnames hreports
    refine ⟨hnames, ?_⟩
    intro o ho
    obtain ⟨_, -, buffer, _, hbuffer, -⟩ := Check.exists_of_mem_forall₂ hreports ho
    refine ⟨buffer, hbuffer, ?_⟩
    -- of the three parts of a run, only the dispatch copies anything
    obtain ⟨-, hprogress, hfilled⟩ := hdispatched.submits
    have hafter := trans_of Rig.Progresses hprogress hkept.idle.progresses
    rw [hbuilt.idle.progresses.filledSince_trans hafter, hbuilt.idle.filledSince_eq,
      hprogress.filledSince_trans hkept.idle.progresses, hkept.idle.filledSince_eq, hfilled,
      hbuilt.outputs, List.nil_append, List.append_nil]
    exact List.mem_filterMap.mpr ⟨o, ho, hbuffer⟩

/-- An output is registered after the shader has been dispatched. -/
def lateOutputRun : List Operation :=
  let data := Value.words [7]
  [.registerInput "a" data (.int 0), .registerOutput "b" "a" data,
    .addEntryPoint "function main() \x7b\n\x7d" (.int 1) .none, .execute (.int 1),
    .registerOutput "c" "a" data]

theorem lateOutputRun_read :
    ∃ s', ((fresh {} (some {})).after lateOutputRun).answer (.readBack .sync)
      = (.ok (.readings ⟨[("b", ⟨.u32, [7, 0, 0, 0]⟩), ("c", ⟨.u32, [0, 0, 0, 0]⟩)]⟩), s') := by
  exact ⟨_, Outcome.eq_ok_of_toOption (by decide +kernel)⟩

/-- An entry is read for each of the two outputs. Of their buffers the one has been copied into, and the
other has not. -/
theorem lateOutputRun_filled_iff :
    dispatchedFor "b" (fresh {} (some {})) lateOutputRun = true ∧
    dispatchedFor "c" (fresh {} (some {})) lateOutputRun = false ∧
    ∀ o ∈ ((fresh {} (some {})).after lateOutputRun).rig.outputs.values, ∃ buffer,
      o.buffer = some buffer ∧
      (buffer ∈ (fresh {} (some {})).rig.filledSince ((fresh {} (some {})).after lateOutputRun).rig ↔
        dispatchedFor o.name (fresh {} (some {})) lateOutputRun = true) := by
  obtain ⟨s', hread⟩ := lateOutputRun_read
  obtain ⟨hreadBack, -⟩ := output_filled_iff_dispatchedFor {} (some {}) lateOutputRun
  obtain ⟨-, -, hfilled⟩ := hreadBack .sync _ s' hread
  refine ⟨by decide +kernel, by decide +kernel, hfilled⟩

/-- **An output that no dispatch has filled is read.** -/
theorem lateOutputRun_reads_unfilled :
    ∃ readings s' o buffer,
      ((fresh {} (some {})).after lateOutputRun).answer (.readBack .sync)
        = (.ok (.readings readings), s') ∧
      o ∈ ((fresh {} (some {})).after lateOutputRun).rig.outputs.values ∧
      o.name ∈ readings.names ∧ o.buffer = some buffer ∧
      buffer ∉ (fresh {} (some {})).rig.filledSince ((fresh {} (some {})).after lateOutputRun).rig := by
  obtain ⟨s', hread⟩ := lateOutputRun_read
  exact ⟨_, s', ⟨"c", .u32, 4, "a", some ⟨2⟩⟩, ⟨2⟩, hread, by decide +kernel, by decide +kernel, rfl,
    by decide +kernel⟩

end Session

end KernelShader
