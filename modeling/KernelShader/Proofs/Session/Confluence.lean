/-
`Confluence.lean` -- the order of corrections does not matter.

A correction loop is a run of edits, confirmations and regenerations. Only the accepted edits of such a
run leave anything behind in the store, and of those of one name only the last (`lastEdit`). Confirming
in between moves texts and flags about, but neither the store nor the header, and the last confirmation
shows a replay of the store, whatever the flag has been through (`InStep.answer_confirm`). So two
runs that give the same types in the end show the same shader, or fail alike at a number too long to be
written.

Whether an edit is accepted depends on the name and the value, not on the edits before it. This is why the
accepted edits can be read off the requests alone (`lastEdit_eq`), and why edits may be exchanged.
-/
import KernelShader.Proofs.Session.Assembly
import KernelShader.Proofs.Store.Correction

set_option autoImplicit false

namespace KernelShader.Session

open NameTable

/-! ## Correction runs -/

namespace Operation

/-- The operation edits a type. -/
def isEdit : Operation → Bool
  | .submitEdit .. => true
  | _ => false

/-- The operation is part of the correction loop. -/
def isCorrection : Operation → Bool
  | .submitEdit .. | .confirm | .regenerate => true
  | _ => false

/-- The type that an operation asks for a name of a function. -/
def asks (function name : String) : Operation → Option ShaderType
  | .submitEdit f n type =>
    if function = f ∧ name = n then (ShaderType.ofValue type).toOption else none
  | _ => none

end Operation

/-- The type that an operation has given to a name of a function, by its answer. -/
def gives (operation : Operation) (answer : Except Fault Answer) (function name : String) :
    Option ShaderType :=
  match answer with
  | .ok _ => operation.asks function name
  | .error _ => none

/-- The type that the last accepted edit of a name has given to it, if there was one in the run. -/
def lastEdit : Session → List Operation → String → String → Option ShaderType
  | _, [], _, _ => none
  | s, operation :: rest, function, name =>
    (lastEdit (s.answer operation).2 rest function name).or
      (gives operation (s.answer operation).1 function name)

theorem gives_submitEdit {function name : String} {value : Value} {type : ShaderType}
    (htype : ShaderType.ofValue value = .ok type) (answer : Answer) :
    gives (.submitEdit function name value) (.ok answer)
      = fun f n => if f = function ∧ n = name then some type else none := by
  funext f n
  simp only [gives, Operation.asks, htype, Except.toOption]

theorem gives_of_asks_none {operation : Operation} {function name : String}
    (h : operation.asks function name = none) (answer : Except Fault Answer) :
    gives operation answer function name = none := by
  cases answer with
  | ok answer => exact h
  | error fault => rfl

/-- The second session is the first one after corrections that gave these types. -/
structure Corrected (given : String → String → Option ShaderType) (s s' : Session) : Prop where
  config : s'.config = s.config
  rig : Rig.Continues s.rig s'.rig
  store : s.store.Corrected given s'.store

theorem Corrected.trans {given given' : String → String → Option ShaderType} {s s' s'' : Session}
    (h : s.Corrected given s') (h' : s'.Corrected given' s'') :
    s.Corrected (fun function name => (given' function name).or (given function name)) s'' :=
  ⟨h'.config.trans h.config, trans_of Rig.Continues h.rig h'.rig, h.store.trans h'.store⟩

variable {s : Session}

/-- Writing the functions again gives no types. -/
theorem Revises.corrected {s' : Session} (h : Revises s s') {operation : Operation}
    (hasks : ∀ f n, operation.asks f n = none) (answer : Except Fault Answer) :
    s.Corrected (gives operation answer) s' := by
  have hgives : gives operation answer = fun _ _ => none :=
    funext fun f => funext fun n => gives_of_asks_none (hasks f n) answer
  rw [hgives]
  cases h with
  | logs events => exact ⟨rfl, continues_log s.rig _, s.store.corrected_refl⟩
  | rewrites edited hbodies => exact ⟨rfl, continues_log s.rig _, s.store.corrected_refl⟩

/-- **One correction.** What it does to the store is the type that its answer says it has given. -/
theorem corrected_answer {operation : Operation}
    (h : operation.isCorrection = true) :
    s.Corrected (gives operation (s.answer operation).1) (s.answer operation).2 := by
  have hsame : s.Corrected (fun _ _ => none) s :=
    ⟨rfl, refl_of Rig.Continues s.rig, s.store.corrected_refl⟩
  cases operation with
  | submitEdit function name type =>
    rw [answer_eq, perform, Outcome.map_eq]
    rcases submitEdit_cases function name type s with ⟨fault, hout⟩ | ⟨changed, store, hedit, hout⟩
    · rw [hout]
      exact hsame
    · rw [hout]
      obtain ⟨t, t', type', -, htype, -, -⟩ := Store.edit_eq_ok hedit
      refine ⟨rfl, refl_of Rig.Continues s.rig, ?_⟩
      rw [Except.map, gives_submitEdit htype]
      exact Store.corrected_edit htype hedit
  | confirm =>
    rw [answer_eq, perform, Outcome.map_eq]
    exact (revises_confirm s).corrected (fun _ _ => rfl) _
  | regenerate =>
    rw [answer_regenerate]
    exact (revises_regenerate s).corrected (fun _ _ => rfl) _
  | _ => simp [Operation.isCorrection] at h

/-- **A run of corrections.** -/
theorem corrected_after {operations : List Operation}
    (h : ∀ operation ∈ operations, operation.isCorrection = true) :
    s.Corrected (lastEdit s operations) (s.after operations) := by
  induction operations generalizing s with
  | nil => exact ⟨rfl, refl_of Rig.Continues s.rig, s.store.corrected_refl⟩
  | cons operation rest ih =>
    have hfirst := corrected_answer (s := s) (h operation List.mem_cons_self)
    have hrest := ih (s := (s.answer operation).2) fun o ho => h o (List.mem_cons_of_mem _ ho)
    exact hfirst.trans hrest

/-! ## Which edits are accepted -/

/-- The type that the last edit of a name asked for, accepted or not. -/
def lastAsked (function name : String) : List Operation → Option ShaderType
  | [] => none
  | operation :: rest => (lastAsked function name rest).or (operation.asks function name)

theorem lastAsked_append (function name : String) (operations more : List Operation) :
    lastAsked function name (operations ++ more)
      = (lastAsked function name more).or (lastAsked function name operations) := by
  induction operations with
  | nil => simp [lastAsked]
  | cons operation rest ih => simp [lastAsked, ih, Option.or_assoc]

/-- An edit gives its type to the name that it is about, if that can be given one. -/
theorem gives_answer_submitEdit (s : Session) (function name : String) (value : Value) :
    gives (.submitEdit function name value) (s.answer (.submitEdit function name value)).1 function name
      = if s.store.editable function name = true then (ShaderType.ofValue value).toOption else none := by
  have haccepted := s.store.exists_edit_iff function name value
  rw [answer_eq, perform, Outcome.map_eq, submitEdit, Outcome.get_bind, Outcome.liftExcept_bind]
  cases hedit : s.store.edit function name value with
  | ok pair =>
    have heditable := (haccepted.mp ⟨pair.1, pair.2, hedit⟩).1
    rw [if_pos heditable]
    change (Operation.submitEdit function name value).asks function name = _
    exact if_pos ⟨rfl, rfl⟩
  | error fault =>
    change none = _
    by_cases heditable : s.store.editable function name = true
    · -- a name that can be given a type is refused only a value that names none
      cases htype : ShaderType.ofValue value with
      | ok type =>
        obtain ⟨changed, after, hok⟩ := haccepted.mpr ⟨heditable, type, htype⟩
        simp [hedit] at hok
      | error fault' => simp [Except.toOption]
    · rw [if_neg heditable]

/-- A correction gives the type that it asks for, if the name can be given one. -/
theorem gives_answer {operation : Operation} (h : operation.isCorrection = true)
    (function name : String) :
    gives operation (s.answer operation).1 function name
      = if s.store.editable function name = true then operation.asks function name else none := by
  have hnone : operation.asks function name = none → gives operation (s.answer operation).1 function name
      = if s.store.editable function name = true then operation.asks function name else none := by
    intro hasks
    rw [gives_of_asks_none hasks, hasks, ite_self]
  cases operation with
  | submitEdit f n value =>
    by_cases hpair : function = f ∧ name = n
    · obtain ⟨rfl, rfl⟩ := hpair
      have hasks : (Operation.submitEdit function name value).asks function name
          = (ShaderType.ofValue value).toOption := if_pos ⟨rfl, rfl⟩
      rw [gives_answer_submitEdit, hasks]
    · exact hnone (if_neg hpair)
  | confirm => exact hnone rfl
  | regenerate => exact hnone rfl
  | _ => simp [Operation.isCorrection] at h

/-- **The accepted edits of a run, read off the requests.** -/
theorem lastEdit_eq {operations : List Operation}
    (h : ∀ operation ∈ operations, operation.isCorrection = true) (function name : String) :
    lastEdit s operations function name
      = if s.store.editable function name = true then lastAsked function name operations else none := by
  induction operations generalizing s with
  | nil => simp [lastEdit, lastAsked]
  | cons operation rest ih =>
    have hfirst := corrected_answer (s := s) (h operation List.mem_cons_self)
    have hrest := ih (s := (s.answer operation).2) fun o ho => h o (List.mem_cons_of_mem _ ho)
    rw [lastEdit, hrest, gives_answer (h operation List.mem_cons_self),
      hfirst.store.editable, lastAsked]
    by_cases heditable : s.store.editable function name = true
    · simp only [if_pos heditable]
    · simp only [if_neg heditable, Option.or_none]

/-! ## The last confirmation -/

/-- Confirming ends alike in both sessions, with the same shader or the same fault, and with a shader if the
types and the places of the inputs can be written. -/
def ConfirmAlike (s s' : Session) : Prop :=
  (s.answer .confirm).1 = (s'.answer .confirm).1 ∧
    (s.TypesWritable → s.rig.Declarable → ∃ source, (s.answer .confirm).1 = .ok (.source source))

theorem confirmAlike_of_corrected {given₁ given₂ : String → String → Option ShaderType}
    {s s₁ s₂ : Session} (hstep : s.InStep) (hstep₁ : s₁.InStep) (hstep₂ : s₂.InStep)
    (h₁ : s.Corrected given₁ s₁) (h₂ : s.Corrected given₂ s₂)
    (hsame : ∀ f n, (given₁ f n).or (s.store.typeOf f n) = (given₂ f n).or (s.store.typeOf f n)) :
    ConfirmAlike s₁ s₂ := by
  have hconfig : s₂.config = s₁.config := h₂.config.trans h₁.config.symm
  have hheader : s₂.rig.header = s₁.rig.header := h₂.rig.header_eq.trans h₁.rig.header_eq.symm
  obtain ⟨hreplay, houtline⟩ :=
    Store.replay_eq_of_corrected hstep.indexed.nodup h₁.store h₂.store hsame s₁.config.dialect
  have hsourceOf : s₂.sourceOf = s₁.sourceOf := by
    funext bodies
    simp only [sourceOf, hheader, Store.assemble_congr houtline]
  have hanswer : ∀ {s : Session}, s.InStep → (s.answer .confirm).1
      = (s.store.replay s.config.dialect >>= s.sourceOf).map Answer.source := by
    intro s hs
    rw [hs.answer_confirm, answer_regenerate, regenerate_eq]
  refine ⟨?_, fun htypes hplaces => ?_⟩
  · rw [hanswer hstep₁, hanswer hstep₂, hconfig, hreplay, hsourceOf]
  · obtain ⟨source, hsource⟩ := hstep₁.exists_regenerate htypes hplaces
    rw [regenerate_eq] at hsource
    refine ⟨source, ?_⟩
    rw [hanswer hstep₁, hsource]
    rfl

/-- Runs that leave every name with the same type are confirmed alike. -/
theorem confirmAlike_of_types (hstep : s.InStep) {operations operations' : List Operation}
    (h : ∀ operation ∈ operations, operation.isCorrection = true)
    (h' : ∀ operation ∈ operations', operation.isCorrection = true)
    (hsame : ∀ f n, (lastEdit s operations f n).or (s.store.typeOf f n)
      = (lastEdit s operations' f n).or (s.store.typeOf f n)) :
    ConfirmAlike (s.after operations) (s.after operations') :=
  confirmAlike_of_corrected hstep (hstep.after operations) (hstep.after operations')
    (corrected_after h) (corrected_after h') hsame

/-- Runs that ask for the same types are confirmed alike. -/
theorem confirmAlike_of_lastAsked (hstep : s.InStep) {operations operations' : List Operation}
    (h : ∀ operation ∈ operations, operation.isCorrection = true)
    (h' : ∀ operation ∈ operations', operation.isCorrection = true)
    (hsame : ∀ f n, lastAsked f n operations = lastAsked f n operations') :
    ConfirmAlike (s.after operations) (s.after operations') := by
  refine confirmAlike_of_types hstep h h' fun f n => ?_
  rw [lastEdit_eq h, lastEdit_eq h', hsame]

/-- Edits of different names ask for the same types in either order. -/
theorem lastAsked_swap {function name function' name' : String} (type type' : Value)
    (hne : (function, name) ≠ (function', name')) (before after : List Operation) (f n : String) :
    lastAsked f n (before ++ [.submitEdit function name type, .submitEdit function' name' type'] ++ after)
      = lastAsked f n
          (before ++ [.submitEdit function' name' type', .submitEdit function name type] ++ after) := by
  have hpair : lastAsked f n [.submitEdit function name type, .submitEdit function' name' type']
      = lastAsked f n [.submitEdit function' name' type', .submitEdit function name type] := by
    simp only [lastAsked, Operation.asks, Option.none_or]
    by_cases hfirst : f = function ∧ n = name
    · have hsecond : ¬ (f = function' ∧ n = name') := by
        rintro ⟨rfl, rfl⟩
        exact hne (by rw [hfirst.1, hfirst.2])
      rw [if_neg hsecond, Option.none_or, Option.or_none]
    · rw [if_neg hfirst, Option.none_or, Option.or_none]
  rw [lastAsked_append, lastAsked_append, lastAsked_append, lastAsked_append, hpair]

/-- Only edits ask for types. -/
theorem lastAsked_filter (f n : String) (operations : List Operation) :
    lastAsked f n (operations.filter (·.isEdit)) = lastAsked f n operations := by
  induction operations with
  | nil => rfl
  | cons operation rest ih =>
    cases operation with
    | submitEdit function name type =>
      rw [List.filter_cons_of_pos rfl, lastAsked, lastAsked, ih]
    | _ => simpa [lastAsked, Operation.isEdit, Operation.asks] using ih

/-- A name that is edited and edited back asks for its last type, and no other name for any. -/
theorem lastAsked_back {between : List Operation} (hbetween : ∀ operation ∈ between, operation.isEdit = false)
    (function name : String) (type old : Value) {oldType : ShaderType}
    (hold : ShaderType.ofValue old = .ok oldType) (f n : String) :
    lastAsked f n (.submitEdit function name type :: between ++ [.submitEdit function name old])
      = if f = function ∧ n = name then some oldType else none := by
  have hsilent : lastAsked f n between = none := by
    rw [← lastAsked_filter, List.filter_eq_nil_iff.mpr fun operation hmem => by simp [hbetween operation hmem]]
    rfl
  rw [lastAsked_append]
  simp only [lastAsked, hsilent, Operation.asks, hold, Except.toOption, Option.none_or]
  by_cases hpair : f = function ∧ n = name
  · simp only [if_pos hpair, Option.some_or]
  · simp only [if_neg hpair, Option.none_or]

/-- **Corrections are confluent.** From any session that can come about, two runs of edits, confirmations
and regenerations in which the last accepted edit of every name gives the same type are confirmed alike. In
particular edits of different names may be exchanged wherever they stand, everything but the edits may be
left out, and a name that is given another type and then its old one again, with anything but an edit in
between, is as if it had never been edited. -/
theorem corrections_confluent {s : Session} (hs : Reachable s) :
    (∀ operations operations' : List Operation,
      (∀ operation ∈ operations, operation.isCorrection = true) →
      (∀ operation ∈ operations', operation.isCorrection = true) →
      (∀ function name, lastEdit s operations function name = lastEdit s operations' function name) →
      ConfirmAlike (s.after operations) (s.after operations')) ∧
    (∀ (before after : List Operation) (function name function' name' : String) (type type' : Value),
      (∀ operation ∈ before ++ after, operation.isCorrection = true) →
      (function, name) ≠ (function', name') →
      ConfirmAlike
        (s.after (before ++ [.submitEdit function name type, .submitEdit function' name' type'] ++ after))
        (s.after (before ++ [.submitEdit function' name' type', .submitEdit function name type] ++ after))) ∧
    (∀ operations : List Operation, (∀ operation ∈ operations, operation.isCorrection = true) →
      ConfirmAlike (s.after operations) (s.after (operations.filter (·.isEdit)))) ∧
    (∀ (between : List Operation) (function name : String) (type old : Value) (oldType : ShaderType),
      (∀ operation ∈ between, operation.isCorrection = true ∧ operation.isEdit = false) →
      s.store.typeOf function name = some oldType → ShaderType.ofValue old = .ok oldType →
      ConfirmAlike
        (s.after (.submitEdit function name type :: between ++ [.submitEdit function name old])) s) := by
  have hstep := hs.inStep
  refine ⟨?_, ?_, ?_, ?_⟩
  · intro operations operations' h h' hsame
    refine confirmAlike_of_types hstep h h' fun f n => ?_
    rw [hsame]
  · intro before after function name function' name' type type' h hne
    have hcorrections : ∀ e e' : Operation, e.isCorrection = true → e'.isCorrection = true →
        ∀ operation ∈ before ++ [e, e'] ++ after, operation.isCorrection = true := by
      intro e e' he he' operation hmem
      simp only [List.mem_append, List.mem_cons, List.not_mem_nil, or_false] at hmem h
      rcases hmem with (hbefore | rfl | rfl) | hafter
      · exact h operation (Or.inl hbefore)
      · exact he
      · exact he'
      · exact h operation (Or.inr hafter)
    exact confirmAlike_of_lastAsked hstep (hcorrections _ _ rfl rfl) (hcorrections _ _ rfl rfl)
      (lastAsked_swap type type' hne before after)
  · intro operations h
    refine confirmAlike_of_lastAsked hstep h ?_ fun f n => (lastAsked_filter f n operations).symm
    intro operation hmem
    exact h operation (List.mem_of_mem_filter hmem)
  · intro between function name type old oldType hbetween htype hold
    have hcorrections : ∀ operation ∈
        .submitEdit function name type :: between ++ [.submitEdit function name old],
        operation.isCorrection = true := by
      intro operation hmem
      simp only [List.cons_append, List.mem_cons, List.mem_append, List.not_mem_nil, or_false] at hmem
      rcases hmem with rfl | hmem | rfl
      · rfl
      · exact (hbetween operation hmem).1
      · rfl
    have hnil : ∀ operation ∈ ([] : List Operation), operation.isCorrection = true :=
      fun _ h => absurd h List.not_mem_nil
    refine confirmAlike_of_types hstep hcorrections hnil fun f n => ?_
    rw [lastEdit_eq hcorrections,
      lastAsked_back (fun operation hmem => (hbetween operation hmem).2) function name type old hold,
      lastEdit, Option.none_or]
    by_cases hpair : f = function ∧ n = name
    · -- the type given last is the one that the name has
      rw [if_pos hpair, hpair.1, hpair.2, htype]
      by_cases heditable : s.store.editable function name = true
      · rw [if_pos heditable, Option.some_or]
      · rw [if_neg heditable, Option.none_or]
    · rw [if_neg hpair, ite_self, Option.none_or]

/-- A helper with a variable, and an entry point. -/
def draftedRun : List Operation :=
  [.addFunction "function f(a) \x7b\n  let b = a;\n\x7d" (.text "f32") .none .none,
    .addEntryPoint "function main() \x7b\n  let c = 1;\n\x7d" (.int 1) .none]

/-- The return type and two variables are corrected, with an unknown name, a value that is no type, a
type taken back, and confirmations in between. -/
def hesitantCorrections : List Operation :=
  [.submitEdit "f" "return" (.type (.scalar .i32)), .confirm,
    .submitEdit "f" "b" (.type (.scalar .u32)), .submitEdit "f" "d" (.type (.scalar .u32)),
    .submitEdit "f" "b" .none, .regenerate, .submitEdit "main" "c" (.type (.scalar .u32)),
    .submitEdit "f" "b" (.type (.scalar .i32))]

/-- The same corrections without any of that, in another order. -/
def plainCorrections : List Operation :=
  [.submitEdit "main" "c" (.type (.scalar .u32)), .submitEdit "f" "b" (.type (.scalar .i32)),
    .submitEdit "f" "return" (.type (.scalar .i32))]

theorem lastAsked_hesitant {f n : String} (h : ¬ (f = "f" ∧ n = "d")) :
    lastAsked f n hesitantCorrections = lastAsked f n plainCorrections := by
  simp only [lastAsked, hesitantCorrections, plainCorrections, Operation.asks, ShaderType.ofValue,
    Except.toOption, if_neg h, ite_self, Option.none_or, Option.or_none]
  by_cases hb : f = "f" ∧ n = "b"
  · simp [hb.1, hb.2]
  · by_cases hc : f = "main" ∧ n = "c"
    · simp [hc.1, hc.2]
    · simp only [if_neg hb, if_neg hc, Option.none_or, Option.or_none]

theorem hesitantCorrections_confirmed :
    let s := (fresh {} none).after draftedRun
    ConfirmAlike (s.after hesitantCorrections) (s.after plainCorrections) ∧
      (s.after hesitantCorrections).TypesWritable ∧ (s.after hesitantCorrections).rig.Declarable ∧
      (s.after hesitantCorrections).store ≠ s.store ∧
      ConfirmAlike (s.after [.submitEdit "f" "b" (.type (.scalar .u32)), .confirm,
        .submitEdit "f" "b" (.type (.scalar .f32))]) s := by
  intro s
  have hs : Reachable s := ⟨{}, none, draftedRun, rfl⟩
  have h : ∀ operation ∈ hesitantCorrections, operation.isCorrection = true := by
    simp [hesitantCorrections, Operation.isCorrection]
  have h' : ∀ operation ∈ plainCorrections, operation.isCorrection = true := by
    simp [plainCorrections, Operation.isCorrection]
  have hunknown : s.store.editable "f" "d" = false := by decide +kernel
  have hchanged : (s.after hesitantCorrections).store ≠ s.store := by decide +kernel
  have htype : s.store.typeOf "f" "b" = some (.scalar .f32) := by decide +kernel
  have htypes : (s.after hesitantCorrections).TypesWritable := typesWritable_of_values (by decide +kernel)
  have hplaces : (s.after hesitantCorrections).rig.Declarable := by decide +kernel
  obtain ⟨hconfluent, -, -, hback⟩ := corrections_confluent hs
  refine ⟨hconfluent _ _ h h' fun f n => ?_, htypes, hplaces, hchanged,
    hback [.confirm] "f" "b" _ _ _ (by simp [Operation.isCorrection, Operation.isEdit]) htype rfl⟩
  rw [lastEdit_eq h, lastEdit_eq h']
  by_cases hd : f = "f" ∧ n = "d"
  · rw [hd.1, hd.2, hunknown, if_neg Bool.false_ne_true, if_neg Bool.false_ne_true]
  · rw [lastAsked_hesitant hd]

end KernelShader.Session
