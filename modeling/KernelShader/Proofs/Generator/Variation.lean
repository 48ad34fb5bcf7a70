/-
`Variation.lean` -- the lines of a function while the type of one name varies.

The text of a declaration line has places in its parameters and behind its brace. Whether a function can be
written at all depends on which names have a type and, as long as these can be written, not on the types,
so while a type varies among those writing fails always, with the same fault, or never (`Uniform`); and if
it does not fail, there are always as many lines, each a text with places (`generate_insert`).
-/
import KernelShader.Proofs.Generator.Places
import KernelShader.Proofs.ShaderType.Writer

set_option autoImplicit false

namespace KernelShader.Generator

open NameTable

/-! ## Parameters -/

/-- The text fails in the same way for every type that can be written, or it varies with the type in its
places. -/
def Uniform (name : String) (places : Nat) (text : ShaderType → Except Fault String) : Prop :=
  (∃ fault, ∀ type, type.Writable → text type = .error fault) ∨
  (∃ F : ShaderType → String, (∀ type, type.Writable → text type = .ok (F type)) ∧
    Varies name places fun type => (F type).toList)

/-- A parameter has a place if it is the name. -/
theorem uniform_parameterText (types : TypeTable) (name param : String) :
    Uniform name (if param = name then 1 else 0)
      fun type => parameterText (types.insert name type) param := by
  by_cases hname : param = name
  · rw [if_pos hname]
    refine Or.inr ⟨fun type => name ++ ": " ++ type.text, fun type hwritable => ?_, ?_⟩
    · simp only [parameterText, hname, get?_insert_self, hwritable.write, Except.map]
    · refine (Varies.place name []).congr fun type => ?_
      simp only [String.toList_append, List.nil_append]
      rfl
  · rw [if_neg hname]
    have hother : ∀ type, parameterText (types.insert name type) param = parameterText types param := by
      intro type
      rw [parameterText, get?_insert_of_ne _ _ hname, parameterText]
    cases htext : parameterText types param with
    | error fault => exact Or.inl ⟨fault, fun type _ => (hother type).trans htext⟩
    | ok text =>
      exact Or.inr ⟨fun _ => text, fun type _ => (hother type).trans htext, Varies.const name _⟩

/-- The texts of the parameters, each with its place. -/
theorem mapM_parameterText_insert (types : TypeTable) (name : String) (params : List String) :
    (∃ fault, ∀ type, type.Writable →
      params.mapM (parameterText (types.insert name type)) = .error fault) ∨
    (∃ texts : List (ShaderType → String),
      (∀ type, type.Writable →
        params.mapM (parameterText (types.insert name type)) = .ok (texts.map (· type))) ∧
      List.Forall₂ (fun n text => Varies name n fun type => (text type).toList)
        (params.map fun p => if p = name then 1 else 0) texts) := by
  induction params with
  | nil => exact Or.inr ⟨[], fun _ _ => rfl, .nil⟩
  | cons param rest ih =>
    rcases uniform_parameterText types name param with ⟨fault, hfault⟩ | ⟨F, hF, hvaries⟩
    · refine Or.inl ⟨fault, fun type hwritable => ?_⟩
      have hparam : parameterText (types.insert name type) param = .error fault :=
        hfault type hwritable
      rw [List.mapM_cons, hparam]
      rfl
    · have hparam : ∀ type, type.Writable →
          parameterText (types.insert name type) param = .ok (F type) := hF
      rcases ih with ⟨fault, hfault⟩ | ⟨texts, htexts, hforall⟩
      · refine Or.inl ⟨fault, fun type hwritable => ?_⟩
        rw [List.mapM_cons, hparam type hwritable, hfault type hwritable]
        rfl
      · refine Or.inr ⟨F :: texts, fun type hwritable => ?_, .cons hvaries hforall⟩
        rw [List.mapM_cons, hparam type hwritable, htexts type hwritable]
        rfl

/-- Putting texts in a row with something between them adds up their places. -/
theorem varies_intercalate {name : String} (between : String) {ns : List Nat}
    {texts : List (ShaderType → String)}
    (h : List.Forall₂ (fun n text => Varies name n fun type => (text type).toList) ns texts) :
    Varies name ns.sum fun type => (between.intercalate (texts.map (· type))).toList := by
  induction h with
  | nil => exact Varies.const name _
  | @cons n text ns texts hfirst hrest ih =>
    cases texts with
    | nil =>
      rw [List.forall₂_nil_right_iff.mp hrest]
      refine hfirst.congr fun type => ?_
      rw [List.map_singleton, String.intercalate_singleton]
    | cons second texts =>
      rw [List.sum_cons]
      refine ((hfirst.append (Varies.const name between.toList)).append ih).congr fun type => ?_
      simp only [List.map_cons, String.intercalate_cons_cons, String.toList_append]

theorem sum_map_eq_count (name : String) (params : List String) :
    (params.map fun p => if p = name then 1 else 0).sum = params.count name := by
  induction params with
  | nil => rfl
  | cons p rest ih =>
    rw [List.map_cons, List.sum_cons, ih, List.count_cons, Nat.add_comm]
    simp only [beq_iff_eq]

/-! ## The declaration line -/

/-- The text of what a helper returns, whether or not it can be written. -/
def resultText : Option ShaderType → String
  | some type => type.text
  | none => "None"

theorem returnText_eq_ok {returns : Option ShaderType} (h : ∀ type ∈ returns, type.Writable) :
    returnText returns = .ok (resultText returns) := by
  cases returns with
  | none => rfl
  | some type => exact (h type rfl).write

/-- The head of a helper from the texts of what it returns and of its parameters. -/
def helperHead (result function : String) (params : List String) : String :=
  "fn " ++ function ++ "(" ++ ", ".intercalate params ++ ") -> " ++ result

/-- The head of an entry point from the texts of its size and its parameters. -/
def entryHead (size function : String) (params : List String) : String :=
  "@compute @workgroup_size(" ++ size ++ ") fn " ++ function ++ "(" ++ ", ".intercalate params ++ ")"

theorem headText_helper (returns : Option ShaderType) (types : TypeTable)
    (declaration : Declaration) :
    headText (.helper returns) types declaration = (do
      let params ← declaration.params.mapM (parameterText types)
      (returnText returns).map fun result => helperHead result declaration.name params) := rfl

theorem headText_entry (invocations : Nat) (types : TypeTable) (declaration : Declaration) :
    headText (.entry invocations) types declaration = (do
      let size ← Numeral.write invocations
      (declaration.params.mapM (parameterText types)).map fun params =>
        entryHead size declaration.name (params ++ [invocationParameter])) := rfl

theorem varies_helperHead {name : String} (result function : String)
    {ns : List Nat} {texts : List (ShaderType → String)}
    (h : List.Forall₂ (fun n text => Varies name n fun type => (text type).toList) ns texts) :
    Varies name ns.sum fun type => (helperHead result function (texts.map (· type))).toList := by
  have hfront := Varies.const name ("fn " ++ function ++ "(").toList
  have hparams := hfront.append_text (varies_intercalate ", " h)
  have hhead := (hparams.append_text (Varies.const name ") -> ".toList)).append_text
    (Varies.const name result.toList)
  rw [Nat.zero_add, Nat.add_zero] at hhead
  exact hhead

theorem varies_entryHead {name : String} (size function : String) {ns : List Nat}
    {texts : List (ShaderType → String)}
    (h : List.Forall₂ (fun n text => Varies name n fun type => (text type).toList) ns texts) :
    Varies name ns.sum fun type => (entryHead size function (texts.map (· type))).toList := by
  have hfront := Varies.const name
    ("@compute @workgroup_size(" ++ size ++ ") fn " ++ function ++ "(").toList
  have hhead := (hfront.append_text (varies_intercalate ", " h)).append_text
    (Varies.const name ")".toList)
  rw [Nat.zero_add, Nat.add_zero] at hhead
  exact hhead

/-- **The places in a head** are its parameters of the name. -/
theorem uniform_headText (role : Role) (types : TypeTable) (name : String)
    (declaration : Declaration) :
    Uniform name (declaration.params.count name)
      fun type => headText role (types.insert name type) declaration := by
  rw [← sum_map_eq_count]
  cases role with
  | helper returns =>
    simp only [headText_helper]
    rcases mapM_parameterText_insert types name declaration.params with
      ⟨fault, hfault⟩ | ⟨texts, htexts, hforall⟩
    · refine Or.inl ⟨fault, fun type hwritable => ?_⟩
      simp only [hfault type hwritable]
      rfl
    · cases hreturns : returnText returns with
      | error fault =>
        refine Or.inl ⟨fault, fun type hwritable => ?_⟩
        simp only [htexts type hwritable]
        rfl
      | ok result =>
        refine Or.inr ⟨_, fun type hwritable => ?_, varies_helperHead result declaration.name hforall⟩
        simp only [htexts type hwritable]
        rfl
  | entry invocations =>
    simp only [headText_entry]
    cases Numeral.write invocations with
    | error fault => exact Or.inl ⟨fault, fun _ _ => rfl⟩
    | ok size =>
      rcases mapM_parameterText_insert types name declaration.params with
        ⟨fault, hfault⟩ | ⟨texts, htexts, hforall⟩
      · refine Or.inl ⟨fault, fun type hwritable => ?_⟩
        simp only [hfault type hwritable]
        rfl
      · have hlast : List.Forall₂ (fun n text => Varies name n fun type => (text type).toList) [0]
            [fun _ => invocationParameter] := .cons (Varies.const name _) .nil
        have hhead := varies_entryHead size declaration.name (List.rel_append hforall hlast)
        rw [List.sum_append, List.sum_singleton, Nat.add_zero] at hhead
        refine Or.inr ⟨_, fun type hwritable => ?_, hhead⟩
        simp only [htexts type hwritable, List.map_append]
        rfl

theorem fill_cons_ne_nil (name type front : List Char) (fronts : List (List Char))
    (last : List Char) : fill name type (front :: fronts) last ≠ [] := by
  intro h
  simp only [fill, List.append_eq_nil_iff, List.cons_ne_nil, and_false, false_and] at h

/-- A text with places is empty for every type or for none, so a brace in front of it keeps the places. -/
theorem varies_braced {name : String} {n : Nat} {body : ShaderType → String}
    (h : Varies name n fun type => (body type).toList) :
    Varies name n fun type => (braced (body type)).toList := by
  obtain ⟨fronts, last, hn, hbody⟩ := h
  have hbody' : ∀ type, (body type).toList = fill name.toList type.text.toList fronts last := hbody
  cases fronts with
  | nil =>
    have hconst : ∀ type, body type = String.ofList last := by
      intro type
      rw [← String.toList_inj, hbody', String.toList_ofList, fill]
    refine ⟨[], (braced (String.ofList last)).toList, hn, fun type => ?_⟩
    simp only [hconst, fill]
  | cons front rest =>
    have hvaries : Varies name n fun type => (body type).toList := ⟨front :: rest, last, hn, hbody⟩
    have hbrace := (Varies.const name " \x7b ".toList).append hvaries
    rw [Nat.zero_add] at hbrace
    refine hbrace.congr fun type => ?_
    have hne : ¬ (body type).isEmpty = true := by
      rw [String.isEmpty_iff, ← String.toList_eq_nil_iff, hbody']
      exact fill_cons_ne_nil _ _ _ _ _
    simp only [braced, if_neg hne, String.toList_append]
    rfl

/-- The names that a declaration line writes with a type: its parameters, and those of the part behind
the brace. -/
def declarationNames (dialect : Dialect) (types : TypeTable) (line : Line) : List String :=
  match Declaration.parse line with
  | .ok declaration =>
    declaration.params ++ lineNames dialect types (declaration.tail.drop 1)
  | .error _ => []

/-- The places behind the head. -/
theorem varies_tailLine (dialect : Dialect) {types : TypeTable} {name : String}
    (h : types.contains name = true) (tail : Line) :
    Varies name ((lineNames dialect types (tail.drop 1)).count name)
      fun type => (tailLine dialect .replay (types.insert name type) tail).1.toList := by
  have hnone : (lineNames dialect types []).count name = 0 := by
    rw [lineNames_nil, List.count_nil]
  match tail with
  | [] =>
    rw [List.drop_nil, hnone]
    exact Varies.const name "".toList
  | [_] =>
    rw [List.drop_one, List.tail_cons, hnone]
    exact Varies.const name " \x7b".toList
  | _ :: second :: rest => exact varies_braced (varies_bodyText dialect h (second :: rest))

/-! ## Whole functions -/

/-- The names that each line of a function writes with a type. -/
def namesByLine (dialect : Dialect) (types : TypeTable) : List Line → List (List String)
  | [] => []
  | first :: rest => declarationNames dialect types first :: rest.map (lineNames dialect types)

theorem bodyLines_replay_eq (dialect : Dialect) (types : TypeTable) (lines : List Line) :
    bodyLines dialect .replay types lines = (lines.map (bodyText dialect types), types) := by
  induction lines with
  | nil => rfl
  | cons line rest ih => simp only [bodyLines, bodyLine, bodyTypes_replay, ih, List.map_cons]

theorem writeLines_replay (dialect : Dialect) (types : TypeTable) (lines : List Line) :
    writeLines dialect .replay types lines = (do
      let _ ← (lines.flatMap (lineNames dialect types)).mapM (parameterText types)
      return (lines.map (bodyText dialect types), types)) := by
  induction lines with
  | nil => rfl
  | cons line rest ih =>
    have hline : writeLine dialect .replay types line = (do
        let _ ← (lineNames dialect types line).mapM (parameterText types)
        return (bodyText dialect types line, types)) := rfl
    simp only [writeLines, hline, ih, List.flatMap_cons, List.mapM_append, bind_assoc, pure_bind,
      List.map_cons]

theorem writeTail_replay (dialect : Dialect) (types : TypeTable) (tail : Line) :
    writeTail dialect .replay types tail = (do
      let _ ← (lineNames dialect types (tail.drop 1)).mapM (parameterText types)
      return (tailLine dialect .replay types tail)) := by
  have hnil : lineNames dialect types [] = [] := lineNames_nil dialect types
  rcases tail with _ | ⟨token, _ | ⟨second, rest⟩⟩
  · simp only [List.drop_nil, hnil]
    rfl
  · simp only [List.drop_succ_cons, List.drop_zero, hnil]
    rfl
  · simp only [writeTail, writeLine, bind_assoc, pure_bind]
    rfl

/-- A replay writes every line under the same table. -/
theorem generate_replay_cons (dialect : Dialect) (role : Role) (types : TypeTable) (first : Line)
    (rest : List Line) :
    generate dialect .replay role types (first :: rest) = (do
      let declaration ← Declaration.parse first
      let head ← headText role types declaration
      let _ ← (lineNames dialect types (declaration.tail.drop 1)).mapM (parameterText types)
      let _ ← (rest.flatMap (lineNames dialect types)).mapM (parameterText types)
      return ((head ++ (tailLine dialect .replay types declaration.tail).1)
        :: rest.map (bodyText dialect types), types)) := by
  simp only [generate, declarationLine, writeTail_replay, writeLines_replay, bind_assoc, pure_bind,
    tailLine_replay_table]

theorem forall₂_varies_bodyText (dialect : Dialect) {types : TypeTable} {name : String}
    (h : types.contains name = true) (lines : List Line) :
    List.Forall₂ (fun names text => Varies name (names.count name) fun type => (text type).toList)
      (lines.map (lineNames dialect types))
      (lines.map fun line type => bodyText dialect (types.insert name type) line) := by
  induction lines with
  | nil => exact .nil
  | cons line rest ih => exact .cons (varies_bodyText dialect h line) ih

/-- The names that a line writes with a type do not depend on the types. -/
theorem lineNames_insert (dialect : Dialect) {types : TypeTable} {name : String}
    (h : types.contains name = true) (type : ShaderType) :
    lineNames dialect (types.insert name type) = lineNames dialect types := by
  have hsame : ∀ other, (types.insert name type).contains other = types.contains other := by
    intro other
    rw [contains_insert]
    by_cases hother : other = name
    · rw [hother, h, Bool.or_true]
    · rw [decide_eq_false hother, Bool.false_or]
  funext line
  unfold lineNames
  cases prepared? dialect line with
  | none => rfl
  | some tokens => exact typedNames_congr tokens fun other _ => hsame other

/-- **A function while the type of a name varies.** Writing it again fails always and in the same way, or
gives always as many lines, each of them with a place for every time that it writes the name with its
type. -/
theorem generate_insert (dialect : Dialect) (role : Role) {types : TypeTable} {name : String}
    (h : types.contains name = true) (lines : List Line) :
    (∃ fault, ∀ type, type.Writable →
      generate dialect .replay role (types.insert name type) lines = .error fault) ∨
    (∃ texts : List (ShaderType → String),
      (∀ type, type.Writable → generate dialect .replay role (types.insert name type) lines
        = .ok (texts.map (· type), types.insert name type)) ∧
      List.Forall₂ (fun names text => Varies name (names.count name) fun type => (text type).toList)
        (namesByLine dialect types lines) texts) := by
  cases lines with
  | nil => exact Or.inr ⟨[], fun _ _ => rfl, .nil⟩
  | cons first rest =>
    simp only [generate_replay_cons, namesByLine, declarationNames, lineNames_insert dialect h]
    cases Declaration.parse first with
    | error fault => exact Or.inl ⟨fault, fun _ _ => rfl⟩
    | ok declaration =>
      rcases uniform_headText role types name declaration with
        ⟨fault, hfault⟩ | ⟨head, hhead, hvaries⟩
      · refine Or.inl ⟨fault, fun type hwritable => ?_⟩
        have hhead : headText role (types.insert name type) declaration = .error fault :=
          hfault type hwritable
        simp only [bind, Except.bind, hhead]
      have hhead' : ∀ type, type.Writable →
          headText role (types.insert name type) declaration = .ok (head type) := hhead
      -- the types behind the brace and on the body lines are written or not, whatever the type is
      rcases mapM_parameterText_insert types name
        (lineNames dialect types (declaration.tail.drop 1)) with ⟨fault, hfault⟩ | ⟨tail, htail, -⟩
      · refine Or.inl ⟨fault, fun type hwritable => ?_⟩
        simp only [bind, Except.bind, hhead' type hwritable, hfault type hwritable]
      rcases mapM_parameterText_insert types name (rest.flatMap (lineNames dialect types)) with
        ⟨fault, hfault⟩ | ⟨body, hbody, -⟩
      · refine Or.inl ⟨fault, fun type hwritable => ?_⟩
        simp only [bind, Except.bind, hhead' type hwritable, htail type hwritable,
          hfault type hwritable]
      have hfirst := hvaries.append_text (varies_tailLine dialect h declaration.tail)
      rw [← List.count_append] at hfirst
      refine Or.inr ⟨_, fun type hwritable => ?_,
        .cons hfirst (forall₂_varies_bodyText dialect h rest)⟩
      simp only [bind, Except.bind, hhead' type hwritable, htail type hwritable, hbody type hwritable,
        List.map_cons, List.map_map]
      rfl

end KernelShader.Generator
