/-
`Explicit.lean` -- a first reading writes a type behind every name it declares, and a replay repeats it.

`Replay.lean` shows that the two texts agree. What they have in common besides is said here without the
function that writes them. Writing has a way out for a keyword whose name has no type: it puts the keyword
alone and goes on with the name. `Typed` has the same rules but for this one, and `Written` puts lines
together from it, all under the one table that the first reading leaves. That every function that has been
read is `Written` means that the way out is never taken, neither in the first reading nor in a replay with
what it left: before a line is written, registering has been at every position of it, also at those that
writing will jump over.
-/
import KernelShader.Proofs.Generator.Replay

set_option autoImplicit false

namespace KernelShader.Generator

open NameTable

/-! ## Lines with explicit types -/

/-- The words that tokens are written with if every keyword that is come to with a token behind it is
written together with that token and its type. For a keyword whose name has no type there is no rule. -/
inductive Typed (types : TypeTable) : List Token → Line → Prop where
  | nil : Typed types [] []
  | last (t : Token) : Typed types [t] [t.text]
  | declaration {key name : Token} {rest : List Token} {word : String} {type : ShaderType}
      {words : Line} (hkey : keyword? key = some word) (htype : types.get? name.text = some type)
      (hrest : Typed types rest words) :
      Typed types (key :: name :: rest) (typedName word name.text type :: words)
  | other {t next : Token} {rest : List Token} {words : Line} (hkey : keyword? t = none)
      (hrest : Typed types (next :: rest) words) :
      Typed types (t :: next :: rest) (t.text :: words)

/-- The text of a body line: a lone token as it is, nothing for a directive, and otherwise its words with
explicit types. -/
inductive Spelled (dialect : Dialect) (types : TypeTable) : Line → String → Prop where
  | lone (token : String) : Spelled dialect types [token] token
  | directive {line : Line} (hlength : line.length ≠ 1) (hdirective : line.any isDirective = true) :
      Spelled dialect types line ""
  | typed {line : Line} {tokens : List Token} {words : Line}
      (hline : prepared? dialect line = some tokens) (hwords : Typed types tokens words) :
      Spelled dialect types line (Line.join words)

/-- What follows the head on the declaration line, whose body part is spelled like a body line. -/
inductive SpelledTail (dialect : Dialect) (types : TypeTable) : Line → String → Prop where
  | nothing : SpelledTail dialect types [] ""
  | opening (token : String) : SpelledTail dialect types [token] " \x7b"
  | body (token : String) {rest : Line} {text : String} (hrest : rest ≠ [])
      (hbody : Spelled dialect types rest text) :
      SpelledTail dialect types (token :: rest) (braced text)

/-- The lines of a function, all of them under one table. -/
inductive Written (dialect : Dialect) (role : Role) (types : TypeTable) :
    List Line → List String → Prop where
  | nothing : Written dialect role types [] []
  | function {first : Line} {rest : List Line} {declaration : Declaration} {head tail : String}
      {texts : List String} (hparse : Declaration.parse first = .ok declaration)
      (hhead : headText role types declaration = .ok head)
      (htail : SpelledTail dialect types declaration.tail tail)
      (hbody : List.Forall₂ (Spelled dialect types) rest texts) :
      Written dialect role types (first :: rest) ((head ++ tail) :: texts)

/-! ## Writing takes no other way -/

/-- Where all names have types, writing never leaves one out. -/
theorem typed_withTypes {types : TypeTable} (tokens : List Token)
    (h : ∀ name ∈ (declaredNames tokens).map Prod.fst, types.contains name = true) :
    Typed types tokens (withTypes types tokens) := by
  fun_induction withTypes types tokens with
  | case1 key name rest word hkey type htype ih =>
    refine .declaration hkey htype (ih fun n hn => ?_)
    exact h n (mem_declaredNames_cons key (mem_declaredNames_cons name hn))
  | case2 key name rest word hkey hnone ih =>
    -- the name is one that the keyword declares, so it cannot be without a type
    have hname : types.contains name.text = true :=
      h _ (by rw [declaredNames_cons_of_keyword rest hkey]; exact List.mem_cons_self)
    rw [contains, hnone] at hname
    exact absurd hname Bool.false_ne_true
  | case3 key name rest hkey ih =>
    exact .other hkey (ih fun n hn => h n (mem_declaredNames_cons key hn))
  | case4 t => exact .last t
  | case5 => exact .nil

/-- A body line is spelled with explicit types under every table that continues the one it leaves. -/
theorem spelled_bodyText {dialect : Dialect} {types u : TypeTable} {line : Line}
    (h : (bodyTypes dialect .infer types line).entries <+: u.entries) :
    Spelled dialect u line (bodyText dialect u line) := by
  unfold bodyText
  split
  · exact .lone _
  · rename_i hlone
    have hlength : line.length ≠ 1 := by
      intro hone
      obtain ⟨token, htoken⟩ := List.length_eq_one_iff.mp hone
      exact hlone token htoken
    cases hline : prepared? dialect line with
    | none =>
      refine .directive hlength ?_
      simpa [prepared?, hlength] using hline
    | some tokens =>
      simp only [bodyTypes, hline] at h
      refine .typed hline (typed_withTypes tokens fun name hname => ?_)
      obtain ⟨type, htype⟩ := Option.isSome_iff_exists.mp (contains_register types hname)
      rw [contains, get?_mono h htype]
      rfl

theorem spelledTail_tailLine {dialect : Dialect} {types u : TypeTable} {tail : Line}
    (h : (tailLine dialect .infer types tail).2.entries <+: u.entries) :
    SpelledTail dialect u tail (tailLine dialect .infer types tail).1 := by
  match tail with
  | [] => exact .nothing
  | [token] => exact .opening token
  | token :: second :: rest =>
    have hline : (bodyTypes dialect .infer types (second :: rest)).entries <+: u.entries := h
    have hbody := spelled_bodyText hline
    rw [bodyText_mono hline] at hbody
    exact .body token (List.cons_ne_nil second rest) hbody

/-- The body of a function. Every line is read under a table that the last one continues. -/
theorem spelled_bodyLines {dialect : Dialect} {types u : TypeTable} {lines : List Line}
    (h : (bodyLines dialect .infer types lines).2.entries <+: u.entries) :
    List.Forall₂ (Spelled dialect u) lines (bodyLines dialect .infer types lines).1 := by
  induction lines generalizing types with
  | nil => exact .nil
  | cons line rest ih =>
    have hline : (bodyTypes dialect .infer types line).entries <+: u.entries :=
      (prefix_bodyLines dialect .infer _ rest).trans h
    have htext := spelled_bodyText hline
    rw [bodyText_mono hline] at htext
    exact .cons htext (ih h)

/-- **Every declaration has a type.** A function that has been read is written with explicit types under
the table that the reading leaves. -/
theorem written_of_generate {dialect : Dialect} {role : Role} {types after : TypeTable}
    {lines : List Line} {texts : List String}
    (h : generate dialect .infer role types lines = .ok (texts, after)) :
    Written dialect role after lines texts := by
  cases lines with
  | nil =>
    have htexts : [] = texts := (Prod.mk.inj (Except.ok.inj h)).1
    exact htexts ▸ .nothing
  | cons first rest =>
    obtain ⟨declaration, head, hparse, hhead, -, rfl, rfl⟩ := generate_cons_eq_ok_iff.mp h
    have htail := prefix_bodyLines dialect .infer (tailLine dialect .infer types declaration.tail).2 rest
    have htypes := (prefix_tailLine dialect .infer types declaration.tail).trans htail
    exact .function hparse (headText_mono htypes hhead) (spelledTail_tailLine htail)
      (spelled_bodyLines List.prefix_rfl)

/-- **A replay repeats the first reading.** Whatever the lines are, checked before or not, and whatever
the table, the role and the dialect: if the first reading succeeds, a replay under the table that it leaves
succeeds as well, gives the same lines and leaves the table as it is; and in these lines every keyword that
writing comes to with a token behind it stands with that token and its type in this table. -/
theorem replay_repeats_first_reading (dialect : Dialect) (role : Role) (types : TypeTable)
    (lines : List Line) {texts : List String} {after : TypeTable}
    (h : generate dialect .infer role types lines = .ok (texts, after)) :
    generate dialect .replay role after lines = .ok (texts, after) ∧
      Written dialect role after lines texts :=
  ⟨generate_replay h List.prefix_rfl, written_of_generate h⟩

/-- A function whose declaration line has a body, with a keyword as the name of a variable, a name that is
declared twice, a keyword at the end of a line, and an unbalanced line. -/
def tangledLines : List Line :=
  [["function", "f", "(", "a", ")", "\x7b", "let", "b", "=", "a", ";"],
    ["let", "let", "=", "id", ".", "x", ";"], ["const", "c", "=", "[", "1", ",", ",", "2", "]", ")"],
    ["var", "b", "=", "[", "3", "]"], ["return", "let"]]

def tangledTypes : TypeTable := ⟨[("a", .scalar .i32)]⟩

theorem tangledLines_replayed :
    ∃ texts after,
      generate .current .infer (.helper none) tangledTypes tangledLines = .ok (texts, after) ∧
      after.names = ["a", "b", "let", "=", "c"] ∧ texts[1]? = some "var let: u32 = id.x ;" ∧
      generate .current .replay (.helper none) after tangledLines = .ok (texts, after) ∧
      Written .current (.helper none) after tangledLines texts := by
  have hread : (generate .current .infer (.helper none) tangledTypes tangledLines).toOption.bind
      (fun written => some (written.2.names, written.1[1]?))
        = some (["a", "b", "let", "=", "c"], some "var let: u32 = id.x ;") := by decide +kernel
  obtain ⟨⟨texts, after⟩, hwritten, hparts⟩ := Check.exists_of_toOption hread
  have hparts := Prod.mk.inj (Option.some.inj hparts)
  exact ⟨texts, after, hwritten, hparts.1, hparts.2,
    replay_repeats_first_reading .current (.helper none) tangledTypes tangledLines hwritten⟩

end KernelShader.Generator
