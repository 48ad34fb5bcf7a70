/-
`Balance.lean` -- brackets in the texts of accepted functions.

Accepting a function counts brackets, line by line and from the second line on. What stands on the first
line is written as well, the name, the parameters and whatever follows the brace, so an accepted function
can be written with brackets that do not balance; and since only numbers are compared, a line such as
`x ] = [ a` passes, whose literal is never closed. There is nothing else: the brackets of the text are
those of the tokens written from the first line, and one square bracket is lost with every literal that is
left open.
-/
import KernelShader.Proofs.Generator.Brackets
import KernelShader.Proofs.Session.Acceptance

set_option autoImplicit false

namespace KernelShader

open Generator

namespace Session

/-- **The brackets of a text that has been read.** -/
theorem surplus_of_read {source body : String} {declared arguments : Value} {kind : FunctionKind}
    {workgroup : List Int} {t : Transcript}
    (h : read .current source declared arguments kind workgroup = .ok (t, body)) :
    ∃ first rest, Source.tokenLines source = first :: rest ∧
      ∀ b : Bracket, b.surplus body
        = (shownTokens first).count b.opening - (shownTokens first).count b.closing
          - openLiterals first rest * b.surplus "[" := by
  obtain ⟨hcheck, declaration, types, -, -, hwrite⟩ := read_eq_ok_iff.mp h
  obtain ⟨first, rest, hlines, hbalanced⟩ := Declaration.balanced_of_check hcheck
  obtain ⟨role, texts, after, -, hgenerate, rfl, -⟩ := Transcript.write_eq_ok_iff.mp hwrite
  have hpieces : ∀ line ∈ first :: rest, ∀ token ∈ line, Line.IsPiece token.toList := by
    intro line hline token htoken
    rw [← hlines] at hline
    exact Source.isPiece_of_mem hline htoken
  simp only [hlines] at hgenerate
  refine ⟨first, rest, hlines, fun b => ?_⟩
  have hbreak : b.surplus "\n" = 0 := Bracket.surplus_of_all b (by decide)
  rw [Bracket.surplus_intercalate b hbreak]
  exact weight_generate_of_balanced b hgenerate hpieces fun line hline => hbalanced line hline b

theorem recorded_of_add {source body : String} {declared arguments : Value} {kind : FunctionKind}
    {workgroup : List Int} {s s' : Session}
    (h : outcome (add source declared arguments kind workgroup) s = (.ok body, s')) :
    ∃ t, read s.config.dialect source declared arguments kind workgroup = .ok (t, body) ∧
      s'.store.get? t.name = some t := by
  rcases add_cases source declared arguments kind workgroup s with
    ⟨fault, -, hout⟩ | ⟨t, body', store, hread, hrecord, hout⟩
  · simp [hout] at h
  · rw [hout, Prod.mk.injEq, Except.ok.injEq] at h
    obtain ⟨rfl, rfl⟩ := h
    obtain ⟨hnew, -, hentries⟩ := Store.record_eq_ok hrecord
    have hstore : store = s.store.insert t.name t :=
      congrArg NameTable.mk (hentries.trans (NameTable.entries_insert_of_not_mem t hnew).symm)
    refine ⟨t, hread, ?_⟩
    change store.get? t.name = some t
    rw [hstore, NameTable.get?_insert_self]

/-- The operation adds the function that a source declares, as a helper or as the entry point. -/
def Operation.adds (source : String) : Operation → Prop
  | .addFunction source' _ _ _ => source' = source
  | .addEntryPoint source' _ _ => source' = source
  | _ => False

/-- What has been added has been read and recorded. -/
theorem exists_recorded_of_added {source body : String} {operation : Operation} {s s' : Session}
    (hadds : operation.adds source) (h : s.answer operation = (.ok (.body body), s')) :
    ∃ declared arguments kind workgroup t,
      read s.config.dialect source declared arguments kind workgroup = .ok (t, body) ∧
      s'.store.get? t.name = some t := by
  cases operation with
  | addFunction source' returns declared arguments =>
    obtain rfl : source' = source := hadds
    obtain ⟨body', hout, hbody⟩ := Outcome.map_eq_ok_iff.mp h
    rw [Answer.body.injEq] at hbody
    rw [hbody, addFunction, Outcome.liftExcept_bind] at hout
    cases htype : ShaderType.ofValue returns with
    | error fault => simp [htype] at hout
    | ok type =>
      simp only [htype] at hout
      exact ⟨declared, arguments, _, _, recorded_of_add hout⟩
  | addEntryPoint source' size declared =>
    obtain rfl : source' = source := hadds
    obtain ⟨body', hout, hbody⟩ := Outcome.map_eq_ok_iff.mp h
    rw [Answer.body.injEq] at hbody
    rw [hbody, addEntryPoint, Outcome.get_bind] at hout
    cases hentry : s.store.entry? with
    | some entry => simp [hentry] at hout
    | none =>
      simp only [hentry, Outcome.liftExcept_bind] at hout
      cases hsize : Workgroup.size size with
      | error fault => simp [hsize] at hout
      | ok w =>
        simp only [hsize] at hout
        exact ⟨declared, .none, _, _, recorded_of_add hout⟩
  | _ => exact absurd hadds (by simp [Operation.adds])

theorem exists_read_of_added {source body : String} {operation : Operation} {s s' : Session}
    (hadds : operation.adds source) (h : s.answer operation = (.ok (.body body), s')) :
    ∃ declared arguments kind workgroup t,
      read s.config.dialect source declared arguments kind workgroup = .ok (t, body) := by
  obtain ⟨declared, arguments, kind, workgroup, t, hread, -⟩ := exists_recorded_of_added hadds h
  exact ⟨declared, arguments, kind, workgroup, t, hread⟩

/-- **The brackets of an accepted function.** Of the parentheses in its text, there are as many more
opening than closing ones as among the tokens that are written from its declaration line. The same holds
of square brackets, less one for every line that leaves an array literal open. So the text balances
exactly if those tokens do, with the brackets that are lost taken into account. -/
theorem brackets_of_accepted {s s' : Session} {operation : Operation} {source body : String}
    (hdialect : s.config.dialect = .current) (hadds : operation.adds source)
    (haccepted : s.answer operation = (.ok (.body body), s')) :
    ∃ first rest, Source.tokenLines source = first :: rest ∧
      body.toList.count '(' + (shownTokens first).count ")"
        = body.toList.count ')' + (shownTokens first).count "(" ∧
      body.toList.count '[' + (shownTokens first).count "]" + openLiterals first rest
        = body.toList.count ']' + (shownTokens first).count "[" ∧
      (body.toList.count '(' = body.toList.count ')' ∧
          body.toList.count '[' = body.toList.count ']' ↔
        (shownTokens first).count "(" = (shownTokens first).count ")" ∧
          (shownTokens first).count "[" = (shownTokens first).count "]" + openLiterals first rest) := by
  obtain ⟨declared, arguments, kind, workgroup, t, hread⟩ := exists_read_of_added hadds haccepted
  rw [hdialect] at hread
  obtain ⟨first, rest, hlines, hsurplus⟩ := surplus_of_read hread
  -- an open literal loses a square bracket and no parenthesis
  have hround : body.toList.count '(' + (shownTokens first).count ")"
      = body.toList.count ')' + (shownTokens first).count "(" := by
    have hsurplus := hsurplus .round
    have hnone : Bracket.surplus .round "[" = 0 := by decide
    rw [hnone] at hsurplus
    simp only [Bracket.surplus, Bracket.surplusOf, Bracket.openingChar, Bracket.closingChar,
      Bracket.opening, Bracket.closing] at hsurplus
    omega
  have hsquare : body.toList.count '[' + (shownTokens first).count "]" + openLiterals first rest
      = body.toList.count ']' + (shownTokens first).count "[" := by
    have hsurplus := hsurplus .square
    have hone : Bracket.surplus .square "[" = 1 := by decide
    rw [hone] at hsurplus
    simp only [Bracket.surplus, Bracket.surplusOf, Bracket.openingChar, Bracket.closingChar,
      Bracket.opening, Bracket.closing] at hsurplus
    omega
  exact ⟨first, rest, hlines, hround, hsquare, by omega⟩

/-- A bracket among the parameters, an expression without an end behind the brace, and a line that closes
a bracket before it opens one. -/
def crookedSource : String := "function f(a[, x) \x7b let y = (a\n  z ] = [ x\n\x7d"

/-- All of it is accepted, and the text has one parenthesis too many. The square brackets even out: one is
open among the parameters and one is lost with the literal. -/
theorem crookedSource_brackets :
    ∃ body s' first rest,
      (fresh {} none).answer (.addEntryPoint crookedSource (.int 1) .none) = (.ok (.body body), s') ∧
      Source.tokenLines crookedSource = first :: rest ∧
      (openLiterals first rest, (shownTokens first).count "(", (shownTokens first).count "[") = (1, 2, 1) ∧
      (body.toList.count '(', body.toList.count ')') = (5, 4) ∧
      body.toList.count '[' + (shownTokens first).count "]" + openLiterals first rest
        = body.toList.count ']' + (shownTokens first).count "[" := by
  have hlines : Source.tokenLines crookedSource
      = [["function", "f", "(", "a", "[", ",", "x", ")", "\x7b", "let", "y", "=", "(", "a"],
        ["z", "]", "=", "[", "x"], ["\x7d"]] := by decide +kernel
  have hbody : ((fresh {} none).answer (.addEntryPoint crookedSource (.int 1) .none)).1.toOption
      = some (.body ("@compute @workgroup_size(1) fn f(a: f32, [: f32, x: f32, " ++
          "@builtin(global_invocation_id) id: vec3<u32>) \x7b var y: f32 = ( a\nz ] = array(x)\n\x7d")) := by
    decide +kernel
  have haccepted := Outcome.eq_ok_of_toOption hbody
  have hadds : (Operation.addEntryPoint crookedSource (.int 1) .none).adds crookedSource := rfl
  obtain ⟨first, rest, hlines', -, hsquare, -⟩ := brackets_of_accepted rfl hadds haccepted
  obtain ⟨rfl, rfl⟩ := List.cons.inj (hlines'.symm.trans hlines)
  exact ⟨_, _, _, _, haccepted, hlines, by decide +kernel, by decide +kernel, hsquare⟩

/-- **An accepted function with a parenthesis that is not closed.** -/
theorem unclosedSource_accepted :
    ∃ body s',
      (fresh {} none).answer (.addFunction "function f(x) \x7b return (x; \x7d" (.text "f32") .none .none)
        = (.ok (.body body), s') ∧
      body.toList.count '(' ≠ body.toList.count ')' := by
  have hbody : ((fresh {} none).answer
      (.addFunction "function f(x) \x7b return (x; \x7d" (.text "f32") .none .none)).1.toOption
        = some (.body "fn f(x: f32) -> f32 \x7b return ( x; \x7d") := by
    decide +kernel
  exact ⟨_, _, Outcome.eq_ok_of_toOption hbody, by decide +kernel⟩

end Session

end KernelShader
