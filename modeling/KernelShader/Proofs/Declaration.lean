/-
`Declaration.lean` -- what passes the check of a function.

A declaration line has a fixed front and, somewhere, a closing parenthesis; where the first one stands
decides what the parameters are. The other lines have to hold as many opening as closing brackets of each
kind, counted as tokens and without regard to their order.

Reading a declaration lets the first closing parenthesis stand anywhere, also in the place of the name. The
check of a whole function does not, although it never looks for that: if the name is a closing parenthesis,
what is behind it begins with the opening one, which is no brace (`ne_closing_of_opensBody`). So the lines
that pass have one shape only, `Shape`, and what is read off them are the parts of that shape.
-/
import KernelShader.Proofs.Outcome
import KernelShader.Declaration

set_option autoImplicit false

namespace KernelShader.Declaration

/-- **What a declaration line is.** -/
theorem parse_eq_ok_iff {line : Line} {declaration : Declaration} :
    parse line = .ok declaration ↔
      ∃ name rest, line = "function" :: name :: "(" :: rest ∧ ")" ∈ line ∧
        declaration = ⟨name, ((front line).drop 3).filter (· != ","), behind line⟩ := by
  match line with
  | [] => simp [parse]
  | [_] => simp [parse]
  | keyword :: name :: rest =>
    constructor
    · intro h
      simp only [parse] at h
      split_ifs at h with hkeyword hopening hclosing
      obtain ⟨more, rfl⟩ := List.head?_eq_some_iff.mp (not_not.mp hopening)
      exact ⟨name, more, by rw [not_not.mp hkeyword], hclosing, (Except.ok.inj h).symm⟩
    · rintro ⟨name', more, hline, hclosing, rfl⟩
      obtain ⟨hkeyword, hname, hrest⟩ : keyword = "function" ∧ name = name' ∧ rest = "(" :: more := by
        simpa using hline
      have hopening : rest.head? = some "(" := by rw [hrest, List.head?_cons]
      simp only [parse, hkeyword, hopening, hname, ne_eq, not_true_eq_false, if_false]
      rw [hkeyword, hname] at hclosing
      rw [if_neg (not_not.mpr hclosing)]

theorem length_tail_le {line : Line} {declaration : Declaration} (h : parse line = .ok declaration) :
    declaration.tail.length ≤ line.length := by
  obtain ⟨name, rest, -, -, rfl⟩ := parse_eq_ok_iff.mp h
  exact ((List.drop_sublist 1 _).trans (List.dropWhile_sublist _)).length_le

/-- A line balances if it does so for both kinds. -/
theorem imbalance?_eq_none_iff {line : Line} :
    imbalance? line = none ↔ ∀ b : Bracket, line.count b.opening = line.count b.closing := by
  unfold imbalance? balances
  rw [List.find?_eq_none]
  constructor
  · intro h b
    have hb : b ∈ [Bracket.round, Bracket.square] := by
      cases b with
      | round => simp
      | square => simp
    simpa using h b hb
  · intro h b _
    simp [h b]

theorem checkBalance_eq_ok_iff {number : Nat} {lines : List Line} :
    checkBalance number lines = .ok () ↔
      ∀ line ∈ lines, ∀ b : Bracket, line.count b.opening = line.count b.closing := by
  induction lines generalizing number with
  | nil => simp [checkBalance]
  | cons line rest ih =>
    rw [List.forall_mem_cons, ← imbalance?_eq_none_iff, checkBalance]
    cases h : imbalance? line with
    | none => simp [ih]
    | some b => simp

/-! ## The whole check -/

/-- What may follow the parameter list: nothing, or the brace that opens the body. -/
def OpensBody (tail : Line) : Prop := tail = [] ∨ tail.head? = some "\x7b"

/-- **The check in its parts.** -/
theorem check_cons_eq_ok_iff {first : Line} {rest : List Line} :
    check (first :: rest) = .ok () ↔
      (∃ declaration, parse first = .ok declaration ∧ OpensBody declaration.tail) ∧
        ∀ line ∈ rest, ∀ b : Bracket, line.count b.opening = line.count b.closing := by
  rw [← @checkBalance_eq_ok_iff 1, check, Check.bind_eq_ok_iff]
  constructor
  · rintro ⟨declaration, hparse, h⟩
    cases htail : declaration.tail with
    | nil => rw [htail] at h; exact ⟨⟨declaration, hparse, .inl htail⟩, h⟩
    | cons token more =>
      rw [htail] at h
      by_cases htoken : token = "\x7b"
      · refine ⟨⟨declaration, hparse, .inr (by rw [htail, htoken, List.head?_cons])⟩, ?_⟩
        simpa [htoken] using h
      · simp only [ne_eq, htoken, not_false_eq_true, if_true] at h
        obtain ⟨_, hthrown, -⟩ := Check.bind_eq_ok_iff.mp h
        simp [throw, throwThe, MonadExceptOf.throw] at hthrown
  · rintro ⟨⟨declaration, hparse, hopens⟩, hbalance⟩
    refine ⟨declaration, hparse, ?_⟩
    rcases hopens with htail | hbrace
    · rw [htail]; exact hbalance
    · obtain ⟨more, htail⟩ := List.head?_eq_some_iff.mp hbrace
      rw [htail]; simpa using hbalance

/-- A source that passes the check has a declaration line, and the lines behind it balance. -/
theorem balanced_of_check {lines : List Line} (h : check lines = .ok ()) :
    ∃ first rest, lines = first :: rest ∧
      ∀ line ∈ rest, ∀ b : Bracket, line.count b.opening = line.count b.closing := by
  cases lines with
  | nil => simp [check] at h
  | cons first rest => exact ⟨first, rest, rfl, (check_cons_eq_ok_iff.mp h).2⟩

/-! ## The shape of a declaration line -/

/-- A declaration line: a name, what stands between its parentheses, and what follows them. -/
structure Shape (line : Line) (name : String) (inside tail : Line) : Prop where
  line_eq : line = "function" :: name :: "(" :: (inside ++ ")" :: tail)
  name_ne : name ≠ ")"
  not_mem : ")" ∉ inside
  opens : OpensBody tail

/-- A closing parenthesis in the place of the name leaves a tail that begins with the opening one. -/
theorem ne_closing_of_opensBody {name : String} {rest : Line}
    (h : OpensBody (behind ("function" :: name :: "(" :: rest))) : name ≠ ")" := by
  rintro rfl
  have htail : behind ("function" :: ")" :: "(" :: rest) = "(" :: rest := by simp [behind]
  rw [htail] at h
  simp [OpensBody] at h

/-- If the name is not a closing parenthesis, the first one of the line is behind the opening one. -/
theorem front_and_behind {name : String} {inside : Line} (hname : name ≠ ")") (hinside : ")" ∉ inside)
    (tail : Line) :
    front ("function" :: name :: "(" :: (inside ++ ")" :: tail)) = "function" :: name :: "(" :: inside ∧
      behind ("function" :: name :: "(" :: (inside ++ ")" :: tail)) = tail := by
  have hother : ∀ token ∈ "function" :: name :: "(" :: inside, (token != ")") = true := by
    intro token htoken
    rcases List.mem_cons.mp htoken with rfl | htoken
    · decide
    rcases List.mem_cons.mp htoken with rfl | htoken
    · simpa using hname
    rcases List.mem_cons.mp htoken with rfl | htoken
    · decide
    · simpa using fun heq : token = ")" => hinside (heq ▸ htoken)
  have hline : "function" :: name :: "(" :: (inside ++ ")" :: tail)
      = ("function" :: name :: "(" :: inside) ++ ")" :: tail := by simp
  rw [hline]
  constructor
  · rw [front, List.takeWhile_append_of_pos hother, List.takeWhile_cons_of_neg (by simp), List.append_nil]
  · rw [behind, List.dropWhile_append_of_pos hother, List.dropWhile_cons_of_neg (by simp)]
    rfl

/-- Reading a line of the shape gives its parts. -/
theorem Shape.parse_eq {line inside tail : Line} {name : String} (h : Shape line name inside tail) :
    parse line = .ok ⟨name, inside.filter (· != ","), tail⟩ := by
  obtain ⟨hfront, hbehind⟩ := front_and_behind h.name_ne h.not_mem tail
  rw [← h.line_eq] at hfront hbehind
  refine parse_eq_ok_iff.mpr ⟨name, inside ++ ")" :: tail, h.line_eq, by simp [h.line_eq], ?_⟩
  rw [hfront, hbehind]
  rfl

theorem Shape.tailOf_eq {line inside tail : Line} {name : String} (h : Shape line name inside tail) :
    tailOf line = .ok tail := by
  have hclosing : ")" ∈ line := by simp [h.line_eq]
  rw [tailOf, if_pos hclosing, h.line_eq, (front_and_behind h.name_ne h.not_mem tail).2]

/-- A line that can be read and opens a body at most has the shape. -/
theorem exists_shape_iff {line : Line} :
    (∃ declaration, parse line = .ok declaration ∧ OpensBody declaration.tail) ↔
      ∃ name inside tail, Shape line name inside tail := by
  constructor
  · rintro ⟨declaration, hparse, hopens⟩
    obtain ⟨name, rest, rfl, hclosing, rfl⟩ := parse_eq_ok_iff.mp hparse
    have hname : name ≠ ")" := ne_closing_of_opensBody hopens
    -- neither the keyword nor the name nor the opening parenthesis closes the list
    have hrest : ")" ∈ rest := by simpa [hname.symm] using hclosing
    obtain ⟨inside, tail, rfl, hinside⟩ := List.eq_append_cons_of_mem hrest
    rw [(front_and_behind hname hinside tail).2] at hopens
    exact ⟨name, inside, tail, rfl, hname, hinside, hopens⟩
  · rintro ⟨name, inside, tail, h⟩
    exact ⟨_, h.parse_eq, h.opens⟩

/-- **What passes the check.** A source passes exactly if it has a first line of the shape and every later
line has as many opening as closing brackets of both kinds. From a first line of the shape its name is
read, its parameters without the commas, and what follows them. -/
theorem check_accepts_grammar :
    (∀ lines : List Line, check lines = .ok () ↔
      ∃ first rest, lines = first :: rest ∧ (∃ name inside tail, Shape first name inside tail) ∧
        ∀ line ∈ rest, line.count "(" = line.count ")" ∧ line.count "[" = line.count "]") ∧
    ∀ (line : Line) (name : String) (inside tail : Line), Shape line name inside tail →
      parse line = .ok ⟨name, inside.filter (· != ","), tail⟩ ∧ tailOf line = .ok tail := by
  have hkinds : ∀ line : Line, (∀ b : Bracket, line.count b.opening = line.count b.closing) ↔
      line.count "(" = line.count ")" ∧ line.count "[" = line.count "]" := by
    intro line
    refine ⟨fun h => ⟨h .round, h .square⟩, fun h b => ?_⟩
    cases b with
    | round => exact h.1
    | square => exact h.2
  refine ⟨fun lines => ?_, fun line name inside tail h => ⟨h.parse_eq, h.tailOf_eq⟩⟩
  cases lines with
  | nil => simp [check]
  | cons first rest => simp [check_cons_eq_ok_iff, exists_shape_iff, hkinds]

/-- At a function of two lines whose second parameter looks like a member access. -/
theorem pointedParameter_accepted :
    check [["function", "f", "(", "a", ",", "b", ".", "c", ")", "\x7b"], ["(", "x", "[", "]", ")"]] = .ok () ∧
      parse ["function", "f", "(", "a", ",", "b", ".", "c", ")", "\x7b"]
        = .ok ⟨"f", ["a", "b", ".", "c"], ["\x7b"]⟩ ∧
      tailOf ["function", "f", "(", "a", ",", "b", ".", "c", ")", "\x7b"] = .ok ["\x7b"] := by
  have hshape : Shape ["function", "f", "(", "a", ",", "b", ".", "c", ")", "\x7b"] "f"
      ["a", ",", "b", ".", "c"] ["\x7b"] := ⟨rfl, by decide, by decide, .inr rfl⟩
  refine ⟨(check_accepts_grammar.1 _).mpr ⟨_, _, rfl, ⟨_, _, _, hshape⟩, by decide⟩, ?_⟩
  exact check_accepts_grammar.2 _ _ _ _ hshape

end KernelShader.Declaration
