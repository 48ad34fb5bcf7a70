/-
`Dialect.lean` -- what happens to the tokens of a line before its declarations are looked at:
`preprocess`.

Three passes run in this order, each a function on token lists that knows nothing of the others:

* an array literal after `=` becomes one token, `= [1, 2]` turns into `= array(1,2)`;
* the parentheses around what a `switch` looks at go away;
* the qualifier `Math.` goes away.

The current dialect finds the end of a literal and the partner of a parenthesis by nesting. The legacy
dialect ends a literal, and with it the line, at the first `]`, and on a line with `switch` drops the
first parenthesis of each kind wherever it stands. The two agree on lines without such nesting.
-/
import KernelShader.Token
import KernelShader.Fault

set_option autoImplicit false

namespace KernelShader

/-- The two ways of preparing a line. -/
inductive Dialect where
  | current
  | legacy
  deriving DecidableEq, Repr

namespace Dialect

/-! ## Array literals -/

/-- Where a scan for literals stands: outside of any, behind `=` or not, or inside one with the content
so far and the number of brackets open in it. -/
inductive Scan where
  | outside (afterEquals : Bool)
  | inside (content : List Token) (depth : Nat)

/-- Collapses every literal that stands directly after `=`. A literal ends at the bracket that matches
its own, or with the line if there is none. -/
def collapseFrom : Scan → List Token → List Token
  | .outside _, [] => []
  | .inside content _, [] => [Token.ofContent content]
  | .outside afterEquals, t :: ts =>
    if afterEquals && t.reads "[" then collapseFrom (.inside [] 0) ts
    else t :: collapseFrom (.outside (t.reads "=")) ts
  | .inside content depth, t :: ts =>
    if t.reads "]" then
      match depth with
      | 0 => Token.ofContent content :: collapseFrom (.outside false) ts
      | depth + 1 => collapseFrom (.inside (content ++ [t]) depth) ts
    else collapseFrom (.inside (content ++ [t]) (if t.reads "[" then depth + 1 else depth)) ts

/-- Collapses the array literals of a line, matching brackets by nesting (`array_literal_pass`). -/
def collapseLiterals (tokens : List Token) : List Token :=
  collapseFrom (.outside false) tokens

/-- Collapses the first array literal of a line, up to its first closing bracket, and ends the line
there (`legacy_array_literal_pass`). -/
def cutAtLiteral : List Token → List Token
  | e :: b :: ts =>
    if e.reads "=" && b.reads "[" then [e, Token.ofContent (ts.takeWhile (!·.reads "]"))]
    else e :: cutAtLiteral (b :: ts)
  | ts => ts

/-! ## Switch -/

/-- Splits what follows an opening bracket into the part up to the matching closing one and the part
behind it (`_matching`). The number counts the brackets opened since. -/
def splitMatching? (bracket : Bracket) : Nat → List Token → Option (List Token × List Token)
  | _, [] => none
  | depth, t :: ts =>
    let keep (rest : Option (List Token × List Token)) : Option (List Token × List Token) :=
      rest.map fun (inside, behind) => (t :: inside, behind)
    if t.reads bracket.closing then
      match depth with
      | 0 => some ([], ts)
      | depth + 1 => keep (splitMatching? bracket depth ts)
    else if t.reads bracket.opening then keep (splitMatching? bracket (depth + 1) ts)
    else keep (splitMatching? bracket depth ts)

/-- Takes away the parentheses around what the first `switch (` looks at, if they are closed
(`switch_pass`). -/
def unwrapSwitch : List Token → List Token
  | s :: p :: ts =>
    if s.reads "switch" && p.reads "(" then
      match splitMatching? .round 0 ts with
      | some (inside, behind) => s :: inside ++ behind
      | none => s :: p :: ts
    else s :: unwrapSwitch (p :: ts)
  | ts => ts

/-- Takes the first opening and the first closing parenthesis off a line with a `switch`
(`legacy_switch_pass`). -/
def dropFirstParentheses (tokens : List Token) : List Token :=
  if tokens.any (·.reads "switch") then
    (tokens.eraseP (·.reads "(")).eraseP (·.reads ")")
  else tokens

/-! ## Namespaces -/

/-- Takes away every `Math` with the point behind it (`namespace_pass`). -/
def dropNamespace : List Token → List Token
  | m :: p :: ts =>
    if m.reads "Math" && p.reads "." then dropNamespace ts else m :: dropNamespace (p :: ts)
  | ts => ts

/-! ## The passes together -/

/-- The passes of a dialect, in order (`DEFAULT_PASSES` and `LEGACY_PASSES`). -/
def passes : Dialect → List (List Token → List Token)
  | .current => [collapseLiterals, unwrapSwitch, dropNamespace]
  | .legacy => [cutAtLiteral, dropFirstParentheses, dropNamespace]

/-- Sends a line through the passes of a dialect. -/
def prepare (dialect : Dialect) (tokens : List Token) : List Token :=
  dialect.passes.foldl (fun tokens pass => pass tokens) tokens

end Dialect

end KernelShader
