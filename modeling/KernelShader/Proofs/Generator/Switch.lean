/-
`Switch.lean` -- which parentheses a `switch` loses.

The second pass looks for the first parenthesis that directly follows a `switch`, and from there for its
partner, keeping count of how many are open. What it finds can be said without a search. The partner of a
bracket is the first position up to which, from the bracket on, as many are closed as are opened
(`ClosesAt`), whatever other brackets stand before, between or behind; and the pass takes the two positions
out of the line and leaves it alone if there is no such pair (`unwrapSwitch_removes_own_pair`).
-/
import KernelShader.Proofs.Generator.Brackets

set_option autoImplicit false

namespace KernelShader

/-! ## Partners by counting -/

namespace Bracket

/-- In front of the line `depth` brackets are open, and one more, which the bracket at the position closes:
it is the first up to which the brackets opened since and that one are closed. -/
structure ClosesAt (b : Bracket) (depth : Nat) (line : Line) (q : Nat) : Prop where
  lt : q < line.length
  even : depth + 1 + (line.take (q + 1)).count b.opening = (line.take (q + 1)).count b.closing
  least : ∀ k < q, depth + 1 + (line.take (k + 1)).count b.opening ≠ (line.take (k + 1)).count b.closing

variable {b : Bracket} {depth depth' : Nat} {token : String} {line : Line} {q : Nat}

theorem opening_ne_closing (b : Bracket) : b.opening ≠ b.closing := by
  cases b with
  | round => decide
  | square => decide

theorem not_closesAt_nil : ¬ b.ClosesAt depth [] q := fun h => absurd h.lt (Nat.not_lt_zero q)

/-- A closing bracket closes what is open, if nothing has been opened since. -/
theorem closesAt_zero_iff : b.ClosesAt 0 (b.closing :: line) q ↔ q = 0 := by
  have hfirst : 0 + 1 + ((b.closing :: line).take 1).count b.opening
      = ((b.closing :: line).take 1).count b.closing := by
    simp [b.opening_ne_closing.symm]
  constructor
  · intro h
    by_contra hq
    exact h.least 0 (Nat.pos_of_ne_zero hq) hfirst
  · rintro rfl
    exact ⟨Nat.succ_pos _, hfirst, fun k hk => absurd hk (Nat.not_lt_zero k)⟩

/-- Any other token is passed by, and changes how many brackets are open. -/
theorem closesAt_cons_iff
    (h : depth + (if token = b.opening then 1 else 0) = depth' + if token = b.closing then 1 else 0) :
    b.ClosesAt depth (token :: line) q ↔ ∃ k, q = k + 1 ∧ b.ClosesAt depth' line k := by
  -- the two counts differ by the same with and without the token
  have hcount : ∀ k, depth + 1 + ((token :: line).take (k + 1)).count b.opening
        = ((token :: line).take (k + 1)).count b.closing ↔
      depth' + 1 + (line.take k).count b.opening = (line.take k).count b.closing := by
    intro k
    simp only [List.take_succ_cons, List.count_cons, beq_iff_eq]
    omega
  constructor
  · rintro ⟨hlt, heven, hleast⟩
    cases q with
    | zero =>
      have hnone := (hcount 0).mp heven
      simp at hnone
    | succ k =>
      refine ⟨k, rfl, Nat.lt_of_succ_lt_succ hlt, (hcount (k + 1)).mp heven, ?_⟩
      intro j hj
      exact mt (hcount (j + 1)).mpr (hleast (j + 1) (Nat.succ_lt_succ hj))
  · rintro ⟨k, rfl, hlt, heven, hleast⟩
    refine ⟨Nat.succ_lt_succ hlt, (hcount (k + 1)).mpr heven, ?_⟩
    intro j hj
    cases j with
    | zero =>
      intro hnone
      have hnone := (hcount 0).mp hnone
      simp at hnone
    | succ j => exact mt (hcount (j + 1)).mp (hleast j (Nat.lt_of_succ_lt_succ hj))

end Bracket

/-! ## The search for a partner -/

namespace Dialect

/-- **The search finds the partner.** It cuts the line at the position that closes the bracket, and fails if
there is none. -/
theorem splitMatching?_eq_some_iff {b : Bracket} {depth : Nat} {ts inside behind : List Token} :
    splitMatching? b depth ts = some (inside, behind) ↔
      ∃ q, b.ClosesAt depth (Token.toLine ts) q ∧ inside = ts.take q ∧ behind = ts.drop (q + 1) := by
  induction ts generalizing depth inside with
  | nil =>
    constructor
    · intro h
      simp [splitMatching?] at h
    · rintro ⟨q, hq, -⟩
      exact absurd hq Bracket.not_closesAt_nil
  | cons t ts ih =>
    have hkept : ∀ depth',
        depth + (if t.text = b.opening then 1 else 0) = depth' + (if t.text = b.closing then 1 else 0) →
        ((splitMatching? b depth' ts).map (fun p => (t :: p.1, p.2)) = some (inside, behind) ↔
          ∃ q, b.ClosesAt depth (Token.toLine (t :: ts)) q ∧
            inside = (t :: ts).take q ∧ behind = (t :: ts).drop (q + 1)) := by
      intro depth' hdepth
      rw [Option.map_eq_some_iff, Token.toLine_cons]
      simp only [Bracket.closesAt_cons_iff hdepth]
      constructor
      · rintro ⟨⟨inner, outer⟩, hfound, hpair⟩
        obtain ⟨rfl, rfl⟩ := Prod.mk.inj hpair
        obtain ⟨q, hq, rfl, rfl⟩ := ih.mp hfound
        exact ⟨q + 1, ⟨q, rfl, hq⟩, rfl, rfl⟩
      · rintro ⟨_, ⟨q, rfl, hq⟩, rfl, rfl⟩
        exact ⟨(ts.take q, ts.drop (q + 1)), ih.mpr ⟨q, hq, rfl, rfl⟩, rfl⟩
    rw [splitMatching?.eq_def]
    simp only
    by_cases hclosing : t.text = b.closing
    · have hopening : t.text ≠ b.opening := hclosing ▸ b.opening_ne_closing.symm
      have hreads : t.reads b.closing = true := beq_iff_eq.mpr hclosing
      rw [if_pos hreads]
      cases depth with
      | zero =>
        simp only [Token.toLine_cons, hclosing, Bracket.closesAt_zero_iff, exists_eq_left, List.take_zero,
          Option.some.injEq, Prod.mk.injEq, eq_comm, List.drop_succ_cons, List.drop_zero]
      | succ depth => exact hkept depth (by rw [if_neg hopening, if_pos hclosing])
    · rw [if_neg fun h => hclosing (Token.text_of_reads h)]
      by_cases hopening : t.text = b.opening
      · have hreads : t.reads b.opening = true := beq_iff_eq.mpr hopening
        rw [if_pos hreads]
        exact hkept (depth + 1) (by rw [if_pos hopening, if_neg hclosing])
      · rw [if_neg fun h => hopening (Token.text_of_reads h)]
        exact hkept depth (by rw [if_neg hopening, if_neg hclosing])

end Dialect

/-! ## The parentheses of a switch -/

namespace Line

/-- At the position, a parenthesis directly follows a `switch`. -/
def OpensSwitch (tokens : Line) (p : Nat) : Prop :=
  0 < p ∧ tokens[p - 1]? = some "switch" ∧ tokens[p]? = some "("

/-- The tokens between two positions, both included. -/
def stretch (line : Line) (p q : Nat) : Line := (line.take (q + 1)).drop p

/-- The parentheses of the first `switch` that has any: `p` is the first position where one follows a
`switch`, and `q` the first behind it up to which, from `p` on, as many are closed as are opened. -/
structure SwitchPair (line : Line) (p q : Nat) : Prop where
  opens : line.OpensSwitch p
  first : ∀ k < p, ¬ line.OpensSwitch k
  after : p < q
  within : q < line.length
  even : (line.stretch p q).count "(" = (line.stretch p q).count ")"
  least : ∀ k < q, p < k → (line.stretch p k).count "(" ≠ (line.stretch p k).count ")"

variable {token : String} {line : Line} {p q : Nat}

instance : Decidable (line.OpensSwitch p) := inferInstanceAs (Decidable (_ ∧ _))

instance : Decidable (line.SwitchPair p q) :=
  decidable_of_iff
    (line.OpensSwitch p ∧ (∀ k < p, ¬ line.OpensSwitch k) ∧ p < q ∧ q < line.length ∧
      (line.stretch p q).count "(" = (line.stretch p q).count ")" ∧
      ∀ k < q, p < k → (line.stretch p k).count "(" ≠ (line.stretch p k).count ")")
    ⟨fun ⟨hopens, hfirst, hafter, hwithin, heven, hleast⟩ =>
        ⟨hopens, hfirst, hafter, hwithin, heven, hleast⟩,
      fun h => ⟨h.opens, h.first, h.after, h.within, h.even, h.least⟩⟩

theorem opensSwitch_cons_succ (hp : 0 < p) :
    OpensSwitch (token :: line) (p + 1) ↔ line.OpensSwitch p := by
  obtain ⟨k, rfl⟩ := Nat.exists_eq_add_one.mpr hp
  simp [OpensSwitch]

theorem opensSwitch_one : OpensSwitch (token :: line) 1 ↔ token = "switch" ∧ line.head? = some "(" := by
  simp [OpensSwitch, List.head?_eq_getElem?]

theorem not_opensSwitch_zero : ¬ line.OpensSwitch 0 := fun h => absurd h.1 (Nat.lt_irrefl 0)

/-- Where the line does not begin with the pair, its first token does not matter. -/
theorem switchPair_cons_iff (h : ¬ (token = "switch" ∧ line.head? = some "(")) :
    SwitchPair (token :: line) p q ↔ ∃ p' q', p = p' + 1 ∧ q = q' + 1 ∧ line.SwitchPair p' q' := by
  have hopens : ∀ k, OpensSwitch (token :: line) (k + 1) ↔ line.OpensSwitch k := by
    intro k
    cases k with
    | zero => exact iff_of_false (mt opensSwitch_one.mp h) not_opensSwitch_zero
    | succ k => exact opensSwitch_cons_succ k.succ_pos
  have hstretch : ∀ j k, stretch (token :: line) (j + 1) (k + 1) = line.stretch j k := fun _ _ => rfl
  constructor
  · rintro ⟨hopen, hfirst, hafter, hwithin, heven, hleast⟩
    obtain ⟨p', rfl⟩ := Nat.exists_eq_add_one.mpr hopen.1
    obtain ⟨q', rfl⟩ := Nat.exists_eq_add_one.mpr (Nat.zero_lt_of_lt hafter)
    refine ⟨p', q', rfl, rfl, (hopens p').mp hopen, ?_, Nat.lt_of_succ_lt_succ hafter,
      Nat.lt_of_succ_lt_succ hwithin, heven, ?_⟩
    · intro k hk
      exact mt (hopens k).mpr (hfirst (k + 1) (Nat.succ_lt_succ hk))
    · intro k hkq hk
      exact hleast (k + 1) (Nat.succ_lt_succ hkq) (Nat.succ_lt_succ hk)
  · rintro ⟨p', q', rfl, rfl, hopen, hfirst, hafter, hwithin, heven, hleast⟩
    refine ⟨(hopens p').mpr hopen, ?_, Nat.succ_lt_succ hafter, Nat.succ_lt_succ hwithin, heven, ?_⟩
    · intro k hk
      cases k with
      | zero => exact not_opensSwitch_zero
      | succ k => exact mt (hopens k).mp (hfirst k (Nat.lt_of_succ_lt_succ hk))
    · intro k hkq hk
      obtain ⟨k', rfl⟩ := Nat.exists_eq_add_one.mpr (Nat.zero_lt_of_lt hk)
      exact hleast k' (Nat.lt_of_succ_lt_succ hkq) (Nat.lt_of_succ_lt_succ hk)

/-- Where the line begins with the pair, the partner is looked for behind it. -/
theorem switchPair_switch_iff :
    SwitchPair ("switch" :: "(" :: line) p q ↔ p = 1 ∧ ∃ k, q = k + 2 ∧ Bracket.ClosesAt .round 0 line k := by
  have hopen : OpensSwitch ("switch" :: "(" :: line) 1 := opensSwitch_one.mpr ⟨rfl, rfl⟩
  have hcount : ∀ k, (stretch ("switch" :: "(" :: line) 1 (k + 2)).count "("
        = (stretch ("switch" :: "(" :: line) 1 (k + 2)).count ")" ↔
      0 + 1 + (line.take (k + 1)).count "(" = (line.take (k + 1)).count ")" := by
    intro k
    have hstretch : stretch ("switch" :: "(" :: line) 1 (k + 2) = "(" :: line.take (k + 1) := rfl
    rw [hstretch, List.count_cons_self, List.count_cons_of_ne (by decide)]
    omega
  constructor
  · rintro ⟨hopens, hfirst, hafter, hwithin, heven, hleast⟩
    obtain rfl : p = 1 := by
      by_contra hp
      exact hfirst 1 (by have := hopens.1; omega) hopen
    obtain ⟨k, rfl⟩ := Nat.exists_eq_add_of_le' hafter
    refine ⟨rfl, k, rfl, by simpa using hwithin, (hcount k).mp heven, ?_⟩
    intro j hj
    exact mt (hcount j).mpr (hleast (j + 2) (by omega) (by omega))
  · rintro ⟨rfl, k, rfl, hlt, heven, hleast⟩
    refine ⟨hopen, ?_, by omega, by simpa using hlt, (hcount k).mpr heven, ?_⟩
    · intro j hj
      obtain rfl : j = 0 := by omega
      exact not_opensSwitch_zero
    · intro j hjk hj
      obtain ⟨i, rfl⟩ := Nat.exists_eq_add_of_le' hj
      exact mt (hcount i).mp (hleast i (by omega))

theorem not_switchPair_of_short (h : line.length ≤ 1) : ¬ line.SwitchPair p q := by
  rintro ⟨hopens, -, hafter, hwithin, -⟩
  have hp := hopens.1
  omega

end Line

namespace Dialect

open Line

/-- A line that begins with `switch` and its parenthesis. -/
theorem unwrapSwitch_opening {s p : Token} (hs : s.text = "switch") (hp : p.text = "(") (ts : List Token) :
    (∀ k, Bracket.ClosesAt .round 0 (Token.toLine ts) k → unwrapSwitch (s :: p :: ts) = s :: ts.eraseIdx k) ∧
      ((¬ ∃ k, Bracket.ClosesAt .round 0 (Token.toLine ts) k) →
        unwrapSwitch (s :: p :: ts) = s :: p :: ts) := by
  have hswitch : (s.reads "switch" && p.reads "(") = true := by simp [Token.reads, hs, hp]
  rw [unwrapSwitch, if_pos hswitch]
  constructor
  · intro k hk
    rw [splitMatching?_eq_some_iff.mpr ⟨k, hk, rfl, rfl⟩, List.eraseIdx_eq_take_drop_succ]
    rfl
  · intro hnone
    cases hfound : splitMatching? .round 0 ts with
    | none => rfl
    | some found =>
      obtain ⟨k, hk, -⟩ := splitMatching?_eq_some_iff.mp hfound
      exact absurd ⟨k, hk⟩ hnone

/-- Any other line keeps its first token. -/
theorem unwrapSwitch_other {t : Token} {ts : List Token}
    (h : ¬ (t.text = "switch" ∧ (Token.toLine ts).head? = some "(")) :
    unwrapSwitch (t :: ts) = t :: unwrapSwitch ts := by
  cases ts with
  | nil => rfl
  | cons next ts =>
    have hother : ¬ (t.reads "switch" && next.reads "(") = true := by simpa [Token.reads] using h
    rw [unwrapSwitch, if_neg hother]

/-- **A switch loses its own parentheses.** If a parenthesis directly follows a `switch`, and the first that
does is closed, then the line loses this parenthesis and the one that closes it, and everything else stays in
order. In every other case the line stays as it is. -/
theorem unwrapSwitch_removes_own_pair (ts : List Token) :
    (∀ p q, (Token.toLine ts).SwitchPair p q → unwrapSwitch ts = (ts.eraseIdx q).eraseIdx p) ∧
      ((¬ ∃ p q, (Token.toLine ts).SwitchPair p q) → unwrapSwitch ts = ts) := by
  induction ts with
  | nil => exact ⟨fun p q hpair => absurd hpair (not_switchPair_of_short (by simp)), fun _ => rfl⟩
  | cons s ts ih =>
    by_cases hhead : s.text = "switch" ∧ (Token.toLine ts).head? = some "("
    · -- the pair is here or nowhere, since this is the first parenthesis behind a `switch`
      obtain ⟨hs, hopening⟩ := hhead
      obtain ⟨behind, hbehind⟩ := List.head?_eq_some_iff.mp hopening
      obtain ⟨p, rest, rfl, hp, rfl⟩ := List.map_eq_cons_iff.mp hbehind
      rw [Token.toLine_cons, Token.toLine_cons, hs, hp]
      simp only [switchPair_switch_iff]
      constructor
      · rintro _ _ ⟨rfl, k, rfl, hk⟩
        rw [(unwrapSwitch_opening hs hp rest).1 k hk]
        rfl
      · intro hnone
        refine (unwrapSwitch_opening hs hp rest).2 ?_
        rintro ⟨k, hk⟩
        exact hnone ⟨1, k + 2, rfl, k, rfl, hk⟩
    · rw [Token.toLine_cons, unwrapSwitch_other hhead]
      simp only [switchPair_cons_iff hhead]
      constructor
      · rintro _ _ ⟨p', q', rfl, rfl, hpair⟩
        rw [ih.1 p' q' hpair]
        rfl
      · intro hnone
        rw [ih.2]
        rintro ⟨p', q', hpair⟩
        exact hnone ⟨p' + 1, q' + 1, p', q', rfl, rfl, hpair⟩

/-- With parentheses before, inside and behind the pair and a second `switch`, and with one that is not
closed. -/
theorem nestedSwitch_loses_pair :
    SwitchPair ["f", "(", "a", ")", "switch", "(", "g", "(", "x", ")", ")", "\x7b", "switch", "(", "y", ")"] 5 10 ∧
      unwrapSwitch (Token.ofLine
          ["f", "(", "a", ")", "switch", "(", "g", "(", "x", ")", ")", "\x7b", "switch", "(", "y", ")"])
        = Token.ofLine ["f", "(", "a", ")", "switch", "g", "(", "x", ")", "\x7b", "switch", "(", "y", ")"] ∧
      (¬ ∃ p q, SwitchPair ["switch", "(", "x", "(", ")"] p q) ∧
      unwrapSwitch (Token.ofLine ["switch", "(", "x", "(", ")"])
        = Token.ofLine ["switch", "(", "x", "(", ")"] := by
  have hpair : SwitchPair
      ["f", "(", "a", ")", "switch", "(", "g", "(", "x", ")", ")", "\x7b", "switch", "(", "y", ")"] 5 10 := by
    decide
  have hnone : ¬ ∃ p q, SwitchPair ["switch", "(", "x", "(", ")"] p q := by
    rintro ⟨p, q, h⟩
    have hall : ∀ q < 5, ∀ p < q, ¬ SwitchPair ["switch", "(", "x", "(", ")"] p q := by decide
    exact hall q h.within p h.after h
  exact ⟨hpair, (unwrapSwitch_removes_own_pair _).1 5 10 hpair, hnone,
    (unwrapSwitch_removes_own_pair _).2 hnone⟩

end Dialect

end KernelShader
