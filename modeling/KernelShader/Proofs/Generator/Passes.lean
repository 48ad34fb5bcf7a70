/-
`Passes.lean` -- what the passes behind the first do to a line.

Both only take tokens away. The second takes a parenthesis and its partner out of the line, and no other
token (`unwrapSwitch_cases`); on a line with something behind it the partner may be further back than the
line reaches (`unwrapSwitch_append`). The third takes every `Math` with its point, so it can be done in
pieces wherever a piece does not begin with a point (`dropNamespace_append`).
-/
import KernelShader.Dialect

set_option autoImplicit false

namespace KernelShader

theorem Token.text_of_reads {t : Token} {text : String} (h : t.reads text = true) : t.text = text :=
  eq_of_beq h

namespace Dialect

/-! ## Partners -/

/-- What is found is a closing bracket, and around it is the line. -/
theorem exists_of_splitMatching? {bracket : Bracket} {depth : Nat} {ts inside behind : List Token}
    (h : splitMatching? bracket depth ts = some (inside, behind)) :
    ∃ closing : Token, closing.text = bracket.closing ∧ ts = inside ++ closing :: behind := by
  induction ts generalizing depth inside with
  | nil => simp [splitMatching?] at h
  | cons t ts ih =>
    -- unless the token is the partner, it goes to the inside, whatever it does to the depth
    have hkept : ∀ depth,
        (splitMatching? bracket depth ts).map (fun p => (t :: p.1, p.2)) = some (inside, behind) →
        ∃ closing : Token, closing.text = bracket.closing ∧ t :: ts = inside ++ closing :: behind := by
      intro depth hsome
      obtain ⟨found, hfound, hpair⟩ := Option.map_eq_some_iff.mp hsome
      obtain ⟨rfl, rfl⟩ := Prod.mk.inj hpair
      obtain ⟨closing, hclosing, hts⟩ := ih hfound
      exact ⟨closing, hclosing, by rw [hts]; rfl⟩
    rw [splitMatching?.eq_def] at h
    simp only at h
    by_cases hclosing : t.reads bracket.closing = true
    · rw [if_pos hclosing] at h
      cases depth with
      | zero =>
        obtain ⟨rfl, rfl⟩ := Prod.mk.inj (Option.some.inj h)
        exact ⟨t, Token.text_of_reads hclosing, rfl⟩
      | succ depth => exact hkept depth h
    · rw [if_neg hclosing] at h
      by_cases hopening : t.reads bracket.opening = true
      · rw [if_pos hopening] at h
        exact hkept (depth + 1) h
      · rw [if_neg hopening] at h
        exact hkept depth h

/-- On a line with something behind it, the partner is the one of the line, or else it is looked for
behind the line. -/
theorem splitMatching?_append (bracket : Bracket) (depth : Nat) (ts us : List Token) :
    (∃ inside behind, splitMatching? bracket depth ts = some (inside, behind) ∧
        splitMatching? bracket depth (ts ++ us) = some (inside, behind ++ us)) ∨
      splitMatching? bracket depth ts = none ∧
        ∃ deeper, splitMatching? bracket depth (ts ++ us)
          = (splitMatching? bracket deeper us).map fun p => (ts ++ p.1, p.2) := by
  induction ts generalizing depth with
  | nil => exact .inr ⟨rfl, depth, by simp⟩
  | cons t ts ih =>
    have hkept : ∀ depth,
        (∃ inside behind,
          (splitMatching? bracket depth ts).map (fun p => (t :: p.1, p.2)) = some (inside, behind) ∧
          (splitMatching? bracket depth (ts ++ us)).map (fun p => (t :: p.1, p.2))
            = some (inside, behind ++ us)) ∨
        (splitMatching? bracket depth ts).map (fun p => (t :: p.1, p.2)) = none ∧
          ∃ deeper, (splitMatching? bracket depth (ts ++ us)).map (fun p => (t :: p.1, p.2))
            = (splitMatching? bracket deeper us).map fun p => (t :: ts ++ p.1, p.2) := by
      intro depth
      rcases ih depth with ⟨inside, behind, hfound, happend⟩ | ⟨hnone, deeper, happend⟩
      · exact .inl ⟨t :: inside, behind, by rw [hfound]; rfl, by rw [happend]; rfl⟩
      · refine .inr ⟨by rw [hnone]; rfl, deeper, ?_⟩
        rw [happend, Option.map_map]
        rfl
    rw [List.cons_append, splitMatching?.eq_def, splitMatching?.eq_def bracket depth (t :: (ts ++ us))]
    simp only
    by_cases hclosing : t.reads bracket.closing = true
    · rw [if_pos hclosing, if_pos hclosing]
      cases depth with
      | zero => exact .inl ⟨[], ts, rfl, rfl⟩
      | succ depth => exact hkept depth
    · rw [if_neg hclosing, if_neg hclosing]
      by_cases hopening : t.reads bracket.opening = true
      · rw [if_pos hopening, if_pos hopening]
        exact hkept (depth + 1)
      · rw [if_neg hopening, if_neg hopening]
        exact hkept depth

/-! ## The second pass -/

/-- **The second pass.** It leaves the line as it is, or takes a parenthesis behind `switch` and a closing
one out of it. -/
theorem unwrapSwitch_cases (tokens : List Token) :
    unwrapSwitch tokens = tokens ∨
      ∃ (front inside behind : List Token) (s p closing : Token),
        s.text = "switch" ∧ p.text = "(" ∧ closing.text = ")" ∧
        tokens = front ++ s :: p :: (inside ++ closing :: behind) ∧
        unwrapSwitch tokens = front ++ s :: (inside ++ behind) := by
  fun_induction unwrapSwitch tokens with
  | case1 s p ts hswitch inside behind hfound =>
    obtain ⟨hs, hp⟩ := Bool.and_eq_true_iff.mp hswitch
    obtain ⟨closing, hclosing, rfl⟩ := exists_of_splitMatching? hfound
    exact .inr ⟨[], inside, behind, s, p, closing, Token.text_of_reads hs, Token.text_of_reads hp, hclosing,
      rfl, rfl⟩
  | case2 => exact .inl rfl
  | case3 first p ts hother ih =>
    rcases ih with hsame | ⟨front, inside, behind, s, q, closing, hs, hq, hclosing, htokens, hresult⟩
    · exact .inl (by rw [hsame])
    · exact .inr ⟨first :: front, inside, behind, s, q, closing, hs, hq, hclosing, by rw [htokens]; rfl,
        by rw [hresult]; rfl⟩
  | case4 => exact .inl rfl

theorem unwrapSwitch_cons {t : Token} (h : t.text ≠ "switch") (tokens : List Token) :
    unwrapSwitch (t :: tokens) = t :: unwrapSwitch tokens := by
  cases tokens with
  | nil => rfl
  | cons p tokens =>
    have hother : ¬ (t.reads "switch" && p.reads "(") = true := by simp [Token.reads, h]
    rw [unwrapSwitch, if_neg hother]

theorem unwrapSwitch_cons_cons (t : Token) {next : Token} (h : next.text ≠ "(") (tokens : List Token) :
    unwrapSwitch (t :: next :: tokens) = t :: unwrapSwitch (next :: tokens) := by
  have hother : ¬ (t.reads "switch" && next.reads "(") = true := by simp [Token.reads, h]
  rw [unwrapSwitch, if_neg hother]

/-- A parenthesis of the front goes together with a partner in the back. -/
def Straddles (front back result : List Token) : Prop :=
  ∃ (before inside between behind : List Token) (s p closing : Token),
    s.text = "switch" ∧ p.text = "(" ∧ closing.text = ")" ∧ front = before ++ s :: p :: inside ∧
    back = between ++ closing :: behind ∧ result = before ++ s :: inside ++ (between ++ behind)

theorem Straddles.cons {front back result : List Token} (h : Straddles front back result) (t : Token) :
    Straddles (t :: front) back (t :: result) := by
  obtain ⟨before, inside, between, behind, s, p, closing, hs, hp, hclosing, rfl, hback, rfl⟩ := h
  exact ⟨t :: before, inside, between, behind, s, p, closing, hs, hp, hclosing, rfl, hback, rfl⟩

/-- **The second pass in two pieces.** Either the front loses what it would lose on its own and the back
nothing, or the front would lose nothing, and then the back loses what it would lose on its own or they
lose a parenthesis each. -/
theorem unwrapSwitch_append (front : List Token) {next : Token} (back : List Token)
    (hnext : next.text ≠ "(") :
    unwrapSwitch (front ++ next :: back) = unwrapSwitch front ++ next :: back ∨
      unwrapSwitch front = front ∧
        (unwrapSwitch (front ++ next :: back) = front ++ unwrapSwitch (next :: back) ∨
          Straddles front (next :: back) (unwrapSwitch (front ++ next :: back))) := by
  fun_induction unwrapSwitch front with
  | case1 s p ts hswitch inside behind hfound =>
    left
    rcases splitMatching?_append .round 0 ts (next :: back) with ⟨_, _, h, happend⟩ | ⟨h, -⟩
    · obtain ⟨rfl, rfl⟩ := Prod.mk.inj (Option.some.inj (hfound.symm.trans h))
      rw [List.cons_append, List.cons_append, unwrapSwitch, if_pos hswitch, happend]
      simp
    · simp [hfound] at h
  | case2 s p ts hswitch hnone =>
    rcases splitMatching?_append .round 0 ts (next :: back) with ⟨_, _, h, -⟩ | ⟨-, deeper, happend⟩
    · simp [hnone] at h
    · rw [List.cons_append, List.cons_append, unwrapSwitch, if_pos hswitch, happend]
      cases hback : splitMatching? .round deeper (next :: back) with
      | none => exact .inl rfl
      | some found =>
        obtain ⟨between, behind⟩ := found
        obtain ⟨closing, hclosing, hrest⟩ := exists_of_splitMatching? hback
        obtain ⟨hs, hp⟩ := Bool.and_eq_true_iff.mp hswitch
        refine .inr ⟨rfl, .inr ⟨[], ts, between, behind, s, p, closing, Token.text_of_reads hs,
          Token.text_of_reads hp, hclosing, rfl, hrest, ?_⟩⟩
        simp
  | case3 first second ts hother ih =>
    have hstep : unwrapSwitch (first :: second :: ts ++ next :: back)
        = first :: unwrapSwitch (second :: ts ++ next :: back) := by
      rw [List.cons_append, List.cons_append, unwrapSwitch, if_neg hother]
    rw [hstep]
    rcases ih with hfront | ⟨hsame, hback | hboth⟩
    · exact .inl (by rw [hfront]; rfl)
    · exact .inr ⟨by rw [hsame], .inl (by rw [hback]; rfl)⟩
    · exact .inr ⟨by rw [hsame], .inr (hboth.cons first)⟩
  | case4 ts hshort =>
    refine .inr ⟨rfl, .inl ?_⟩
    match ts with
    | [] => rfl
    | [t] =>
      -- the front ends where a parenthesis would have to follow
      rw [List.singleton_append, unwrapSwitch_cons_cons t hnext]
      rfl
    | t :: u :: us => exact absurd rfl (hshort t u us)

/-- A token that is no parenthesis can be put at the end before or after. -/
theorem unwrapSwitch_concat (front : List Token) {last : Token} (hopening : last.text ≠ "(")
    (hclosing : last.text ≠ ")") : unwrapSwitch (front ++ [last]) = unwrapSwitch front ++ [last] := by
  rcases unwrapSwitch_append front [] hopening with hfront | ⟨hsame, hlast | hstraddles⟩
  · exact hfront
  · rw [hlast, hsame]
    rfl
  · obtain ⟨before, inside, between, behind, s, p, closing, -, -, htext, -, hback, -⟩ := hstraddles
    have hmem : closing ∈ [last] := by simp [hback]
    rw [List.mem_singleton.mp hmem] at htext
    exact absurd htext hclosing

theorem unwrapSwitch_eq_self {tokens : List Token} (h : ∀ t ∈ tokens, t.text ≠ "switch") :
    unwrapSwitch tokens = tokens := by
  rcases unwrapSwitch_cases tokens with hsame | ⟨front, inside, behind, s, p, closing, hs, -, -, rfl, -⟩
  · exact hsame
  · exact absurd hs (h s (by simp))

/-! ## The third pass -/

theorem dropNamespace_cons {t : Token} (h : t.text ≠ "Math") (tokens : List Token) :
    dropNamespace (t :: tokens) = t :: dropNamespace tokens := by
  cases tokens with
  | nil => rfl
  | cons p tokens =>
    have hother : ¬ (t.reads "Math" && p.reads ".") = true := by simp [Token.reads, h]
    rw [dropNamespace, if_neg hother]

theorem dropNamespace_append (front : List Token) {next : Token} (back : List Token)
    (hnext : next.text ≠ ".") :
    dropNamespace (front ++ next :: back) = dropNamespace front ++ dropNamespace (next :: back) := by
  fun_induction dropNamespace front with
  | case1 m p ts hqualifier ih =>
    rw [List.cons_append, List.cons_append, dropNamespace, if_pos hqualifier, ih]
  | case2 m p ts hother ih =>
    rw [List.cons_append, List.cons_append, dropNamespace, if_neg hother, List.cons_append, ← ih]
    rfl
  | case3 ts hshort =>
    match ts with
    | [] => rfl
    | [t] =>
      have hother : ¬ (t.reads "Math" && next.reads ".") = true := by
        intro h
        exact hnext (Token.text_of_reads (Bool.and_eq_true_iff.mp h).2)
      rw [List.singleton_append, dropNamespace, if_neg hother]
      rfl
    | t :: u :: us => exact absurd rfl (hshort t u us)

theorem dropNamespace_eq_self {tokens : List Token} (h : ∀ t ∈ tokens, t.text ≠ "Math") :
    dropNamespace tokens = tokens := by
  fun_induction dropNamespace tokens with
  | case1 m p ts hqualifier =>
    exact absurd (Token.text_of_reads (Bool.and_eq_true_iff.mp hqualifier).1) (h m List.mem_cons_self)
  | case2 m p ts hother ih => rw [ih fun t ht => h t (List.mem_cons_of_mem m ht)]
  | case3 => rfl

end Dialect

end KernelShader
