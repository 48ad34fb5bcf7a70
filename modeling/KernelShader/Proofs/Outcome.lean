/-
`Outcome.lean` -- taking computations apart.

Two kinds of computation occur here. A check gives a value or a fault and touches nothing. A computation
on a state (a device, a rig, a session) gives a value or a fault too, but what it did to the state stays
done in either case, so its outcome is a pair. For both there is one lemma that says when a sequence of
two steps has a given outcome, and one for a step repeated over a list; every statement about what an
operation does goes through these, and no proof looks inside the monads again.

The second half is about relations between the state before and the state after. A relation that is
reflexive and transitive is kept by a whole computation if it is kept by its parts, whether or not it
fails on the way. Invariants, frame conditions and growing records are all relations of that sort. Of two
runs, of one computation or of two, the same can be said: they go alike if their parts do (`Matches`).
-/
import Mathlib.Data.List.Forall2
import Mathlib.Order.Defs.Unbundled
import KernelShader.Fault

set_option autoImplicit false

namespace KernelShader

variable {α β : Type}

/-! ## Checks -/

namespace Check

theorem bind_eq_ok_iff {x : Except Fault α} {f : α → Except Fault β} {b : β} :
    x >>= f = .ok b ↔ ∃ a, x = .ok a ∧ f a = .ok b := by
  cases x with
  | error fault =>
    constructor
    · intro h
      exact nomatch h
    · rintro ⟨a, ha, -⟩
      exact nomatch ha
  | ok a =>
    constructor
    · intro h
      exact ⟨a, rfl, h⟩
    · rintro ⟨a', ha, hb⟩
      rw [Except.ok.injEq] at ha
      rw [ha]
      exact hb

theorem bind_eq_error_iff {x : Except Fault α} {f : α → Except Fault β} {fault : Fault} :
    x >>= f = .error fault ↔ x = .error fault ∨ ∃ a, x = .ok a ∧ f a = .error fault := by
  cases x with
  | error fault' =>
    constructor
    · intro h
      exact Or.inl (congrArg Except.error (Except.error.inj h))
    · rintro (h | ⟨a, ha, -⟩)
      · exact congrArg Except.error (Except.error.inj h)
      · exact nomatch ha
  | ok a =>
    constructor
    · intro h
      exact Or.inr ⟨a, rfl, h⟩
    · rintro (h | ⟨a', ha, hf⟩)
      · exact nomatch h
      · rw [Except.ok.inj ha]
        exact hf

theorem map_eq_ok_iff {x : Except Fault α} {f : α → β} {b : β} :
    x.map f = .ok b ↔ ∃ a, x = .ok a ∧ f a = b := by
  cases x with
  | error fault =>
    constructor
    · intro h
      exact nomatch h
    · rintro ⟨a, ha, -⟩
      exact nomatch ha
  | ok a =>
    constructor
    · intro h
      exact ⟨a, rfl, Except.ok.inj h⟩
    · rintro ⟨a', ha, hb⟩
      rw [Except.ok.injEq] at ha
      rw [ha, ← hb]
      rfl

/-- A check whose value has been looked into has passed. -/
theorem exists_of_toOption {x : Except Fault α} {f : α → Option β} {b : β}
    (h : x.toOption.bind f = some b) : ∃ a, x = .ok a ∧ f a = some b := by
  cases x with
  | error fault => exact nomatch h
  | ok a => exact ⟨a, rfl, h⟩

/-- A check of a list passes exactly if it passes on every member. -/
theorem mapM_eq_ok_iff {f : α → Except Fault β} {l : List α} {bs : List β} :
    l.mapM f = .ok bs ↔ List.Forall₂ (fun a b => f a = .ok b) l bs := by
  induction l generalizing bs with
  | nil =>
    rw [List.mapM_nil, List.forall₂_nil_left_iff]
    constructor
    · intro h
      exact (Except.ok.inj h).symm
    · rintro rfl
      rfl
  | cons a rest ih =>
    rw [List.mapM_cons, bind_eq_ok_iff, List.forall₂_cons_left_iff]
    constructor
    · rintro ⟨b, hb, hrest⟩
      obtain ⟨others, hothers, hpure⟩ := bind_eq_ok_iff.mp hrest
      exact ⟨b, others, hb, ih.mp hothers, (Except.ok.inj hpure).symm⟩
    · rintro ⟨b, others, hb, hothers, rfl⟩
      exact ⟨b, hb, bind_eq_ok_iff.mpr ⟨others, ih.mpr hothers, rfl⟩⟩

/-- A check of a list fails on its first member, or passes there and fails on the others. -/
theorem mapM_cons_eq_error_iff {f : α → Except Fault β} {a : α} {l : List α} {fault : Fault} :
    (a :: l).mapM f = .error fault ↔
      f a = .error fault ∨ (∃ b, f a = .ok b) ∧ l.mapM f = .error fault := by
  rw [List.mapM_cons, bind_eq_error_iff]
  refine or_congr_right ?_
  constructor
  · rintro ⟨b, hb, hmore⟩
    rcases bind_eq_error_iff.mp hmore with hrest | ⟨_, -, hpure⟩
    · exact ⟨⟨b, hb⟩, hrest⟩
    · exact nomatch hpure
  · rintro ⟨⟨b, hb⟩, hrest⟩
    exact ⟨b, hb, bind_eq_error_iff.mpr (.inl hrest)⟩

/-- Every member of the first of two related lists is related to one of the second. -/
theorem exists_of_mem_forall₂ {R : α → β → Prop} {l : List α} {bs : List β}
    (h : List.Forall₂ R l bs) {a : α} (ha : a ∈ l) : ∃ b ∈ bs, R a b := by
  induction h with
  | nil => exact absurd ha List.not_mem_nil
  | cons hfirst hrest ih =>
    rcases List.mem_cons.mp ha with rfl | hmem
    · exact ⟨_, List.mem_cons_self, hfirst⟩
    · obtain ⟨b, hb, hrel⟩ := ih hmem
      exact ⟨b, List.mem_cons_of_mem _ hb, hrel⟩

/-- A check that has passed on a list passes on its members. -/
theorem exists_of_mapM_eq_ok {f : α → Except Fault β} {l : List α} {bs : List β}
    (h : l.mapM f = .ok bs) {a : α} (ha : a ∈ l) : ∃ b ∈ bs, f a = .ok b :=
  exists_of_mem_forall₂ (mapM_eq_ok_iff.mp h) ha

/-- What a check has given for a list was given for one of its members. -/
theorem exists_of_mem_mapM {f : α → Except Fault β} {l : List α} {bs : List β}
    (h : l.mapM f = .ok bs) {b : β} (hb : b ∈ bs) : ∃ a ∈ l, f a = .ok b :=
  exists_of_mem_forall₂ (mapM_eq_ok_iff.mp h).flip hb

/-- A check that passes on every member of a list passes on the list. -/
theorem exists_mapM_eq_ok {f : α → Except Fault β} {l : List α}
    (h : ∀ a ∈ l, ∃ b, f a = .ok b) : ∃ bs, l.mapM f = .ok bs := by
  induction l with
  | nil => exact ⟨[], rfl⟩
  | cons a rest ih =>
    obtain ⟨b, hb⟩ := h a List.mem_cons_self
    obtain ⟨others, hothers⟩ := ih fun a' ha' => h a' (List.mem_cons_of_mem a ha')
    exact ⟨b :: others, mapM_eq_ok_iff.mpr (.cons hb (mapM_eq_ok_iff.mp hothers))⟩

/-- Checks that agree on the members of a list agree on the list. -/
theorem mapM_congr {f g : α → Except Fault β} {l : List α} (h : ∀ a ∈ l, f a = g a) :
    l.mapM f = l.mapM g := by
  induction l with
  | nil => rfl
  | cons a rest ih =>
    rw [List.mapM_cons, List.mapM_cons, h a List.mem_cons_self,
      ih fun a' ha' => h a' (List.mem_cons_of_mem a ha')]

/-- Every fault that the check can end with has the property. -/
def FailsWith (P : Fault → Prop) (x : Except Fault α) : Prop := ∀ fault, x = .error fault → P fault

namespace FailsWith

variable {P : Fault → Prop}

theorem ok (a : α) : FailsWith P (.ok a : Except Fault α) := fun _ h => nomatch h

theorem error {fault : Fault} (h : P fault) : FailsWith P (.error fault : Except Fault α) := by
  intro fault' hfault
  rwa [← Except.error.inj hfault]

/-- What comes second may rely on what the first has given. -/
theorem bind {x : Except Fault α} {f : α → Except Fault β} (hx : FailsWith P x)
    (hf : ∀ a, x = .ok a → FailsWith P (f a)) : FailsWith P (x >>= f) := by
  cases x with
  | error fault => exact error (hx fault rfl)
  | ok a => exact hf a rfl

theorem map {x : Except Fault α} (f : α → β) (hx : FailsWith P x) : FailsWith P (x.map f) := by
  cases x with
  | error fault => exact error (hx fault rfl)
  | ok a => exact ok (f a)

theorem mapM {f : α → Except Fault β} {l : List α} (h : ∀ a ∈ l, FailsWith P (f a)) :
    FailsWith P (l.mapM f) := by
  induction l with
  | nil => exact ok []
  | cons a rest ih =>
    rw [List.mapM_cons]
    have hrest : FailsWith P (rest.mapM f) := ih fun a' ha' => h a' (List.mem_cons_of_mem a ha')
    exact (h a List.mem_cons_self).bind fun b _ => hrest.bind fun bs _ => ok (b :: bs)

end FailsWith

end Check

/-! ## Computations on a state -/

variable {σ : Type}

/-- The value or fault that a computation ends with, and the state it leaves. -/
def outcome (m : ExceptT Fault (StateM σ) α) (s : σ) : Except Fault α × σ := m.run.run s

namespace Outcome

@[simp] theorem pure_eq (a : α) (s : σ) :
    outcome (pure a : ExceptT Fault (StateM σ) α) s = (.ok a, s) := rfl

@[simp] theorem throw_eq (fault : Fault) (s : σ) :
    outcome (throw fault : ExceptT Fault (StateM σ) α) s = (.error fault, s) := rfl

@[simp] theorem get_eq (s : σ) :
    outcome (get : ExceptT Fault (StateM σ) σ) s = (.ok s, s) := rfl

@[simp] theorem set_eq (s s' : σ) :
    outcome (set s' : ExceptT Fault (StateM σ) PUnit) s = (.ok ⟨⟩, s') := rfl

@[simp] theorem modify_eq (f : σ → σ) (s : σ) :
    outcome (modify f : ExceptT Fault (StateM σ) PUnit) s = (.ok ⟨⟩, f s) := rfl

@[simp] theorem modifyGet_eq (f : σ → α × σ) (s : σ) :
    outcome (modifyGet f : ExceptT Fault (StateM σ) α) s = (.ok (f s).1, (f s).2) := rfl

@[simp] theorem liftExcept_eq (x : Except Fault α) (s : σ) :
    outcome (liftExcept x : ExceptT Fault (StateM σ) α) s = (x, s) := by
  cases x with
  | ok a => rfl
  | error fault => rfl

/-- A sequence goes on with the state that its first step leaves, or ends where that step fails. -/
theorem bind_eq (m : ExceptT Fault (StateM σ) α) (f : α → ExceptT Fault (StateM σ) β) (s : σ) :
    outcome (m >>= f) s = match outcome m s with
      | (.ok a, s') => outcome (f a) s'
      | (.error fault, s') => (.error fault, s') := by
  unfold outcome
  rw [ExceptT.run_bind, StateT.run_bind]
  obtain ⟨x, t⟩ : Except Fault α × σ := m.run.run s
  cases x with
  | ok a => rfl
  | error fault => rfl

theorem bind_of_ok {m : ExceptT Fault (StateM σ) α} {s s' : σ} {a : α}
    (h : outcome m s = (.ok a, s')) (f : α → ExceptT Fault (StateM σ) β) :
    outcome (m >>= f) s = outcome (f a) s' := by
  rw [bind_eq, h]

theorem bind_of_error {m : ExceptT Fault (StateM σ) α} {s s' : σ} {fault : Fault}
    (h : outcome m s = (.error fault, s')) (f : α → ExceptT Fault (StateM σ) β) :
    outcome (m >>= f) s = (.error fault, s') := by
  rw [bind_eq, h]

theorem get_bind (f : σ → ExceptT Fault (StateM σ) β) (s : σ) :
    outcome (get >>= f) s = outcome (f s) s := bind_of_ok (get_eq s) f

theorem liftExcept_bind (x : Except Fault α) (f : α → ExceptT Fault (StateM σ) β) (s : σ) :
    outcome (liftExcept x >>= f) s = match x with
      | .ok a => outcome (f a) s
      | .error fault => (.error fault, s) := by
  rw [bind_eq, liftExcept_eq]
  cases x with
  | ok a => rfl
  | error fault => rfl

/-- A sequence succeeds exactly if its first step does and the rest does on what that step leaves. -/
theorem bind_eq_ok_iff {m : ExceptT Fault (StateM σ) α} {f : α → ExceptT Fault (StateM σ) β}
    {s s'' : σ} {b : β} :
    outcome (m >>= f) s = (.ok b, s'') ↔
      ∃ a s', outcome m s = (.ok a, s') ∧ outcome (f a) s' = (.ok b, s'') := by
  rcases hm : outcome m s with ⟨x, t⟩
  cases x with
  | ok a =>
    rw [bind_of_ok hm]
    constructor
    · intro h
      exact ⟨a, t, rfl, h⟩
    · rintro ⟨a', s', hpair, h⟩
      rw [Prod.mk.injEq, Except.ok.injEq] at hpair
      rw [hpair.1, hpair.2]
      exact h
  | error fault =>
    rw [bind_of_error hm]
    constructor
    · intro h
      exact nomatch h
    · rintro ⟨a', s', hpair, -⟩
      exact nomatch hpair

/-- The value of a run that has been looked at. -/
theorem eq_ok_of_toOption {x : Except Fault α × σ} {a : α} (h : x.1.toOption = some a) :
    x = (.ok a, x.2) := by
  obtain ⟨y, s⟩ := x
  cases y with
  | error fault => exact nomatch h
  | ok b => rw [Option.some.inj h]

theorem map_eq (f : α → β) (m : ExceptT Fault (StateM σ) α) (s : σ) :
    outcome (f <$> m) s = ((outcome m s).1.map f, (outcome m s).2) := by
  rw [map_eq_pure_bind, bind_eq]
  obtain ⟨x, t⟩ := outcome m s
  cases x with
  | ok a => rfl
  | error fault => rfl

theorem map_eq_ok_iff {f : α → β} {m : ExceptT Fault (StateM σ) α} {s s' : σ} {b : β} :
    outcome (f <$> m) s = (.ok b, s') ↔ ∃ a, outcome m s = (.ok a, s') ∧ f a = b := by
  rw [map_eq]
  rcases outcome m s with ⟨x, t⟩
  simp only [Prod.mk.injEq, Check.map_eq_ok_iff]
  constructor
  · rintro ⟨⟨a, ha, hb⟩, ht⟩
    exact ⟨a, ⟨ha, ht⟩, hb⟩
  · rintro ⟨a, ⟨ha, ht⟩, hb⟩
    exact ⟨⟨a, ha, hb⟩, ht⟩

theorem map_eq_error_iff {f : α → β} {m : ExceptT Fault (StateM σ) α} {s s' : σ} {fault : Fault} :
    outcome (f <$> m) s = (.error fault, s') ↔ outcome m s = (.error fault, s') := by
  rw [map_eq]
  obtain ⟨x, t⟩ := outcome m s
  cases x with
  | ok a =>
    constructor
    · intro h
      exact nomatch h
    · intro h
      exact nomatch h
  | error fault' => rw [Except.map, Prod.mk.injEq, Prod.mk.injEq, Except.error.injEq, Except.error.injEq]

theorem adapt_eq (f : Fault → Fault) (m : ExceptT Fault (StateM σ) α) (s : σ) :
    outcome (m.adapt f) s = ((outcome m s).1.mapError f, (outcome m s).2) := rfl

/-- Adapting the faults of a computation does not change when and how it succeeds. -/
theorem adapt_eq_ok_iff {f : Fault → Fault} {m : ExceptT Fault (StateM σ) α} {s s' : σ} {a : α} :
    outcome (m.adapt f) s = (.ok a, s') ↔ outcome m s = (.ok a, s') := by
  rw [adapt_eq]
  obtain ⟨x, t⟩ := outcome m s
  cases x with
  | ok b => rfl
  | error fault =>
    constructor
    · intro h
      exact nomatch h
    · intro h
      exact nomatch h

theorem tryCatch_eq (m : ExceptT Fault (StateM σ) α) (handle : Fault → ExceptT Fault (StateM σ) α)
    (s : σ) : outcome (tryCatch m handle) s = match outcome m s with
      | (.ok a, s') => (.ok a, s')
      | (.error fault, s') => outcome (handle fault) s' := by
  unfold outcome
  rw [ExceptT.run_tryCatch, StateT.run_bind]
  obtain ⟨x, t⟩ : Except Fault α × σ := m.run.run s
  cases x with
  | ok a => rfl
  | error fault => rfl

/-- Observing a computation turns its fault into a value. -/
theorem observing_eq (m : ExceptT Fault (StateM σ) α) (s : σ) :
    outcome (observing m) s = (.ok (outcome m s).1, (outcome m s).2) := by
  rw [observing, tryCatch_eq, bind_eq]
  obtain ⟨x, t⟩ := outcome m s
  cases x with
  | ok a => rfl
  | error fault => rfl

theorem forM_nil (f : α → ExceptT Fault (StateM σ) PUnit) (s : σ) :
    outcome (([] : List α).forM f) s = (.ok ⟨⟩, s) := rfl

theorem forM_cons (a : α) (l : List α) (f : α → ExceptT Fault (StateM σ) PUnit) :
    (a :: l).forM f = f a >>= fun _ => l.forM f := rfl

end Outcome

/-! ## Relations kept by computations -/

/-- Whether or not the computation fails, the relation holds between the state before it and the state
it leaves. -/
def Keeps (R : σ → σ → Prop) (m : ExceptT Fault (StateM σ) α) : Prop :=
  ∀ s, R s (outcome m s).2

namespace Keeps

variable {R : σ → σ → Prop}

theorem of_outcome_eq {m : ExceptT Fault (StateM σ) α} (hm : Keeps R m) {s s' : σ}
    {x : Except Fault α} (h : outcome m s = (x, s')) : R s s' := by
  have hkept := hm s
  rwa [h] at hkept

theorem modify {f : σ → σ} (h : ∀ s, R s (f s)) :
    Keeps R (modify f : ExceptT Fault (StateM σ) PUnit) := h

theorem map (f : α → β) {m : ExceptT Fault (StateM σ) α} (hm : Keeps R m) : Keeps R (f <$> m) := by
  intro s
  rw [Outcome.map_eq]
  exact hm s

theorem adapt (f : Fault → Fault) {m : ExceptT Fault (StateM σ) α} (hm : Keeps R m) :
    Keeps R (m.adapt f) := hm

theorem observing {m : ExceptT Fault (StateM σ) α} (hm : Keeps R m) :
    Keeps R (observing m) := by
  intro s
  rw [Outcome.observing_eq]
  exact hm s

variable [IsPreorder σ R]

theorem pure (a : α) : Keeps R (pure a : ExceptT Fault (StateM σ) α) := fun s => refl_of R s

theorem throw (fault : Fault) : Keeps R (throw fault : ExceptT Fault (StateM σ) α) :=
  fun s => refl_of R s

theorem get : Keeps R (get : ExceptT Fault (StateM σ) σ) := fun s => refl_of R s

theorem liftExcept (x : Except Fault α) :
    Keeps R (liftExcept x : ExceptT Fault (StateM σ) α) := by
  intro s
  rw [Outcome.liftExcept_eq]
  exact refl_of R s

/-- The rest of a sequence has to keep the relation only in states that the relation leads to. -/
theorem bind_at {m : ExceptT Fault (StateM σ) α} {f : α → ExceptT Fault (StateM σ) β} {s : σ}
    (hm : R s (outcome m s).2) (hf : ∀ a t, R s t → R t (outcome (f a) t).2) :
    R s (outcome (m >>= f) s).2 := by
  rcases hx : outcome m s with ⟨x, t⟩
  rw [hx] at hm
  cases x with
  | ok a =>
    rw [Outcome.bind_of_ok hx]
    exact trans_of R hm (hf a t hm)
  | error fault =>
    rw [Outcome.bind_of_error hx]
    exact hm

theorem bind {m : ExceptT Fault (StateM σ) α} {f : α → ExceptT Fault (StateM σ) β}
    (hm : Keeps R m) (hf : ∀ a, Keeps R (f a)) : Keeps R (m >>= f) :=
  fun s => bind_at (hm s) fun a t _ => hf a t

theorem forM {f : α → ExceptT Fault (StateM σ) PUnit} (h : ∀ a, Keeps R (f a)) (l : List α) :
    Keeps R (l.forM f) := by
  induction l with
  | nil => exact Keeps.pure _
  | cons a rest ih =>
    rw [Outcome.forM_cons]
    exact (h a).bind fun _ => ih

/-- A loop keeps a relation also if its steps keep it only where a condition holds, provided that the
relation keeps the condition. -/
theorem forM_of_condition {f : α → ExceptT Fault (StateM σ) PUnit} {condition : α → σ → Prop}
    (hstep : ∀ a s, condition a s → R s (outcome (f a) s).2)
    (hkept : ∀ a s s', R s s' → condition a s → condition a s') (l : List α) (s : σ)
    (h : ∀ a ∈ l, condition a s) : R s (outcome (l.forM f) s).2 := by
  induction l generalizing s with
  | nil => exact refl_of R s
  | cons a rest ih =>
    rw [Outcome.forM_cons]
    refine bind_at (hstep a s (h a List.mem_cons_self)) fun _ t ht => ih t ?_
    intro a' ha'
    exact hkept a' s t ht (h a' (List.mem_cons_of_mem a ha'))

theorem mapM {f : α → ExceptT Fault (StateM σ) β} (h : ∀ a, Keeps R (f a)) (l : List α) :
    Keeps R (l.mapM f) := by
  induction l with
  | nil => exact Keeps.pure _
  | cons a rest ih =>
    rw [List.mapM_cons]
    exact (h a).bind fun b => ih.bind fun bs => Keeps.pure _

theorem mapM_of_condition {f : α → ExceptT Fault (StateM σ) β} {condition : α → σ → Prop}
    (hstep : ∀ a s, condition a s → R s (outcome (f a) s).2)
    (hkept : ∀ a s s', R s s' → condition a s → condition a s') (l : List α) (s : σ)
    (h : ∀ a ∈ l, condition a s) : R s (outcome (l.mapM f) s).2 := by
  induction l generalizing s with
  | nil => exact refl_of R s
  | cons a rest ih =>
    rw [List.mapM_cons]
    refine bind_at (hstep a s (h a List.mem_cons_self)) fun b t ht => ?_
    refine bind_at (ih t ?_) fun bs t' _ => refl_of R t'
    intro a' ha'
    exact hkept a' s t ht (h a' (List.mem_cons_of_mem a ha'))

/-- A loop that works off a list. A step that finds its item in front of what is left to do keeps the
relation, and if it succeeds, the rest is what is left. -/
theorem forM_of_left {f : α → ExceptT Fault (StateM σ) PUnit} {left : List α → σ → Prop}
    (hstep : ∀ a rest s, left (a :: rest) s → R s (outcome (f a) s).2 ∧
      ∀ u s', outcome (f a) s = (.ok u, s') → left rest s')
    (l : List α) {s : σ} (h : left l s) :
    R s (outcome (l.forM f) s).2 ∧ ∀ u s', outcome (l.forM f) s = (.ok u, s') → left [] s' := by
  induction l generalizing s with
  | nil =>
    refine ⟨refl_of R s, fun u s' hout => ?_⟩
    rw [Outcome.forM_nil, Prod.mk.injEq] at hout
    exact hout.2 ▸ h
  | cons a rest ih =>
    obtain ⟨hkept, hleft⟩ := hstep a rest s h
    rw [Outcome.forM_cons]
    rcases hx : outcome (f a) s with ⟨x, t⟩
    rw [hx] at hkept
    cases x with
    | error fault =>
      rw [Outcome.bind_of_error hx]
      exact ⟨hkept, fun u s' hout => by simp at hout⟩
    | ok u =>
      rw [Outcome.bind_of_ok hx]
      obtain ⟨hrest, hdone⟩ := ih (hleft u t hx)
      exact ⟨trans_of R hkept hrest, hdone⟩

/-- If each step of a loop, from wherever the relation leads, ends in a state where something holds of
what it was given and what it gave, and the relation keeps that, it holds of all of them at the end. -/
theorem forall₂_of_mapM_eq_ok {f : α → ExceptT Fault (StateM σ) β} {P : α → β → σ → Prop} {s₀ : σ}
    (hkeeps : ∀ a, Keeps R (f a))
    (hstep : ∀ a s b s', R s₀ s → outcome (f a) s = (.ok b, s') → P a b s')
    (hkept : ∀ a b s s', R s s' → P a b s → P a b s') (l : List α) {s s' : σ} {bs : List β}
    (hs : R s₀ s) (h : outcome (l.mapM f) s = (.ok bs, s')) :
    List.Forall₂ (fun a b => P a b s') l bs := by
  induction l generalizing s bs with
  | nil =>
    rw [List.mapM_nil, Outcome.pure_eq, Prod.mk.injEq, Except.ok.injEq] at h
    rw [← h.1]
    exact .nil
  | cons a rest ih =>
    rw [List.mapM_cons] at h
    obtain ⟨b, s₁, hfirst, hmore⟩ := Outcome.bind_eq_ok_iff.mp h
    obtain ⟨others, s₂, hrest, hpure⟩ := Outcome.bind_eq_ok_iff.mp hmore
    rw [Outcome.pure_eq, Prod.mk.injEq, Except.ok.injEq] at hpure
    rw [hpure.2] at hrest
    have hs₁ : R s₀ s₁ := trans_of R hs ((hkeeps a).of_outcome_eq hfirst)
    have hloop : R s₁ s' := (Keeps.mapM hkeeps rest).of_outcome_eq hrest
    rw [← hpure.1]
    exact .cons (hkept a b s₁ s' hloop (hstep a s b s₁ hs hfirst)) (ih hs₁ hrest)

end Keeps

/-! ## Faults of computations -/

/-- Every fault that the computation can end with has the property. -/
def FailsWith (P : Fault → Prop) (m : ExceptT Fault (StateM σ) α) : Prop :=
  ∀ s fault s', outcome m s = (.error fault, s') → P fault

namespace FailsWith

variable {P : Fault → Prop}

theorem of_ok {m : ExceptT Fault (StateM σ) α} {f : σ → α × σ}
    (h : ∀ s, outcome m s = (.ok (f s).1, (f s).2)) : FailsWith P m := by
  intro s fault s' hm
  rw [h] at hm
  exact nomatch hm

theorem pure (a : α) : FailsWith P (pure a : ExceptT Fault (StateM σ) α) :=
  of_ok (f := fun s => (a, s)) fun _ => rfl

theorem get : FailsWith P (get : ExceptT Fault (StateM σ) σ) :=
  of_ok (f := fun s => (s, s)) fun _ => rfl

theorem liftExcept {x : Except Fault α} (hx : Check.FailsWith P x) :
    FailsWith P (liftExcept x : ExceptT Fault (StateM σ) α) := by
  intro s fault s' h
  rw [Outcome.liftExcept_eq, Prod.mk.injEq] at h
  exact hx fault h.1

theorem bind {m : ExceptT Fault (StateM σ) α} {f : α → ExceptT Fault (StateM σ) β}
    (hm : FailsWith P m) (hf : ∀ a, FailsWith P (f a)) : FailsWith P (m >>= f) := by
  intro s fault s'' h
  rcases hx : outcome m s with ⟨x, s'⟩
  cases x with
  | ok a =>
    rw [Outcome.bind_of_ok hx] at h
    exact hf a s' fault s'' h
  | error fault' =>
    rw [Outcome.bind_of_error hx, Prod.mk.injEq, Except.error.injEq] at h
    rw [← h.1]
    exact hm s fault' s' hx

theorem mapM {f : α → ExceptT Fault (StateM σ) β} (h : ∀ a, FailsWith P (f a)) (l : List α) :
    FailsWith P (l.mapM f) := by
  induction l with
  | nil => exact FailsWith.pure _
  | cons a rest ih =>
    rw [List.mapM_cons]
    exact (h a).bind fun b => ih.bind fun bs => FailsWith.pure _

theorem forM {f : α → ExceptT Fault (StateM σ) PUnit} {l : List α} (h : ∀ a ∈ l, FailsWith P (f a)) :
    FailsWith P (l.forM f) := by
  induction l with
  | nil => exact FailsWith.pure _
  | cons a rest ih =>
    obtain ⟨hfirst, hrest⟩ := List.forall_mem_cons.mp h
    rw [Outcome.forM_cons]
    exact hfirst.bind fun _ => ih hrest

theorem adapt {Q : Fault → Prop} {f : Fault → Fault} {m : ExceptT Fault (StateM σ) α}
    (hm : FailsWith P m) (hf : ∀ fault, P fault → Q (f fault)) : FailsWith Q (m.adapt f) := by
  intro s fault s' h
  rw [Outcome.adapt_eq] at h
  rcases hx : outcome m s with ⟨x, t⟩
  rw [hx] at h
  cases x with
  | ok a => exact nomatch h
  | error fault' =>
    rw [Prod.mk.injEq] at h
    rw [← Except.error.inj h.1]
    exact hf fault' (hm s fault' t hx)

end FailsWith

/-! ## Computations that succeed -/

/-- From the state on, wherever the relation leads, the computation succeeds. -/
def SucceedsFrom (R : σ → σ → Prop) (s : σ) (m : ExceptT Fault (StateM σ) α) : Prop :=
  ∀ t, R s t → ∃ a t', outcome m t = (.ok a, t')

namespace SucceedsFrom

variable {R : σ → σ → Prop} {s : σ}

theorem of_ok {m : ExceptT Fault (StateM σ) α} {f : σ → α × σ}
    (h : ∀ s, outcome m s = (.ok (f s).1, (f s).2)) : SucceedsFrom R s m :=
  fun t _ => ⟨_, _, h t⟩

theorem pure (a : α) : SucceedsFrom R s (pure a : ExceptT Fault (StateM σ) α) :=
  of_ok (f := fun t => (a, t)) fun _ => rfl

/-- What is read from the state is read from one that the relation leads to. -/
theorem get_bind {f : σ → ExceptT Fault (StateM σ) β} (hf : ∀ t, R s t → SucceedsFrom R s (f t)) :
    SucceedsFrom R s (get >>= f) := by
  intro t ht
  rw [Outcome.get_bind]
  exact hf t ht t ht

theorem liftExcept_bind {x : Except Fault α} {a : α} {f : α → ExceptT Fault (StateM σ) β}
    (hx : x = .ok a) (hf : SucceedsFrom R s (f a)) : SucceedsFrom R s (liftExcept x >>= f) := by
  intro t ht
  rw [Outcome.liftExcept_bind, hx]
  exact hf t ht

variable [IsPreorder σ R]

theorem bind {m : ExceptT Fault (StateM σ) α} {f : α → ExceptT Fault (StateM σ) β}
    (hm : SucceedsFrom R s m) (hkeeps : Keeps R m) (hf : ∀ a, SucceedsFrom R s (f a)) :
    SucceedsFrom R s (m >>= f) := by
  intro t ht
  obtain ⟨a, t', hfirst⟩ := hm t ht
  rw [Outcome.bind_of_ok hfirst]
  exact hf a t' (trans_of R ht (hkeeps.of_outcome_eq hfirst))

theorem forM {f : α → ExceptT Fault (StateM σ) PUnit} (hkeeps : ∀ a, Keeps R (f a)) {l : List α}
    (h : ∀ a ∈ l, SucceedsFrom R s (f a)) : SucceedsFrom R s (l.forM f) := by
  induction l with
  | nil => exact SucceedsFrom.pure _
  | cons a rest ih =>
    rw [Outcome.forM_cons]
    refine (h a List.mem_cons_self).bind (hkeeps a) fun _ => ?_
    exact ih fun a' ha' => h a' (List.mem_cons_of_mem a ha')

theorem mapM {f : α → ExceptT Fault (StateM σ) β} (hkeeps : ∀ a, Keeps R (f a)) {l : List α}
    (h : ∀ a ∈ l, SucceedsFrom R s (f a)) : SucceedsFrom R s (l.mapM f) := by
  induction l with
  | nil => exact SucceedsFrom.pure _
  | cons a rest ih =>
    rw [List.mapM_cons]
    refine (h a List.mem_cons_self).bind (hkeeps a) fun b => ?_
    have hrest := ih fun a' ha' => h a' (List.mem_cons_of_mem a ha')
    exact hrest.bind (Keeps.mapM hkeeps rest) fun bs => SucceedsFrom.pure _

end SucceedsFrom

/-! ## Two runs side by side -/

/-- From related states the two computations come to the same value or fault, and to related states. -/
def Matches (R : σ → σ → Prop) (m m' : ExceptT Fault (StateM σ) α) : Prop :=
  ∀ s t, R s t → (outcome m s).1 = (outcome m' t).1 ∧ R (outcome m s).2 (outcome m' t).2

namespace Matches

variable {R : σ → σ → Prop}

theorem pure (a : α) : Matches R (pure a : ExceptT Fault (StateM σ) α) (pure a) :=
  fun _ _ h => ⟨rfl, h⟩

theorem throw (fault : Fault) : Matches R (throw fault : ExceptT Fault (StateM σ) α) (throw fault) :=
  fun _ _ h => ⟨rfl, h⟩

theorem liftExcept_bind {x : Except Fault α} {f f' : α → ExceptT Fault (StateM σ) β}
    (hf : ∀ a, Matches R (f a) (f' a)) : Matches R (liftExcept x >>= f) (liftExcept x >>= f') := by
  intro s t h
  rw [Outcome.liftExcept_bind, Outcome.liftExcept_bind]
  cases x with
  | ok a => exact hf a s t h
  | error fault => exact ⟨rfl, h⟩

theorem bind {m m' : ExceptT Fault (StateM σ) α} {f f' : α → ExceptT Fault (StateM σ) β}
    (hm : Matches R m m') (hf : ∀ a, Matches R (f a) (f' a)) : Matches R (m >>= f) (m' >>= f') := by
  intro s t h
  obtain ⟨hvalue, hstates⟩ := hm s t h
  rcases hs : outcome m s with ⟨x, s'⟩
  rcases ht : outcome m' t with ⟨y, t'⟩
  rw [hs, ht] at hvalue hstates
  obtain rfl : x = y := hvalue
  cases x with
  | ok a =>
    rw [Outcome.bind_of_ok hs, Outcome.bind_of_ok ht]
    exact hf a s' t' hstates
  | error fault =>
    rw [Outcome.bind_of_error hs, Outcome.bind_of_error ht]
    exact ⟨rfl, hstates⟩

theorem observing {m m' : ExceptT Fault (StateM σ) α} (hm : Matches R m m') :
    Matches R (observing m) (observing m') := by
  intro s t h
  rw [Outcome.observing_eq, Outcome.observing_eq]
  exact ⟨congrArg Except.ok (hm s t h).1, (hm s t h).2⟩

theorem forM {f f' : α → ExceptT Fault (StateM σ) PUnit} (h : ∀ a, Matches R (f a) (f' a)) (l : List α) :
    Matches R (l.forM f) (l.forM f') := by
  induction l with
  | nil => exact Matches.pure _
  | cons a rest ih =>
    rw [Outcome.forM_cons, Outcome.forM_cons]
    exact (h a).bind fun _ => ih

theorem mapM {f f' : α → ExceptT Fault (StateM σ) β} (h : ∀ a, Matches R (f a) (f' a)) (l : List α) :
    Matches R (l.mapM f) (l.mapM f') := by
  induction l with
  | nil => exact Matches.pure _
  | cons a rest ih =>
    rw [List.mapM_cons, List.mapM_cons]
    exact (h a).bind fun b => ih.bind fun bs => Matches.pure _

/-- What can be read off the one run holds of the other. -/
theorem exists_of_eq_ok {m m' : ExceptT Fault (StateM σ) α} (hm : Matches R m m') {s t s' : σ} {a : α}
    (h : R s t) (hout : outcome m s = (.ok a, s')) : ∃ t', outcome m' t = (.ok a, t') ∧ R s' t' := by
  have hboth := hm s t h
  rw [hout] at hboth
  exact ⟨(outcome m' t).2, Prod.ext hboth.1.symm rfl, hboth.2⟩

end Matches

end KernelShader
