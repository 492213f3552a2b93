import ClrTypes.Formation
import Mathlib.Data.List.Forall2

/-!
# Outcomes of building steps

Where a building step starts only shows in the serial numbers and the events that it leaves behind.
`Yields` speaks about one step from all progress at once, `Relates` about two steps that may start
apart from each other, and `Ensures` about one step from some progress. All three follow the
structure of the steps. What forming a type leads to is listed once, for all laws about it.
-/

namespace ClrTypes

/-- The symbols are one definition without arguments, or stand for one fault. -/
def Symbol.SameRoot (s t : Symbol) : Prop :=
  (∃ n n' d, s = .named n d ∧ t = .named n' d) ∨
    ∃ n n' cause, s = .unsupported n cause ∧ t = .unsupported n' cause

namespace Build

variable {α β γ δ : Type}

def outcome (step : Build α) (p : Progress) : α :=
  (step.run p).1

def Yields (P : α → Prop) (step : Build α) : Prop :=
  ∀ p, P (step.outcome p)

def Relates (R : α → β → Prop) (x : Build α) (y : Build β) : Prop :=
  ∀ p q, R (x.outcome p) (y.outcome q)

theorem Yields.pure {P : α → Prop} {a : α} (holds : P a) : Yields P (pure a : Build α) :=
  fun _ => holds

theorem Yields.bind {P : α → Prop} {Q : β → Prop} {x : Build α} {f : α → Build β}
    (first : Yields P x) (next : ∀ a, P a → Yields Q (f a)) : Yields Q (x >>= f) :=
  fun p => next _ (first p) (x.run p).2

theorem Yields.mono {P Q : α → Prop} {x : Build α} (yields : Yields P x)
    (weaker : ∀ a, P a → Q a) : Yields Q x :=
  fun p => weaker _ (yields p)

theorem Yields.trivial (x : Build α) : Yields (fun _ => True) x :=
  fun _ => True.intro

theorem Yields.after {Q : β → Prop} {x : Build α} {f : α → Build β}
    (next : ∀ a, Yields Q (f a)) : Yields Q (x >>= f) :=
  (Yields.trivial x).bind fun a _ => next a

theorem Yields.mapM {P : β → Prop} {f : α → Build β} {xs : List α}
    (each : ∀ x ∈ xs, Yields P (f x)) : Yields (fun ys => ∀ y ∈ ys, P y) (xs.mapM f) := by
  induction xs with
  | nil => exact Yields.pure (by simp)
  | cons x xs ih =>
      rw [List.mapM_cons]
      refine (each x (by simp)).bind fun y hy => ?_
      refine (ih fun x member => each x (List.mem_cons_of_mem _ member)).bind fun ys hys => ?_
      exact Yields.pure (by simpa using ⟨hy, hys⟩)

theorem named_yields (d : Definition) : Yields (fun s => ∃ n, s = .named n d) (named d) :=
  .after fun n => .pure ⟨n, rfl⟩

theorem parameter_yields (p : Parameter) :
    Yields (fun s => ∃ n, s = .parameter n p) (parameter p) :=
  .after fun n => .pure ⟨n, rfl⟩

theorem constructed_yields (d : Definition) (bindings : List (Binding Symbol)) :
    Yields (fun s => ∃ n, s = .constructed n d bindings) (constructed d bindings) :=
  .after fun n => .pure ⟨n, rfl⟩

theorem unsupported_yields (cause : Option Fault) :
    Yields (fun s => ∃ n, s = .unsupported n cause) (unsupported cause) :=
  .after fun n => .pure ⟨n, rfl⟩

theorem unsupported_ne_pure (cause : Option Fault) (s : Symbol) : unsupported cause ≠ pure s := by
  intro same
  have drawn : 1 = 0 := congrArg (fun step => (step.run {}).2.next) same
  omega

theorem pure_inj {a b : α} : (pure a : Build α) = pure b ↔ a = b :=
  ⟨fun same => congrArg (fun step => step.outcome {}) same, congrArg pure⟩

def Ensures (P : Progress → Prop) (Q : α → Progress → Prop) (step : Build α) : Prop :=
  ∀ p, P p → Q (step.run p).1 (step.run p).2

theorem Ensures.pure {P : Progress → Prop} {Q : α → Progress → Prop} {a : α}
    (holds : ∀ p, P p → Q a p) : Ensures P Q (pure a : Build α) :=
  holds

theorem Ensures.bind {P : Progress → Prop} {R : α → Progress → Prop} {Q : β → Progress → Prop}
    {x : Build α} {f : α → Build β} (first : Ensures P R x) (next : ∀ a, Ensures (R a) Q (f a)) :
    Ensures P Q (x >>= f) :=
  fun p holds => next _ _ (first p holds)

inductive Formed (s : Symbol) (make : Nat → Symbol) : Symbol → Prop
  | forwarded : s.isUnsupported = true → Formed s make s
  | formed (n : Nat) : s.isUnsupported = false → Formed s make (make n)

theorem szArray_yields (s : Symbol) (modifiers : List (Modifier Symbol)) :
    Yields (Formed s fun n => .szArray n s modifiers) (szArray s modifiers) := by
  unfold szArray
  by_cases poisoned : s.isUnsupported = true
  · rw [if_pos poisoned]
    exact .pure (.forwarded poisoned)
  · rw [if_neg poisoned]
    exact .after fun n => .pure (.formed n (by simpa using poisoned))

theorem pointer_yields (s : Symbol) (modifiers : List (Modifier Symbol)) :
    Yields (Formed s fun n => .pointer n s modifiers) (pointer s modifiers) := by
  unfold pointer
  by_cases poisoned : s.isUnsupported = true
  · rw [if_pos poisoned]
    exact .pure (.forwarded poisoned)
  · rw [if_neg poisoned]
    exact .after fun n => .pure (.formed n (by simpa using poisoned))

inductive ArrayFormed (s : Symbol) (rank : UInt32) (dimensions : List Dimension)
    (modifiers : List (Modifier Symbol)) : Symbol → Prop
  | refused (n : Nat) (cause : Option Fault) : rank.toNat < 2 →
      ArrayFormed s rank dimensions modifiers (.unsupported n cause)
  | made {t : Symbol} : 2 ≤ rank.toNat →
      Formed s (fun n => .array n s rank dimensions modifiers) t →
      ArrayFormed s rank dimensions modifiers t

theorem array_yields (h : Hierarchy) (s : Symbol) (rank : UInt32) (dimensions : List Dimension)
    (modifiers : List (Modifier Symbol)) :
    Yields (ArrayFormed s rank dimensions modifiers) (array h s rank dimensions modifiers) := by
  unfold array
  by_cases one : rank = 1
  · rw [if_pos one]
    refine .after fun _ => (unsupported_yields none).mono fun t ⟨n, same⟩ => ?_
    exact same ▸ .refused n none (by simp [one])
  rw [if_neg one]
  have notOne : rank.toNat ≠ 1 := fun same => one (UInt32.toNat_inj.mp same)
  have notZero (nonzero : rank ≠ 0) : rank.toNat ≠ 0 :=
    fun same => nonzero (UInt32.toNat_inj.mp same)
  by_cases poisoned : s.isUnsupported = true
  · rw [if_pos poisoned]
    refine .pure ?_
    by_cases zero : rank = 0
    · obtain ⟨n, cause, rfl⟩ : ∃ n cause, s = .unsupported n cause := by
        cases s <;> simp_all [Symbol.isUnsupported]
      exact .refused n cause (by simp [zero])
    · have high := notZero zero
      exact .made (by omega) (.forwarded poisoned)
  rw [if_neg poisoned]
  by_cases zero : rank = 0
  · rw [if_pos zero]
    exact (unsupported_yields _).mono fun t ⟨n, same⟩ => same ▸ .refused n _ (by simp [zero])
  · rw [if_neg zero]
    have high := notZero zero
    exact .after fun n => .pure (.made (by omega) (.formed n (by simpa using poisoned)))

theorem Relates.pure {R : α → β → Prop} {a : α} {b : β} (related : R a b) :
    Relates R (pure a : Build α) (pure b : Build β) :=
  fun _ _ => related

theorem Relates.bind {R : α → β → Prop} {S : γ → δ → Prop} {x : Build α} {y : Build β}
    {f : α → Build γ} {g : β → Build δ} (first : Relates R x y)
    (next : ∀ a b, R a b → Relates S (f a) (g b)) : Relates S (x >>= f) (y >>= g) :=
  fun p q => next _ _ (first p q) (x.run p).2 (y.run q).2

theorem Relates.mono {R S : α → β → Prop} {x : Build α} {y : Build β} (relates : Relates R x y)
    (weaker : ∀ a b, R a b → S a b) : Relates S x y :=
  fun p q => weaker _ _ (relates p q)

theorem Relates.after {S : γ → δ → Prop} {x : Build α} {y : Build β} {f : α → Build γ}
    {g : β → Build δ} (next : ∀ a b, Relates S (f a) (g b)) : Relates S (x >>= f) (y >>= g) :=
  fun p q => next _ _ (x.run p).2 (y.run q).2

theorem Relates.afterLeft {S : γ → δ → Prop} {x : Build α} {f : α → Build γ} {y : Build δ}
    (next : ∀ a, Relates S (f a) y) : Relates S (x >>= f) y :=
  fun p q => next _ (x.run p).2 q

theorem Relates.mapM {R : β → γ → Prop} {f : α → Build β} {g : α → Build γ} {xs : List α}
    (each : ∀ x ∈ xs, Relates R (f x) (g x)) :
    Relates (List.Forall₂ R) (xs.mapM f) (xs.mapM g) := by
  induction xs with
  | nil => exact .pure .nil
  | cons x xs ih =>
      rw [List.mapM_cons, List.mapM_cons]
      obtain ⟨first, rest⟩ := List.forall_mem_cons.mp each
      refine first.bind fun y z related => ?_
      exact (ih rest).bind fun ys zs others => .pure (.cons related others)

theorem Relates.yields {P : α → Prop} {x : Build α} (relates : Relates (fun a _ => P a) x x) :
    Yields P x :=
  fun p => relates p p

theorem Yields.relates {P : α → Prop} {x : Build α} {y : Build β} (yields : Yields P x) :
    Relates (fun a _ => P a) x y :=
  fun p _ => yields p

theorem Yields.both {P : α → Prop} {Q : β → Prop} {x : Build α} {y : Build β} (left : Yields P x)
    (right : Yields Q y) : Relates (fun a b => P a ∧ Q b) x y :=
  fun p q => ⟨left p, right q⟩

theorem Relates.and {R S : α → β → Prop} {x : Build α} {y : Build β} (first : Relates R x y)
    (second : Relates S x y) : Relates (fun a b => R a b ∧ S a b) x y :=
  fun p q => ⟨first p q, second p q⟩

theorem unsupported_relates (cause : Option Fault) :
    Relates Symbol.SameRoot (unsupported cause) (unsupported cause) := by
  intro p q
  obtain ⟨n, left⟩ := unsupported_yields cause p
  obtain ⟨n', right⟩ := unsupported_yields cause q
  exact .inr ⟨n, n', cause, left, right⟩

end Build

end ClrTypes
