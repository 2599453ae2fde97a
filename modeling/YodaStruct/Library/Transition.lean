import Mathlib.Data.Option.Basic

/-! Machines with guarded steps, their runs, what is seen of these, and the invariant rule. -/
namespace Transition

structure Machine (σ α : Type*) where
  Init : σ → Prop
  step : σ → α → Option σ

namespace Machine
variable {σ α ο : Type*} (M : Machine σ α)

inductive Reachable : σ → Prop
  | init {s : σ} (h : M.Init s) : Reachable s
  | step {s t : σ} (a : α) (hs : Reachable s) (h : M.step s a = some t) : Reachable t

/-- What the machine does on a list of actions, if every one is possible. -/
def run (s : σ) : List α → Option σ
  | [] => some s
  | a :: as => (M.step s a).bind fun t => run t as

/-- A run from one state to another, with what `out` shows of every step. -/
inductive Traces (out : σ → α → σ → List ο) : σ → List ο → σ → Prop
  | refl (s : σ) : Traces out s [] s
  | step {s t u : σ} {seen : List ο} (a : α) (h : M.step s a = some t)
      (ht : Traces out t seen u) : Traces out s (out s a t ++ seen) u

variable {M}

theorem Reachable.invariant {P : σ → Prop} (hinit : ∀ s, M.Init s → P s)
    (hstep : ∀ s a t, P s → M.step s a = some t → P t) {s : σ} (hs : M.Reachable s) : P s := by
  induction hs with
  | init h => exact hinit _ h
  | step a _ h ih => exact hstep _ a _ ih h

theorem Reachable.run {s t : σ} {as : List α} (hs : M.Reachable s) (h : M.run s as = some t) :
    M.Reachable t := by
  induction as generalizing s with
  | nil =>
    have : s = t := Option.some.inj h
    subst t
    exact hs
  | cons a as ih =>
    obtain ⟨u, hu, ht⟩ := Option.bind_eq_some_iff.mp h
    exact ih (.step a hs hu) ht

variable {out : σ → α → σ → List ο} {s t u : σ} {seen seen' : List ο}

theorem Traces.trans (hs : M.Traces out s seen t) (ht : M.Traces out t seen' u) :
    M.Traces out s (seen ++ seen') u := by
  induction hs with
  | refl s => exact ht
  | step a h _ ih =>
    rw [List.append_assoc]
    exact .step a h (ih ht)

theorem Traces.single (a : α) (h : M.step s a = some t) : M.Traces out s (out s a t) t := by
  have hone : M.Traces out s (out s a t ++ []) t := .step a h (.refl t)
  rwa [List.append_nil] at hone

theorem Traces.reachable (ht : M.Traces out s seen t) (hs : M.Reachable s) : M.Reachable t := by
  induction ht with
  | refl s => exact hs
  | step a h _ ih => exact ih (.step a hs h)

end Machine

end Transition
