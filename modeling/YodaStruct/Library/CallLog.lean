import Mathlib.Data.List.Basic

/-! Programs that call on another component: the calls they make, in order, and how they end. -/
namespace CallLog

structure Run (κ ε α : Type) where
  calls : List κ
  result : Except ε α

namespace Run
variable {κ ε α β : Type}

instance : Monad (Run κ ε) where
  pure a := ⟨[], .ok a⟩
  bind run next :=
    match run.result with
    | .ok a => ⟨run.calls ++ (next a).calls, (next a).result⟩
    | .error e => ⟨run.calls, .error e⟩

/-- What is worked out without a call. -/
def ofExcept (answer : Except ε α) : Run κ ε α := ⟨[], answer⟩

def raise (e : ε) : Run κ ε α := ofExcept (.error e)

/-- A call, which ends as its answer says. -/
def call (c : κ) (answer : Except ε α) : Run κ ε α := ⟨[c], answer⟩

theorem ofExcept_ok_bind (a : α) (next : α → Run κ ε β) : ofExcept (.ok a) >>= next = next a := rfl

structure Returns (run : Run κ ε α) (calls : List κ) (a : α) : Prop where
  calls_eq : run.calls = calls
  result_eq : run.result = .ok a

theorem returns_self {run : Run κ ε α} {a : α} (h : run.result = .ok a) :
    run.Returns run.calls a := ⟨rfl, h⟩

@[simp] theorem returns_pure {calls : List κ} {a b : α} :
    (pure a : Run κ ε α).Returns calls b ↔ calls = [] ∧ b = a := by
  constructor
  · intro hret
    obtain ⟨rfl, h⟩ := hret
    cases h
    exact ⟨rfl, rfl⟩
  · intro hret
    obtain ⟨rfl, rfl⟩ := hret
    exact ⟨rfl, rfl⟩

@[simp] theorem not_returns_raise {calls : List κ} {e : ε} {a : α} :
    ¬(raise e : Run κ ε α).Returns calls a := fun h => nomatch h.result_eq

/-- A program that goes on after a call returns when the call does and what follows it does. -/
theorem returns_call_bind {c : κ} {answer : Except ε α} {next : α → Run κ ε β}
    {calls : List κ} {b : β} :
    (call c answer >>= next).Returns calls b ↔
      ∃ a rest, answer = .ok a ∧ (next a).Returns rest b ∧ calls = c :: rest := by
  cases answer with
  | ok a =>
    constructor
    · intro hret
      obtain ⟨rfl, h⟩ := hret
      exact ⟨a, _, rfl, ⟨rfl, h⟩, rfl⟩
    · intro hret
      obtain ⟨_, rest, ha, ⟨rfl, h⟩, rfl⟩ := hret
      cases ha
      exact ⟨rfl, h⟩
  | error e =>
    constructor
    · intro hret
      obtain ⟨-, h⟩ := hret
      cases h
    · intro hret
      obtain ⟨_, _, ha, _⟩ := hret
      cases ha

theorem returns_ofExcept_bind {answer : Except ε α} {next : α → Run κ ε β}
    {calls : List κ} {b : β} :
    (ofExcept answer >>= next).Returns calls b ↔
      ∃ a, answer = .ok a ∧ (next a).Returns calls b := by
  cases answer with
  | ok a =>
    constructor
    · intro hret
      obtain ⟨rfl, h⟩ := hret
      exact ⟨a, rfl, rfl, h⟩
    · intro hret
      obtain ⟨_, ha, rfl, h⟩ := hret
      cases ha
      exact ⟨rfl, h⟩
  | error e =>
    constructor
    · intro hret
      obtain ⟨-, h⟩ := hret
      cases h
    · intro hret
      obtain ⟨_, ha, _⟩ := hret
      cases ha

end Run

end CallLog
