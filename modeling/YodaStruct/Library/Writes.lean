import Mathlib.Data.List.Nodup
import Mathlib.Logic.Function.Basic

/-! A store after a list of writes, carried out one after the other. -/
namespace Writes

variable {κ ν : Type*} [DecidableEq κ]

def writeAll (store : κ → ν) (writes : List (κ × ν)) : κ → ν :=
  writes.foldl (fun s w => Function.update s w.1 w.2) store

theorem writeAll_cons (store : κ → ν) (w : κ × ν) (writes : List (κ × ν)) :
    writeAll store (w :: writes) = writeAll (Function.update store w.1 w.2) writes := rfl

/-- A place holds what one of the writes put there, or what it held before. -/
theorem writeAll_cases (store : κ → ν) (writes : List (κ × ν)) (k : κ) :
    (∃ w ∈ writes, w.1 = k ∧ writeAll store writes k = w.2) ∨
      (∀ w ∈ writes, w.1 ≠ k) ∧ writeAll store writes k = store k := by
  induction writes generalizing store with
  | nil => exact Or.inr ⟨by simp, rfl⟩
  | cons w writes ih =>
    rw [writeAll_cons]
    rcases ih (Function.update store w.1 w.2) with ⟨w', hw', hk, hv⟩ | ⟨hn, hv⟩
    · exact Or.inl ⟨w', List.mem_cons_of_mem _ hw', hk, hv⟩
    · by_cases hk : w.1 = k
      · subst hk
        rw [Function.update_self] at hv
        exact Or.inl ⟨w, List.mem_cons_self, rfl, hv⟩
      · rw [Function.update_of_ne (Ne.symm hk)] at hv
        refine Or.inr ⟨?_, hv⟩
        intro w' hw'
        rcases List.mem_cons.mp hw' with rfl | hw'
        · exact hk
        · exact hn w' hw'

/-- Of writes to distinct places, each one stays. -/
theorem writeAll_of_mem {store : κ → ν} {writes : List (κ × ν)}
    (hd : (writes.map Prod.fst).Nodup) {w : κ × ν} (h : w ∈ writes) :
    writeAll store writes w.1 = w.2 := by
  rcases writeAll_cases store writes w.1 with ⟨w', hw', hk, hv⟩ | ⟨hn, -⟩
  · rw [hv, List.inj_on_of_nodup_map hd hw' h hk]
  · exact absurd rfl (hn w h)

end Writes
