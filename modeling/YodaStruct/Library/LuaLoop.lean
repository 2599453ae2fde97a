import YodaStruct.Library.LuaHeap
import YodaStruct.Library.Simulation

/-! Loops over the tables of a store, with fuel. -/
namespace LuaTable.Heap
open Simulation

variable {ν ε : Type}

section Loop
variable (indexed : Heap ν → ν → Except ε (Table ν)) (outOfFuel : ε)

/-- `for _, v in ipairs(t) do body(v) end`, from `n` on. Each turn looks into the table as it is
by then. -/
def forIpairs (body : ν → Prog (Heap ν) ε Unit) (t : ν) : ℕ → ℤ → Prog (Heap ν) ε Unit
  | 0, _ => fun _ => .error outOfFuel
  | fuel + 1, n => fun h => do
    match (← indexed h t).at? n with
    | none => pure ((), h)
    | some v =>
      let (_, h') ← body v h
      forIpairs body t fuel (n + 1) h'

variable {indexed outOfFuel} {body : ν → Prog (Heap ν) ε Unit} {t : ν} {h h' : Heap ν}
  {tab : Table ν} {n : ℤ}

theorem forIpairs_of_none (ht : indexed h t = .ok tab) (hn : tab.at? n = none) (fuel : ℕ) :
    forIpairs indexed outOfFuel body t (fuel + 1) n h = .ok ((), h) := by
  simp only [forIpairs, ht, bind, Except.bind, hn]
  rfl

theorem forIpairs_of_some {v : ν} (ht : indexed h t = .ok tab) (hn : tab.at? n = some v)
    (hbody : body v h = .ok ((), h')) (fuel : ℕ) :
    forIpairs indexed outOfFuel body t (fuel + 1) n h =
      forIpairs indexed outOfFuel body t fuel (n + 1) h' := by
  simp only [forIpairs, ht, bind, Except.bind, hn, hbody]

/-- A loop over an array ends, with what its body keeps. The invariant is told the values that
are done, and has to keep the array. -/
theorem forIpairs_invariant {ξ : Type} {val : ξ → ν} {xs : List ξ} (I : List ξ → Heap ν → Prop)
    (harray : ∀ done h, I done h → ∃ tab, indexed h t = .ok tab ∧ tab.IsArray (xs.map val))
    (hbody : ∀ done x rest, xs = done ++ x :: rest → ∀ h, I done h →
      ∃ h', body (val x) h = .ok ((), h') ∧ I (done ++ [x]) h')
    (hI : I [] h) :
    ∃ h', EndsWith (fun fuel => forIpairs indexed outOfFuel body t fuel 1) h (.ok ((), h')) ∧
      I xs h' := by
  have hfrom : ∀ rest done h, xs = done ++ rest → I done h →
      ∃ h', (∀ fuel > rest.length,
        forIpairs indexed outOfFuel body t fuel (done.length + 1) h = .ok ((), h')) ∧ I xs h' := by
    intro rest
    induction rest with
    | nil =>
      intro done h hxs hI
      obtain ⟨tab, ht, harr⟩ := harray done h hI
      have hend : tab.at? (done.length + 1) = none := by
        rw [harr.succ, hxs]
        simp
      refine ⟨h, ?_, by simpa [hxs] using hI⟩
      intro fuel hfuel
      obtain ⟨fuel, rfl⟩ := Nat.exists_eq_succ_of_ne_zero hfuel.ne'
      exact forIpairs_of_none ht hend fuel
    | cons x rest ih =>
      intro done h hxs hI
      obtain ⟨tab, ht, harr⟩ := harray done h hI
      have hx : tab.at? (done.length + 1) = some (val x) := by
        rw [harr.succ, hxs]
        simp
      obtain ⟨h', hstep, hI'⟩ := hbody done x rest hxs h hI
      obtain ⟨h'', hrest, hend⟩ := ih (done ++ [x]) h' (by simpa using hxs) hI'
      refine ⟨h'', ?_, hend⟩
      intro fuel hfuel
      have hpos : 0 < fuel := Nat.zero_lt_of_lt hfuel
      obtain ⟨fuel, rfl⟩ := Nat.exists_eq_succ_of_ne_zero hpos.ne'
      have hlt : rest.length < fuel := by
        rw [List.length_cons] at hfuel
        omega
      have hgoal := hrest fuel hlt
      rw [List.length_append, List.length_singleton, Int.natCast_add] at hgoal
      exact (forIpairs_of_some ht hx hstep fuel).trans hgoal
  obtain ⟨h', hrun, hend⟩ := hfrom xs [] h rfl hI
  exact ⟨h', ⟨xs.length + 1, fun fuel hfuel => hrun fuel hfuel⟩, hend⟩

end Loop

end LuaTable.Heap
