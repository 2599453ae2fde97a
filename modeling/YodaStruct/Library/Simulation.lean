import Mathlib.Data.List.Forall2
import Mathlib.Order.Lattice

/-! Two fallible programs side by side. One has fuel for its loops and works on a store of its
own beside the state that they share; it simulates the other when it ends, with enough fuel, as
the other does, with the same state and a result that its store makes stand for the other's. -/
namespace Simulation

/-- A program on a state that may fail. -/
abbrev Prog (σ ε α : Type) := StateT σ (Except ε) α

variable {η σ ε α α' β β' : Type}

/-- A program that leaves the store alone. -/
def Prog.lift (d : Prog σ ε α) : Prog (η × σ) ε α := fun st =>
  (d st.2).map fun r => (r.1, (st.1, r.2))

/-- A program that works on the store only. -/
def Prog.onStore (k : Prog η ε α) : Prog (η × σ) ε α := fun st =>
  (k st.1).map fun r => (r.1, (r.2, st.2))

/-- What a look into the store shows. -/
def Prog.look (read : η → Except ε α) : Prog (η × σ) ε α :=
  Prog.onStore fun h => do pure (← read h, h)

theorem Prog.onStore_bind_eq {k : Prog η ε α} {h h' : η} {a : α} (hk : k h = .ok (a, h'))
    (f : α → Prog (η × σ) ε β) (s : σ) : (Prog.onStore k >>= f) (h, s) = f a (h', s) := by
  calc (Prog.onStore k >>= f) (h, s) =
      (((k h).map fun r => (r.1, (r.2, s))) >>= fun r => f r.1 r.2) := rfl
    _ = f a (h', s) := by
      rw [hk]
      rfl

/-- With enough fuel the result is `r`. -/
def EndsWith (m : ℕ → Prog σ ε α) (s : σ) (r : Except ε (α × σ)) : Prop :=
  ∃ enough, ∀ fuel ≥ enough, m fuel s = r

theorem endsWith_const (m : Prog σ ε α) (s : σ) : EndsWith (fun _ => m) s (m s) :=
  ⟨0, fun _ _ => rfl⟩

theorem EndsWith.bind_error {m : ℕ → Prog σ ε α} {f : ℕ → α → Prog σ ε β} {s : σ} {e : ε}
    (hm : EndsWith m s (.error e)) : EndsWith (fun fuel => m fuel >>= f fuel) s (.error e) := by
  obtain ⟨enough, hm⟩ := hm
  refine ⟨enough, ?_⟩
  intro fuel hfuel
  calc (m fuel >>= f fuel) s = (m fuel s >>= fun r => f fuel r.1 r.2) := rfl
    _ = .error e := by
      rw [hm fuel hfuel]
      rfl

theorem EndsWith.bind_ok {m : ℕ → Prog σ ε α} {f : ℕ → α → Prog σ ε β} {s s' : σ} {a : α}
    {r : Except ε (β × σ)} (hm : EndsWith m s (.ok (a, s')))
    (hf : EndsWith (fun fuel => f fuel a) s' r) : EndsWith (fun fuel => m fuel >>= f fuel) s r := by
  obtain ⟨enough, hm⟩ := hm
  obtain ⟨enough', hf⟩ := hf
  refine ⟨max enough enough', ?_⟩
  intro fuel hfuel
  calc (m fuel >>= f fuel) s = (m fuel s >>= fun r => f fuel r.1 r.2) := rfl
    _ = f fuel a s' := by
      rw [hm fuel (le_trans (le_max_left _ _) hfuel)]
      rfl
    _ = r := hf fuel (le_trans (le_max_right _ _) hfuel)

/-- What works on the store only ends as it does there. -/
theorem EndsWith.onStore {k : ℕ → Prog η ε α} {h h' : η} {a : α} (hk : EndsWith k h (.ok (a, h')))
    (s : σ) : EndsWith (fun fuel => Prog.onStore (k fuel)) (h, s) (.ok (a, (h', s))) := by
  obtain ⟨enough, hk⟩ := hk
  refine ⟨enough, ?_⟩
  intro fuel hfuel
  have hrun := hk fuel hfuel
  calc Prog.onStore (k fuel) (h, s) = (k fuel h).map fun r => (r.1, (r.2, s)) := rfl
    _ = .ok (a, (h', s)) := by
      rw [hrun]
      rfl

theorem EndsWith.onStore_error {k : ℕ → Prog η ε α} {h : η} {e : ε} (hk : EndsWith k h (.error e))
    (s : σ) : EndsWith (fun fuel => Prog.onStore (k fuel)) (h, s) (.error e) := by
  obtain ⟨enough, hk⟩ := hk
  refine ⟨enough, ?_⟩
  intro fuel hfuel
  have hrun := hk fuel hfuel
  calc Prog.onStore (k fuel) (h, s) = (k fuel h).map fun r => (r.1, (r.2, s)) := rfl
    _ = .error e := by
      rw [hrun]
      rfl

/-- From the store `h`, `m` fails as `d` does, or returns with `post`. -/
def Simulates (h : η) (m : ℕ → Prog (η × σ) ε α) (d : Prog σ ε β) (post : η → α → β → Prop) :
    Prop :=
  ∀ s, match d s with
    | .error e => EndsWith m (h, s) (.error e)
    | .ok (b, s') => ∃ a h', post h' a b ∧ EndsWith m (h, s) (.ok (a, (h', s')))

variable {h h' : η} {m : ℕ → Prog (η × σ) ε α} {d : Prog σ ε β} {mid post : η → α → β → Prop}

theorem Simulates.pure {a : α} {b : β} (hpost : post h a b) :
    Simulates h (fun _ => (pure a : Prog (η × σ) ε α)) (pure b) post :=
  fun s => ⟨a, h, hpost, endsWith_const _ (h, s)⟩

theorem Simulates.weaken (hm : Simulates h m d mid) (hpost : ∀ h' a b, mid h' a b → post h' a b) :
    Simulates h m d post := by
  intro s
  have hrun := hm s
  cases hd : d s with
  | error e => rwa [hd] at hrun
  | ok r =>
    rw [hd] at hrun
    obtain ⟨a, h', hmid, hends⟩ := hrun
    exact ⟨a, h', hpost h' a r.1 hmid, hends⟩

/-- One program after the other. -/
theorem Simulates.bind {f : ℕ → α → Prog (η × σ) ε α'} {g : β → Prog σ ε β'}
    {post' : η → α' → β' → Prop} (hm : Simulates h m d mid)
    (hf : ∀ h' a b, mid h' a b → Simulates h' (fun fuel => f fuel a) (g b) post') :
    Simulates h (fun fuel => m fuel >>= f fuel) (d >>= g) post' := by
  intro s
  have hrun := hm s
  have hbind : (d >>= g) s = (d s >>= fun r => g r.1 r.2) := rfl
  rw [hbind]
  cases hd : d s with
  | error e =>
    rw [hd] at hrun
    exact hrun.bind_error
  | ok r =>
    rw [hd] at hrun
    obtain ⟨a, h', hmid, hends⟩ := hrun
    have hrest := hf h' a r.1 hmid r.2
    change match g r.1 r.2 with
      | .error e => EndsWith (fun fuel => m fuel >>= f fuel) (h, s) (.error e)
      | .ok (b, s') => ∃ a h', post' h' a b ∧
          EndsWith (fun fuel => m fuel >>= f fuel) (h, s) (.ok (a, (h', s')))
    cases hg : g r.1 r.2 with
    | error e =>
      rw [hg] at hrest
      exact hends.bind_ok hrest
    | ok r' =>
      rw [hg] at hrest
      obtain ⟨a', h'', hpost, hends'⟩ := hrest
      exact ⟨a', h'', hpost, hends.bind_ok hends'⟩

theorem Simulates.lift (h : η) (d : Prog σ ε α) :
    Simulates h (fun _ => Prog.lift d) d fun h' a b => h' = h ∧ a = b := by
  intro s
  have hends : EndsWith (fun _ => Prog.lift d) (h, s) ((d s).map fun r => (r.1, (h, r.2))) :=
    endsWith_const _ (h, s)
  cases hd : d s with
  | error e =>
    rw [hd] at hends
    exact hends
  | ok r =>
    rw [hd] at hends
    exact ⟨r.1, h, ⟨rfl, rfl⟩, hends⟩

/-- A step on the state that both share. -/
theorem Simulates.lift_bind {d : Prog σ ε α} {f : ℕ → α → Prog (η × σ) ε α'}
    {g : α → Prog σ ε β'} {post' : η → α' → β' → Prop}
    (hf : ∀ a, Simulates h (fun fuel => f fuel a) (g a) post') :
    Simulates h (fun fuel => Prog.lift d >>= f fuel) (d >>= g) post' := by
  refine (Simulates.lift h d).bind ?_
  intro h' a b hab
  obtain ⟨rfl, rfl⟩ := hab
  exact hf a

/-- A step on the store alone. -/
theorem Simulates.onStore_bind {k : ℕ → Prog η ε α} {a : α} (hk : EndsWith k h (.ok (a, h')))
    {f : ℕ → α → Prog (η × σ) ε α'} {g : Prog σ ε β'} {post' : η → α' → β' → Prop}
    (hf : Simulates h' (fun fuel => f fuel a) g post') :
    Simulates h (fun fuel => Prog.onStore (k fuel) >>= f fuel) g post' := by
  intro s
  have hrun := hf s
  cases hg : g s with
  | error e =>
    rw [hg] at hrun
    exact (hk.onStore s).bind_ok hrun
  | ok r =>
    rw [hg] at hrun
    obtain ⟨a', h'', hpost, hends⟩ := hrun
    exact ⟨a', h'', hpost, (hk.onStore s).bind_ok hends⟩

/-- A last step on the store alone. -/
theorem Simulates.onStore {k : ℕ → Prog η ε α} {a : α} (hk : EndsWith k h (.ok (a, h'))) {b : β}
    (hpost : post h' a b) :
    Simulates h (fun fuel => (Prog.onStore (k fuel) : Prog (η × σ) ε α)) (Pure.pure b) post :=
  fun s => ⟨a, h', hpost, hk.onStore s⟩

/-- A step on the store alone that fails. -/
theorem Simulates.onStore_throw {k : ℕ → Prog η ε α} {e : ε} (hk : EndsWith k h (.error e))
    {f : ℕ → α → Prog (η × σ) ε α'} {post' : η → α' → β' → Prop} :
    Simulates h (fun fuel => Prog.onStore (k fuel) >>= f fuel) (throw e : Prog σ ε β') post' :=
  fun s => (hk.onStore_error s).bind_error

/-- The same error, or results in the relation. -/
inductive Matches (R : α → β → Prop) : Except ε α → Except ε β → Prop
  | error (e : ε) : Matches R (.error e) (.error e)
  | ok {a : α} {b : β} (hab : R a b) : Matches R (.ok a) (.ok b)

theorem matches_of_eq {x y : Except ε α} (he : x = y) : Matches Eq x y := by
  subst he
  cases x with
  | error e => exact .error e
  | ok a => exact .ok rfl

theorem Matches.eq {x y : Except ε α} (hm : Matches Eq x y) : x = y := by
  cases hm with
  | error e => rfl
  | ok hab => rw [hab]

theorem Matches.bind {R : α → β → Prop} {S : α' → β' → Prop} {x : Except ε α} {y : Except ε β}
    (hm : Matches R x y) {f : α → Except ε α'} {g : β → Except ε β'}
    (hf : ∀ a b, R a b → Matches S (f a) (g b)) : Matches S (x >>= f) (y >>= g) := by
  cases hm with
  | error e => exact .error e
  | ok hab => exact hf _ _ hab

theorem Matches.mapM {R : α → β → Prop} {S : α' → β' → Prop} {as : List α} {bs : List β}
    (hl : List.Forall₂ R as bs) {f : α → Except ε α'} {g : β → Except ε β'}
    (hf : ∀ a b, R a b → Matches S (f a) (g b)) :
    Matches (List.Forall₂ S) (as.mapM f) (bs.mapM g) := by
  induction hl with
  | nil => exact .ok .nil
  | cons hab _ ih =>
    rw [List.mapM_cons, List.mapM_cons]
    apply (hf _ _ hab).bind
    intro a' b' hab'
    apply ih.bind
    intro as' bs' hl'
    exact .ok (.cons hab' hl')

theorem Prog.look_eq {read : η → Except ε α} {x : Except ε α} (hx : read h = x) :
    (read h >>= fun a => (.ok (a, h) : Except ε (α × η))) = x.map fun a => (a, h) := by
  rw [hx]
  cases x <;> rfl

theorem Simulates.look_bind_ok (read : η → Except ε α) {a : α} (ha : read h = .ok a)
    {f : ℕ → α → Prog (η × σ) ε α'} {g : Prog σ ε β'} {post' : η → α' → β' → Prop}
    (hf : Simulates h (fun fuel => f fuel a) g post') :
    Simulates h (fun fuel => Prog.look read >>= f fuel) g post' := by
  have hlook := Prog.look_eq ha
  exact Simulates.onStore_bind ⟨0, fun _ _ => hlook⟩ hf

/-- A step that takes what the store shows. -/
theorem Simulates.look_bind (read : η → Except ε α) {view : Except ε β} {R : α → β → Prop}
    (hv : Matches R (read h) view) {f : ℕ → α → Prog (η × σ) ε α'} {g : β → Prog σ ε β'}
    {post' : η → α' → β' → Prop}
    (hf : ∀ a b, R a b → Simulates h (fun fuel => f fuel a) (g b) post') :
    Simulates h (fun fuel => Prog.look read >>= f fuel) (StateT.lift view >>= g) post' := by
  generalize hread : read h = x at hv
  have hlook := Prog.look_eq hread
  cases hv with
  | error e => exact Simulates.onStore_throw ⟨0, fun _ _ => hlook⟩
  | ok hab => exact Simulates.look_bind_ok read hread (hf _ _ hab)

theorem Simulates.throw (h : η) (e : ε) :
    Simulates h (fun _ => (throw e : Prog (η × σ) ε α)) (throw e : Prog σ ε β) post :=
  fun s => endsWith_const _ (h, s)

end Simulation
