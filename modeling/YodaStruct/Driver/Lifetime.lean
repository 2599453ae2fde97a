import YodaStruct.Driver.Run

/-! Lifetimes: which addresses of `main` the scripts can come across, and when every one of
them is of an object that still exists. -/
namespace YodaStruct.Driver
open YodaStruct.Config Transition Writes

/-- Every address in a global that `main` sets is of an object that exists. -/
def State.Safe (st : State) : Prop :=
  ∀ g ∈ Global.addressed, ∀ o, st.globals g = .pointer o → o ∈ st.live

/-- The objects that the open block declares. -/
def Control.declared : Control → List Object
  | .functionScript ph _ => ph.objects
  | _ => []

/-- Objects exist as long as the block that declares them is open. -/
theorem live_eq_declared {cfg : LuaConfig} {st : State} (h : (mainMachine cfg).Reachable st) :
    st.live = st.control.declared := by
  refine h.invariant (P := fun st => st.live = st.control.declared) ?_ ?_
  · intro st hst
    rw [hst.live, hst.control]
    rfl
  · intro st a st' ih hstep
    cases step_sound hstep with
    | finish hc => simpa [hc, Control.declared] using ih
    | enter ph todo hc => simpa [hc, Control.declared] using ih
    | skip ph todo hc => simpa [hc, Control.declared] using ih
    | script op hr => exact ih
    | opens ph todo hc => rfl
    | closes ph todo hc => rfl
    | fails hr => rfl

/-! One phase. -/

def NoAddress (globals : Globals) : Prop := ∀ g o, globals g ≠ .pointer o

/-- With at most one phase to run, addresses appear only in its block, and no script runs
after it. -/
def OnePhaseInv (cfg : LuaConfig) (st : State) : Prop :=
  match st.control with
  | .between todo =>
    NoAddress st.globals ∧ (todo.filter (enables cfg)).length ≤ 1 ∨ todo.filter (enables cfg) = []
  | .variablesScript _ todo => NoAddress st.globals ∧ todo.filter (enables cfg) = []
  | .functionScript ph todo =>
    (∀ g o, st.globals g = .pointer o → o ∈ ph.objects) ∧ todo.filter (enables cfg) = []
  | .failed | .done => True

theorem bindings_pointer {cfg : LuaConfig} {ph : Phase} {globals : Globals}
    (hn : NoAddress globals) {g : Global} {o : Object}
    (h : writeAll globals (bindings cfg ph) g = .pointer o) : o ∈ ph.objects := by
  rcases writeAll_cases globals (bindings cfg ph) g with ⟨w, hw, -, hv⟩ | ⟨-, hv⟩
  · exact mem_objects_of_mem_bindings cfg ph hw (hv.symm.trans h)
  · exact absurd (hv.symm.trans h) (hn g o)

theorem onePhaseInv_script {cfg : LuaConfig} {st : State} (hi : OnePhaseInv cfg st)
    (hr : st.RunsScript) (op : ScriptOp) :
    OnePhaseInv cfg { st with globals := op.apply st.globals } := by
  obtain ⟨control, live, globals⟩ := st
  cases control with
  | variablesScript ph todo =>
    refine ⟨?_, hi.2⟩
    intro g o hg
    obtain ⟨g', hg'⟩ := ScriptOp.exists_of_apply_eq_pointer hg
    exact hi.1 g' o hg'
  | functionScript ph todo =>
    refine ⟨?_, hi.2⟩
    intro g o hg
    obtain ⟨g', hg'⟩ := ScriptOp.exists_of_apply_eq_pointer hg
    exact hi.1 g' o hg'
  | between todo => exact hr.elim
  | failed => exact hr.elim
  | done => exact hr.elim

theorem onePhaseInv_step {cfg : LuaConfig} {st st' : State} (hi : OnePhaseInv cfg st)
    (hstep : Step cfg st st') : OnePhaseInv cfg st' := by
  cases hstep with
  | finish hc => trivial
  | enter ph todo hc he =>
    unfold OnePhaseInv at hi
    rw [hc] at hi
    dsimp only at hi
    rw [List.filter_cons_of_pos he] at hi
    rcases hi with ⟨hn, hl⟩ | hi
    · refine ⟨hn, List.length_eq_zero_iff.mp ?_⟩
      simpa using hl
    · cases hi
  | skip ph todo hc he =>
    unfold OnePhaseInv at hi
    rw [hc] at hi
    dsimp only at hi
    rw [List.filter_cons_of_neg (by simp [he])] at hi
    exact hi
  | script op hr => exact onePhaseInv_script hi hr op
  | opens ph todo hc =>
    unfold OnePhaseInv at hi
    rw [hc] at hi
    exact ⟨fun g o => bindings_pointer hi.1, hi.2⟩
  | closes ph todo hc =>
    unfold OnePhaseInv at hi
    rw [hc] at hi
    exact Or.inr hi.2
  | fails hr => trivial

theorem OnePhaseInv.safe {cfg : LuaConfig} {st : State} (hi : OnePhaseInv cfg st)
    (hl : st.live = st.control.declared) (hr : st.RunsScript) : st.Safe := by
  obtain ⟨control, live, globals⟩ := st
  cases control with
  | variablesScript ph todo => exact fun g _ o hg => absurd hg (hi.1 g o)
  | functionScript ph todo =>
    intro g _ o hg
    have hlive : live = ph.objects := hl
    rw [hlive]
    exact hi.1 g o hg
  | between todo => exact hr.elim
  | failed => exact hr.elim
  | done => exact hr.elim

/-! Two phases. -/

section Reach
variable {cfg : LuaConfig}

/-- `main` comes to the next enabled block. -/
theorem reachable_enter {todo rest : List Phase} {ph : Phase} {live : List Object}
    {globals : Globals} (h : (mainMachine cfg).Reachable ⟨.between todo, live, globals⟩)
    (hf : todo.filter (enables cfg) = ph :: rest) :
    ∃ todo', todo'.filter (enables cfg) = rest ∧
      (mainMachine cfg).Reachable ⟨.variablesScript ph todo', live, globals⟩ := by
  induction todo with
  | nil => cases hf
  | cons p todo ih =>
    have hadv : (mainMachine cfg).Reachable
        ⟨if enables cfg p then .variablesScript p todo else .between todo, live, globals⟩ :=
      .step .advance h rfl
    cases he : enables cfg p with
    | true =>
      rw [List.filter_cons_of_pos he] at hf
      obtain ⟨rfl, hrest⟩ := List.cons.inj hf
      rw [he, if_pos rfl] at hadv
      exact ⟨todo, hrest, hadv⟩
    | false =>
      rw [List.filter_cons_of_neg (by simp [he])] at hf
      rw [he, if_neg (by simp)] at hadv
      exact ih hadv hf

/-- A variables script that does no more than name a function script, a function script
that does nothing, and the block is closed with its globals set. -/
theorem reachable_closed {ph : Phase} {todo : List Phase} {live : List Object}
    {globals : Globals} (h : (mainMachine cfg).Reachable ⟨.variablesScript ph todo, live, globals⟩) :
    (mainMachine cfg).Reachable ⟨.between todo, [],
      writeAll (Function.update globals .functionScript (.plain (.string [])))
        (bindings cfg ph)⟩ := by
  have hrun : (mainMachine cfg).run ⟨.variablesScript ph todo, live, globals⟩
      [.script (.write .functionScript (.string [])), .scriptEnds true, .scriptEnds true] =
      some ⟨.between todo, [], writeAll
        (Function.update globals .functionScript (.plain (.string []))) (bindings cfg ph)⟩ := by
    simp [Machine.run, mainMachine, step, State.RunsScript, ScriptOp.apply, openBlock,
      LuaValue.IsText]
  exact h.run hrun

/-- Every block sets `resCloud`. -/
theorem writeAll_bindings_resCloud (cfg : LuaConfig) (ph : Phase) (globals : Globals) :
    writeAll globals (bindings cfg ph) .resCloud = .pointer ⟨ph, .resCloud⟩ := by
  have hm : (Global.resCloud, LuaValue.pointer ⟨ph, .resCloud⟩) ∈ bindings cfg ph := by
    cases ph <;> simp [bindings]
  exact writeAll_of_mem (bindings_nodup cfg ph) hm

/-- The variables script of a second phase runs with what the first phase left. -/
theorem exists_not_safe {p q : Phase} {rest : List Phase}
    (h : Phase.order.filter (enables cfg) = p :: q :: rest) :
    ∃ st, (mainMachine cfg).Reachable st ∧ st.RunsScript ∧ ¬ st.Safe := by
  have hinit : (mainMachine cfg).Reachable ⟨.between Phase.order, [], fun _ => .plain .nil⟩ :=
    .init ⟨rfl, rfl, fun _ => ⟨.nil, rfl⟩⟩
  obtain ⟨todo, htodo, hp⟩ := reachable_enter hinit h
  obtain ⟨todo', -, hq⟩ := reachable_enter (reachable_closed hp) htodo
  refine ⟨_, hq, trivial, ?_⟩
  intro hs
  have hdead := hs .resCloud (by simp [Global.addressed]) ⟨p, .resCloud⟩
    (writeAll_bindings_resCloud cfg p _)
  cases hdead

end Reach

/-- Scripts come across no dead address exactly when at most one phase is enabled. -/
theorem scripts_safe_iff (cfg : LuaConfig) :
    (∀ st, (mainMachine cfg).Reachable st → st.RunsScript → st.Safe) ↔
      (Phase.order.filter (enables cfg)).length ≤ 1 := by
  constructor
  · intro hsafe
    by_contra hlen
    match hf : Phase.order.filter (enables cfg), hlen with
    | p :: q :: rest, _ =>
      obtain ⟨st, hst, hr, hn⟩ := exists_not_safe hf
      exact hn (hsafe st hst hr)
    | [p], hlen => simp at hlen
    | [], hlen => simp at hlen
  · intro hlen st hst hr
    have hinv : OnePhaseInv cfg st := by
      refine hst.invariant (P := OnePhaseInv cfg) ?_
        fun _ _ _ hi h => onePhaseInv_step hi (step_sound h)
      intro st hi
      unfold OnePhaseInv
      rw [hi.control]
      refine Or.inl ⟨?_, hlen⟩
      intro g o hg
      obtain ⟨v, hv⟩ := hi.globals g
      rw [hv] at hg
      cases hg
    exact hinv.safe (live_eq_declared hst) hr

def twoPhases : LuaConfig where
  variablesFile := "variables.lua".toList
  topoTwoDim := true
  topoOneDim := true

/-- Two phases are enough for a script to come across a dead `resCloud`. -/
theorem twoPhases_not_safe :
    ∃ st, (mainMachine twoPhases).Reachable st ∧ st.RunsScript ∧ ¬ st.Safe := by
  have hf : Phase.order.filter (enables twoPhases) = [.topoTwoDim, .topoOneDim] := rfl
  exact exists_not_safe hf

end YodaStruct.Driver
