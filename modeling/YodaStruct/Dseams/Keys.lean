import YodaStruct.Binding.Rules
import YodaStruct.Binding.Keys
import YodaStruct.Dseams.Lua

/-! Topology keys, from the options of a request to what it gets: `fingerprint`,
`topology_library` and `classify_topology`. -/
namespace YodaStruct.Dseams
open YodaStruct.Config YodaStruct.Driver YodaStruct.Binding LuaTable Rekey Simulation

structure KeyOptions where
  hops : ScriptValue := .nil
  maxRing : ScriptValue := .nil
  colours : ScriptValue := .nil
  library : ScriptValue := .nil

instance : Inhabited KeyOptions := ⟨{}⟩

section Requests
variable {σ Fingerprint KeyLibrary : Type} (lua : Interpreter)
  (engine : KeyEngine Fingerprint KeyLibrary) (vectors : ℕ → Option (List Int32))

def fingerprint (rows : ScriptValue) (o : Option KeyOptions) : Script σ ScriptValue :=
  let o := opts o
  if o.colours.truthy then
    topologyFingerprint lua engine vectors rows (o.hops.orElse (.integer 2))
      (o.maxRing.orElse (.integer 7)) o.colours
  else
    topologyFingerprint lua engine vectors rows (o.hops.orElse (.integer 2))
      (o.maxRing.orElse (.integer 7)) .nil

def topologyLibrary (rows : ScriptValue) (label : CppString) (o : Option KeyOptions) :
    Script σ ScriptValue :=
  let o := opts o
  topologyLibraryBinding lua engine vectors rows label (o.hops.orElse (.integer 2))
    (o.maxRing.orElse (.integer 7)) o.colours o.library

def classifyTopology (rows : ScriptValue) (library : LibraryArgument) (o : Option KeyOptions) :
    Script σ ScriptValue :=
  let o := opts o
  classifyTopologyBinding lua engine vectors rows library (o.hops.orElse (.integer 2))
    (o.maxRing.orElse (.integer 7)) o.colours

end Requests

/-! What a request gets. -/

/-- The labels, the depths and the matches of a classification are there by their names, and the
count of every label in the table of counts. -/
structure Tells (r : Record) (c : Classification) : Prop where
  labels : (Data.record r).named "labels".toList = .ok (.list (c.labels.map .string))
  depth : (Data.record r).named "depth".toList = .ok (.list (c.depth.map .integer))
  matched : (Data.record r).named "matched".toList = .ok (.scalar (.integer c.matched))
  counts : ∃ counts, (Data.record r).named "counts".toList = .ok counts ∧
    ∀ s, counts.named s = .ok ((c.counts.lookup s).elim .absent fun n => .scalar (.integer n))

section Answers
variable {σ Fingerprint KeyLibrary : Type} (lua : Interpreter)
  (engine : KeyEngine Fingerprint KeyLibrary) (vectors : ℕ → Option (List Int32)) {h : LuaHeap}
  {p q : ℕ → Prop} {rows : ScriptValue} {d dColours : Data} {o : Option KeyOptions}

/-- How many, as the options say, or as the front end and the binding do. -/
def countOption (v : ScriptValue) (n : ℤ) : ℤ :=
  (optionalCount (v.orElse (.integer n))).getD n

theorem tells_record (m : LibraryMatch) : Tells m.record
    { labels := m.labels
      counts := rekey luaKey m.counts.entries
      depth := m.depth
      matched := m.matched } where
  labels := rfl
  depth := rfl
  matched := rfl
  counts := by
    refine ⟨.field (.names m.countFields), rfl, ?_⟩
    intro s
    change Except.ok (((Table.ofNames m.countFields).lookup (.name s)).elim Data.absent Data.scalar) =
      _
    rw [lookup_countFields]
    cases (rekey luaKey m.counts.entries).lookup s <;> rfl

theorem engineResult_bind {α β : Type} (r : Except CppString α) (f : α → β) :
    (engineResult (r >>= fun a => pure (f a)) : Prog σ CallError β) =
      engineResult r >>= fun a => pure (f a) := by
  cases r <;> rfl

/-- A list that stands for data is taken as the rows of that data, and the colours as its numbers
where they are a table. -/
theorem takeRows_bind (hrows : StandsIn h p rows d) {colours : ScriptValue}
    (hcolours : StandsIn h q colours dColours) {α β : Type}
    {f : IntRows → Option (List Int32) → Script σ α}
    {g : IntRows → Option (List Int32) → Prog σ CallError β} {post : LuaHeap → α → β → Prop}
    (hf : ∀ rows colours, Simulates h (fun _ => f rows colours) (g rows colours) post) :
    Simulates h
      (fun _ => takeNested lua rows >>= fun rows =>
        takeOptional (getInts lua.stringNumber) vectors colours >>= f rows)
      (StateT.lift (d.rows lua.stringNumber) >>= fun rows =>
        StateT.lift (dColours.optional (Data.ints lua.stringNumber)) >>= g rows) post := by
  apply Simulates.look_bind (fun h => getNested lua.stringNumber h rows)
    (matches_of_eq hrows.getNested_eq)
  rintro rows _ rfl
  exact takeOptional_bind vectors hcolours hcolours.getInts_eq (hf rows)

/-- Without colours, however it says so, a request for a fingerprint names none. -/
theorem optional_of_not_truthy {colours : ScriptValue} (hcolours : StandsIn h q colours dColours)
    (hc : ¬colours.truthy) {α : Type} (view : Data → Except CallError α) :
    dColours.optional view = pure none := by
  have hflat : dColours.isTable = false := by
    rcases hcolours.cases with ⟨rfl, rfl⟩ | ⟨s, rfl, rfl⟩ | ⟨-, i, t, rfl, -⟩
    · rfl
    · rfl
    · exact absurd rfl hc
  unfold Data.optional
  rw [hflat]
  rfl

/-- A request for a fingerprint or a library of keys gets what the engine makes of the rows and of
the colours that it names, if it names a list of them. -/
theorem keys_simulate (label : CppString) (hrows : StandsIn h p rows d)
    (hcolours : StandsIn h q (opts o).colours dColours) :
    Simulates h (fun _ => (fingerprint lua engine vectors rows o : Script σ _))
      (do
        let rows ← StateT.lift (d.rows lua.stringNumber)
        let colours ← StateT.lift (dColours.optional (Data.ints lua.stringNumber))
        pure (engine.fingerprint (toRows rows) (countOption (opts o).hops 2)
          (countOption (opts o).maxRing 7) ((toColours colours).getD [])))
      (fun h' v fp => Fresh h h' v (.record (engine.fields fp).record)) ∧
    Simulates h (fun _ => (topologyLibrary lua engine vectors rows label o : Script σ _))
      (do
        let rows ← StateT.lift (d.rows lua.stringNumber)
        let colours ← StateT.lift (dColours.optional (Data.ints lua.stringNumber))
        engineResult (Binding.topologyLibrary engine.toTopologyEngine (toRows rows) label
          (optionalCount ((opts o).hops.orElse (.integer 2)))
          (optionalCount ((opts o).maxRing.orElse (.integer 7))) (toColours colours)
          (optionalString (opts o).library)))
      (fun h' v text => h' = h ∧ v = .string text) := by
  constructor
  · have hgive : ∀ fp : Fingerprint,
        Simulates h (fun _ => (give (.record (engine.fields fp).record) : Script σ ScriptValue))
          (pure fp) fun h' v fp => Fresh h h' v (.record (engine.fields fp).record) :=
      simulates_push fun fp => .record (engine.fields fp).record
    unfold fingerprint
    by_cases hc : (opts o).colours.truthy
    · simp only [if_pos hc]
      apply takeRows_bind lua vectors hrows hcolours
      intro rows colours
      exact hgive _
    · have hnil : StandsIn h q .nil .absent := rfl
      simp only [if_neg hc, optional_of_not_truthy hcolours hc]
      apply takeRows_bind lua vectors hrows hnil
      intro rows colours
      exact hgive _
  · apply takeRows_bind lua vectors hrows hcolours
    intro rows colours
    exact simulates_scalar _ Scalar.string

end Answers

/-! Three rows with a colour for each, in an engine whose key for an atom is its colour. -/

def colourKeys : KeyEngine (List ℤ) CppString where
  emptyLibrary := []
  readLibrary := .ok
  writeLibrary := id
  fingerprint _ _ _ colours := colours
  addToLibrary _ _ label := label
  matchLibrary fp lib := labelMatch (fp.map fun colour => if colour = 1 then lib else [])
  matchLibraries _ libs _ colours :=
    labelMatch (colours.map fun colour => if colour = 1 then libs.headD [] else [])
  fields fp := ⟨[], "wl".toList, 2, [], [], fp.map .ofInt⟩
  localKey rows _ _ colours := ⟨[], "wl".toList, .ofNat rows.length, .ofNat colours.length⟩

def rowsPushed : ScriptValue × LuaHeap := (Data.nested [[1], [0], []]).push ⟨fun _ => none, 0⟩

def coloursPushed : ScriptValue × LuaHeap :=
  (Data.list [.integer 0, .integer 1, .integer 1]).push rowsPushed.2

theorem standsIn_rowsPushed :
    StandsIn coloursPushed.2 (fun i => 0 ≤ i ∧ i < coloursPushed.2.next) rowsPushed.1
      (.nested [[1], [0], []]) :=
  ((fresh_push _ _).extend (extends_push rowsPushed.2 _)).2

def coloured : Option KeyOptions := some { colours := coloursPushed.1 }

theorem standsIn_coloured :
    StandsIn coloursPushed.2 (fun i => rowsPushed.2.next ≤ i ∧ i < coloursPushed.2.next)
      (opts coloured).colours (.list [.integer 0, .integer 1, .integer 1]) :=
  standsIn_push rowsPushed.2 _

theorem keys_simulate_coloured :
    Simulates coloursPushed.2
      (fun _ => (fingerprint plainLua colourKeys (fun _ => none) rowsPushed.1 coloured :
        Script Unit ScriptValue))
      (pure [0, 1, 1])
      fun h' v fp => Fresh coloursPushed.2 h' v (.record (colourKeys.fields fp).record) :=
  (keys_simulate plainLua colourKeys (fun _ => none) [] standsIn_rowsPushed standsIn_coloured).1

end YodaStruct.Dseams
