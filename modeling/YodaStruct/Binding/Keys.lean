import YodaStruct.Binding.Calls
import YodaStruct.Binding.Topology

/-! The bindings for topology keys, with a container among their arguments that may be left out. -/
namespace YodaStruct.Binding
open YodaStruct.Config YodaStruct.Driver LuaTable Rekey Simulation

/-! `sol::optional` of a string, and of a container: a table is read as the container would be, and
userdata counts where it is of the type. -/

def optionalString : ScriptValue → Option CppString
  | .string s => some s
  | _ => none

/-- What the userdata among the values are is said by `userdata`. -/
def optionalContainer {α : Type} (read : LuaHeap → ScriptValue → Except CallError α)
    (userdata : ℕ → Option α) (h : LuaHeap) : ScriptValue → Except CallError (Option α)
  | .other i => if (h.tables i).isSome then some <$> read h (.other i) else pure (userdata i)
  | _ => pure none

def takeOptional {σ α : Type} (read : LuaHeap → ScriptValue → Except CallError α)
    (userdata : ℕ → Option α) (v : ScriptValue) : Script σ (Option α) :=
  Prog.look fun h => optionalContainer read userdata h v

/-- The same without Lua. -/
def Data.optional {α : Type} (view : Data → Except CallError α) (d : Data) :
    Except CallError (Option α) :=
  if d.isTable then some <$> view d else pure none

/-- The rows and the numbers as the topology of a graph takes them. -/
def toRows (rows : IntRows) : Rows := rows.map (·.map Int32.toInt)

/-- What the bindings read of `topo::fingerprint`. -/
structure FingerprintFields where
  key : CppString
  method : CppString
  hops : Int32
  atomKeys : List CppString
  /-- A map; its entries stand in the order in which it is iterated. -/
  classes : List (CppString × Int32)
  ringCensus : List Int32

def FingerprintFields.record (fp : FingerprintFields) : Record where
  fields :=
    [("key".toList, .value (.string fp.key)),
      ("method".toList, .value (.string fp.method)),
      ("hops".toList, .value (.ofInt32 fp.hops)),
      ("atomKeys".toList, .array (fp.atomKeys.map .string)),
      ("classes".toList, .names (fp.classes.map fun kv => (kv.1, .ofInt32 kv.2))),
      ("ringCensus".toList, .array (fp.ringCensus.map .ofInt32))]
  nodup := (by decide : (["key".toList, "method".toList, "hops".toList, "atomKeys".toList,
    "classes".toList, "ringCensus".toList] : List CppString).Nodup)

/-- What `topo::localKey` returns. -/
structure LocalKey where
  key : CppString
  method : CppString
  vertices : Int32
  edges : Int32

def LocalKey.record (lk : LocalKey) : Record where
  fields :=
    [("key".toList, .value (.string lk.key)),
      ("method".toList, .value (.string lk.method)),
      ("vertices".toList, .value (.ofInt32 lk.vertices)),
      ("edges".toList, .value (.ofInt32 lk.edges))]
  nodup := (by decide : (["key".toList, "method".toList, "vertices".toList, "edges".toList] :
    List CppString).Nodup)

/-- Each count under the key of its label, one after the other. -/
def LibraryMatch.countFields (m : LibraryMatch) : List (CppString × Scalar) :=
  m.counts.entries.map fun kv => (luaKey kv.1, .integer kv.2)

def LibraryMatch.record (m : LibraryMatch) : Record where
  fields :=
    [("labels".toList, .array (m.labels.map .string)),
      ("counts".toList, .names m.countFields),
      ("depth".toList, .array (m.depth.map .integer)),
      ("matched".toList, .value (.integer m.matched))]
  nodup := (by decide : (["labels".toList, "counts".toList, "depth".toList, "matched".toList] :
    List CppString).Nodup)

/-- The engine for keys. -/
structure KeyEngine (Fingerprint KeyLibrary : Type) extends
    TopologyEngine Fingerprint KeyLibrary where
  fields : Fingerprint → FingerprintFields
  localKey : Rows → ℤ → ℤ → List ℤ → LocalKey

/-- A result of the engine, or the exception that it ends with. -/
def engineResult {σ α : Type} (r : Except CppString α) : Prog σ CallError α :=
  StateT.lift (r.mapError .thrown)

section Bindings
variable {σ Fingerprint KeyLibrary : Type} (lua : Interpreter)
  (engine : KeyEngine Fingerprint KeyLibrary) (userdata : ℕ → Option (List Int32))

/-- `sol::optional<int>`, for the topology of a graph. -/
def optionalCount (v : ScriptValue) : Option ℤ := (optionalInt v).map Int32.toInt

def toColours (colours : Option (List Int32)) : Option (List ℤ) :=
  colours.map (·.map Int32.toInt)

def topologyFingerprint (rows hops maxRingSize colours : ScriptValue) : Script σ ScriptValue := do
  let rows ← takeNested lua rows
  let colours ← takeOptional (getInts lua.stringNumber) userdata colours
  let fp := engine.fingerprint (toRows rows) ((optionalCount hops).getD 2)
    ((optionalCount maxRingSize).getD 7) ((toColours colours).getD [])
  give (.record (engine.fields fp).record)

def localTopologyKey (rows atom hops colours : ScriptValue) : Script σ ScriptValue := do
  let rows ← takeNested lua rows
  let colours ← takeOptional (getInts lua.stringNumber) userdata colours
  let lk := engine.localKey (toRows rows) (getInt lua.stringNumber atom).toInt
    ((optionalCount hops).getD 2) ((toColours colours).getD [])
  give (.record lk.record)

/-- The binding of `topologyLibrary`. -/
def topologyLibraryBinding (rows : ScriptValue) (label : CppString)
    (hops maxRingSize colours existing : ScriptValue) : Script σ ScriptValue := do
  let rows ← takeNested lua rows
  let colours ← takeOptional (getInts lua.stringNumber) userdata colours
  let text ← Prog.lift (engineResult (topologyLibrary engine.toTopologyEngine (toRows rows) label
    (optionalCount hops) (optionalCount maxRingSize) (toColours colours)
    (optionalString existing)))
  give (.scalar (.string text))

/-- The binding of `classifyTopology`. -/
def classifyTopologyBinding (rows : ScriptValue) (library : LibraryArgument)
    (hops maxRingSize colours : ScriptValue) : Script σ ScriptValue := do
  let rows ← takeNested lua rows
  let colours ← takeOptional (getInts lua.stringNumber) userdata colours
  let m ← Prog.lift (engineResult (libraryMatch engine.toTopologyEngine (toRows rows) library
    (optionalCount hops) (optionalCount maxRingSize) (toColours colours)))
  give (.record m.record)

end Bindings

section Optional
variable {h : LuaHeap} {p : ℕ → Prop} {v : ScriptValue} {d : Data}

theorem StandsIn.optionalContainer_eq {α : Type} {read : LuaHeap → ScriptValue → Except CallError α}
    {view : Data → Except CallError α} (userdata : ℕ → Option α) (hs : StandsIn h p v d)
    (hread : read h v = view d) : optionalContainer read userdata h v = d.optional view := by
  rcases hs.cases with ⟨rfl, rfl⟩ | ⟨s, rfl, rfl⟩ | ⟨hd, i, t, rfl, ht⟩
  · rfl
  · cases s <;> rfl
  · have hsome : (h.tables i).isSome := by rw [ht, Option.isSome_some]
    unfold optionalContainer Data.optional
    simp only [if_pos hsome, if_pos hd, hread]

/-- A container that may be left out is read as what its data shows. -/
theorem takeOptional_bind {σ α β γ : Type} {read : LuaHeap → ScriptValue → Except CallError α}
    {view : Data → Except CallError α} (userdata : ℕ → Option α) (hs : StandsIn h p v d)
    (hread : read h v = view d) {f : Option α → Script σ β} {g : Option α → Prog σ CallError γ}
    {post : LuaHeap → β → γ → Prop} (hf : ∀ a, Simulates h (fun _ => f a) (g a) post) :
    Simulates h (fun _ => takeOptional read userdata v >>= f)
      (StateT.lift (d.optional view) >>= g) post := by
  apply Simulates.look_bind (fun h => optionalContainer read userdata h v)
    (matches_of_eq (hs.optionalContainer_eq userdata hread))
  rintro a _ rfl
  exact hf a

end Optional

/-! The counts. -/

theorem lookup_foldl_luaKey (entries : List (Entry CppString)) {t : Table Scalar}
    {u : Counts CppString} (htu : ∀ s, t.lookup (.name s) = (u.lookup s).map fun n => .integer n)
    (s : CppString) :
    ((entries.map fun kv => (luaKey kv.1, Scalar.integer kv.2)).foldl
        (fun t f => t.insert (.name f.1) f.2) t : Table Scalar).lookup (.name s) =
      ((rekeyInto luaKey u entries).lookup s).map fun n => .integer n := by
  induction entries generalizing t u with
  | nil => exact htu s
  | cons kv entries ih =>
    rw [rekeyInto_cons]
    apply ih
    intro s
    by_cases hs : s = luaKey kv.1
    · subst hs
      rw [AList.lookup_insert, AList.lookup_insert]
      rfl
    · rw [AList.lookup_insert_ne (by simpa using hs), AList.lookup_insert_ne hs]
      exact htu s

/-- The table of counts is the classification's, key by key. -/
theorem lookup_countFields (m : LibraryMatch) (s : CppString) :
    (Table.ofNames m.countFields).lookup (.name s) =
      ((rekey luaKey m.counts.entries).lookup s).map fun n => .integer n :=
  lookup_foldl_luaKey m.counts.entries (fun _ => rfl) s

end YodaStruct.Binding
