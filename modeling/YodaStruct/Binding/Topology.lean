import YodaStruct.Config.Reader
import YodaStruct.Library.Rekey

/-! The topology bindings: building a key library, and naming atoms by one. The engine that
makes and matches the keys is a parameter. -/
namespace YodaStruct.Binding
open YodaStruct.Config Rekey

abbrev Rows := List (List ℤ)

/-- What the engine makes of a set of atoms and a library. -/
structure LibraryMatch where
  labels : List CppString
  /-- A map; its entries stand in the order in which it is iterated. -/
  counts : Counts CppString
  depth : List ℤ
  matched : ℤ

/-- Every label, also the empty one, is counted. -/
def LibraryMatch.CountsLabels (m : LibraryMatch) : Prop :=
  ∀ l, (m.counts.lookup l).getD 0 = m.labels.count l

structure TopologyEngine (Fingerprint KeyLibrary : Type) where
  emptyLibrary : KeyLibrary
  readLibrary : CppString → Except CppString KeyLibrary
  writeLibrary : KeyLibrary → CppString
  fingerprint : Rows → ℤ → ℤ → List ℤ → Fingerprint
  addToLibrary : KeyLibrary → Fingerprint → CppString → KeyLibrary
  matchLibrary : Fingerprint → KeyLibrary → LibraryMatch
  matchLibraries : Rows → List KeyLibrary → ℤ → List ℤ → LibraryMatch

section Engine
variable {Fingerprint KeyLibrary : Type} (engine : TopologyEngine Fingerprint KeyLibrary)

structure TopologyEngine.CountsLabels : Prop where
  matchLibrary : ∀ fp lib, (engine.matchLibrary fp lib).CountsLabels
  matchLibraries : ∀ rows libs maxRingSize colours,
    (engine.matchLibraries rows libs maxRingSize colours).CountsLabels

/-- Any label may go into a library. -/
def topologyLibrary (rows : Rows) (label : CppString) (hops maxRingSize : Option ℤ)
    (colours : Option (List ℤ)) (existing : Option CppString) : Except CppString CppString := do
  let lib ← match existing with
    | some text => if text ≠ [] then engine.readLibrary text else pure engine.emptyLibrary
    | none => pure engine.emptyLibrary
  let fp := engine.fingerprint rows (hops.getD 2) (maxRingSize.getD 7) (colours.getD [])
  pure (engine.writeLibrary (engine.addToLibrary lib fp label))

/-- The `library` argument of `classifyTopology`. -/
inductive LibraryArgument
  | text (s : CppString)
  | texts (ss : List CppString)
  | other

/-- The part of `classifyTopology` that asks the engine. -/
def libraryMatch (rows : Rows) (library : LibraryArgument) (hops maxRingSize : Option ℤ)
    (colours : Option (List ℤ)) : Except CppString LibraryMatch :=
  let cols := colours.getD []
  match library with
  | .text s => do
    let fp := engine.fingerprint rows (hops.getD 2) (maxRingSize.getD 7) cols
    pure (engine.matchLibrary fp (← engine.readLibrary s))
  | .texts ss => do
    let libs ← ss.mapM engine.readLibrary
    pure (engine.matchLibraries rows libs (maxRingSize.getD 7) cols)
  | .other => throw "classifyTopology wants a library text or a table of them".toList

def unmatched : CppString := "unmatched".toList

/-- The key of the Lua table for a label. -/
def luaKey (label : CppString) : CppString := if label = [] then unmatched else label

/-- The table that `classifyTopology` returns. -/
structure Classification where
  labels : List CppString
  counts : Counts CppString
  depth : List ℤ
  matched : ℤ

def classifyTopology (rows : Rows) (library : LibraryArgument) (hops maxRingSize : Option ℤ)
    (colours : Option (List ℤ)) : Except CppString Classification := do
  let m ← libraryMatch engine rows library hops maxRingSize colours
  pure
    { labels := m.labels
      counts := rekey luaKey m.counts.entries
      depth := m.depth
      matched := m.matched }

theorem libraryMatch_countsLabels (he : engine.CountsLabels) {rows : Rows}
    {library : LibraryArgument} {hops maxRingSize : Option ℤ} {colours : Option (List ℤ)}
    {m : LibraryMatch} (hm : libraryMatch engine rows library hops maxRingSize colours = .ok m) :
    m.CountsLabels := by
  unfold libraryMatch at hm
  cases library with
  | text s =>
    dsimp only at hm
    cases hs : engine.readLibrary s with
    | error e =>
      rw [hs] at hm
      cases hm
    | ok lib =>
      rw [hs] at hm
      obtain rfl := Except.ok.inj hm
      exact he.matchLibrary _ lib
  | texts ss =>
    dsimp only at hm
    cases hs : ss.mapM engine.readLibrary with
    | error e =>
      rw [hs] at hm
      cases hm
    | ok libs =>
      rw [hs] at hm
      obtain rfl := Except.ok.inj hm
      exact he.matchLibraries rows libs _ _
  | other => cases hm

end Engine

/-- The counts name every atom once: each label by itself, the empty one as `unmatched`. -/
structure CountsComplete (labels : List CppString) (counts : Counts CppString) : Prop where
  label : ∀ l ∈ labels, l ≠ [] → counts.lookup l = some (labels.count l)
  unmatched : [] ∈ labels → counts.lookup unmatched = some (labels.count [])
  total : total counts = labels.length

/-- Of the empty label and a label `unmatched`, the one that comes first has no atoms. -/
def NoClash (counts : Counts CppString) : Prop :=
  ∀ n k, (List.Sublist [⟨[], n⟩, ⟨unmatched, k⟩] counts.entries → n = 0) ∧
    (List.Sublist [⟨unmatched, k⟩, ⟨[], n⟩] counts.entries → k = 0)

theorem luaKey_eq_iff {a b : CppString} (hne : a ≠ b) :
    luaKey a = luaKey b ↔ a = [] ∧ b = unmatched ∨ a = unmatched ∧ b = [] := by
  have hun : unmatched ≠ [] := by decide
  unfold luaKey
  split_ifs with ha hb hb
  · exact absurd (ha.trans hb.symm) hne
  · simp [ha, hb, eq_comm]
  · simp [ha, hb]
  · simp [ha, hb, hne]

/-- Two labels that get one key are the empty one and `unmatched`. -/
theorem lossless_iff_noClash (counts : Counts CppString) :
    Lossless luaKey counts.entries ↔ NoClash counts := by
  have hne : ∀ a b : Entry CppString, List.Sublist [a, b] counts.entries → a.1 ≠ b.1 := by
    intro a b hab
    have hnd : ([a, b].map Sigma.fst).Nodup := counts.keys_nodup.sublist (hab.map Sigma.fst)
    simpa using hnd
  unfold Lossless NoClash
  rw [List.pairwise_iff_forall_sublist]
  constructor
  · intro h n k
    constructor
    · intro hs
      exact h hs rfl
    · intro hs
      exact h hs rfl
  · rintro h ⟨a, n⟩ ⟨b, k⟩ hs hkey
    rcases (luaKey_eq_iff (hne _ _ hs)).mp hkey with ⟨rfl, rfl⟩ | ⟨rfl, rfl⟩
    · exact (h n k).1 hs
    · exact (h k n).2 hs

theorem lookup_rekey_luaKey {m : LibraryMatch} (hm : m.CountsLabels)
    (hl : Lossless luaKey m.counts.entries) {l : CppString} (hmem : l ∈ m.labels) :
    (rekey luaKey m.counts.entries).lookup (luaKey l) = some (m.labels.count l) := by
  have hpos : 0 < m.labels.count l := List.count_pos_iff.mpr hmem
  have hcount := hm l
  cases hlook : m.counts.lookup l with
  | none =>
    rw [hlook] at hcount
    simp only [Option.getD_none] at hcount
    omega
  | some v =>
    rw [hlook] at hcount
    have hv : v = m.labels.count l := hcount
    have he : (⟨l, v⟩ : Entry CppString) ∈ m.counts.entries := AList.mem_lookup_iff.mp hlook
    rw [← hv]
    exact lookup_rekey_of_mem luaKey hl he (by simp only; omega)

theorem countsComplete_iff {m : LibraryMatch} (hm : m.CountsLabels) :
    CountsComplete m.labels (rekey luaKey m.counts.entries) ↔ NoClash m.counts := by
  have hsum : sum m.counts.entries = m.labels.length := sum_count_eq_length hm
  rw [← lossless_iff_noClash]
  constructor
  · intro h
    rw [← total_rekey_iff, hsum]
    exact h.total
  · intro hl
    constructor
    · intro l hmem hne
      have hkey : luaKey l = l := if_neg hne
      have hlook := lookup_rekey_luaKey hm hl hmem
      rwa [hkey] at hlook
    · intro hmem
      exact lookup_rekey_luaKey hm hl hmem
    · rw [(total_rekey_iff luaKey _).mpr hl, hsum]

def labelMatch (labels : List CppString) : LibraryMatch where
  labels := labels
  counts := (labels.map fun l => ⟨l, labels.count l⟩).toAList
  depth := []
  matched := (labels.filter (· ≠ [])).length

theorem labelMatch_countsLabels (labels : List CppString) : (labelMatch labels).CountsLabels := by
  have hlook : ∀ (g : CppString → ℕ) (ls : List CppString) (l : CppString),
      (ls.map fun l => (⟨l, g l⟩ : Entry CppString)).dlookup l =
        if l ∈ ls then some (g l) else none := by
    intro g ls l
    induction ls with
    | nil => rfl
    | cons a ls ih =>
      by_cases hl : l = a
      · subst hl
        simp
      · rw [List.map_cons, List.dlookup_cons_ne _ _ hl, ih]
        simp [hl]
  intro l
  rw [labelMatch, AList.lookup_to_alist, hlook]
  split_ifs with hl
  · rfl
  · exact (List.count_eq_zero_of_not_mem hl).symm

def neighbourEngine : TopologyEngine (List Bool) CppString where
  emptyLibrary := []
  readLibrary := .ok
  writeLibrary := id
  fingerprint := fun rows _ _ _ => rows.map fun row => row ≠ []
  addToLibrary := fun _ _ label => label
  matchLibrary := fun fp lib => labelMatch (fp.map fun bonded => if bonded then lib else [])
  matchLibraries := fun rows libs _ _ =>
    labelMatch (rows.map fun row => if row ≠ [] then libs.headD [] else [])

theorem neighbourEngine_countsLabels : neighbourEngine.CountsLabels where
  matchLibrary := fun _ _ => labelMatch_countsLabels _
  matchLibraries := fun _ _ _ _ => labelMatch_countsLabels _

/-- Three atoms, of which the last has no neighbour. -/
def pairAndSingle : Rows := [[1], [0], []]

end YodaStruct.Binding
