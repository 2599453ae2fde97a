import YodaStruct.Config.Reader
import YodaStruct.Library.SectionLog

/-! The reader as a section log: what one line is to the loop, and what the fields of the
loaded config are in terms of the last assignments of the log. -/
namespace YodaStruct.Config
open StdString Scan SectionLog

abbrev LineEvent := SectionLog.Event CppString CppString CppString

theorem trim_eq_strip (s : CppString) : trim s = strip (· ∈ blanks) s := by
  unfold trim
  cases hi : findFirstNotOf s blanks with
  | none =>
    have hs := findFirstNotOf_eq_none_iff.mp hi
    exact ((strip_eq_nil_iff _).mpr (by simpa using hs)).symm
  | some a =>
    obtain ⟨b, hb, -, -, ht⟩ := substr_findNotOf hi
    simpa [hb] using ht

theorem stripLine_eq_strip (line : CppString) :
    stripLine line = strip (· ∈ blanks) (cut '#' line) := by
  rw [← substr_find, ← trim_eq_strip]
  rfl

/-- What a line of the file is to the loop. -/
def lineEvent (raw : CppString) : LineEvent :=
  let line := stripLine raw
  if line = [] then .skip
  else if line.getLast? = some ':' then .header (trim line.dropLast)
  else if ':' ∈ line then
    .assign (trim (cut ':' line)) (unquote (trim (after ':' line)))
  else .skip

theorem readLine_eq (st : ReaderState) (raw : CppString) :
    readLine st raw = match lineEvent raw with
      | .header n => { st with sectionName := n }
      | .assign key val => { st with cfg := storeValue st.cfg st.sectionName key val }
      | .skip => st := by
  unfold readLine lineEvent
  dsimp only
  generalize stripLine raw = line
  by_cases hn : line = []
  · simp [hn]
  by_cases hh : line.getLast? = some ':'
  · simp [hn, hh, substr, List.dropLast_eq_take]
  by_cases hc : ':' ∈ line
  · obtain ⟨colon, hf, hk, hv⟩ := find_eq_some hc
    simp only [hn, hh, hc, hf, if_false, if_true, hk, hv]
  · simp [hn, hh, hc, find_eq_none_iff.mpr hc]

/-! Fields. -/

inductive Field
  | trajectory | variablesFile | bulkUse | bulkTopo | bulkBop | topoOneDim | topoTwoDim
  | structureDesc
  deriving DecidableEq

inductive FieldValue
  | text (s : CppString)
  | flag (b : Bool)
  deriving DecidableEq

namespace Field

def sectionName : Field → CppString
  | trajectory | variablesFile => []
  | bulkUse | bulkTopo | bulkBop => "bulk".toList
  | topoOneDim => "topoOneDim".toList
  | topoTwoDim => "topoTwoDim".toList
  | structureDesc => "structureDesc".toList

def key : Field → CppString
  | trajectory => "trajectory".toList
  | variablesFile => "variables".toList
  | bulkTopo => "topologicalNetworkCriterion".toList
  | bulkBop => "bondOrderParameters".toList
  | bulkUse | topoOneDim | topoTwoDim | structureDesc => "use".toList

/-- Where the log keeps the raw value of a field. -/
def place (f : Field) : CppString × CppString := (f.sectionName, f.key)

def decode : Field → CppString → FieldValue
  | trajectory, raw | variablesFile, raw => .text raw
  | _, raw => .flag (asBool raw)

def default : Field → FieldValue
  | trajectory | variablesFile => .text []
  | _ => .flag false

/-- The value of a field from the raw value it was last given, if any. -/
def read (f : Field) (raw : Option CppString) : FieldValue := (raw.map f.decode).getD f.default

theorem place_injective : Function.Injective place := by
  intro f g h
  cases f <;> cases g <;> first | rfl | exact absurd h (by decide)

end Field

def LuaConfig.get (cfg : LuaConfig) : Field → FieldValue
  | .trajectory => .text cfg.trajectory
  | .variablesFile => .text cfg.variablesFile
  | .bulkUse => .flag cfg.bulkUse
  | .bulkTopo => .flag cfg.bulkTopo
  | .bulkBop => .flag cfg.bulkBop
  | .topoOneDim => .flag cfg.topoOneDim
  | .topoTwoDim => .flag cfg.topoTwoDim
  | .structureDesc => .flag cfg.structureDesc

theorem LuaConfig.ext_get {a b : LuaConfig} (h : ∀ f, a.get f = b.get f) : a = b := by
  obtain ⟨a₁, a₂, a₃, a₄, a₅, a₆, a₇, a₈⟩ := a
  obtain ⟨b₁, b₂, b₃, b₄, b₅, b₆, b₇, b₈⟩ := b
  have h₁ := h .trajectory
  have h₂ := h .variablesFile
  have h₃ := h .bulkUse
  have h₄ := h .bulkTopo
  have h₅ := h .bulkBop
  have h₆ := h .topoOneDim
  have h₇ := h .topoTwoDim
  have h₈ := h .structureDesc
  simp only [get, FieldValue.text.injEq, FieldValue.flag.injEq] at h₁ h₂ h₃ h₄ h₅ h₆ h₇ h₈
  simp [h₁, h₂, h₃, h₄, h₅, h₆, h₇, h₈]

def LuaConfig.set (cfg : LuaConfig) (val : CppString) : Field → LuaConfig
  | .trajectory => { cfg with trajectory := val }
  | .variablesFile => { cfg with variablesFile := val }
  | .bulkUse => { cfg with bulkUse := asBool val }
  | .bulkTopo => { cfg with bulkTopo := asBool val }
  | .bulkBop => { cfg with bulkBop := asBool val }
  | .topoOneDim => { cfg with topoOneDim := asBool val }
  | .topoTwoDim => { cfg with topoTwoDim := asBool val }
  | .structureDesc => { cfg with structureDesc := asBool val }

theorem LuaConfig.get_set (cfg : LuaConfig) (val : CppString) (f g : Field) :
    (cfg.set val f).get g = if g = f then f.decode val else cfg.get g := by
  cases f <;> cases g <;> rfl

theorem storeValue_place (cfg : LuaConfig) (val : CppString) (f : Field) :
    storeValue cfg f.sectionName f.key val = cfg.set val f := by
  cases f <;> rfl

/-- A section and key that no field has store nothing. -/
theorem storeValue_of_ne {s key : CppString} (h : ∀ f : Field, f.place ≠ (s, key))
    (cfg : LuaConfig) (val : CppString) : storeValue cfg s key val = cfg := by
  unfold storeValue
  split_ifs with hs h₁ h₂ hs' h₁ h₂ h₃ h₁ h₂ h₃
  · exact absurd (by rw [hs, h₁]; rfl) (h .trajectory)
  · exact absurd (by rw [hs, h₂]; rfl) (h .variablesFile)
  · rfl
  · exact absurd (by rw [hs', h₁]; rfl) (h .bulkUse)
  · exact absurd (by rw [hs', h₂]; rfl) (h .bulkTopo)
  · exact absurd (by rw [hs', h₃]; rfl) (h .bulkBop)
  · rfl
  · exact absurd (by rw [h₁.1, h₁.2]; rfl) (h .topoOneDim)
  · exact absurd (by rw [h₂.1, h₂.2]; rfl) (h .topoTwoDim)
  · exact absurd (by rw [h₃.1, h₃.2]; rfl) (h .structureDesc)
  · rfl

/-- Storing a value changes the one field that keeps it, if any field does. -/
theorem storeValue_get (cfg : LuaConfig) (s key val : CppString) (f : Field) :
    (storeValue cfg s key val).get f =
      if f.place = (s, key) then f.decode val else cfg.get f := by
  by_cases h : ∃ g : Field, g.place = (s, key)
  · obtain ⟨g, hg⟩ := h
    obtain ⟨rfl, rfl⟩ : g.sectionName = s ∧ g.key = key := Prod.mk.inj hg
    rw [storeValue_place, LuaConfig.get_set]
    by_cases hf : f = g
    · simp [hf, Field.place]
    · have hp : f.place ≠ g.place := fun hp => hf (Field.place_injective hp)
      simp [hf, hg ▸ hp]
  · rw [not_exists] at h
    rw [storeValue_of_ne h, if_neg (h f)]

/-! The reader refines the log. -/

/-- The loop variables show what the log reader holds. -/
structure Refines (st : ReaderState) (r : SectionLog.Reader CppString CppString CppString) :
    Prop where
  sectionName : st.sectionName = r.current
  get : ∀ f, st.cfg.get f = f.read (r.store f.place)

theorem readLine_refines {st : ReaderState} {r : SectionLog.Reader CppString CppString CppString}
    (h : Refines st r) (raw : CppString) :
    Refines (readLine st raw) (r.apply (lineEvent raw)) := by
  rw [readLine_eq]
  cases lineEvent raw with
  | header n => exact ⟨rfl, h.get⟩
  | skip => exact h
  | assign key val =>
    refine ⟨h.sectionName, fun f => ?_⟩
    simp only [Reader.apply, storeValue_get, Function.update_apply, h.sectionName]
    split_ifs
    · rfl
    · exact h.get f

theorem foldl_readLine_refines {st : ReaderState}
    {r : SectionLog.Reader CppString CppString CppString} (h : Refines st r)
    (lines : List CppString) :
    Refines (lines.foldl readLine st) ((lines.map lineEvent).foldl Reader.apply r) := by
  induction lines generalizing st r with
  | nil => exact h
  | cons line lines ih => exact ih (readLine_refines h line)

/-- The log that a text is to the reader. -/
def textLog (text : CppString) : Log CppString CppString CppString :=
  (getlines '\n' text).map lineEvent

/-- Every field is read off the last assignment to its place. -/
theorem readConfig_get (text : CppString) (f : Field) :
    (readConfig text).get f = f.read (lookup [] f.place (textLog text)) := by
  have h₀ : Refines {} ⟨[], fun _ => none⟩ := ⟨rfl, fun f => by cases f <;> rfl⟩
  have h := (foldl_readLine_refines h₀ (getlines '\n' text)).get f
  rw [foldl_apply_store, Option.or_none] at h
  exact h

/-- Two texts load alike when every field is read alike. -/
theorem loadLuaConfig_eq_iff (path text text' : CppString) :
    loadLuaConfig path (some text) = loadLuaConfig path (some text') ↔
      ∀ f : Field, f.read (lookup [] f.place (textLog text)) =
        f.read (lookup [] f.place (textLog text')) := by
  constructor
  · intro h f
    have hcfg : readConfig text = readConfig text' := Except.ok.inj h
    rw [← readConfig_get, ← readConfig_get, hcfg]
  · intro h
    have hcfg : readConfig text = readConfig text' := by
      apply LuaConfig.ext_get
      intro f
      rw [readConfig_get, readConfig_get, h f]
    exact congrArg Except.ok hcfg

end YodaStruct.Config
