import YodaStruct.Dseams.Lua
import YodaStruct.Library.LuaPattern
import YodaStruct.Library.Scan

/-! The suffix of a path, as the pattern of the front end cuts it out and as a user reads it. -/
namespace YodaStruct.Dseams
open YodaStruct.Config YodaStruct.Driver Scan

def lower (s : CppString) : CppString := s.map Char.toLower

/-- The pattern `%.([^%./]+)$`. -/
def suffixPattern : LuaPattern.Pattern Char where
  init := [.one (· = '.')]
  capture := [.many fun c => c ≠ '.' ∧ c ≠ '/']
  anchored := true

def suffix (path : CppString) : CppString := lower ((suffixPattern.match? path).getD [])

/-- The text after the last dot of a name, if it has one. -/
def afterLastDot (name : CppString) : CppString := if '.' ∈ name then lastPart '.' name else []

def lastComponent (path : CppString) : CppString := lastPart '/' path

/-- What stands behind the dot of a suffix. -/
structure IsSuffix (t : CppString) : Prop where
  ne_nil : t ≠ []
  letters : ∀ c ∈ t, c ≠ '.' ∧ c ≠ '/'

theorem IsSuffix.not_mem_dot {t : CppString} (h : IsSuffix t) : '.' ∉ t :=
  fun hc => (h.letters _ hc).1 rfl

theorem IsSuffix.not_mem_slash {t : CppString} (h : IsSuffix t) : '/' ∉ t :=
  fun hc => (h.letters _ hc).2 rfl

theorem matchHere_cons (a : Char) (t : CppString) :
    suffixPattern.matchHere (a :: t) =
      if a = '.' then LuaPattern.matchItems (suffixPattern.finish t) suffixPattern.capture t
      else none := by
  simp only [LuaPattern.Pattern.matchHere, suffixPattern, LuaPattern.matchItems_one_cons,
    LuaPattern.matchItems_nil, decide_eq_true_eq]

/-- A match that starts at a dot is the suffix behind it. -/
theorem matchHere_dot {t : CppString} (h : IsSuffix t) :
    suffixPattern.matchHere ('.' :: t) = some t := by
  have hend : suffixPattern.finish t [] = some t := by simp [LuaPattern.Pattern.finish]
  rw [matchHere_cons, if_pos rfl]
  apply LuaPattern.matchItems_many_end hend h.ne_nil
  intro c hc
  simpa using h.letters c hc

theorem matchHere_eq_none {s : CppString} (h : ∀ t, IsSuffix t → s ≠ '.' :: t) :
    suffixPattern.matchHere s = none := by
  cases s with
  | nil => rfl
  | cons a t =>
    rw [matchHere_cons]
    split_ifs with ha
    · have hrest : ∀ s, s ≠ [] → suffixPattern.finish t s = none := fun s hs => if_pos ⟨rfl, hs⟩
      apply LuaPattern.matchItems_many_end_eq_none hrest
      intro ht
      obtain ⟨hne, hall⟩ := ht
      exact h t ⟨hne, by simpa using hall⟩ (by rw [ha])
    · rfl

/-- The suffix behind the last dot is found, past all dots before it. -/
theorem match_append_dot {t : CppString} (h : IsSuffix t) (u : CppString) :
    suffixPattern.match? (u ++ '.' :: t) = some t := by
  unfold LuaPattern.Pattern.match?
  rw [LuaPattern.search_append, LuaPattern.search_eq_of_head (matchHere_dot h)]
  intro v hv _
  apply matchHere_eq_none
  intro t' ht' he
  obtain ⟨a, v, rfl⟩ := List.exists_cons_of_ne_nil hv
  obtain ⟨-, rfl⟩ := List.cons.inj he
  exact ht'.not_mem_dot (by simp)

theorem match_eq_none {path : CppString} (h : ∀ u t, IsSuffix t → path ≠ u ++ '.' :: t) :
    suffixPattern.match? path = none := by
  apply LuaPattern.search_eq_none
  rintro v ⟨u, rfl⟩
  apply matchHere_eq_none
  rintro t ht rfl
  exact h u t ht rfl

/-- The suffix of a path is the lower-cased text after the last dot of its last component. -/
theorem suffix_eq (path : CppString) :
    suffix path = lower (afterLastDot (lastComponent path)) := by
  unfold suffix
  by_cases h : ∃ u t, IsSuffix t ∧ path = u ++ '.' :: t
  · obtain ⟨u, t, ht, rfl⟩ := h
    have hslash : '/' ∉ '.' :: t := by simp [ht.not_mem_slash]
    have hlast : lastComponent (u ++ '.' :: t) = lastPart '/' u ++ '.' :: t :=
      lastPart_append '/' hslash u
    have hdot : afterLastDot (lastPart '/' u ++ '.' :: t) = t := by
      unfold afterLastDot
      rw [if_pos (by simp), lastPart_append_cons '.' ht.not_mem_dot]
    rw [match_append_dot ht, hlast, hdot]
    rfl
  · have hnone : suffixPattern.match? path = none :=
      match_eq_none fun u t ht he => h ⟨u, t, ht, he⟩
    have hnil : afterLastDot (lastComponent path) = [] := by
      unfold afterLastDot
      split_ifs with hd
      · by_contra hne
        obtain ⟨u, hu⟩ := exists_append_cons_lastPart '.' hd
        obtain ⟨w, hw⟩ : ∃ w, path = w ++ lastComponent path :=
          ⟨_, List.rdropWhile_append_rtakeWhile.symm⟩
        refine h ⟨w ++ u, _, ⟨hne, ?_⟩, by rw [List.append_assoc, ← hu, ← hw]⟩
        intro c hc
        constructor
        · rintro rfl
          exact not_mem_lastPart '.' _ hc
        · rintro rfl
          apply not_mem_lastPart '/' path
          change '/' ∈ lastComponent path
          rw [hu]
          simp [hc]
      · rfl
    rw [hnone, hnil]
    rfl

example : suffix "runs.xyz/ice..GRO".toList = "gro".toList := by decide

example : suffix "ice.xyz/".toList = [] := by decide

end YodaStruct.Dseams
