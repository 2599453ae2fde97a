import YodaStruct.Config.Document
import Mathlib.Logic.Relation

/-! Layout: blank lines, comments, blanks and line endings do not matter to the reader, in
whatever text they stand. -/
namespace YodaStruct.Config
open StdString Scan SectionLog

/-- A line of spaces and tabs, and perhaps a comment. -/
def IsLayoutLine (line : CppString) : Prop :=
  ∃ w comment, line = w ++ comment ∧ IsBlank w ∧ (comment = [] ∨ comment.head? = some '#') ∧
    '\n' ∉ comment

def IsLineEnding (eol : CppString) : Prop := eol = ['\n'] ∨ eol = ['\r', '\n']

def AtLineStart (before : CppString) : Prop := before = [] ∨ before.getLast? = some '\n'

def AtLineEnd (rest : CppString) : Prop :=
  rest = [] ∨ ∃ r, rest = '\n' :: r ∨ rest = '\r' :: '\n' :: r

/-- One edit of the layout of a text. -/
inductive LayoutEdit : CppString → CppString → Prop
  | insertLine (a line eol b : CppString) (ha : AtLineStart a) (hl : IsLayoutLine line)
      (he : IsLineEnding eol) : LayoutEdit (a ++ b) (a ++ (line ++ eol) ++ b)
  | appendBlanks (a w b : CppString) (hw : IsBlank w) (hb : AtLineEnd b) :
    LayoutEdit (a ++ b) (a ++ w ++ b)
  | appendComment (a comment b : CppString) (hc : '\n' ∉ comment) (hb : AtLineEnd b) :
    LayoutEdit (a ++ b) (a ++ (' ' :: '#' :: comment) ++ b)
  | lineEnding (a b : CppString) : LayoutEdit (a ++ '\n' :: b) (a ++ '\r' :: '\n' :: b)
  | finalNewline (a : CppString) : LayoutEdit a (a ++ ['\n'])

/-- Texts that come from each other by edits of the layout and their reversals. -/
def SameLayout : CppString → CppString → Prop := Relation.EqvGen LayoutEdit

/-! Tails of lines that the reader drops. -/

structure IsTail (x : CppString) : Prop where
  newline : '\n' ∉ x
  blank : ∀ c ∈ cut '#' x, c ∈ blanks

theorem IsBlank.isTail {w : CppString} (hw : IsBlank w) : IsTail w where
  newline := hw.not_mem (by decide)
  blank := by
    intro c hc
    rw [cut_eq_self '#' (hw.not_mem (by decide))] at hc
    simpa using hw.mem_blanks c hc

theorem isTail_comment {comment : CppString} (hc : '\n' ∉ comment) :
    IsTail (' ' :: '#' :: comment) where
  newline := by simp [hc]
  blank := by
    have hcut : cut '#' (' ' :: '#' :: comment) = [' '] := by simp [cut]
    simp [hcut, blanks]

theorem isTail_cr : IsTail ['\r'] :=
  ⟨by decide, List.forall_iff_forall_mem.mp (by decide)⟩

theorem IsTail.append_cr {x : CppString} (hx : IsTail x) : IsTail (x ++ ['\r']) where
  newline := by simp [hx.newline]
  blank := by
    by_cases hh : '#' ∈ x
    · rw [cut_append_of_mem '#' hh]
      exact hx.blank
    · have hcut : cut '#' (x ++ ['\r']) = x ++ ['\r'] := by
        rw [cut_append_of_not_mem '#' hh]
        rfl
      have hblank := hx.blank
      rw [cut_eq_self '#' hh] at hblank
      intro c hc
      rw [hcut] at hc
      rcases List.mem_append.mp hc with hc | hc
      · exact hblank c hc
      · obtain rfl := List.mem_singleton.mp hc
        decide

theorem IsLayoutLine.isTail {line : CppString} (h : IsLayoutLine line) : IsTail line := by
  obtain ⟨w, comment, rfl, hw, hc, hn⟩ := h
  constructor
  · simp [hw.not_mem, hn]
  · have hcut : cut '#' (w ++ comment) = w := by
      rw [cut_append_of_not_mem '#' (hw.not_mem (by decide))]
      cases comment with
      | nil => simp
      | cons c comment =>
        obtain rfl : c = '#' := by simpa using hc
        simp
    rw [hcut]
    intro c hc
    simpa using hw.mem_blanks c hc

theorem stripLine_append_tail {x : CppString} (hx : IsTail x) (line : CppString) :
    stripLine (line ++ x) = stripLine line := by
  rw [stripLine_eq_strip, stripLine_eq_strip]
  by_cases hh : '#' ∈ line
  · rw [cut_append_of_mem '#' hh]
  · have hblank : ∀ c ∈ cut '#' x, decide (c ∈ blanks) = true := by
      intro c hc
      simpa using hx.blank c hc
    rw [cut_append_of_not_mem '#' hh, cut_eq_self '#' hh, strip_append_right _ hblank]

theorem lineEvent_append_tail {x : CppString} (hx : IsTail x) (line : CppString) :
    lineEvent (line ++ x) = lineEvent line := by
  unfold lineEvent
  rw [stripLine_append_tail hx]

/-! What remains of a text. -/

/-- The events of the lines of a text that do something. -/
def significant (text : CppString) : Log CppString CppString CppString :=
  ((text.splitOn '\n').map lineEvent).filter (· ≠ .skip)

theorem lookup_textLog_significant (s : CppString) (f : CppString × CppString)
    (text : CppString) : lookup s f (textLog text) = lookup s f (significant text) := by
  rw [lookup_textLog]
  exact (lookup_filter_ne_skip s f _).symm

theorem significant_append_newline (a b : CppString) :
    significant (a ++ '\n' :: b) = significant a ++ significant b := by
  unfold significant
  rw [List.splitOn_append_cons_self, List.map_append, List.filter_append]

theorem significant_append_tail {x : CppString} (hx : IsTail x) (a : CppString) :
    significant (a ++ x) = significant a := by
  obtain ⟨init, last, ha, hax⟩ := splitOn_append_of_not_mem hx.newline a
  unfold significant
  rw [ha, hax]
  simp [lineEvent_append_tail hx]

theorem significant_tail {x : CppString} (hx : IsTail x) : significant x = [] := by
  have h := significant_append_tail hx []
  rw [List.nil_append] at h
  rw [h]
  decide

/-- A tail may be put at the end of any line. -/
theorem significant_insert_tail {x : CppString} (hx : IsTail x) (a : CppString) {b : CppString}
    (hb : AtLineEnd b) : significant (a ++ x ++ b) = significant (a ++ b) := by
  rcases hb with rfl | ⟨r, rfl | rfl⟩
  · rw [List.append_nil, List.append_nil, significant_append_tail hx]
  · rw [significant_append_newline, significant_append_newline, significant_append_tail hx]
  · have hold : a ++ '\r' :: '\n' :: r = (a ++ ['\r']) ++ '\n' :: r := by simp
    have hnew : a ++ x ++ '\r' :: '\n' :: r = (a ++ (x ++ ['\r'])) ++ '\n' :: r := by simp
    rw [hold, hnew, significant_append_newline, significant_append_newline,
      significant_append_tail isTail_cr, significant_append_tail hx.append_cr]

/-- A line that is a tail may be put before any line. -/
theorem significant_insert_line {x : CppString} (hx : IsTail x) {a : CppString}
    (ha : AtLineStart a) (b : CppString) :
    significant (a ++ (x ++ ['\n']) ++ b) = significant (a ++ b) := by
  rcases ha with rfl | ha
  · have hnew : [] ++ (x ++ ['\n']) ++ b = x ++ '\n' :: b := by simp
    rw [hnew, significant_append_newline, significant_tail hx]
    rfl
  · obtain ⟨a', rfl⟩ := List.getLast?_eq_some_iff.mp ha
    have hold : a' ++ ['\n'] ++ b = a' ++ '\n' :: b := by simp
    have hnew : a' ++ ['\n'] ++ (x ++ ['\n']) ++ b = a' ++ '\n' :: (x ++ '\n' :: b) := by simp
    rw [hold, hnew, significant_append_newline, significant_append_newline,
      significant_append_newline, significant_tail hx]
    rfl

theorem LayoutEdit.significant_eq {text text' : CppString} (h : LayoutEdit text text') :
    significant text = significant text' := by
  cases h with
  | insertLine a line eol b ha hl he =>
    rcases he with rfl | rfl
    · exact (significant_insert_line hl.isTail ha b).symm
    · have hcr : line ++ ['\r', '\n'] = (line ++ ['\r']) ++ ['\n'] := by simp
      rw [hcr]
      exact (significant_insert_line hl.isTail.append_cr ha b).symm
  | appendBlanks a w b hw hb => exact (significant_insert_tail hw.isTail a hb).symm
  | appendComment a comment b hc hb =>
    exact (significant_insert_tail (isTail_comment hc) a hb).symm
  | lineEnding a b =>
    have hins := significant_insert_tail isTail_cr a (Or.inr ⟨b, Or.inl rfl⟩)
    have happ : a ++ ['\r'] ++ '\n' :: b = a ++ '\r' :: '\n' :: b := by simp
    rw [← happ, hins]
  | finalNewline =>
    rw [significant_append_newline]
    have hnil : significant [] = [] := by decide
    rw [hnil, List.append_nil]

theorem SameLayout.significant_eq {text text' : CppString} (h : SameLayout text text') :
    significant text = significant text' := by
  induction h with
  | rel a b hab => exact hab.significant_eq
  | refl a => rfl
  | symm a b _ ih => exact ih.symm
  | trans a b c _ _ ihab ihbc => exact ihab.trans ihbc

/-- Texts of the same layout load alike. -/
theorem loadLuaConfig_of_sameLayout (path : CppString) {text text' : CppString}
    (h : SameLayout text text') :
    loadLuaConfig path (some text) = loadLuaConfig path (some text') := by
  rw [loadLuaConfig_eq_iff]
  intro f
  rw [lookup_textLog_significant, lookup_textLog_significant, h.significant_eq]

theorem loadLuaConfig_crlf_comment :
    loadLuaConfig [] (some "bulk:\n  use: yes\n".toList) =
      loadLuaConfig [] (some "bulk: # on\r\n  use: yes\n".toList) := by
  have hcomment : LayoutEdit ("bulk:".toList ++ "\n  use: yes\n".toList)
      ("bulk:".toList ++ (' ' :: '#' :: " on".toList) ++ "\n  use: yes\n".toList) :=
    .appendComment _ _ _ (by decide) (Or.inr ⟨"  use: yes\n".toList, Or.inl rfl⟩)
  have hending : LayoutEdit ("bulk: # on".toList ++ '\n' :: "  use: yes\n".toList)
      ("bulk: # on".toList ++ '\r' :: '\n' :: "  use: yes\n".toList) :=
    .lineEnding _ _
  exact loadLuaConfig_of_sameLayout [] (.trans _ _ _ (.rel _ _ hcomment) (.rel _ _ hending))

end YodaStruct.Config
