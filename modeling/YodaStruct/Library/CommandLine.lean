import Mathlib.Data.List.TakeWhile

/-! Command lines: options by short and by long names, with and without values, among words that
are neither. -/
namespace CommandLine

abbrev Word := List Char

/-! One word. -/

def isAlnum (c : Char) : Bool := c.isAlphanum

/-- What a long name goes on with. -/
def isNameChar (c : Char) : Bool := c == '-' || c == '_' || isAlnum c

/-- What a value after `=` is made of. -/
def isValueChar (c : Char) : Bool := c != '\n' && c != '\r'

inductive ArguDesc
  | long (name : Word) (value : Option Word)
  | grouping (names : Word)
  deriving DecidableEq

/-- What stands behind a long name: nothing, or a value after `=`. -/
def parseValue : Word → Option (Option Word)
  | [] => some none
  | '=' :: v => if v.all isValueChar then some (some v) else none
  | _ => none

/-- `--name`, `--name=value` or `-abc`. A long name has two characters at least. -/
def parseArgument : Word → Option ArguDesc
  | '-' :: '-' :: w =>
    match w.takeWhile isNameChar with
    | c :: d :: name =>
      if isAlnum c then
        (parseValue (w.dropWhile isNameChar)).map (.long (c :: d :: name))
      else none
    | _ => none
  | '-' :: c :: w => if (c :: w).all isAlnum then some (.grouping (c :: w)) else none
  | _ => none

def IsLongName (n : Word) : Prop :=
  ∃ c d name, n = c :: d :: name ∧ isAlnum c = true ∧ ∀ x ∈ n, isNameChar x = true

structure IsGroup (s : Word) : Prop where
  ne_nil : s ≠ []
  all : ∀ c ∈ s, isAlnum c = true

def IsValue (v : Word) : Prop := ∀ c ∈ v, isValueChar c = true

theorem isNameChar_equals : isNameChar '=' = false := by decide

theorem not_isAlnum_dash : isAlnum '-' = false := by decide

/-- A long name is read up to its end. -/
theorem parseArgument_long_append {n w : Word} (hn : IsLongName n)
    (hw : ∀ c ∈ w.head?, isNameChar c = false) :
    parseArgument ('-' :: '-' :: (n ++ w)) = (parseValue w).map (.long n) := by
  obtain ⟨c, d, name, rfl, hc, hall⟩ := hn
  have hrest : w.takeWhile isNameChar = [] ∧ w.dropWhile isNameChar = w := by
    cases w with
    | nil => exact ⟨rfl, rfl⟩
    | cons x w =>
      have hx : isNameChar x = false := hw x rfl
      simp [hx]
  have htake : (c :: d :: name ++ w).takeWhile isNameChar = c :: d :: name := by
    rw [List.takeWhile_append_of_pos hall, hrest.1, List.append_nil]
  have hdrop : (c :: d :: name ++ w).dropWhile isNameChar = w := by
    rw [List.dropWhile_append_of_pos hall, hrest.2]
  simp only [parseArgument, htake, hdrop, hc, ↓reduceIte]

theorem parseArgument_long {n : Word} (hn : IsLongName n) :
    parseArgument ('-' :: '-' :: n) = some (.long n none) := by
  have hword := parseArgument_long_append hn (w := []) (by simp)
  rwa [List.append_nil] at hword

theorem parseArgument_long_value {n v : Word} (hn : IsLongName n) (hv : IsValue v) :
    parseArgument ('-' :: '-' :: (n ++ '=' :: v)) = some (.long n (some v)) := by
  rw [parseArgument_long_append hn (by simp [isNameChar_equals])]
  have hall : v.all isValueChar = true := List.all_eq_true.mpr hv
  simp [parseValue, hall]

theorem parseArgument_grouping {s : Word} (hs : IsGroup s) :
    parseArgument ('-' :: s) = some (.grouping s) := by
  obtain ⟨c, w, rfl⟩ := List.exists_cons_of_ne_nil hs.ne_nil
  have hall : (c :: w).all isAlnum = true := List.all_eq_true.mpr hs.all
  have hc : c ≠ '-' := by
    intro heq
    have hdash := hs.all c List.mem_cons_self
    rw [heq, not_isAlnum_dash] at hdash
    cases hdash
  simp only [parseArgument, hall, ↓reduceIte]

/-- Nothing else is read as a long name. -/
theorem long_of_parseArgument {w n : Word} {value : Option Word}
    (h : parseArgument w = some (.long n value)) :
    IsLongName n ∧ (value = none ∧ w = '-' :: '-' :: n ∨
      ∃ v, value = some v ∧ IsValue v ∧ w = '-' :: '-' :: (n ++ '=' :: v)) := by
  unfold parseArgument at h
  split at h
  · rename_i w
    split at h
    · rename_i c d name htake
      split_ifs at h with hc
      obtain ⟨value', hvalue, hlong⟩ := Option.map_eq_some_iff.mp h
      obtain ⟨rfl, rfl⟩ := ArguDesc.long.inj hlong
      have hword : w = c :: d :: name ++ w.dropWhile isNameChar := by
        rw [← htake, List.takeWhile_append_dropWhile]
      have hall : ∀ x ∈ c :: d :: name, isNameChar x = true := by
        rw [← htake]
        exact fun x hx => List.mem_takeWhile_imp hx
      refine ⟨⟨c, d, name, rfl, hc, hall⟩, ?_⟩
      generalize w.dropWhile isNameChar = rest at hvalue hword
      unfold parseValue at hvalue
      split at hvalue
      · obtain rfl := Option.some.inj hvalue
        exact .inl ⟨rfl, by rw [hword, List.append_nil]⟩
      · rename_i v
        split_ifs at hvalue with hv
        obtain rfl := Option.some.inj hvalue
        exact .inr ⟨v, rfl, List.all_eq_true.mp hv, by rw [hword]⟩
      · cases hvalue
    · cases h
  · split_ifs at h
    cases h
  · cases h

theorem grouping_of_parseArgument {w s : Word} (h : parseArgument w = some (.grouping s)) :
    IsGroup s ∧ w = '-' :: s := by
  unfold parseArgument at h
  split at h
  · split at h
    · split_ifs at h
      obtain ⟨_, -, hlong⟩ := Option.map_eq_some_iff.mp h
      cases hlong
    · cases h
  · rename_i c w _
    split_ifs at h with hall
    obtain rfl := ArguDesc.grouping.inj (Option.some.inj h)
    exact ⟨⟨List.cons_ne_nil _ _, List.all_eq_true.mp hall⟩, rfl⟩
  · cases h

/-! The whole line. -/

section Parser
variable {ι : Type}

/-- An option. With an implicit value it takes no word after it. -/
structure OptionDetails (ι : Type) where
  option : ι
  implicitValue : Option Word
  accepts : Word → Bool
  accepts_implicitValue : ∀ v ∈ implicitValue, accepts v = true

/-- The options by their names, short or long. -/
abbrev Options (ι : Type) := Word → Option (OptionDetails ι)

inductive ParseError
  | missingArgument (option : Word)
  | incorrectType (arg : Word)
  deriving DecidableEq

/-- The options in order with their values, and the words that are none of theirs. -/
structure ParseResult (ι : Type) where
  sequential : List (ι × Word)
  unmatched : List Word
  deriving DecidableEq

instance : Append (ParseResult ι) :=
  ⟨fun r r' => ⟨r.sequential ++ r'.sequential, r.unmatched ++ r'.unmatched⟩⟩

instance : EmptyCollection (ParseResult ι) := ⟨⟨[], []⟩⟩

def unmatchedWord (w : Word) : ParseResult ι := ⟨[], [w]⟩

variable (options : Options ι)

def parseOption (d : OptionDetails ι) (arg : Word) : Except ParseError (ParseResult ι) :=
  if d.accepts arg then .ok ⟨[(d.option, arg)], []⟩ else .error (.incorrectType arg)

/-- The value of an option that gives none itself, and whether the next word was taken for it. -/
def checkedParseArg (d : OptionDetails ι) (name : Word) (next : Option Word) :
    Except ParseError (ParseResult ι × Bool) :=
  match d.implicitValue with
  | some v => do pure (← parseOption d v, false)
  | none =>
    match next with
    | none => .error (.missingArgument name)
    | some arg => do pure (← parseOption d arg, true)

/-- The letters of a group. An option that takes a value takes the rest of the group. -/
def parseGroup (next : Option Word) : Word → Except ParseError (ParseResult ι × Bool)
  | [] => .ok (∅, false)
  | c :: s =>
    match options [c] with
    | none => do
      let (r, used) ← parseGroup next s
      pure (unmatchedWord ['-', c] ++ r, used)
    | some d =>
      if s = [] then checkedParseArg d [c] next
      else
        match d.implicitValue with
        | some v => do
          let first ← parseOption d v
          let (r, used) ← parseGroup next s
          pure (first ++ r, used)
        | none => do pure (← parseOption d s, false)

def parseWord (arg : Word) (next : Option Word) : Except ParseError (ParseResult ι × Bool) :=
  match parseArgument arg with
  | none => .ok (unmatchedWord arg, false)
  | some (.grouping s) => parseGroup options next s
  | some (.long name value) =>
    match options name with
    | none => .ok (unmatchedWord arg, false)
    | some d =>
      match value with
      | some v => do pure (← parseOption d v, false)
      | none => checkedParseArg d name next

/-- The words one after the other. `--` ends the options. -/
def parse : List Word → Except ParseError (ParseResult ι)
  | [] => .ok ∅
  | [arg] =>
    if arg = ['-', '-'] then .ok ∅
    else (parseWord options arg none).map Prod.fst
  | arg :: next :: rest =>
    if arg = ['-', '-'] then .ok ⟨[], next :: rest⟩
    else
      match parseWord options arg (some next) with
      | .error e => .error e
      | .ok (r, true) => (parse rest).map (r ++ ·)
      | .ok (r, false) => (parse (next :: rest)).map (r ++ ·)

end Parser

end CommandLine
