import YodaStruct.Library.CommandLine

/-! The grammar of command lines: the items that a line is made of, and what each says. -/
namespace CommandLine

section Grammar
variable {ι : Type}

namespace ParseResult

@[simp] theorem empty_append (r : ParseResult ι) : ∅ ++ r = r := rfl

@[simp] theorem append_empty (r : ParseResult ι) : r ++ ∅ = r := by
  change (⟨r.sequential ++ [], r.unmatched ++ []⟩ : ParseResult ι) = r
  rw [List.append_nil, List.append_nil]

@[simp] theorem sequential_append (r r' : ParseResult ι) :
    (r ++ r').sequential = r.sequential ++ r'.sequential := rfl

theorem append_assoc (r r' r'' : ParseResult ι) : r ++ r' ++ r'' = r ++ (r' ++ r'') := by
  change (⟨_, _⟩ : ParseResult ι) = ⟨_, _⟩
  rw [mk.injEq]
  exact ⟨List.append_assoc _ _ _, List.append_assoc _ _ _⟩

end ParseResult

variable (options : Options ι)

/-- A letter that takes nothing with it. -/
def IsFlag (c : Char) : Prop :=
  isAlnum c = true ∧ ∀ d, options [c] = some d → d.implicitValue ≠ none

/-- The name of an option that has to be given a value. -/
def Takes (n : Word) (d : OptionDetails ι) : Prop := options n = some d ∧ d.implicitValue = none

/-- Neither an option nor the end of the options. -/
def IsOther (w : Word) : Prop :=
  w ≠ ['-', '-'] ∧ (parseArgument w = none ∨
    ∃ n value, parseArgument w = some (.long n value) ∧ options n = none)

/-- Letters before one that takes a value. -/
structure Letters where
  flags : Word
  isFlag : ∀ c ∈ flags, IsFlag options c
  last : Char
  isAlnum_last : isAlnum last = true
  details : OptionDetails ι
  takes : Takes options [last] details

inductive Item
  | other (w : Word) (hw : IsOther options w)
  | flags (s : Word) (hs : s ≠ []) (hf : ∀ c ∈ s, IsFlag options c)
  | attached (l : Letters options) (v : Word) (hv : IsGroup v) (ha : l.details.accepts v = true)
  | next (l : Letters options) (v : Word) (ha : l.details.accepts v = true)
  | longFlag (n : Word) (hn : IsLongName n) (d : OptionDetails ι) (hd : options n = some d)
    (v : Word) (hv : d.implicitValue = some v)
  | longValue (n : Word) (hn : IsLongName n) (d : OptionDetails ι) (hd : options n = some d)
    (v : Word) (hv : IsValue v) (ha : d.accepts v = true)
  | longNext (n : Word) (hn : IsLongName n) (d : OptionDetails ι) (hd : Takes options n d)
    (v : Word) (ha : d.accepts v = true)

/-- A line that fails at its start. -/
inductive Fails : List Word → ParseError → Prop
  | missing (l : Letters options) : Fails ['-' :: (l.flags ++ [l.last])] (.missingArgument [l.last])
  | attached (l : Letters options) (v : Word) (hv : IsGroup v) (ha : l.details.accepts v = false)
    (rest : List Word) : Fails (('-' :: (l.flags ++ l.last :: v)) :: rest) (.incorrectType v)
  | next (l : Letters options) (v : Word) (ha : l.details.accepts v = false) (rest : List Word) :
    Fails (('-' :: (l.flags ++ [l.last])) :: v :: rest) (.incorrectType v)
  | longMissing (n : Word) (hn : IsLongName n) (d : OptionDetails ι) (hd : Takes options n d) :
    Fails ['-' :: '-' :: n] (.missingArgument n)
  | longValue (n : Word) (hn : IsLongName n) (d : OptionDetails ι) (hd : options n = some d)
    (v : Word) (hv : IsValue v) (ha : d.accepts v = false) (rest : List Word) :
    Fails (('-' :: '-' :: (n ++ '=' :: v)) :: rest) (.incorrectType v)
  | longNext (n : Word) (hn : IsLongName n) (d : OptionDetails ι) (hd : Takes options n d)
    (v : Word) (ha : d.accepts v = false) (rest : List Word) :
    Fails (('-' :: '-' :: n) :: v :: rest) (.incorrectType v)

/-- What a letter that takes nothing says. -/
def flagResult (c : Char) : ParseResult ι :=
  match options [c] with
  | none => unmatchedWord ['-', c]
  | some d => ⟨d.implicitValue.toList.map fun v => (d.option, v), []⟩

def flagsResult (s : Word) : ParseResult ι := s.foldr (fun c r => flagResult options c ++ r) ∅

def valueResult (d : OptionDetails ι) (v : Word) : ParseResult ι := ⟨[(d.option, v)], []⟩

variable {options}

def Item.words : Item options → List Word
  | other w _ => [w]
  | flags s _ _ => ['-' :: s]
  | attached l v _ _ => ['-' :: (l.flags ++ l.last :: v)]
  | next l v _ => ['-' :: (l.flags ++ [l.last]), v]
  | longFlag n _ _ _ _ _ => ['-' :: '-' :: n]
  | longValue n _ _ _ v _ _ => ['-' :: '-' :: (n ++ '=' :: v)]
  | longNext n _ _ _ v _ => ['-' :: '-' :: n, v]

def Item.result : Item options → ParseResult ι
  | other w _ => unmatchedWord w
  | flags s _ _ => flagsResult options s
  | attached l v _ _ => flagsResult options l.flags ++ valueResult l.details v
  | next l v _ => flagsResult options l.flags ++ valueResult l.details v
  | longFlag _ _ d _ v _ => valueResult d v
  | longValue _ _ d _ v _ _ => valueResult d v
  | longNext _ _ d _ v _ => valueResult d v

def lineWords (items : List (Item options)) : List Word := items.flatMap Item.words

def lineResult (items : List (Item options)) : ParseResult ι :=
  items.foldr (fun item r => item.result ++ r) ∅

theorem lineResult_append (items items' : List (Item options)) :
    lineResult (items ++ items') = lineResult items ++ lineResult items' := by
  induction items with
  | nil => rfl
  | cons item items ih =>
    change item.result ++ lineResult (items ++ items') = item.result ++ lineResult items ++ _
    rw [ih, ParseResult.append_assoc]

/-! What each item says is what is read of it. -/

theorem parseOption_of_accepts {d : OptionDetails ι} {v : Word} (ha : d.accepts v = true) :
    parseOption d v = .ok (valueResult d v) := if_pos ha

theorem parseOption_of_not_accepts {d : OptionDetails ι} {v : Word} (ha : d.accepts v = false) :
    parseOption d v = .error (.incorrectType v) := if_neg (by simp [ha])

/-- A letter that takes nothing leaves the rest of the group as it is. -/
theorem parseGroup_cons_flag {c : Char} (hf : IsFlag options c) (next : Option Word) (t : Word) :
    parseGroup options next (c :: t) =
      (parseGroup options next t).map fun x => (flagResult options c ++ x.1, x.2) := by
  rw [parseGroup]
  unfold flagResult
  cases hc : options [c] with
  | none =>
    cases parseGroup options next t with
    | error e => rfl
    | ok x => rfl
  | some d =>
    obtain ⟨v, hv⟩ := Option.ne_none_iff_exists'.mp (hf.2 d hc)
    have hopt : parseOption d v = .ok (valueResult d v) :=
      parseOption_of_accepts (d.accepts_implicitValue v hv)
    by_cases ht : t = []
    · subst ht
      simp only [↓reduceIte, checkedParseArg, hv, hopt]
      rfl
    · simp only [if_neg ht, hv, hopt]
      cases parseGroup options next t with
      | error e => rfl
      | ok x => rfl

/-- The flags of a group are read one by one, whatever comes after them. -/
theorem parseGroup_flags {s : Word} (hf : ∀ c ∈ s, IsFlag options c) (next : Option Word)
    (t : Word) : parseGroup options next (s ++ t) =
      (parseGroup options next t).map fun x => (flagsResult options s ++ x.1, x.2) := by
  induction s with
  | nil =>
    cases h : parseGroup options next t with
    | error e => simp [h, Except.map]
    | ok x => simp [h, Except.map, flagsResult]
  | cons c s ih =>
    rw [List.cons_append, parseGroup_cons_flag (hf c List.mem_cons_self),
      ih fun c hc => hf c (List.mem_cons_of_mem _ hc)]
    cases parseGroup options next t with
    | error e => rfl
    | ok x =>
      simp only [Except.map, flagsResult, List.foldr_cons, ParseResult.append_assoc]

theorem parseGroup_all_flags {s : Word} (hf : ∀ c ∈ s, IsFlag options c) (next : Option Word) :
    parseGroup options next s = .ok (flagsResult options s, false) := by
  have hrun := parseGroup_flags hf next []
  rw [List.append_nil] at hrun
  rw [hrun]
  simp [parseGroup, Except.map]

/-- The letter that takes a value takes the rest of the group. -/
theorem parseGroup_attached {d : OptionDetails ι} {c : Char} (ht : Takes options [c] d) {v : Word}
    (hv : v ≠ []) (next : Option Word) :
    parseGroup options next (c :: v) = (parseOption d v).map fun r => (r, false) := by
  rw [parseGroup]
  simp only [ht.1, if_neg hv, ht.2]
  cases parseOption d v <;> rfl

/-- At the end of the group it takes the next word. -/
theorem parseGroup_last {d : OptionDetails ι} {c : Char} (ht : Takes options [c] d)
    (next : Option Word) :
    parseGroup options next [c] = checkedParseArg d [c] next := by
  rw [parseGroup]
  simp only [ht.1, ↓reduceIte]

theorem checkedParseArg_none {d : OptionDetails ι} (hd : d.implicitValue = none) (n : Word) :
    checkedParseArg d n none = .error (.missingArgument n) := by
  simp only [checkedParseArg, hd]

theorem checkedParseArg_some {d : OptionDetails ι} (hd : d.implicitValue = none) (n v : Word) :
    checkedParseArg d n (some v) = (parseOption d v).map fun r => (r, true) := by
  simp only [checkedParseArg, hd]
  cases parseOption d v <;> rfl

theorem isGroup_letters (l : Letters options) {v : Word} (hv : ∀ c ∈ v, isAlnum c = true) :
    IsGroup (l.flags ++ l.last :: v) where
  ne_nil := by simp
  all c hc := by
    rcases List.mem_append.mp hc with hc | hc
    · exact (l.isFlag c hc).1
    · rcases List.mem_cons.mp hc with rfl | hc
      · exact l.isAlnum_last
      · exact hv c hc

/-- A group with a value attached. -/
theorem parseWord_attached (l : Letters options) {v : Word} (hv : IsGroup v) (next : Option Word) :
    parseWord options ('-' :: (l.flags ++ l.last :: v)) next =
      (parseOption l.details v).map fun r => (flagsResult options l.flags ++ r, false) := by
  unfold parseWord
  rw [parseArgument_grouping (isGroup_letters l hv.all)]
  simp only
  rw [parseGroup_flags l.isFlag, parseGroup_attached l.takes hv.ne_nil]
  cases parseOption l.details v <;> rfl

/-- A group that needs the next word. -/
theorem parseWord_last (l : Letters options) (next : Option Word) :
    parseWord options ('-' :: (l.flags ++ [l.last])) next =
      (checkedParseArg l.details [l.last] next).map fun x =>
        (flagsResult options l.flags ++ x.1, x.2) := by
  unfold parseWord
  rw [parseArgument_grouping (isGroup_letters l (by simp))]
  simp only
  rw [parseGroup_flags l.isFlag, parseGroup_last l.takes]

theorem parseWord_long {n : Word} (hn : IsLongName n) {d : OptionDetails ι}
    (hd : options n = some d) (next : Option Word) :
    parseWord options ('-' :: '-' :: n) next = checkedParseArg d n next := by
  unfold parseWord
  rw [parseArgument_long hn]
  simp only [hd]

theorem parseWord_longValue {n : Word} (hn : IsLongName n) {d : OptionDetails ι}
    (hd : options n = some d) {v : Word} (hv : IsValue v) (next : Option Word) :
    parseWord options ('-' :: '-' :: (n ++ '=' :: v)) next =
      (parseOption d v).map fun r => (r, false) := by
  unfold parseWord
  rw [parseArgument_long_value hn hv]
  simp only [hd]
  cases parseOption d v <;> rfl

theorem parse_cons {w : Word} (hw : w ≠ ['-', '-']) {rest : List Word} {r : ParseResult ι}
    (h : parseWord options w rest.head? = .ok (r, false)) :
    parse options (w :: rest) = (parse options rest).map (r ++ ·) := by
  cases rest with
  | nil =>
    rw [List.head?_nil] at h
    simp [parse, hw, h, Except.map]
  | cons next rest =>
    rw [List.head?_cons] at h
    simp only [parse, if_neg hw, h]

theorem parse_cons_cons {w : Word} (hw : w ≠ ['-', '-']) {v : Word} {rest : List Word}
    {r : ParseResult ι} (h : parseWord options w (some v) = .ok (r, true)) :
    parse options (w :: v :: rest) = (parse options rest).map (r ++ ·) := by
  simp only [parse, if_neg hw, h]

theorem parse_cons_error {w : Word} (hw : w ≠ ['-', '-']) {rest : List Word} {e : ParseError}
    (h : parseWord options w rest.head? = .error e) : parse options (w :: rest) = .error e := by
  cases rest with
  | nil =>
    rw [List.head?_nil] at h
    simp only [parse, if_neg hw, h]
    rfl
  | cons next rest =>
    rw [List.head?_cons] at h
    simp only [parse, if_neg hw, h]

/-- What comes after `--` is not read. -/
theorem parse_dashes (rest : List Word) :
    parse options (['-', '-'] :: rest) = .ok ⟨[], rest⟩ := by
  cases rest with
  | nil => rfl
  | cons w rest => simp [parse]

theorem group_ne {s : Word} (hs : IsGroup s) : '-' :: s ≠ ['-', '-'] := by
  intro heq
  have hdash := hs.all '-' (by simp [List.cons.inj heq])
  rw [not_isAlnum_dash] at hdash
  cases hdash

theorem long_ne {n : Word} (hn : IsLongName n) (w : Word) : '-' :: '-' :: (n ++ w) ≠ ['-', '-'] := by
  obtain ⟨c, d, name, rfl, -⟩ := hn
  simp

theorem letters_ne (l : Letters options) {v : Word} (hv : ∀ c ∈ v, isAlnum c = true) :
    '-' :: (l.flags ++ l.last :: v) ≠ ['-', '-'] := group_ne (isGroup_letters l hv)

theorem long_ne_nil {n : Word} (hn : IsLongName n) : '-' :: '-' :: n ≠ ['-', '-'] := by
  have hne := long_ne hn []
  rwa [List.append_nil] at hne

/-- An item is read as it says, whatever comes after it. -/
theorem parse_item (item : Item options) (rest : List Word) :
    parse options (item.words ++ rest) = (parse options rest).map (item.result ++ ·) := by
  cases item with
  | other w hw =>
    apply parse_cons hw.1
    unfold parseWord
    rcases hw.2 with hnone | ⟨n, value, hlong, hn⟩
    · rw [hnone]
      rfl
    · rw [hlong]
      simp only [hn]
      rfl
  | flags s hs hf =>
    have hg : IsGroup s := ⟨hs, fun c hc => (hf c hc).1⟩
    apply parse_cons (group_ne hg)
    unfold parseWord
    rw [parseArgument_grouping hg]
    exact parseGroup_all_flags hf _
  | attached l v hv ha =>
    apply parse_cons (letters_ne l hv.all)
    rw [parseWord_attached l hv, parseOption_of_accepts ha]
    rfl
  | next l v ha =>
    apply parse_cons_cons (letters_ne l (by simp))
    rw [parseWord_last, checkedParseArg_some l.takes.2, parseOption_of_accepts ha]
    rfl
  | longFlag n hn d hd v hv =>
    apply parse_cons (long_ne_nil hn)
    rw [parseWord_long hn hd]
    simp only [checkedParseArg, hv, parseOption_of_accepts (d.accepts_implicitValue v hv)]
    rfl
  | longValue n hn d hd v hv ha =>
    apply parse_cons (long_ne hn _)
    rw [parseWord_longValue hn hd hv, parseOption_of_accepts ha]
    rfl
  | longNext n hn d hd v ha =>
    apply parse_cons_cons (long_ne_nil hn)
    rw [parseWord_long hn hd.1, checkedParseArg_some hd.2, parseOption_of_accepts ha]
    rfl

theorem parse_fails {args : List Word} {e : ParseError} (h : Fails options args e) :
    parse options args = .error e := by
  cases h with
  | missing l =>
    apply parse_cons_error (letters_ne l (by simp))
    rw [parseWord_last, List.head?_nil, checkedParseArg_none l.takes.2]
    rfl
  | attached l v hv ha rest =>
    apply parse_cons_error (letters_ne l hv.all)
    rw [parseWord_attached l hv, parseOption_of_not_accepts ha]
    rfl
  | next l v ha rest =>
    apply parse_cons_error (letters_ne l (by simp))
    rw [parseWord_last, List.head?_cons, checkedParseArg_some l.takes.2,
      parseOption_of_not_accepts ha]
    rfl
  | longMissing n hn d hd =>
    apply parse_cons_error (long_ne_nil hn)
    rw [parseWord_long hn hd.1, List.head?_nil, checkedParseArg_none hd.2]
  | longValue n hn d hd v hv ha rest =>
    apply parse_cons_error (long_ne hn _)
    rw [parseWord_longValue hn hd hv, parseOption_of_not_accepts ha]
    rfl
  | longNext n hn d hd v ha rest =>
    apply parse_cons_error (long_ne_nil hn)
    rw [parseWord_long hn hd.1, List.head?_cons, checkedParseArg_some hd.2,
      parseOption_of_not_accepts ha]
    rfl

/-- A line of items is read item by item. -/
theorem parse_line (items : List (Item options)) (tail : List Word) :
    parse options (lineWords items ++ tail) =
      (parse options tail).map (lineResult items ++ ·) := by
  induction items with
  | nil =>
    change parse options tail = _
    cases parse options tail <;> rfl
  | cons item items ih =>
    change parse options (item.words ++ lineWords items ++ tail) = _
    rw [List.append_assoc, parse_item, ih]
    cases parse options tail with
    | error e => rfl
    | ok r =>
      simp only [Except.map, lineResult, List.foldr_cons, ParseResult.append_assoc]

/-! Every line is made of items, up to its end or to where it fails. -/

/-- The letters of a group are flags, or there is a first one that takes a value. -/
theorem exists_letters (options : Options ι) {s : Word} (hs : ∀ c ∈ s, isAlnum c = true) :
    (∀ c ∈ s, IsFlag options c) ∨ ∃ (l : Letters options) (v : Word),
      s = l.flags ++ l.last :: v ∧ ∀ c ∈ v, isAlnum c = true := by
  induction s with
  | nil => exact .inl (by simp)
  | cons c s ih =>
    have hc := hs c List.mem_cons_self
    have htail : ∀ c ∈ s, isAlnum c = true := fun x hx => hs x (List.mem_cons_of_mem _ hx)
    by_cases hf : IsFlag options c
    · rcases ih htail with hall | ⟨l, v, rfl, hv⟩
      · left
        intro x hx
        rcases List.mem_cons.mp hx with rfl | hx
        · exact hf
        · exact hall x hx
      · right
        refine ⟨{ l with flags := c :: l.flags, isFlag := ?_ }, v, rfl, hv⟩
        intro x hx
        rcases List.mem_cons.mp hx with rfl | hx
        · exact hf
        · exact l.isFlag x hx
    · obtain ⟨d, hd, hnone⟩ : ∃ d, options [c] = some d ∧ d.implicitValue = none := by
        by_contra hno
        refine hf ⟨hc, ?_⟩
        intro d hd hnone
        exact hno ⟨d, hd, hnone⟩
      exact .inr ⟨⟨[], by simp, c, hc, d, hd, hnone⟩, s, rfl, htail⟩

variable (options) in
/-- The line starts with an item, or fails. -/
def Begins (args : List Word) : Prop :=
  (∃ (item : Item options) (rest : List Word), args = item.words ++ rest ∧
    rest.length < args.length) ∨ ∃ e, Fails options args e

theorem begins_long {n : Word} (hn : IsLongName n) {d : OptionDetails ι} (hd : options n = some d)
    (rest : List Word) : Begins options (('-' :: '-' :: n) :: rest) := by
  cases hi : d.implicitValue with
  | some v => exact .inl ⟨.longFlag n hn d hd v hi, rest, rfl, by simp⟩
  | none =>
    cases rest with
    | nil => exact .inr ⟨_, .longMissing n hn d ⟨hd, hi⟩⟩
    | cons v rest =>
      cases ha : d.accepts v with
      | true =>
        refine .inl ⟨.longNext n hn d ⟨hd, hi⟩ v ha, rest, rfl, ?_⟩
        simp only [List.length_cons]
        omega
      | false => exact .inr ⟨_, .longNext n hn d ⟨hd, hi⟩ v ha rest⟩

theorem begins_longValue {n : Word} (hn : IsLongName n) {d : OptionDetails ι}
    (hd : options n = some d) {v : Word} (hv : IsValue v) (rest : List Word) :
    Begins options (('-' :: '-' :: (n ++ '=' :: v)) :: rest) := by
  cases ha : d.accepts v with
  | true => exact .inl ⟨.longValue n hn d hd v hv ha, rest, rfl, by simp⟩
  | false => exact .inr ⟨_, .longValue n hn d hd v hv ha rest⟩

theorem begins_letters (l : Letters options) {v : Word} (hv : ∀ c ∈ v, isAlnum c = true)
    (rest : List Word) : Begins options (('-' :: (l.flags ++ l.last :: v)) :: rest) := by
  by_cases hnil : v = []
  · subst hnil
    cases rest with
    | nil => exact .inr ⟨_, .missing l⟩
    | cons v rest =>
      cases ha : l.details.accepts v with
      | true => exact .inl ⟨.next l v ha, rest, rfl, by simp only [List.length_cons]; omega⟩
      | false => exact .inr ⟨_, .next l v ha rest⟩
  · cases ha : l.details.accepts v with
    | true => exact .inl ⟨.attached l v ⟨hnil, hv⟩ ha, rest, rfl, by simp⟩
    | false => exact .inr ⟨_, .attached l v ⟨hnil, hv⟩ ha rest⟩

/-- Every word but `--` begins an item, or fails. -/
theorem begins_of_ne (options : Options ι) {w : Word} (hw : w ≠ ['-', '-']) (rest : List Word) :
    Begins options (w :: rest) := by
  cases harg : parseArgument w with
  | none => exact .inl ⟨.other w ⟨hw, .inl harg⟩, rest, rfl, by simp⟩
  | some desc =>
    cases desc with
    | long n value =>
      obtain ⟨hn, hword⟩ := long_of_parseArgument harg
      cases hd : options n with
      | none => exact .inl ⟨.other w ⟨hw, .inr ⟨n, value, harg, hd⟩⟩, rest, rfl, by simp⟩
      | some d =>
        rcases hword with ⟨-, rfl⟩ | ⟨v, -, hv, rfl⟩
        · exact begins_long hn hd rest
        · exact begins_longValue hn hd hv rest
    | grouping s =>
      obtain ⟨hs, rfl⟩ := grouping_of_parseArgument harg
      rcases exists_letters options hs.all with hf | ⟨l, v, rfl, hv⟩
      · exact .inl ⟨.flags s hs.ne_nil hf, rest, rfl, by simp⟩
      · exact begins_letters l hv rest

/-- Where the options end. -/
def Ends (tail : List Word) : Prop := tail = [] ∨ ∃ rest, tail = ['-', '-'] :: rest

/-- Every line is items up to its end, or up to where it fails. -/
theorem exists_items (options : Options ι) (args : List Word) :
    ∃ (items : List (Item options)) (tail : List Word), args = lineWords items ++ tail ∧
      (Ends tail ∨ ∃ e, Fails options tail e) := by
  induction hn : args.length using Nat.strongRecOn generalizing args with
  | ind n ih =>
    cases args with
    | nil => exact ⟨[], [], rfl, .inl (.inl rfl)⟩
    | cons w rest =>
      by_cases hw : w = ['-', '-']
      · exact ⟨[], w :: rest, rfl, .inl (.inr ⟨rest, by rw [hw]⟩)⟩
      · rcases begins_of_ne options hw rest with ⟨item, rest', hwords, hlt⟩ | hfail
        · obtain ⟨items, tail, htail, hend⟩ := ih rest'.length (hn ▸ hlt) rest' rfl
          refine ⟨item :: items, tail, ?_, hend⟩
          rw [hwords, htail, ← List.append_assoc]
          rfl
        · exact ⟨[], w :: rest, rfl, .inr hfail⟩

theorem parse_ends (options : Options ι) {tail : List Word} (h : Ends tail) :
    ∃ rest, parse options tail = .ok ⟨[], rest⟩ := by
  rcases h with rfl | ⟨rest, rfl⟩
  · exact ⟨[], rfl⟩
  · exact ⟨rest, parse_dashes rest⟩

/-- What is read of a line of items is what they say. -/
theorem parse_line_of_ends (items : List (Item options)) {tail : List Word} (h : Ends tail) :
    ∃ r, parse options (lineWords items ++ tail) = .ok r ∧
      r.sequential = (lineResult items).sequential := by
  obtain ⟨rest, hrest⟩ := parse_ends options h
  refine ⟨_, by rw [parse_line, hrest]; rfl, ?_⟩
  exact List.append_nil _

end Grammar

end CommandLine
