import YodaStruct.Config.Reader
import YodaStruct.Library.CommandGrammar

/-! The command line of the driver: its options, and whether `main` goes on with a config. -/
namespace YodaStruct.Driver
open YodaStruct.Config CommandLine

inductive CliOption
  | config | help | version
  deriving DecidableEq

/-- `(t|T)(rue)?|1`. -/
def isTrueText (v : CppString) : Bool :=
  v == "t".toList || v == "T".toList || v == "true".toList || v == "True".toList || v == "1".toList

/-- `(f|F)(alse)?|0`. -/
def isFalseText (v : CppString) : Bool :=
  v == "f".toList || v == "F".toList || v == "false".toList || v == "False".toList ||
    v == "0".toList

def configOption : OptionDetails CliOption := ⟨.config, none, fun _ => true, by simp⟩

/-- A `bool` option, which is true when it is named. -/
def flagOption (option : CliOption) : OptionDetails CliOption :=
  ⟨option, some "true".toList, fun v => isTrueText v || isFalseText v, by simp; decide⟩

/-- The options of `parse`, by their short and their long names. -/
def cliOptions : Options CliOption := fun name =>
  if name = "c".toList ∨ name = "config".toList then some configOption
  else if name = "h".toList ∨ name = "help".toList then some (flagOption .help)
  else if name = "v".toList ∨ name = "version".toList then some (flagOption .version)
  else none

/-- The quotes around a name, in UTF-8. -/
def lquote : CppString := [Char.ofNat 0xe2, Char.ofNat 0x80, Char.ofNat 0x98]
def rquote : CppString := [Char.ofNat 0xe2, Char.ofNat 0x80, Char.ofNat 0x99]

def what : ParseError → CppString
  | .missingArgument option =>
    "Option ".toList ++ lquote ++ option ++ rquote ++ " is missing an argument".toList
  | .incorrectType arg => "Argument ".toList ++ lquote ++ arg ++ rquote ++ " failed to parse".toList

/-- How `parse` ends: `std::exit`, after what it printed, or the path of the config. -/
inductive CliOutcome
  | exits (code : ℕ) (output : CppString)
  | goesOn (config : CppString)
  deriving DecidableEq

def conf : CppString := "conf.yml".toList

/-- How often an option is given. -/
def count (sequential : List (CliOption × CppString)) (option : CliOption) : ℕ :=
  (sequential.filter (·.1 = option)).length

/-- The value of `c`: the last one, or the default. -/
def configValue (sequential : List (CliOption × CppString)) : CppString :=
  (((sequential.filter (·.1 = .config)).getLast?).map Prod.snd).getD conf

section Outcome
variable (helpText versionText : CppString)

/-- What `parse` does with the options that it has read. -/
def settle (sequential : List (CliOption × CppString)) : CliOutcome :=
  if count sequential .help > 0 then .exits 0 (helpText ++ ['\n'])
  else if count sequential .version > 0 then .exits 0 (versionText ++ ['\n'])
  else .goesOn (configValue sequential)

/-- `parse`, for the arguments after the name of the program. -/
def parseCommandLine (args : List CppString) : CliOutcome :=
  match CommandLine.parse cliOptions args with
  | .error e => .exits 1 ("error parsing options: ".toList ++ what e ++ ['\n'])
  | .ok r => settle helpText versionText r.sequential

/-! Lines of items. -/

theorem parseCommandLine_items (items : List (Item cliOptions)) {tail : List CppString}
    (h : Ends tail) : parseCommandLine helpText versionText (lineWords items ++ tail) =
      settle helpText versionText (lineResult items).sequential := by
  obtain ⟨r, hr, hseq⟩ := parse_line_of_ends items h
  unfold parseCommandLine
  rw [hr, ← hseq]

theorem parseCommandLine_fails (items : List (Item cliOptions)) {tail : List CppString}
    {e : ParseError} (h : Fails cliOptions tail e) :
    parseCommandLine helpText versionText (lineWords items ++ tail) =
      .exits 1 ("error parsing options: ".toList ++ what e ++ ['\n']) := by
  unfold parseCommandLine
  rw [parse_line, parse_fails h]
  rfl

/-- Every command line is a list of items, up to its end or to `--`, and then what they ask for
is done, or it fails where the items stop, whatever they ask for. -/
theorem parseCommandLine_cases (args : List CppString) :
    ∃ (items : List (Item cliOptions)) (tail : List CppString), args = lineWords items ++ tail ∧
      (Ends tail ∧ parseCommandLine helpText versionText args =
          settle helpText versionText (lineResult items).sequential ∨
        ∃ e, Fails cliOptions tail e ∧ parseCommandLine helpText versionText args =
          .exits 1 ("error parsing options: ".toList ++ what e ++ ['\n'])) := by
  obtain ⟨items, tail, rfl, hend⟩ := exists_items cliOptions args
  refine ⟨items, tail, rfl, ?_⟩
  rcases hend with hend | ⟨e, hfail⟩
  · exact .inl ⟨hend, parseCommandLine_items helpText versionText items hend⟩
  · exact .inr ⟨e, hfail, parseCommandLine_fails helpText versionText items hfail⟩

/-! The ways to give a config. -/

theorem takes_c : Takes cliOptions ['c'] configOption := ⟨rfl, rfl⟩

theorem takes_config : Takes cliOptions "config".toList configOption := ⟨rfl, rfl⟩

theorem isLongName_config : IsLongName "config".toList :=
  ⟨'c', 'o', "nfig".toList, rfl, by decide, List.all_eq_true.mp (by decide)⟩

/-- The letter `c` with nothing before it. -/
def cLetter : Letters cliOptions := ⟨[], by simp, 'c', by decide, configOption, takes_c⟩

/-- The path is one argument, or part of one. -/
inductive ConfigSpelling
  | short | long | equals | attached
  deriving DecidableEq

def ConfigSpelling.words (path : CppString) : ConfigSpelling → List CppString
  | short => ["-c".toList, path]
  | long => ["--config".toList, path]
  | equals => ["--config=".toList ++ path]
  | attached => ["-c".toList ++ path]

/-- The paths that a spelling is good for. -/
def ConfigSpelling.Carries (path : CppString) : ConfigSpelling → Prop
  | short | long => True
  | equals => IsValue path
  | attached => IsGroup path

/-- A path that its spelling carries is an item of its own. -/
theorem ConfigSpelling.exists_item {sp : ConfigSpelling} {path : CppString} (h : sp.Carries path) :
    ∃ item : Item cliOptions, item.words = sp.words path ∧
      item.result.sequential = [(.config, path)] := by
  cases sp with
  | short => exact ⟨.next cLetter path rfl, rfl, rfl⟩
  | long => exact ⟨.longNext _ isLongName_config configOption takes_config path rfl, rfl, rfl⟩
  | equals =>
    exact ⟨.longValue _ isLongName_config configOption takes_config.1 path h rfl, rfl, rfl⟩
  | attached => exact ⟨.attached cLetter path h rfl, rfl, rfl⟩

/-- Any other path makes its word one that is no option. -/
theorem ConfigSpelling.exists_other {sp : ConfigSpelling} {path : CppString} (hne : path ≠ [])
    (h : ¬sp.Carries path) : ∃ item : Item cliOptions, item.words = sp.words path ∧
      item.result.sequential = [] := by
  cases sp with
  | short => exact absurd trivial h
  | long => exact absurd trivial h
  | equals =>
    have hall : path.all isValueChar = false := by
      rw [← Bool.not_eq_true, List.all_eq_true]
      exact h
    have hword : parseArgument ("--config=".toList ++ path) = none := by
      have happend := parseArgument_long_append isLongName_config (w := '=' :: path)
        (by simp [isNameChar_equals])
      simp only [parseValue, hall] at happend
      exact happend
    exact ⟨.other _ ⟨by simp, .inl hword⟩, rfl, rfl⟩
  | attached =>
    have hall : ('c' :: path).all isAlnum = false := by
      rw [← Bool.not_eq_true, List.all_eq_true]
      intro hall
      exact h ⟨hne, fun c hc => hall c (List.mem_cons_of_mem _ hc)⟩
    have hword : parseArgument ("-c".toList ++ path) = none := by
      change parseArgument ('-' :: 'c' :: path) = none
      simp [parseArgument, hall]
    exact ⟨.other _ ⟨by simp, .inl hword⟩, rfl, rfl⟩

/-- Nothing but configs is asked for. -/
def OnlyConfigs (items : List (Item cliOptions)) : Prop :=
  ∀ x ∈ (lineResult items).sequential, x.1 = .config

theorem settle_of_configs {sequential : List (CliOption × CppString)}
    (h : ∀ x ∈ sequential, x.1 = .config) :
    settle helpText versionText sequential = .goesOn (configValue sequential) := by
  have hcount : ∀ option, option ≠ .config → count sequential option = 0 := by
    intro option hne
    unfold count
    rw [List.length_eq_zero_iff, List.filter_eq_nil_iff]
    intro x hx hoption
    exact hne ((of_decide_eq_true hoption).symm.trans (h x hx))
  unfold settle
  rw [hcount .help (by decide), hcount .version (by decide)]
  rfl

theorem configValue_append_singleton (sequential : List (CliOption × CppString))
    (path : CppString) : configValue (sequential ++ [(.config, path)]) = path := by
  simp [configValue]

/-- A path is the config when its spelling carries it, or when it would be the config without
being given. -/
theorem config_spelling_iff (helpText versionText : CppString) (before after : List (Item cliOptions))
    (hbefore : OnlyConfigs before) (hafter : (lineResult after).sequential = [])
    {tail : List CppString} (htail : Ends tail) (sp : ConfigSpelling) {path : CppString}
    (hne : path ≠ []) :
    parseCommandLine helpText versionText
        (lineWords before ++ sp.words path ++ lineWords after ++ tail) = .goesOn path ↔
      sp.Carries path ∨ configValue (lineResult before).sequential = path := by
  have hline : ∀ item : Item cliOptions, item.words = sp.words path →
      parseCommandLine helpText versionText
          (lineWords before ++ sp.words path ++ lineWords after ++ tail) =
        settle helpText versionText
          ((lineResult before).sequential ++ item.result.sequential) := by
    intro item hwords
    have hitems : lineWords before ++ sp.words path ++ lineWords after =
        lineWords (before ++ item :: after) := by
      simp [lineWords, hwords]
    rw [hitems, parseCommandLine_items _ _ _ htail, lineResult_append]
    have hcons : lineResult (item :: after) = item.result ++ lineResult after := rfl
    simp [hcons, hafter]
  by_cases hc : sp.Carries path
  · obtain ⟨item, hwords, hresult⟩ := ConfigSpelling.exists_item hc
    rw [hline item hwords, hresult, settle_of_configs]
    · simp [configValue_append_singleton, hc]
    · intro x hx
      rcases List.mem_append.mp hx with hx | hx
      · exact hbefore x hx
      · rw [List.mem_singleton.mp hx]
  · obtain ⟨item, hwords, hresult⟩ := ConfigSpelling.exists_other hne hc
    rw [hline item hwords, hresult, List.append_nil, settle_of_configs _ _ hbefore]
    simp [hc]

end Outcome

/-- The config of another run comes first, and a word that is no option last. -/
def oldConfig : Item cliOptions := .next cLetter "old.yml".toList rfl

def lastWord : Item cliOptions := .other "run".toList ⟨by decide, .inl (by decide +kernel)⟩

/-- A path in a directory is lost when it is attached to `-c`. -/
theorem config_spelling_directory :
    parseCommandLine [] [] (lineWords [oldConfig] ++
      ConfigSpelling.attached.words "in/a.yml".toList ++ lineWords [lastWord] ++
        ["--".toList, "-h".toList]) ≠ .goesOn "in/a.yml".toList := by
  have hbefore : OnlyConfigs [oldConfig] := by
    unfold OnlyConfigs
    decide
  intro hgoes
  have hcases := (config_spelling_iff [] [] [oldConfig] [lastWord] hbefore rfl (.inr ⟨_, rfl⟩)
    .attached (by decide)).mp hgoes
  rcases hcases with hcarries | hconf
  · exact absurd (hcarries.2 '/' (by decide)) (by decide)
  · exact absurd hconf (by decide)

end YodaStruct.Driver
