import PlotScript.Command.InlineOption
import PlotScript.Proofs.NameMap

/-!
# Options with their values attached

An option that is written as one token, `/name=value`, is taken from the tokens of
a command line and from the words of a call alike. What the two readers do with the next
token or word is told here one case at a time.
-/

namespace PlotScript

namespace OptionToken

/-- Names that an option can be written with. -/
def IsName (name : String) : Prop :=
  ∃ c rest, name.toList = c :: rest ∧ Text.isWordChar c = true ∧ ∀ d ∈ rest, isNameChar d = true

instance (name : String) : Decidable (IsName name) :=
  match letters : name.toList with
  | [] => isFalse (by simp [IsName, letters])
  | c :: rest =>
      decidable_of_iff (Text.isWordChar c = true ∧ rest.all isNameChar = true)
        (by simp [IsName, letters])

/-- An option as one token. -/
def attached (name value : String) : String :=
  "/" ++ name ++ "=" ++ value

theorem toList_attached (name value : String) :
    (attached name value).toList = '/' :: (name.toList ++ '=' :: value.toList) := by
  simp [attached]

/-- The token of an option gives it back if its value stays on one line, and has not the shape
of an option otherwise. -/
theorem ofToken?_attached_ite {name : String} (named : IsName name) (value : String) :
    ofToken? (attached name value) =
      if '\n' ∈ value.toList then none else some ⟨name, some value⟩ := by
  obtain ⟨c, rest, letters, first, others⟩ := named
  have notEquals : isNameChar '=' = false := by decide
  have nameTaken : (rest ++ '=' :: value.toList).takeWhile isNameChar = rest := by
    rw [List.takeWhile_append_of_pos others, List.takeWhile_cons_of_neg (by simp [notEquals]),
      List.append_nil]
  have valueLeft : (rest ++ '=' :: value.toList).dropWhile isNameChar = '=' :: value.toList := by
    rw [List.dropWhile_append_of_pos others, List.dropWhile_cons_of_neg (by simp [notEquals])]
  have whole : String.ofList (c :: rest) = name := by
    rw [← letters, String.ofList_toList]
  rw [ofToken?, toList_attached, letters]
  simp [first, nameTaken, valueLeft, whole]

theorem ofToken?_attached {name value : String} (named : IsName name)
    (oneLine : '\n' ∉ value.toList) :
    ofToken? (attached name value) = some ⟨name, some value⟩ := by
  rw [ofToken?_attached_ite named, if_neg oneLine]

/-- Only a name behind a slash, perhaps with a value attached, has the shape of an
option. -/
theorem eq_of_ofToken? {token : String} {o : OptionToken} (h : ofToken? token = some o) :
    IsName o.name ∧
      match o.value with
      | none => token = "/" ++ o.name
      | some value => '\n' ∉ value.toList ∧ token = attached o.name value := by
  unfold ofToken? at h
  split at h
  · rename_i c rest spelled
    split at h
    · rename_i first
      have others : ∀ d ∈ rest.takeWhile isNameChar, isNameChar d = true :=
        List.all_eq_true.1 List.all_takeWhile
      have whole := List.takeWhile_append_dropWhile (p := isNameChar) (l := rest)
      have isName : IsName (String.ofList (c :: rest.takeWhile isNameChar)) :=
        ⟨c, _, String.toList_ofList, first, others⟩
      dsimp only at h
      split at h
      · rename_i nothing
        obtain rfl := Option.some.inj h
        rw [nothing, List.append_nil] at whole
        refine ⟨isName, String.toList_inj.1 ?_⟩
        simp [spelled, whole]
      · rename_i value behind
        split at h
        · cases h
        · rename_i oneLine
          obtain rfl := Option.some.inj h
          refine ⟨isName, by simpa using oneLine, String.toList_inj.1 ?_⟩
          rw [spelled, toList_attached, String.toList_ofList, String.toList_ofList,
            List.cons_append, ← behind, whole]
      · cases h
    · cases h
  · cases h

end OptionToken

/-- The value of an option is the next token, or the one behind an equals sign. -/
theorem eq_of_takeValue {name value : String} {tokens rest : List String}
    (h : takeValue name tokens = .ok (value, rest)) :
    tokens = "=" :: value :: rest ∨ value ≠ "=" ∧ tokens = value :: rest := by
  unfold takeValue at h
  split at h
  · rename_i v behind
    obtain ⟨rfl, rfl⟩ : v = value ∧ behind = rest := by simpa using h
    exact .inl rfl
  · cases h
  · rename_i v behind notParted notAlone
    obtain ⟨rfl, rfl⟩ : v = value ∧ behind = rest := by simpa using h
    refine .inr ⟨?_, rfl⟩
    rintro rfl
    cases behind with
    | nil => exact notAlone rfl rfl
    | cons next behind => exact notParted next behind rfl rfl
  · cases h

theorem takeValue_parted (name value : String) (rest : List String) :
    takeValue name ("=" :: value :: rest) = .ok (value, rest) := rfl

theorem takeValue_spaced {value : String} (isValue : value ≠ "=") (name : String)
    (rest : List String) : takeValue name (value :: rest) = .ok (value, rest) := by
  unfold takeValue
  split <;> simp_all

/-! ## Single steps of the readers -/

section

variable {c : Command} {options : RawOptions} {word name : String} {rest : List String}

theorem harvest_argument (plain : OptionToken.ofToken? word = none) :
    harvest c options (word :: rest) = .ok ⟨options, word :: rest, none⟩ := by
  rw [harvest, plain]

theorem harvest_attached_cons {value : String}
    (shape : OptionToken.ofToken? word = some ⟨name, some value⟩)
    (declared : c.declaresOption name = true) :
    harvest c options (word :: rest) = harvest c (options.insert name value) rest := by
  rw [harvest, shape]
  simp [declared]

theorem harvest_separate (shape : OptionToken.ofToken? word = some ⟨name, none⟩)
    (declared : c.declaresOption name = true) :
    harvest c options (word :: rest) =
      (takeValue name rest).bind fun taken =>
        harvest c (options.insert name taken.1) taken.2 := by
  rw [harvest, shape]
  simp only [declared, if_true]
  split <;> simp_all [Except.bind]

theorem partWords_argument (plain : OptionToken.ofToken? word = none) :
    partWords c options (word :: rest) =
      (partWords c options rest).map fun parted =>
        { parted with arguments := word :: parted.arguments } := by
  rw [partWords, plain]
  rfl

theorem partWords_undeclared {o : OptionToken} (shape : OptionToken.ofToken? word = some o)
    (foreign : c.declaresOption o.name = false) :
    partWords c options (word :: rest) = .ok ⟨word :: rest, options, some o.name⟩ := by
  rw [partWords, shape]
  simp [foreign]

theorem partWords_attached_cons {value : String}
    (shape : OptionToken.ofToken? word = some ⟨name, some value⟩)
    (declared : c.declaresOption name = true) :
    partWords c options (word :: rest) = partWords c (options.insert name value) rest := by
  rw [partWords, shape]
  simp [declared]

theorem partWords_separate (shape : OptionToken.ofToken? word = some ⟨name, none⟩)
    (declared : c.declaresOption name = true) :
    partWords c options (word :: rest) =
      (takeValue name rest).bind fun taken =>
        partWords c (options.insert name taken.1) taken.2 := by
  rw [partWords, shape]
  simp only [declared, if_true]
  split <;> simp_all [Except.bind]

end

/-! ## The options of a call as tokens -/

/-- The tokens of the options of a call. -/
def RawOptions.tokens (options : RawOptions) : List String :=
  options.entries.map fun o => OptionToken.attached o.1 o.2

/-- A command takes an option that it declares, whose name can be written and
whose value stays on one line. -/
structure Command.Takes (c : Command) (o : String × String) : Prop where
  declared : c.declaresOption o.1 = true
  named : OptionToken.IsName o.1
  oneLine : '\n' ∉ o.2.toList

variable {c : Command}

/-- The tokens of options that a command takes stay on one line. -/
theorem RawOptions.oneLine_of_mem_tokens {options : RawOptions}
    (takes : ∀ o ∈ options.entries, c.Takes o) {token : String} (member : token ∈ options.tokens) :
    '\n' ∉ token.toList := by
  obtain ⟨o, inside, rfl⟩ := List.mem_map.1 member
  obtain ⟨d, rest, letters, first, others⟩ := (takes o inside).named
  have notLetter : '\n' ∉ o.1.toList := by
    rw [letters]
    rintro (_ | ⟨_, later⟩)
    · revert first
      decide
    · have := others _ later
      revert this
      decide
  rw [OptionToken.toList_attached]
  simpa [notLetter] using (takes o inside).oneLine

theorem harvest_attached {entries : List (String × String)}
    (takes : ∀ o ∈ entries, c.Takes o) (options : RawOptions) :
    harvest c options (entries.map fun o => OptionToken.attached o.1 o.2) =
      .ok ⟨entries.foldl (fun m o => m.insert o.1 o.2) options, [], none⟩ := by
  induction entries generalizing options with
  | nil => rw [List.map_nil, harvest, List.foldl_nil]
  | cons o rest ih =>
      obtain ⟨first, others⟩ := List.forall_mem_cons.1 takes
      have shape := OptionToken.ofToken?_attached first.named first.oneLine
      rw [List.map_cons, harvest_attached_cons shape first.declared, ih others]
      rfl

/-- All options of a call are taken from the tokens of a command line. -/
theorem harvestOptions_tokens {options : RawOptions}
    (takes : ∀ o ∈ options.entries, c.Takes o) :
    harvestOptions c options.tokens = .ok ⟨options, [], none⟩ := by
  rw [harvestOptions, RawOptions.tokens, harvest_attached takes]
  exact congrArg (fun m => Except.ok (Harvest.mk m [] none)) options.ofList_entries

theorem partWords_attached {entries : List (String × String)}
    (takes : ∀ o ∈ entries, c.Takes o) (options : RawOptions) :
    partWords c options (entries.map fun o => OptionToken.attached o.1 o.2) =
      .ok ⟨[], entries.foldl (fun m o => m.insert o.1 o.2) options, none⟩ := by
  induction entries generalizing options with
  | nil => rw [List.map_nil, partWords, List.foldl_nil]
  | cons o rest ih =>
      obtain ⟨first, others⟩ := List.forall_mem_cons.1 takes
      have shape := OptionToken.ofToken?_attached first.named first.oneLine
      rw [List.map_cons, partWords_attached_cons shape first.declared, ih others]
      rfl

/-- Words that are not shaped like options are arguments. -/
theorem partWords_append {arguments : List String}
    (plain : ∀ a ∈ arguments, OptionToken.ofToken? a = none) {options : RawOptions}
    {words : List String} {parted : CallWords} (h : partWords c options words = .ok parted) :
    partWords c options (arguments ++ words) =
      .ok { parted with arguments := arguments ++ parted.arguments } := by
  induction arguments with
  | nil => exact h
  | cons a rest ih =>
      obtain ⟨first, others⟩ := List.forall_mem_cons.1 plain
      rw [List.cons_append, partWords_argument first, ih others]
      rfl

/-- The words of a call are parted into its arguments and its options. -/
theorem splitWords_tokens {arguments : List String} {options : RawOptions}
    (plain : ∀ a ∈ arguments, OptionToken.ofToken? a = none)
    (takes : ∀ o ∈ options.entries, c.Takes o) :
    splitWords c (arguments ++ options.tokens) = .ok ⟨arguments, options, none⟩ := by
  have behind : partWords c NameMap.empty options.tokens = .ok ⟨[], options, none⟩ := by
    rw [RawOptions.tokens, partWords_attached takes]
    exact congrArg (fun m => Except.ok (CallWords.mk [] m none)) options.ofList_entries
  rw [splitWords, partWords_append plain behind, List.append_nil]

end PlotScript
