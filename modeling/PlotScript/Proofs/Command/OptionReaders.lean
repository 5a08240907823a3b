import PlotScript.Proofs.Command.InlineOption

/-!
# Two readers of options

The tokens of a command line and the words of a call are read by one grammar of options. They
agree on the options at the front, whose end is the end of all options on a command line.
Among the words of a call the reading goes on behind an argument, unless an option that the
command does not declare has ended it for good. Such an option is all that either reading
warns of.
-/

namespace PlotScript

variable {c : Command} {options : RawOptions}

/-! ## The options at the front -/

/-- The words of a call are parted by taking the options at the front and going on behind
them, unless an option that is not declared stands there. -/
theorem partWords_eq_bind_harvest (c : Command) (options : RawOptions) (tokens : List String) :
    partWords c options tokens =
      (harvest c options tokens).bind fun taken =>
        match taken.undeclared with
        | some name => .ok ⟨taken.rest, taken.options, some name⟩
        | none => partWords c taken.options taken.rest := by
  fun_induction harvest c options tokens with
  | case1 => rfl
  | case2 => rfl
  | case3 options token rest o shape declared value attached ih =>
      rw [← ih]
      obtain ⟨name, given⟩ := o
      subst attached
      exact partWords_attached_cons shape declared
  | case4 options token rest o shape declared separate cause missing =>
      obtain ⟨name, given⟩ := o
      subst separate
      rw [partWords_separate shape declared, missing]
      rfl
  | case5 options token rest o shape declared separate value behind taken _ ih =>
      obtain ⟨name, given⟩ := o
      subst separate
      rw [partWords_separate shape declared, taken, ← ih]
      rfl
  | case6 options token rest o shape foreign =>
      exact partWords_undeclared shape (Bool.eq_false_iff.2 foreign)

/-- Nothing of the shape of an option is left in front when the options end by themselves. -/
theorem plain_of_harvest {tokens : List String} {taken : Harvest}
    (h : harvest c options tokens = .ok taken) (ended : taken.undeclared = none) :
    ∀ token ∈ taken.rest.head?, OptionToken.ofToken? token = none := by
  fun_induction harvest c options tokens with
  | case1 =>
      obtain rfl := Except.ok.inj h
      intro token member
      cases member
  | case2 options token rest plain =>
      obtain rfl := Except.ok.inj h
      intro first member
      obtain rfl : token = first := by simpa using member
      exact plain
  | case3 options token rest o shape declared value attached ih => exact ih h
  | case4 => cases h
  | case5 options token rest o shape declared separate value behind taken _ ih => exact ih h
  | case6 =>
      obtain rfl := Except.ok.inj h
      cases ended

/-! ## The options so far -/

/-- Options that were taken before are kept, except where the words give them anew. -/
theorem partWords_override (c : Command) (before options : RawOptions) (words : List String) :
    partWords c (before.override options) words =
      (partWords c options words).map fun parted =>
        { parted with options := before.override parted.options } := by
  fun_induction partWords c options words with
  | case1 => rw [partWords]; rfl
  | case2 options word rest plain ih =>
      rw [partWords_argument plain, ih]
      cases partWords c options rest <;> rfl
  | case3 options word rest o shape declared value attached ih =>
      obtain ⟨name, given⟩ := o
      subst attached
      rw [partWords_attached_cons shape declared, ← ih, NameMap.override_insert]
  | case4 options word rest o shape declared separate cause missing =>
      obtain ⟨name, given⟩ := o
      subst separate
      rw [partWords_separate shape declared, missing]
      rfl
  | case5 options word rest o shape declared separate value behind taken _ ih =>
      obtain ⟨name, given⟩ := o
      subst separate
      rw [partWords_separate shape declared, taken, ← ih, NameMap.override_insert]
      rfl
  | case6 options word rest o shape foreign =>
      exact partWords_undeclared shape (Bool.eq_false_iff.2 foreign)

theorem partWords_eq_splitWords (c : Command) (options : RawOptions) (words : List String) :
    partWords c options words =
      (splitWords c words).map fun parted =>
        { parted with options := options.override parted.options } := by
  rw [splitWords, ← partWords_override, NameMap.override_empty]

/-! ## The words one by one -/

/-- What a word of a call is taken for. -/
inductive WordRole where
  | argument
  /-- the name of an option, perhaps with its value attached -/
  | option
  /-- the equals sign between the name of an option and its value -/
  | equals
  | value
  deriving DecidableEq

/-- `c.Labels labelled given undeclared`: the words of a call with their roles, the options that
they give, and the option that is not declared and makes arguments of all words from it on. -/
inductive Command.Labels (c : Command) :
    List (String × WordRole) → List (String × String) → Option String → Prop
  | nil : c.Labels [] [] none
  | argument {word : String} {labelled : List (String × WordRole)}
      {given : List (String × String)} {undeclared : Option String}
      (plain : OptionToken.ofToken? word = none) (others : c.Labels labelled given undeclared) :
      c.Labels ((word, .argument) :: labelled) given undeclared
  | attached {word name value : String} {labelled : List (String × WordRole)}
      {given : List (String × String)} {undeclared : Option String}
      (shape : OptionToken.ofToken? word = some ⟨name, some value⟩)
      (declared : c.declaresOption name = true) (others : c.Labels labelled given undeclared) :
      c.Labels ((word, .option) :: labelled) ((name, value) :: given) undeclared
  | spaced {word name value : String} {labelled : List (String × WordRole)}
      {given : List (String × String)} {undeclared : Option String}
      (shape : OptionToken.ofToken? word = some ⟨name, none⟩)
      (declared : c.declaresOption name = true) (isValue : value ≠ "=")
      (others : c.Labels labelled given undeclared) :
      c.Labels ((word, .option) :: (value, .value) :: labelled) ((name, value) :: given) undeclared
  | parted {word name value : String} {labelled : List (String × WordRole)}
      {given : List (String × String)} {undeclared : Option String}
      (shape : OptionToken.ofToken? word = some ⟨name, none⟩)
      (declared : c.declaresOption name = true) (others : c.Labels labelled given undeclared) :
      c.Labels ((word, .option) :: ("=", .equals) :: (value, .value) :: labelled)
        ((name, value) :: given) undeclared
  | undeclared {word : String} {words : List String} {o : OptionToken}
      (shape : OptionToken.ofToken? word = some o) (foreign : c.declaresOption o.name = false) :
      c.Labels ((word :: words).map fun w => (w, .argument)) [] (some o.name)

/-- The words of one role, in order. -/
def wordsOf (role : WordRole) (labelled : List (String × WordRole)) : List String :=
  (labelled.filter (·.2 = role)).map (·.1)

theorem map_fst_arguments (words : List String) :
    (words.map fun w => (w, WordRole.argument)).map (·.1) = words := by
  simp [Function.comp_def]

theorem wordsOf_arguments (words : List String) :
    wordsOf .argument (words.map fun w => (w, WordRole.argument)) = words := by
  simp [wordsOf, List.filter_map, Function.comp_def]

theorem Command.Labels.partWords_eq {labelled : List (String × WordRole)}
    {given : List (String × String)} {undeclared : Option String}
    (labels : c.Labels labelled given undeclared) (options : RawOptions) :
    partWords c options (labelled.map (·.1)) =
      .ok ⟨wordsOf .argument labelled, given.foldl (fun m o => m.insert o.1 o.2) options,
        undeclared⟩ := by
  induction labels generalizing options with
  | nil => rw [List.map_nil, partWords]; rfl
  | argument plain others ih =>
      rw [List.map_cons, partWords_argument plain, ih]
      rfl
  | attached shape declared others ih =>
      rw [List.map_cons, partWords_attached_cons shape declared, ih]
      rfl
  | spaced shape declared isValue others ih =>
      rw [List.map_cons, partWords_separate shape declared, List.map_cons,
        takeValue_spaced isValue]
      exact ih _
  | parted shape declared others ih =>
      rw [List.map_cons, partWords_separate shape declared, List.map_cons, List.map_cons,
        takeValue_parted]
      exact ih _
  | undeclared shape foreign =>
      rw [map_fst_arguments, partWords_undeclared shape foreign, wordsOf_arguments]
      rfl

theorem exists_labels_of_partWords {words : List String} {parted : CallWords}
    (h : partWords c options words = .ok parted) :
    ∃ labelled given, labelled.map (·.1) = words ∧ c.Labels labelled given parted.undeclared ∧
      parted.arguments = wordsOf .argument labelled ∧
      parted.options = given.foldl (fun m o => m.insert o.1 o.2) options := by
  fun_induction partWords c options words generalizing parted with
  | case1 =>
      obtain rfl := Except.ok.inj h
      exact ⟨[], [], rfl, .nil, rfl, rfl⟩
  | case2 options word rest plain ih =>
      obtain ⟨others, read, h⟩ := exists_of_bind_eq_ok h
      obtain rfl := Except.ok.inj h
      obtain ⟨labelled, given, rfl, labels, arguments, all⟩ := ih read
      exact ⟨(word, .argument) :: labelled, given, rfl, .argument plain labels,
        congrArg (word :: ·) arguments, all⟩
  | case3 options word rest o shape declared value attached ih =>
      obtain ⟨labelled, given, rfl, labels, arguments, all⟩ := ih h
      obtain ⟨name, attachedValue⟩ := o
      subst attached
      exact ⟨(word, .option) :: labelled, (name, value) :: given, rfl,
        .attached shape declared labels, arguments, all⟩
  | case4 => cases h
  | case5 options word rest o shape declared separate value behind taken _ ih =>
      obtain ⟨labelled, given, rfl, labels, arguments, all⟩ := ih h
      obtain ⟨name, attachedValue⟩ := o
      subst separate
      rcases eq_of_takeValue taken with rfl | ⟨isValue, rfl⟩
      · exact ⟨(word, .option) :: ("=", .equals) :: (value, .value) :: labelled,
          (name, value) :: given, rfl, .parted shape declared labels, arguments, all⟩
      · exact ⟨(word, .option) :: (value, .value) :: labelled, (name, value) :: given, rfl,
          .spaced shape declared isValue labels, arguments, all⟩
  | case6 options word rest o shape foreign =>
      obtain rfl := Except.ok.inj h
      exact ⟨(word :: rest).map fun w => (w, .argument), [], map_fst_arguments _,
        .undeclared shape (Bool.eq_false_iff.2 foreign), (wordsOf_arguments _).symm, rfl⟩

/-- The words of a call can be parted exactly when each of them has a role. The arguments are
then the words of that role, and the last value that is given for a name is kept. -/
theorem splitWords_eq_ok_iff {words : List String} {parted : CallWords} :
    splitWords c words = .ok parted ↔
      ∃ labelled given, labelled.map (·.1) = words ∧ c.Labels labelled given parted.undeclared ∧
        parted.arguments = wordsOf .argument labelled ∧ parted.options = NameMap.ofList given := by
  constructor
  · exact exists_labels_of_partWords
  · rintro ⟨labelled, given, rfl, labels, arguments, options⟩
    rw [splitWords, labels.partWords_eq, ← arguments, ← NameMap.ofList, ← options]

/-! ## The two readers -/

/-- Both readers of options follow one grammar. Where the options at the front of the tokens
cannot be taken, the words cannot be parted, for the same reason. Where an undeclared option
ends them, it ends the parting of the words too and all that is left are arguments. Otherwise
the words end there, or they go on with an argument and are parted behind it as by themselves.
When words are parted, every one is an argument or belongs to an option. -/
theorem optionReaders_agree (c : Command) (tokens : List String) :
    (match harvestOptions c tokens with
      | .error cause => splitWords c tokens = .error cause
      | .ok ⟨options, rest, some name⟩ => splitWords c tokens = .ok ⟨rest, options, some name⟩
      | .ok ⟨options, rest, none⟩ =>
          (rest = [] ∧ splitWords c tokens = .ok ⟨[], options, none⟩) ∨
            ∃ word behind, rest = word :: behind ∧ OptionToken.ofToken? word = none ∧
              splitWords c tokens = (splitWords c behind).map fun parted =>
                ⟨word :: parted.arguments, options.override parted.options,
                  parted.undeclared⟩) ∧
    ∀ parted, splitWords c tokens = .ok parted ↔
      ∃ labelled given, labelled.map (·.1) = tokens ∧
        c.Labels labelled given parted.undeclared ∧
        parted.arguments = wordsOf .argument labelled ∧
        parted.options = NameMap.ofList given := by
  refine ⟨?_, fun parted => splitWords_eq_ok_iff⟩
  have onward : splitWords c tokens = _ := partWords_eq_bind_harvest c NameMap.empty tokens
  cases harvested : harvestOptions c tokens with
  | error cause =>
      rw [onward, ← harvestOptions, harvested]
      rfl
  | ok taken =>
      rw [← harvestOptions, harvested] at onward
      obtain ⟨options, rest, undeclared⟩ := taken
      cases undeclared with
      | some name => exact onward
      | none =>
          have plain := plain_of_harvest harvested rfl
          have goesOn : splitWords c tokens = partWords c options rest := onward
          cases rest with
          | nil => exact .inl ⟨rfl, by rw [goesOn, partWords]⟩
          | cons word behind =>
              refine .inr ⟨word, behind, rfl, plain word rfl, ?_⟩
              rw [goesOn, partWords_argument (plain word rfl), partWords_eq_splitWords]
              cases splitWords c behind <;> rfl

end PlotScript
