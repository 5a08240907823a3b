import PlotScript.CommandFile.Interpreter
import PlotScript.Proofs.Command.InlineOption
import PlotScript.Proofs.Execution.Running
import PlotScript.Proofs.Text.Blank

/-!
# Lines that call a command

When a text of one line calls a command, and what the context is asked for then:
after the words are read it learns the location and runs the command.
-/

namespace PlotScript

open Text

namespace Statement

/-- A keyword is only found where it is the whole first word. -/
theorem takeWord_eq_none {word s : List Char} (keyword : word.all (!isBlank ·) = true)
    (other : s.takeWhile (!isBlank ·) ≠ word) : takeWord word s = none := by
  unfold takeWord
  split
  · rename_i isFront
    obtain ⟨rest, rfl⟩ := List.isPrefixOf_iff_prefix.1 isFront
    rw [List.drop_left]
    cases rest with
    | nil => rfl
    | cons c rest =>
        cases blank : isBlank c with
        | false => simp [blank]
        | true =>
            have whole : (word ++ c :: rest).takeWhile (!isBlank ·) = word := by
              rw [List.takeWhile_append_of_pos (List.all_eq_true.1 keyword),
                List.takeWhile_cons_of_neg (by simp [blank]), List.append_nil]
            exact absurd whole other
  · rfl

/-- The signs of an assignment. -/
def signs : List String :=
  ["=", ":=", "?=", "?:="]

/-- Whether a text begins with the sign of an assignment. -/
def beginsWithSign (s : List Char) : Bool :=
  signs.any fun sign => sign.toList.isPrefixOf s

theorem beginsWithSign_eq_false_iff {s : List Char} :
    beginsWithSign s = false ↔ ∀ sign ∈ signs, ¬ sign.toList <+: s := by
  simp [beginsWithSign]

/-- A sign is not made by a blank. -/
theorem not_prefix_append {sign word tail : List Char} (other : ¬ sign <+: word)
    (noBlank : ' ' ∉ sign) (parted : ∀ c, tail.head? = some c → c = ' ') :
    ¬ sign <+: word ++ tail := by
  intro front
  rcases List.prefix_or_prefix_of_prefix front (List.prefix_append word tail) with inside | around
  · exact other inside
  · obtain ⟨rest, rfl⟩ := around
    have behind := (List.prefix_append_right_inj word).1 front
    cases rest with
    | nil =>
        rw [List.append_nil] at other
        exact other (List.prefix_refl word)
    | cons c rest =>
        obtain ⟨others, rfl⟩ := behind
        rw [parted c rfl] at noBlank
        exact noBlank (List.mem_append_right _ List.mem_cons_self)

theorem beginsWithSign_append {word tail : List Char} (h : beginsWithSign word = false)
    (parted : ∀ c, tail.head? = some c → c = ' ') : beginsWithSign (word ++ tail) = false := by
  have noBlank : ∀ sign ∈ signs, ' ' ∉ sign.toList := by decide
  refine beginsWithSign_eq_false_iff.2 fun sign member => ?_
  exact not_prefix_append (beginsWithSign_eq_false_iff.1 h sign member) (noBlank sign member) parted

/-- A name with no sign behind it is no assignment. A question mark may have blanks
between itself and the rest of its sign. -/
theorem assignment?_eq_none {name rest : List Char} {c : Char} (tight : isBlank c = false)
    (named : takeName (name ++ ' ' :: c :: rest) = some (name, ' ' :: c :: rest))
    (notBlank : trimStart (name ++ ' ' :: c :: rest) = name ++ ' ' :: c :: rest)
    (noSign : beginsWithSign (c :: rest) = false)
    (noSignBehind : c = '?' → beginsWithSign ('?' :: trimStart rest) = false) :
    assignment? (name ++ ' ' :: c :: rest) = none := by
  have behind : trimStart (' ' :: c :: rest) = c :: rest := by
    rw [trimStart, List.dropWhile_cons_of_pos (by decide)]
    exact List.dropWhile_cons_of_neg (by simp [tight])
  unfold assignment?
  rw [notBlank, named]
  simp only [Option.bind_eq_bind, Option.bind_some, behind]
  -- blanks may part a question mark from the rest of its sign
  by_cases question : c = '?'
  · subst question
    have noDeferred : ∀ t, trimStart rest ≠ ':' :: '=' :: t := by
      intro t same
      rw [same] at noSignBehind
      cases noSignBehind rfl
    have noPlain : ∀ t, trimStart rest ≠ '=' :: t := by
      intro t same
      rw [same] at noSignBehind
      cases noSignBehind rfl
    simp only
    rfl
  · have notSoft : ∀ t, c :: rest ≠ '?' :: t := fun t same =>
      question (List.cons.inj same).1
    have noDeferred : ∀ t, c :: rest ≠ ':' :: '=' :: t := by
      intro t same
      rw [same] at noSign
      cases noSign
    have noPlain : ∀ t, c :: rest ≠ '=' :: t := by
      intro t same
      rw [same] at noSign
      cases noSign
    simp only
    rfl

/-- A text whose first word is no keyword calls a command, unless it is a comment
or an assignment. -/
theorem classify_eq_command {c : Char} {rest : List Char} (tight : Tight (c :: rest))
    (notComment : c ≠ '#')
    (notRuby : (c :: rest).takeWhile (!isBlank ·) ≠ "ruby".toList)
    (notFor : (c :: rest).takeWhile (!isBlank ·) ≠ "for".toList)
    (notAssignment : assignment? (c :: rest) = none) :
    classify (c :: rest) = .command := by
  obtain ⟨others, read⟩ := fields_of_head (tight.first c rfl) rest
  have notLoop : loop? (c :: rest) = none := by
    have noKeyword : takeWord "for".toList (c :: rest) = none :=
      takeWord_eq_none (by decide) notFor
    rw [loop?, tight.trimStart, noKeyword]
    rfl
  have notOpen : c :: rest ≠ "ruby".toList := by
    intro same
    rw [same] at notRuby
    exact notRuby (by decide)
  have notClose : c :: rest ≠ "ruby end".toList := by
    intro same
    rw [same] at notRuby
    exact notRuby (by decide)
  have notEnd : fields (c :: rest) ≠ ["for".toList, "end".toList] := by
    intro same
    rw [read] at same
    exact notFor (List.cons.inj same).1
  rw [classify, tight.trim, notLoop, notAssignment, if_neg (by simp [notComment]), if_neg notOpen,
    if_neg notClose, if_neg notEnd]
  rfl

end Statement

/-! ## Texts of one line -/

/-- A text of one line that is not continued is one logical line. -/
theorem Line.ofText_of_oneLine {text line : List Char} (oneLine : Text.lines text = [line])
    (tight : Tight line) (notContinued : line.getLast? ≠ some '\\') :
    Line.ofText text = [⟨1, String.ofList line⟩] := by
  rw [Line.ofText, oneLine, Line.join, Line.continued?, if_neg notContinued]
  simp [Line.join, Line.ofChars, tight.trimEnd]

theorem Legacy.line?_of_oneLine {text line : List Char} (oneLine : Text.lines text = [line])
    (notCall : isCall line = false) : line? text = none := by
  rw [line?, oneLine, findCall]
  simp [notCall, findCall]

/-- A file in which no legacy call is seen is run line by line. -/
theorem FileReader.interpret_of_noLegacy {reader : FileReader} {text : String}
    (noLegacy : reader.detectsLegacy = true → Legacy.line? text.toList = none) (stream : String) :
    reader.interpret stream text = CommandFile.runLines stream (Line.ofText text.toList) := by
  have modern : (if reader.detectsLegacy then Legacy.line? text.toList else none) = none := by
    split
    · rename_i detects
      exact noLegacy detects
    · rfl
  rw [interpret, modern]

theorem FileReader.interpret_of_modern {reader : FileReader}
    (modern : reader.detectsLegacy = false) (stream text : String) :
    reader.interpret stream text = CommandFile.runLines stream (Line.ofText text.toList) := by
  refine interpret_of_noLegacy (fun detects => ?_) stream
  rw [modern] at detects
  cases detects

/-- A text that is one line and calls a command. -/
structure IsCallLine (text : List Char) : Prop where
  oneLine : '\n' ∉ text
  notContinued : text.getLast? ≠ some '\\'
  tight : Tight text
  notLegacy : Legacy.isCall text = false
  command : Statement.classify text = .command

namespace IsCallLine

variable {text : String} (h : IsCallLine text.toList)
include h

theorem nonempty : text.toList ≠ [] := by
  intro empty
  have blank := h.command
  rw [empty] at blank
  revert blank
  decide

theorem lines : Text.lines text.toList = [text.toList] :=
  lines_of_oneLine h.nonempty h.oneLine

theorem ofText : Line.ofText text.toList = [⟨1, text⟩] := by
  rw [Line.ofText_of_oneLine h.lines h.tight h.notContinued, String.ofList_toList]

/-- No line of the text is a legacy call. -/
theorem legacyLine? : Legacy.line? text.toList = none :=
  Legacy.line?_of_oneLine h.lines h.notLegacy

/-- Interpreting the text is running the command on its only line. -/
theorem interpret (reader : FileReader) (stream : String) :
    reader.interpret stream text = CommandFile.runCommand stream ⟨1, text⟩ := by
  have command : (Line.mk 1 text).statement = .command := h.command
  rw [FileReader.interpret_of_noLegacy fun _ => h.legacyLine?, h.ofText, CommandFile.runLines,
    command]
  simp only [CommandFile.runLines]
  exact bind_pure _

end IsCallLine

/-! ## Running a call -/

/-- The arguments of a call as the command gets them: a switch without arguments
is turned on. -/
def Command.completed (c : Command) (arguments : List String) : List String :=
  if c.isSwitch ∧ arguments = [] then ["true"] else arguments

theorem Command.completed_cons (c : Command) (a : String) (rest : List String) :
    c.completed (a :: rest) = a :: rest :=
  if_neg (by simp)

/-- A context that holds a command and that no question about variables, commands
and types changes. -/
structure Context.Holds {σ : Type} (context : Context σ) (s : σ) (c : Command) : Prop where
  scope : (context .scope s).2 = s
  found : context (.lookupCommand c.name) s = (some c, s)
  isBoolean : ∀ tag t, context (.isBoolean tag) t = (Registry.isBoolean tag, t)

namespace CommandFile

variable {σ : Type} {context : Context σ} {s : σ} {c : Command}

theorem run_completed (holds : context.Holds s c) (arguments : List String) (t : σ) :
    (completed c arguments).run.run context t = (.ok (c.completed arguments), t) := by
  unfold completed Command.completed Command.isSwitch
  cases arguments with
  | cons a rest =>
      rw [if_neg (by simp)]
      rfl
  | nil =>
      rcases c.parameters with _ | ⟨p, _ | ⟨q, rest⟩⟩
      · rfl
      · simp only [and_true]
        rw [Run.run_bind, Run.run_isBoolean, holds.isBoolean]
        simp only
        split <;> rfl
      · rfl

/-- A line whose words are the name of a command, its arguments and its options
runs the command at the place of the line. -/
theorem run_runCommand (holds : context.Holds s c) {stream text : String} {number : Nat}
    {words arguments : List String} {options : RawOptions}
    (split : ∀ scope, splitLine scope text.toList = .ok (c.name :: words))
    (parted : splitWords c words = .ok ⟨arguments, options, none⟩) :
    (runCommand stream ⟨number, text⟩).run.run context s =
      context (.runCommand c (c.completed arguments) options)
        (context (.setLocation (Location.inFile c.name stream number)) s).2 := by
  rw [runCommand, Run.run_bind, Run.run_scope, holds.scope]
  simp only [split]
  rw [Run.run_bind, Run.run_placed_ok]
  simp only
  rw [Run.run_bind, Run.run_lookupCommand, holds.found]
  simp only
  rw [Run.run_bind, Run.run_setLocation]
  simp only
  rw [Run.run_bind, parted, Run.run_placed_ok]
  simp only
  rw [Run.run_bind, run_completed holds]
  simp only
  rw [Run.run_runCommand]

/-- A text of one line runs the command that it calls with the arguments and options
that its words are. -/
theorem run_interpret (holds : context.Holds s c) {text : String} {arguments : List String}
    {options : RawOptions} (callLine : IsCallLine text.toList)
    (split : ∀ scope, splitLine scope text.toList =
      .ok (c.name :: (arguments ++ options.tokens)))
    (plain : ∀ a ∈ arguments, OptionToken.ofToken? a = none)
    (takes : ∀ o ∈ options.entries, c.Takes o) (reader : FileReader) (stream : String) :
    (reader.interpret stream text).run.run context s =
      context (.runCommand c (c.completed arguments) options)
        (context (.setLocation (Location.inFile c.name stream 1)) s).2 := by
  rw [callLine.interpret, run_runCommand holds split (splitWords_tokens plain takes)]

end CommandFile

end PlotScript
