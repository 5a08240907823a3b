import PlotScript.Command.Standard
import PlotScript.CommandLine.Basic
import PlotScript.Execution.Recorder
import PlotScript.Proofs.Command.InlineOption
import PlotScript.Proofs.CommandLine.SingleCall
import PlotScript.Proofs.Execution.Recording

/-!
# Command lines are cut into calls

A command line that is read to its end is cut from left to right into bare tokens, long
flags, bundles of short flags, and calls of the default command. Behind a flag stands what
its call takes: the tokens of its arguments, then its options. Every token belongs to one
of these pieces, and the pieces are in the order of the calls that are made.
-/

namespace PlotScript

/-! ## Pieces of a command line -/

/-- Tokens that spell options of a command: a value is attached to its name, stands behind
it, or stands behind an equals sign of its own. -/
inductive SpellsOptions (c : Command) : List String → List (String × String) → Prop
  | nil : SpellsOptions c [] []
  | attached {name value : String} {tokens : List String} {given : List (String × String)}
      (takes : c.Takes (name, value)) (others : SpellsOptions c tokens given) :
      SpellsOptions c (("/" ++ name ++ "=" ++ value) :: tokens) ((name, value) :: given)
  | spaced {name value : String} {tokens : List String} {given : List (String × String)}
      (declared : c.declaresOption name = true) (named : OptionToken.IsName name)
      (isValue : value ≠ "=") (others : SpellsOptions c tokens given) :
      SpellsOptions c (("/" ++ name) :: value :: tokens) ((name, value) :: given)
  | parted {name value : String} {tokens : List String} {given : List (String × String)}
      (declared : c.declaresOption name = true) (named : OptionToken.IsName name)
      (others : SpellsOptions c tokens given) :
      SpellsOptions c (("/" ++ name) :: "=" :: value :: tokens) ((name, value) :: given)

/-- The tokens that a call takes and the arguments that it gets: as many as the command has
parameters, or none for the flag of a switch, which stands for its argument. -/
inductive Arity.Spells : Arity → List String → List String → Prop
  | fixed (arguments : List String) : Spells (.fixed arguments.length) arguments arguments
  | switchOn : Spells .switchOn [] ["true"]
  | switchOff : Spells .switchOff [] ["false"]

/-- The tokens behind a flag that belong to its call: those of its arguments and those of its
options, where the last value of a name is the one that is recorded. -/
structure Segment (c : Command) (arity : Arity) (label : String) (number : Nat)
    (tokens : List String) (call : RecordedCall) : Prop where
  command : call.command = c.name
  location : call.location = ⟨label, "command line", 0, number⟩
  spelled : ∃ positional options given, tokens = positional ++ options ∧
    arity.Spells positional call.arguments ∧ SpellsOptions c options given ∧
    ∀ name, call.options.get? name = given.reverse.lookup name

/-- A flag reaches a command that claims it. -/
inductive CommandTable.Reaches (t : CommandTable) : Flag → Arity → Command → Prop
  | short {c : Command} {letter : Char} (member : c ∈ t.commands)
      (claims : c.shortFlag = some letter) : t.Reaches (.short letter) c.arity c
  | long {c : Command} {name : String} (member : c ∈ t.commands)
      (claims : c.longFlag = some name) : t.Reaches (.long name) c.arity c
  | off {c : Command} {name : String} (member : c ∈ t.commands) (isSwitch : c.isSwitch = true)
      (claims : c.longFlag = some name) : t.Reaches (.long ("no-" ++ name)) .switchOff c

/-- One segment for each letter of a bundle. `count` calls were made before it. -/
inductive BundleSegments (t : CommandTable) :
    Nat → List Char → List String → List RecordedCall → Prop
  | nil (count : Nat) : BundleSegments t count [] [] []
  | cons {count : Nat} {letter : Char} {arity : Arity} {c : Command} {tokens : List String}
      {call : RecordedCall} {letters : List Char} {behind : List String}
      {calls : List RecordedCall} (reaches : t.Reaches (.short letter) arity c)
      (segment : Segment c arity ("-" ++ String.singleton letter) (count + 1) tokens call)
      (others : BundleSegments t (count + 1) letters behind calls) :
      BundleSegments t count (letter :: letters) (tokens ++ behind) (call :: calls)

/-- A hyphen begins a bare token only if nothing follows it. -/
def IsBareToken (token : String) : Prop :=
  ∀ rest, token.toList = '-' :: rest → rest = []

namespace CommandLine

/-- `line.Cut count tokens bare calls`: the tokens are cut into the bare tokens and the
segments of the calls, in order. `count` calls were made before them. -/
inductive Cut (line : CommandLine) : Nat → List String → List String → List RecordedCall → Prop
  | nil (count : Nat) : line.Cut count [] [] []
  | bare {count : Nat} {token : String} {tokens bare : List String} {calls : List RecordedCall}
      (noDefault : line.defaultCommand = none) (isBare : IsBareToken token)
      (behind : line.Cut count tokens bare calls) :
      line.Cut count (token :: tokens) (token :: bare) calls
  | long {count : Nat} {name : String} {arity : Arity} {c : Command}
      {taken tokens bare : List String} {call : RecordedCall} {calls : List RecordedCall}
      (nonempty : name ≠ "") (reaches : line.table.Reaches (.long name) arity c)
      (segment : Segment c arity ("--" ++ name) (count + 1) taken call)
      (behind : line.Cut (count + 1) tokens bare calls) :
      line.Cut count (("--" ++ name) :: (taken ++ tokens)) bare (call :: calls)
  | bundle {count : Nat} {letters : List Char} {taken tokens bare : List String}
      {first calls : List RecordedCall} (nonempty : letters ≠ [])
      (isBundle : ∀ rest, letters = '-' :: rest → rest = [])
      (segments : BundleSegments line.table count letters taken first)
      (behind : line.Cut (count + first.length) tokens bare calls) :
      line.Cut count (String.ofList ('-' :: letters) :: (taken ++ tokens)) bare (first ++ calls)
  | defaultCall {count : Nat} {token : String} {c : Command} {takesSome : c.parameters ≠ []}
      {taken tokens bare : List String} {call : RecordedCall} {calls : List RecordedCall}
      (member : c ∈ line.table.commands) (isDefault : line.defaultCommand = some ⟨c, takesSome⟩)
      (isBare : IsBareToken token)
      (segment : Segment c (.fixed c.parameters.length) token (count + 1) (token :: taken) call)
      (behind : line.Cut (count + 1) tokens bare calls) :
      line.Cut count (token :: (taken ++ tokens)) bare (call :: calls)

theorem Cut.bare_eq_nil {line : CommandLine} {count : Nat} {tokens bare : List String}
    {calls : List RecordedCall} (h : line.Cut count tokens bare calls)
    (hasDefault : line.defaultCommand ≠ none) : bare = [] := by
  induction h with
  | nil => rfl
  | bare noDefault => exact absurd noDefault hasDefault
  | long _ _ _ _ ih => exact ih
  | bundle _ _ _ _ ih => exact ih
  | defaultCall _ _ _ _ _ ih => exact ih

/-! ## Lines that are accepted -/

/-- The command lines of a table, with or without a default command. -/
inductive IsAccepted : CommandLine → Prop
  | ofTable {t : CommandTable} {line : CommandLine} (made : CommandLine.ofTable t = .ok line) :
      IsAccepted line
  | withDefault {line given : CommandLine} {name : String} (accepted : IsAccepted line)
      (made : line.withDefault name = .ok given) : IsAccepted given

/-- The flags and the default command of a line are those of its table. -/
structure FollowsTable (line : CommandLine) : Prop where
  index : FlagIndex.ofTable line.table = .ok line.index
  defaultMember : ∀ c, line.defaultCommand = some c → c.val ∈ line.table.commands

theorem IsAccepted.followsTable {line : CommandLine} (accepted : IsAccepted line) :
    line.FollowsTable := by
  induction accepted with
  | @ofTable t line made =>
      obtain ⟨index, indexed, rfl⟩ := exists_of_map_eq_ok made
      exact ⟨indexed, nofun⟩
  | @withDefault line given name _ made ih =>
      unfold CommandLine.withDefault at made
      split at made
      · cases made
      · rename_i c found
        split at made
        · obtain rfl := Except.ok.inj made
          refine ⟨ih.index, fun d isDefault => ?_⟩
          obtain rfl := Option.some.inj isDefault
          exact List.mem_of_find?_eq_some found
        · cases made

/-- A flag that is found is claimed by the command that it reaches. -/
theorem FollowsTable.reaches {line : CommandLine} (follows : line.FollowsTable) {flag : Flag}
    {entry : FlagEntry} (found : line.index.get? flag = some entry) :
    line.table.Reaches flag entry.arity entry.command := by
  have isFlag : entry.flag = flag := by simpa using List.find?_some found
  have listed := List.mem_of_find?_eq_some found
  rw [(FlagIndex.foldlM_add_eq_ok (by simp) follows.index).2, List.nil_append,
    List.mem_flatMap] at listed
  obtain ⟨c, member, claimed⟩ := listed
  subst isFlag
  rcases List.mem_append.1 claimed with isShort | isLong
  · obtain ⟨letter, claims, rfl⟩ : ∃ letter, c.shortFlag = some letter ∧
        ⟨.short letter, c.arity, c⟩ = entry := by
      simpa using isShort
    exact .short member claims
  · cases claims : c.longFlag with
    | none =>
        rw [claims] at isLong
        cases isLong
    | some name =>
        rw [claims] at isLong
        rcases List.mem_cons.1 isLong with rfl | isOff
        · exact .long member claims
        · obtain ⟨isSwitch, rfl⟩ : c.isSwitch = true ∧
              entry = ⟨.long ("no-" ++ name), .switchOff, c⟩ := by
            split at isOff
            · exact ⟨‹_›, List.mem_singleton.1 isOff⟩
            · cases isOff
          exact .off member isSwitch claims

end CommandLine

/-! ## What a call takes -/

variable {c : Command} {tokens : List String}

theorem Arity.spells_of_take {arity : Arity} {location : Location}
    {arguments behind : List String} (h : arity.take location tokens = .ok (arguments, behind)) :
    ∃ positional, tokens = positional ++ behind ∧ arity.Spells positional arguments := by
  unfold Arity.take at h
  split at h
  · obtain ⟨rfl, rfl⟩ : ["true"] = arguments ∧ tokens = behind := by simpa using h
    exact ⟨[], rfl, .switchOn⟩
  · obtain ⟨rfl, rfl⟩ : ["false"] = arguments ∧ tokens = behind := by simpa using h
    exact ⟨[], rfl, .switchOff⟩
  · rename_i count
    split at h
    · cases h
    · obtain ⟨rfl, rfl⟩ : tokens.take count = arguments ∧ tokens.drop count = behind := by
        simpa using h
      refine ⟨tokens.take count, (List.take_append_drop count tokens).symm, ?_⟩
      have complete : (tokens.take count).length = count := by
        rw [List.length_take]
        omega
      have spells := Arity.Spells.fixed (tokens.take count)
      rwa [complete] at spells

theorem Arity.take_of_spells {arity : Arity} {positional arguments : List String}
    (spells : arity.Spells positional arguments) (location : Location) (behind : List String) :
    arity.take location (positional ++ behind) = .ok (arguments, behind) := by
  cases spells with
  | fixed arguments => simp [take]
  | switchOn => rfl
  | switchOff => rfl

/-- Options that are taken are spelled at the front of the tokens, and each of them is added
to those that were taken before. -/
theorem exists_spelled_of_harvest {options : RawOptions} {taken : Harvest}
    (h : harvest c options tokens = .ok taken) :
    ∃ spelled given, tokens = spelled ++ taken.rest ∧ SpellsOptions c spelled given ∧
      taken.options = given.foldl (fun m o => m.insert o.1 o.2) options := by
  fun_induction harvest c options tokens with
  | case1 =>
      obtain rfl := Except.ok.inj h
      exact ⟨[], [], rfl, .nil, rfl⟩
  | case2 =>
      obtain rfl := Except.ok.inj h
      exact ⟨[], [], rfl, .nil, rfl⟩
  | case3 options token rest o shape declared value attached ih =>
      obtain ⟨spelled, given, rfl, spells, all⟩ := ih h
      obtain ⟨named, shape⟩ := OptionToken.eq_of_ofToken? shape
      rw [attached] at shape
      obtain ⟨oneLine, rfl⟩ := shape
      exact ⟨_ :: spelled, (o.name, value) :: given, rfl,
        .attached ⟨declared, named, oneLine⟩ spells, all⟩
  | case4 => cases h
  | case5 options token rest o shape declared attached value behind found shorter ih =>
      obtain ⟨spelled, given, rfl, spells, all⟩ := ih h
      obtain ⟨named, shape⟩ := OptionToken.eq_of_ofToken? shape
      rw [attached] at shape
      subst shape
      rcases eq_of_takeValue found with rfl | ⟨isValue, rfl⟩
      · exact ⟨_ :: "=" :: value :: spelled, (o.name, value) :: given, rfl,
          .parted declared named spells, all⟩
      · exact ⟨_ :: value :: spelled, (o.name, value) :: given, rfl,
          .spaced declared named isValue spells, all⟩
  | case6 =>
      obtain rfl := Except.ok.inj h
      exact ⟨[], [], rfl, .nil, rfl⟩

/-- A call of a command with parameters takes at least one token. -/
theorem Segment.ne_nil {count number : Nat} {label : String} {call : RecordedCall}
    (h : Segment c (.fixed count) label number tokens call) (takesSome : 0 < count) :
    tokens ≠ [] := by
  obtain ⟨positional, options, given, rfl, spells, -⟩ := h.spelled
  cases spells with
  | fixed arguments => exact List.append_ne_nil_of_left_ne_nil (List.length_pos_iff.1 takesSome) _

/-- A call as a recorder keeps it. -/
def Call.recorded (call : Call) : RecordedCall :=
  ⟨call.command.name, call.arguments, call.options, call.location⟩

/-- A call that is read takes a segment of the tokens. -/
theorem Call.segment_of_read {label : String} {number : Nat} {arity : Arity}
    {rest : List String} {call : Call}
    (h : Call.read label number arity c tokens = .ok (call, rest)) :
    ∃ taken, tokens = taken ++ rest ∧ Segment c arity label number taken call.recorded := by
  unfold Call.read at h
  dsimp only at h
  split at h
  · cases h
  · rename_i arguments behind took
    split at h
    · cases h
    · rename_i taken harvested
      obtain ⟨rfl, rfl⟩ := Prod.mk.inj (Except.ok.inj h)
      obtain ⟨positional, rfl, spells⟩ := Arity.spells_of_take took
      obtain ⟨spelled, given, rfl, options, all⟩ := exists_spelled_of_harvest harvested
      refine ⟨positional ++ spelled, (List.append_assoc ..).symm, rfl, rfl,
        positional, spelled, given, rfl, spells, options, fun name => ?_⟩
      rw [recorded, all, NameMap.get?_foldl_insert, NameMap.get?_empty, Option.or_none]

/-! ## Cutting a line -/

theorem TokenShape.token_of_long {token name : String} (h : ofToken token = .long name) :
    name ≠ "" ∧ token = "--" ++ name := by
  unfold ofToken at h
  split at h
  · rename_i d rest spelled
    obtain rfl := TokenShape.long.inj h
    refine ⟨fun empty => ?_, String.toList_inj.1 ?_⟩
    · simpa using congrArg String.toList empty
    · simp [spelled]
  · cases h
  · cases h

theorem TokenShape.token_of_bundle {token : String} {letters : List Char}
    (h : ofToken token = .bundle letters) :
    letters ≠ [] ∧ (∀ rest, letters = '-' :: rest → rest = []) ∧
      token = String.ofList ('-' :: letters) := by
  unfold ofToken at h
  split at h
  · cases h
  · rename_i d rest notLong spelled
    obtain rfl := TokenShape.bundle.inj h
    refine ⟨List.cons_ne_nil _ _, ?_, String.toList_inj.1 (by simp [spelled])⟩
    rintro behind ⟨⟩
    cases rest with
    | nil => rfl
    | cons e rest => exact (notLong e rest rfl rfl).elim
  · cases h

theorem TokenShape.isBareToken {token : String} (h : ofToken token = .bare) :
    IsBareToken token := by
  intro rest spelled
  cases rest with
  | nil => rfl
  | cons d rest =>
      unfold ofToken at h
      rw [spelled] at h
      split at h <;> simp_all

namespace Step

/-- The bare tokens among the steps. -/
def bares (steps : List Step) : List String :=
  steps.filterMap fun
    | .bare t => some t
    | _ => none

/-- The calls among the steps. -/
def calls (steps : List Step) : List RecordedCall :=
  steps.filterMap fun
    | .call c => some c.recorded
    | _ => none

theorem bares_append (before behind : List Step) :
    bares (before ++ behind) = bares before ++ bares behind :=
  List.filterMap_append

theorem calls_append (before behind : List Step) :
    calls (before ++ behind) = calls before ++ calls behind :=
  List.filterMap_append

theorem bares_map_call (l : List Call) : bares (l.map .call) = [] := by
  induction l with
  | nil => rfl
  | cons c l ih => exact ih

theorem calls_map_call (l : List Call) : calls (l.map .call) = l.map Call.recorded := by
  induction l with
  | nil => rfl
  | cons c l ih => exact congrArg (c.recorded :: ·) ih

end Step

namespace CommandLine

variable {line : CommandLine} {count : Nat}

theorem FollowsTable.segment_of_readFlag (follows : line.FollowsTable) {flag : Flag}
    {rest : List String} {call : Call} (h : line.readFlag count flag tokens = .ok (call, rest)) :
    ∃ arity c taken, line.table.Reaches flag arity c ∧ tokens = taken ++ rest ∧
      Segment c arity flag.label (count + 1) taken call.recorded := by
  unfold readFlag at h
  split at h
  · cases h
  · rename_i entry found
    obtain ⟨taken, rfl, segment⟩ := Call.segment_of_read h
    exact ⟨entry.arity, entry.command, taken, follows.reaches found, rfl, segment⟩

theorem FollowsTable.segments_of_readBundle (follows : line.FollowsTable) {letters : List Char}
    {rest : List String} {calls : List Call}
    (h : line.readBundle count letters tokens = (calls, .ok rest)) :
    ∃ taken, tokens = taken ++ rest ∧
      BundleSegments line.table count letters taken (calls.map Call.recorded) := by
  induction letters generalizing count tokens calls with
  | nil =>
      obtain ⟨rfl, rfl⟩ : [] = calls ∧ tokens = rest := by simpa [readBundle] using h
      exact ⟨[], rfl, .nil count⟩
  | cons letter letters ih =>
      unfold readBundle at h
      split at h
      · cases (Prod.mk.inj h).2
      · rename_i call behind found
        obtain ⟨rfl, last⟩ := Prod.mk.inj h
        obtain ⟨arity, c, taken, reaches, rfl, segment⟩ := follows.segment_of_readFlag found
        obtain ⟨others, rfl, segments⟩ := ih (Prod.ext rfl last)
        exact ⟨taken ++ others, (List.append_assoc ..).symm, .cons reaches segment segments⟩

/-- Steps without a fault are the pieces of the tokens. -/
theorem FollowsTable.cut_plan (follows : line.FollowsTable)
    (faultless : ∀ d, Step.fault d ∉ line.plan count tokens) :
    line.Cut count tokens (Step.bares (line.plan count tokens))
      (Step.calls (line.plan count tokens)) := by
  fun_induction line.plan count tokens with
  | case1 => exact .nil _
  | case2 count token rest name shape d fault => exact absurd List.mem_cons_self (faultless d)
  | case3 count token rest name shape call behind read shorter ih =>
      obtain ⟨nonempty, rfl⟩ := TokenShape.token_of_long shape
      obtain ⟨arity, c, taken, reaches, rfl, segment⟩ := follows.segment_of_readFlag read
      exact .long nonempty reaches segment (ih fun d => List.not_mem_of_not_mem_cons (faultless d))
  | case4 count token rest letters shape calls d fault =>
      exact absurd (List.mem_append_right _ List.mem_cons_self) (faultless d)
  | case5 count token rest letters shape calls behind read shorter ih =>
      obtain ⟨nonempty, isBundle, rfl⟩ := TokenShape.token_of_bundle shape
      obtain ⟨taken, rfl, segments⟩ := follows.segments_of_readBundle read
      -- behind a bundle the count has grown by the number of its segments
      have others := ih fun d member => faultless d (List.mem_append_right _ member)
      rw [Step.bares_append, Step.calls_append, Step.bares_map_call, Step.calls_map_call,
        List.nil_append]
      exact .bundle nonempty isBundle segments (by rwa [List.length_map])
  | case6 count token rest shape noDefault ih =>
      exact .bare noDefault (TokenShape.isBareToken shape)
        (ih fun d => List.not_mem_of_not_mem_cons (faultless d))
  | case7 count token rest shape c takesSome isDefault d fault =>
      exact absurd List.mem_cons_self (faultless d)
  | case8 count token rest shape c takesSome isDefault call behind read shorter ih =>
      obtain ⟨taken, whole, segment⟩ := Call.segment_of_read read
      -- the default command takes at least one token, so its segment begins at the bare one
      have nonempty := segment.ne_nil (List.length_pos_iff.2 takesSome)
      obtain ⟨first, taken, rfl⟩ := List.exists_cons_of_ne_nil nonempty
      obtain ⟨rfl, rfl⟩ := List.cons.inj whole
      exact .defaultCall (follows.defaultMember _ isDefault) isDefault
        (TokenShape.isBareToken shape) segment
        (ih fun d => List.not_mem_of_not_mem_cons (faultless d))

end CommandLine

/-! ## Recording a line -/

/-- The recorder once a call of a command line has been made. -/
def Recorder.made (s : Recorder) (call : Call) : Recorder :=
  (match call.undeclared with
    | some option => s.warned (.notAnOption option call.command.name)
    | none => s).called call.recorded

theorem Recorder.made_calls (s : Recorder) (call : Call) :
    (s.made call).calls = s.calls ++ [call.recorded] := by
  unfold made
  cases call.undeclared with
  | none => rfl
  | some option => rfl

namespace Step

variable (s : Recorder) (rest : List Step)

theorem record_execute_bare (token : String) :
    s.record (execute (.bare token :: rest)) =
      ((s.record (execute rest)).1.map (token :: ·), (s.record (execute rest)).2) := by
  rw [Recorder.record, Recorder.record, execute, Run.run_bind]
  rcases (execute rest).run.run Recorder.context s with ⟨_ | _, _⟩ <;> rfl

/-- A recorder takes note of a call and fails none. -/
theorem record_execute_call (c : Call) :
    s.record (execute (.call c :: rest)) = (s.made c).record (execute rest) := by
  have ran : c.execute.run.run Recorder.context s = (.ok (), s.made c) := by
    unfold Call.execute Recorder.made
    cases c.undeclared with
    | none => rfl
    | some option => rfl
  rw [Recorder.record, execute, Run.run_bind_of_ok ran]
  rfl

end Step

/-- Steps that are recorded to their end have no fault among them. -/
theorem Step.record_execute {steps : List Step} {s : Recorder} {bare : List String}
    (h : (s.record (execute steps)).1 = .ok bare) :
    (∀ d, fault d ∉ steps) ∧ bare = bares steps ∧
      (s.record (execute steps)).2.calls = s.calls ++ calls steps := by
  induction steps generalizing s bare with
  | nil => exact ⟨nofun, (Except.ok.inj h).symm, (List.append_nil _).symm⟩
  | cons step rest ih =>
      cases step with
      | bare token =>
          rw [record_execute_bare] at h ⊢
          obtain ⟨others, run, rfl⟩ := exists_of_map_eq_ok h
          obtain ⟨faultless, rfl, all⟩ := ih run
          refine ⟨fun d member => ?_, rfl, all⟩
          cases member with
          | tail _ member => exact faultless d member
      | call c =>
          rw [record_execute_call] at h ⊢
          obtain ⟨faultless, rfl, all⟩ := ih h
          refine ⟨fun d member => ?_, rfl, ?_⟩
          · cases member with
            | tail _ member => exact faultless d member
          · rw [all, Recorder.made_calls, List.append_assoc]
            rfl
      | fault d => cases h

namespace CommandLine

/-- The reading of a command line loses, repeats and reorders no token. If a line runs to its
end, its tokens are cut into the bare tokens that are handed back and one segment for each
call that is recorded. With a default command no token is bare. -/
theorem exists_cut_of_record {line : CommandLine} (accepted : IsAccepted line) {s : Recorder}
    {tokens bare : List String} (h : (s.record (line.interpret tokens)).1 = .ok bare) :
    (∃ calls, (s.record (line.interpret tokens)).2.calls = s.calls ++ calls ∧
      line.Cut 0 tokens bare calls) ∧ (line.defaultCommand ≠ none → bare = []) := by
  obtain ⟨faultless, rfl, all⟩ := Step.record_execute h
  have cut := accepted.followsTable.cut_plan faultless
  exact ⟨⟨_, all, cut⟩, cut.bare_eq_nil⟩

/-- A bare token goes to the default command together with the option behind it, a switch
takes no token, and the letters of a bundle take theirs one after the other. -/
theorem cut_plot_and_labels :
    let line : CommandLine :=
      { table := .standard
        index := ⟨CommandTable.standard.commands.flatMap Command.flagEntries⟩
        defaultCommand := some ⟨StandardCommands.plot, by decide⟩ }
    IsAccepted line ∧
      ∃ calls, line.Cut 0 ["data.csv", "/with=line", "--no-grid", "-xy", "A", "B", "/color", "=",
          "red"] [] calls ∧
        calls.map (fun call => (call.command, call.arguments)) =
          [("plot", ["data.csv"]), ("grid", ["false"]), ("xlabel", ["A"]), ("ylabel", ["B"])] := by
  intro line
  let s : Recorder := { table := .standard }
  have base : CommandLine.ofTable .standard = .ok { line with defaultCommand := none } := rfl
  have made : { line with defaultCommand := none }.withDefault "plot" = .ok line := rfl
  have accepted : IsAccepted line := .withDefault (.ofTable base) made
  have ran : (s.record (line.interpret ["data.csv", "/with=line", "--no-grid", "-xy", "A", "B",
      "/color", "=", "red"])).1 = .ok [] := by decide +kernel
  obtain ⟨⟨calls, all, cut⟩, -⟩ := exists_cut_of_record accepted ran
  refine ⟨accepted, calls, cut, ?_⟩
  rw [show calls = _ from all.symm]
  decide +kernel

end CommandLine

end PlotScript
