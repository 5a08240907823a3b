import PlotScript.Proofs.CommandLine.Composition

/-!
# Bundles of short flags

Short flags that are bundled as one token mean the same as the flags one after another. In the
bundle the tokens that the letters take stand behind all of them, so each letter finds its own
tokens at the front only if the one before it has stopped where they begin.
-/

namespace PlotScript

theorem TokenShape.ofToken_bundle {letter : Char} (notHyphen : letter ≠ '-')
    (letters : List Char) :
    ofToken (String.ofList ('-' :: letter :: letters)) = .bundle (letter :: letters) := by
  rw [ofToken, String.toList_ofList]
  split
  · rename_i spelled
    exact absurd (List.cons.inj (List.cons.inj spelled).2).1 notHyphen
  · rename_i spelled
    obtain ⟨rfl, rfl⟩ := List.cons.inj (List.cons.inj spelled).2
    rfl
  · rename_i others
    exact absurd rfl (others letter letters)

/-- Options end in front of a token that begins with a hyphen. -/
theorem endsOptions_of_hyphen (letters : List Char) (tokens : List String) :
    EndsOptions (String.ofList ('-' :: letters) :: tokens) := by
  rintro token ⟨⟩
  rw [OptionToken.ofToken?, String.toList_ofList]
  split
  · rename_i spelled
    exact absurd (List.cons.inj spelled).1 (by decide)
  · rfl

namespace CommandLine

variable {line : CommandLine}

/-- The steps of the letters of a bundle and of the tokens behind it. -/
def planBundle (line : CommandLine) (count : Nat) (letters : List Char) (tokens : List String) :
    List Step :=
  match line.readBundle count letters tokens with
  | (calls, .error d) => calls.map .call ++ [.fault d]
  | (calls, .ok behind) => calls.map .call ++ line.plan (count + calls.length) behind

theorem planBundle_nil (count : Nat) (tokens : List String) :
    line.planBundle count [] tokens = line.plan count tokens := rfl

theorem planBundle_cons (count : Nat) (letter : Char) (letters : List Char)
    (tokens : List String) :
    line.planBundle count (letter :: letters) tokens =
      match line.readFlag count (.short letter) tokens with
      | .error d => [.fault d]
      | .ok (call, behind) => .call call :: line.planBundle (count + 1) letters behind := by
  unfold planBundle
  rw [readBundle]
  rcases line.readFlag count (.short letter) tokens with d | ⟨call, behind⟩
  · rfl
  · dsimp only
    rcases line.readBundle (count + 1) letters behind with ⟨calls, d | rest⟩
    · rfl
    · simp only [List.length_cons, List.map_cons, List.cons_append, Nat.add_assoc,
        Nat.add_comm 1]

theorem plan_bundle {letter : Char} (notHyphen : letter ≠ '-') (count : Nat)
    (letters : List Char) (tokens : List String) :
    line.plan count (String.ofList ('-' :: letter :: letters) :: tokens) =
      line.planBundle count (letter :: letters) tokens := by
  rw [plan_cons, TokenShape.ofToken_bundle notHyphen]
  rfl

end CommandLine

/-! ## The calls of a bundle -/

/-- A short flag with the tokens of its arguments and of its options. -/
structure ShortCall where
  letter : Char
  arguments : List String
  options : List String

namespace ShortCall

/-- The flag as a token of its own. -/
def flag (p : ShortCall) : String :=
  String.ofList ['-', p.letter]

/-- What stands behind the flag. -/
def taken (p : ShortCall) : List String :=
  p.arguments ++ p.options

/-- The flags of calls as one token. -/
def bundle (calls : List ShortCall) : String :=
  String.ofList ('-' :: calls.map (·.letter))

/-- Calls with their flags bundled in front of them. -/
def bundled (calls : List ShortCall) : List String :=
  bundle calls :: calls.flatMap taken

/-- Calls with each flag in front of its own tokens. -/
def apart (calls : List ShortCall) : List String :=
  calls.flatMap fun p => p.flag :: p.taken

end ShortCall

namespace CommandLine

variable {line : CommandLine}

/-- The flag of a call is known, its arguments are as many as it takes, or none for a switch, and
its options are taken completely and without a warning. -/
structure Completes (line : CommandLine) (p : ShortCall) : Prop where
  notHyphen : p.letter ≠ '-'
  reaches : ∃ entry, line.index.get? (.short p.letter) = some entry ∧
    (∃ given, entry.arity.Spells p.arguments given) ∧
    ∃ options, harvestOptions entry.command p.options = .ok ⟨options, [], none⟩

/-- A complete call takes its own tokens and nothing behind them. -/
theorem Completes.exists_readFlag {p : ShortCall} (complete : line.Completes p) (count : Nat) :
    ∃ call, ∀ behind, EndsOptions behind →
      line.readFlag count (.short p.letter) (p.taken ++ behind) = .ok (call, behind) := by
  obtain ⟨entry, found, ⟨given, spells⟩, options, harvested⟩ := complete.reaches
  refine ⟨⟨entry.command, given, options, none,
    Location.onCommandLine (Flag.short p.letter).label (count + 1)⟩, fun behind ends => ?_⟩
  have took := Arity.take_of_spells spells
    (Location.onCommandLine (Flag.short p.letter).label (count + 1)) (p.options ++ behind)
  rw [readFlag, found, ShortCall.taken, List.append_assoc]
  exact Call.read_eq_ok_iff.2 ⟨given, _, _, took, harvest_append ends harvested, rfl, rfl⟩

/-- The letters of a bundle find their tokens one after the other, as the flags do that stand
apart. -/
theorem planBundle_eq_plan_apart {calls : List ShortCall} {rest : List String}
    (complete : ∀ p ∈ calls, line.Completes p)
    (parted : ∀ before behind, calls = before ++ behind → before ≠ [] → behind ≠ [] →
      EndsOptions (behind.flatMap ShortCall.taken ++ rest)) (count : Nat) :
    line.planBundle count (calls.map (·.letter)) (calls.flatMap ShortCall.taken ++ rest) =
      line.plan count (ShortCall.apart calls ++ rest) := by
  induction calls generalizing count with
  | nil => exact planBundle_nil count rest
  | cons p calls ih =>
      obtain ⟨first, others⟩ := List.forall_mem_cons.1 complete
      have split : ShortCall.apart (p :: calls) ++ rest =
          p.flag :: (p.taken ++ (ShortCall.apart calls ++ rest)) := by
        simp [ShortCall.apart]
      rw [split, ShortCall.flag, plan_bundle first.notHyphen, List.map_cons, List.flatMap_cons,
        List.append_assoc]
      cases calls with
      | nil => rfl
      | cons q calls =>
          obtain ⟨call, read⟩ := first.exists_readFlag count
          -- in the bundle the tokens of the next letter come next, apart its flag does
          have endsBundled := parted [p] (q :: calls) rfl (List.cons_ne_nil _ _)
            (List.cons_ne_nil _ _)
          have endsApart : EndsOptions (ShortCall.apart (q :: calls) ++ rest) :=
            endsOptions_of_hyphen [q.letter] _
          have behind := ih others (fun before behind whole nonempty =>
            parted (p :: before) behind (congrArg (p :: ·) whole) (List.cons_ne_nil _ _))
            (count + 1)
          rw [planBundle_cons, planBundle_cons, read _ endsBundled, read _ endsApart]
          dsimp only
          rw [behind, planBundle_nil]

/-- A bundle of short flags means the flags one after another. The arguments and options of the
bundled calls stand behind the bundle in the order of the letters, and none of the calls but the
last one is followed by a token that has the shape of an option. -/
theorem record_interpret_bundled (line : CommandLine) (s : Recorder) {calls : List ShortCall}
    (rest : List String) (nonempty : calls ≠ []) (complete : ∀ p ∈ calls, line.Completes p)
    (parted : ∀ before behind, calls = before ++ behind → before ≠ [] → behind ≠ [] →
      EndsOptions (behind.flatMap ShortCall.taken ++ rest)) :
    s.record (line.interpret (ShortCall.bundled calls ++ rest)) =
      s.record (line.interpret (ShortCall.apart calls ++ rest)) := by
  obtain ⟨p, others, rfl⟩ := List.exists_cons_of_ne_nil nonempty
  have notHyphen := (complete p List.mem_cons_self).notHyphen
  rw [interpret, interpret, ← planBundle_eq_plan_apart complete parted 0]
  rw [ShortCall.bundled, List.cons_append, ShortCall.bundle, List.map_cons,
    plan_bundle notHyphen]

/-- A switch takes no token and each label takes its own color, but what stands behind the last
label is neither an option of it nor one of the others. -/
theorem bundle_of_verbosity_and_labels :
    let line : CommandLine :=
      { table := .standard
        index := ⟨CommandTable.standard.commands.flatMap Command.flagEntries⟩ }
    let s : Recorder := { table := .standard }
    let calls : List ShortCall :=
      [⟨'v', [], []⟩, ⟨'t', ["A"], ["/color", "red"]⟩, ⟨'x', ["B"], ["/color=blue"]⟩]
    let rest := ["/size", "a.csv"]
    calls ≠ [] ∧ (∀ p ∈ calls, line.Completes p) ∧
      (∀ before behind, calls = before ++ behind → before ≠ [] → behind ≠ [] →
        EndsOptions (behind.flatMap ShortCall.taken ++ rest)) ∧
      s.record (line.interpret
          ["-vtx", "A", "/color", "red", "B", "/color=blue", "/size", "a.csv"]) =
        s.record (line.interpret
          ["-v", "-t", "A", "/color", "red", "-x", "B", "/color=blue", "/size", "a.csv"]) := by
  intro line s calls rest
  let title := StandardCommands.caption "title" 't' "Sets the plot title."
  let xlabel := StandardCommands.caption "xlabel" 'x' "Sets the label of the X axis."
  have named : OptionToken.IsName "color" := by decide
  have declared : title.declaresOption "color" = true ∧ xlabel.declaresOption "color" = true := by
    decide
  have oneLine : '\n' ∉ "blue".toList := by decide
  have spaced : title.ReadsAs ["/color", "red"] "color" "red" :=
    .spaced declared.1 named (by decide)
  have attached : xlabel.ReadsAs ["/color=blue"] "color" "blue" :=
    .attached declared.2 named oneLine
  have complete : ∀ p ∈ calls, line.Completes p := by
    simp only [calls, List.forall_mem_cons]
    refine ⟨?_, ?_, ?_, nofun⟩
    · exact ⟨by decide, ⟨.short 'v', .switchOn, StandardCommands.verbose⟩, by decide +kernel,
        ⟨_, .switchOn⟩, _, Command.ReadsAs.harvest_of_plain nofun⟩
    · exact ⟨by decide, ⟨.short 't', .fixed 1, title⟩, by decide +kernel, ⟨_, .fixed ["A"]⟩, _,
        spaced.harvested [] nofun⟩
    · exact ⟨by decide, ⟨.short 'x', .fixed 1, xlabel⟩, by decide +kernel, ⟨_, .fixed ["B"]⟩, _,
        attached.harvested [] nofun⟩
  have parted : ∀ before behind, calls = before ++ behind → before ≠ [] → behind ≠ [] →
      EndsOptions (behind.flatMap ShortCall.taken ++ rest) := by
    rintro (_ | ⟨p, _ | ⟨q, _ | ⟨r, before⟩⟩⟩) behind whole front others
    · exact absurd rfl front
    · obtain rfl : _ = behind := congrArg (List.drop 1) whole
      decide
    · obtain rfl : _ = behind := congrArg (List.drop 2) whole
      decide
    · exact absurd (congrArg (List.drop 3) whole).symm (List.append_ne_nil_of_right_ne_nil _ others)
  exact ⟨List.cons_ne_nil _ _, complete, parted,
    record_interpret_bundled line s rest (List.cons_ne_nil _ _) complete parted⟩

end CommandLine

end PlotScript
