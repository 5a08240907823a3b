import PlotScript.Command.Table
import PlotScript.Proofs.CommandFile.CallLine
import PlotScript.Proofs.CommandFile.Sequence

/-!
# Where commands are run

A command file runs every command at the place of the line that calls it: the location that
was set last is the one of this line. Nothing between the setting and the call moves it, since
a context changes its location by itself at no request. So an error that a command places at
the location of the context stands where the call stands.
-/

namespace PlotScript

/-! ## Requests that leave the location alone -/

/-- Requests that run nothing and set no location. A script block runs in a host, out of reach
of the location. -/
def Request.isStill : Request → Bool
  | runCommand _ _ _ | setLocation _ | runLegacy _ => false
  | _ => true

/-- What a context with a table may answer. -/
def Request.Fits (t : CommandTable) : (r : Request) → r.Answer → Prop
  | .lookupCommand name, found => found = t.get? name
  | .isBoolean tag, answer => answer = Registry.isBoolean tag
  | _, _ => True

/-- A line and a call that it makes: behind the name of the command its words are those that
the arguments and options are read from. -/
structure Line.Calls (line : Line) (c : Command) (arguments : List String)
    (options : RawOptions) : Prop where
  isCommand : line.statement = .command
  words : ∃ scope words parted, splitLine scope line.text.toList = .ok (c.name :: words) ∧
    splitWords c words = .ok parted ∧ arguments = c.completed parted.arguments ∧
    options = parted.options

/-- A call at a place, made by one of the lines of a file. -/
def Line.CallsFrom (stream : String) (lines : List Line) (place : Location) (c : Command)
    (arguments : List String) (options : RawOptions) : Prop :=
  ∃ line ∈ lines, place = Location.inFile c.name stream line.number ∧
    line.Calls c arguments options

/-- Every command that a program runs from a location on is one of the calls `P` at the
location that was set last. -/
inductive Program.CallsAt (t : CommandTable)
    (P : Location → Command → List String → RawOptions → Prop) {α : Type} :
    Location → Program (Except Diagnostic α) → Prop
  | done {l : Location} (result : Except Diagnostic α) : CallsAt t P l (.done result)
  | setLocation {l place : Location} {next : Unit → Program (Except Diagnostic α)}
      (onward : CallsAt t P place (next ())) : CallsAt t P l (.ask (.setLocation place) next)
  | call {l : Location} {c : Command} {arguments : List String} {options : RawOptions}
      {next : Except Diagnostic Unit → Program (Except Diagnostic α)}
      (calls : P l c arguments options)
      (onward : ∀ answer, CallsAt t P l (next answer)) :
      CallsAt t P l (.ask (.runCommand c arguments options) next)
  | still {l : Location} {r : Request} {next : r.Answer → Program (Except Diagnostic α)}
      (isStill : r.isStill = true)
      (onward : ∀ answer, r.Fits t answer → CallsAt t P l (next answer)) :
      CallsAt t P l (.ask r next)

namespace Run

variable {t : CommandTable} {P : Location → Command → List String → RawOptions → Prop}
  {l : Location} {α β : Type}

def CallsAt (t : CommandTable) (P : Location → Command → List String → RawOptions → Prop)
    (l : Location) (x : Run α) : Prop :=
  Program.CallsAt t P l x.run

theorem callsAt_ofExcept (x : Except Diagnostic α) : CallsAt t P l (ofExcept x) :=
  .done x

theorem callsAt_pure (a : α) : CallsAt t P l (pure a : Run α) :=
  .done (.ok a)

theorem callsAt_throw (d : Diagnostic) : CallsAt t P l (throw d : Run α) :=
  .done (.error d)

theorem callsAt_request {r : Request} (isStill : r.isStill = true) :
    CallsAt t P l (request r) :=
  .still isStill fun answer _ => .done (.ok answer)

/-- Where a program ends up is not known, so what follows may begin anywhere. -/
theorem CallsAt.bind {x : Run α} {f : α → Run β} (first : CallsAt t P l x)
    (others : ∀ a l, CallsAt t P l (f a)) : CallsAt t P l (x >>= f) := by
  have split : (x >>= f).run = x.run.bind (ExceptT.bindCont f) := rfl
  rw [CallsAt, split]
  rw [CallsAt] at first
  -- the induction follows the branches of the first program to their ends
  generalize x.run = program at first
  induction first with
  | done result =>
      cases result with
      | ok a => exact others a _
      | error d => exact .done (.error d)
  | setLocation _ ih => exact .setLocation ih
  | call calls _ ih => exact .call calls ih
  | still isStill _ ih => exact .still isStill fun answer fits => ih answer fits

/-! Steps behind which the location is the same. -/

theorem callsAt_request_bind {r : Request} {f : r.Answer → Run β} (isStill : r.isStill = true)
    (others : ∀ answer, r.Fits t answer → CallsAt t P l (f answer)) :
    CallsAt t P l (request r >>= f) :=
  .still isStill others

theorem callsAt_placed_bind {place : Location} {x : Except Cause α} {f : α → Run β}
    (others : ∀ a, x = .ok a → CallsAt t P l (f a)) : CallsAt t P l (placed place x >>= f) := by
  cases x with
  | error cause => exact .done (.error (cause.placed place))
  | ok a => exact others a rfl

theorem callsAt_setLocation_bind {place : Location} {f : Unit → Run β}
    (others : CallsAt t P place (f ())) : CallsAt t P l (setLocation place >>= f) :=
  .setLocation others

end Run

/-! ## Command files -/

namespace CommandFile

open Run

variable {t : CommandTable} {P : Location → Command → List String → RawOptions → Prop}
  {stream : String} {lines : List Line} {l : Location}

theorem callsAt_completed_bind {c : Command} {arguments : List String} {f : List String → Run Unit}
    (others : CallsAt t P l (f (c.completed arguments))) :
    CallsAt t P l (completed c arguments >>= f) := by
  unfold completed
  unfold Command.completed Command.isSwitch at others
  cases arguments with
  | cons a rest =>
      rw [if_neg (by simp)] at others
      exact others
  | nil =>
      generalize c.parameters = parameters at others ⊢
      rcases parameters with _ | ⟨p, _ | ⟨q, rest⟩⟩
      · exact others
      · refine callsAt_request_bind rfl fun answer fits => ?_
        obtain rfl : answer = Registry.isBoolean p.typeTag := fits
        simp only [and_true] at others
        exact others
      · exact others

theorem callsAt_runCommand (line : Line) (member : line ∈ lines)
    (isCommand : line.statement = .command) :
    CallsAt t (Line.CallsFrom stream lines) l (runCommand stream line) := by
  unfold runCommand
  refine callsAt_request_bind rfl fun scope _ => callsAt_placed_bind fun words split => ?_
  cases words with
  | nil => exact callsAt_pure ()
  | cons name words =>
      refine callsAt_request_bind rfl fun found fits => ?_
      obtain rfl : found = t.get? name := fits
      cases found : t.get? name with
      | none => exact callsAt_throw _
      | some c =>
          obtain rfl : c.name = name := by simpa using List.find?_some found
          refine callsAt_setLocation_bind (callsAt_placed_bind fun parted partedWords => ?_)
          have calls : Line.CallsFrom stream lines (Location.inFile c.name stream line.number) c
              (c.completed parted.arguments) parted.options :=
            ⟨line, member, rfl, isCommand, scope, words, parted, split, partedWords, rfl, rfl⟩
          have dispatch : CallsAt t (Line.CallsFrom stream lines)
              (Location.inFile c.name stream line.number) (do
                let arguments ← completed c parted.arguments
                Run.runCommand c arguments parted.options) :=
            callsAt_completed_bind (.call calls fun answer => .done answer)
          dsimp only
          cases parted.undeclared with
          | none => exact dispatch
          | some option => exact callsAt_request_bind rfl fun _ _ => dispatch

theorem callsAt_assign (line : Line) (name : String) (soft deferred : Bool) (rest : String) :
    CallsAt t P l (assign stream line name soft deferred rest) :=
  callsAt_request_bind rfl fun _ _ => callsAt_placed_bind fun _ _ =>
    callsAt_request_bind rfl fun _ _ => callsAt_pure ()

theorem callsAt_runScript (opened : Nat) (code : String) :
    CallsAt t P l (runScript stream opened code) := by
  refine callsAt_setLocation_bind (callsAt_request_bind rfl fun outcome _ => ?_)
  cases outcome with
  | ok => exact callsAt_pure ()
  | error d => exact callsAt_request rfl

theorem callsAt_loopWords (line : Line) (list : String) :
    CallsAt t P l (loopWords stream line list) := by
  refine callsAt_request_bind rfl fun scope _ => ?_
  exact callsAt_ofExcept _

theorem callsAt_replay (name : String) (words : List String) {body : Run Unit}
    (callsAt : ∀ l, CallsAt t P l body) : ∀ l, CallsAt t P l (replay name words body) := by
  induction words with
  | nil => exact fun l => callsAt_pure ()
  | cons word rest ih =>
      exact fun l => callsAt_request_bind rfl fun _ _ => (callsAt l).bind fun _ => ih

/-- Some lines of a file make calls of the file at their places. -/
theorem callsAt_runLines {some : List Line} (inside : some ⊆ lines) :
    CallsAt t (Line.CallsFrom stream lines) l (runLines stream some) := by
  fun_induction runLines stream some generalizing l with
  | case1 => exact callsAt_pure ()
  | case2 line rest blank ih => exact ih (List.subset_of_cons_subset inside)
  | case3 line rest opens unclosed => exact callsAt_throw _
  | case4 line rest opens code behind closed shorter ih =>
      have others := List.Subset.trans (Block.subset_of_takeScript closed).2
        (List.subset_of_cons_subset inside)
      exact (callsAt_runScript _ _).bind fun _ l => ih others
  | case5 line rest closes => exact callsAt_throw _
  | case6 line rest name list opens inBody behindBody =>
      refine (callsAt_loopWords line list).bind fun words l => ?_
      split
      · exact callsAt_throw _
      · rename_i body behind closed
        obtain ⟨body_subset, behind_subset⟩ := Block.subset_of_takeLoop closed
        have restInside := List.subset_of_cons_subset inside
        have looped := callsAt_replay name words
          (fun l => @inBody body behind closed l (List.Subset.trans body_subset restInside))
        exact (looped l).bind fun _ l =>
          behindBody body behind closed (List.Subset.trans behind_subset restInside)
  | case7 line rest closes => exact callsAt_throw _
  | case8 line rest name soft deferred value assigns ih =>
      exact (callsAt_assign line name soft deferred value).bind fun _ l =>
        ih (List.subset_of_cons_subset inside)
  | case9 line rest calls ih =>
      exact (callsAt_runCommand line (inside List.mem_cons_self) calls).bind fun _ l =>
        ih (List.subset_of_cons_subset inside)

end CommandFile

/-- A file that is not looked at for the legacy syntax runs every command at the place of the
line that calls it. -/
theorem FileReader.callsAt_interpret {t : CommandTable} {reader : FileReader} {l : Location}
    (modern : reader.detectsLegacy = false) (stream text : String) :
    Run.CallsAt t (Line.CallsFrom stream (Line.ofText text.toList)) l
      (reader.interpret stream text) := by
  rw [interpret, modern]
  exact CommandFile.callsAt_runLines (List.Subset.refl _)

end PlotScript
