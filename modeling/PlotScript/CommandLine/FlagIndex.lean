import PlotScript.Command.Table

/-!
# The flag index

The flags that reach the commands of a table, in the order in which they are
declared. No two commands claim the same flag.
-/

namespace PlotScript

/-- A flag by its form. -/
inductive Flag where
  | short (letter : Char)
  | long (name : String)
  deriving DecidableEq

def Flag.label : Flag → String
  | short letter => "-" ++ String.singleton letter
  | long name => "--" ++ name

/-- How many tokens a flag takes. -/
inductive Arity where
  | fixed (count : Nat)
  /-- the flag of a switch, which stands for `true` -/
  | switchOn
  /-- the `no-` flag of a switch, which stands for `false` -/
  | switchOff
  deriving DecidableEq

/-- A flag with the command that it reaches. -/
structure FlagEntry where
  flag : Flag
  arity : Arity
  command : Command
  deriving DecidableEq

namespace Command

/-- What the flags of a command take. -/
def arity (c : Command) : Arity :=
  if c.isSwitch then .switchOn else .fixed c.parameters.length

/-- The flags that a command claims: the short one, the long one, and for a
switch the long one that turns it off. -/
def flagEntries (c : Command) : List FlagEntry :=
  (c.shortFlag.map fun letter => ⟨.short letter, c.arity, c⟩).toList ++
    match c.longFlag with
    | none => []
    | some name =>
        ⟨.long name, c.arity, c⟩ ::
          if c.isSwitch then [⟨.long ("no-" ++ name), .switchOff, c⟩] else []

end Command

/-- The flags in the order in which they are declared. -/
structure FlagIndex where
  entries : List FlagEntry

namespace FlagIndex

/-- The entry of a flag. -/
def get? (index : FlagIndex) (flag : Flag) : Option FlagEntry :=
  index.entries.find? (·.flag = flag)

/-- Adds a flag that is not claimed yet. -/
def add (index : FlagIndex) (entry : FlagEntry) : Except Cause FlagIndex :=
  match index.get? entry.flag with
  | some previous =>
      .error (.flagRedefined entry.flag.label entry.command.name previous.command.name)
  | none => .ok ⟨index.entries ++ [entry]⟩

/-- The flags of all commands of a table, if no flag is claimed twice. -/
def ofTable (t : CommandTable) : Except Cause FlagIndex :=
  (t.commands.flatMap Command.flagEntries).foldlM add ⟨[]⟩

/-- The short flags with their arities, in increasing order. -/
def shortFlags (index : FlagIndex) : List (Char × Arity) :=
  (index.entries.filterMap fun e =>
    match e.flag with
    | .short letter => some (letter, e.arity)
    | .long _ => none).mergeSort fun a b => a.1 ≤ b.1

/-- The long flags with their arities, in increasing order. -/
def longFlags (index : FlagIndex) : List (String × Arity) :=
  (index.entries.filterMap fun e =>
    match e.flag with
    | .short _ => none
    | .long name => some (name, e.arity)).mergeSort fun a b => a.1 ≤ b.1

end FlagIndex

end PlotScript
