import PlotScript.Diagnostic.Misread

/-!
# Causes of failure

What can go wrong, one case per cause. `kind` is the class an error is reported
under and `message` its wording.
-/

namespace PlotScript

/-- The classes of errors. -/
inductive Kind where
  | config
  | unknownToken
  | malformedOption
  | coercion
  | grammar
  | script
  | io
  deriving DecidableEq

/-- Blocks of a command file that need a closing line. -/
inductive BlockKind where
  | script
  | loop
  deriving DecidableEq

/-- Why a file cannot be read. -/
inductive FileFault where
  | notFound
  | isDirectory
  | notDirectory
  | notText
  | nameTooLong
  | nulInName
  deriving DecidableEq

/-- Why something failed. -/
inductive Cause where
  | duplicateType (tag : String)
  | invalidPattern (expression tag : String)
  | commandRedefined (name : String)
  | flagRedefined (flag command previous : String)
  | defaultWithoutArguments (command : String)
  | unknownCommand (name : String)
  | unknownLongFlag (token : String)
  | unknownShortFlag (letter : Char)
  | missingOptionText (option : String)
  | undeclaredOption (command option : String)
  | invalidLiteral (text tag : String) (reason : Misread)
  | unknownType (tag : String)
  | missingArgument (flag : String) (expected found : Nat)
  | argumentCount (command : String) (expected found : Nat)
  | expectedText (command : String) (position : Nat)
  | unterminatedReference
  | invalidVariableName (name : String)
  | undefinedVariable (name : String)
  | recursiveVariable (name : String) (limit : Nat)
  | unterminatedSingleQuote
  | unterminatedDoubleQuote
  | unterminatedBlock (block : BlockKind) (line : Nat)
  | strayBlockEnd (block : BlockKind)
  | includeTooDeep (limit : Nat) (path : String)
  | noLegacyParser
  | noScriptHost
  | scriptNotStarted (program reason : String)
  | scriptExited (program status stderr : String)
  | unreadable (fault : FileFault)
  /-- A failure that a collaborator words itself. -/
  | reported (kind : Kind) (message : String)
  deriving DecidableEq

namespace Kind

def name : Kind → String
  | config => "config"
  | unknownToken => "unknown-token"
  | malformedOption => "malformed-option"
  | coercion => "coercion"
  | grammar => "syntax"
  | script => "script"
  | io => "io"

/-- What the display form of an error of this kind begins with. -/
def heading : Kind → String
  | config => "Configuration error: "
  | grammar => "Syntax error: "
  | script => "Script error: "
  | io => "I/O error: "
  | _ => ""

end Kind

namespace BlockKind

/-- The label of the line that opens a block. -/
def opener : BlockKind → String
  | script => "ruby"
  | loop => "for"

/-- The line that closes a block. -/
def closer : BlockKind → String
  | script => "ruby end"
  | loop => "for end"

end BlockKind

/-- The wording that the operating system has for a fault. -/
def FileFault.message : FileFault → String
  | notFound => "No such file or directory (os error 2)"
  | isDirectory => "Is a directory (os error 21)"
  | notDirectory => "Not a directory (os error 20)"
  | notText => "stream did not contain valid UTF-8"
  | nameTooLong => "File name too long (os error 36)"
  | nulInName => "file name contained an unexpected NUL byte"

namespace Cause

/-- The class that an error is reported under. -/
def kind : Cause → Kind
  | duplicateType _ | invalidPattern _ _ | commandRedefined _ | flagRedefined _ _ _
  | defaultWithoutArguments _ => .config
  | unknownCommand _ | unknownLongFlag _ | unknownShortFlag _ => .unknownToken
  | missingOptionText _ | undeclaredOption _ _ => .malformedOption
  | invalidLiteral _ _ _ | unknownType _ | missingArgument _ _ _ | argumentCount _ _ _
  | expectedText _ _ => .coercion
  | unterminatedReference | invalidVariableName _ | undefinedVariable _
  | recursiveVariable _ _ | unterminatedSingleQuote | unterminatedDoubleQuote
  | unterminatedBlock _ _ | strayBlockEnd _ | includeTooDeep _ _ | noLegacyParser => .grammar
  | noScriptHost | scriptNotStarted _ _ | scriptExited _ _ _ => .script
  | unreadable _ => .io
  | reported kind _ => kind

/-- The bare message. -/
def message : Cause → String
  | duplicateType tag => s!"duplicate type '{tag}'"
  | invalidPattern expression tag =>
      s!"invalid shortcut pattern '{expression}' for type {tag}"
  | commandRedefined name => s!"command '{name}' redefined"
  | flagRedefined flag command previous =>
      s!"option '{flag}' redefined by command '{command}' (already used by '{previous}')"
  | defaultWithoutArguments command =>
      s!"command '{command}' takes no arguments and cannot be the default command"
  | unknownCommand name => s!"unknown command '{name}'"
  | unknownLongFlag token => s!"unknown long option '{token}'"
  | unknownShortFlag letter => s!"unknown short option '-{letter}'"
  | missingOptionText option => s!"missing option text for /{option}"
  | undeclaredOption command option => s!"command '{command}' has no option /{option}"
  | invalidLiteral text tag reason =>
      s!"invalid literal '{text}' for type {tag}: " ++ reason.reason
  | unknownType tag => s!"unknown type '{tag}'"
  | missingArgument flag expected found =>
      s!"missing argument for {flag}: expected " ++ writeNat expected ++ ", found " ++
        writeNat found
  | argumentCount command expected found =>
      s!"command '{command}' expects " ++ writeNat expected ++ " argument(s), got " ++
        writeNat found
  | expectedText command position =>
      s!"command '{command}' expected text for argument " ++ writeNat position
  | unterminatedReference => "unterminated variable reference '$('"
  | invalidVariableName name => s!"invalid variable name '{name}'"
  | undefinedVariable name => s!"undefined variable '{name}'"
  | recursiveVariable name limit =>
      s!"recursive variable '{name}' (expansion deeper than " ++ writeNat limit ++ ")"
  | unterminatedSingleQuote => "unterminated single quote"
  | unterminatedDoubleQuote => "unterminated double quote"
  | unterminatedBlock block line =>
      "unterminated '" ++ block.opener ++ "' block opened at line " ++ writeNat line
  | strayBlockEnd block =>
      "'" ++ block.closer ++ "' without a matching '" ++ block.opener ++ "'"
  | includeTooDeep limit path =>
      "include nested deeper than " ++ writeNat limit ++ s!" files at '{path}'"
  | noLegacyParser =>
      "file uses the legacy call syntax but no legacy parser is configured"
  | noScriptHost => "no script interpreter configured"
  | scriptNotStarted program reason => s!"cannot start '{program}': {reason}"
  | scriptExited program status stderr =>
      s!"'{program}' exited with {status}: {stderr}"
  | unreadable fault => fault.message
  | reported _ message => message

/-- The message behind the heading of its class. -/
def display (c : Cause) : String :=
  c.kind.heading ++ c.message

end Cause

end PlotScript
