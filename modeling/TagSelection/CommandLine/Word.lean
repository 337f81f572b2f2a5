/-!
# The words of a command line

What a word of a command line is by its first characters.  Two dashes start the
long name of an option, to which a value may be attached by an equals sign; one dash
starts short names, one character each; two dashes alone end the options.
-/

namespace TagSelection.CommandLine

inductive Word where
  | terminator
  | long (name : String) (attached : Option String)
  /-- The short names of options, and what may be a value behind them. -/
  | short (characters : List Char)
  | plain
  deriving DecidableEq, Repr

namespace Word

def afterEquals? : List Char → Option String
  | '=' :: rest => some (String.ofList rest)
  | _ => none

/-- The kind of a word; a dash alone is no option. -/
def ofText (text : String) : Word :=
  match text.toList with
  | ['-', '-'] => .terminator
  | '-' :: '-' :: rest =>
      .long (String.ofList (rest.takeWhile (· != '=')))
        (afterEquals? (rest.dropWhile (· != '=')))
  | ['-'] => .plain
  | '-' :: rest => .short rest
  | _ => .plain

/-- The value attached to a short name by the characters behind it; an equals sign
in front does not belong to it. -/
def attachedValue? : List Char → Option String
  | [] => none
  | '=' :: rest => some (String.ofList rest)
  | rest => some (String.ofList rest)

end Word

end TagSelection.CommandLine
