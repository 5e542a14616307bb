import MotionWatch.Decimal.Number

/-!
# Command lines

A command line is a list of simple commands. Its words may be quoted, and may name variables and
sums that are worked out when the command runs.

* `Word`, `SimpleCommand`, `CommandLine`: the parts of a command line.
* `CommandLine.parse?`: the command line in a text.
-/

namespace MotionWatch

/-- A piece of a word. What is not quoted is split at blanks. -/
inductive Fragment where
  | text (cs : List Char)
  | variable (name : List Char) (quoted : Bool)
  | arithmetic (expression : List Char) (quoted : Bool)
  deriving DecidableEq, Repr

/-- A word before its variables are replaced. -/
abbrev Word := List Fragment

/-- What stands between words. -/
inductive Separator where
  /-- `;` or the end of the line. -/
  | next
  /-- `&&`: only after a success. -/
  | ifDone
  /-- `||`: only after a failure. -/
  | ifFailed
  deriving DecidableEq, Repr

/-- A piece of a command line. -/
inductive CommandToken where
  | word (w : Word)
  /-- The next word is the file for the output, which may be kept. -/
  | redirect (append : Bool)
  | separator (s : Separator)
  deriving DecidableEq, Repr

/-- Words, and where their output goes. -/
structure SimpleCommand where
  words : List Word
  /-- The files for the output, and whether their content is kept. -/
  outputs : List (Word × Bool)
  deriving DecidableEq, Repr

/-- Simple commands, each with the condition under which it runs. -/
abbrev CommandLine := List (Separator × SimpleCommand)

namespace CommandLine

/-- Whether a character can be part of the name of a variable. -/
def isNameChar (c : Char) : Bool := c.isAlphanum || c = '_'

/-- The characters before two closing brackets, and after them. -/
def readSum : List Char → Option (List Char × List Char)
  | ')' :: ')' :: rest => some ([], rest)
  | c :: rest => do
    let (cs, rest) ← readSum rest
    return (c :: cs, rest)
  | [] => none

/-- A fragment after a dollar sign. -/
def readDollar (quoted : Bool) (cs : List Char) : Option (Fragment × List Char) :=
  match cs with
  | '(' :: '(' :: rest => do
    let (expression, rest) ← readSum rest
    return (.arithmetic expression quoted, rest)
  | '\x7b' :: rest =>
    match rest.dropWhile isNameChar with
    | '\x7d' :: after => some (.variable (rest.takeWhile isNameChar) quoted, after)
    | _ => none
  | '?' :: rest => some (.variable ['?'] quoted, rest)
  | '$' :: rest => some (.variable ['$'] quoted, rest)
  | cs =>
    if (cs.takeWhile isNameChar).isEmpty then some (.text ['$'], cs)
    else some (.variable (cs.takeWhile isNameChar) quoted, cs.dropWhile isNameChar)

/-- Whether a backslash between double quotes takes the meaning of a character away. -/
def isEscapable (c : Char) : Bool := c = '$' || c = '"' || c = '\\'

/-- The fragments up to a closing double quotation mark. -/
def readQuoted (fuel : Nat) (cs : List Char) : Option (Word × List Char) :=
  match fuel with
  | 0 => none
  | fuel + 1 =>
    match cs with
    | '"' :: rest => some ([.text []], rest)
    | '$' :: rest => do
      let (f, rest) ← readDollar true rest
      let (fs, rest) ← readQuoted fuel rest
      return (f :: fs, rest)
    | '\\' :: c :: rest => do
      let (fs, rest) ← readQuoted fuel rest
      return (.text (if isEscapable c then [c] else ['\\', c]) :: fs, rest)
    | c :: rest => do
      let (fs, rest) ← readQuoted fuel rest
      return (.text [c] :: fs, rest)
    | [] => none

/-- Whether a character ends a word that is not quoted. -/
def endsWord (c : Char) : Bool :=
  c = ' ' || c = '\t' || c = '\n' || c = ';' || c = '&' || c = '|' || c = '>' || c = '<' ||
    c = '(' || c = ')'

/-- A word at the beginning of some characters. -/
def readWord (fuel : Nat) (cs : List Char) : Option (Word × List Char) :=
  match fuel with
  | 0 => none
  | fuel + 1 =>
    match cs with
    | [] => some ([], [])
    | '\'' :: rest =>
      match rest.dropWhile (· ≠ '\'') with
      | _ :: after => do
        let (fs, after) ← readWord fuel after
        return (.text (rest.takeWhile (· ≠ '\'')) :: fs, after)
      | [] => none
    | '"' :: rest => do
      let (quoted, rest) ← readQuoted fuel rest
      let (fs, rest) ← readWord fuel rest
      return (quoted ++ fs, rest)
    | '$' :: rest => do
      let (f, rest) ← readDollar false rest
      let (fs, rest) ← readWord fuel rest
      return (f :: fs, rest)
    | '\\' :: c :: rest => do
      let (fs, rest) ← readWord fuel rest
      return (.text [c] :: fs, rest)
    | c :: rest =>
      if endsWord c then some ([], cs)
      else do
        let (fs, rest) ← readWord fuel rest
        return (.text [c] :: fs, rest)

/-- The pieces of a command line. -/
def tokens (fuel : Nat) (cs : List Char) : Option (List CommandToken) :=
  match fuel with
  | 0 => none
  | fuel + 1 =>
    match cs with
    | [] => some []
    | ' ' :: rest | '\t' :: rest => tokens fuel rest
    | '#' :: rest => tokens fuel (rest.dropWhile (· ≠ '\n'))
    | ';' :: rest | '\n' :: rest => (.separator .next :: ·) <$> tokens fuel rest
    | '&' :: '&' :: rest => (.separator .ifDone :: ·) <$> tokens fuel rest
    | '|' :: '|' :: rest => (.separator .ifFailed :: ·) <$> tokens fuel rest
    | '>' :: '>' :: rest => (.redirect true :: ·) <$> tokens fuel rest
    | '>' :: rest => (.redirect false :: ·) <$> tokens fuel rest
    | c :: rest =>
      if endsWord c then none
      else do
        let (w, after) ← readWord fuel (c :: rest)
        (.word w :: ·) <$> tokens fuel after

/-- Simple commands from the pieces of a command line. -/
def group (condition : Separator) (current : SimpleCommand) : List CommandToken → Option CommandLine
  | [] => some [(condition, current)]
  | .word w :: rest => group condition { current with words := current.words ++ [w] } rest
  | .redirect append :: .word w :: rest =>
    group condition { current with outputs := current.outputs ++ [(w, append)] } rest
  | .redirect _ :: _ => none
  | .separator s :: rest => ((condition, current) :: ·) <$> group s ⟨[], []⟩ rest

/-- The command line in a text. -/
def parse? (text : String) : Option CommandLine := do
  let cs := text.toList
  group .next ⟨[], []⟩ (← tokens (2 * cs.length + 2) cs)

end CommandLine

end MotionWatch
