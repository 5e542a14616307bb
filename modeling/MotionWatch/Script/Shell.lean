import MotionWatch.Decimal.Integer
import MotionWatch.Script.Command
import MotionWatch.Script.Sum
import MotionWatch.Table

/-!
# The commands of hooks

A hook is run as a command line by a small shell, which knows the commands that hooks are made of.
Whatever it does not know fails.

* `Shell.run`: what remains after a command line.
-/

namespace MotionWatch

/-- A shell between two commands. -/
structure Shell where
  /-- The values of its variables. -/
  settings : Table String
  /-- The contents of files, by their paths. -/
  files : Table String
  /-- How the last command ended; 0 is a success. -/
  status : Nat
  /-- Whether the shell was told to exit. -/
  exited : Bool
  /-- The signal that ended the shell. -/
  signal : Option Nat

namespace Shell

/-- A new shell. -/
def fresh (settings : Table String) : Shell := ⟨settings, .empty, 0, false, none⟩

/-- The status of a command that is not known. -/
def notFound : Nat := 127

/-- The status after a command line that makes no sense. -/
def misused : Nat := 2

/-! ## Words -/

/-- The number of the shell itself. -/
def ownNumber : Nat := 1

/-- The value of a variable. -/
def valueOf (s : Shell) (name : List Char) : List Char :=
  if name = ['?'] then Decimal.ofNat s.status
  else if name = ['$'] then Decimal.ofNat ownNumber
  else ((s.settings.get? (.ofList name)).getD "").toList

/-- Appends a value to the last of some fields, and splits it at blanks. -/
def appendSplit (fields : List (List Char) × Option (List Char)) :
    List Char → List (List Char) × Option (List Char)
  | [] => fields
  | c :: cs =>
    if c = ' ' then appendSplit (fields.1 ++ fields.2.toList, none) cs
    else appendSplit (fields.1, some (fields.2.getD [] ++ [c])) cs

/-- Appends a value to the last of some fields. -/
def appendWhole (fields : List (List Char) × Option (List Char)) (cs : List Char) :
    List (List Char) × Option (List Char) :=
  (fields.1, some (fields.2.getD [] ++ cs))

/-- Appends a value, split unless it is quoted. -/
def appendValue (quoted : Bool) (fields : List (List Char) × Option (List Char)) (cs : List Char) :
    List (List Char) × Option (List Char) :=
  if quoted then appendWhole fields cs else appendSplit fields cs

/-- The fields that a word stands for. -/
def expand (s : Shell) (fields : List (List Char) × Option (List Char)) :
    Word → Option (List String)
  | [] => some ((fields.1 ++ fields.2.toList).map .ofList)
  | .text cs :: rest => s.expand (appendWhole fields cs) rest
  | .variable name quoted :: rest => s.expand (appendValue quoted fields (s.valueOf name)) rest
  | .arithmetic expression quoted :: rest => do
    let n ← evaluateSum? expression
    s.expand (appendValue quoted fields (Decimal.ofInt n)) rest

/-- The fields that words stand for. -/
def expandAll (s : Shell) (words : List Word) : Option (List String) :=
  List.flatten <$> words.mapM (s.expand ([], none))

/-! ## Commands -/

/-- The character of an escape in a format. -/
def formatEscape? : Char → Option Char
  | 'n' => some '\n'
  | 't' => some '\t'
  | 'r' => some '\r'
  | '\\' => some '\\'
  | _ => none

/-- The text with its escapes replaced. -/
def unescape : List Char → List Char
  | '\\' :: c :: rest =>
    match formatEscape? c with
    | some e => e :: unescape rest
    | none => '\\' :: c :: unescape rest
  | c :: rest => c :: unescape rest
  | [] => []

/-- A format filled with arguments, and the arguments that are left. -/
def fillOnce (arguments : List String) : List Char → List Char × List String
  | '%' :: '%' :: rest =>
    let (cs, left) := fillOnce arguments rest
    ('%' :: cs, left)
  | '%' :: 's' :: rest =>
    let (cs, left) := fillOnce arguments.tail rest
    ((arguments.headD "").toList ++ cs, left)
  | '%' :: 'd' :: rest =>
    let (cs, left) := fillOnce arguments.tail rest
    ((arguments.headD "0").toList ++ cs, left)
  | '\\' :: c :: rest =>
    let (cs, left) := fillOnce arguments rest
    ((match formatEscape? c with
      | some e => [e]
      | none => ['\\', c]) ++ cs, left)
  | c :: rest =>
    let (cs, left) := fillOnce arguments rest
    (c :: cs, left)
  | [] => ([], arguments)

/-- A format filled with arguments, as often as they require it. -/
def fill (fuel : Nat) (format : List Char) (arguments : List String) : List Char :=
  match fuel with
  | 0 => []
  | fuel + 1 =>
    let (cs, left) := fillOnce arguments format
    if left.isEmpty ∨ left.length = arguments.length then cs else cs ++ fill fuel format left

/-- The number that a word of a command denotes. -/
def number? (word : String) : Option Nat := (Decimal.readNat 2147483647 word.toList).toOption

/-- The comparisons of numbers. -/
def comparison? (name : String) : Option (Nat → Nat → Bool) :=
  [("-eq", fun a b => a == b), ("-ne", fun a b => a != b), ("-lt", fun a b => a < b),
    ("-le", fun a b => a ≤ b), ("-gt", fun a b => b < a), ("-ge", fun a b => b ≤ a)].lookup name

/-- Whether a condition holds, if it is one. -/
def condition? (s : Shell) : List String → Option Bool
  | [] => some false
  | [word] => some !word.isEmpty
  | ["!", word] => some word.isEmpty
  | ["-n", word] => some !word.isEmpty
  | ["-z", word] => some word.isEmpty
  | ["-e", path] | ["-f", path] => some (s.files.contains path)
  | ["-s", path] => some ((s.files.get? path).any (!·.isEmpty))
  | [a, "=", b] => some (a = b)
  | [a, "!=", b] => some (a ≠ b)
  | [a, name, b] => do return (← comparison? name) (← number? a) (← number? b)
  | _ => none

/-- The status of a test. -/
def test (s : Shell) (words : List String) : Nat :=
  match s.condition? words with
  | some true => 0
  | some false => 1
  | none => misused

/-- The directories in which programs lie. -/
def programDirectories : List String := ["/bin/", "/usr/bin/"]

/-- The name of a program, without the directory that it lies in. -/
def programName (path : String) : String :=
  match programDirectories.find? fun d => path.startsWith d with
  | some d => .ofList (path.toList.drop d.length)
  | none => path

/-- What a command prints, and its status. -/
def builtin (s : Shell) : List String → List Char × Nat
  | [] => ([], 0)
  | path :: arguments =>
    let name := programName path
    if name = "true" ∨ name = ":" ∨ name = "sleep" then ([], 0)
    else if name = "false" then ([], 1)
    else if name = "test" then ([], s.test arguments)
    else if name = "[" then
      ([], if arguments.getLast? = some "]" then s.test arguments.dropLast else misused)
    else if name = "echo" then
      match arguments with
      | "-n" :: words => (unescape (" ".intercalate words).toList, 0)
      | words => (unescape (" ".intercalate words).toList ++ ['\n'], 0)
    else if name = "printf" then
      match arguments with
      | format :: arguments => (fill (arguments.length + 1) format.toList arguments, 0)
      | [] => ([], misused)
    else ([], notFound)

/-- The signals that end a shell, by their names. -/
def signals : List (String × Nat) :=
  [("HUP", 1), ("INT", 2), ("KILL", 9), ("USR1", 10), ("USR2", 12), ("PIPE", 13), ("ALRM", 14),
    ("TERM", 15)]

/-- The signal of a name or a number. -/
def signal? (text : String) : Option Nat :=
  match signals.lookup text with
  | some n => some n
  | none => (signals.map Prod.snd).find? fun n => toString n = text

/-- Ends the shell by a signal, if it is the one that is meant. -/
def kill (s : Shell) (signal : Option Nat) (number : String) : Shell :=
  match signal with
  | some n =>
    if number = toString ownNumber then { s with signal := some n, exited := true }
    else { s with status := 1 }
  | none => { s with status := misused }

/-- Sends a signal. -/
def sendSignal (s : Shell) : List String → Shell
  | [number] => s.kill (signals.lookup "TERM") number
  | ["-s", name, number] => s.kill (signal? name) number
  | [name, number] => s.kill (signal? (.ofList (name.toList.drop 1))) number
  | _ => { s with status := misused }

/-- Tells the shell to exit. -/
def exit (s : Shell) : List String → Shell
  | [] => { s with exited := true }
  | status :: _ =>
    match number? status with
    | some n => { s with status := n % 256, exited := true }
    | none => { s with status := misused, exited := true }

/-- Prepares a file for output. -/
def openFile (s : Shell) (path : String) (append : Bool) : Shell :=
  if append ∧ s.files.contains path then s else { s with files := s.files.insert path "" }

/-- Writes to a file that is prepared. -/
def write (s : Shell) (path : String) (text : List Char) : Shell :=
  { s with files := s.files.insert path ((s.files.get? path).getD "" ++ .ofList text) }

/-- The name and the value of a word that sets a variable. -/
def assignment? (w : Word) : Option (List Char × Word) :=
  let name := (w.takeWhile (· ≠ .text ['='])).flatMap fun f =>
    match f with
    | .text cs => cs
    | _ => ['$']
  match w.dropWhile (· ≠ .text ['=']) with
  | _ :: value =>
    if name.all CommandLine.isNameChar ∧ name.head?.any (!·.isDigit) then some (name, value)
    else none
  | [] => none

/-- Sets a variable. -/
def assign (s : Shell) (a : List Char × Word) : Shell :=
  match s.expand ([], none) a.2 with
  | some fields =>
    { s with settings := s.settings.insert (.ofList a.1) (" ".intercalate fields) }
  | none => { s with status := misused, exited := true }

/-- Runs a simple command. Its output goes to the last of its files. -/
def runSimple (s : Shell) (c : SimpleCommand) : Shell :=
  match s.expandAll c.words, s.expandAll (c.outputs.map Prod.fst) with
  | some words, some paths =>
    let s := (paths.zip (c.outputs.map Prod.snd)).foldl (fun s (p, append) => s.openFile p append) s
    if words.head? = some "exit" then s.exit words.tail
    else if words.head? = some "kill" then s.sendSignal words.tail
    else
      let (text, status) := s.builtin words
      let s := match paths.getLast? with
        | some p => s.write p text
        | none => s
      { s with status }
  | _, _ => { s with status := misused, exited := true }

/-- Whether a command runs after the last one. -/
def meets (s : Shell) : Separator → Bool
  | .next => true
  | .ifDone => s.status = 0
  | .ifFailed => s.status ≠ 0

/-- Runs a command of a line, unless the shell exited. -/
def runNext (s : Shell) (c : Separator × SimpleCommand) : Shell :=
  if s.exited ∨ !s.meets c.1 ∨ (c.2.words.isEmpty ∧ c.2.outputs.isEmpty) then s
  else
    let assignments := (c.2.words.map assignment?).takeWhile Option.isSome
    let s := (assignments.filterMap id).foldl assign s
    let words := c.2.words.drop assignments.length
    if words.isEmpty ∧ c.2.outputs.isEmpty then { s with status := 0 }
    else s.runSimple { c.2 with words }

/-- What remains after a command line. -/
def run (s : Shell) (text : String) : Shell :=
  match CommandLine.parse? text with
  | some commands => commands.foldl runNext s
  | none => { s with status := misused }

end Shell

end MotionWatch
