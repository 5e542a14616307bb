import MotionWatch.Text.Utf8

/-!
# The names in a library

Before a plugin is loaded, the names in its symbol tables are read: those in the dynamic table, and
those in the full one. How the tables are found in a file is left to a reader of such files.

* `Elf`: the symbol tables of a file.
* `Elf.exportsWithPrefix`: the names with a prefix, in order and without duplicates.
-/

namespace MotionWatch.Plugin

/-! ## Symbol tables -/

/-- The names in a string table, with their offsets. -/
structure StringTable where
  entries : List (Nat × String)
  deriving DecidableEq, Repr

/-- The table without names. -/
def StringTable.empty : StringTable := ⟨[]⟩

/-- The name at an offset, which may lie inside of a longer name. -/
def StringTable.get? (t : StringTable) (offset : Nat) : Option String :=
  match t.entries.reverse.find? fun (start, _) => start ≤ offset with
  | some (start, name) =>
    let bytes := Text.utf8 name
    if offset - start ≤ bytes.length then Text.utf8? (bytes.drop (offset - start)) else none
  | none => none

/-- An entry of a symbol table. -/
structure Symbol where
  /-- Offset of the name. -/
  name : Nat
  /-- Number of the section that defines the symbol, 0 if none does. -/
  definedIn : Nat
  deriving DecidableEq, Repr

/-- A symbol table with its names. -/
structure SymbolTable where
  symbols : List Symbol
  strings : StringTable
  deriving DecidableEq, Repr

/-- The table without symbols. -/
def SymbolTable.empty : SymbolTable := ⟨[], .empty⟩

/-- The symbols whose name is in the string table, with it. -/
def SymbolTable.named (t : SymbolTable) : List (Symbol × String) :=
  t.symbols.filterMap fun s => (t.strings.get? s.name).map (s, ·)

/-- The symbol tables of a file. -/
structure Elf where
  dynamic : SymbolTable
  static : SymbolTable
  deriving DecidableEq, Repr

/-! ## Exports -/

/-- Puts a name into a list of increasing names, unless it is there. -/
def insertName (name : String) : List String → List String
  | [] => [name]
  | n :: rest =>
    if name = n then n :: rest
    else if name < n then name :: n :: rest
    else n :: insertName name rest

/-- Names in order and without duplicates. -/
def sortNames (names : List String) : List String := names.foldr insertName []

/-- The names in both tables. -/
def Elf.names (e : Elf) : List String :=
  (e.dynamic.named ++ e.static.named).map Prod.snd

/-- The names that start with the given characters, in order and without duplicates. -/
def Elf.exportsWithPrefix (e : Elf) (start : String) : List String :=
  sortNames (e.names.filter fun name => start.toList.isPrefixOf name.toList)

end MotionWatch.Plugin
