import Elementwise.Extent
import Elementwise.Number.Numeral
import Elementwise.Text

/-!
# Inspecting kernel text

The declarations of a kernel are read back out of its text: structs, storage bindings, compute
entry points and the functions called. The inspector looks for the form of each declaration and
does not parse the shader language.

A reader recognises one declaration at the start of a text, given the text before it, and returns
the text after it. Scanning finds all places where a reader succeeds, from left to right, and goes
on behind each place found.
-/

namespace Elementwise

/-! ### Scanning -/

namespace Scan

variable {α : Type}

/-- Recognises something at the start of `text`, which follows the reversed text `before`. -/
abbrev Reader (α : Type) := (before text : List Char) → Option (α × List Char)

/-- What `read` recognises in `text` once its first `skip` characters are passed over. -/
def allFrom (read : Reader α) (before : List Char) : (skip : Nat) → (text : List Char) → List α
  | _, [] => []
  | skip + 1, c :: rest => allFrom read (c :: before) skip rest
  | 0, c :: rest =>
    match read before (c :: rest) with
    | some (a, after) => a :: allFrom read (c :: before) (rest.length - after.length) rest
    | none => allFrom read (c :: before) 0 rest

/-- Everything `read` recognises in a text, from left to right. -/
def all (read : Reader α) (text : List Char) : List α := allFrom read [] 0 text

/-! ### Pieces of declarations -/

/-- The text after a fixed piece. -/
def piece? (piece : String) (text : List Char) : Option (List Char) :=
  piece.toList.isPrefixOf? text

/-- The text after at least one blank and all that follow it. -/
def blanks? : List Char → Option (List Char)
  | [] => none
  | c :: rest => if Text.isBlank c then some (Text.skipBlanks rest) else none

/-- A name of word characters, not starting with a digit, and the text after it. -/
def name? : List Char → Option (String × List Char)
  | [] => none
  | c :: rest =>
    if Text.isNameStart c then
      some (String.ofList (c :: rest.takeWhile Text.isWordChar), rest.dropWhile Text.isWordChar)
    else none

/-- At least one digit with all that follow it, and the text after them. -/
def digits? (text : List Char) : Option (List Char × List Char) :=
  match text.takeWhile Char.isDigit with
  | [] => none
  | digits => some (digits, text.dropWhile Char.isDigit)

/-- The text up to a character, and the text after that character. -/
def upTo? (stop : Char) (text : List Char) : Option (List Char × List Char) :=
  match text.dropWhile (· != stop) with
  | [] => none
  | _ :: rest => some (text.takeWhile (· != stop), rest)

/-- Whether the reversed text before a place ends in a word character. -/
def insideWord : (before : List Char) → Bool
  | [] => false
  | c :: _ => Text.isWordChar c

end Scan

/-! ### Declarations -/

inductive StorageMode where
  | read
  | readWrite
  deriving DecidableEq

structure StorageBinding where
  group : Number
  slot : Number
  mode : StorageMode
  name : String
  type : String
  deriving DecidableEq

structure EntryPoint where
  name : String
  workgroupSize : Extent
  deriving DecidableEq

/-- The declarations and calls of a text, each kind in order of appearance. -/
structure Inspection where
  structs : List String
  bindings : List StorageBinding
  entryPoints : List EntryPoint
  calls : List String
  deriving DecidableEq

namespace Inspection

open Scan Text

/-! ### Structs -/

/-- A struct declaration up to its opening brace. -/
def struct? : Reader String := fun before text => do
  guard !insideWord before
  let text ← piece? "struct" text
  let text ← blanks? text
  let (name, text) ← name? text
  let text ← piece? "\x7b" (skipBlanks text)
  return (name, text)

/-! ### Storage bindings -/

/-- The access mode of a storage variable with the bracket that closes it. Without a mode the
variable is read-only. -/
def mode? (text : List Char) : Option (StorageMode × List Char) :=
  match piece? ">" text with
  | some text => some (.read, text)
  | none => do
    let text ← piece? "," (skipBlanks text)
    let text := skipBlanks text
    match piece? "read>" text with
    | some text => return (.read, text)
    | none =>
      let text ← piece? "read_write>" text
      return (.readWrite, text)

/-- The type written between the colon and the semicolon of a declaration. It is trimmed; of a
text of blanks only the last one is left. -/
def typeText? (text : List Char) : Option (List Char) :=
  match trim text with
  | [] => text.getLast?.map fun c => [c]
  | type => some type

/-- A storage binding up to its semicolon. -/
def binding? : Reader StorageBinding := fun _ text => do
  let text ← piece? "@group(" text
  let (group, text) ← digits? text
  let text ← piece? ")" text
  let text ← piece? "@binding(" (skipBlanks text)
  let (slot, text) ← digits? text
  let text ← piece? ")" text
  let text ← piece? "var<storage" (skipBlanks text)
  let (mode, text) ← mode? text
  let text ← blanks? text
  let (name, text) ← name? text
  let text ← piece? ":" (skipBlanks text)
  let (declared, text) ← upTo? ';' text
  let type ← typeText? declared
  return (⟨Number.ofNumeral group, Number.ofNumeral slot, mode, name, String.ofList type⟩, text)

/-! ### Entry points -/

/-- The workgroup size given by the arguments of the attribute. Empty arguments are passed over,
missing ones are 1, and those after the third are ignored. -/
def workgroupSize (arguments : List Char) : Extent :=
  let sizes := (((arguments.splitOn ',').map trim).filter fun a => !a.isEmpty).map
    Number.ofIntegerStart
  ⟨sizes[0]?.getD 1, sizes[1]?.getD 1, sizes[2]?.getD 1⟩

/-- A compute entry point up to the parenthesis that opens its parameters. -/
def entryPoint? : Reader EntryPoint := fun _ text => do
  let text ← piece? "@compute" text
  let text ← blanks? text
  let text ← piece? "@workgroup_size(" text
  let (arguments, text) ← upTo? ')' text
  let text ← piece? "fn" (skipBlanks text)
  let text ← blanks? text
  let (name, text) ← name? text
  let text ← piece? "(" (skipBlanks text)
  return (⟨name, workgroupSize arguments⟩, text)

/-! ### Calls -/

/-- Whether the reversed text before a place ends in the keyword `fn` and at least one blank. -/
def afterFunctionKeyword (before : List Char) : Bool :=
  match before with
  | [] => false
  | c :: _ =>
    isBlank c &&
      match skipBlanks before with
      | 'n' :: 'f' :: before => !insideWord before
      | _ => false

/-- Whether the reversed text before a place ends in the mark of an attribute. -/
def afterAttributeMark : (before : List Char) → Bool
  | '@' :: _ => true
  | _ => false

/-- A called function up to its opening parenthesis. Attributes and declared functions are not
called. -/
def call? : Reader String := fun before text => do
  guard (!insideWord before && !afterAttributeMark before && !afterFunctionKeyword before)
  let (name, text) ← name? text
  let text ← piece? "(" (skipBlanks text)
  return (name, text)

end Inspection

/-- The declarations and calls of a kernel text. -/
def inspect (code : String) : Inspection where
  structs := Scan.all Inspection.struct? code.toList
  bindings := Scan.all Inspection.binding? code.toList
  entryPoints := Scan.all Inspection.entryPoint? code.toList
  calls := Scan.all Inspection.call? code.toList

end Elementwise
