import Elementwise.Number.Printer

/-!
# Loose values

Log lines and layout annotations carry values the library does not interpret. It only keeps them
and, in messages, shows their text, if they have one.
-/

namespace Elementwise

/-- An uninterpreted value. `missing` is the value of a member that was never given. -/
inductive Value where
  | missing
  | null
  | bool (b : Bool)
  | number (a : Number)
  | text (s : String)
  | list (items : List Value)
  | record (members : List (String × Value))

namespace Value

instance : Inhabited Value := ⟨.missing⟩

mutual

/-- The text of a value in a message. A list shows its items with commas between them. A record
shows a fixed text, unless it has a member `toString`: that member stands in the place of the
record's way to show itself, and no value can serve as one. -/
def toText? : Value → Option String
  | .missing => some "undefined"
  | .null => some "null"
  | .bool b => some (if b then "true" else "false")
  | .number a => some a.text
  | .text s => some s
  | .list items => (itemTexts? items).map fun texts => ",".intercalate texts
  | .record members =>
    if members.any fun m => m.1 == "toString" then none else some "[object Object]"

/-- The texts of the items of a list. An item without content shows nothing. -/
def itemTexts? : List Value → Option (List String)
  | [] => some []
  | .missing :: rest => (itemTexts? rest).map fun texts => "" :: texts
  | .null :: rest => (itemTexts? rest).map fun texts => "" :: texts
  | item :: rest => do
    let text ← item.toText?
    let texts ← itemTexts? rest
    return text :: texts

end

end Value

end Elementwise
