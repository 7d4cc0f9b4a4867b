/-!
# Text

Words are runs of ASCII letters, digits and underscores; a name is a word that does not start with a
digit. Blanks separate words in kernel text and in settings. Quoted text stands between double
quotes, with a quote and a backslash escaped by a backslash, the usual control characters by a
letter, and the other control characters by their code in four hexadecimal digits. Identifiers are
the names that a shader may declare, and graph names are cleaned before they serve as identifiers.
-/

namespace Elementwise

namespace Text

/-! ### Words -/

/-- ASCII letters, digits and the underscore. -/
def isWordChar (c : Char) : Bool := c.isAlphanum || c == '_'

/-- The characters a name may start with. -/
def isNameStart (c : Char) : Bool := c.isAlpha || c == '_'

def isName : List Char → Bool
  | [] => false
  | c :: rest => isNameStart c && rest.all isWordChar

/-! ### Blanks -/

/-- The blank characters: the ASCII controls from tab to carriage return, the space separators,
the line and paragraph separators and the byte order mark. -/
def isBlank (c : Char) : Bool :=
  let n := c.toNat
  (0x09 ≤ n && n ≤ 0x0D) || n == 0x20 || n == 0xA0 || n == 0x1680 ||
    (0x2000 ≤ n && n ≤ 0x200A) || n == 0x2028 || n == 0x2029 || n == 0x202F || n == 0x205F ||
    n == 0x3000 || n == 0xFEFF

def skipBlanks (text : List Char) : List Char := text.dropWhile isBlank

def dropTrailingBlanks (text : List Char) : List Char := (skipBlanks text.reverse).reverse

/-- The text without its leading and trailing blanks. -/
def trim (text : List Char) : List Char := dropTrailingBlanks (skipBlanks text)

/-! ### Quoted text -/

namespace Quoted

def escape (c : Char) : List Char :=
  if c == '"' then ['\\', '"']
  else if c == '\\' then ['\\', '\\']
  else if c == '\x08' then ['\\', 'b']
  else if c == '\t' then ['\\', 't']
  else if c == '\n' then ['\\', 'n']
  else if c == '\x0c' then ['\\', 'f']
  else if c == '\r' then ['\\', 'r']
  else if c.toNat < 0x20 then
    ['\\', 'u', '0', '0', Nat.digitChar (c.toNat / 16), Nat.digitChar (c.toNat % 16)]
  else [c]

def encode (text : List Char) : List Char := '"' :: (text.flatMap escape ++ ['"'])

end Quoted

end Text

/-! ### Identifiers -/

/-- The characters removed from graph names. -/
def strippedChars : List Char := ['(', ')', ',', '"', '.', ';', ':', '\x27', '/']

/-- The name without the stripped characters. -/
def sanitize (name : String) : String :=
  String.ofList (name.toList.filter fun c => !strippedChars.contains c)

/-- Whether the text has the form of a shader identifier: a letter and word characters, or an
underscore and at least one word character. -/
def hasIdentifierForm (name : String) : Bool :=
  match name.toList with
  | [] => false
  | c :: rest =>
    (c.isAlpha && rest.all Text.isWordChar) ||
      (c == '_' && !rest.isEmpty && rest.all Text.isWordChar)

/-- Whether the text starts with two underscores, as only reserved identifiers do. -/
def isReserved (name : String) : Bool :=
  match name.toList with
  | '_' :: '_' :: _ => true
  | _ => false

/-- Whether the text is a shader identifier that a program may declare. -/
def isIdentifier (name : String) : Bool := hasIdentifierForm name && !isReserved name

end Elementwise
