import StackMachine.Json.Number

/-!
# The grammar of JSON texts

The syntax trees of JSON and the relation between a tree and the texts that write it, apart from any
reader. A tree keeps what a text says and drops how it says it: blanks between tokens, the spelling
of characters in strings, the letter and the plus sign of an exponent.

Strings are sequences of UTF-16 code units, since an escape writes one such unit. A sequence may
hold surrogates without their partners; the texts among the sequences are those of the form
`unitsOf s`.
-/

namespace StackMachine.Json

/-! ## Strings -/

/-- The code units of a character: one, or a pair of surrogates. -/
def codeUnits (c : Char) : List Nat :=
  if c.toNat < 0x10000 then [c.toNat]
  else [0xd800 + (c.toNat - 0x10000) / 0x400, 0xdc00 + (c.toNat - 0x10000) % 0x400]

/-- The code units of a text. -/
def unitsOf (text : List Char) : List Nat := text.flatMap codeUnits

/-- A digit in base sixteen, in either case, and its value. -/
def HexDigit (c : Char) (n : Nat) : Prop :=
  "0123456789abcdef".toList[n]? = some c ∨ "0123456789ABCDEF".toList[n]? = some c

/-- The escapes of one letter and the characters that they stand for. -/
def shortEscapes : List (Char × Char) :=
  [('"', '"'), ('\\', '\\'), ('/', '/'), ('b', '\x08'), ('f', '\x0c'), ('n', '\n'), ('r', '\r'),
    ('t', '\t')]

/-- The spellings of code units between the quotes of a string. -/
inductive Spells : List Nat → List Char → Prop
  | nil : Spells [] []
  /-- A character that stands for itself. -/
  | plain {c : Char} {units : List Nat} {body : List Char} (hlow : ' ' ≤ c) (hquote : c ≠ '"')
      (hslash : c ≠ '\\') (h : Spells units body) : Spells (codeUnits c ++ units) (c :: body)
  /-- An escape of one letter. -/
  | short {letter c : Char} {units : List Nat} {body : List Char}
      (hescape : (letter, c) ∈ shortEscapes) (h : Spells units body) :
      Spells (c.toNat :: units) ('\\' :: letter :: body)
  /-- The number of a code unit, whatever it is. -/
  | numbered {a b c d : Char} {i j k l : Nat} {units : List Nat} {body : List Char}
      (ha : HexDigit a i) (hb : HexDigit b j) (hc : HexDigit c k) (hd : HexDigit d l)
      (h : Spells units body) :
      Spells ((((i * 16 + j) * 16 + k) * 16 + l) :: units) ('\\' :: 'u' :: a :: b :: c :: d :: body)

/-! ## Numbers -/

/-- At least one digit. -/
def Digits (s : List Char) : Prop := s ≠ [] ∧ ∀ c ∈ s, c.isDigit = true

/-- The digits before the point: a zero stands alone. -/
def WholeText (s : List Char) : Prop := Digits s ∧ (s.head? = some '0' → s = ['0'])

/-- The texts of a fraction, which may be absent. -/
inductive FractionText : Option (List Char) → List Char → Prop
  | absent : FractionText none []
  | present {digits : List Char} (h : Digits digits) : FractionText (some digits) ('.' :: digits)

/-- The texts of an exponent, which may be absent. -/
inductive ExponentText : Option (Bool × List Char) → List Char → Prop
  | absent : ExponentText none []
  | unsigned {e : Char} {digits : List Char} (he : e = 'e' ∨ e = 'E') (h : Digits digits) :
      ExponentText (some (false, digits)) (e :: digits)
  | positive {e : Char} {digits : List Char} (he : e = 'e' ∨ e = 'E') (h : Digits digits) :
      ExponentText (some (false, digits)) (e :: '+' :: digits)
  | negative {e : Char} {digits : List Char} (he : e = 'e' ∨ e = 'E') (h : Digits digits) :
      ExponentText (some (true, digits)) (e :: '-' :: digits)

/-- The texts of a number. -/
inductive NumberText : Literal → List Char → Prop
  | mk {negative : Bool} {whole : List Char} {fraction : Option (List Char)}
      {exponent : Option (Bool × List Char)} {f e : List Char} (hw : WholeText whole)
      (hf : FractionText fraction f) (he : ExponentText exponent e) :
      NumberText ⟨negative, whole, fraction, exponent⟩
        ((if negative then ['-'] else []) ++ whole ++ f ++ e)

/-! ## Values -/

/-- The syntax tree of a value. -/
inductive Tree where
  | null
  | boolean (value : Bool)
  | number (literal : Literal)
  | string (units : List Nat)
  | list (items : List Tree)
  | object (members : List (List Nat × Tree))

/-- Characters that may stand between tokens. -/
def Blanks (s : List Char) : Prop := ∀ c ∈ s, c ∈ [' ', '\t', '\n', '\r']

/-- What stands between two brackets: commas separate the entries, and where there is none there may
be blanks. -/
inductive Encloses : List (List Char) → List Char → Prop
  | none {blanks : List Char} (h : Blanks blanks) : Encloses [] blanks
  | some (entry : List Char) (entries : List (List Char)) :
      Encloses (entry :: entries) (entry ++ entries.flatMap fun next => ',' :: next)

mutual

/-- The texts of a value. -/
inductive Renders : Tree → List Char → Prop
  | null : Renders .null ['n', 'u', 'l', 'l']
  | trueWord : Renders (.boolean true) ['t', 'r', 'u', 'e']
  | falseWord : Renders (.boolean false) ['f', 'a', 'l', 's', 'e']
  | number {literal : Literal} {text : List Char} (h : NumberText literal text) :
      Renders (.number literal) text
  | string {units : List Nat} {body : List Char} (h : Spells units body) :
      Renders (.string units) ('"' :: body ++ ['"'])
  | list {items : List Tree} {entries : List (List Char)} {inner : List Char}
      (h : RendersItems items entries) (henclosed : Encloses entries inner) :
      Renders (.list items) ('[' :: inner ++ [']'])
  | object {members : List (List Nat × Tree)} {entries : List (List Char)} {inner : List Char}
      (h : RendersMembers members entries) (henclosed : Encloses entries inner) :
      Renders (.object members) ('{' :: inner ++ ['}'])

/-- The texts of the items of a list, with the blanks around them. -/
inductive RendersItems : List Tree → List (List Char) → Prop
  | nil : RendersItems [] []
  | cons {item : Tree} {items : List Tree} {a text b : List Char} {entries : List (List Char)}
      (ha : Blanks a) (hb : Blanks b) (hitem : Renders item text)
      (h : RendersItems items entries) :
      RendersItems (item :: items) ((a ++ text ++ b) :: entries)

/-- The texts of the members of an object, with the blanks around their tokens. -/
inductive RendersMembers : List (List Nat × Tree) → List (List Char) → Prop
  | nil : RendersMembers [] []
  | cons {key : List Nat} {value : Tree} {members : List (List Nat × Tree)}
      {a body b c text d : List Char} {entries : List (List Char)}
      (ha : Blanks a) (hb : Blanks b) (hc : Blanks c) (hd : Blanks d)
      (hkey : Spells key body) (hvalue : Renders value text)
      (h : RendersMembers members entries) :
      RendersMembers ((key, value) :: members)
        ((a ++ '"' :: body ++ '"' :: b ++ ':' :: c ++ text ++ d) :: entries)

end

/-- The texts of a document: a value with blanks around it. -/
inductive Document (tree : Tree) : List Char → Prop
  | mk {a text b : List Char} (ha : Blanks a) (hb : Blanks b) (h : Renders tree text) :
      Document tree (a ++ text ++ b)

end StackMachine.Json
