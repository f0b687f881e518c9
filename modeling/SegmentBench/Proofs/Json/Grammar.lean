import SegmentBench.Decimal.Shortest
import SegmentBench.Proofs.Document.Written

/-!
# The grammar of JSON

Which texts are a JSON value, and the value that they spell.  A number is kept exactly, as
the decimal of its digits without rounding, and the members of an object in their order.
-/

namespace SegmentBench

inductive Json where
  | null
  | boolean (value : Bool)
  | number (negative : Bool) (value : Decimal)
  | string (text : String)
  | array (elements : List Json)
  | object (members : List (String × Json))

namespace Json

open Document (IsNumeral)

/-! ## Numbers -/

inductive SpellsFraction : List Char → List Char → Prop where
  | absent : SpellsFraction [] []
  | present {digits : List Char} (nonempty : digits ≠ [])
      (decimal : ∀ c ∈ digits, Numeral.isDecimal c = true) : SpellsFraction digits ('.' :: digits)

def exponentSigns : List (List Char × Bool) := [([], false), (['+'], false), (['-'], true)]

def signed (negative : Bool) (value : Nat) : Int := if negative then -value else value

inductive SpellsExponent : Int → List Char → Prop where
  | absent : SpellsExponent 0 []
  | present {letter : Char} {sign digits : List Char} {negative : Bool}
      (letter_mem : letter = 'e' ∨ letter = 'E') (sign_mem : (sign, negative) ∈ exponentSigns)
      (nonempty : digits ≠ []) (decimal : ∀ c ∈ digits, Numeral.isDecimal c = true) :
      SpellsExponent (signed negative (Numeral.append 10 0 digits)) (letter :: sign ++ digits)

def minus (negative : Bool) : List Char := if negative then ['-'] else []

inductive SpellsNumber : Bool → Decimal → List Char → Prop where
  | parts {negative : Bool} {whole fraction fractionText exponentText : List Char}
      {exponent : Int} (numeral : IsNumeral whole)
      (fractional : SpellsFraction fraction fractionText)
      (exponential : SpellsExponent exponent exponentText) :
      SpellsNumber negative
        ⟨Numeral.append 10 0 (whole ++ fraction), exponent - fraction.length⟩
        (minus negative ++ whole ++ fractionText ++ exponentText)

/-! ## Strings -/

def shortEscapes : List (Char × Char) :=
  [('"', '"'), ('\\', '\\'), ('/', '/'), ('b', '\x08'), ('f', '\x0c'), ('n', '\n'), ('r', '\r'),
    ('t', '\t')]

def isPlain (c : Char) : Bool := 0x20 ≤ c.toNat && c ≠ '"' && c ≠ '\\'

structure IsUnit (digits : List Char) : Prop where
  length : digits.length = 4
  hexadecimal : ∀ c ∈ digits, Numeral.isDigit 16 c = true

/-- A character for itself or by an escape.  Those from `0x10000` on have two units. -/
inductive SpellsCharacter : Char → List Char → Prop where
  | plain {c : Char} (plain : isPlain c = true) : SpellsCharacter c [c]
  | short {letter c : Char} (known : (letter, c) ∈ shortEscapes) : SpellsCharacter c ['\\', letter]
  | unit {digits : List Char} {c : Char} (digits_unit : IsUnit digits)
      (code : c.toNat = Numeral.append 16 0 digits) : SpellsCharacter c ('\\' :: 'u' :: digits)
  | pair {first second : List Char} {c : Char} (first_unit : IsUnit first)
      (second_unit : IsUnit second) (code : 0x10000 ≤ c.toNat)
      (high : Numeral.append 16 0 first = 0xD800 + (c.toNat - 0x10000) / 0x400)
      (low : Numeral.append 16 0 second = 0xDC00 + (c.toNat - 0x10000) % 0x400) :
      SpellsCharacter c ('\\' :: 'u' :: first ++ '\\' :: 'u' :: second)

inductive SpellsCharacters : List Char → List Char → Prop where
  | nil : SpellsCharacters [] []
  | cons {c : Char} {characters body text : List Char} (first : SpellsCharacter c body)
      (others : SpellsCharacters characters text) :
      SpellsCharacters (c :: characters) (body ++ text)

inductive SpellsString : String → List Char → Prop where
  | quoted {characters text : List Char} (characters_text : SpellsCharacters characters text) :
      SpellsString (String.ofList characters) ('"' :: text ++ ['"'])

/-! ## Values -/

def isSpace (c : Char) : Bool := c = ' ' || c = '\t' || c = '\n' || c = '\r'

def IsSpace (text : List Char) : Prop := ∀ c ∈ text, isSpace c = true

inductive Separated {α : Type} (spells : α → List Char → Prop) : List α → List Char → Prop where
  | last {item : α} {before body behind : List Char} (space_before : IsSpace before)
      (item_body : spells item body) (space_behind : IsSpace behind) :
      Separated spells [item] (before ++ body ++ behind)
  | more {item : α} {items : List α} {before body behind text : List Char}
      (space_before : IsSpace before) (item_body : spells item body)
      (space_behind : IsSpace behind) (others : Separated spells items text) :
      Separated spells (item :: items) (before ++ body ++ behind ++ ',' :: text)

inductive Listed {α : Type} (spells : α → List Char → Prop) : List α → List Char → Prop where
  | none {text : List Char} (space : IsSpace text) : Listed spells [] text
  | some {items : List α} {text : List Char} (items_text : Separated spells items text) :
      Listed spells items text

inductive SpellsMember {α : Type} (spells : α → List Char → Prop) :
    String × α → List Char → Prop where
  | named {name : String} {value : α} {nameText before behind body : List Char}
      (name_text : SpellsString name nameText) (space_before : IsSpace before)
      (space_behind : IsSpace behind) (value_body : spells value body) :
      SpellsMember spells (name, value) (nameText ++ before ++ ':' :: behind ++ body)

inductive Spells : Json → List Char → Prop where
  | null : Spells .null "null".toList
  | true : Spells (.boolean true) "true".toList
  | false : Spells (.boolean false) "false".toList
  | number {negative : Bool} {value : Decimal} {text : List Char}
      (number_text : SpellsNumber negative value text) : Spells (.number negative value) text
  | string {content : String} {text : List Char} (string_text : SpellsString content text) :
      Spells (.string content) text
  | array {elements : List Json} {text : List Char}
      (elements_text : Listed Spells elements text) :
      Spells (.array elements) ('[' :: text ++ [']'])
  | object {members : List (String × Json)} {text : List Char}
      (members_text : Listed (SpellsMember Spells) members text) :
      Spells (.object members) ('\x7b' :: text ++ ['\x7d'])

inductive IsText (value : Json) : List Char → Prop where
  | spaced {before body behind : List Char} (space_before : IsSpace before)
      (value_body : Spells value body) (space_behind : IsSpace behind) :
      IsText value (before ++ body ++ behind)

end Json

end SegmentBench
