import RecordFilter.Proofs.Text.Span

/-! The texts that spell a written document, as a grammar that leaves
the reader's order of tries open. -/

namespace RecordFilter

namespace StringPart

/-- What stands between the quotation marks of a literal for one of its parts. -/
inductive Spelled : StringPart → List Char → Prop
  /-- A character that stands for itself. -/
  | itself {character : Char} (unquoted : character ≠ '"') (unescaped : character ≠ '\\')
      (visible : 32 ≤ character.toNat) : Spelled (.plain character) [character]
  /-- A character by its short escape. -/
  | short {name character : Char} (known : Written.shortEscape? name = some character) :
      Spelled (.plain character) ['\\', name]
  /-- A UTF-16 unit by four hexadecimal digits. -/
  | code {first second third fourth : Char} {value : Nat}
      (digits : hexNumber? 0 [first, second, third, fourth] = some value) :
      Spelled (.unit value) ['\\', 'u', first, second, third, fourth]

/-- What stands between the quotation marks of a literal. -/
inductive AllSpelled : List StringPart → List Char → Prop
  /-- An empty literal. -/
  | nil : AllSpelled [] []
  /-- One part after another. -/
  | cons {part : StringPart} {parts : List StringPart} {text rest : List Char}
      (first : part.Spelled text) (others : AllSpelled parts rest) :
      AllSpelled (part :: parts) (text ++ rest)

end StringPart

namespace NumberLiteral

/-- The text of the fraction of a number. -/
inductive FractionSpelled : Option (List Char) → List Char → Prop
  /-- No fraction. -/
  | absent : FractionSpelled none []
  /-- Digits behind a point. -/
  | present {digits : List Char} (some_ : digits ≠ [])
      (all : ∀ character ∈ digits, character.isDigit = true) :
      FractionSpelled (some digits) ('.' :: digits)

/-- The sign of an exponent, which may be left out where it is not a minus. -/
inductive SignSpelled : Bool → List Char → Prop
  /-- A minus sign. -/
  | minus : SignSpelled true ['-']
  /-- A plus sign. -/
  | plus : SignSpelled false ['+']
  /-- No sign. -/
  | absent : SignSpelled false []

/-- The text of the exponent of a number. -/
inductive ExponentSpelled : Option (Bool × List Char) → List Char → Prop
  /-- No exponent. -/
  | absent : ExponentSpelled none []
  /-- A marker, a sign, and digits. -/
  | present {marker : Char} {negative : Bool} {sign digits : List Char}
      (marked : marker = 'e' ∨ marker = 'E') (signed : SignSpelled negative sign)
      (some_ : digits ≠ []) (all : ∀ character ∈ digits, character.isDigit = true) :
      ExponentSpelled (some (negative, digits)) (marker :: (sign ++ digits))

/-- The minus sign of a number, if it has one. -/
def minus (negative : Bool) : List Char :=
  if negative then ['-'] else []

/-- The text of a number. -/
inductive Spelled : NumberLiteral → List Char → Prop
  /-- A sign, digits without a leading zero, a fraction, and an exponent. -/
  | intro {negative : Bool} {whole fractionText exponentText : List Char}
      {fraction : Option (List Char)} {exponent : Option (Bool × List Char)}
      (all : ∀ character ∈ whole, character.isDigit = true)
      (leading : Written.isWhole whole = true) (fractional : FractionSpelled fraction fractionText)
      (scaled : ExponentSpelled exponent exponentText) :
      Spelled ⟨negative, whole, fraction, exponent⟩
        (minus negative ++ whole ++ fractionText ++ exponentText)

end NumberLiteral

namespace Written

-- The recursion is mutual: a document holds items and members, which hold documents again.
mutual

/-- A text that spells a document, without space around it. -/
inductive Spelled : Written → List Char → Prop
  /-- The word of the null. -/
  | isNull : Spelled .null ['n', 'u', 'l', 'l']
  /-- The word of the truth. -/
  | isTrue : Spelled (.bool true) ['t', 'r', 'u', 'e']
  /-- The word of the falsehood. -/
  | isFalse : Spelled (.bool false) ['f', 'a', 'l', 's', 'e']
  /-- A number. -/
  | number {literal : NumberLiteral} {text : List Char} (spelled : literal.Spelled text) :
      Spelled (.number literal) text
  /-- Parts between quotation marks. -/
  | string {parts : List StringPart} {text : List Char}
      (spelled : StringPart.AllSpelled parts text) :
      Spelled (.string parts) ('"' :: (text ++ ['"']))
  /-- Brackets around space alone. -/
  | noItems {space : List Char} (blank : OnlySpace space) :
      Spelled (.array []) ('[' :: (space ++ [']']))
  /-- Brackets around items. -/
  | array {items : List Written} {text : List Char} (spelled : ItemsSpelled items text) :
      Spelled (.array items) ('[' :: (text ++ [']']))
  /-- Braces around space alone. -/
  | noMembers {space : List Char} (blank : OnlySpace space) :
      Spelled (.object []) ('\x7b' :: (space ++ ['\x7d']))
  /-- Braces around members. -/
  | object {members : List (List StringPart × Written)} {text : List Char}
      (spelled : MembersSpelled members text) :
      Spelled (.object members) ('\x7b' :: (text ++ ['\x7d']))

/-- A text that spells the items of an array, at least one, with commas between them. -/
inductive ItemsSpelled : List Written → List Char → Prop
  /-- The last item has no comma behind it. -/
  | last {item : Written} {before text after : List Char} (space : OnlySpace before)
      (spelled : Spelled item text) (moreSpace : OnlySpace after) :
      ItemsSpelled [item] (before ++ (text ++ after))
  /-- Behind an item and a comma stand the others. -/
  | cons {item : Written} {items : List Written} {before text after rest : List Char}
      (space : OnlySpace before) (spelled : Spelled item text) (moreSpace : OnlySpace after)
      (others : ItemsSpelled items rest) :
      ItemsSpelled (item :: items) (before ++ (text ++ (after ++ ',' :: rest)))

/-- A text that spells the members of an object, at least one, with commas between them. -/
inductive MembersSpelled : List (List StringPart × Written) → List Char → Prop
  /-- The last member has no comma behind it. -/
  | last {member : List StringPart × Written} {before text after : List Char}
      (space : OnlySpace before) (spelled : MemberSpelled member text)
      (moreSpace : OnlySpace after) : MembersSpelled [member] (before ++ (text ++ after))
  /-- Behind a member and a comma stand the others. -/
  | cons {member : List StringPart × Written} {members : List (List StringPart × Written)}
      {before text after rest : List Char} (space : OnlySpace before)
      (spelled : MemberSpelled member text) (moreSpace : OnlySpace after)
      (others : MembersSpelled members rest) :
      MembersSpelled (member :: members) (before ++ (text ++ (after ++ ',' :: rest)))

/-- A text that spells a member of an object, without space around it. -/
inductive MemberSpelled : List StringPart × Written → List Char → Prop
  /-- A key between quotation marks, a colon, and a value. -/
  | intro {key : List StringPart} {value : Written} {keyText between before text : List Char}
      (named : StringPart.AllSpelled key keyText) (space : OnlySpace between)
      (moreSpace : OnlySpace before) (spelled : Spelled value text) :
      MemberSpelled (key, value) ('"' :: (keyText ++ '"' :: (between ++ ':' :: (before ++ text))))

end

end Written

end RecordFilter
