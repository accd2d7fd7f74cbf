/-! General categories of characters, and the names that patterns know them by. -/

namespace RecordFilter

/-- The general category of a character, under its two-letter name. -/
inductive Category
  /-- Uppercase letters. -/
  | lu
  /-- Lowercase letters. -/
  | ll
  /-- Titlecase letters. -/
  | lt
  /-- Modifier letters. -/
  | lm
  /-- Other letters. -/
  | lo
  /-- Nonspacing marks. -/
  | mn
  /-- Spacing marks. -/
  | mc
  /-- Enclosing marks. -/
  | me
  /-- Decimal numbers. -/
  | nd
  /-- Letter numbers. -/
  | nl
  /-- Other numbers. -/
  | no
  /-- Connector punctuation. -/
  | pc
  /-- Dash punctuation. -/
  | pd
  /-- Opening punctuation. -/
  | ps
  /-- Closing punctuation. -/
  | pe
  /-- Initial quotation marks. -/
  | pi
  /-- Final quotation marks. -/
  | pf
  /-- Other punctuation. -/
  | po
  /-- Mathematical symbols. -/
  | sm
  /-- Currency symbols. -/
  | sc
  /-- Modifier symbols. -/
  | sk
  /-- Other symbols. -/
  | so
  /-- Space separators. -/
  | zs
  /-- Line separators. -/
  | zl
  /-- Paragraph separators. -/
  | zp
  /-- Control characters. -/
  | cc
  /-- Format characters. -/
  | cf
  /-- Surrogates. -/
  | cs
  /-- Private use. -/
  | co
  /-- Unassigned codes. -/
  | cn
deriving DecidableEq

namespace Category

/-- The categories of letters. -/
def letters : List Category := [lu, ll, lt, lm, lo]

/-- The categories of marks. -/
def marks : List Category := [mn, mc, me]

/-- The categories of numbers. -/
def numbers : List Category := [nd, nl, no]

/-- The categories of punctuation. -/
def punctuation : List Category := [pc, pd, ps, pe, pi, pf, po]

/-- The categories of symbols. -/
def symbols : List Category := [sm, sc, sk, so]

/-- The categories of separators. -/
def separators : List Category := [zs, zl, zp]

/-- The categories of control characters and of codes without a character. -/
def others : List Category := [cc, cf, cs, co, cn]

/-- The categories behind a name in small letters, without spaces, hyphens and underscores. -/
def named? : String → Option (List Category)
  | "lu" | "uppercaseletter" => some [lu]
  | "ll" | "lowercaseletter" => some [ll]
  | "lt" | "titlecaseletter" => some [lt]
  | "lc" | "casedletter" => some [lu, ll, lt]
  | "lm" | "modifierletter" => some [lm]
  | "lo" | "otherletter" => some [lo]
  | "l" | "letter" => some letters
  | "mn" | "nonspacingmark" => some [mn]
  | "mc" | "spacingmark" => some [mc]
  | "me" | "enclosingmark" => some [me]
  | "m" | "mark" | "combiningmark" => some marks
  | "nd" | "decimalnumber" | "digit" => some [nd]
  | "nl" | "letternumber" => some [nl]
  | "no" | "othernumber" => some [no]
  | "n" | "number" => some numbers
  | "pc" | "connectorpunctuation" => some [pc]
  | "pd" | "dashpunctuation" => some [pd]
  | "ps" | "openpunctuation" => some [ps]
  | "pe" | "closepunctuation" => some [pe]
  | "pi" | "initialpunctuation" => some [pi]
  | "pf" | "finalpunctuation" => some [pf]
  | "po" | "otherpunctuation" => some [po]
  | "p" | "punctuation" | "punct" => some punctuation
  | "sm" | "mathsymbol" => some [sm]
  | "sc" | "currencysymbol" => some [sc]
  | "sk" | "modifiersymbol" => some [sk]
  | "so" | "othersymbol" => some [so]
  | "s" | "symbol" => some symbols
  | "zs" | "spaceseparator" => some [zs]
  | "zl" | "lineseparator" => some [zl]
  | "zp" | "paragraphseparator" => some [zp]
  | "z" | "separator" => some separators
  | "cc" | "control" | "cntrl" => some [cc]
  | "cf" | "format" => some [cf]
  | "cs" | "surrogate" => some [cs]
  | "co" | "privateuse" => some [co]
  | "cn" | "unassigned" => some [cn]
  | "c" | "other" => some others
  | _ => none

end Category

end RecordFilter
