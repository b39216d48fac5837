import CredentialReach.Decimal.Literal
import CredentialReach.Text.Percent

/-! How a text is written in YAML: plain where it cannot be taken for anything
else, and otherwise in quotes or as a block of lines. -/

namespace CredentialReach.Yaml

open Text

/-! Texts that a reader would take for another kind of value. -/

def otherWords : List String :=
  ["", "null", "Null", "NULL", "~", "true", "True", "TRUE", "false", "False", "FALSE",
   ".inf", ".Inf", ".INF", "+.inf", "+.Inf", "+.INF", "-.inf", "-.Inf", "-.INF",
   ".nan", ".NaN", ".NAN"]

/-- Digits after a needless zero: no number, but too much like one. -/
def isPaddedInteger (text : List Char) : Bool :=
  let digits := match text with
    | '-' :: rest | '+' :: rest => rest
    | _ => text
  match digits with
  | '0' :: c :: rest => (c :: rest).all Char.isDigit
  | _ => false

def digitsIn (base : Nat) (digits : List Char) : Option Nat :=
  if digits.isEmpty then none
  else digits.foldlM (fun n c =>
    match hexDigit? c with
    | some digit => if digit < base then some (n * base + digit) else none
    | none => none) 0

/-- The value of digits in the base that their first two characters name. -/
def basedValue? : List Char → Option Nat
  | '0' :: 'x' :: digits => digitsIn 16 digits
  | '0' :: 'o' :: digits => digitsIn 8 digits
  | '0' :: 'b' :: digits => digitsIn 2 digits
  | _ => none

/-- Integers in another base, of at most 128 bits. -/
def isBasedInteger (text : List Char) : Bool :=
  match text with
  | '-' :: rest => (basedValue? rest).any (· ≤ Nat.pow 2 127)
  | '+' :: rest => (basedValue? rest).any (· < Nat.pow 2 128)
  | _ => (basedValue? text).any (· < Nat.pow 2 128)

/-- Decimal numbers with a finite value. -/
def isDecimal (text : List Char) : Bool :=
  let unsigned := match text with
    | '+' :: rest => if rest.head? = some '-' || rest.head? = some '+' then [] else rest
    | _ => text
  ((Decimal.Literal.read? unsigned).bind (·.value?)).isSome

def readsAsOther (text : List Char) : Bool :=
  otherWords.contains (String.ofList text) || isPaddedInteger text || isBasedInteger text ||
    isDecimal text

/-! What the characters of a text allow. -/

def isPrintable (c : Char) : Bool :=
  let n := c.toNat
  n == 0x0A || (0x20 ≤ n && n ≤ 0x7E) || (0xA0 ≤ n && n != 0xFEFF && n != 0xFFFE && n != 0xFFFF)

def isBreak (c : Char) : Bool :=
  c == '\n' || c == '\r' || c == '\u0085' || c == '\u2028' || c == '\u2029'

/-- White space, and what counts as such: the end of the text. -/
def isGap : Option Char → Bool
  | none => true
  | some c => c == ' ' || c == '\t' || c == '\x00' || isBreak c

/-- Characters that mean something at the start of a value. -/
def startMarks : List Char := "#,[]\x7b\x7d&*!|>'\"%@\x60".toList

/-- Whether `c` between its neighbours would be read as a mark. -/
def isMark (before : Option Char) (c : Char) (after : Option Char) : Bool :=
  match before with
  | none => startMarks.contains c || ((c == '?' || c == ':' || c == '-') && isGap after)
  | some before => (c == ':' && isGap after) || (c == '#' && isGap (some before))

def hasMark : (before : Option Char) → List Char → Bool
  | _, [] => false
  | before, c :: rest => isMark before c rest.head? || hasMark (some c) rest

def startsDocument (text : List Char) : Bool :=
  "---".toList.isPrefixOf text || "...".toList.isPrefixOf text

/-- Whether two characters in a row are as `first` and `second` say. -/
def hasPair (first second : Char → Bool) : List Char → Bool
  | a :: b :: rest => (first a && second b) || hasPair first second (b :: rest)
  | _ => false

def isSpaceChar (c : Char) : Bool := c == ' '

/-- Only escapes can show the text. -/
def needsEscapes (text : List Char) : Bool :=
  !text.all isPrintable || hasPair isSpaceChar isBreak text

def hasOuterGap (text : List Char) : Bool :=
  let isOuter (c : Char) : Bool := isSpaceChar c || isBreak c
  text.head?.any isOuter || text.getLast?.any isOuter

def allowsPlain (text : List Char) : Bool :=
  !needsEscapes text && !hasOuterGap text && !text.any isBreak && !startsDocument text &&
    !hasMark none text

def allowsSingleQuotes (text : List Char) : Bool :=
  !needsEscapes text && !hasPair isBreak isSpaceChar text

def allowsBlock (text : List Char) : Bool :=
  !needsEscapes text && !text.getLast?.any isSpaceChar

/-! The ways of writing a text. -/

inductive ScalarStyle where
  | plain
  | singleQuoted
  | doubleQuoted
  /-- Line by line, below the place it belongs to. -/
  | block
deriving DecidableEq, Repr

/-- The style of a text; `onOneLine` where there is no room for a block. -/
def ScalarStyle.choose (onOneLine : Bool) (text : List Char) : ScalarStyle :=
  if text.contains '\n' then
    if allowsBlock text && !onOneLine then block else doubleQuoted
  else if onOneLine && text.any isBreak then doubleQuoted
  else if !readsAsOther text && allowsPlain text then plain
  else if allowsSingleQuotes text then singleQuoted
  else doubleQuoted

/-- The text within single quotes: a quote is written twice, and what follows
line breaks, be it only the closing quote, is indented. -/
def singleQuotedBody (indent : Nat) : (afterBreak : Bool) → List Char → List Char
  | afterBreak, [] => if afterBreak then List.replicate indent ' ' else []
  | afterBreak, c :: rest =>
    if isBreak c then c :: singleQuotedBody indent true rest
    else (if afterBreak then List.replicate indent ' ' else []) ++
      (if c = '\'' then ['\'', '\''] else [c]) ++ singleQuotedBody indent false rest

def hexPadded (width n : Nat) : List Char :=
  (List.range width).reverse.map fun place => upperHexDigit (n / Nat.pow 16 place % 16)

/-- The letter that stands for a character after a backslash. -/
def shortEscape? (c : Char) : Option Char :=
  [('\x00', '0'), ('\x07', 'a'), ('\x08', 'b'), ('\t', 't'), ('\n', 'n'), ('\x0b', 'v'),
   ('\x0c', 'f'), ('\r', 'r'), ('\x1b', 'e'), ('"', '"'), ('\\', '\\'), ('\u0085', 'N'),
   ('\u2028', 'L'), ('\u2029', 'P')].lookup c

def doubleQuotedChar (c : Char) : List Char :=
  match shortEscape? c with
  | some letter => ['\\', letter]
  | none =>
    if isPrintable c then [c]
    else if c.toNat ≤ 0xFF then '\\' :: 'x' :: hexPadded 2 c.toNat
    else '\\' :: 'u' :: hexPadded 4 c.toNat

/-- The lines of a block, each one indented unless it is empty. -/
def blockLines (indent : Nat) : (atStart : Bool) → List Char → List Char
  | _, [] => []
  | atStart, c :: rest =>
    if isBreak c then c :: blockLines indent true rest
    else (if atStart then List.replicate indent ' ' else []) ++ c :: blockLines indent false rest

/-- How a reader is to find the indentation and to treat the last line breaks. -/
def blockHeader (text : List Char) : List Char :=
  let indentation := if text.head?.any fun c => isSpaceChar c || isBreak c then ['2'] else []
  let ending := match text.reverse with
    | [] => ['-']
    | last :: rest =>
      if !isBreak last then ['-'] else if rest.head?.all isBreak then ['+'] else []
  '|' :: indentation ++ ending

/-- The text in its place, where further lines are indented; a block ends its
last line itself. -/
def scalarText (onOneLine : Bool) (indent : Nat) (text : List Char) : List Char :=
  match ScalarStyle.choose onOneLine text with
  | .plain => text
  | .singleQuoted => '\'' :: singleQuotedBody indent false text ++ ['\'']
  | .doubleQuoted => '"' :: text.flatMap doubleQuotedChar ++ ['"']
  | .block => blockHeader text ++ '\n' :: blockLines indent true text

def endLine (scalar : List Char) : List Char :=
  if scalar.getLast?.any isBreak then scalar else scalar ++ ['\n']

end CredentialReach.Yaml
