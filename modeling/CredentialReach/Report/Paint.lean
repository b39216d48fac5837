import CredentialReach.Decimal.Shortest
import CredentialReach.Text.Search

/-! Text attributes and colors on a terminal. -/

namespace CredentialReach

/-- The codes that switch attributes on, in the order in which they are sent. -/
structure Paint where
  codes : List Nat
deriving DecidableEq, Repr

namespace Paint

def bold : Paint := ⟨[1]⟩
def dimmed : Paint := ⟨[2]⟩
def heading : Paint := ⟨[1, 4]⟩
def red : Paint := ⟨[31]⟩
def green : Paint := ⟨[32]⟩
def yellow : Paint := ⟨[33]⟩
def boldGreen : Paint := ⟨[1, 32]⟩
def label : Paint := ⟨[1, 44, 37]⟩
def warning : Paint := ⟨[1, 43, 30]⟩

def escape : Char := '\x1b'

def sequence (codes : List Nat) : List Char :=
  escape :: '[' :: Text.joinWith [';'] (codes.map Decimal.numeral) ++ ['m']

def reset : List Char := sequence [0]

/-- After each reset inside the text the attributes are switched on again. -/
def keepOn (start : List Char) (text : List Char) : List Char :=
  match text with
  | [] => []
  | c :: rest =>
    if reset.isPrefixOf (c :: rest) then
      reset ++ start ++ keepOn start (rest.drop (reset.length - 1))
    else c :: keepOn start rest
termination_by text.length
decreasing_by
  · simp only [List.length_drop, List.length_cons]
    omega
  · simp

def apply (paint : Paint) (colors : Bool) (text : String) : String :=
  if colors then
    let start := sequence paint.codes
    String.ofList (start ++ keepOn start text.toList ++ reset)
  else text

end Paint

end CredentialReach
