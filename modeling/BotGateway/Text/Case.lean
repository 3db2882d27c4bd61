import BotGateway.Text.Basic

/-! Letter case as far as it can produce ASCII letters. A character whose other case lies outside
ASCII is kept, so the results are meant for comparison with ASCII names. -/
namespace BotGateway.Case

def asciiUpper (c : CodePoint) : CodePoint :=
  if 0x61 ≤ c.val && c.val ≤ 0x7A then CodePoint.ofNat (c.val - 32) else c

def asciiLower (c : CodePoint) : CodePoint :=
  if 0x41 ≤ c.val && c.val ≤ 0x5A then CodePoint.ofNat (c.val + 32) else c

/-- Characters outside ASCII whose capitals are ASCII letters: sharp s, dotless i, long s and the
Latin ligatures. -/
def foreignCapitals : List (Nat × String) :=
  [(0xDF,"SS"),(0x131,"I"),(0x17F,"S"),(0xFB00,"FF"),(0xFB01,"FI"),(0xFB02,"FL"),(0xFB03,"FFI"),
    (0xFB04,"FFL"),(0xFB05,"ST"),(0xFB06,"ST")]

/-- Characters outside ASCII whose small letters begin with an ASCII letter: the dotted capital I,
which becomes an i and a combining dot, and the kelvin sign. -/
def foreignSmall : List (Nat × Text) := [(0x130,[.ofNat 0x69,.ofNat 0x307]),(0x212A,[.ofNat 0x6B])]

def upperOne (c : CodePoint) : Text :=
  match foreignCapitals.find? (·.1 == c.val) with
  | some (_,capitals) => capitals
  | none => [asciiUpper c]

def lowerOne (c : CodePoint) : Text :=
  match foreignSmall.find? (·.1 == c.val) with
  | some (_,small) => small
  | none => [asciiLower c]

def upper (text : Text) : Text := text.flatMap upperOne

def lower (text : Text) : Text := text.flatMap lowerOne

end BotGateway.Case
