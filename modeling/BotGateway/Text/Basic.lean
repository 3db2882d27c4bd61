/-! Text as a list of code points, lone surrogates included, and byte strings.
Normalisation and collation are not covered. -/
namespace BotGateway

abbrev CodePoint := Fin 0x110000

abbrev Text := List CodePoint

abbrev Bytes := List UInt8

def CodePoint.ofNat (n : Nat) : CodePoint := ⟨n % 0x110000,Nat.mod_lt n (by decide)⟩

def CodePoint.ofChar (c : Char) : CodePoint := .ofNat c.toNat

def Text.ofString (s : String) : Text := s.toList.map CodePoint.ofChar

instance : Coe Char CodePoint := ⟨CodePoint.ofChar⟩

instance : Coe String Text := ⟨Text.ofString⟩

def ascii (s : String) : Bytes := s.toList.map fun c => UInt8.ofNat c.toNat

namespace Text

def trim (drop : α → Bool) (items : List α) : List α :=
  ((items.dropWhile drop).reverse.dropWhile drop).reverse

def trimEnd (drop : α → Bool) (items : List α) : List α :=
  (items.reverse.dropWhile drop).reverse

def splitFirst [BEq α] (separator : α) : List α → Option (List α × List α)
  | [] => none
  | x :: rest =>
    if x == separator then some ([],rest)
    else (splitFirst separator rest).map fun (before,after) => (x :: before,after)

def splitLast [BEq α] (separator : α) (items : List α) : Option (List α × List α) :=
  (splitFirst separator items.reverse).map fun (after,before) => (before.reverse,after.reverse)

def splitAll [BEq α] (separator : α) : List α → List (List α)
  | [] => [[]]
  | x :: rest =>
    if x == separator then [] :: splitAll separator rest
    else match splitAll separator rest with
      | piece :: pieces => (x :: piece) :: pieces
      | [] => [[x]]

def hasPiece [BEq α] (piece : List α) : List α → Bool
  | [] => piece.isEmpty
  | x :: rest => piece.isPrefixOf (x :: rest) || hasPiece piece rest

/-- Replaces the leftmost non-overlapping places of a non-empty `old`; `covered` counts the
members that belong to a place already replaced. -/
def replaceFrom [BEq α] (old new : List α) (covered : Nat) : List α → List α
  | [] => []
  | x :: rest =>
    match covered with
    | n + 1 => replaceFrom old new n rest
    | 0 =>
      if old.isPrefixOf (x :: rest) then new ++ replaceFrom old new (old.length - 1) rest
      else x :: replaceFrom old new 0 rest

def replaceAll [BEq α] (old new items : List α) : List α := replaceFrom old new 0 items

def join (separator : List α) : List (List α) → List α
  | [] => []
  | [piece] => piece
  | piece :: next :: pieces => piece ++ separator ++ join separator (next :: pieces)

def precedes : Text → Text → Bool
  | [], _ => true
  | _ :: _, [] => false
  | x :: xs, y :: ys => if x == y then precedes xs ys else x < y

def baseName (path : Text) : Text :=
  (path.reverse.takeWhile fun c => c != ('/' : CodePoint)).reverse

end Text
end BotGateway
