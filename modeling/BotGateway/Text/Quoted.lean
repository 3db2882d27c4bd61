import BotGateway.Text.Class

/-! Quoted text and quoted bytes for messages: the quote is single unless only the double one is
absent, and what cannot be shown is escaped by its number. -/
namespace BotGateway.Quoted

def hexDigit (n : Nat) : CodePoint := CodePoint.ofNat (if n < 10 then 48 + n else 87 + n)

def hex : Nat → Nat → Text
  | 0, _ => []
  | width + 1, n => hex width (n / 16) ++ [hexDigit (n % 16)]

def escaped (c : CodePoint) : Text :=
  if c.val < 0x100 then "\\x" ++ hex 2 c.val
  else if c.val < 0x10000 then "\\u" ++ hex 4 c.val
  else "\\U" ++ hex 8 c.val

def quoteFor (content : Text) : CodePoint :=
  if content.contains ('\'' : CodePoint) && !content.contains ('"' : CodePoint) then '"' else '\''

def shown (quote : CodePoint) (visible : CodePoint → Bool) (c : CodePoint) : Text :=
  if c == quote || c == '\\' then ['\\',c]
  else if c == '\n' then "\\n"
  else if c == '\r' then "\\r"
  else if c == '\t' then "\\t"
  else if visible c then [c]
  else escaped c

def enclosed (visible : CodePoint → Bool) (content : Text) : Text :=
  let quote := quoteFor content
  [quote] ++ content.flatMap (shown quote visible) ++ [quote]

def text (content : Text) : Text := enclosed Class.isPrintable content

def latin (raw : Bytes) : Text := raw.map fun b => CodePoint.ofNat b.toNat

def bytes (raw : Bytes) : Text :=
  "b" ++ enclosed (fun c => 0x20 ≤ c.val && c.val < 0x7F) (latin raw)

def asciiOne (c : CodePoint) : Text := if c.val < 0x80 then [c] else escaped c

end BotGateway.Quoted
