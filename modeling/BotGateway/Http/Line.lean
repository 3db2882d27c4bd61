import BotGateway.Text.Basic

/-! Lines of a byte stream. A line ends with its line feed, at a length limit or at the end of the
stream. -/
namespace BotGateway.Http

def lineFeed : UInt8 := 10

def readLine : Nat → Bytes → Bytes × Bytes
  | 0, stream => ([],stream)
  | _ + 1, [] => ([],[])
  | limit + 1, b :: rest =>
    if b = lineFeed then ([b],rest)
    else
      let (line,after) := readLine limit rest
      (b :: line,after)

def endsLine (line : Bytes) : Bool := line.getLast? == some lineFeed

def isEmptyLine (line : Bytes) : Bool := line == ascii "\r\n" || line == ascii "\n"

theorem readLine_append (limit : Nat) (stream : Bytes) :
    (readLine limit stream).1 ++ (readLine limit stream).2 = stream := by
  induction stream generalizing limit with
  | nil => cases limit <;> rfl
  | cons b rest ih =>
    cases limit with
    | zero => rfl
    | succ limit => by_cases h : b = lineFeed <;> simp [readLine,h,ih]

theorem readLine_rest_length_le (limit : Nat) (stream : Bytes) :
    (readLine limit stream).2.length ≤ stream.length := by
  have h := congrArg List.length (readLine_append limit stream)
  simp only [List.length_append] at h
  omega

theorem readLine_rest_length_lt {limit : Nat} {stream : Bytes}
    (h : (readLine limit stream).1 ≠ []) :
    (readLine limit stream).2.length < stream.length := by
  have total := congrArg List.length (readLine_append limit stream)
  have positive := List.length_pos_iff.mpr h
  simp only [List.length_append] at total
  omega

theorem ne_nil_of_endsLine {line : Bytes} (h : endsLine line = true) : line ≠ [] := by
  rintro rfl
  simp [endsLine] at h

end BotGateway.Http
