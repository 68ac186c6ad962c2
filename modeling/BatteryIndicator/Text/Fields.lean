/-!
# Fields — a text cut at its first separators
-/
namespace BatteryIndicator
namespace Text

/-- The pieces of a text between its first `cuts` separators; the last piece holds the rest, further separators
included. -/
def fields (separator : Char) : Nat → List Char → List (List Char)
  | _, [] => [[]]
  | 0, s => [s]
  | cuts + 1, c :: s =>
    if c = separator then [] :: fields separator cuts s
    else
      match fields separator (cuts + 1) s with
      | [] => [[c]]
      | f :: fs => (c :: f) :: fs

end Text
end BatteryIndicator
