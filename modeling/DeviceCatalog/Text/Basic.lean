/-!
# Blanks, segments and lines

The blanks that may surround a word are Unicode's `White_Space` characters.
Trimming removes them from both ends of a text, and the indentation of a line
is the number of bytes that its leading blanks take in UTF-8.

A separator cuts a text into one segment more than it has separators. Joining
the segments with the separator gives the text back, and joining words that do
not hold the separator and cutting again gives the words back.

A line feed ends a line. Text after the last line feed is a line of its own,
so the final line feed of a file may be left out.
-/
namespace DeviceCatalog.Text

/-- Membership in Unicode's `White_Space` property. -/
def isBlank (c : Char) : Bool :=
  let n := c.toNat
  (0x09 ≤ n && n ≤ 0x0d) || n == 0x20 || n == 0x85 || n == 0xa0 || n == 0x1680 ||
    (0x2000 ≤ n && n ≤ 0x200a) || n == 0x2028 || n == 0x2029 || n == 0x202f ||
    n == 0x205f || n == 0x3000

def stripStart (cs : List Char) : List Char := cs.dropWhile isBlank

def stripEnd (cs : List Char) : List Char := (cs.reverse.dropWhile isBlank).reverse

/-- The characters between the leading and the trailing blanks. -/
def strip (cs : List Char) : List Char := stripEnd (stripStart cs)

@[simp] theorem strip_nil : strip [] = [] := rfl

theorem stripStart_of_head {c : Char} (h : isBlank c = false) (cs : List Char) :
    stripStart (c :: cs) = c :: cs := by
  simp [stripStart, h]

def trim (s : String) : String := String.ofList (strip s.toList)

@[simp] theorem toList_trim (s : String) : (trim s).toList = strip s.toList := by
  simp [trim]

/-- The indentation of a line, in bytes of its leading blanks. -/
def indent (s : String) : Nat := (String.ofList (s.toList.takeWhile isBlank)).utf8ByteSize

/-- The segments of a text between the separators, empty ones included. -/
def segments (separator : Char) (s : String) : List String :=
  (s.toList.splitOn separator).map String.ofList

def joinWith (separator : Char) (words : List String) : String :=
  String.ofList ([separator].intercalate (words.map String.toList))

theorem segments_ne_nil (separator : Char) (s : String) : segments separator s ≠ [] := by
  simp [segments, List.splitOn_ne_nil]

@[simp] theorem joinWith_segments (separator : Char) (s : String) :
    joinWith separator (segments separator s) = s := by
  simp [joinWith, segments, Function.comp_def, List.intercalate_splitOn]

theorem segments_joinWith {separator : Char} {words : List String}
    (h : ∀ word ∈ words, separator ∉ word.toList) (ne : words ≠ []) :
    segments separator (joinWith separator words) = words := by
  have hsplit : ([separator].intercalate (words.map String.toList)).splitOn separator =
      words.map String.toList := by
    refine List.splitOn_intercalate separator ?_ (by simpa using ne)
    simpa using h
  simp [segments, joinWith, hsplit, Function.comp_def]

def filledSegments (separator : Char) (s : String) : List String :=
  (segments separator s).filter (· ≠ "")

def dropEmptyLast : List String → List String
  | [] => []
  | [word] => if word = "" then [] else [word]
  | word :: next :: rest => word :: dropEmptyLast (next :: rest)

theorem dropEmptyLast_append_empty (words : List String) : dropEmptyLast (words ++ [""]) = words := by
  induction words with
  | nil => rfl
  | cons word rest ih => cases rest <;> simp_all [dropEmptyLast]

theorem dropEmptyLast_append {word : String} (h : word ≠ "") (words : List String) :
    dropEmptyLast (words ++ [word]) = words ++ [word] := by
  induction words with
  | nil => simp [dropEmptyLast, h]
  | cons first rest ih => cases rest <;> simp_all [dropEmptyLast]

/-- The segments of a text whose last word may be followed by a separator, too. -/
def terminatedSegments (separator : Char) (s : String) : List String :=
  dropEmptyLast (segments separator s)

/-- The lines of a text, without the line feeds. A carriage return before a
line feed stays on its line, where it counts as a trailing blank. -/
def lines (s : String) : List String := terminatedSegments '\n' s

/-- The text that has these lines, each ended by a line feed. -/
def unlines (ls : List String) : String := joinWith '\n' (ls ++ [""])

theorem lines_unlines {ls : List String} (h : ∀ line ∈ ls, '\n' ∉ line.toList) :
    lines (unlines ls) = ls := by
  have hlf : ∀ line ∈ ls ++ [""], '\n' ∉ line.toList := by
    intro line hline
    rcases List.mem_append.1 hline with hline | hline
    · exact h line hline
    · simp_all
  rw [lines, terminatedSegments, unlines, segments_joinWith hlf (by simp), dropEmptyLast_append_empty]

end DeviceCatalog.Text
