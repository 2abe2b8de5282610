import OnlineVoting.Forum

/-!
# The lines on the console

What the calls of `System.out` write, as text, and the lines that this text has. A line ends at any
of the separators that `Scanner.nextLine` knows, so no typed line holds one, and nothing that is
made of typed lines does.
-/
namespace OnlineVoting

open Interleaving

/-! ## Text -/

/-- The line separators of `Scanner`. -/
def lineBreak (c : Char) : Bool := c ∈ ['\n', '\r', '\u0085', '\u2028', '\u2029']

/-- `String.length`: the number of UTF-16 units. -/
def utf16Length (text : String) : Nat :=
  (text.toList.map fun c => if c.toNat < 0x10000 then 1 else 2).sum

/-- `%-20s`, for any width. -/
def padded (width : Nat) (text : String) : String :=
  text ++ String.ofList (List.replicate (width - utf16Length text) ' ')

/-- An argument of `printf` in decimal or as it is. -/
def Arg.written (timestamp : Nat → String) : Arg → String
  | .int value => toString value
  | .text value => value
  | .time seconds => timestamp seconds

/-- `String.format`, with the conversions that the program uses. -/
def format (timestamp : Nat → String) : List Char → List Arg → List Char
  | '%' :: 'n' :: rest, args => '\n' :: format timestamp rest args
  | '%' :: '-' :: '2' :: '0' :: 's' :: rest, arg :: args =>
    (padded 20 (arg.written timestamp)).toList ++ format timestamp rest args
  | '%' :: _ :: rest, arg :: args => (arg.written timestamp).toList ++ format timestamp rest args
  | c :: rest, args => c :: format timestamp rest args
  | [], _ => []

/-- What a call of `System.out` writes, where a `Timestamp` prints like this. -/
def Output.text (timestamp : Nat → String) : Output → List Char
  | .print text => text.toList
  | .println text => text.toList ++ ['\n']
  | .printf form args => format timestamp form.toList args

/-- The lines of what was printed; the last is the one that more output would continue. -/
def consoleLines (timestamp : Nat → String) (outputs : List Output) : List String :=
  ((outputs.flatMap (Output.text timestamp)).splitOnP lineBreak).map String.ofList

/-! ## Whole lines -/

/-- A text without line separators. -/
def OneLine (text : String) : Prop := ∀ c ∈ text.toList, lineBreak c = false

instance (text : String) : Decidable (OneLine text) :=
  List.decidableBAll (fun c => lineBreak c = false) text.toList

/-- Two texts without line separators have none together. -/
theorem OneLine.append {first second : String} (before : OneLine first) (after : OneLine second) :
    OneLine (first ++ second) := by
  intro c present
  rw [String.toList_append, List.mem_append] at present
  exact present.elim (before c) (after c)

/-- What is left of a line without its blanks is one line. -/
theorem OneLine.trim {text : String} (line : OneLine text) : OneLine (trim text) := by
  intro c present
  rw [OnlineVoting.trim, String.toList_ofList, List.mem_reverse] at present
  have front := (List.dropWhile_sublist _).mem present
  rw [List.mem_reverse] at front
  exact line c ((List.dropWhile_sublist _).mem front)

/-- Padding adds no line separator. -/
theorem OneLine.padded {text : String} (line : OneLine text) (width : Nat) :
    OneLine (padded width text) := by
  apply line.append
  intro c present
  rw [String.toList_ofList] at present
  rw [List.eq_of_mem_replicate present]
  decide

/-- The digits of a number. -/
theorem isDigit_of_mem_repr {n : Nat} {c : Char} (present : c ∈ (Nat.repr n).toList) :
    c.isDigit = true := by
  rw [Nat.toList_repr] at present
  exact Nat.isDigit_of_mem_toDigits (by decide) (by decide) present

/-- A number is one line. -/
theorem oneLine_repr (n : Nat) : OneLine (Nat.repr n) := by
  intro c present
  have digit := isDigit_of_mem_repr present
  have separators : ∀ c : Char, lineBreak c = true → c.isDigit = false := by
    intro c separates
    simp only [lineBreak, List.mem_cons, List.not_mem_nil, or_false, decide_eq_true_eq]
      at separates
    rcases separates with rfl | rfl | rfl | rfl | rfl <;> decide
  cases separates : lineBreak c with
  | false => rfl
  | true => simp [separators c separates] at digit

variable {timestamp : Nat → String}

/-- Outputs that write whole lines. -/
structure Writes (timestamp : Nat → String) (outputs : List Output) (lines : List String) :
    Prop where
  /-- The lines, each ended. -/
  text : outputs.flatMap (Output.text timestamp) =
    lines.flatMap fun line => line.toList ++ ['\n']
  /-- Each is one line. -/
  whole : ∀ line ∈ lines, OneLine line

/-- Nothing writes no line. -/
theorem Writes.nil : Writes timestamp [] [] := ⟨rfl, by simp⟩

/-- `println` of one line writes that line. -/
theorem Writes.println {text : String} (line : OneLine text) :
    Writes timestamp [.println text] [text] :=
  ⟨by simp [Output.text], by simpa using line⟩

/-- Outputs in order write their lines in order. -/
theorem Writes.append {first second : List Output} {before after : List String}
    (head : Writes timestamp first before) (tail : Writes timestamp second after) :
    Writes timestamp (first ++ second) (before ++ after) := by
  refine ⟨by rw [List.flatMap_append, List.flatMap_append, head.text, tail.text], ?_⟩
  intro line present
  exact (List.mem_append.mp present).elim (head.whole line) (tail.whole line)

/-- Outputs for each row write the lines of each row. -/
theorem Writes.flatMap {Row : Type} {outputs : Row → List Output} {lines : Row → List String}
    {rows : List Row} (each : ∀ row ∈ rows, Writes timestamp (outputs row) (lines row)) :
    Writes timestamp (rows.flatMap outputs) (rows.flatMap lines) := by
  induction rows with
  | nil => exact .nil
  | cons row rows ih =>
    rw [List.flatMap_cons, List.flatMap_cons]
    exact (each row List.mem_cons_self).append
      (ih fun other present => each other (List.mem_cons_of_mem row present))

/-- Whole lines are the lines of the console, and the next line is empty. -/
theorem Writes.lines {outputs : List Output} {lines : List String}
    (writes : Writes timestamp outputs lines) :
    consoleLines timestamp outputs = lines ++ [""] := by
  have split (lines : List String) (whole : ∀ line ∈ lines, OneLine line) :
      (lines.flatMap fun line => line.toList ++ ['\n']).splitOnP lineBreak =
        lines.map String.toList ++ [[]] := by
    induction lines with
    | nil => rfl
    | cons line lines ih =>
      have rest := ih fun other present => whole other (List.mem_cons_of_mem line present)
      rw [List.flatMap_cons, List.append_assoc, List.singleton_append,
        List.splitOnP_append_cons_of_forall_mem (whole line List.mem_cons_self) '\n' (by decide), rest]
      rfl
  rw [consoleLines, writes.text, split lines writes.whole, List.map_append, List.map_map]
  simp [Function.comp_def]

/-! ## Typed lines -/

variable [Platform]

/-- The lines typed at any console. -/
def typedLines (log : List (Entry app)) : List String :=
  log.filterMap fun entry => match entry.action with
    | .typed line => some line
    | _ => none

/-- `Scanner.nextLine` returns single lines. -/
def ScansLines (log : List (Entry app)) : Prop := ∀ line ∈ typedLines log, OneLine line

instance (log : List (Entry app)) : Decidable (ScansLines log) :=
  List.decidableBAll OneLine (typedLines log)

/-- A line that a process read is one line. -/
theorem ScansLines.read {newer older : List (Entry app)} {entry : Entry app}
    (scans : ScansLines (newer ++ entry :: older)) {process : Nat} {line : String}
    (read : line ∈ linesOf process older) : OneLine line := by
  apply scans
  obtain ⟨found, present, typed⟩ := List.mem_filterMap.mp read
  refine List.mem_filterMap.mpr ⟨found, ?_, ?_⟩
  · exact List.mem_append_right _ (List.mem_cons_of_mem _ present)
  · split at typed
    · rename_i action
      split at typed
      · rw [action]
        exact typed
      · contradiction
    · contradiction

end OnlineVoting
