import Banter.Reading

/-!
# Scanning a text

The symbols of a text can be told run by run, with no state but the characters that are left. A longest run of
word characters is a word, or the start of an address if it is a scheme and a colon follows.
-/

namespace Banter

theorem Mark.isWordChar_char (kind : Mark) : Symbol.isWordChar kind.char = false := by
  cases kind <;> decide

/-- How far a text is scanned: the characters that are left, or nothing after the stop. -/
inductive Scanning where
  | ongoing (rest : List Char)
  | ended

namespace Scanning

def start (text : String) : Scanning :=
  if text = "" then ended else ongoing text.toList

/-- The number of symbols that may still come is at most this. -/
def measure : Scanning → Nat
  | ongoing rest => rest.length + 1
  | ended => 0

def isScheme (run : List Char) : Bool :=
  run == ['h', 't', 't', 'p'] || run == ['h', 't', 't', 'p', 's']

/-- The symbol that a run of word characters begins, and what is left after it. An address goes on to the
next blank character. -/
def afterRun (run : List Char) : List Char → Symbol × Scanning
  | ':' :: rest =>
    if isScheme run then
      (.address (String.ofList (run ++ ':' :: rest.takeWhile (!Text.isBlank ·))),
        ongoing (rest.dropWhile (!Text.isBlank ·)))
    else
      (.word (String.ofList (Text.upperChars run)), ongoing (':' :: rest))
  | rest => (.word (String.ofList (Text.upperChars run)), ongoing rest)

/-- The first symbol among characters, and what is left after it. -/
def scan : List Char → Symbol × Scanning
  | [] => (.stop, ended)
  | c :: rest =>
    if Symbol.isWordChar c then
      afterRun (c :: rest.takeWhile Symbol.isWordChar) (rest.dropWhile Symbol.isWordChar)
    else
      match Mark.ofChar? c with
      | some mark => (.mark mark, ongoing rest)
      | none => scan rest

def next? : Scanning → Option (Symbol × Scanning)
  | ongoing rest => some (scan rest)
  | ended => none

theorem measure_afterRun_le (run rest : List Char) :
    (afterRun run rest).2.measure ≤ rest.length + 1 := by
  unfold afterRun
  split
  · split
    · have := (List.dropWhile_sublist (fun c => !Text.isBlank c) (l := ‹List Char›)).length_le
      simp only [measure, List.length_cons]
      omega
    · simp [measure]
  · simp [measure]

theorem measure_scan_le (rest : List Char) : (scan rest).2.measure ≤ rest.length := by
  induction rest with
  | nil => simp [scan, measure]
  | cons c rest ih =>
    rw [scan]
    split
    · have hrun := measure_afterRun_le (c :: rest.takeWhile Symbol.isWordChar)
        (rest.dropWhile Symbol.isWordChar)
      have hdrop := (List.dropWhile_sublist Symbol.isWordChar (l := rest)).length_le
      simp only [List.length_cons]
      omega
    · split
      · simp [measure]
      · simp only [List.length_cons]
        omega

def symbols : Scanning → List Symbol
  | ended => []
  | ongoing rest =>
    have := measure_scan_le rest
    (scan rest).1 :: (scan rest).2.symbols
termination_by state => state.measure
decreasing_by exact Nat.lt_succ_of_le this

@[simp] theorem symbols_ended : ended.symbols = [] := by
  rw [symbols]

theorem symbols_ongoing (rest : List Char) :
    (ongoing rest).symbols = (scan rest).1 :: (scan rest).2.symbols := by
  rw [symbols]

theorem takeWhile_append_of_head {p : Char → Bool} {front back : List Char} (hfront : ∀ c ∈ front, p c = true)
    (hback : ∀ c ∈ back.head?, p c = false) : (front ++ back).takeWhile p = front := by
  rw [List.takeWhile_append_of_pos hfront]
  cases back with
  | nil => simp
  | cons c back => simp [hback c rfl]

theorem dropWhile_append_of_head {p : Char → Bool} {front back : List Char} (hfront : ∀ c ∈ front, p c = true)
    (hback : ∀ c ∈ back.head?, p c = false) : (front ++ back).dropWhile p = back := by
  rw [List.dropWhile_append_of_pos hfront]
  cases back with
  | nil => rfl
  | cons c back => simp [hback c rfl]

theorem scan_mark (mark : Mark) (rest : List Char) : scan (mark.char :: rest) = (.mark mark, ongoing rest) := by
  simp [scan, Mark.isWordChar_char]

theorem scan_gap {c : Char} (noWord : Symbol.isWordChar c = false) (noMark : Mark.ofChar? c = none)
    (rest : List Char) : scan (c :: rest) = scan rest := by
  simp [scan, noWord, noMark]

/-- A run of word characters is scanned as a whole. -/
theorem scan_run {run after : List Char} (hsome : run ≠ []) (hrun : ∀ c ∈ run, Symbol.isWordChar c = true)
    (hafter : ∀ c ∈ after.head?, Symbol.isWordChar c = false) :
    scan (run ++ after) = afterRun run after := by
  cases run with
  | nil => exact absurd rfl hsome
  | cons c run =>
    obtain ⟨hfirst, hmore⟩ := List.forall_mem_cons.mp hrun
    rw [List.cons_append, scan, if_pos hfirst, takeWhile_append_of_head hmore hafter,
      dropWhile_append_of_head hmore hafter]

theorem afterRun_word {run after : List Char} (h : ¬(isScheme run = true ∧ after.head? = some ':')) :
    afterRun run after = (.word (String.ofList (Text.upperChars run)), ongoing after) := by
  unfold afterRun
  split
  next rest =>
    have hplain : ¬isScheme run = true := fun hscheme => h ⟨hscheme, rfl⟩
    rw [if_neg hplain]
  next => rfl

end Scanning

end Banter
