import Mathlib.Data.List.Basic

/-! Comma-separated values: the writer that quotes where it must, and the reader, both in the dialect of spreadsheets. -/

namespace CareerProjects.Library.Csv

def mark : Char := '\x22'

def isEnd (c : Char) : Bool := c = '\n' || c = '\r'

def special (c : Char) : Bool := c = ',' || c = mark || isEnd c

def doubled (field : List Char) : List Char := field.flatMap fun c => if c = mark then [mark, mark] else [c]

def quoted (field : List Char) : List Char := mark :: doubled field ++ [mark]

/-- An empty field is quoted where it is the only one. -/
def writeField (alone : Bool) (field : List Char) : List Char :=
  if field.any special || alone && field.isEmpty then quoted field else field

def writeFields (alone : Bool) (row : List (List Char)) : List Char :=
  [','].intercalate (row.map (writeField alone))

def writeRow (row : List (List Char)) : List Char := writeFields (row.length == 1) row ++ ['\r', '\n']

def write (rows : List (List (List Char))) : List Char := rows.flatMap writeRow

inductive Phase
  | startRecord | startField | inField | inQuotedField | quoteInQuotedField | eatNewline
  deriving DecidableEq

inductive ReadError
  | fieldTooLarge
  | newlineInField
  deriving DecidableEq

structure Reader where
  phase : Phase := .startRecord
  field : List Char := []
  fields : List (List Char) := []
  rows : List (List (List Char)) := []

namespace Reader

def save (reader : Reader) (phase : Phase) : Reader :=
  { reader with phase := phase, field := [], fields := reader.fields ++ [reader.field] }

def emit (reader : Reader) : Reader := ⟨.startRecord, [], [], reader.rows ++ [reader.fields]⟩

def add (limit : ℕ) (reader : Reader) (phase : Phase) (c : Char) : Except ReadError Reader :=
  if limit ≤ reader.field.length then .error .fieldTooLarge
  else .ok { reader with phase := phase, field := reader.field ++ [c] }

def startField (limit : ℕ) (reader : Reader) (c : Char) : Except ReadError Reader :=
  if isEnd c then .ok (reader.save .eatNewline)
  else if c = mark then .ok { reader with phase := .inQuotedField }
  else if c = ',' then .ok (reader.save .startField)
  else reader.add limit .inField c

def process (limit : ℕ) (reader : Reader) (c : Char) : Except ReadError Reader :=
  match reader.phase with
  | .startRecord => if isEnd c then .ok { reader with phase := .eatNewline } else reader.startField limit c
  | .startField => reader.startField limit c
  | .inField =>
    if isEnd c then .ok (reader.save .eatNewline)
    else if c = ',' then .ok (reader.save .startField)
    else reader.add limit .inField c
  | .inQuotedField =>
    if c = mark then .ok { reader with phase := .quoteInQuotedField } else reader.add limit .inQuotedField c
  | .quoteInQuotedField =>
    if c = mark then reader.add limit .inQuotedField c
    else if c = ',' then .ok (reader.save .startField)
    else if isEnd c then .ok (reader.save .eatNewline)
    else reader.add limit .inField c
  | .eatNewline => if isEnd c then .ok reader else .error .newlineInField

/-- The end of a line, which a quoted field goes on after. -/
def endLine (reader : Reader) : Reader :=
  match reader.phase with
  | .startRecord | .eatNewline => reader.emit
  | .startField | .inField | .quoteInQuotedField => (reader.save .startRecord).emit
  | .inQuotedField => reader

/-- A line ends after a newline, of which a return and a line feed are one, and with the text. -/
def endsLine (c : Char) (rest : List Char) : Bool :=
  c = '\n' || c = '\r' && rest.head? != some '\n' || rest.isEmpty

def run (limit : ℕ) : Reader → List Char → Except ReadError Reader
  | reader, [] => .ok reader
  | reader, c :: rest => do
    let next ← reader.process limit c
    run limit (if endsLine c rest then next.endLine else next) rest

/-- At the end of the text an open field still counts. -/
def finish (reader : Reader) : List (List (List Char)) :=
  if reader.field ≠ [] ∨ reader.phase = .inQuotedField then reader.rows ++ [(reader.save .startRecord).fields]
  else reader.rows

end Reader

def read (limit : ℕ) (text : List Char) : Except ReadError (List (List (List Char))) :=
  (Reader.run limit {} text).map Reader.finish

section roundTrip

variable {limit : ℕ} {c : Char} {phase : Phase} {field body rest : List Char} {fields : List (List Char)}
  {rows : List (List (List Char))}

open Reader

theorem run_within {reader next : Reader} (taken : reader.process limit c = .ok next) (within : endsLine c rest = false) :
    Reader.run limit reader (c :: rest) = Reader.run limit next rest := by
  rw [Reader.run, taken, within]
  rfl

theorem run_of_process {reader next : Reader} (taken : reader.process limit c = .ok next) :
    Reader.run limit reader (c :: rest) = Reader.run limit (if endsLine c rest then next.endLine else next) rest := by
  rw [Reader.run, taken]
  rfl

theorem add_of_fits {reader : Reader} (fits : reader.field.length < limit) :
    reader.add limit phase c = .ok { reader with phase := phase, field := reader.field ++ [c] } := by
  rw [add, if_neg (by omega)]

theorem endsLine_of_plain (plain : isEnd c = false) (some : rest ≠ []) : endsLine c rest = false := by
  simp only [isEnd, Bool.or_eq_false_iff, decide_eq_false_iff_not] at plain
  simp [endsLine, plain, some]

theorem isEnd_mark : isEnd mark = false := by decide

theorem not_special (plain : special c = false) : isEnd c = false ∧ c ≠ mark ∧ c ≠ ',' := by
  simp only [special, Bool.or_eq_false_iff, decide_eq_false_iff_not] at plain
  exact ⟨plain.2, plain.1.2, plain.1.1⟩

/-- In a quoted field all characters are read, whether a line ends or not. -/
theorem run_doubled (some : rest ≠ []) (fits : field.length + body.length ≤ limit) :
    Reader.run limit ⟨.inQuotedField, field, fields, rows⟩ (doubled body ++ rest) =
      Reader.run limit ⟨.inQuotedField, field ++ body, fields, rows⟩ rest := by
  induction body generalizing field with
  | nil => simp [doubled]
  | cons c body ih =>
    rw [List.length_cons] at fits
    have next : (field ++ [c]).length + body.length ≤ limit := by
      rw [List.length_append, List.length_singleton]
      omega
    have room : field.length < limit := by omega
    have split : doubled (c :: body) ++ rest = (if c = mark then [mark, mark] else [c]) ++ (doubled body ++ rest) := by
      simp [doubled]
    have following : doubled body ++ rest ≠ [] := by simp [some]
    rw [split, List.append_cons field, ← ih next]
    by_cases quote : c = mark
    · subst quote
      have first : process limit ⟨.inQuotedField, field, fields, rows⟩ mark =
          .ok ⟨.quoteInQuotedField, field, fields, rows⟩ := by
        simp only [process, if_true]
      have second : process limit ⟨.quoteInQuotedField, field, fields, rows⟩ mark =
          .ok ⟨.inQuotedField, field ++ [mark], fields, rows⟩ := by
        simp only [process, if_true]
        exact add_of_fits room
      rw [if_pos rfl, List.cons_append, List.cons_append, List.nil_append,
        run_within first (endsLine_of_plain isEnd_mark (by simp)),
        run_within second (endsLine_of_plain isEnd_mark following)]
    · have kept : process limit ⟨.inQuotedField, field, fields, rows⟩ c =
          .ok ⟨.inQuotedField, field ++ [c], fields, rows⟩ := by
        simp only [process, if_neg quote]
        exact add_of_fits room
      rw [if_neg quote, List.cons_append, List.nil_append, run_of_process kept]
      simp only [endLine, ite_self]

theorem run_plain (plain : ∀ c ∈ body, special c = false) (some : rest ≠ [])
    (fits : field.length + body.length ≤ limit) :
    Reader.run limit ⟨.inField, field, fields, rows⟩ (body ++ rest) =
      Reader.run limit ⟨.inField, field ++ body, fields, rows⟩ rest := by
  induction body generalizing field with
  | nil => simp
  | cons c body ih =>
    rw [List.length_cons] at fits
    have next : (field ++ [c]).length + body.length ≤ limit := by
      rw [List.length_append, List.length_singleton]
      omega
    obtain ⟨goes, quote, comma⟩ := not_special (plain c List.mem_cons_self)
    have following : body ++ rest ≠ [] := by simp [some]
    have kept : process limit ⟨.inField, field, fields, rows⟩ c = .ok ⟨.inField, field ++ [c], fields, rows⟩ := by
      simp only [process, goes, if_neg comma, Bool.false_eq_true, if_false]
      exact add_of_fits (by simp only; omega)
    rw [List.append_cons field, ← ih (fun other member => plain other (List.mem_cons_of_mem _ member)) next,
      List.cons_append, run_within kept (endsLine_of_plain goes following)]

theorem run_field (alone : Bool) (start : phase = .startRecord ∨ phase = .startField) (some : rest ≠ [])
    (fits : field.length ≤ limit) : ∃ next,
      (next = .inField ∨ next = .quoteInQuotedField ∨ next = phase ∧ writeField alone field = [] ∧ field = []) ∧
      Reader.run limit ⟨phase, [], fields, rows⟩ (writeField alone field ++ rest) =
        Reader.run limit ⟨next, field, fields, rows⟩ rest := by
  have process_start : ∀ c, isEnd c = false →
      process limit ⟨phase, [], fields, rows⟩ c = startField limit ⟨phase, [], fields, rows⟩ c := by
    intro c plain
    rcases start with rfl | rfl
    · simp only [process, plain, Bool.false_eq_true, if_false]
    · rfl
  rw [writeField]
  by_cases quoting : (field.any special || alone && field.isEmpty) = true
  · refine ⟨.quoteInQuotedField, .inr (.inl rfl), ?_⟩
    have opens : process limit ⟨phase, [], fields, rows⟩ mark = .ok ⟨.inQuotedField, [], fields, rows⟩ := by
      rw [process_start mark isEnd_mark]
      simp only [startField, isEnd_mark, Bool.false_eq_true, if_false, if_true]
    have closes : process limit ⟨.inQuotedField, field, fields, rows⟩ mark =
        .ok ⟨.quoteInQuotedField, field, fields, rows⟩ := by
      simp only [process, if_true]
    have shape : quoted field ++ rest = mark :: (doubled field ++ mark :: rest) := by simp [quoted]
    rw [if_pos quoting, shape, run_within opens (endsLine_of_plain isEnd_mark (by simp)),
      run_doubled (by simp) (by simpa using fits), List.nil_append,
      run_within closes (endsLine_of_plain isEnd_mark some)]
  · rw [if_neg quoting]
    simp only [Bool.or_eq_true, not_or, Bool.not_eq_true] at quoting
    cases field with
    | nil => exact ⟨phase, .inr (.inr ⟨rfl, rfl, rfl⟩), rfl⟩
    | cons c body =>
      have plain : ∀ other ∈ c :: body, special other = false := fun other member => by
        simpa using List.any_eq_false.mp quoting.1 other member
      obtain ⟨goes, quote, comma⟩ := not_special (plain c List.mem_cons_self)
      rw [List.length_cons] at fits
      have first : process limit ⟨phase, [], fields, rows⟩ c = .ok ⟨.inField, [c], fields, rows⟩ := by
        rw [process_start c goes]
        simp only [startField, goes, Bool.false_eq_true, if_false, if_neg quote, if_neg comma]
        exact add_of_fits (by simp only [List.length_nil]; omega)
      refine ⟨.inField, .inl rfl, ?_⟩
      rw [List.cons_append, run_within first (endsLine_of_plain goes (by simp [some])),
        run_plain (fun other member => plain other (List.mem_cons_of_mem _ member)) some (by
          rw [List.length_singleton]
          omega)]
      rfl

theorem run_comma (reached : phase ≠ .inQuotedField ∧ phase ≠ .eatNewline) (some : rest ≠ []) :
    Reader.run limit ⟨phase, field, fields, rows⟩ (',' :: rest) =
      Reader.run limit ⟨.startField, [], fields ++ [field], rows⟩ rest := by
  have plain : isEnd ',' = false := by decide
  have other : ',' ≠ mark := by decide
  have saves : process limit ⟨phase, field, fields, rows⟩ ',' = .ok ⟨.startField, [], fields ++ [field], rows⟩ := by
    cases phase with
    | inQuotedField => exact absurd rfl reached.1
    | eatNewline => exact absurd rfl reached.2
    | startRecord | startField | inField | quoteInQuotedField =>
      simp only [process, startField, plain, Bool.false_eq_true, if_false, if_neg other, if_true]
      rfl
  exact run_within saves (endsLine_of_plain plain some)

theorem run_newline (reached : phase = .startField ∨ phase = .inField ∨ phase = .quoteInQuotedField) :
    Reader.run limit ⟨phase, field, fields, rows⟩ ('\r' :: '\n' :: rest) =
      Reader.run limit ⟨.startRecord, [], [], rows ++ [fields ++ [field]]⟩ rest := by
  have goes : isEnd '\r' = true := by decide
  have other : '\r' ≠ mark ∧ '\r' ≠ ',' := by decide
  have saves : process limit ⟨phase, field, fields, rows⟩ '\r' = .ok ⟨.eatNewline, [], fields ++ [field], rows⟩ := by
    rcases reached with rfl | rfl | rfl <;>
      simp only [process, startField, goes, if_neg other.1, if_neg other.2, if_true] <;> rfl
  have eats : process limit ⟨.eatNewline, [], fields ++ [field], rows⟩ '\n' =
      .ok ⟨.eatNewline, [], fields ++ [field], rows⟩ := rfl
  have within : endsLine '\r' ('\n' :: rest) = false := rfl
  have ends : endsLine '\n' rest = true := rfl
  rw [run_within saves within, run_of_process eats, ends]
  rfl

theorem run_empty_row : Reader.run limit ⟨.startRecord, [], [], rows⟩ ('\r' :: '\n' :: rest) =
    Reader.run limit ⟨.startRecord, [], [], rows ++ [[]]⟩ rest := by
  have eats : process limit ⟨.startRecord, [], [], rows⟩ '\r' = .ok ⟨.eatNewline, [], [], rows⟩ := rfl
  have eats' : process limit ⟨.eatNewline, [], [], rows⟩ '\n' = .ok ⟨.eatNewline, [], [], rows⟩ := rfl
  have within : endsLine '\r' ('\n' :: rest) = false := rfl
  have ends : endsLine '\n' rest = true := rfl
  rw [run_within eats within, run_of_process eats', ends]
  rfl

/-- The fields of a record that are left; the only field of a record is not empty as it is written. -/
theorem run_fields (alone : Bool) (first : List Char) (others : List (List Char))
    (start : phase = .startField ∨ phase = .startRecord ∧ (others ≠ [] ∨ writeField alone first ≠ []))
    (fits : ∀ field ∈ first :: others, field.length ≤ limit) :
    Reader.run limit ⟨phase, [], fields, rows⟩ (writeFields alone (first :: others) ++ '\r' :: '\n' :: rest) =
      Reader.run limit ⟨.startRecord, [], [], rows ++ [fields ++ first :: others]⟩ rest := by
  have begins : phase = .startRecord ∨ phase = .startField := start.symm.imp_left And.left
  have small := fits first List.mem_cons_self
  induction others generalizing phase first fields with
  | nil =>
    have shape : writeFields alone [first] ++ '\r' :: '\n' :: rest = writeField alone first ++ '\r' :: '\n' :: rest := by
      simp [writeFields, List.intercalate]
    obtain ⟨next, reached, read⟩ := @run_field limit phase first ('\r' :: '\n' :: rest) fields rows alone begins
      (by simp) small
    rw [shape, read, run_newline]
    rcases reached with rfl | rfl | ⟨rfl, empty, -⟩
    · exact .inr (.inl rfl)
    · exact .inr (.inr rfl)
    · rcases start with rfl | ⟨rfl, some | some⟩
      · exact .inl rfl
      · exact absurd rfl some
      · exact absurd empty some
  | cons second others ih =>
    have shape : writeFields alone (first :: second :: others) ++ '\r' :: '\n' :: rest =
        writeField alone first ++ ',' :: (writeFields alone (second :: others) ++ '\r' :: '\n' :: rest) := by
      simp [writeFields, List.intercalate]
    obtain ⟨next, reached, read⟩ := @run_field limit phase first
      (',' :: (writeFields alone (second :: others) ++ '\r' :: '\n' :: rest)) fields rows alone begins (by simp) small
    have open_ : next ≠ .inQuotedField ∧ next ≠ .eatNewline := by
      rcases reached with rfl | rfl | ⟨rfl, -, -⟩
      · exact ⟨by simp, by simp⟩
      · exact ⟨by simp, by simp⟩
      · rcases begins with rfl | rfl <;> exact ⟨by simp, by simp⟩
    rw [shape, read, run_comma open_ (by simp), ih second (.inl rfl)
      (fun field member => fits field (List.mem_cons_of_mem _ member)) (.inr rfl) (fits second (by simp)),
      List.append_assoc]
    rfl

theorem run_row (row : List (List Char)) (fits : ∀ field ∈ row, field.length ≤ limit) :
    Reader.run limit ⟨.startRecord, [], [], rows⟩ (writeRow row ++ rest) =
      Reader.run limit ⟨.startRecord, [], [], rows ++ [row]⟩ rest := by
  have shape : writeRow row ++ rest = writeFields (row.length == 1) row ++ '\r' :: '\n' :: rest := by simp [writeRow]
  rw [shape]
  cases row with
  | nil => exact run_empty_row
  | cons first others =>
    refine run_fields _ first others (.inr ⟨rfl, ?_⟩) fits
    cases others with
    | cons => exact .inl (by simp)
    | nil =>
      refine .inr ?_
      rw [writeField]
      cases first with
      | nil => simp [quoted]
      | cons c body => split <;> simp [quoted]

theorem read_write (limit : ℕ) (rows : List (List (List Char)))
    (fits : ∀ row ∈ rows, ∀ field ∈ row, field.length ≤ limit) : read limit (write rows) = .ok rows := by
  have reads : ∀ before : List (List (List Char)), Reader.run limit ⟨.startRecord, [], [], before⟩ (write rows) =
      .ok ⟨.startRecord, [], [], before ++ rows⟩ := by
    induction rows with
    | nil => intro before; rw [List.append_nil]; rfl
    | cons row rows ih =>
      intro before
      rw [List.forall_mem_cons] at fits
      rw [write, List.flatMap_cons, run_row row fits.1]
      have rest := ih fits.2 (before ++ [row])
      rw [List.append_assoc] at rest
      exact rest
  rw [read, show ({} : Reader) = ⟨.startRecord, [], [], []⟩ from rfl, reads []]
  rfl

end roundTrip

end CareerProjects.Library.Csv
