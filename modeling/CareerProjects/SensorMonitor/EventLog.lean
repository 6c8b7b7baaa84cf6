import CareerProjects.Library.Lines
import CareerProjects.SensorMonitor.Server

/-! The log file. Every entry is a line of four fields; what a line says is read back unless a message
brings a newline of its own, which only the id of a sensor with a fault can do. -/

namespace CareerProjects.SensorMonitor
open Library

def decimal (n : ℕ) : Bytes := (Nat.toDigits 10 n).map fun digit => .ofNat digit.toNat

def twoDigits (n : ℕ) : Bytes := if n < 10 then 48 :: decimal n else decimal n

def createTimestamp (time : LocalTime) : Bytes :=
  decimal time.year ++ ascii "-" ++ twoDigits time.month ++ ascii "-" ++ twoDigits time.day ++ ascii " " ++
    twoDigits time.hour ++ ascii ":" ++ twoDigits time.minute ++ ascii ":" ++ twoDigits time.second

def separator : Bytes := ascii " | "

namespace LogEntry

/-- A line of the file, without its newline. -/
def line (entry : LogEntry) : Bytes :=
  createTimestamp entry.timestamp ++ separator ++ entry.level ++ separator ++ entry.eventType ++ separator ++
    entry.message

/-- What `EventLogger::log` was called with, and when. -/
def fields (entry : LogEntry) : Bytes × Bytes × Bytes × Bytes :=
  (createTimestamp entry.timestamp, entry.level, entry.eventType, entry.message)

end LogEntry

def readLine (line : Bytes) : Option (Bytes × Bytes × Bytes × Bytes) := do
  let (timestamp, rest) ← cut separator line
  let (level, rest) ← cut separator rest
  let (eventType, message) ← cut separator rest
  return (timestamp, level, eventType, message)

namespace Server

def entries (effects : List Effect) : List LogEntry :=
  effects.filterMap fun
    | .updated _ _ => none
    | .logged entry => some entry

/-- What a run that starts with an empty file leaves in it. -/
def logFile (server : Server) : Bytes :=
  (entries server.effects).flatMap fun entry => entry.line ++ [newline]

/-- The file read back is the sequence of the calls. -/
def Faithful (server : Server) : Prop :=
  (splitLines newline server.logFile).map readLine =
    (entries server.effects).map fun entry => some entry.fields

/-- A step that brings no newline into an entry: a reading that has a fault has none in its sensor id. -/
def PlainIds (json : Bytes → Except Bytes Json) (server : Server) (label : ℕ × Action) : Prop :=
  ∀ connection message rest reading, server.phase = .connected connection → label.2 = .message →
    nextMessage connection.pendingData = some (message, rest) → message ≠ [] →
    parse json message = .ok reading → (FaultDetector.analyze reading).detected = true →
    newline ∉ reading.sensorId

end Server

open Server (newline)

def bar : UInt8 := 124

theorem digit_range (n : ℕ) : ∀ byte ∈ decimal n, 48 ≤ byte.toNat ∧ byte.toNat ≤ 57 := by
  intro byte member
  obtain ⟨digit, known, rfl⟩ := List.mem_map.mp member
  have digits := Nat.isDigit_of_mem_toDigits (by omega) (by omega) known
  simp only [Char.isDigit, Bool.and_eq_true, decide_eq_true_eq, ge_iff_le] at digits
  have range : 48 ≤ digit.toNat ∧ digit.toNat ≤ 57 := digits
  rw [UInt8.toNat_ofNat']
  omega

theorem not_mem_decimal {byte : UInt8} (other : byte = newline ∨ byte = bar) (n : ℕ) : byte ∉ decimal n := by
  intro member
  have range := digit_range n byte member
  rcases other with rfl | rfl
  · exact absurd range.1 (by decide)
  · exact absurd range.2 (by decide)

theorem not_mem_twoDigits {byte : UInt8} (other : byte = newline ∨ byte = bar) (n : ℕ) :
    byte ∉ twoDigits n := by
  unfold twoDigits
  split
  · rw [List.mem_cons, not_or]
    refine ⟨?_, not_mem_decimal other n⟩
    rcases other with rfl | rfl <;> decide
  · exact not_mem_decimal other n

theorem not_mem_timestamp {byte : UInt8} (other : byte = newline ∨ byte = bar) (time : LocalTime) :
    byte ∉ createTimestamp time := by
  have marks : byte ∉ ascii "-" ∧ byte ∉ ascii " " ∧ byte ∉ ascii ":" := by
    rcases other with rfl | rfl <;> decide
  simp only [createTimestamp, List.mem_append, not_or]
  simp only [not_mem_decimal other, not_mem_twoDigits other, marks, not_false_eq_true, and_self]

/-- Fields that are read back: without newlines and, before the message, without a bar. -/
structure LogEntry.Plain (entry : LogEntry) : Prop where
  level : newline ∉ entry.level ∧ bar ∉ entry.level
  eventType : newline ∉ entry.eventType ∧ bar ∉ entry.eventType
  message : newline ∉ entry.message

theorem cut_separator {text : Bytes} (rest : Bytes) (plain : bar ∉ text) :
    cut separator (text ++ separator ++ rest) = some (text, rest) := by
  rw [List.append_assoc]
  exact @cut_append _ _ bar text rest separator (ascii " ") (ascii " ") (by decide)
    (by decide) plain

theorem readLine_line {entry : LogEntry} (plain : entry.Plain) : readLine entry.line = some entry.fields := by
  have first := cut_separator (entry.level ++ separator ++ entry.eventType ++ separator ++ entry.message)
    (not_mem_timestamp (.inr rfl) entry.timestamp)
  have second := cut_separator (entry.eventType ++ separator ++ entry.message) plain.level.2
  have third := cut_separator entry.message plain.eventType.2
  simp only [List.append_assoc] at first second third
  simp only [readLine, LogEntry.line, List.append_assoc, first, second, third, Option.bind_eq_bind,
    Option.bind_some]
  rfl

theorem newline_not_mem_line {entry : LogEntry} (plain : entry.Plain) : newline ∉ entry.line := by
  have bars : newline ∉ separator := by decide
  simp only [LogEntry.line, List.mem_append, not_or]
  exact ⟨⟨⟨⟨⟨⟨not_mem_timestamp (.inl rfl) _, bars⟩, plain.level.1⟩, bars⟩, plain.eventType.1⟩, bars⟩,
    plain.message⟩

namespace Server

variable {json : Bytes → Except Bytes Json} {clock : ℕ → LocalTime} {server after : Server}
  {label : ℕ × Action} {labels : List (ℕ × Action)} {connection : Connection} {sensorId : Bytes} {now : ℕ}
  {entry : LogEntry}

theorem faithful_of_plain (plain : ∀ entry ∈ entries server.effects, entry.Plain) : Faithful server := by
  have lines : splitLines newline server.logFile = (entries server.effects).map LogEntry.line := by
    have read := @splitLines_flatMap _ _ newline ((entries server.effects).map LogEntry.line)
      (List.forall_mem_map.mpr fun entry member => newline_not_mem_line (plain entry member))
    rw [List.flatMap_map] at read
    exact read
  rw [Faithful, lines, List.map_map]
  exact List.map_congr_left fun entry member => readLine_line (plain entry member)

theorem not_faithful (member : entry ∈ entries server.effects) (split : newline ∈ entry.message) :
    ¬Faithful server := by
  have ends : ∀ entries : List LogEntry, entries.length ≤
      (entries.flatMap fun entry => entry.line ++ [newline]).count newline := by
    intro entries
    induction entries with
    | nil => simp
    | cons entry entries ih =>
      simp only [List.flatMap_cons, List.count_append, List.count_singleton_self, List.length_cons]
      omega
  have more : (entries server.effects).length < server.logFile.count newline := by
    obtain ⟨front, back, listed⟩ := List.append_of_mem member
    have inside : newline ∈ entry.line := List.mem_append_right _ split
    have first := ends front
    have last := ends back
    have own : 1 ≤ entry.line.count newline := List.one_le_count_iff.mpr inside
    simp only [logFile, listed, List.flatMap_append, List.flatMap_cons, List.count_append,
      List.count_singleton_self, List.length_append, List.length_cons]
    omega
  intro faithful
  have lengths := congrArg List.length faithful
  rw [List.length_map, List.length_map] at lengths
  have lines := @count_le_length_splitLines _ _ newline server.logFile
  omega

structure Tidy (server : Server) : Prop where
  plain : ∀ entry ∈ entries server.effects, entry.Plain
  expected : ∀ connection, server.phase = .connected connection →
    ∀ sensorId ∈ connection.timedOutSensors, sensorId ∈ expectedSensorIds

def PlainText (text : Bytes) : Prop := newline ∉ text ∧ bar ∉ text

instance (text : Bytes) : Decidable (PlainText text) := by
  unfold PlainText
  infer_instance

theorem entries_log (level eventType message : Bytes) : entries (server.log clock level eventType message).effects =
    entries server.effects ++ [⟨clock server.effects.length, level, eventType, message⟩] := by
  simp [log, entries]

theorem entries_update (fault : Fault) : entries (server.update sensorId fault).effects =
    entries server.effects := by
  simp [update, entries]

/-- The entries that a part of a step makes are plain. -/
def Adds (server after : Server) : Prop :=
  ∃ added : List LogEntry, entries after.effects = entries server.effects ++ added ∧ ∀ entry ∈ added, entry.Plain

theorem Adds.refl (server : Server) : Adds server server := ⟨[], by simp, by simp⟩

theorem Adds.trans {middle : Server} (first : Adds server middle) (second : Adds middle after) :
    Adds server after := by
  obtain ⟨added, same, plain⟩ := first
  obtain ⟨more, same', plain'⟩ := second
  exact ⟨added ++ more, by rw [same', same, List.append_assoc], List.forall_mem_append.mpr ⟨plain, plain'⟩⟩

theorem adds_log {level eventType message : Bytes} (levelPlain : PlainText level) (typePlain : PlainText eventType)
    (messagePlain : newline ∉ message) : Adds server (server.log clock level eventType message) :=
  ⟨_, entries_log .., by simpa using ⟨levelPlain, typePlain, messagePlain⟩⟩

theorem adds_update (fault : Fault) : Adds server (server.update sensorId fault) :=
  ⟨[], by rw [entries_update, List.append_nil], by simp⟩

theorem expected_plain (member : sensorId ∈ expectedSensorIds) : newline ∉ sensorId := by
  have all : ∀ sensorId ∈ expectedSensorIds, newline ∉ sensorId := by decide
  exact all sensorId member

theorem adds_timeOut (member : sensorId ∈ expectedSensorIds) : Adds server (server.timeOut clock sensorId) := by
  refine (adds_update _).trans (adds_log (by decide) (by decide) ?_)
  rw [timeoutFault, List.mem_append, not_or]
  exact ⟨expected_plain member, by decide⟩

theorem adds_recover (member : sensorId ∈ expectedSensorIds) : Adds server (server.recover clock sensorId) := by
  refine (adds_update _).trans (adds_log (by decide) (by decide) ?_)
  rw [List.mem_append, not_or]
  exact ⟨expected_plain member, by decide⟩

theorem fault_plain (reading : SensorReading) : PlainText (FaultDetector.analyze reading).type ∧
    newline ∉ (FaultDetector.analyze reading).message := by
  unfold FaultDetector.analyze FaultDetector.analyzeTemperature FaultDetector.analyzeVoltage
    FaultDetector.analyzePosition FaultDetector.analyzeMotion
  split_ifs <;> decide

theorem severity_plain (severity : FaultSeverity) : PlainText (faultSeverityToString severity) := by
  cases severity <;> decide

theorem transition_plain (before after : SystemState) : newline ∉ transitionMessage before after := by
  cases before <;> cases after <;> decide

theorem adds_report {reading : SensorReading}
    (plain : (FaultDetector.analyze reading).detected = true → newline ∉ reading.sensorId) :
    Adds server (server.report clock reading) := by
  have updated : Adds server (server.update reading.sensorId (FaultDetector.analyze reading)) := adds_update _
  unfold report
  dsimp only
  split
  · next detected =>
    refine updated.trans (adds_log (severity_plain _) (fault_plain reading).1 ?_)
    simp only [List.mem_append, not_or]
    exact ⟨⟨plain detected, by decide⟩, (fault_plain reading).2⟩
  · exact updated

theorem adds_evaluate {reading : SensorReading}
    (plain : (FaultDetector.analyze reading).detected = true → newline ∉ reading.sensorId) :
    Adds server (server.evaluate clock reading) := by
  have reported := @adds_report clock server reading plain
  unfold evaluate
  dsimp only
  split
  · exact reported.trans (adds_log (by decide) (by decide) (transition_plain _ _))
  · exact reported

theorem evaluate_split {reading : SensorReading} (detected : (FaultDetector.analyze reading).detected = true)
    (split : newline ∈ reading.sensorId) :
    ∃ entry ∈ entries (server.evaluate clock reading).effects, newline ∈ entry.message := by
  have reported : ∃ entry ∈ entries (server.report clock reading).effects, newline ∈ entry.message := by
    rw [report, if_pos detected, entries_log]
    exact ⟨_, List.mem_append_right _ (List.mem_singleton_self _),
      List.mem_append_left _ (List.mem_append_left _ split)⟩
  obtain ⟨entry, member, inside⟩ := reported
  unfold evaluate
  dsimp only
  split_ifs
  · rw [entries_log]
    exact ⟨entry, List.mem_append_left _ member, inside⟩
  · exact ⟨entry, member, inside⟩

theorem adds_phase {phase : Phase} {processed : List Bytes} (adds : Adds server after) :
    Adds server { after with phase := phase, processed := processed } := adds

theorem Tidy.add (tidy : Tidy server) (adds : Adds server after)
    (expected : ∀ connection, after.phase = .connected connection →
      ∀ sensorId ∈ connection.timedOutSensors, sensorId ∈ expectedSensorIds) : Tidy after := by
  obtain ⟨added, same, plain⟩ := adds
  exact ⟨same ▸ List.forall_mem_append.mpr ⟨tidy.plain, plain⟩, expected⟩

theorem parse_error_plain {message error : Bytes} (quiet : ∀ message what, newline ∉ message →
      json message = .error what → newline ∉ what) (plain : newline ∉ message)
    (failed : parse json message = .error error) : newline ∉ error := by
  have names : ∀ name ∈ requiredFields, newline ∉ ascii "Missing required field: " ++ name := by decide
  unfold parse at failed
  split at failed
  · next what raised =>
    cases failed
    rw [List.mem_append, not_or]
    exact ⟨by decide, quiet message what plain raised⟩
  · split at failed
    · next fieldName missing =>
      cases failed
      exact names fieldName (List.mem_of_find?_eq_some missing)
    · split at failed
      · split at failed
        · cases failed
          decide
        · split at failed
          · cases failed
            decide
          · split_ifs at failed <;> cases failed <;> decide
      · cases failed
        decide

theorem tidy_startup : Tidy (startup clock) where
  plain := by
    rw [startup, entries_log]
    simp only [entries, List.filterMap_nil, List.nil_append, List.mem_singleton, forall_eq]
    exact ⟨(by decide : PlainText (ascii "INFO")), (by decide : PlainText (ascii "SYSTEM_STARTUP")),
      (by decide : newline ∉ ascii "Sensor monitoring system started.")⟩
  expected := by
    intro connection connected
    cases connected

theorem check_tidy (tidy : Tidy server) (running : server.phase = .connected connection) :
    Tidy (check clock now connection server) := by
  have result := @checkSensorTimeouts_induction clock server now connection.lastSeenTimes
    connection.timedOutSensors expectedSensorIds
    (fun timedOut after => Adds server after ∧ ∀ sensorId ∈ timedOut, sensorId ∈ expectedSensorIds)
    (by
      rintro timedOut after sensorId member _ _ ⟨adds, expected⟩
      exact ⟨adds.trans (adds_timeOut member), Finset.forall_mem_insert _ _ _ |>.mpr ⟨member, expected⟩⟩)
    ⟨.refl server, tidy.expected connection running⟩
  refine tidy.add (adds_phase result.1) ?_
  rintro connection' ⟨⟩
  exact result.2

theorem message_tidy {message rest : Bytes} (quiet : ∀ message what, newline ∉ message →
      json message = .error what → newline ∉ what) (tidy : Tidy server)
    (running : server.phase = .connected connection) (action : label.2 = .message)
    (found : nextMessage connection.pendingData = some (message, rest)) (guard : PlainIds json server label) :
    Tidy (takeMessage json clock now message rest connection server) := by
  have expected := tidy.expected connection running
  by_cases empty : message = []
  · subst empty
    refine tidy.add (adds_phase (.refl server)) ?_
    rintro connection' ⟨⟩
    exact expected
  · cases parsed : parse json message with
    | error error =>
      rw [takeMessage_error empty parsed]
      refine tidy.add ((adds_phase (.refl server)).trans (adds_log (by decide) (by decide)
        (parse_error_plain quiet (nextMessage_eq found).2 parsed))) ?_
      rintro connection' ⟨⟩
      exact expected
    | ok reading =>
      have plain := guard connection message rest reading running action found empty parsed
      rw [takeMessage_ok empty parsed]
      refine tidy.add (adds_phase ?_) ?_
      · by_cases inside : reading.sensorId ∈ connection.timedOutSensors
        · rw [if_pos inside]
          exact (adds_recover (expected _ inside)).trans (adds_evaluate plain)
        · rw [if_neg inside]
          exact adds_evaluate plain
      · rintro connection' ⟨⟩ sensorId member
        exact expected sensorId (Finset.mem_of_mem_erase member)

theorem step_tidy (quiet : ∀ message what, newline ∉ message → json message = .error what → newline ∉ what)
    (tidy : Tidy server) (moved : server.next json clock label = some after)
    (guard : PlainIds json server label) : Tidy after := by
  rcases step_cases moved with ⟨action, waiting, rfl⟩ | ⟨action, waiting, rfl⟩ |
    ⟨connection, running, ⟨chunk, action, rfl⟩ | ⟨message, rest, action, found, rfl⟩ | ⟨checks, rfl⟩ |
      ⟨action, rfl⟩ | ⟨action, rfl⟩⟩
  · refine tidy.add ((adds_phase (.refl server)).trans (adds_log (by decide) (by decide)
      (by decide))) ?_
    rintro connection ⟨⟩
    simp [opened]
  · refine tidy.add (adds_phase (.refl server)) ?_
    rintro connection ⟨⟩
  · refine tidy.add (adds_phase (.refl server)) ?_
    rintro connection' ⟨⟩
    exact tidy.expected connection running
  · exact message_tidy quiet tidy running action found guard
  · exact check_tidy tidy running
  · refine tidy.add ((adds_phase (.refl server)).trans (adds_log (by decide) (by decide)
      (by decide))) ?_
    rintro connection' ⟨⟩
  · refine tidy.add ((adds_phase (.refl server)).trans (adds_log (by decide) (by decide)
      (by decide))) ?_
    rintro connection' ⟨⟩

theorem step_split (moved : server.next json clock label = some after) (other : ¬PlainIds json server label) :
    ¬Faithful after := by
  unfold PlainIds at other
  push Not at other
  obtain ⟨connection, message, rest, reading, running, action, found, empty, parsed, detected, split⟩ := other
  simp only [next, step, action, running, found, Option.map_some] at moved
  split_ifs at moved
  cases moved
  rw [takeMessage_ok empty parsed]
  obtain ⟨entry, member, inside⟩ := @evaluate_split clock
    (if reading.sensorId ∈ connection.timedOutSensors then server.recover clock reading.sensorId else server)
    reading detected split
  exact not_faithful member inside

/-- A message whose sensor id has an escaped newline. -/
def forgedMessage : Bytes := ascii (
  "\x7b\"sensor_id\": \"GHOST-01: seen\\n2026-07-23 17:39:36 | INFO | SYSTEM_STARTUP | Again\"," ++
  " \"sensor_type\": \"GHOST\", \"timestamp\": \"\", \"value\": 0, \"unit\": \"\", \"sequence_number\": 1\x7d")

def forgedJson (message : Bytes) : Except Bytes Json :=
  if message = forgedMessage then
    .ok (.object [(ascii "sensor_id",
        .string (ascii "GHOST-01: seen\n2026-07-23 17:39:36 | INFO | SYSTEM_STARTUP | Again")),
      (ascii "sensor_type", .string (ascii "GHOST")), (ascii "timestamp", .string []),
      (ascii "value", .unsigned 0), (ascii "unit", .string []), (ascii "sequence_number", .unsigned 1)])
  else .error []

def forgedLabels : List (ℕ × Action) :=
  [(0, .connect), (1, .receive (forgedMessage ++ [newline])), (1, .message)]

theorem forged_reached : ∃ server, Runs forgedJson sampleClock (startup sampleClock) forgedLabels server ∧
    ∃ entry ∈ entries server.effects, newline ∈ entry.message := by
  have checked : (forgedLabels.foldlM (next forgedJson sampleClock) (startup sampleClock)).any
      (fun server => (entries server.effects).any fun entry => newline ∈ entry.message) = true := by
    decide +kernel
  obtain ⟨server, reached, holds⟩ := (Option.any_eq_true _ _).mp checked
  simp only [List.any_eq_true, decide_eq_true_eq] at holds
  exact ⟨server, .of_foldlM reached, holds⟩

/-- The message leaves a line that looks like an entry of its own. -/
theorem forged_entry : ∃ server, Runs forgedJson sampleClock (startup sampleClock) forgedLabels server ∧
    ¬Faithful server := by
  obtain ⟨server, run, entry, member, split⟩ := forged_reached
  exact ⟨server, run, not_faithful member split⟩

/-- In every run: the file is the sequence of the calls in every state that is reached exactly if no
reading with a fault has a newline in its sensor id. Two such runs that leave the same file have made the
same calls. -/
theorem event_log_faithful_iff
    (quiet : ∀ message what, newline ∉ message → json message = .error what → newline ∉ what)
    (run : Runs json clock (startup clock) labels server) :
    ((∀ before later middle, labels = before ++ later → Runs json clock (startup clock) before middle →
        Faithful middle) ↔
      Run (fun server label after => server.next json clock label = some after ∧ PlainIds json server label)
        (startup clock) labels server) ∧
    ∀ clock' labels' server', Runs json clock' (startup clock') labels' server' →
      Faithful server → Faithful server' → server.logFile = server'.logFile →
      (entries server.effects).map LogEntry.fields = (entries server'.effects).map LogEntry.fields := by
  refine ⟨run.guarded_iff tidy_startup ?_ (fun _ tidy => faithful_of_plain tidy.plain) ?_, ?_⟩
  · exact fun server label after tidy moved guard => step_tidy quiet tidy moved guard
  · exact fun server label after _ moved other => step_split moved other
  · intro clock' labels' server' _ faithful faithful' same
    unfold Faithful at faithful faithful'
    rw [← same] at faithful'
    have fields := faithful.symm.trans faithful'
    refine List.map_injective_iff.mpr (Option.some_injective _) ?_
    rw [List.map_map, List.map_map]
    exact fields

theorem event_log_faithful_iff_forged : ∃ server,
    Runs forgedJson sampleClock (startup sampleClock) forgedLabels server ∧
      ¬Run (fun server label after => server.next forgedJson sampleClock label = some after ∧
        PlainIds forgedJson server label) (startup sampleClock) forgedLabels server := by
  obtain ⟨server, run, entry, member, split⟩ := forged_reached
  have quiet : ∀ message what, newline ∉ message → forgedJson message = .error what → newline ∉ what := by
    intro message what _ failed
    unfold forgedJson at failed
    split at failed
    · cases failed
    · cases failed
      simp
  refine ⟨server, run, fun guarded => not_faithful member split ?_⟩
  exact (event_log_faithful_iff quiet run).1.mpr guarded forgedLabels [] server (by simp) run

end Server

end CareerProjects.SensorMonitor
