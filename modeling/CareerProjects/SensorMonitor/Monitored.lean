import CareerProjects.SensorMonitor.Simulator
import CareerProjects.SensorMonitor.Timeouts

/-! What the monitor makes of the simulator's messages, however they are cut and delayed. -/

namespace CareerProjects.SensorMonitor

open Library

namespace Timed

variable {json : Bytes → Except Bytes Json} {clock : ℕ → LocalTime} {timed after : Timed} {label : ℕ × Action}
  {labels : List (ℕ × Action)}

theorem server_run (run : Runs json clock timed labels after) :
    Server.Runs json clock timed.server labels after.server := by
  induction run with
  | nil => exact .nil _
  | snoc earlier last ih => exact ih.snoc (step_eq_some last).2.1

theorem reading_processed {server reached : Server} {action : Action} {now : ℕ}
    (moved : server.step json clock now action = some reached) :
    ∃ called, reached.processed = server.processed ++ called ∧
      validReadings json called = (server.reading json action).toList := by
  have silent (other : action ≠ .message) (same : reached.processed = server.processed) :
      ∃ called, reached.processed = server.processed ++ called ∧
        validReadings json called = (server.reading json action).toList :=
    ⟨[], by rw [same, List.append_nil], by rw [reading_of_ne other]; rfl⟩
  obtain ⟨rfl, -, rfl⟩ | ⟨rfl, -, rfl⟩ | ⟨connection, phase, cases⟩ := Server.step_cases moved
  · exact silent (by simp) rfl
  · exact silent (by simp) rfl
  obtain ⟨chunk, rfl, rfl⟩ | ⟨message, rest, rfl, found, rfl⟩ | ⟨checks, rfl⟩ | ⟨rfl, rfl⟩ | ⟨rfl, rfl⟩ := cases
  · exact silent (by simp) rfl
  · refine ⟨_, Server.takeMessage_processed, ?_⟩
    simp only [Server.reading, phase, found]
    by_cases empty : message = []
    · simp [validReadings, empty]
    · cases parsed : (parse json message).toOption with
      | none => simp [validReadings, empty, parsed]
      | some reading => simp [validReadings, empty, parsed]
  · exact silent (by rcases checks with rfl | rfl <;> simp) (Server.check_processed connection)
  · exact silent (by simp) rfl
  · exact silent (by simp) rfl

theorem accepted_run (run : Runs json clock timed labels after) :
    ∃ called, after.server.processed = timed.server.processed ++ called ∧
      after.accepted.map Prod.fst = timed.accepted.map Prod.fst ++ (validReadings json called).map (·.sensorId) := by
  induction run with
  | nil => exact ⟨[], by simp, by simp [validReadings]⟩
  | @snoc middle after labels label earlier last ih =>
    obtain ⟨called, before, accepted⟩ := ih
    have moved := step_eq_some last
    obtain ⟨more, processed, readings⟩ := reading_processed moved.2.1
    refine ⟨called ++ more, by rw [processed, before, List.append_assoc], ?_⟩
    rw [moved.2.2.2.2.2, validReadings, List.filterMap_append, List.map_append, ← List.append_assoc]
    rw [validReadings] at accepted readings
    rw [← accepted, readings]
    cases middle.server.reading json label.2 <;> simp

theorem length_acceptedFrom (sensorId : Bytes) :
    (timed.acceptedFrom sensorId).length = (timed.accepted.map Prod.fst).count sensorId := by
  rw [acceptedFrom, List.length_map, List.count_eq_countP, List.countP_map, List.countP_eq_length_filter]
  congr 1
  exact List.filter_congr fun entry _ => Bool.eq_iff_iff.mpr (by simp)

theorem connectedAt_run (run : Runs json clock timed labels after)
    (serving : ∀ label ∈ labels, label.2.serves = true) : after.connectedAt = timed.connectedAt := by
  induction run with
  | nil => rfl
  | @snoc middle after labels label earlier last ih =>
    rw [List.forall_mem_append, List.forall_mem_singleton] at serving
    have other : label.2 ≠ .connect := by
      intro same
      rw [same] at serving
      cases serving.2
    rw [(step_eq_some last).2.2.2.2.1, if_neg other, ih serving.1]

/-- A sensor that is found silent has a critical fault while the connection lasts. -/
theorem Sound.critical_of_silent (sound : Sound timed) {connection : Connection}
    (phase : timed.server.phase = .connected connection) {sensorId : Bytes} (expected : sensorId ∈ expectedSensorIds)
    {now : ℕ} (moment : timed.Moment now)
    (silent : timed.silentSince sensorId + sensorTimeout + receiveTimeout < now) : timed.Critical sensorId := by
  have connected : timed.server.isConnected = true := by rw [Server.isConnected, phase]
  have woken := moment.2 connected
  have watched := sound.watched connection phase
  exact watched.critical sensorId (watched.flagged sensorId expected (by omega))

theorem step_some {action : Action} {now : ℕ} {server : Server} (moment : timed.Moment now)
    (moved : timed.server.step json clock now action = some server) :
    ∃ after, timed.step json clock (now, action) = some after ∧ after.server = server ∧ after.time = now ∧
      after.wokenAt = (if action ∈ [.connect, .check, .receiveTimeout] then now else timed.wokenAt) ∧
      after.accepted = timed.accepted ++
        (timed.server.reading json action).toList.map fun reading => (reading.sensorId, now) := by
  rw [step, if_pos moment, moved]
  refine ⟨_, rfl, rfl, rfl, rfl, ?_⟩
  cases timed.server.reading json action <;> simp

/-- The server has just checked its sensors and waits for the next bytes. -/
structure Idle (timed : Timed) (now : ℕ) : Prop where
  connected : ∃ connection, timed.server.phase = .connected connection ∧ connection.processing = false ∧
    connection.pendingData = []
  time : timed.time = now
  woken : timed.wokenAt = now

variable {now : ℕ}

theorem Idle.moment (idle : timed.Idle now) {later : ℕ} (soon : now ≤ later ∧ later ≤ now + receiveTimeout) :
    timed.Moment later :=
  ⟨idle.time.le.trans soon.1, fun _ => idle.woken.symm ▸ soon.2⟩

theorem Idle.of_check {connection : Connection} {server : Server}
    (checked : timed.server = Server.check clock now connection server) (none : connection.pendingData = [])
    (time : timed.time = now) (woken : timed.wokenAt = now) : timed.Idle now where
  connected := ⟨{ connection with timedOutSensors := _, processing := false }, by rw [checked]; rfl, rfl, none⟩
  time := time
  woken := woken

theorem Idle.silence (json : Bytes → Except Bytes Json) (clock : ℕ → LocalTime) (idle : timed.Idle now) {later : ℕ}
    (soon : now ≤ later ∧ later ≤ now + receiveTimeout) :
    ∃ after, timed.step json clock (later, .receiveTimeout) = some after ∧ after.Idle later ∧
      after.accepted = timed.accepted := by
  obtain ⟨connection, phase, waiting, none⟩ := idle.connected
  have moved : timed.server.step json clock later .receiveTimeout =
      some (Server.check clock later connection timed.server) := by
    simp [Server.step, phase, waiting]
  obtain ⟨after, stepped, server, time, woken, accepted⟩ := step_some (idle.moment soon) moved
  refine ⟨after, stepped, .of_check server none time (by simpa using woken), ?_⟩
  rw [accepted, reading_of_ne (by simp)]
  simp

theorem Idle.message (clock : ℕ → LocalTime) (idle : timed.Idle now) {text : Bytes} {reading : SensorReading}
    (parsed : parse json text = .ok reading) (some : text ≠ []) (line : Server.newline ∉ text)
    (short : text.length < receiveBufferSize) :
    ∃ after, Runs json clock timed
        [(now, .receive (text ++ [Server.newline])), (now, .message), (now, .check)] after ∧
      after.Idle now ∧ after.accepted = timed.accepted ++ [(reading.sensorId, now)] := by
  obtain ⟨connection, phase, waiting, none⟩ := idle.connected
  have moment := idle.moment ⟨le_rfl, Nat.le_add_right now receiveTimeout⟩
  have size : text.length + 1 ≤ receiveBufferSize := short
  have next : Server.nextMessage (text ++ [Server.newline]) = Option.some (text, []) := by
    have plain : ∀ byte ∈ text, byte ≠ Server.newline := fun byte inside same => line (same ▸ inside)
    rw [Server.nextMessage, if_pos (by simp), List.takeWhile_append_of_pos (by simpa using plain),
      List.dropWhile_append_of_pos (by simpa using plain)]
    simp
  let received : Connection :=
    { connection with pendingData := text ++ [Server.newline], processing := true }
  obtain ⟨first, chunk, server₁, time₁, woken₁, accepted₁⟩ := step_some moment
    (show timed.server.step json clock now (.receive (text ++ [Server.newline])) =
        Option.some { timed.server with phase := .connected received } by
      simp [Server.step, phase, waiting, none, size, received])
  have phase₁ : first.server.phase = .connected received := by rw [server₁]
  have moment₁ : first.Moment now := ⟨time₁.le, fun _ => by
    rw [woken₁, if_neg (by simp), idle.woken]
    exact Nat.le_add_right now receiveTimeout⟩
  obtain ⟨second, processed, server₂, time₂, woken₂, accepted₂⟩ := step_some moment₁
    (show first.server.step json clock now .message =
        Option.some (Server.takeMessage json clock now text [] received first.server) by
      simp [Server.step, phase₁, received, next])
  obtain ⟨after, phase₂, pending, busy⟩ := Server.takeMessage_phase json clock now text [] received first.server
  rw [← server₂] at phase₂
  have moment₂ : second.Moment now := ⟨time₂.le, fun _ => by
    rw [woken₂, if_neg (by simp), woken₁, if_neg (by simp), idle.woken]
    exact Nat.le_add_right now receiveTimeout⟩
  obtain ⟨third, checked, server₃, time₃, woken₃, accepted₃⟩ := step_some moment₂
    (show second.server.step json clock now .check = Option.some (Server.check clock now after second.server) by
      simp [Server.step, phase₂, pending, busy, received, Server.nextMessage])
  refine ⟨third, ((Run.single chunk).snoc processed).snoc checked,
    .of_check server₃ pending time₃ (by simpa using woken₃), ?_⟩
  have reads : first.server.reading json .message = Option.some reading := by
    simp [Server.reading, phase₁, received, next, some, parsed, Except.toOption]
  rw [accepted₃, accepted₂, accepted₁, reads, reading_of_ne (by simp), reading_of_ne (by simp)]
  simp

end Timed

namespace Simulator

variable {draws : Draws} {scenario : Scenario}
  {json : Bytes → Except Bytes Json} {dumps : SimulatedReading → Bytes} {readings : List SimulatedReading}

theorem Written.mono {part : List SimulatedReading} (written : Written json dumps readings)
    (among : ∀ reading ∈ part, reading ∈ readings) : Written json dumps part where
  nonempty reading member := written.nonempty reading (among reading member)
  line reading member := written.line reading (among reading member)
  read reading member := written.read reading (among reading member)

theorem messages_sentBytes (written : Written json dumps readings) :
    messages (sentBytes dumps readings) = readings.map dumps := by
  induction readings with
  | nil => rfl
  | cons reading readings ih =>
    have rest : Written json dumps readings := written.mono fun other member => List.mem_cons_of_mem _ member
    have bytes : sentBytes dumps (reading :: readings) =
        dumps reading ++ Server.newline :: sentBytes dumps readings := by
      simp [sentBytes]
    rw [bytes, Server.messages_append (written.line reading List.mem_cons_self),
      if_neg (written.nonempty reading List.mem_cons_self), ih rest]
    rfl

theorem processed_eq {received : Bytes} {server : Server}
    (written : Written json dumps readings) (framed : Server.Framed [] received server)
    (arrived : received <+: sentBytes dumps readings) :
    server.processed = (readings.take server.processed.length).map dumps := by
  obtain ⟨connection, -, law, -⟩ := framed.connected
  obtain ⟨more, whole⟩ := arrived
  have parts := law more
  rw [whole, messages_sentBytes written, List.nil_append] at parts
  have start : server.processed <+: readings.map dumps := ⟨_, parts.symm⟩
  rw [List.map_take]
  exact List.prefix_iff_eq_take.mp start

theorem validReadings_sent (written : Written json dumps readings)
    (shows : ∀ reading ∈ readings, reading.Shows scenario) (count : ℕ) :
    validReadings json ((readings.take count).map dumps) = (readings.take count).map (·.received) := by
  rw [validReadings, List.filterMap_map, ← List.filterMap_eq_map]
  refine List.filterMap_congr fun reading member => ?_
  have among := List.mem_of_mem_take member
  have parsed := SimulatedReading.parse_json (written.read reading among) (shows reading among).named
    (shows reading among).typed
  simp [parsed, Except.toOption]

theorem lastOf_shows (shows : ∀ reading ∈ readings, reading.Shows scenario) (sensorId : Bytes) :
    (lastOf sensorId (readings.map (·.received))).map SensorReading.health =
      if ∃ reading ∈ readings, reading.sensorId = sensorId then some (scenario.health sensorId) else none := by
  cases last : lastOf sensorId (readings.map (·.received)) with
  | none =>
    rw [lastOf, List.getLast?_eq_none_iff, List.filter_eq_nil_iff, List.forall_mem_map] at last
    rw [if_neg, Option.map_none]
    rintro ⟨reading, member, same⟩
    exact last reading member (decide_eq_true same)
  | some found =>
    have member := List.mem_of_getLast? last
    rw [List.mem_filter, List.mem_map] at member
    obtain ⟨⟨reading, among, rfl⟩, same⟩ := member
    have same : reading.sensorId = sensorId := of_decide_eq_true same
    rw [if_pos ⟨reading, among, same⟩, Option.map_some, (shows reading among).health, same]

theorem sent_length_le (cycles sequenceNumber cycleNumber : ℕ) :
    (sendCycles draws scenario cycles sequenceNumber cycleNumber).length ≤ 4 * cycles := by
  induction cycles generalizing sequenceNumber cycleNumber with
  | zero => simp [sendCycles]
  | succ cycles ih =>
    have rest := ih (sequenceNumber + (createSensorCycle draws scenario sequenceNumber cycleNumber).length)
      (cycleNumber + 1)
    have length : (createSensorCycle draws scenario sequenceNumber cycleNumber).length ≤ 4 := by
      unfold createSensorCycle
      split <;> simp
    rw [sendCycles, List.length_append]
    omega

theorem received_numbers {cycles count : ℕ} (few : 4 * cycles + 2 < 2 ^ 64)
    (some : count ≤ (sent draws scenario cycles).length) :
    (((sent draws scenario cycles).take count).map (·.received)).map (·.sequenceNumber.toNat) =
      (List.range count).map (number scenario) := by
  have length := @sent_length_le draws scenario cycles 1 1
  have numbers : (((sent draws scenario cycles).take count).map (·.sequenceNumber)) =
      (List.range count).map (number scenario) := by
    rw [List.map_take, sent_numbers, ← List.map_take, List.take_range, min_eq_left some]
  rw [← numbers, List.map_map]
  refine List.map_congr_left fun reading member => ?_
  have among : reading.sequenceNumber ∈ (List.range count).map (number scenario) := by
    rw [← numbers]
    exact List.mem_map_of_mem member
  simp only [List.mem_map, List.mem_range, number] at among
  obtain ⟨index, less, same⟩ := among
  have small : reading.sequenceNumber < 2 ^ 64 := by
    unfold sent at some
    split at same <;> omega
  exact UInt64.toNat_ofNat_of_lt' small

def sampleDraws : Draws where
  temperature _ := 0
  voltage _ := 0
  position _ := 1 / 2
  motion _ := true
  timestamp _ := ascii "2026-07-23" ++ ascii "T17:39:36" ++ ascii "+00:00"
  temperature_range _ := by decide
  voltage_range _ := by decide
  position_range _ := by decide +kernel

def sampleValueText (value : ℚ) : String :=
  if value = 90 then "90.0"
  else if value = 68 then "68.0"
  else if value = Doubles.double 13.2 then "13.2"
  else if value = Doubles.double 11.8 then "11.8"
  else if value = 50 then "50.0"
  else "1.0"

def sampleText (value : Bytes) : Bytes := ascii "\"" ++ value ++ ascii "\""

def sampleDumps (reading : SimulatedReading) : Bytes :=
  ascii "\x7b" ++ sampleText (ascii "sensor_id") ++ ascii ": " ++ sampleText reading.sensorId ++
    ascii ", " ++ sampleText (ascii "sensor_type") ++ ascii ": " ++ sampleText reading.sensorType ++
    ascii ", " ++ sampleText (ascii "timestamp") ++ ascii ": " ++ sampleText reading.timestamp ++
    ascii ", " ++ sampleText (ascii "value") ++ ascii ": " ++ ascii (sampleValueText reading.value) ++
    ascii ", " ++ sampleText (ascii "unit") ++ ascii ": " ++ sampleText reading.unit ++
    ascii ", " ++ sampleText (ascii "sequence_number") ++ ascii ": " ++ ascii (toString reading.sequenceNumber) ++
    ascii "\x7d"

/-- The JSON library, for the texts of some readings. -/
def sampleJson (readings : List SimulatedReading) (text : Bytes) : Except Bytes Json :=
  (readings.find? fun reading => sampleDumps reading = text).elim (.error (ascii "parse_error")) fun reading =>
    .ok reading.json

def sampleStart (reading : SimulatedReading) : Bytes :=
  ascii "\x7b" ++ sampleText (ascii "sensor_id") ++ ascii ": " ++ sampleText reading.sensorId ++
    ascii ", " ++ sampleText (ascii "sensor_type") ++ ascii ": " ++ sampleText reading.sensorType ++
    ascii ", " ++ sampleText (ascii "timestamp") ++ ascii ": " ++ sampleText reading.timestamp ++
    ascii ", " ++ sampleText (ascii "value") ++ ascii ": " ++ ascii (sampleValueText reading.value) ++
    ascii ", " ++ sampleText (ascii "unit") ++ ascii ": " ++ sampleText reading.unit ++
    ascii ", " ++ sampleText (ascii "sequence_number")

/-- The end of a text, by which the texts of some readings are told apart. -/
def sampleEnd (sequenceNumber : ℕ) : Bytes := ascii ": " ++ ascii (toString sequenceNumber) ++ ascii "\x7d"

theorem sampleDumps_eq (reading : SimulatedReading) :
    sampleDumps reading = sampleStart reading ++ sampleEnd reading.sequenceNumber := by
  have regroup (first second third fourth : Bytes) :
      first ++ second ++ third ++ fourth = first ++ (second ++ third ++ fourth) := by
    simp only [List.append_assoc]
  exact regroup (sampleStart reading) (ascii ": ") (ascii (toString reading.sequenceNumber)) (ascii "\x7d")

theorem sample_ending (reading : SimulatedReading) :
    (sampleDumps reading).reverse.take 3 = (sampleEnd reading.sequenceNumber).reverse.take 3 := by
  have colon : (ascii ": ").length = 2 := by decide +kernel
  have brace : (ascii "\x7d").length = 1 := by decide +kernel
  have long : 3 ≤ (sampleEnd reading.sequenceNumber).reverse.length := by
    rw [List.length_reverse, sampleEnd, List.length_append, List.length_append, colon, brace]
    generalize (ascii (toString reading.sequenceNumber)).length = digits
    omega
  rw [sampleDumps_eq, List.reverse_append, List.take_append_of_le_length long]

theorem sample_written (line : ∀ reading ∈ readings, Server.newline ∉ sampleDumps reading)
    (distinct : ∀ reading ∈ readings, ∀ other ∈ readings, (sampleEnd other.sequenceNumber).reverse.take 3 =
      (sampleEnd reading.sequenceNumber).reverse.take 3 → other = reading) :
    Written (sampleJson readings) sampleDumps readings where
  nonempty := by
    intro reading _ empty
    have ending := sample_ending reading
    rw [empty, sampleEnd, List.reverse_append] at ending
    have brace : (ascii "\x7d").reverse = [125] := by decide +kernel
    rw [brace] at ending
    cases ending
  line := line
  read := by
    intro reading member
    rw [sampleJson]
    cases found : readings.find? fun other => sampleDumps other = sampleDumps reading with
    | none => exact absurd (decide_eq_true rfl) (List.find?_eq_none.mp found reading member)
    | some other =>
      have same : sampleDumps other = sampleDumps reading := by simpa using List.find?_some found
      rw [distinct reading member other (List.mem_of_find?_eq_some found)
        (by rw [← sample_ending, ← sample_ending, same])]
      rfl

variable {clock : ℕ → LocalTime} {connectedAt cycles : ℕ} {labels : List (ℕ × Action)} {server : Server}

/-- In every run in which the simulator is the first client and the monitor has received some of what it sends, cut
and delayed in any way: the messages that were processed are the first ones sent, read as they were and with the
sequence numbers that the simulator gave them; a sensor has a critical fault if it is timed out, and else the health
that the scenario gives it, once it has sent; the state is safe mode while a sensor is timed out, and else, from the
first complete cycle on, the state that the scenario is for. -/
theorem scenario_monitored (few : 4 * cycles + 2 < 2 ^ 64) (written : Written json dumps (sent draws scenario cycles))
    (run : Server.Runs json clock ((Server.startup clock).connect clock connectedAt) labels server)
    (serving : ∀ label ∈ labels, label.2.serves = true)
    (arrived : Server.stream labels <+: sentBytes dumps (sent draws scenario cycles)) :
    let called := server.processed
    let processed := (sent draws scenario cycles).take called.length
    called = processed.map dumps ∧ validReadings json called = processed.map (·.received) ∧
    (validReadings json called).map (·.sequenceNumber.toNat) = (List.range called.length).map (number scenario) ∧
    ∃ connection, server.phase = .connected connection ∧
      (∀ sensorId, server.stateManager.sensorHealth.lookup sensorId =
        if sensorId ∈ connection.timedOutSensors then some ⟨true, .critical⟩
        else if ∃ reading ∈ processed, reading.sensorId = sensorId then some (scenario.health sensorId)
        else none) ∧
      (connection.timedOutSensors ≠ ∅ → server.stateManager.currentState = .safeMode) ∧
      (connection.timedOutSensors = ∅ → 4 ≤ called.length →
        server.stateManager.currentState = scenario.state) := by
  intro called processed
  have start : ((Server.startup clock).connect clock connectedAt).phase = .connected (Server.opened connectedAt) := rfl
  have shows : ∀ reading ∈ sent draws scenario cycles, reading.Shows scenario := sendCycles_shows cycles 1 1
  have framed := Server.framed_run start run serving
  have calls : called = processed.map dumps := processed_eq written framed arrived
  have valid : validReadings json called = processed.map (·.received) := by
    rw [calls]
    exact validReadings_sent written shows _
  have count : called.length ≤ (sent draws scenario cycles).length := by
    have lengths := congrArg List.length calls
    rw [List.length_map, List.length_take] at lengths
    omega
  have empty : Server.Heard [] ((Server.startup clock).connect clock connectedAt) :=
    ⟨_, rfl, fun sensorId => rfl⟩
  obtain ⟨all, whole, connection, phase, reflects⟩ := Server.heard_run empty run serving
  rw [show all = called from whole.symm] at reflects
  have health : ∀ sensorId, server.stateManager.sensorHealth.lookup sensorId =
      if sensorId ∈ connection.timedOutSensors then some ⟨true, .critical⟩
      else if ∃ reading ∈ processed, reading.sensorId = sensorId then some (scenario.health sensorId)
      else none := by
    intro sensorId
    rw [reflects sensorId, List.nil_append, valid,
      lastOf_shows (fun reading member => shows reading (List.mem_of_mem_take member))]
  refine ⟨calls, valid, ?_, connection, phase, health, fun silent => ?_, fun sending four => ?_⟩
  · rw [valid]
    exact received_numbers few count
  · obtain ⟨sensorId, member⟩ := Finset.nonempty_iff_ne_empty.mpr silent
    have critical : server.stateManager.sensorHealth.Critical sensorId := by
      rw [HealthMap.Critical, health, if_pos member]
    rw [server.stateManager.recalculated]
    exact critical.safeMode
  · have known : ∀ sensorId, server.stateManager.sensorHealth.lookup sensorId =
        if sensorId ∈ expectedSensorIds then some (scenario.health sensorId) else none := by
      intro sensorId
      have among : (∃ reading ∈ processed, reading.sensorId = sensorId) ↔ sensorId ∈ expectedSensorIds := by
        constructor
        · rintro ⟨reading, member, rfl⟩
          exact (shows reading (List.mem_of_mem_take member)).expected
        · exact sent_first four count sensorId
      rw [health, sending, if_neg (Finset.notMem_empty _)]
      simp only [among]
    rw [server.stateManager.recalculated, HealthMap.state_of_lookups (by decide +kernel) scenario.health known]
    exact scenario.state_eq

theorem scenario_monitored_multiple_faults :
    let readings := sent sampleDraws .multipleFaults 1
    let server := (Server.startup Server.sampleClock).connect Server.sampleClock 0
    ∃ labels after, Server.Runs (sampleJson readings) Server.sampleClock server labels after ∧
      after.processed = readings.map sampleDumps ∧
      after.stateManager.currentState = .safeMode := by
  intro readings server
  have written : Written (sampleJson readings) sampleDumps readings :=
    sample_written (by decide +kernel) (by decide +kernel)
  have valid : ∀ input ∈ [Input.chunk (sentBytes sampleDumps readings)], input.Valid := by
    simp only [List.mem_singleton, forall_eq]
    exact ⟨by decide +kernel, by decide +kernel⟩
  have start : server.phase = .connected (Server.opened 0) := rfl
  obtain ⟨⟨labels, after, run, serving, receiving⟩, same⟩ :=
    Server.framing (sampleJson readings) Server.sampleClock start
      (show [Input.chunk (sentBytes sampleDumps readings)].flatMap Input.bytes = sentBytes sampleDumps readings by
        simp [Input.bytes]) valid
  have called := (same labels after run serving receiving).trans (messages_sentBytes written)
  have arrived : Server.stream labels <+: sentBytes sampleDumps readings := by
    rw [Server.stream, serving.inputs]
    simp [Input.bytes]
  obtain ⟨-, -, -, connection, -, -, silent, sending⟩ :=
    scenario_monitored (by decide) written run serving.serves arrived
  refine ⟨labels, after, run, called, ?_⟩
  by_cases quiet : connection.timedOutSensors = ∅
  · exact sending quiet (by rw [called]; decide)
  · exact silent quiet

theorem count_silent {cycles count : ℕ} (late : 12 ≤ count) :
    (((sent draws .sensorTimeout cycles).take count).map (·.sensorId)).count (ascii "TEMP-01") =
      (((sent draws .sensorTimeout cycles).take 12).map (·.sensorId)).count (ascii "TEMP-01") := by
  obtain ⟨more, rfl⟩ := Nat.exists_eq_add_of_le late
  rw [List.take_add, List.map_append, List.count_append, Nat.add_eq_left, List.count_eq_zero, List.mem_map]
  rintro ⟨reading, member, same⟩
  exact sent_silent cycles reading (List.mem_of_mem_take member) same

variable {timed first heard after : Timed} {later : List (ℕ × Action)}

theorem accepted_sent (written : Written json dumps (sent draws scenario cycles))
    (start : timed.server.phase = .connected (Server.opened connectedAt)) (fresh : timed.server.processed = [])
    (none : timed.accepted = []) (run : Timed.Runs json clock timed labels after)
    (serving : ∀ label ∈ labels, label.2.serves = true)
    (arrived : Server.stream labels <+: sentBytes dumps (sent draws scenario cycles)) :
    after.accepted.map Prod.fst =
      ((sent draws scenario cycles).take after.accepted.length).map (·.sensorId) := by
  have framed := Server.framed_run start (Timed.server_run run) serving
  rw [fresh] at framed
  have called := processed_eq written framed arrived
  obtain ⟨all, whole, names⟩ := Timed.accepted_run run
  rw [fresh, List.nil_append] at whole
  rw [none, List.map_nil, List.nil_append, ← whole, called, validReadings_sent written (sendCycles_shows cycles 1 1),
    List.map_map] at names
  have count := congrArg List.length names
  rw [List.length_map, List.length_map, List.length_take] at count
  have same := @List.take_eq_take_iff _ (sent draws scenario cycles) after.accepted.length
    after.server.processed.length
  rw [names, same.mpr (by omega)]
  rfl

/-- In the scenario of a silent sensor: once its three messages and those of the other sensors in these cycles have
been accepted, it is never heard again, and from two and a half seconds after its last message on it has a critical
fault and the state is safe mode, whatever the rest of the connection brings. -/
theorem silent_sensor_detected (written : Written json dumps (sent draws .sensorTimeout cycles))
    (run : Timed.Runs json clock (Timed.startup clock) ((connectedAt, .connect) :: labels) heard)
    (rest : Timed.Runs json clock heard later after)
    (serving : ∀ label ∈ labels ++ later, label.2.serves = true)
    (arrived : Server.stream (labels ++ later) <+: sentBytes dumps (sent draws .sensorTimeout cycles))
    (three : 12 ≤ heard.accepted.length) :
    after.acceptedFrom (ascii "TEMP-01") = heard.acceptedFrom (ascii "TEMP-01") ∧
      ∀ now, after.Moment now → heard.silentSince (ascii "TEMP-01") + sensorTimeout + receiveTimeout < now →
        after.Critical (ascii "TEMP-01") ∧ after.server.stateManager.currentState = .safeMode := by
  have sound := Timed.Sound.of_run (run.append rest)
  obtain ⟨timed, connected, earlier⟩ := run.cons_inv
  have moved := Timed.step_eq_some connected
  have server : (Server.startup clock).connect clock connectedAt = timed.server := Option.some.inj moved.2.1
  have start : timed.server.phase = .connected (Server.opened connectedAt) := by
    rw [← server]
    rfl
  have fresh : timed.server.processed = [] := by
    rw [← server]
    rfl
  have none : timed.accepted = [] := moved.2.2.2.2.2
  rw [List.forall_mem_append] at serving
  have front : Server.stream labels <+: sentBytes dumps (sent draws .sensorTimeout cycles) := by
    rw [Server.stream_append] at arrived
    exact (List.prefix_append _ _).trans arrived
  have heardNames := accepted_sent written start fresh none earlier serving.1 front
  have names := accepted_sent written start fresh none (earlier.append rest)
    (List.forall_mem_append.mpr serving) arrived
  have later : 12 ≤ after.accepted.length := by
    obtain ⟨_, -, grown⟩ := Timed.accepted_run rest
    have lengths := congrArg List.length grown
    rw [List.length_append, List.length_map, List.length_map] at lengths
    omega
  have same : after.acceptedFrom (ascii "TEMP-01") = heard.acceptedFrom (ascii "TEMP-01") := by
    refine ((Timed.acceptedFrom_run _ rest).eq_of_length ?_).symm
    rw [Timed.length_acceptedFrom, Timed.length_acceptedFrom, heardNames, names, count_silent three,
      count_silent later]
  refine ⟨same, fun now moment silent => ?_⟩
  obtain ⟨connection, phase, -, -⟩ := (Server.framed_run start (Timed.server_run (earlier.append rest))
    (List.forall_mem_append.mpr serving)).connected
  have since : after.silentSince (ascii "TEMP-01") = heard.silentSince (ascii "TEMP-01") := by
    rw [Timed.silentSince, Timed.silentSince, same, Timed.connectedAt_run rest serving.2]
  have critical := sound.critical_of_silent phase List.mem_cons_self moment (since ▸ silent)
  exact ⟨critical, critical.safeMode⟩

theorem readings_served (clock : ℕ → LocalTime) {now : ℕ} (idle : timed.Idle now)
    (written : Written json dumps readings) (shows : ∀ reading ∈ readings, reading.Shows scenario)
    (short : ∀ reading ∈ readings, (dumps reading).length < receiveBufferSize) :
    ∃ labels after, Timed.Runs json clock timed labels after ∧ after.Idle now ∧
      after.accepted = timed.accepted ++ readings.map (fun reading => (reading.sensorId, now)) ∧
      (∀ label ∈ labels, label.2.serves = true) ∧ Server.stream labels = sentBytes dumps readings := by
  induction readings using List.reverseRecOn with
  | nil => exact ⟨[], timed, .nil _, idle, by simp, by simp, rfl⟩
  | append_singleton readings reading ih =>
    have front : Written json dumps readings := written.mono fun other member => List.mem_append_left _ member
    obtain ⟨labels, middle, run, waits, accepted, serving, bytes⟩ := ih front
      (fun other member => shows other (List.mem_append_left _ member))
      (fun other member => short other (List.mem_append_left _ member))
    have last : reading ∈ readings ++ [reading] := List.mem_append_right _ (List.mem_singleton_self _)
    have parsed := SimulatedReading.parse_json (written.read reading last) (shows reading last).named
      (shows reading last).typed
    obtain ⟨after, more, idle, grown⟩ := waits.message clock parsed (written.nonempty reading last)
      (written.line reading last) (short reading last)
    refine ⟨_, after, run.append more, idle, ?_, ?_, ?_⟩
    · rw [grown, accepted, List.map_append, List.append_assoc]
      rfl
    · exact List.forall_mem_append.mpr ⟨serving, by simp [Action.serves]⟩
    · rw [Server.stream_append, bytes, sentBytes, sentBytes, List.flatMap_append]
      simp [Server.stream, Action.input, Input.bytes]

theorem silence_served (json : Bytes → Except Bytes Json) (clock : ℕ → LocalTime) {now : ℕ}
    (idle : timed.Idle now) (periods : ℕ) :
    ∃ labels after, Timed.Runs json clock timed labels after ∧ after.Idle (now + periods * receiveTimeout) ∧
      after.accepted = timed.accepted ∧ (∀ label ∈ labels, label.2.serves = true) ∧ Server.stream labels = [] := by
  induction periods with
  | zero => exact ⟨[], timed, .nil _, by simpa using idle, rfl, by simp, rfl⟩
  | succ periods ih =>
    obtain ⟨labels, middle, run, waits, accepted, serving, bytes⟩ := ih
    obtain ⟨after, stepped, idle, same⟩ := @Timed.Idle.silence middle _ json clock waits
      (now + (periods + 1) * receiveTimeout) (by rw [Nat.add_mul]; omega)
    refine ⟨_, after, run.snoc stepped, idle, same.trans accepted, ?_, ?_⟩
    · exact List.forall_mem_append.mpr ⟨serving, by simp [Action.serves]⟩
    · rw [Server.stream_append, bytes]
      rfl

theorem silent_sensor_detected_idle :
    let json := sampleJson (sent sampleDraws .sensorTimeout 3)
    ∃ labels after, Timed.Runs json Server.sampleClock (Timed.startup Server.sampleClock)
        ((0, .connect) :: labels) after ∧
      after.accepted.length = 12 ∧ after.Critical (ascii "TEMP-01") ∧
      after.server.stateManager.currentState = .safeMode := by
  intro json
  have lines : ∀ reading ∈ sent sampleDraws .sensorTimeout 3,
      Server.newline ∉ sampleDumps reading ∧ (sampleDumps reading).length < receiveBufferSize := by decide +kernel
  have written : Written json sampleDumps (sent sampleDraws .sensorTimeout 3) :=
    sample_written (fun reading member => (lines reading member).1) (by decide +kernel)
  obtain ⟨timed, connected, idle, none⟩ : ∃ timed, (Timed.startup Server.sampleClock).step json Server.sampleClock
      (0, .connect) = some timed ∧ timed.Idle 0 ∧ timed.accepted = [] :=
    ⟨_, rfl, ⟨⟨Server.opened 0, rfl, rfl, rfl⟩, rfl, rfl⟩, rfl⟩
  obtain ⟨labels, heard, run, waits, accepted, serving, bytes⟩ :=
    readings_served Server.sampleClock idle written (sendCycles_shows 3 1 1)
      fun reading member => (lines reading member).2
  obtain ⟨later, after, rest, silent, kept, waiting, quiet⟩ := silence_served json Server.sampleClock waits 5
  rw [none, List.nil_append] at accepted
  have three : heard.accepted.length = 12 := by
    rw [accepted, List.length_map]
    decide +kernel
  have detected := silent_sensor_detected written (run.cons connected) rest
    (List.forall_mem_append.mpr ⟨serving, waiting⟩) (by rw [Server.stream_append, bytes, quiet, List.append_nil])
    three.ge
  have since : heard.silentSince (ascii "TEMP-01") = 0 := by
    have start : heard.connectedAt = 0 := (Timed.connectedAt_run run serving).trans (by cases connected; rfl)
    have last := @Timed.lastAccepted_le heard 0 (by simp [accepted]) (ascii "TEMP-01")
    rw [Timed.silentSince, start]
    omega
  have safe := detected.2 _ (silent.moment ⟨Nat.le_add_right _ 100000000, by decide⟩) (by rw [since]; decide)
  exact ⟨labels ++ later, after, (run.cons connected).append rest, by rw [kept, three], safe.1, safe.2⟩

end Simulator

end CareerProjects.SensorMonitor
