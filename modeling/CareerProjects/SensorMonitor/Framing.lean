import CareerProjects.Library.Lines
import CareerProjects.SensorMonitor.Server
import Mathlib.Data.List.TakeWhile

/-! The messages of a connection: which texts are processed depends on the bytes that have come, not on
the chunks they came in nor on the timeouts between them. -/

namespace CareerProjects.SensorMonitor

open Library

inductive Input
  | chunk (bytes : Bytes)
  | timeout
  deriving DecidableEq

def Action.input : Action → Option Input
  | .receive chunk => some (.chunk chunk)
  | .receiveTimeout => some .timeout
  | _ => none

def Action.serves : Action → Bool
  | .receive _ => true
  | .message => true
  | .check => true
  | .receiveTimeout => true
  | _ => false

def Input.bytes : Input → Bytes
  | .chunk bytes => bytes
  | .timeout => []

def Input.Valid : Input → Prop
  | .chunk bytes => bytes ≠ [] ∧ bytes.length ≤ receiveBufferSize
  | .timeout => True

/-- The nonempty parts of a stream that a newline ends. -/
def messages (stream : Bytes) : List Bytes := (terminated Server.newline stream).filter (· ≠ [])

namespace Server

def Receiving (server : Server) : Prop :=
  ∃ connection, server.phase = .connected connection ∧ connection.processing = false

variable {json : Bytes → Except Bytes Json} {clock : ℕ → LocalTime} {server middle after : Server}
  {labels more : List (ℕ × Action)}

theorem messages_append {message rest : Bytes} (plain : newline ∉ message) :
    messages (message ++ newline :: rest) = (if message = [] then [] else [message]) ++ messages rest := by
  rw [messages, terminated_append plain, List.filter_cons]
  by_cases empty : message = []
  · simp [empty, messages]
  · simp [empty, messages]

theorem messages_of_notMem {stream : Bytes} (plain : newline ∉ stream) : messages stream = [] := by
  rw [messages, terminated_of_not_mem plain]
  rfl

theorem takeMessage_phase (json : Bytes → Except Bytes Json) (clock : ℕ → LocalTime) (now : ℕ)
    (message rest : Bytes) (connection : Connection) (server : Server) :
    ∃ next, (takeMessage json clock now message rest connection server).phase = .connected next ∧
      next.pendingData = rest ∧ next.processing = connection.processing := by
  unfold takeMessage
  split
  · exact ⟨_, rfl, rfl, rfl⟩
  · refine ⟨_, rfl, ?_⟩
    unfold processSensorMessage
    split <;> exact ⟨rfl, rfl⟩

def stream (labels : List (ℕ × Action)) : Bytes := (labels.filterMap (Action.input ·.2)).flatMap Input.bytes

theorem stream_append : stream (labels ++ more) = stream labels ++ stream more := by
  rw [stream, List.filterMap_append, List.flatMap_append]
  rfl

/-- What has been processed since an earlier state and what is pending are together what has come. -/
structure Framed (earlier : List Bytes) (received : Bytes) (server : Server) : Prop where
  connected : ∃ connection, server.phase = .connected connection ∧
    (∀ more, earlier ++ messages (received ++ more) =
      server.processed ++ messages (connection.pendingData ++ more)) ∧
    (connection.processing = false → newline ∉ connection.pendingData)

variable {earlier : List Bytes}

theorem framed_step {received : Bytes} {label : ℕ × Action}
    (framed : Framed earlier received server) (serves : label.2.serves = true)
    (moved : server.next json clock label = some after) :
    Framed earlier (received ++ stream [label]) after := by
  obtain ⟨connection, phase, law, idle⟩ := framed.connected
  obtain ⟨now, action⟩ := label
  cases action with
  | receive chunk =>
    simp only [next, step, phase] at moved
    split at moved
    · cases moved
      refine ⟨_, rfl, fun more => ?_, fun waiting => by cases waiting⟩
      have bytes : stream [(now, Action.receive chunk)] = chunk := by simp [stream, Action.input, Input.bytes]
      rw [bytes, List.append_assoc, law, List.append_assoc]
    · cases moved
  | message =>
    simp only [next, step, phase] at moved
    split at moved
    · next processing =>
      rw [Option.map_eq_some_iff] at moved
      obtain ⟨⟨message, rest⟩, found, rfl⟩ := moved
      obtain ⟨shape, plain⟩ := nextMessage_eq found
      obtain ⟨next, connected, pending, kept⟩ := takeMessage_phase json clock now message rest connection server
      refine ⟨next, connected, fun more => ?_, fun waiting => by rw [kept, processing] at waiting; cases waiting⟩
      have bytes : stream [(now, Action.message)] = [] := rfl
      rw [bytes, List.append_nil, law, shape, pending, List.append_assoc, List.cons_append, messages_append plain,
        takeMessage_processed, List.append_assoc]
    · cases moved
  | check =>
    simp only [next, step, phase] at moved
    split at moved
    · next drained =>
      cases moved
      refine ⟨_, rfl, fun more => ?_, fun _ => newline_notMem drained.2⟩
      have bytes : stream [(now, Action.check)] = [] := rfl
      rw [bytes, List.append_nil, law, check_processed]
    · cases moved
  | receiveTimeout =>
    simp only [next, step, phase] at moved
    split at moved
    · next waiting =>
      cases moved
      refine ⟨_, rfl, fun more => ?_, fun _ => idle (by simpa using waiting)⟩
      have bytes : stream [(now, Action.receiveTimeout)] = [] := rfl
      rw [bytes, List.append_nil, law, check_processed]
    · cases moved
  | connect => cases serves
  | acceptFailure => cases serves
  | disconnect => cases serves
  | networkError => cases serves

theorem framed_run {now : ℕ} (start : server.phase = .connected (opened now))
    (run : Runs json clock server labels after) (serving : ∀ label ∈ labels, label.2.serves = true) :
    Framed server.processed (stream labels) after := by
  induction run with
  | nil =>
    refine ⟨_, start, fun more => rfl, fun _ => List.not_mem_nil⟩
  | @snoc middle after labels label earlier last ih =>
    rw [List.forall_mem_append, List.forall_mem_singleton] at serving
    rw [stream_append]
    exact framed_step (ih serving.1) serving.2 last

/-- Steps that keep the connection and take these inputs. -/
structure Serving (inputs : List Input) (labels : List (ℕ × Action)) : Prop where
  inputs : labels.filterMap (Action.input ·.2) = inputs
  serves : ∀ label ∈ labels, label.2.serves = true

theorem Serving.append {first second : List Input} (front : Serving first labels) (back : Serving second more) :
    Serving (first ++ second) (labels ++ more) where
  inputs := by rw [List.filterMap_append, front.inputs, back.inputs]
  serves := List.forall_mem_append.mpr ⟨front.serves, back.serves⟩

theorem check_receiving (now : ℕ) (connection : Connection) : (check clock now connection server).Receiving :=
  ⟨_, rfl, rfl⟩

theorem drained (json : Bytes → Except Bytes Json) (clock : ℕ → LocalTime) (now : ℕ)
    {connection : Connection} (phase : server.phase = .connected connection)
    (processing : connection.processing = true) :
    ∃ labels after, Runs json clock server labels after ∧ Serving [] labels ∧ after.Receiving := by
  induction size : connection.pendingData.length using Nat.strongRecOn generalizing server connection with
  | ind n ih =>
    cases found : nextMessage connection.pendingData with
    | none =>
      have moved : server.next json clock (now, .check) = some (check clock now connection server) := by
        simp [next, step, phase, processing, found]
      exact ⟨[(now, .check)], _, .single moved, ⟨rfl, by simp [Action.serves]⟩, check_receiving now connection⟩
    | some parts =>
      obtain ⟨message, rest⟩ := parts
      have moved : server.next json clock (now, .message) =
          some (takeMessage json clock now message rest connection server) := by
        simp [next, step, phase, processing, found]
      obtain ⟨following, connected, pending, kept⟩ := takeMessage_phase json clock now message rest connection server
      have shorter : following.pendingData.length < n := by
        rw [pending, ← size, (nextMessage_eq found).1, List.length_append, List.length_cons]
        omega
      obtain ⟨labels, after, run, serving, receiving⟩ := ih _ shorter connected (kept.trans processing) rfl
      refine ⟨(now, .message) :: labels, after, run.cons moved, ⟨serving.inputs, ?_⟩, receiving⟩
      exact List.forall_mem_cons.mpr ⟨rfl, serving.serves⟩

theorem input_served (json : Bytes → Except Bytes Json) (clock : ℕ → LocalTime) (now : ℕ)
    {input : Input} (valid : input.Valid) (receiving : server.Receiving) :
    ∃ labels after, Runs json clock server labels after ∧ Serving [input] labels ∧ after.Receiving := by
  obtain ⟨connection, phase, waiting⟩ := receiving
  cases input with
  | timeout =>
    have moved : server.next json clock (now, .receiveTimeout) = some (check clock now connection server) := by
      simp [next, step, phase, waiting]
    exact ⟨[(now, .receiveTimeout)], _, .single moved, ⟨rfl, by simp [Action.serves]⟩,
      check_receiving now connection⟩
  | chunk bytes =>
    let received : Connection :=
      { connection with pendingData := connection.pendingData ++ bytes, processing := true }
    have moved : server.next json clock (now, .receive bytes) =
        some { server with phase := .connected received } := by
      simp [next, step, phase, waiting, valid.1, valid.2, received]
    have phase' : ({ server with phase := .connected received } : Server).phase = .connected received := rfl
    obtain ⟨labels, after, run, serving, receiving⟩ := drained json clock now phase' rfl
    refine ⟨(now, .receive bytes) :: labels, after, run.cons moved, ⟨?_, ?_⟩, receiving⟩
    · rw [List.filterMap_cons, serving.inputs]
      rfl
    · exact List.forall_mem_cons.mpr ⟨rfl, serving.serves⟩

theorem inputs_served (json : Bytes → Except Bytes Json) (clock : ℕ → LocalTime) (now : ℕ)
    {inputs : List Input} (valid : ∀ input ∈ inputs, input.Valid)
    (receiving : server.Receiving) :
    ∃ labels after, Runs json clock server labels after ∧ Serving inputs labels ∧ after.Receiving := by
  induction inputs generalizing server with
  | nil => exact ⟨[], server, .nil server, ⟨rfl, by simp⟩, receiving⟩
  | cons input inputs ih =>
    rw [List.forall_mem_cons] at valid
    obtain ⟨front, middle, first, serving, waiting⟩ := input_served json clock now valid.1 receiving
    obtain ⟨back, after, second, servings, last⟩ := ih valid.2 waiting
    exact ⟨front ++ back, after, first.append second, serving.append servings, last⟩

/-- A connection's stream can be served in every way it is cut into chunks, with timeouts anywhere, and
each time the calls of `processSensorMessage` are the nonempty parts of the stream that a newline
ends. -/
theorem framing (json : Bytes → Except Bytes Json) (clock : ℕ → LocalTime) {now : ℕ} {server : Server}
    (start : server.phase = .connected (opened now)) {bytes : Bytes} {inputs : List Input}
    (cut : inputs.flatMap Input.bytes = bytes) (valid : ∀ input ∈ inputs, input.Valid) :
    (∃ labels after, Runs json clock server labels after ∧ Serving inputs labels ∧ after.Receiving) ∧
      ∀ labels after, Runs json clock server labels after → Serving inputs labels → after.Receiving →
        after.processed = server.processed ++ messages bytes := by
  refine ⟨inputs_served json clock now valid ⟨_, start, rfl⟩, ?_⟩
  intro labels after run serving receiving
  obtain ⟨connection, phase, law, idle⟩ := (framed_run start run serving.serves).connected
  obtain ⟨same, connected, waiting⟩ := receiving
  rw [phase, Phase.connected.injEq] at connected
  have plain := idle (connected ▸ waiting)
  have all := law []
  rw [List.append_nil, List.append_nil, messages_of_notMem plain, List.append_nil] at all
  rw [← all, stream, serving.inputs, cut]

theorem framing_split : ∃ labels after,
    Runs (fun _ => .error []) sampleClock ((startup sampleClock).connect sampleClock 0) labels after ∧
      Serving [.chunk (ascii "ab"), .timeout, .chunk (ascii "c\nd")] labels ∧
      after.processed = [ascii "abc"] := by
  have start : ((startup sampleClock).connect sampleClock 0).phase = .connected (opened 0) := rfl
  have valid : ∀ input ∈ [Input.chunk (ascii "ab"), .timeout, .chunk (ascii "c\nd")], input.Valid := by
    intro input member
    simp only [List.mem_cons, List.not_mem_nil, or_false] at member
    rcases member with rfl | rfl | rfl
    · exact ⟨by decide +kernel, by decide +kernel⟩
    · trivial
    · exact ⟨by decide +kernel, by decide +kernel⟩
  obtain ⟨⟨labels, after, run, serving, receiving⟩, same⟩ :=
    framing (fun _ => .error []) sampleClock start rfl valid
  refine ⟨labels, after, run, serving, ?_⟩
  rw [same labels after run serving receiving]
  decide +kernel

end Server

end CareerProjects.SensorMonitor
