import CareerProjects.JobQueue.Execution
import CareerProjects.JobQueue.Payloads
import CareerProjects.Library.Lines
import CareerProjects.Library.PythonTexts

/-! The registered tasks: what a handler makes of a payload as the table holds it, and what the workers then store.
How `repr` quotes a text is a parameter. -/

namespace CareerProjects.JobQueue
open Library

abbrev TaskData := List (String × Document String PayloadScalar)

/-- The exceptions of `execute_task`, of which all but the last are `TaskHandlerError`s. -/
inductive TaskError
  | unknownTask (taskName : String)
  | invalidTaskPayload (message : String)
  | overflow
  deriving DecidableEq

def TaskError.failure : TaskError → TaskFailure
  | .unknownTask taskName => ⟨"UnknownTaskError: No handler registered for task: " ++ taskName, true⟩
  | .invalidTaskPayload message => ⟨"InvalidTaskPayloadError: " ++ message, true⟩
  | .overflow => ⟨"OverflowError: int too large to convert to float", false⟩

/-- `float(delay)`, and the number it is; an infinity is none. -/
def toFloat : PythonNumber → Except TaskError (Option ℚ)
  | .int value =>
    match Magnitude.nearest (value.natAbs * 2 ^ Library.scale) with
    | none => .error .overflow
    | some magnitude => .ok (some (signed (value < 0) magnitude.value))
  | .float (.finite negative magnitude) => .ok (some (signed negative magnitude.value))
  | .float (.infinity _) => .ok none

def defaultDelay : ℚ := 3602879701896397 / 2 ^ 55

/-- Read and validate an optional simulated processing delay. -/
def processingDelay (payload : TaskData) : Except TaskError ℚ :=
  match payload.lookup "delay_seconds" with
  | none => .ok defaultDelay
  | some (.scalar (.number delay)) => do
    match ← toFloat delay with
    | none => .error (.invalidTaskPayload "delay_seconds must be between 0 and 30")
    | some seconds =>
      if 0 ≤ seconds ∧ seconds ≤ 30 then .ok seconds
      else .error (.invalidTaskPayload "delay_seconds must be between 0 and 30")
  | some _ => .error (.invalidTaskPayload "delay_seconds must be a number")

section tasks

variable (quote : String → String)

def reprScalar : PayloadScalar → String
  | .text value => quote value
  | .number value => value.text
  | .boolean value => if value then "True" else "False"
  | .null => "None"

def str : Document String PayloadScalar → String
  | .scalar (.text value) => value
  | value => value.repr quote (reprScalar quote)

def textItem (value : String) : Document String PayloadScalar := .scalar (.text value)

def generateReport (payload : TaskData) : Except TaskError TaskData := do
  let _ ← processingDelay payload
  return [("report_id", textItem (str quote ((payload.lookup "report_id").getD (textItem "generated-report")))),
    ("format", textItem (str quote ((payload.lookup "format").getD (textItem "json")))),
    ("generated", .scalar (.boolean true))]

def sendEmail (payload : TaskData) : Except TaskError TaskData :=
  match payload.lookup "recipient" with
  | some (.scalar (.text recipient)) =>
    if (Library.strip recipient.toList).isEmpty then
      .error (.invalidTaskPayload "recipient must be a non-empty string")
    else do
      let _ ← processingDelay payload
      return [("recipient", textItem recipient), ("status", textItem "accepted"), ("simulated", .scalar (.boolean true))]
  | _ => .error (.invalidTaskPayload "recipient must be a non-empty string")

def echo (payload : TaskData) : Except TaskError TaskData := do
  let _ ← processingDelay payload
  return [("echo", .object payload)]

/-- A registry decouples the worker runtime from individual task implementations. -/
def taskHandlers : List (String × (TaskData → Except TaskError TaskData)) :=
  [("generate-report", generateReport quote), ("send-email", sendEmail), ("echo", echo)]

def executeTask (taskName : String) (payload : TaskData) : Except TaskError TaskData :=
  match (taskHandlers quote).lookup taskName with
  | none => .error (.unknownTask taskName)
  | some handler => handler payload

def loadData (stored : Jsonb) : TaskData :=
  match loadPayload stored with
  | .object entries => entries
  | _ => []

def storeData (data : TaskData) : Jsonb := ((Document.object data).map PayloadScalar.toJsonb).arrange jsonbKeyOrder

def registeredTasks : TaskHandlers Jsonb := fun taskName payload =>
  match executeTask quote taskName (loadData payload) with
  | .ok result => .ok (storeData result)
  | .error error => .error error.failure

end tasks

namespace PayloadScalar

/-- A value that comes back as it was written: no infinity, and no float that is written as another number. -/
def Settled (value : PayloadScalar) : Prop := pythonEqual value.stored value = true

theorem magnitude_of_value {magnitude other : Magnitude} (same : magnitude.value = other.value) : magnitude = other := by
  have scale : (2 : ℚ) ^ Library.scale ≠ 0 := by positivity
  have units : (magnitude.units : ℚ) = other.units := by
    rw [Magnitude.value, Magnitude.value, div_left_inj' scale] at same
    exact same
  have rounds := other.nearest_units
  rw [← units, magnitude.nearest_units] at rounds
  exact Option.some.inj rounds

theorem settled_int (value : ℤ) : Settled (.number (.int value)) := by
  have back : (Numeral.ofInt value).numeric.numeral.loads = .int value := Numeral.stored_ofInt value
  simp [Settled, stored, toJsonb, ofJsonb, back, pythonEqual_number, pythonNumber]

theorem settled_float (negative : Bool) {magnitude : Magnitude} (pointed : ¬magnitude.Whole) :
    Settled (.number (.float (.finite negative magnitude))) := by
  have exact := magnitude.exact_stored negative
  rw [if_neg pointed, Numeral.stored] at exact
  have back : stored (.number (.float (.finite negative magnitude))) =
    .number (magnitude.repr negative).numeric.numeral.loads := rfl
  rw [Settled, back, pythonEqual_number, exact]
  exact beq_self_eq_true _

theorem settled_stored {value : PayloadScalar} (storable : value.storable = true) : value.stored.Settled := by
  cases value with
  | number number =>
    cases number with
    | int value =>
      have back : stored (.number (.int value)) = .number (.int value) :=
        congrArg PayloadScalar.number (Numeral.stored_ofInt value)
      rw [back]
      exact settled_int value
    | float value =>
      cases value with
      | infinity negative => cases storable
      | finite negative magnitude =>
        have exact := magnitude.exact_stored negative
        have back : stored (.number (.float (.finite negative magnitude))) =
          .number (magnitude.repr negative).stored := rfl
        rw [back]
        cases result : (magnitude.repr negative).stored with
        | int value => exact settled_int value
        | float value =>
          cases value with
          | infinity negative' =>
            rw [result] at exact
            cases exact
          | finite negative' magnitude' =>
            refine settled_float negative' fun whole' => ?_
            by_cases whole : magnitude.Whole
            · have unscaled : (magnitude.repr negative).numeric.scale = 0 := by
                rw [Numeral.numeric, if_pos ((Magnitude.repr_power_nonneg whole.1 negative).mpr whole)]
              rw [Numeral.stored, Numeric.loads_numeral_of_scale unscaled] at result
              cases result
            · rw [result, if_neg whole, PythonNumber.exact, Extended.finite.injEq] at exact
              have nonneg : ∀ m : Magnitude, 0 ≤ m.value := fun m => by unfold Magnitude.value; positivity
              have size : |signed negative' magnitude'.value| = |signed negative magnitude.value| := congrArg abs exact
              have abs_signed : ∀ (b : Bool) (m : Magnitude), |signed b m.value| = m.value := by
                intro b m
                cases b <;> simp [signed, abs_of_nonneg (nonneg m)]
              rw [abs_signed, abs_signed] at size
              exact whole (magnitude_of_value size ▸ whole')
  | text | boolean | null => simp [Settled, stored, toJsonb, ofJsonb, pythonEqual, pythonNumber]

end PayloadScalar

theorem loadPayload_storeData {data : TaskData} (distinct : (Document.object data).distinct = true)
    (settled : ∀ value ∈ (Document.object data).scalars, value.Settled) :
    (loadPayload (storeData data)).equal PayloadScalar.pythonEqual (.object data) = true := by
  have loaded := Document.equal_map PayloadScalar.pythonEqual PayloadScalar.ofJsonb id (storeData data) (.object data)
  have dumped := Document.equal_map (fun value => PayloadScalar.pythonEqual (PayloadScalar.ofJsonb value))
    PayloadScalar.toJsonb id (.object data) (.object data)
  rw [Document.map_id] at loaded dumped
  refine loaded.mpr ((Document.equal_arrange _ jsonbKeyOrder _ _).mpr (dumped.mpr ?_))
  exact (Document.equal_self distinct).mpr settled

theorem loadData_dumped (payload : JsonPayload) :
    loadPayload payload.dumped = .object (loadData payload.dumped) ∧
      (loadPayload payload.dumped).distinct = true ∧
      ∀ value ∈ (loadPayload payload.dumped).scalars, value.Settled := by
  refine ⟨?_, ?_, ?_⟩
  · rw [JsonPayload.dumped, JsonPayload.document, Document.map, Document.arrange, loadPayload, Document.map]
    rfl
  · rw [loadPayload, Document.distinct_map, JsonPayload.dumped, Document.distinct_arrange, Document.distinct_map]
    exact payload.document_distinct
  · intro value member
    rw [loadPayload, Document.scalars_map, List.mem_map] at member
    obtain ⟨written, inside, rfl⟩ := member
    rw [JsonPayload.dumped, Document.mem_scalars_arrange, Document.scalars_map, List.mem_map] at inside
    obtain ⟨original, known, rfl⟩ := inside
    exact PayloadScalar.settled_stored (payload.storable_scalar original known)

section ends

variable {quote : String → String} {taskName : String} {payload data : TaskData}

inductive TaskReturns (quote : String → String) (payload : TaskData) : String → TaskData → Prop
  | generateReport : TaskReturns quote payload "generate-report"
    [("report_id", textItem (str quote ((payload.lookup "report_id").getD (textItem "generated-report")))),
      ("format", textItem (str quote ((payload.lookup "format").getD (textItem "json")))),
      ("generated", .scalar (.boolean true))]
  | sendEmail {recipient : String} (given : payload.lookup "recipient" = some (textItem recipient))
    (named : Library.strip recipient.toList ≠ []) : TaskReturns quote payload "send-email"
    [("recipient", textItem recipient), ("status", textItem "accepted"), ("simulated", .scalar (.boolean true))]
  | echo : TaskReturns quote payload "echo" [("echo", .object payload)]

theorem bind_eq_ok {α β : Type} {action : Except TaskError α} {next : α → Except TaskError β} {value : β}
    (returns : action >>= next = .ok value) : ∃ item, action = .ok item ∧ next item = .ok value := by
  cases action with
  | error error => cases returns
  | ok item => exact ⟨item, rfl, returns⟩

theorem processingDelay_range {seconds : ℚ} (taken : processingDelay payload = .ok seconds) :
    0 ≤ seconds ∧ seconds ≤ 30 := by
  unfold processingDelay at taken
  split at taken
  · cases taken
    unfold defaultDelay
    norm_num
  · obtain ⟨value, -, taken⟩ := bind_eq_ok taken
    split at taken
    · cases taken
    · split at taken
      · next range =>
        cases taken
        exact range
      · cases taken
  · cases taken

theorem taskReturns_of_ok (returns : executeTask quote taskName payload = .ok data) :
    TaskReturns quote payload taskName data ∧ ∃ seconds, processingDelay payload = .ok seconds := by
  unfold executeTask taskHandlers at returns
  rw [List.lookup_cons, List.lookup_cons, List.lookup_cons, List.lookup_nil] at returns
  by_cases report : taskName = "generate-report"
  · subst report
    obtain ⟨seconds, delay, returns⟩ := bind_eq_ok returns
    cases returns
    exact ⟨.generateReport, seconds, delay⟩
  · rw [beq_false_of_ne report] at returns
    by_cases email : taskName = "send-email"
    · subst email
      have sends : CareerProjects.JobQueue.sendEmail payload = .ok data := returns
      unfold CareerProjects.JobQueue.sendEmail at sends
      split at sends
      · next recipient given =>
        split at sends
        · cases sends
        · next named =>
          obtain ⟨seconds, delay, sends⟩ := bind_eq_ok sends
          cases sends
          exact ⟨.sendEmail given fun blank => named (by rw [blank]; rfl), seconds, delay⟩
      · cases sends
    · rw [beq_false_of_ne email] at returns
      by_cases echoes : taskName = "echo"
      · subst echoes
        obtain ⟨seconds, delay, returns⟩ := bind_eq_ok returns
        cases returns
        exact ⟨.echo, seconds, delay⟩
      · rw [beq_false_of_ne echoes] at returns
        cases returns

theorem returned_settled (distinct : (Document.object payload).distinct = true)
    (settled : ∀ value ∈ (Document.object payload).scalars, value.Settled)
    (returns : TaskReturns quote payload taskName data) : (Document.object data).distinct = true ∧
      ∀ value ∈ (Document.object data).scalars, value.Settled := by
  have text : ∀ value, PayloadScalar.Settled (.text value) := fun value => by
    simp [PayloadScalar.Settled, PayloadScalar.stored, PayloadScalar.toJsonb, PayloadScalar.ofJsonb,
      PayloadScalar.pythonEqual]
  have flag : PayloadScalar.Settled (.boolean true) := rfl
  cases returns with
  | generateReport =>
    refine ⟨rfl, fun value member => ?_⟩
    simp only [textItem, Document.scalars, Document.scalarsOfEntries, List.cons_append, List.nil_append,
      List.mem_cons, List.not_mem_nil, or_false] at member
    rcases member with rfl | rfl | rfl
    · exact text _
    · exact text _
    · exact flag
  | sendEmail given named =>
    refine ⟨rfl, fun value member => ?_⟩
    simp only [textItem, Document.scalars, Document.scalarsOfEntries, List.cons_append, List.nil_append,
      List.mem_cons, List.not_mem_nil, or_false] at member
    rcases member with rfl | rfl | rfl
    · exact text _
    · exact text _
    · exact flag
  | echo =>
    refine ⟨by simp [Document.distinct_object, distinct], fun value member => settled value ?_⟩
    simpa [Document.scalars, Document.scalarsOfEntries] using member

end ends

namespace WorkerSystem

/-- In every state that any number of workers with the registered tasks reach: a job that succeeded has a delay within
half a minute and the result of its task, and the result comes back from the database as the task returned it; and a
job whose task raises has not succeeded, its error is that of the task or of the recovery, it waits for a retry only
after a recovery unless the exception may be temporary, and is then not given up before its last attempt. -/
theorem registered_tasks (quote : String → String) (configs : String → WorkerConfig) (system : WorkerSystem Jsonb)
    (reachable : system.Reachable configs (registeredTasks quote)) (row : Job Jsonb) (member : row ∈ system.table.rows)
    (payload : JsonPayload) (submitted : row.payload = payload.dumped) :
    (row.status = .succeeded → ∃ data seconds result, TaskReturns quote (loadData row.payload) row.taskName data ∧
      processingDelay (loadData row.payload) = .ok seconds ∧ 0 ≤ seconds ∧ seconds ≤ 30 ∧
      row.result = some result ∧
      (loadPayload result).equal PayloadScalar.pythonEqual (.object data) = true) ∧
    ∀ error, executeTask quote row.taskName (loadData row.payload) = .error error →
      row.status ≠ .succeeded ∧
      (∀ text, row.lastError = some text → text = recoveryError ∨ text = lastErrorText error.failure.message) ∧
      (error ≠ .overflow → row.status = .retryScheduled → row.lastError = some recoveryError) ∧
      (error = .overflow → row.status = .deadLettered → row.maxAttempts ≤ row.attemptCount) := by
  have faithful := (Executes.of_reachable reachable).rows row member
  refine ⟨fun succeeded => ?_, fun error raises => ?_⟩
  · obtain ⟨result, ends, stored⟩ := faithful.succeeded succeeded
    unfold registeredTasks at ends
    split at ends
    · next data returns =>
      cases ends
      obtain ⟨returned, seconds, delay⟩ := taskReturns_of_ok returns
      obtain ⟨least, most⟩ := processingDelay_range delay
      obtain ⟨loads, distinct, settled⟩ := loadData_dumped payload
      rw [loads, ← submitted] at distinct settled
      obtain ⟨distinct, settled⟩ := returned_settled distinct settled returned
      exact ⟨data, seconds, _, returned, delay, least, most, stored, loadPayload_storeData distinct settled⟩
    · cases ends
  · have ends : registeredTasks quote row.taskName row.payload = .error error.failure := by
      rw [registeredTasks, raises]
    have raised : ∀ failure, registeredTasks quote row.taskName row.payload = .error failure →
        failure = error.failure := fun failure same => (Except.error.inj (ends.symm.trans same)).symm
    refine ⟨fun succeeded => ?_, fun text last => ?_, fun final => ?_, fun temporary dead => ?_⟩
    · obtain ⟨result, returns, -⟩ := faithful.succeeded succeeded
      rw [ends] at returns
      cases returns
    · rcases faithful.blamed text last with recovered | ⟨failure, same, message⟩ | ⟨result, returns⟩
      · exact .inl recovered
      · exact .inr (raised failure same ▸ message)
      · rw [ends] at returns
        cases returns
    · refine faithful.retried error.failure ends ?_
      cases error with
      | overflow => exact absurd rfl final
      | _ => rfl
    · rcases faithful.givenUp dead with exhausted | ⟨failure, same, final⟩
      · exact exhausted
      · rw [raised failure same, temporary] at final
        cases final

def greetingPayload : JsonPayload where
  entries := [("greeting", .scalar (.text "hello"))]
  distinct := rfl
  keysStorable := by decide +kernel
  storable := by decide +kernel

def echoRun : List (Action Jsonb) :=
  [.createJob (echoJob.withPayload greetingPayload.dumped) 7 0, .slot "a" 1 .poll,
    .slot "a" 1 (.claim 1 (fun _ => false) .answered), .slot "a" 1 .execute, .slot "a" 1 (.markSucceeded 2 .answered)]

theorem registered_tasks_echo : ∃ (system : WorkerSystem Jsonb) (row : Job Jsonb) (result : Jsonb),
    system.table.rows = [row] ∧ row.result = some result ∧
    (loadPayload result).equal PayloadScalar.pythonEqual 
      (.object [("echo", .object [("greeting", .scalar (.text "hello"))])]) = true := by
  have rows : ((echoRun.foldlM (step (fun _ => defaultSettings) (registeredTasks id)) initial).map
      fun system => system.table.rows.map fun row => (row.status, row.taskName, row.payload)) =
        some [(.succeeded, "echo", greetingPayload.dumped)] := by
    with_unfolding_all rfl
  obtain ⟨system, found, columns⟩ := Option.map_eq_some_iff.mp rows
  obtain ⟨row, alone, values⟩ := List.map_eq_singleton_iff.mp columns
  rw [Prod.mk.injEq, Prod.mk.injEq] at values
  obtain ⟨succeeded, task, submitted⟩ := values
  have member : row ∈ system.table.rows := by simp [alone]
  obtain ⟨data, seconds, result, returns, -, -, -, stored, loaded⟩ := (registered_tasks id (fun _ => defaultSettings)
    system (Reached.of_foldlM found) row member greetingPayload submitted).1 succeeded
  rw [task, submitted] at returns
  generalize name : "echo" = taskName at returns
  cases returns with
  | echo =>
    have data : loadData greetingPayload.dumped = [("greeting", .scalar (.text "hello"))] := by with_unfolding_all rfl
    rw [data] at loaded
    exact ⟨system, row, result, alone, stored, loaded⟩
  | generateReport => exact absurd name (by decide)
  | sendEmail => exact absurd name (by decide)

end WorkerSystem

end CareerProjects.JobQueue
