import CareerProjects.JobQueue.Runs
import CareerProjects.Library.Documents
import CareerProjects.Library.PythonNumbers

/-! A repeated submission is compared with the stored row. The payload of the row has been through the database,
the repeated one has not, and Python compares them: with `True` equal to one, and with numbers that may have
become others on the way. -/

namespace CareerProjects.JobQueue

open Library

inductive PayloadScalar where
  | text (value : String)
  | number (value : PythonNumber)
  | boolean (value : Bool)
  | null
  deriving DecidableEq

inductive JsonbScalar where
  | text (value : String)
  | numeric (value : Numeric)
  | boolean (value : Bool)
  | null
  deriving DecidableEq

def withoutNul (text : String) : Bool := !text.toList.contains (Char.ofNat 0)

namespace PayloadScalar

/-- What a request may contain and a `jsonb` column takes. Python reads no integer of more than 4300 digits. -/
def storable : PayloadScalar → Bool
  | .text value => withoutNul value
  | .number (.int value) => Nat.log 10 value.natAbs < 4300
  | .number (.float (.finite ..)) => true
  | .number (.float (.infinity _)) => false
  | .boolean _ => true
  | .null => true

/-- `json.dumps` and the reader of `jsonb`, which takes no `Infinity`. -/
def toJsonb : PayloadScalar → JsonbScalar
  | .text value => .text value
  | .number (.int value) => .numeric (Numeral.ofInt value).numeric
  | .number (.float (.finite negative magnitude)) => .numeric (magnitude.repr negative).numeric
  | .number (.float (.infinity _)) => .null
  | .boolean value => .boolean value
  | .null => .null

def ofJsonb : JsonbScalar → PayloadScalar
  | .text value => .text value
  | .numeric value => .number value.numeral.loads
  | .boolean value => .boolean value
  | .null => .null

/-- The number that a value is for Python, to which booleans are numbers. -/
def pythonNumber : PayloadScalar → Option Extended
  | .number value => some value.exact
  | .boolean value => some (.finite (if value then 1 else 0))
  | .text _ => none
  | .null => none

def pythonEqual : PayloadScalar → PayloadScalar → Bool
  | .text value, .text other => value == other
  | .null, .null => true
  | value, other => value.pythonNumber.isSome && value.pythonNumber == other.pythonNumber

def jsonEqual : PayloadScalar → PayloadScalar → Bool
  | .text value, .text other => value == other
  | .number value, .number other => value.exact == other.exact
  | .boolean value, .boolean other => value == other
  | .null, .null => true
  | _, _ => false

end PayloadScalar

structure JsonPayload where
  entries : List (String × Document String PayloadScalar)
  distinct : (Document.object entries).distinct = true
  keysStorable : (Document.object entries).keys.all withoutNul = true
  storable : (Document.object entries).scalars.all PayloadScalar.storable = true

namespace JsonPayload

def document (payload : JsonPayload) : Document String PayloadScalar := .object payload.entries

/-- The same JSON value: objects are maps, and numbers are the same if they are the same number. -/
def Same (payload other : JsonPayload) : Prop :=
  payload.document.equal PayloadScalar.jsonEqual other.document = true

end JsonPayload

abbrev Jsonb := Document String JsonbScalar

def jsonbKeyOrder (key other : String) : Bool :=
  key.utf8ByteSize < other.utf8ByteSize || key.utf8ByteSize == other.utf8ByteSize && decide (key ≤ other)

def JsonPayload.dumped (payload : JsonPayload) : Jsonb :=
  (payload.document.map PayloadScalar.toJsonb).arrange jsonbKeyOrder

def loadPayload (stored : Jsonb) : Document String PayloadScalar := stored.map PayloadScalar.ofJsonb

def JobCreate.withPayload {Json Json' : Type} (data : JobCreate Json) (payload : Json') : JobCreate Json' :=
  ⟨data.queue, data.taskName, payload, data.priority, data.maxAttempts, data.idempotencyKey, data.queueValid,
    data.taskNameValid, data.priorityRange, data.attemptsRange, data.keyValid⟩

namespace JobService

/-- Check whether an existing job represents the repeated submission. -/
def jobMatchesSubmission (job : Job Jsonb) (jobData : JobCreate JsonPayload) : Bool :=
  job.queue == jobData.queue && job.taskName == jobData.taskName &&
    (loadPayload job.payload).equal PayloadScalar.pythonEqual jobData.payload.document &&
    job.priority == jobData.priority && job.maxAttempts == jobData.maxAttempts

inductive CreateJobError
  | integrityError
  | idempotencyConflict
  deriving DecidableEq

/-- A job, whether this call created it, and the table after the call. -/
def createJob (jobData : JobCreate JsonPayload) (id : Uuid) (now : Time) (table : JobTable Jsonb) :
    Except CreateJobError ((Job Jsonb × Bool) × JobTable Jsonb) :=
  match createOrGetIdempotentJob (jobData.withPayload jobData.payload.dumped) id now table with
  | .error _ => .error .integrityError
  | .ok ((job, created), after) =>
    if !created && !jobMatchesSubmission job jobData then .error .idempotencyConflict
    else .ok ((job, created), after)

/-- A job has been created from the submission, and the queue has worked since. -/
def Submitted (jobData : JobCreate JsonPayload) (table : JobTable Jsonb) : Prop :=
  ∃ before id now job after, ∃ ops : List (QueueOp Jsonb),
    createJob jobData id now before = .ok ((job, true), after) ∧
      table = ops.foldl (fun table op => QueueOp.step op table) after

def Repeats (jobData : JobCreate JsonPayload) (id : Uuid) (now : Time) (table : JobTable Jsonb) : Prop :=
  ∃ job, createJob jobData id now table = .ok ((job, false), table)

variable {jobData : JobCreate JsonPayload} {table : JobTable Jsonb} {id : Uuid}

structure Stores (job : Job Jsonb) (jobData : JobCreate JsonPayload) : Prop where
  idempotencyKey : job.idempotencyKey = jobData.idempotencyKey
  queue : job.queue = jobData.queue
  taskName : job.taskName = jobData.taskName
  payload : job.payload = jobData.payload.dumped
  priority : job.priority = jobData.priority
  maxAttempts : job.maxAttempts = jobData.maxAttempts

theorem Stores.write {job : Job Jsonb} (stores : Stores job jobData) (op : QueueOp Jsonb) :
    Stores (op.write.apply job) jobData := by
  obtain ⟨queue, taskName, payload, priority, maxAttempts⟩ := op.write_submitted job
  exact ⟨(op.write.keepsKey job).trans stores.idempotencyKey, queue.trans stores.queue,
    taskName.trans stores.taskName, payload.trans stores.payload, priority.trans stores.priority,
    maxAttempts.trans stores.maxAttempts⟩

theorem Stores.matches_withPayload {job : Job Jsonb} (stores : Stores job jobData) (other : JsonPayload) :
    jobMatchesSubmission job (jobData.withPayload other) =
      (loadPayload jobData.payload.dumped).equal PayloadScalar.pythonEqual other.document := by
  simp [jobMatchesSubmission, JobCreate.withPayload, stores.queue, stores.taskName, stores.priority,
    stores.maxAttempts, stores.payload]

theorem createOrGet_created {Json : Type} {data : JobCreate Json} {now : Time} {table after : JobTable Json}
    {job : Job Json} (creates : createOrGetIdempotentJob data id now table = .ok ((job, true), after)) :
    addJob data id now ∈ after.rows := by
  unfold createOrGetIdempotentJob at creates
  split at creates
  · cases creates
  · split at creates
    · cases creates
    · cases creates
      exact List.mem_append_right _ (List.mem_singleton_self _)

theorem createOrGet_existing {Json : Type} {data : JobCreate Json} {now : Time} {table : JobTable Json} {job : Job Json}
    (fresh : table.find id = none) (found : existingJob data table = some job) :
    createOrGetIdempotentJob data id now table = .ok ((job, false), table) := by
  unfold createOrGetIdempotentJob
  split
  · next taken =>
    rw [fresh] at taken
    cases taken
  · split
    · next existing known =>
      rw [found] at known
      cases known
      rfl
    · next known =>
      rw [found] at known
      cases known

theorem Submitted.row (submitted : Submitted jobData table) : ∃ job ∈ table.rows, Stores job jobData := by
  obtain ⟨before, jobId, start, created, after, ops, creates, rfl⟩ := submitted
  have first : ∃ job ∈ after.rows, Stores job jobData := by
    unfold createJob at creates
    split at creates
    · cases creates
    · next job created' reached inserts =>
      split at creates
      · cases creates
      · cases creates
        exact ⟨_, createOrGet_created inserts, rfl, rfl, rfl, rfl, rfl, rfl⟩
  clear creates
  induction ops generalizing after with
  | nil => exact first
  | cons op ops ih =>
    refine ih (op.step after) ?_
    obtain ⟨job, member, stores⟩ := first
    refine ⟨_, QueueOp.mem_step_of_mem member, ?_⟩
    split
    · exact stores.write op
    · exact stores

theorem eq_of_key {job other : Job Jsonb} (member : job ∈ table.rows) (member' : other ∈ table.rows)
    (keyed : job.idempotencyKey ≠ none) (same : job.idempotencyKey = other.idempotencyKey) : job = other := by
  by_contra different
  exact (table.unique.forall member member' different).2 keyed same

theorem createJob_repeated (submitted : Submitted jobData table) (keyed : jobData.idempotencyKey ≠ none)
    (fresh : table.find id = none) (other : JsonPayload) (now : Time) :
    Repeats (jobData.withPayload other) id now table ↔
      (loadPayload jobData.payload.dumped).equal PayloadScalar.pythonEqual other.document = true := by
  obtain ⟨job, member, stores⟩ := submitted.row
  have found : existingJob ((jobData.withPayload other).withPayload other.dumped) table = some job := by
    obtain ⟨key, known⟩ := Option.ne_none_iff_exists'.mp keyed
    have stored : job.idempotencyKey = some key := stores.idempotencyKey.trans known
    have known' : ((jobData.withPayload other).withPayload other.dumped).idempotencyKey = some key := known
    rw [existingJob, known', Option.bind_some, find?_unique, beq_iff_eq]
    · exact ⟨member, stored⟩
    · intro a first b second mine other
      rw [beq_iff_eq] at mine other
      exact eq_of_key first second (by simp [mine]) (mine.trans other.symm)
  have matched : jobMatchesSubmission job (jobData.withPayload other) =
      (loadPayload jobData.payload.dumped).equal PayloadScalar.pythonEqual other.document :=
    stores.matches_withPayload other
  have existing : createOrGetIdempotentJob ((jobData.withPayload other).withPayload other.dumped) id now table =
      .ok ((job, false), table) := createOrGet_existing fresh found
  have answer : createJob (jobData.withPayload other) id now table =
      if jobMatchesSubmission job (jobData.withPayload other) then .ok ((job, false), table)
      else .error .idempotencyConflict := by
    unfold createJob
    rw [show (jobData.withPayload other).payload = other from rfl, existing]
    cases verdict : jobMatchesSubmission job (jobData.withPayload other) <;> simp [verdict]
  unfold Repeats
  rw [answer, matched]
  cases (loadPayload jobData.payload.dumped).equal PayloadScalar.pythonEqual other.document <;> simp

end JobService

namespace PayloadScalar

def stored (value : PayloadScalar) : PayloadScalar := ofJsonb value.toJsonb

/-- A float from `10 ^ 16` on is written as an integer, the one its shortest decimal is. -/
def asWritten : PayloadScalar → PayloadScalar
  | .number (.float (.finite negative magnitude)) =>
    if magnitude.Whole then
      let digits : ℤ := magnitude.written.digits * 10 ^ magnitude.written.exponent.toNat
      .number (.int (if negative then -digits else digits))
    else .number (.float (.finite negative magnitude))
  | other => other

def asNumber : PayloadScalar → PayloadScalar
  | .boolean value => .number (.int (if value then 1 else 0))
  | other => other

def Keeps : PayloadScalar → Prop
  | .number (.float (.finite _ magnitude)) => magnitude.Whole → magnitude.written.value = magnitude.value
  | _ => True

def Telling (value : PayloadScalar) : Prop :=
  value.pythonNumber ≠ some (.finite 0) ∧ value.pythonNumber ≠ some (.finite 1)

def exchange : PayloadScalar → PayloadScalar
  | .boolean value => .number (.int (if value then 1 else 0))
  | .number value =>
    if value.exact = .finite 0 then .boolean false
    else if value.exact = .finite 1 then .boolean true
    else .number value
  | other => other

variable {value other : PayloadScalar}

theorem written_value {magnitude : Magnitude} (whole : magnitude.Whole) (negative : Bool) :
    (((if negative then -(magnitude.written.digits * 10 ^ magnitude.written.exponent.toNat : ℤ)
      else magnitude.written.digits * 10 ^ magnitude.written.exponent.toNat : ℤ)) : ℚ) =
      signed negative magnitude.written.value := by
  have power : (10 : ℚ) ^ magnitude.written.exponent = 10 ^ magnitude.written.exponent.toNat := by
    rw [← zpow_natCast, Int.toNat_of_nonneg whole.2.2]
  rw [Decimal.value, power, signed]
  split <;> push_cast <;> rfl

theorem stored_pythonNumber (storable : value.storable = true) :
    value.stored.pythonNumber = value.asWritten.pythonNumber := by
  cases value with
  | number number =>
    cases number with
    | int value =>
      have back : (Numeral.ofInt value).numeric.numeral.loads = .int value := Numeral.stored_ofInt value
      simp only [stored, toJsonb, ofJsonb, asWritten, back]
    | float value =>
      cases value with
      | finite negative magnitude =>
        have exact := magnitude.exact_stored negative
        rw [Numeral.stored] at exact
        simp only [stored, toJsonb, ofJsonb, asWritten, pythonNumber, exact]
        by_cases whole : magnitude.Whole
        · simp only [whole, if_true, PythonNumber.exact, written_value whole]
        · simp only [whole, if_false, PythonNumber.exact]
      | infinity negative => cases storable
  | text | boolean | null => rfl

theorem asWritten_keeps (keeps : value.Keeps) : value.asWritten.pythonNumber = value.pythonNumber := by
  cases value with
  | number number =>
    cases number with
    | int value => rfl
    | float value =>
      cases value with
      | finite negative magnitude =>
        by_cases whole : magnitude.Whole
        · simp only [asWritten, whole, if_true, pythonNumber, PythonNumber.exact, written_value whole, keeps whole]
        · simp only [asWritten, whole, if_false]
      | infinity negative => rfl
  | text | boolean | null => rfl

theorem pythonEqual_number (number : PythonNumber) (other : PayloadScalar) :
    pythonEqual (.number number) other = (some number.exact == other.pythonNumber) := by
  cases other <;> rfl

theorem stored_number {number : PythonNumber} (storable : (PayloadScalar.number number).storable = true) :
    ∃ result, stored (.number number) = .number result := by
  cases number with
  | int value => exact ⟨_, rfl⟩
  | float value =>
    cases value with
    | finite negative magnitude => exact ⟨_, rfl⟩
    | infinity negative => cases storable

theorem asWritten_number (number : PythonNumber) : ∃ result, asWritten (.number number) = .number result := by
  cases number with
  | int value => exact ⟨_, rfl⟩
  | float value =>
    cases value with
    | finite negative magnitude =>
      by_cases whole : magnitude.Whole
      · exact ⟨_, if_pos whole⟩
      · exact ⟨_, if_neg whole⟩
    | infinity negative => exact ⟨_, rfl⟩

theorem pythonEqual_stored (storable : value.storable = true) (other : PayloadScalar) :
    pythonEqual value.stored other = pythonEqual value.asWritten other := by
  have same := stored_pythonNumber storable
  cases value with
  | number number =>
    obtain ⟨back, stores⟩ := stored_number storable
    obtain ⟨written, writes⟩ := asWritten_number number
    rw [stores, writes] at same
    have exact : some back.exact = some written.exact := same
    rw [stores, writes, pythonEqual_number, pythonEqual_number, exact]
  | text | boolean | null => rfl

theorem pythonEqual_asWritten (keeps : value.Keeps) (other : PayloadScalar) :
    pythonEqual value.asWritten other = pythonEqual value other := by
  have same := asWritten_keeps keeps
  cases value with
  | number number =>
    obtain ⟨written, writes⟩ := asWritten_number number
    rw [writes] at same
    have exact : some written.exact = some number.exact := same
    rw [writes, pythonEqual_number, pythonEqual_number, exact]
  | text | boolean | null => rfl

theorem pythonEqual_eq (value other : PayloadScalar) :
    pythonEqual value other = jsonEqual value.asNumber other.asNumber := by
  cases value <;> cases other <;> simp [pythonEqual, jsonEqual, asNumber, pythonNumber, PythonNumber.exact]

theorem pythonEqual_telling (telling : value.Telling) (other : PayloadScalar) :
    pythonEqual value other = jsonEqual value other := by
  cases value with
  | number number =>
    obtain ⟨notZero, notOne⟩ := telling
    rw [pythonEqual_number]
    cases other with
    | boolean flag =>
      cases flag with
      | false => exact beq_eq_false_iff_ne.mpr notZero
      | true => exact beq_eq_false_iff_ne.mpr notOne
    | number | text | null => rfl
  | boolean flag =>
    cases flag with
    | false => exact absurd rfl telling.1
    | true => exact absurd rfl telling.2
  | text | null => cases other <;> rfl

theorem pythonEqual_exchange (value : PayloadScalar) : pythonEqual value value.exchange = true := by
  cases value with
  | number number =>
    rw [pythonEqual_number, exchange]
    split_ifs <;> simp_all [pythonNumber]
  | boolean flag => cases flag <;> rfl
  | text value => simp [pythonEqual, exchange]
  | null => rfl

theorem exchange_number (number : PythonNumber) : exchange (.number number) =
    if number.exact = .finite 0 then .boolean false
    else if number.exact = .finite 1 then .boolean true
    else .number number := rfl

theorem jsonEqual_exchange (value : PayloadScalar) : jsonEqual value value.exchange = true ↔ value.Telling := by
  cases value with
  | number number =>
    rw [exchange_number, Telling]
    split_ifs <;> simp_all [pythonNumber, jsonEqual]
  | boolean flag => cases flag <;> simp [exchange, jsonEqual, Telling, pythonNumber]
  | text value => simp [exchange, jsonEqual, Telling, pythonNumber]
  | null => simp [exchange, jsonEqual, Telling, pythonNumber]

theorem exchange_storable (storable : value.storable = true) : value.exchange.storable = true := by
  cases value with
  | number number =>
    rw [exchange_number]
    split_ifs
    · rfl
    · rfl
    · exact storable
  | boolean flag =>
    cases flag <;> simp [exchange, PayloadScalar.storable]
  | text | null => exact storable

theorem jsonEqual_self (value : PayloadScalar) : jsonEqual value value = true := by
  cases value <;> simp [jsonEqual]

theorem asWritten_self (value : PayloadScalar) : pythonEqual value.asWritten value = true ↔ value.Keeps := by
  constructor
  · intro same
    cases value with
    | number number =>
      cases number with
      | float value =>
        cases value with
        | finite negative magnitude =>
          intro whole
          rw [asWritten, if_pos whole, pythonEqual_number] at same
          simp only [pythonNumber, PythonNumber.exact, written_value whole, beq_iff_eq, Option.some.injEq,
            Extended.finite.injEq, signed] at same
          split at same
          · exact neg_injective same
          · exact same
        | infinity negative => trivial
      | int value => trivial
    | text | boolean | null => trivial
  · intro keeps
    rw [pythonEqual_asWritten keeps, pythonEqual_eq, jsonEqual_self]

end PayloadScalar

namespace JsonPayload

open PayloadScalar

theorem document_distinct (payload : JsonPayload) : payload.document.distinct = true := payload.distinct

theorem storable_scalar (payload : JsonPayload) : ∀ value ∈ payload.document.scalars, value.storable = true :=
  List.all_eq_true.mp payload.storable

/-- The payload with numbers in place of its booleans, and booleans in place of their numbers. -/
def exchanged (payload : JsonPayload) : JsonPayload where
  entries := Document.mapEntries exchange payload.entries
  distinct := (Document.distinct_map exchange payload.document).trans payload.distinct
  keysStorable := by
    have keys := Document.keys_map exchange payload.document
    exact (congrArg (List.all · withoutNul) keys).trans payload.keysStorable
  storable := by
    have scalars := Document.scalars_map exchange payload.document
    refine (congrArg (List.all · PayloadScalar.storable) scalars).trans ?_
    rw [List.all_map, List.all_eq_true]
    exact fun value member => exchange_storable (payload.storable_scalar value member)

theorem equal_exchanged (payload : JsonPayload) (same : PayloadScalar → PayloadScalar → Bool) :
    payload.document.equal same payload.exchanged.document = true ↔
      ∀ value ∈ payload.document.scalars, same value value.exchange = true := by
  have mapped := Document.equal_map same id exchange payload.document payload.document
  rw [Document.map_id, Document.equal_self payload.document_distinct] at mapped
  exact mapped

theorem loaded_equal (payload : JsonPayload) (other : Document String PayloadScalar) :
    (loadPayload payload.dumped).equal pythonEqual other = true ↔
      payload.document.equal (fun value => pythonEqual value.asWritten) other = true := by
  have loaded := Document.equal_map pythonEqual ofJsonb id payload.dumped other
  rw [Document.map_id] at loaded
  have dumped := Document.equal_map (fun value => pythonEqual (ofJsonb value)) toJsonb id payload.document other
  rw [Document.map_id] at dumped
  calc (loadPayload payload.dumped).equal pythonEqual other = true
      ↔ payload.dumped.equal (fun value => pythonEqual (ofJsonb value)) other = true := loaded
    _ ↔ (payload.document.map toJsonb).equal (fun value => pythonEqual (ofJsonb value)) other = true :=
      Document.equal_arrange _ jsonbKeyOrder _ other
    _ ↔ payload.document.equal (fun value => pythonEqual value.stored) other = true := dumped
    _ ↔ payload.document.equal (fun value => pythonEqual value.asWritten) other = true :=
      Document.equal_congr (fun value member => pythonEqual_stored (payload.storable_scalar value member)) other

end JsonPayload

namespace JobService

open PayloadScalar

variable {jobData : JobCreate JsonPayload} {table : JobTable Jsonb} {jobId : Uuid}

theorem Stores.matches_iff {job : Job Jsonb} (stores : Stores job jobData) : jobMatchesSubmission job jobData = true ↔
    ∀ value ∈ jobData.payload.document.scalars, value.Keeps := by
  calc jobMatchesSubmission job jobData = true
      ↔ (loadPayload jobData.payload.dumped).equal pythonEqual jobData.payload.document = true := by
        rw [← stores.matches_withPayload]
        rfl
    _ ↔ jobData.payload.document.equal (fun value => pythonEqual value.asWritten) jobData.payload.document = true :=
        jobData.payload.loaded_equal _
    _ ↔ ∀ value ∈ jobData.payload.document.scalars, pythonEqual value.asWritten value = true :=
        Document.equal_self jobData.payload.document_distinct
    _ ↔ ∀ value ∈ jobData.payload.document.scalars, value.Keeps := forall₂_congr fun value _ => asWritten_self value

/-- A stored payload is told from every other one, and recognised when it is repeated, if it contains neither a
boolean nor one of their numbers, and no float whose decimal is another number. -/
theorem recognised_iff (submitted : Submitted jobData table) (keyed : jobData.idempotencyKey ≠ none)
    (fresh : table.find jobId = none) (now : Time) :
    ((∀ other, Repeats (jobData.withPayload other) jobId now table ↔ jobData.payload.Same other) ↔
      ∀ value ∈ jobData.payload.document.scalars, value.Telling ∧ value.Keeps) ∧
    (Repeats (jobData.withPayload jobData.payload) jobId now table ↔
      ∀ value ∈ jobData.payload.document.scalars, value.Keeps) ∧
    ∀ other, Repeats (jobData.withPayload other) jobId now table ↔
      ((jobData.payload.document.map asWritten).map asNumber).equal jsonEqual (other.document.map asNumber) = true := by
  have repeats (other : JsonPayload) : Repeats (jobData.withPayload other) jobId now table ↔
      jobData.payload.document.equal (fun value => pythonEqual value.asWritten) other.document = true := by
    rw [createJob_repeated submitted keyed fresh, JsonPayload.loaded_equal]
  have again : Repeats (jobData.withPayload jobData.payload) jobId now table ↔
      ∀ value ∈ jobData.payload.document.scalars, value.Keeps := by
    rw [repeats, Document.equal_self jobData.payload.document_distinct]
    exact forall₂_congr fun value _ => asWritten_self value
  refine ⟨?_, again, fun other => ?_⟩
  · constructor
    · intro recognised
      have self : jobData.payload.Same jobData.payload :=
        (Document.equal_self jobData.payload.document_distinct).mpr fun value _ => jsonEqual_self value
      have keeps := again.mp ((recognised _).mpr self)
      have exchanges : Repeats (jobData.withPayload jobData.payload.exchanged) jobId now table := by
        rw [repeats, JsonPayload.equal_exchanged]
        intro value member
        rw [pythonEqual_asWritten (keeps value member)]
        exact pythonEqual_exchange value
      have same := (recognised _).mp exchanges
      rw [JsonPayload.Same, JsonPayload.equal_exchanged] at same
      exact fun value member => ⟨(jsonEqual_exchange value).mp (same value member), keeps value member⟩
    · intro plain other
      rw [repeats]
      refine Document.equal_congr (fun value member facing => ?_) other.document
      rw [pythonEqual_asWritten (plain value member).2, pythonEqual_telling (plain value member).1]
  · have written := Document.equal_map (fun value facing : PayloadScalar => jsonEqual value.asNumber facing.asNumber)
      asWritten id jobData.payload.document other.document
    rw [Document.map_id] at written
    rw [repeats, Document.equal_map, written]
    exact Document.equal_congr (fun value _ facing => pythonEqual_eq value.asWritten facing) other.document

theorem first_submitted (jobData : JobCreate JsonPayload) :
    ∃ table, Submitted jobData table ∧ table.find 2 = none := by
  have created : ∃ job after, createOrGetIdempotentJob (jobData.withPayload jobData.payload.dumped) 1 0 .empty =
      .ok ((job, true), after) ∧ after.rows = [addJob (jobData.withPayload jobData.payload.dumped) 1 0] := by
    unfold createOrGetIdempotentJob
    split
    · next taken => cases taken
    · split
      · next existing known =>
        have member := List.mem_of_find?_eq_some (Option.bind_eq_some_iff.mp known).choose_spec.2
        cases member
      · exact ⟨_, _, rfl, rfl⟩
  obtain ⟨job, after, inserts, rows⟩ := created
  refine ⟨after, ⟨.empty, 1, 0, job, after, [], ?_, rfl⟩, ?_⟩
  · unfold createJob
    rw [inserts]
    rfl
  · rw [JobTable.find, rows]
    rfl

def transferJob (amount : PayloadScalar) (storable : amount.storable = true) : JobCreate JsonPayload where
  queue := "default"
  taskName := "transfer"
  payload := ⟨[("amount", .scalar amount)], rfl, named, by
    simp [Document.scalars, Document.scalarsOfEntries, storable]⟩
  priority := 0
  maxAttempts := 3
  idempotencyKey := some "transfer-1"
  queueValid := echoJob.queueValid
  taskNameValid := taskNamed
  priorityRange := echoJob.priorityRange
  attemptsRange := echoJob.attemptsRange
  keyValid := keyed
where
  named : ["amount"].all withoutNul = true := by decide +kernel
  taskNamed : matchesField nameCharacter 200 "transfer" = true := by decide +kernel
  keyed : (some "transfer-1").all (matchesField keyCharacter 200) = true := by decide +kernel

def smallTransfer : JobCreate JsonPayload := transferJob (.number (.int 5)) (by decide +kernel)

theorem recognised_iff_small : ∃ table, Submitted smallTransfer table ∧ table.find 2 = none ∧
    ((∀ other, Repeats (smallTransfer.withPayload other) 2 1 table ↔ smallTransfer.payload.Same other) ↔
      ∀ value ∈ smallTransfer.payload.document.scalars, value.Telling ∧ value.Keeps) := by
  obtain ⟨table, submitted, fresh⟩ := first_submitted smallTransfer
  exact ⟨table, submitted, fresh, (recognised_iff submitted (by decide) fresh 1).1⟩

def tenToTheTwentyThree : PayloadScalar :=
  .number (.float (.finite false ⟨5960464477539062, 1098, by decide, by decide, by decide⟩))

def largeTransfer : JobCreate JsonPayload := transferJob tenToTheTwentyThree rfl

/-- It comes back as the integer `10 ^ 23`, so that the same submission again is a conflict. -/
theorem exact_repetition_refused : ∃ table, Submitted largeTransfer table ∧
    ¬(Repeats (largeTransfer.withPayload largeTransfer.payload) 2 1 table ↔
      largeTransfer.payload.Same largeTransfer.payload) := by
  obtain ⟨table, submitted, fresh⟩ := first_submitted largeTransfer
  refine ⟨table, submitted, fun recognised => ?_⟩
  have same : largeTransfer.payload.Same largeTransfer.payload :=
    (Document.equal_self (JsonPayload.document_distinct _)).mpr fun value _ => jsonEqual_self value
  have repeats := recognised.mpr same
  rw [createJob_repeated submitted (by decide) fresh, JsonPayload.loaded_equal,
    Document.equal_self (JsonPayload.document_distinct _)] at repeats
  have keeps := repeats tenToTheTwentyThree (List.mem_singleton_self _)
  have differs : pythonEqual tenToTheTwentyThree.asWritten tenToTheTwentyThree = false := by decide +kernel
  rw [differs] at keeps
  cases keeps

end JobService

end CareerProjects.JobQueue
