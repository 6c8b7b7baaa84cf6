import CareerProjects.CommandControl.Acknowledgements
import CareerProjects.CommandControl.ControlStation
import CareerProjects.Library.Runs
import Mathlib.Data.List.Nodup

/-! One command that the control station sends with retries, over connections that lose requests
and acknowledgements, while other clients send their lines to the same server. -/

namespace CareerProjects.CommandControl
open Library

namespace ControlStation

def maxAckAttempts : Nat := 3

inductive AttemptError where
  | timeout
  | connection
  | os
  | jsonDecode
  | unicodeDecode
  deriving DecidableEq

def AttemptError.isCaught : AttemptError → Bool
  | .unicodeDecode => false
  | _ => true

/-- What comes back on the connection of an attempt: an error, the end of the stream, a part of the
acknowledgement that may end inside a character, or the acknowledgement. -/
inductive Reply where
  | failed (error : AttemptError)
  | ended
  | truncated (insideCharacter : Bool)
  | delivered (acknowledgement : CommandAcknowledgement)

def sendOneAttempt : Reply → Except AttemptError CommandAcknowledgement
  | .failed error => .error error
  | .ended => .error .connection
  | .truncated insideCharacter => .error (if insideCharacter then .unicodeDecode else .jsonDecode)
  | .delivered acknowledgement => .ok acknowledgement

/-- Where `send_command_with_retry` is: before an attempt, in it, or at its end. -/
inductive Sender where
  | before (attemptNumber : Nat)
  | waiting (attemptNumber : Nat)
  | returned (acknowledgement : CommandAcknowledgement)
  | raised (error : AttemptError)
  deriving DecidableEq

def sendCommandWithRetry (attemptNumber : Nat) (reply : Reply) : Sender :=
  match sendOneAttempt reply with
  | .ok acknowledgement => .returned acknowledgement
  | .error error =>
    if error.isCaught then
      if attemptNumber < maxAckAttempts then .before (attemptNumber + 1) else .raised .connection
    else .raised error

end ControlStation

open ControlStation

/-- The server, the sender, the attempts whose requests are on their way, and what the server has
answered to the present attempt. -/
structure Exchange where
  server : CommandServer
  sender : Sender
  requests : List Nat
  answer : Option CommandAcknowledgement

/-- What happens next: another client's line is processed, the sender starts an attempt, the first
request arrives, a request is lost, or the attempt ends. -/
inductive Event where
  | line (jsonMessage : JavaString) (clock now : Instant)
  | send
  | arrive (clock now : Instant)
  | lose (attemptNumber : Nat)
  | reply (reply : Reply)

namespace Exchange

def initial : Exchange := ⟨.initial, .before 1, [], none⟩

def allows (exchange : Exchange) : Reply → Bool
  | .delivered acknowledgement => exchange.answer = some acknowledgement
  | .truncated _ => exchange.answer.isSome
  | _ => true

def process (configuration : Configuration) (jsonMessage : JavaString) (clock now : Instant)
    (server : CommandServer) : Except JavaException CommandAcknowledgement × CommandServer :=
  runOn (CommandServer.processCommand configuration ⟨jsonMessage, clock, now, fun _ => true⟩) server

def step (configuration : Configuration) (command : SignedCommand) (exchange : Exchange) :
    Event → Option Exchange
  | .line jsonMessage clock now =>
    some { exchange with server := (process configuration jsonMessage clock now exchange.server).2 }
  | .send =>
    match exchange.sender with
    | .before attemptNumber => some { exchange with
        sender := .waiting attemptNumber
        requests := exchange.requests ++ [attemptNumber]
        answer := none }
    | _ => none
  | .arrive clock now =>
    match exchange.requests with
    | [] => none
    | attemptNumber :: later =>
      let outcome := process configuration command.commandJson clock now exchange.server
      some { exchange with
        server := outcome.2
        requests := later
        answer := if exchange.sender = .waiting attemptNumber then outcome.1.toOption
          else exchange.answer }
  | .lose attemptNumber => some { exchange with requests := exchange.requests.erase attemptNumber }
  | .reply reply =>
    match exchange.sender with
    | .waiting attemptNumber =>
      if exchange.allows reply then some { exchange with
        sender := sendCommandWithRetry attemptNumber reply
        answer := none }
      else none
    | _ => none

abbrev Steps (configuration : Configuration) (command : SignedCommand) :=
  Run fun before event after => step configuration command before event = some after

end Exchange

namespace CommandServer

def Carries (configuration : Configuration) (line : JavaString) (command : CommandMessage) : Prop :=
  CommandMessageParser.parse configuration.platform.readTree line = .ok command

def NeverExecuted (configuration : Configuration) (line : JavaString) (server : CommandServer) : Prop :=
  ∀ execution ∈ server.executions, ¬Carries configuration line execution.command

def ExecutedOnce (configuration : Configuration) (line : JavaString) (server : CommandServer)
    (execution : Execution) : Prop :=
  Carries configuration line execution.command ∧
    ∃ before after, server.executions = before ++ execution :: after ∧
      ∀ other ∈ before ++ after, ¬Carries configuration line other.command

variable {configuration : Configuration} {server : CommandServer} {call : Call} {line : JavaString}

theorem Carries.unique {a b : CommandMessage} (first : Carries configuration line a)
    (second : Carries configuration line b) : a = b := by
  rw [Carries] at first second
  rw [first] at second
  exact Except.ok.inj second

theorem Sound.executedOnce (sound : Sound configuration server) {execution : Execution}
    (member : execution ∈ server.executions) (carries : Carries configuration line execution.command) :
    ExecutedOnce configuration line server execution := by
  obtain ⟨before, after, split⟩ := List.append_of_mem member
  refine ⟨carries, before, after, split, ?_⟩
  intro other elsewhere same
  have ids := sound.ids
  rw [split, List.map_append, List.map_cons, List.nodup_middle, ← List.map_append] at ids
  have known := carries.unique same
  refine (List.nodup_cons.mp ids).1 (List.mem_map.mpr ⟨other, elsewhere, ?_⟩)
  rw [known]

theorem Sound.once_or_never (sound : Sound configuration server) (line : JavaString) :
    NeverExecuted configuration line server ∨
      ∃ execution, ExecutedOnce configuration line server execution := by
  by_cases executed : ∃ execution ∈ server.executions, Carries configuration line execution.command
  · obtain ⟨execution, member, carries⟩ := executed
    exact .inr ⟨execution, sound.executedOnce member carries⟩
  · refine .inl fun execution member carries => executed ⟨execution, member, carries⟩

/-- What an answer that is no exception's tells, if the verdict leads to one. -/
def Tells (call : Call) (server : CommandServer) (acknowledgement : CommandAcknowledgement) :
    Verdict → Prop
  | .invalid _ => False
  | .unauthorized _ => acknowledgement.status = .unauthorized
  | .authenticated _ (.retry known) => acknowledgement = known
  | .authenticated _ .collision => acknowledgement.status = .securityRejected
  | .authenticated _ (.untimed _) => False
  | .authenticated _ (.rejected _) => acknowledgement.status = .securityRejected
  | .authenticated command .accepted =>
    call.writable (authenticationPassed server.currentState command) = true ∧
      acknowledgement = .fromResult call.now (CommandProcessor.process command server.currentState)

theorem audited_ok {event : AuditEvent} {acknowledgement : CommandAcknowledgement}
    {reached : CommandServer}
    {next : CommandServer → Except JavaException CommandAcknowledgement × CommandServer}
    (done : server.audited call event next = (.ok acknowledgement, reached)) :
    call.writable event = true ∧ next (server.logged event) = (.ok acknowledgement, reached) := by
  rw [audited] at done
  split at done
  · next written => exact ⟨written, done⟩
  · cases done

theorem proceed_tells {verdict : Verdict} {acknowledgement : CommandAcknowledgement}
    {reached : CommandServer}
    (done : proceed call server verdict = (.ok acknowledgement, reached)) :
    Tells call server acknowledgement verdict := by
  cases verdict with
  | invalid message => cases done
  | unauthorized command =>
    rw [proceed] at done
    obtain ⟨-, done⟩ := audited_ok done
    cases done
    rfl
  | authenticated command judgement =>
    rw [proceed] at done
    obtain ⟨authenticated, done⟩ := audited_ok done
    cases judgement with
    | untimed message => cases done
    | accepted =>
      rw [settle] at done
      obtain ⟨-, done⟩ := audited_ok done
      obtain ⟨-, done⟩ := audited_ok done
      cases done
      exact ⟨authenticated, rfl⟩
    | _ =>
      rw [settle] at done
      obtain ⟨-, done⟩ := audited_ok done
      cases done
      rfl

theorem processCommand_tells {acknowledgement : CommandAcknowledgement}
    (answered : (runOn (processCommand configuration call) server).1 = .ok acknowledgement) :
    acknowledgement.status = .invalid ∨
      Tells call server acknowledgement (verdict configuration server call) := by
  rw [processCommand_runOn] at answered
  cases outcome : proceed call server (verdict configuration server call) with
  | mk result reached =>
    rw [outcome] at answered
    cases result with
    | ok known =>
      cases answered
      exact .inr (proceed_tells outcome)
    | error error =>
      refine .inl ?_
      cases error with
      | io message => cases answered
      | commandValidation message =>
        cases recovering : recovered call (invalidCommand message) message reached with
        | mk result final =>
          rw [handle, recovering] at answered
          cases answered
          obtain ⟨-, done⟩ := audited_ok recovering
          cases done
          rfl
      | runtime message =>
        cases recovering : recovered call (processingError message)
            (.ofString "Unexpected command-processing failure.") reached with
        | mk result final =>
          rw [handle, recovering] at answered
          cases answered
          obtain ⟨-, done⟩ := audited_ok recovering
          cases done
          rfl

def Cached (server : CommandServer) : Prop :=
  ∀ id entry, server.entries id = some entry →
    ∃ execution ∈ server.executions, execution.command.messageId = id ∧
      execution.command.signature = entry.signature ∧
      ∃ now, entry.acknowledgement = .fromResult now execution.result

/-- Who was executed with the signature of the line was executed with its command. -/
def Signed (configuration : Configuration) (line : JavaString) (server : CommandServer) : Prop :=
  ∀ execution ∈ server.executions, ∀ command, Carries configuration line command →
    execution.command.signature = command.signature → execution.command = command

structure Consistent (configuration : Configuration) (line : JavaString) (server : CommandServer) :
    Prop where
  sound : Sound configuration server
  complete : server.Complete
  cached : server.Cached
  signed : Signed configuration line server

def DistinctlySigned (configuration : Configuration) (line other : JavaString) : Prop :=
  ∀ command command', Carries configuration line command → Carries configuration other command' →
    command'.signature = command.signature → command' = command

theorem Consistent.initial : Consistent configuration line .initial where
  sound := .initial
  complete := .initial
  cached id entry known := by cases known
  signed execution member := by cases member

theorem Cached.of_core {reached : CommandServer} (cached : server.Cached)
    (same : reached.core = server.core) : reached.Cached := by
  simp only [core, mk.injEq] at same
  obtain ⟨-, -, -, entries, -, -, executions⟩ := same
  simp only [Cached, entries, executions] at cached ⊢
  exact cached

theorem Cached.extend {command : CommandMessage} {clock now : Instant} (cached : server.Cached)
    (unknown : server.entries command.messageId = none) :
    (AcknowledgementCache.store command.messageId command.signature
      (.fromResult now (CommandProcessor.process command server.currentState))
      (execute command clock (ReplayProtectionService.record command server))).Cached := by
  have absent : (execute command clock (ReplayProtectionService.record command server)).entries
      command.messageId = none := unknown
  rw [AcknowledgementCache.store, absent, Option.isSome_none, if_neg Bool.false_ne_true]
  intro id entry known
  by_cases same : id = command.messageId
  · rw [same] at known ⊢
    simp only [Function.update_self, Option.some.injEq] at known
    rw [← known]
    exact ⟨_, List.mem_append_right _ List.mem_cons_self, rfl, rfl, now, rfl⟩
  · simp only [Function.update_of_ne same] at known
    obtain ⟨execution, member, rest⟩ := cached id entry known
    exact ⟨execution, List.mem_append_left _ member, rest⟩

theorem processCommand_executes {command : CommandMessage}
    (writes : ∀ eventType, call.writes eventType = true)
    (known : verdict configuration server call = .authenticated command .accepted)
    (authenticated : call.writable (authenticationPassed server.currentState command) = true) :
    (runOn (processCommand configuration call) server).2.executions = server.executions ++
      [⟨command, call.clock, CommandProcessor.process command server.currentState⟩] := by
  obtain ⟨passed, processed⟩ := writable_later writes authenticated
  have same := @processCommand_core configuration call server
  obtain ⟨entries, shape⟩ := store_fields command.messageId command.signature
    (.fromResult call.now (CommandProcessor.process command server.currentState))
    (execute command call.clock (ReplayProtectionService.record command server))
  simp only [known, effect, authenticated, passed, processed, if_true, shape] at same
  exact congrArg CommandServer.executions same

theorem processCommand_executions (writes : ∀ eventType, call.writes eventType = true)
    (server : CommandServer) :
    let reached := (runOn (processCommand configuration call) server).2
    (∃ command, verdict configuration server call = .authenticated command .accepted ∧
      Carries configuration call.jsonMessage command ∧
      reached.executions = server.executions ++
        [⟨command, call.clock, CommandProcessor.process command server.currentState⟩]) ∨
    reached.executions = server.executions := by
  rcases processCommand_dichotomy server writes with ⟨command, parsed, known, authenticated, -⟩ | same
  · exact .inl ⟨command, known, parsed, processCommand_executes writes known authenticated⟩
  · simp only [core, mk.injEq] at same
    exact .inr same.2.2.2.2.2.2

theorem Consistent.processCommand (consistent : Consistent configuration line server)
    (writes : ∀ eventType, call.writes eventType = true)
    (distinct : DistinctlySigned configuration line call.jsonMessage) :
    Consistent configuration line (runOn (processCommand configuration call) server).2 where
  sound := consistent.sound.processCommand
  complete := by
    refine consistent.complete.processCommand consistent.sound ?_
    exact fun command known authenticated => writable_later writes authenticated
  cached := by
    rcases processCommand_dichotomy server writes with ⟨command, -, known, -, same⟩ | same
    · obtain ⟨-, -, judged⟩ := verdict_authenticated known
      exact (consistent.cached.extend (judge_accepted judged).1).of_core same
    · exact consistent.cached.of_core same
  signed := by
    intro execution member command carries same
    rcases processCommand_executions writes server with ⟨other, -, read, executions⟩ | executions
    · rw [executions, List.mem_append, List.mem_singleton] at member
      rcases member with earlier | rfl
      · exact consistent.signed execution earlier command carries same
      · exact distinct command other carries read same
    · rw [executions] at member
      exact consistent.signed execution member command carries same

/-- What an answer to a line promises. While no other line carries the command, one that was refused
stays unexecuted. -/
structure Truthful (configuration : Configuration) (line : JavaString) (alone : Prop)
    (server : CommandServer) (acknowledgement : CommandAcknowledgement) : Prop where
  executed : acknowledgement.status = .accepted ∨ acknowledgement.status = .rejected →
    ∃ execution ∈ server.executions, Carries configuration line execution.command ∧
      ∃ now, acknowledgement = .fromResult now execution.result
  unauthorized : acknowledgement.status = .unauthorized → ∀ command,
    Carries configuration line command →
      MessageAuthenticator.verify configuration.platform command = false
  refused : acknowledgement.status = .securityRejected → alone →
    NeverExecuted configuration line server

theorem fromResult_status (now : Instant) (result : CommandResult) :
    (CommandAcknowledgement.fromResult now result).status = .accepted ∨
      (CommandAcknowledgement.fromResult now result).status = .rejected := by
  rw [CommandAcknowledgement.fromResult]
  split
  · exact .inl rfl
  · exact .inr rfl

theorem Consistent.never (consistent : Consistent configuration line server) {command : CommandMessage}
    (carries : Carries configuration line command)
    (uncached : ∀ acknowledgement,
      server.entries command.messageId ≠ some ⟨command.signature, acknowledgement⟩) :
    NeverExecuted configuration line server := by
  intro execution member same
  obtain ⟨acknowledgement, -, known⟩ := consistent.complete.1 execution member
  rw [same.unique carries] at known
  exact uncached acknowledgement known

theorem verdict_unauthorized {command : CommandMessage}
    (known : verdict configuration server call = .unauthorized command) :
    Carries configuration call.jsonMessage command ∧
      MessageAuthenticator.verify configuration.platform command = false := by
  rw [verdict] at known
  split at known
  · cases known
  · next parsed =>
    split at known
    · cases known
    · next unverified =>
      cases known
      exact ⟨parsed, by simpa using unverified⟩

theorem judge_cached {clock : Instant} {command : CommandMessage}
    {acknowledgement : CommandAcknowledgement}
    (known : server.entries command.messageId = some ⟨command.signature, acknowledgement⟩) :
    judge configuration server clock command = .retry acknowledgement := by
  simp [judge, known]

theorem Consistent.truthful {acknowledgement : CommandAcknowledgement} {alone : Prop}
    (consistent : Consistent configuration call.jsonMessage server)
    (writes : ∀ eventType, call.writes eventType = true)
    (answered : (runOn (CommandServer.processCommand configuration call) server).1 =
      .ok acknowledgement) :
    Truthful configuration call.jsonMessage alone
      (runOn (CommandServer.processCommand configuration call) server).2 acknowledgement := by
  have executions := @processCommand_executions configuration call writes server
  have told := processCommand_tells answered
  generalize outcome : (runOn (CommandServer.processCommand configuration call) server).2 = reached at executions ⊢
  rcases told with invalid | told
  · constructor <;> simp [invalid]
  · cases known : verdict configuration server call with
    | invalid message => simp [known, Tells] at told
    | unauthorized command =>
      rw [known, Tells] at told
      obtain ⟨carries, unverified⟩ := verdict_unauthorized known
      refine ⟨by simp [told], fun _ other same => ?_, by simp [told]⟩
      rw [same.unique carries]
      exact unverified
    | authenticated command judgement =>
      obtain ⟨carries, -, judged⟩ := verdict_authenticated known
      have kept : judgement ≠ .accepted → reached.executions = server.executions := by
        intro refused
        rcases executions with ⟨other, accepted, -⟩ | same
        · rw [known] at accepted
          cases accepted
          exact absurd rfl refused
        · exact same
      have never : judgement ≠ .accepted → (∀ answer, judgement ≠ .retry answer) →
          NeverExecuted configuration call.jsonMessage reached := by
        intro refused unknown
        rw [NeverExecuted, kept refused]
        refine consistent.never carries fun answer cached => unknown answer ?_
        rw [← judged, judge_cached cached]
      rw [known] at told
      cases judgement with
      | untimed message => simp [Tells] at told
      | collision =>
        rw [Tells] at told
        exact ⟨by simp [told], by simp [told], fun _ _ => never (by simp) (by simp)⟩
      | rejected result =>
        rw [Tells] at told
        exact ⟨by simp [told], by simp [told], fun _ _ => never (by simp) (by simp)⟩
      | retry answer =>
        rw [Tells] at told
        rw [told]
        obtain ⟨execution, member, -, signed, now, result⟩ :=
          consistent.cached _ _ (judge_retry judged)
        rw [← kept (by simp)] at member
        have same := consistent.signed execution (by rwa [kept (by simp)] at member) command carries signed
        have status := fromResult_status now execution.result
        simp only at result
        refine ⟨fun _ => ⟨execution, member, ?_, now, result⟩, ?_, ?_⟩
        · rw [same]
          exact carries
        · intro unauthorized
          rw [result] at unauthorized
          simp [unauthorized] at status
        · intro refused
          rw [result] at refused
          simp [refused] at status
      | accepted =>
        obtain ⟨authenticated, told⟩ := told
        have executed := processCommand_executes writes known authenticated
        rw [outcome] at executed
        rw [told]
        have status := fromResult_status call.now
          (CommandProcessor.process command server.currentState)
        refine ⟨fun _ => ⟨⟨command, call.clock, CommandProcessor.process command server.currentState⟩, ?_,
          carries, call.now, rfl⟩, ?_, ?_⟩
        · rw [executed]
          exact List.mem_append_right _ List.mem_cons_self
        · intro unauthorized
          simp [unauthorized] at status
        · intro refused
          simp [refused] at status

theorem Truthful.later {reached : CommandServer} {acknowledgement : CommandAcknowledgement}
    {alone : Prop} (truthful : Truthful configuration line alone server acknowledgement)
    (grown : ∀ execution ∈ server.executions, execution ∈ reached.executions)
    (quiet : alone → NeverExecuted configuration line server →
      NeverExecuted configuration line reached) :
    Truthful configuration line alone reached acknowledgement where
  executed known := by
    obtain ⟨execution, member, rest⟩ := truthful.executed known
    exact ⟨execution, grown execution member, rest⟩
  unauthorized := truthful.unauthorized
  refused known single := quiet single (truthful.refused known single)

theorem Truthful.processCommand {acknowledgement : CommandAcknowledgement} {alone : Prop}
    (truthful : Truthful configuration line alone server acknowledgement)
    (writes : ∀ eventType, call.writes eventType = true)
    (other : alone → ∀ command, Carries configuration line command →
      ¬Carries configuration call.jsonMessage command) :
    Truthful configuration line alone
      (runOn (CommandServer.processCommand configuration call) server).2 acknowledgement := by
  rcases @processCommand_executions configuration call writes server with
    ⟨command, -, carries, executions⟩ | executions
  · refine truthful.later ?_ ?_
    · rw [executions]
      exact fun execution member => List.mem_append_left _ member
    · intro single never execution member same
      rw [executions, List.mem_append, List.mem_singleton] at member
      rcases member with earlier | rfl
      · exact never execution earlier same
      · exact other single _ same carries
  · refine truthful.later ?_ ?_
    · rw [executions]
      exact fun execution member => member
    · rw [NeverExecuted, NeverExecuted, executions]
      exact fun _ never => never

end CommandServer

namespace Exchange

open CommandServer

variable {configuration : Configuration} {command : SignedCommand} {exchange after : Exchange}

/-- No attempt is on its way that is newer than the present one, and none at all behind an answer. -/
def Latest (exchange : Exchange) : Prop :=
  match exchange.sender with
  | .before attemptNumber =>
    exchange.answer = none ∧ ∀ request ∈ exchange.requests, request < attemptNumber
  | .waiting attemptNumber => (∀ request ∈ exchange.requests, request ≤ attemptNumber) ∧
      (exchange.answer = none ∨ exchange.requests = [])
  | .returned _ => exchange.answer = none ∧ exchange.requests = []
  | .raised _ => exchange.answer = none

/-- The acknowledgement that is on its way back, or has come back. -/
def Acknowledged (exchange : Exchange) (acknowledgement : CommandAcknowledgement) : Prop :=
  exchange.answer = some acknowledgement ∨ exchange.sender = .returned acknowledgement

structure Reliable (configuration : Configuration) (command : SignedCommand) (alone : Prop)
    (exchange : Exchange) : Prop where
  consistent : Consistent configuration command.commandJson exchange.server
  ordered : exchange.requests.Pairwise (· < ·)
  latest : exchange.Latest
  truthful : ∀ acknowledgement, exchange.Acknowledged acknowledgement →
    Truthful configuration command.commandJson alone exchange.server acknowledgement

theorem Reliable.initial {alone : Prop} : Reliable configuration command alone .initial where
  consistent := .initial
  ordered := .nil
  latest := ⟨rfl, fun request member => by cases member⟩
  truthful acknowledgement known := by
    rcases known with answered | returned
    · cases answered
    · cases returned

theorem Latest.unacknowledged (latest : exchange.Latest) (pending : exchange.requests ≠ [])
    (acknowledgement : CommandAcknowledgement) : ¬exchange.Acknowledged acknowledgement := by
  rintro (answered | returned)
  · unfold Latest at latest
    split at latest <;> simp_all
  · rw [Latest, returned] at latest
    exact pending latest.2

theorem Reliable.line {alone : Prop} {jsonMessage : JavaString} {clock now : Instant}
    (reliable : Reliable configuration command alone exchange)
    (distinct : DistinctlySigned configuration command.commandJson jsonMessage)
    (other : alone → ∀ accepted, Carries configuration command.commandJson accepted →
      ¬Carries configuration jsonMessage accepted) :
    Reliable configuration command alone { exchange with
      server := (process configuration jsonMessage clock now exchange.server).2 } where
  consistent := reliable.consistent.processCommand (fun _ => rfl) distinct
  ordered := reliable.ordered
  latest := reliable.latest
  truthful acknowledgement known :=
    (reliable.truthful acknowledgement known).processCommand (fun _ => rfl) other

theorem Reliable.send {alone : Prop} {attemptNumber : Nat}
    (reliable : Reliable configuration command alone exchange)
    (sender : exchange.sender = .before attemptNumber) :
    Reliable configuration command alone { exchange with
      sender := .waiting attemptNumber
      requests := exchange.requests ++ [attemptNumber]
      answer := none } where
  consistent := reliable.consistent
  ordered := by
    have latest := reliable.latest
    rw [Latest, sender] at latest
    refine List.pairwise_append.mpr ⟨reliable.ordered, List.pairwise_singleton _ _, ?_⟩
    intro request member last known
    rw [List.mem_singleton.mp known]
    exact latest.2 request member
  latest := by
    have latest := reliable.latest
    rw [Latest, sender] at latest
    refine ⟨?_, .inl rfl⟩
    intro request member
    rw [List.mem_append, List.mem_singleton] at member
    rcases member with earlier | rfl
    · have bound := latest.2 request earlier
      omega
    · rfl
  truthful acknowledgement known := by
    rcases known with answered | returned
    · cases answered
    · cases returned

theorem Reliable.lose {alone : Prop} {attemptNumber : Nat}
    (reliable : Reliable configuration command alone exchange) :
    Reliable configuration command alone
      { exchange with requests := exchange.requests.erase attemptNumber } where
  consistent := reliable.consistent
  ordered := reliable.ordered.sublist List.erase_sublist
  latest := by
    have latest := reliable.latest
    unfold Latest at latest ⊢
    have fewer : ∀ request ∈ exchange.requests.erase attemptNumber, request ∈ exchange.requests :=
      fun request member => List.mem_of_mem_erase member
    dsimp only
    cases sender : exchange.sender with
    | before present =>
      simp only [sender] at latest
      exact ⟨latest.1, fun request member => latest.2 request (fewer request member)⟩
    | waiting present =>
      simp only [sender] at latest
      refine ⟨fun request member => latest.1 request (fewer request member), latest.2.imp id ?_⟩
      intro none
      rw [none]
      rfl
    | returned acknowledgement =>
      simp only [sender] at latest
      refine ⟨latest.1, ?_⟩
      rw [latest.2]
      rfl
    | raised error =>
      simp only [sender] at latest
      exact latest
  truthful := reliable.truthful

theorem sendCommandWithRetry_cases (attemptNumber : Nat) (reply : Reply) :
    (∃ acknowledgement, reply = .delivered acknowledgement ∧
      sendCommandWithRetry attemptNumber reply = .returned acknowledgement) ∨
    sendCommandWithRetry attemptNumber reply = .before (attemptNumber + 1) ∨
    ∃ error, sendCommandWithRetry attemptNumber reply = .raised error := by
  have failing : ∀ error, sendOneAttempt reply = .error error →
      sendCommandWithRetry attemptNumber reply = .before (attemptNumber + 1) ∨
        ∃ error, sendCommandWithRetry attemptNumber reply = .raised error := by
    intro error thrown
    rw [sendCommandWithRetry, thrown]
    simp only
    split
    · split
      · exact .inl rfl
      · exact .inr ⟨_, rfl⟩
    · exact .inr ⟨_, rfl⟩
  cases reply with
  | delivered acknowledgement => exact .inl ⟨acknowledgement, rfl, rfl⟩
  | failed error => exact .inr (failing _ rfl)
  | ended => exact .inr (failing _ rfl)
  | truncated insideCharacter => exact .inr (failing _ rfl)

theorem Reliable.reply {alone : Prop} {attemptNumber : Nat} {reply : Reply}
    (reliable : Reliable configuration command alone exchange)
    (sender : exchange.sender = .waiting attemptNumber) (allowed : exchange.allows reply = true) :
    Reliable configuration command alone { exchange with
      sender := sendCommandWithRetry attemptNumber reply
      answer := none } where
  consistent := reliable.consistent
  ordered := reliable.ordered
  latest := by
    have latest := reliable.latest
    rw [Latest, sender] at latest
    unfold Latest
    rcases sendCommandWithRetry_cases attemptNumber reply with
      ⟨acknowledgement, delivered, next⟩ | next | ⟨error, next⟩
    · rw [delivered, allows, decide_eq_true_eq] at allowed
      rw [next]
      exact ⟨rfl, latest.2.resolve_left (by simp [allowed])⟩
    · rw [next]
      refine ⟨rfl, fun request member => ?_⟩
      have bound := latest.1 request member
      omega
    · rw [next]
  truthful acknowledgement known := by
    refine reliable.truthful acknowledgement (.inl ?_)
    rcases known with answered | returned
    · cases answered
    · simp only at returned
      rcases sendCommandWithRetry_cases attemptNumber reply with
        ⟨other, delivered, next⟩ | next | ⟨error, next⟩
      · rw [next] at returned
        cases returned
        rwa [delivered, allows, decide_eq_true_eq] at allowed
      · rw [next] at returned
        cases returned
      · rw [next] at returned
        cases returned

theorem Reliable.arrive {alone : Prop} {attemptNumber : Nat} {later : List Nat} {clock now : Instant}
    (reliable : Reliable configuration command alone exchange)
    (requests : exchange.requests = attemptNumber :: later) :
    let outcome := process configuration command.commandJson clock now exchange.server
    Reliable configuration command alone { exchange with
      server := outcome.2
      requests := later
      answer := if exchange.sender = .waiting attemptNumber then outcome.1.toOption
        else exchange.answer } where
  consistent := reliable.consistent.processCommand (fun _ => rfl) (by
    intro first second carries same _
    exact same.unique carries)
  ordered := by
    have ordered := reliable.ordered
    rw [requests] at ordered
    exact (List.pairwise_cons.mp ordered).2
  latest := by
    have latest := reliable.latest
    have ordered := reliable.ordered
    rw [requests, List.pairwise_cons] at ordered
    unfold Latest at latest ⊢
    simp only [requests] at latest
    dsimp only
    cases sender : exchange.sender with
    | before present =>
      simp only [sender, List.forall_mem_cons] at latest
      exact ⟨by simp [latest.1], latest.2.2⟩
    | waiting present =>
      simp only [sender, List.forall_mem_cons] at latest
      refine ⟨latest.1.2, ?_⟩
      by_cases same : present = attemptNumber
      · refine .inr (List.eq_nil_iff_forall_not_mem.mpr fun request member => ?_)
        have above := ordered.1 request member
        have bound := latest.1.2 request member
        omega
      · exact .inl (by simp [same, latest.2.resolve_right])
    | returned acknowledgement => simp [sender] at latest
    | raised error =>
      simp only [sender] at latest
      simp [latest]
  truthful acknowledgement known := by
    have unacknowledged := reliable.latest.unacknowledged (by simp [requests]) acknowledgement
    rcases known with answered | returned
    · simp only at answered
      split at answered
      · have outcome : (process configuration command.commandJson clock now exchange.server).1 =
            .ok acknowledgement := by
          cases result : (process configuration command.commandJson clock now exchange.server).1 with
          | error error => simp [result, Except.toOption] at answered
          | ok value => simpa [result, Except.toOption] using answered
        exact reliable.consistent.truthful (fun _ => rfl) outcome
      · exact absurd (.inl answered) unacknowledged
    · exact absurd (.inr returned) unacknowledged

theorem Reliable.step {alone : Prop} {event : Event}
    (reliable : Reliable configuration command alone exchange)
    (moved : step configuration command exchange event = some after)
    (distinct : ∀ jsonMessage clock now, event = .line jsonMessage clock now →
      DistinctlySigned configuration command.commandJson jsonMessage)
    (other : ∀ jsonMessage clock now, event = .line jsonMessage clock now → alone →
      ∀ accepted, Carries configuration command.commandJson accepted →
        ¬Carries configuration jsonMessage accepted) :
    Reliable configuration command alone after := by
  cases event with
  | line jsonMessage clock now =>
    cases moved
    exact reliable.line (distinct _ _ _ rfl) (other _ _ _ rfl)
  | send =>
    simp only [Exchange.step] at moved
    split at moved
    · next attemptNumber sender =>
      cases moved
      exact reliable.send sender
    · cases moved
  | arrive clock now =>
    simp only [Exchange.step] at moved
    split at moved
    · cases moved
    · next attemptNumber later requests =>
      cases moved
      exact reliable.arrive requests
  | lose attemptNumber =>
    cases moved
    exact reliable.lose
  | reply reply =>
    simp only [Exchange.step] at moved
    split at moved
    · next attemptNumber sender =>
      split at moved
      · next allowed =>
        cases moved
        exact reliable.reply sender allowed
      · cases moved
    · cases moved

def Alone (configuration : Configuration) (command : SignedCommand) (events : List Event) : Prop :=
  ∀ jsonMessage clock now, .line jsonMessage clock now ∈ events →
    ∀ accepted, Carries configuration command.commandJson accepted →
      ¬Carries configuration jsonMessage accepted

theorem Reliable.run {alone : Prop} {events : List Event}
    (run : Steps configuration command .initial events after)
    (distinct : ∀ jsonMessage clock now, .line jsonMessage clock now ∈ events →
      DistinctlySigned configuration command.commandJson jsonMessage)
    (other : ∀ jsonMessage clock now, .line jsonMessage clock now ∈ events → alone →
      ∀ accepted, Carries configuration command.commandJson accepted →
        ¬Carries configuration jsonMessage accepted) :
    Reliable configuration command alone after := by
  generalize start : Exchange.initial = first at run
  induction run with
  | nil => exact start ▸ .initial
  | snoc _ moved ih =>
    refine (ih ?_ ?_).step moved ?_ ?_
    · exact fun jsonMessage clock now member =>
        distinct jsonMessage clock now (List.mem_append_left _ member)
    · exact fun jsonMessage clock now member =>
        other jsonMessage clock now (List.mem_append_left _ member)
    · rintro jsonMessage clock now rfl
      exact distinct jsonMessage clock now (by simp)
    · rintro jsonMessage clock now rfl
      exact other jsonMessage clock now (by simp)

/-- In every run of the retries, whatever is lost or cut short, whatever the clocks read and whatever
lines other clients send, if distinct commands have distinct signatures: the command is executed at
most once, also if the sender gives up; an acknowledgement with a result is that of the one execution;
an unauthorized command is never executed; and neither is one that is refused, unless another client
sends this very command. -/
theorem reliable_delivery (configuration : Configuration) (command : SignedCommand)
    (events : List Event) (final : Exchange)
    (run : Steps configuration command .initial events final)
    (distinct : ∀ jsonMessage clock now, .line jsonMessage clock now ∈ events →
      DistinctlySigned configuration command.commandJson jsonMessage) :
    (NeverExecuted configuration command.commandJson final.server ∨
      ∃ execution, ExecutedOnce configuration command.commandJson final.server execution) ∧
    ∀ acknowledgement, final.sender = .returned acknowledgement →
      (acknowledgement.status = .accepted ∨ acknowledgement.status = .rejected →
        ∃ execution, ExecutedOnce configuration command.commandJson final.server execution ∧
          ∃ now, acknowledgement = .fromResult now execution.result) ∧
      (acknowledgement.status = .unauthorized →
        NeverExecuted configuration command.commandJson final.server) ∧
      (acknowledgement.status = .securityRejected → Alone configuration command events →
        NeverExecuted configuration command.commandJson final.server) := by
  have reliable := @Reliable.run configuration command final (Alone configuration command events)
    events run distinct fun jsonMessage clock now member single => single jsonMessage clock now member
  have sound := reliable.consistent.sound
  refine ⟨sound.once_or_never _, fun acknowledgement returned => ?_⟩
  have truthful := reliable.truthful acknowledgement (.inr returned)
  refine ⟨fun status => ?_, fun status => ?_, truthful.refused⟩
  · obtain ⟨execution, member, carries, result⟩ := truthful.executed status
    exact ⟨execution, sound.executedOnce member carries, result⟩
  · intro execution member carries
    have unverified := truthful.unauthorized status _ carries
    rw [(sound.checked execution member).1] at unverified
    cases unverified

def startCommand : SignedCommand where
  messageId := .ofString "CMD-000001"
  commandType := .ofString "START_SYSTEM"
  targetId := targetId
  sequenceNumber := 1
  timestamp := .ofString "2026-01-01T00:00:00Z"
  payload := .empty
  signature := PythonString.ofUnits startSignature

def startAcknowledgement : CommandAcknowledgement where
  messageId := .ofString "CMD-000001"
  status := .accepted
  commandType := .ofString "START_SYSTEM"
  previousState := .ofString "OFFLINE"
  currentState := .ofString "STANDBY"
  message := .ofString "Remote unit initialized and entered standby mode."
  processedAt := startClock.toString

def startEvents : List Event :=
  [.line (.ofString "ping") startClock startClock, .send, .arrive startClock startClock,
    .reply (.truncated false), .send, .arrive startClock startClock,
    .reply (.delivered startAcknowledgement)]

theorem reliable_delivery_retried :
    ∃ final, Steps stationConfiguration startCommand .initial startEvents final ∧
      final.sender = .returned startAcknowledgement ∧
      ∃ execution, ExecutedOnce stationConfiguration startCommand.commandJson final.server execution ∧
        ∃ now, startAcknowledgement = .fromResult now execution.result := by
  have senders : (startEvents.foldlM (step stationConfiguration startCommand) .initial).map
      Exchange.sender = some (.returned startAcknowledgement) := by
    decide +kernel
  obtain ⟨final, found, returned⟩ := Option.map_eq_some_iff.mp senders
  have run := Run.of_foldlM found
  refine ⟨final, run, returned, ?_⟩
  refine ((reliable_delivery stationConfiguration startCommand startEvents final run ?_).2
    startAcknowledgement returned).1 (.inl rfl)
  intro jsonMessage clock now member command command' _ carries
  have ping : jsonMessage = .ofString "ping" := by
    simp only [startEvents, List.mem_cons, Event.line.injEq, reduceCtorEq, List.not_mem_nil, or_false]
      at member
    exact member.1
  rw [ping] at carries
  cases carries

end Exchange

end CareerProjects.CommandControl
