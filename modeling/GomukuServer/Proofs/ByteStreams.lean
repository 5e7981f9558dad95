/-
Module: GomukuServer.Proofs.ByteStreams
Layer: Proofs
Purpose: The server as the network sees it refines the server of whole events: whatever bytes arrive
  in whatever order, the handlers do what they do for some sequence of events.  The messages of a
  connection depend on its own bytes alone, and are the ones that were sent if each frame ends with
  a chunk and is cut only in its header, whatever the other connections send.
Trusted boundary: none
Main exports: extracts, bodiesOf, chunksOf, bytes_refine_events, messages_of_frames
-/
import GomukuServer.Module.ByteServer

namespace GomukuServer.Proofs.ByteStreams

open Base Base.Runs Base.Framing Manager Net Net.ProtocolDispatcher MyMuduo
open GomukuServer.Module
open GomukuServer.Module.ByteServer GomukuServer.Module.Server

/-- The bodies that a buffer yields when chunks are appended to it, one look at it after each. -/
def extracts (buf : Buffer) : List (List Byte) → Except Fault (Buffer × List (List Byte))
  | [] => .ok (buf, [])
  | chunk :: chunks => do
      let (rest, body) ← extract (buf.readfd chunk)
      let (last, bodies) ← extracts rest chunks
      pure (last, body.toList ++ bodies)

/-- The chunks that have arrived on a connection. -/
def chunksOf (conn : ConnId) (events : List ByteEvent) : List (List Byte) :=
  events.filterMap fun
    | .received other incoming _ => if other = conn then some incoming else none
    | _ => none

/-- The bodies that the handlers have got from a connection. -/
def bodiesOf (conn : ConnId) (arrivals : List Server.Arrival) : List (List Byte) :=
  arrivals.filterMap fun
    | .message other body _ => if other = conn then some body else none
    | _ => none

/-- The connection neither comes up nor goes down, and every read on it yields something. -/
def StaysUp (conn : ConnId) : ByteEvent → Prop
  | .connected other => other ≠ conn
  | .disconnected other _ => other ≠ conn
  | .received other incoming _ => other = conn → incoming ≠ []
  | .matchQueue _ _ => True

/-! ### The handlers get events -/

/-- A run of the byte server is a run of the handlers on what the buffers yield. -/
theorem run_eq_ok {json : JsonCpp} {state last : ByteServer} {events : List ByteEvent}
    (reached : run (ByteServer.step json) state events = .ok last) :
    ∃ arrivals, intakes state.inputs events = .ok (last.inputs, arrivals) ∧
      run (Server.arrive json) state.server arrivals = .ok last.server := by
  induction events generalizing state with
  | nil =>
      obtain rfl := Except.ok.inj reached
      exact ⟨[], rfl, rfl⟩
  | cons event events inductionHypothesis =>
      obtain ⟨next, stepEq, rest⟩ := run_cons_ok reached
      rw [step_eq] at stepEq
      obtain ⟨⟨inputs, arrival⟩, taken, handled⟩ := bind_eq_ok.mp stepEq
      obtain ⟨server, arrived, same⟩ := bind_eq_ok.mp handled
      cases same
      obtain ⟨arrivals, later, ran⟩ := inductionHypothesis rest
      refine ⟨arrival.toList ++ arrivals, by simp [intakes, taken, later], ?_⟩
      cases arrival with
      | none =>
          obtain rfl := Except.ok.inj arrived
          exact ran
      | some arrival =>
          have first : Server.arrive json state.server arrival = .ok server := arrived
          simp only [Option.toList_some, List.singleton_append, run, first]
          exact ran

/-- An arrival is one event at most. -/
theorem exists_events_of_arrive {json : JsonCpp} {server next : Server} {arrival : Server.Arrival}
    (arrived : server.arrive json arrival = .ok next) :
    ∃ events, run Server.step server events = .ok next := by
  cases arrival with
  | other event =>
      have stepEq := (stepAndLog_eq_ok.mp arrived).1
      exact ⟨[event], by simp [run, stepEq]⟩
  | message conn body outcomes =>
      obtain ⟨call, handled, rest⟩ := bind_eq_ok.mp arrived
      cases call with
      | none => exact ⟨[], rest⟩
      | some call =>
          cases found : findHandler call.protocol with
          | none =>
              simp only [found] at rest
              exact ⟨[], rest⟩
          | some handler =>
              simp only [found] at rest
              have stepEq := (stepAndLog_eq_ok.mp rest).1
              exact ⟨[handler conn call.data outcomes], by simp [run, stepEq]⟩

/-! ### Each connection for itself -/

/-- What an event means for a connection that stays up: nothing, or one more look at its buffer. -/
theorem intake_own {conn : ConnId} {inputs after : PMap ConnId Buffer} {buf : Buffer}
    {event : ByteEvent} {arrival : Option Server.Arrival} (mine : inputs.find? conn = some buf)
    (up : StaysUp conn event) (taken : intake inputs event = .ok (after, arrival)) :
    (chunksOf conn [event] = [] ∧ after.find? conn = some buf ∧
      bodiesOf conn arrival.toList = []) ∨
    ∃ chunk rest body, chunksOf conn [event] = [chunk] ∧ after.find? conn = some rest ∧
      extract (buf.readfd chunk) = .ok (rest, body) ∧
      bodiesOf conn arrival.toList = body.toList := by
  cases event with
  | connected other =>
      have elsewhere : conn ≠ other := Ne.symm up
      cases taken
      exact .inl ⟨rfl, by simp [elsewhere, mine], rfl⟩
  | disconnected other erased =>
      have elsewhere : conn ≠ other := Ne.symm up
      cases taken
      exact .inl ⟨rfl, by simp [elsewhere, mine], rfl⟩
  | matchQueue i roomCount =>
      cases taken
      exact .inl ⟨rfl, mine, rfl⟩
  | received other incoming outcomes =>
      by_cases same : other = conn
      · subst same
        have some : incoming ≠ [] := up rfl
        simp only [intake, mine, if_neg some] at taken
        obtain ⟨⟨rest, body⟩, extracted, built⟩ := bind_eq_ok.mp taken
        cases built
        refine .inr ⟨incoming, rest, body, by simp [chunksOf], by simp, extracted, ?_⟩
        cases body <;> simp [bodiesOf]
      · refine .inl ⟨by simp [chunksOf, same], ?_⟩
        simp only [intake] at taken
        split at taken
        · cases taken
          exact ⟨mine, rfl⟩
        · split at taken
          · cases taken
            exact ⟨mine, rfl⟩
          · obtain ⟨⟨rest, body⟩, _, built⟩ := bind_eq_ok.mp taken
            cases built
            refine ⟨by simp [Ne.symm same, mine], ?_⟩
            cases body <;> simp [bodiesOf, same]

/-- What the handlers get from a connection is what its own bytes yield, whatever else happens. -/
theorem intakes_own {conn : ConnId} {inputs after : PMap ConnId Buffer} {buf : Buffer}
    {events : List ByteEvent} {arrivals : List Server.Arrival}
    (mine : inputs.find? conn = some buf) (up : ∀ event ∈ events, StaysUp conn event)
    (taken : intakes inputs events = .ok (after, arrivals)) :
    ∃ last, extracts buf (chunksOf conn events) = .ok (last, bodiesOf conn arrivals) ∧
      after.find? conn = some last := by
  induction events generalizing inputs buf arrivals with
  | nil =>
      cases taken
      exact ⟨buf, rfl, mine⟩
  | cons event events inductionHypothesis =>
      obtain ⟨⟨middle, arrival⟩, first, others⟩ := bind_eq_ok.mp taken
      obtain ⟨⟨final, later⟩, rest, built⟩ := bind_eq_ok.mp others
      cases built
      have upLater : ∀ event ∈ events, StaysUp conn event := fun event inside =>
        up event (List.mem_cons_of_mem _ inside)
      have chunksEq : chunksOf conn (event :: events) =
          chunksOf conn [event] ++ chunksOf conn events :=
        List.filterMap_append (l := [event])
      have bodiesEq : bodiesOf conn (arrival.toList ++ later) =
          bodiesOf conn arrival.toList ++ bodiesOf conn later := List.filterMap_append
      rw [chunksEq, bodiesEq]
      rcases intake_own mine (up event (List.mem_cons_self ..)) first with
        ⟨none, same, nothing⟩ | ⟨chunk, rest', body, one, now, extracted, yields⟩
      · rw [none, nothing]
        exact inductionHypothesis same upLater rest
      · obtain ⟨last, ran, there⟩ := inductionHypothesis now upLater rest
        refine ⟨last, ?_, there⟩
        rw [one, yields]
        simp [extracts, extracted, ran]

/-- Every run of the byte server, whatever bytes arrive and in whatever order, is a run of the
server of whole events.  The handlers get, from each connection that stays up, what its own bytes
yield when they are alone in its own buffer. -/
theorem bytes_refine_events {json : JsonCpp} {state last : ByteServer} {events : List ByteEvent}
    (reached : run (ByteServer.step json) state events = .ok last) :
    (∃ serverEvents, run Server.step state.server serverEvents = .ok last.server) ∧
    ∃ arrivals, run (Server.arrive json) state.server arrivals = .ok last.server ∧
      ∀ conn buf, state.inputs.find? conn = some buf → (∀ event ∈ events, StaysUp conn event) →
        ∃ rest, extracts buf (chunksOf conn events) = .ok (rest, bodiesOf conn arrivals) ∧
          last.inputs.find? conn = some rest := by
  obtain ⟨arrivals, taken, ran⟩ := run_eq_ok reached
  refine ⟨?_, arrivals, ran, fun conn buf mine up => intakes_own mine up taken⟩
  have simulates : ∀ server other arrival next, server = other →
      Server.arrive json server arrival = .ok next →
        ∃ moves final, run Server.step other moves = .ok final ∧ next = final := by
    rintro server _ arrival next rfl arrived
    obtain ⟨moves, moved⟩ := exists_events_of_arrive arrived
    exact ⟨moves, next, moved, rfl⟩
  obtain ⟨moves, final, moved, rfl⟩ := exists_run_of_simulates simulates rfl ran
  exact ⟨moves, moved⟩

/-! ### Frames that end with a chunk -/

/-- Nothing comes out before there is more than a header. -/
theorem extracts_short {buf : Buffer} {chunks : List (List Byte)}
    (short : buf.readable.length + chunks.flatten.length ≤ headerSize) :
    ∃ last, extracts buf chunks = .ok (last, []) ∧
      last.readable = buf.readable ++ chunks.flatten := by
  induction chunks generalizing buf with
  | nil => exact ⟨buf, rfl, by simp⟩
  | cons chunk chunks inductionHypothesis =>
      have arrived : (buf.readfd chunk).readable = buf.readable ++ chunk := by simp
      have header : (buf.readfd chunk).readableBytes ≤ headerSize := by
        rw [← Buffer.length_readable, arrived, List.length_append]
        simp only [List.flatten_cons, List.length_append] at short
        omega
      obtain ⟨last, nothing, readable⟩ := @inductionHypothesis (buf.readfd chunk) (by
        rw [arrived]
        simpa [Nat.add_assoc] using short)
      refine ⟨last, by simp [extracts, extract_short header, nothing], ?_⟩
      rw [readable, arrived]
      simp

/-- Chunks in two parts. -/
theorem extracts_append {buf middle last : Buffer} {first second : List (List Byte)}
    {bodies later : List (List Byte)} (one : extracts buf first = .ok (middle, bodies))
    (two : extracts middle second = .ok (last, later)) :
    extracts buf (first ++ second) = .ok (last, bodies ++ later) := by
  induction first generalizing buf bodies with
  | nil =>
      cases one
      exact two
  | cons chunk first inductionHypothesis =>
      obtain ⟨⟨rest, body⟩, extracted, others⟩ := bind_eq_ok.mp one
      obtain ⟨⟨middle', bodies'⟩, ran, built⟩ := bind_eq_ok.mp others
      cases built
      simp [extracts, extracted, inductionHypothesis ran]

/-- A frame that ends with a chunk and is cut only in its header comes out whole. -/
theorem extracts_group {buf : Buffer} {body : List Byte} {group : List (List Byte)}
    (empty : buf.readable = []) (nonempty : body ≠ []) (short : body.length ≤ 1024)
    (cut : CutIn headerSize group (frame headerSize body)) :
    ∃ last, extracts buf group = .ok (last, [body]) ∧ last.readable = [] := by
  obtain ⟨whole, header⟩ := cut
  have some : group ≠ [] := by
    rintro rfl
    simp [frame, nonempty] at whole
  have split : group.dropLast ++ [group.getLast some] = group := List.dropLast_append_getLast some
  obtain ⟨middle, waiting, readable⟩ := @extracts_short buf group.dropLast (by
    simpa [empty] using header)
  have completes : (middle.readfd (group.getLast some)).readable = frame headerSize body := by
    rw [Buffer.readable_readfd, readable, empty, ← whole]
    conv_rhs => rw [← split]
    simp
  obtain ⟨last, extracted, drained⟩ := extract_frame nonempty short completes
  refine ⟨last, ?_, drained⟩
  rw [← split]
  exact extracts_append waiting (by simp [extracts, extracted])

/-- Frame after frame comes out. -/
theorem extracts_groups {buf : Buffer} {bodies : List (List Byte)}
    {groups : List (List (List Byte))} (empty : buf.readable = [])
    (accepted : ∀ body ∈ bodies, body ≠ [] ∧ body.length ≤ 1024)
    (cut : List.Forall₂ (CutIn headerSize) groups (bodies.map (frame headerSize))) :
    ∃ last, extracts buf groups.flatten = .ok (last, bodies) ∧ last.readable = [] := by
  induction bodies generalizing buf groups with
  | nil =>
      obtain rfl := List.forall₂_nil_right_iff.mp cut
      exact ⟨buf, rfl, empty⟩
  | cons body bodies inductionHypothesis =>
      obtain ⟨group, rest, first, others, rfl⟩ := List.forall₂_cons_right_iff.mp cut
      obtain ⟨nonempty, short⟩ := accepted body (List.mem_cons_self ..)
      obtain ⟨middle, one, drained⟩ := extracts_group empty nonempty short first
      obtain ⟨last, more, done⟩ := inductionHypothesis drained
        (fun other inside => accepted other (List.mem_cons_of_mem _ inside)) others
      exact ⟨last, extracts_append one more, done⟩

/-- What reaches the handlers from frames that each end with a chunk and are cut only in their
headers. -/
theorem intakes_frames {conn : ConnId} {inputs after : PMap ConnId Buffer} {buf : Buffer}
    {events : List ByteEvent} {arrivals : List Server.Arrival} {bodies : List (List Byte)}
    (taken : intakes inputs events = .ok (after, arrivals))
    (mine : inputs.find? conn = some buf) (empty : buf.readable = [])
    (up : ∀ event ∈ events, StaysUp conn event)
    (accepted : ∀ body ∈ bodies, body ≠ [] ∧ body.length ≤ 1024)
    (cut : EndsWithFrames headerSize (chunksOf conn events) (bodies.map (frame headerSize))) :
    bodiesOf conn arrivals = bodies ∧ (after.find? conn).map Buffer.readable = some [] := by
  obtain ⟨rest, own, there⟩ := intakes_own mine up taken
  obtain ⟨groups, chunks, grouped⟩ := cut
  obtain ⟨drained, whole, done⟩ := extracts_groups empty accepted grouped
  rw [chunks, own] at whole
  cases whole
  exact ⟨rfl, by rw [there, Option.map_some, done]⟩

/-- A connection that stays up, starts with nothing in its buffer and sends frames with bodies that
are accepted, each of which ends with a chunk and is cut only in its header: whatever the other
connections send, in every run that returns the handlers get exactly these bodies from it, once each
and in order, and nothing of them is left in its buffer. -/
theorem messages_of_frames {json : JsonCpp} {state last : ByteServer} {events : List ByteEvent}
    (reached : run (ByteServer.step json) state events = .ok last) {conn : ConnId} {buf : Buffer}
    {bodies : List (List Byte)} (mine : state.inputs.find? conn = some buf)
    (empty : buf.readable = []) (up : ∀ event ∈ events, StaysUp conn event)
    (accepted : ∀ body ∈ bodies, body ≠ [] ∧ body.length ≤ 1024)
    (cut : EndsWithFrames headerSize (chunksOf conn events) (bodies.map (frame headerSize))) :
    ∃ arrivals, run (Server.arrive json) state.server arrivals = .ok last.server ∧
      bodiesOf conn arrivals = bodies ∧
      (last.inputs.find? conn).map Buffer.readable = some [] := by
  obtain ⟨arrivals, taken, ran⟩ := run_eq_ok reached
  exact ⟨arrivals, ran, intakes_frames taken mine empty up accepted cut⟩

/-- A reader for which no text is JSON. -/
def noJson : JsonCpp := ⟨fun _ => .ok none, fun _ => "", fun _ => ""⟩

/-- Two connections, both with nothing received. -/
def twoUp : ByteServer := ⟨Server.new annAndBob, (PMap.empty.insert 10 .new).insert 11 .new⟩

/-- No answer from the database. -/
def unanswered : DbOutcomes := ⟨.noConnection, .noConnection, .noConnection, .noConnection⟩

/-- One connection sends two frames, the first cut in its header, and the other one sends bytes that
are no frame. -/
def twoStreams : List ByteEvent :=
  [.received 10 [0, 0] unanswered, .received 11 [9, 9, 9, 9, 9] unanswered,
    .received 10 [0, 2, 0x68, 0x69] unanswered, .received 11 [9, 9, 9] unanswered,
    .received 10 [0, 0, 0, 1, 0x21] unanswered]

/-- The first connection gets both of its messages through. -/
theorem messages_of_frames_twoStreams :
    ∃ last, run (ByteServer.step noJson) twoUp twoStreams = .ok last ∧
      ∃ arrivals, run (Server.arrive noJson) twoUp.server arrivals = .ok last.server ∧
        bodiesOf 10 arrivals = [[0x68, 0x69], [0x21]] ∧
        (last.inputs.find? 10).map Buffer.readable = some [] := by
  have returns : (run (ByteServer.step noJson) twoUp twoStreams).isOk = true := by
    decide +kernel
  obtain ⟨last, reached⟩ := exists_last_of_isOk returns
  have mine : twoUp.inputs.find? 10 = some .new := by simp [twoUp]
  refine ⟨last, reached, messages_of_frames reached mine Buffer.readable_new ?_ ?_ ?_⟩
  · simp [twoStreams, StaysUp]
  · simp
  · exact ⟨[[[0, 0], [0, 2, 0x68, 0x69]], [[0, 0, 0, 1, 0x21]]], by decide +kernel,
      .cons ⟨by decide, by decide⟩ (.cons ⟨by decide, by decide⟩ .nil)⟩

/-- The same run as events. -/
theorem bytes_refine_events_twoStreams :
    ∃ last, run (ByteServer.step noJson) twoUp twoStreams = .ok last ∧
      (∃ serverEvents, run Server.step twoUp.server serverEvents = .ok last.server) ∧
      ∃ arrivals, run (Server.arrive noJson) twoUp.server arrivals = .ok last.server ∧
        ∀ conn buf, twoUp.inputs.find? conn = some buf →
          (∀ event ∈ twoStreams, StaysUp conn event) →
            ∃ rest, extracts buf (chunksOf conn twoStreams) = .ok (rest, bodiesOf conn arrivals) ∧
              last.inputs.find? conn = some rest := by
  have returns : (run (ByteServer.step noJson) twoUp twoStreams).isOk = true := by
    decide +kernel
  obtain ⟨last, reached⟩ := exists_last_of_isOk returns
  exact ⟨last, reached, bytes_refine_events reached⟩

end GomukuServer.Proofs.ByteStreams
