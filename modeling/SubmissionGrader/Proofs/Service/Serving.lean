import SubmissionGrader.Proofs.Service.Exchange
import SubmissionGrader.Service.LineServer

/-!
# Lines and their answers

A server takes part in an exchange with its host: it hands requests over and receives responses. A
line that was read is with the host in the meantime, or its answer is on the way to the output. So
whatever happens first, every line is answered once (`serving_answers_each_line`).
-/

namespace SubmissionGrader

/-- The request that a worker still has to answer. -/
def Worker.envelope? : Worker → Option Envelope
  | .waiting e | .working e => some e
  | .answered _ => none

def Worker.response? : Worker → Option Response
  | .answered response => some response
  | _ => none

section Answers

variable [Syntax.Language]

theorem Job.Admits.eq_answer {depth : Nat} {job : Job} {response : Response}
    (h : job.Admits depth [] response) : response = job.envelope.request.answer depth := by
  cases h with
  | answer => rfl
  | refusal hcancelled => cases hcancelled

/-- Jobs are those whose workers have to answer, and those whose workers did. -/
theorem Job.exists_finished {depth : Nat} {jobs : List Job} {workers : List Worker}
    (h : List.Forall₂ (Job.Matches depth []) jobs workers) :
    ∃ finished : List Envelope,
      (jobs.map (·.envelope)).Perm (workers.filterMap Worker.envelope? ++ finished) ∧
      workers.filterMap Worker.response? = finished.map fun e => e.request.answer depth := by
  induction h with
  | nil => exact ⟨[], .nil, rfl⟩
  | @cons job w jobs workers hmatches h ih =>
    obtain ⟨finished, hperm, hresponses⟩ := ih
    cases hmatches with
    | waiting hearly => exact ⟨finished, hperm.cons _, hresponses⟩
    | working hearly => exact ⟨finished, hperm.cons _, hresponses⟩
    | answered hadmits =>
      refine ⟨job.envelope :: finished, (hperm.cons _).trans List.perm_middle.symm, ?_⟩
      rw [hadmits.eq_answer, List.map_cons, ← hresponses]
      rfl

def Request.reply (depth : Nat) : Except Response Request → Response
  | .ok request => request.answer depth
  | .error response => response

theorem map_answerText (explain : String → Option String) (depth : Nat) (lines : List String) :
    lines.map (Request.answerText explain · depth) =
      (lines.map (Request.decode · explain)).map (Request.reply depth) := by
  rw [List.map_map]
  refine List.map_congr_left fun line _ => ?_
  rw [Request.answerText, Function.comp_apply]
  cases Request.decode line explain <;> rfl

end Answers

namespace LineServer

/-- The lines that are not blank. -/
def requestLines (lines : List String) : List String :=
  lines.filter fun line => !Text.isBlankText line

theorem requestLines_concat (lines : List String) (line : String) :
    requestLines (lines ++ [line]) =
      requestLines lines ++ if Text.isBlankText line then [] else [line] := by
  cases hblank : Text.isBlankText line <;> simp [requestLines, hblank]

theorem isIdle_iff {s : LineServer} :
    s.isIdle = true ↔ s.done = false ∧ s.handover = none ∧ s.outgoing = none := by
  simp [isIdle, and_assoc]

section Runs

variable [Syntax.Language] {explain : String → Option String}

theorem run?_eq_foldlM (s : LineServer) (events : List Event) :
    s.run? explain events = events.foldlM (step? explain) s := by
  induction events generalizing s with
  | nil => rfl
  | cons event rest ih =>
    rw [run?, List.foldlM_cons]
    exact congrArg (s.step? explain event >>= ·) (funext ih)

inductive Step (explain : String → Option String) (s : LineServer) : Event → LineServer → Prop
  | host {event : Host.Event} {host : Host} {link : Link}
      (hhost : Host.Step s.host s.link event host link) :
      Step explain s (.host event) { s with host, link }
  | read {line : String} {rest : List String} (hidle : s.isIdle = true)
      (hreading : s.reading = true) (hlines : s.lines = line :: rest) :
      Step explain s .read (readLine explain { s with lines := rest } line)
  | close (hidle : s.isIdle = true) (hreading : s.reading = true) (hlines : s.lines = []) :
      Step explain s .close
        { s with
          reading := false
          link := { s.link with requests := s.link.requests.closeSenders } }
  | refuse {e : Envelope} (hhandover : s.handover = some e)
      (hgone : s.link.requests.receiverGone = true) :
      Step explain s .handOver
        { s with handover := none, outgoing := some (.refused e.request.id .closed) }
  | handOver {e : Envelope} (hhandover : s.handover = some e)
      (hkept : s.link.requests.receiverGone = false) (hroom : s.link.requests.hasRoom = true) :
      Step explain s .handOver
        { s with
          handover := none
          link := { s.link with requests := s.link.requests.push e } }
  | receive {response : Response} {rest : List Response} (hidle : s.isIdle = true)
      (hqueue : s.link.responses.queue = response :: rest) :
      Step explain s .receive
        { s with
          link := { s.link with responses := { s.link.responses with queue := rest } }
          outgoing := some response }
  | write {response : Response} (houtgoing : s.outgoing = some response) :
      Step explain s .write { s with outgoing := none, written := s.written ++ [response] }
  | finish (hidle : s.isIdle = true) (hclosed : s.link.responses.isClosed = true) :
      Step explain s .finish { s with done := true }

theorem step_of_step? {s t : LineServer} {event : Event} (h : s.step? explain event = some t) :
    Step explain s event t := by
  cases event with
  | host event =>
    obtain ⟨⟨host, link⟩, hhost, rfl⟩ := Option.map_eq_some_iff.1 h
    exact .host (Host.step_of_step? hhost)
  | read =>
    simp only [step?] at h
    split at h
    next line rest hlines =>
      split at h
      next hread =>
        cases h
        rw [Bool.and_eq_true] at hread
        exact .read hread.1 hread.2 hlines
      next => cases h
    next => cases h
  | close =>
    simp only [step?] at h
    split at h
    next hclose =>
      cases h
      simp only [Bool.and_eq_true, List.isEmpty_iff] at hclose
      exact .close hclose.1.1 hclose.1.2 hclose.2
    next => cases h
  | handOver =>
    simp only [step?] at h
    split at h
    next e hhandover =>
      split at h
      next hgone =>
        cases h
        exact .refuse hhandover hgone
      next hkept =>
        split at h
        next hroom =>
          cases h
          exact .handOver hhandover (by simpa using hkept) hroom
        next => cases h
    next => cases h
  | receive =>
    simp only [step?, Channel.pop?] at h
    split at h
    next hidle =>
      cases hqueue : s.link.responses.queue with
      | nil => simp [hqueue] at h
      | cons response rest =>
        simp only [hqueue] at h
        cases h
        exact .receive hidle hqueue
    next => cases h
  | write =>
    simp only [step?] at h
    split at h
    next response houtgoing =>
      cases h
      exact .write houtgoing
    next => cases h
  | finish =>
    simp only [step?] at h
    split at h
    next hfinish =>
      cases h
      rw [Bool.and_eq_true] at hfinish
      exact .finish hfinish.1 hfinish.2
    next => cases h

/-! ## What every event keeps -/

/-- A server in an exchange with its host. The responses to lines that are no requests go to the
output directly. -/
structure Serves (explain : String → Option String) (depth : Nat) (lines : List String)
    (s : LineServer) (x : Exchange) (rejections : List Response) : Prop where
  sound : x.Sound depth
  host_eq : x.host = s.host
  link_eq : x.link = s.link
  uncancelled : s.link.cancelled = []
  decoded : ∃ consumed, lines = consumed ++ s.lines ∧
    ((requestLines consumed).map (Request.decode · explain)).Perm
      ((x.accepted ++ s.handover.toList).map (fun e => .ok e.request) ++ rejections.map .error)
  output : (s.written ++ s.outgoing.toList).Perm (x.received ++ rejections)
  reading_eq : s.reading = !s.link.requests.sendersGone
  ended : s.reading = false → s.lines = []
  handing : s.handover.isSome = true → s.done = false ∧ s.reading = true ∧ s.outgoing = none
  writing : s.outgoing.isSome = true → s.done = false
  finished : s.done = true → s.link.responses.isClosed = true

theorem serves_new (config : HostConfig) (input : String) :
    (new config input).Serves explain config.maxNestingDepth (Text.lines input) (.new config)
      [] where
  sound := Exchange.sound_new config
  host_eq := rfl
  link_eq := rfl
  uncancelled := rfl
  decoded := ⟨[], rfl, .nil⟩
  output := .nil
  reading_eq := rfl
  ended := nofun
  handing := nofun
  writing := nofun
  finished := nofun

variable {depth : Nat} {lines : List String} {s t : LineServer} {x : Exchange}
  {rejections : List Response}

/-- Some exchange explains the state of a server. -/
def Accounted (explain : String → Option String) (depth : Nat) (lines : List String)
    (s : LineServer) : Prop :=
  ∃ x rejections, s.Serves explain depth lines x rejections

theorem Serves.host {event : Host.Event} {host : Host} {link : Link}
    (hs : s.Serves explain depth lines x rejections)
    (hhost : Host.Step s.host s.link event host link) :
    Serves explain depth lines { s with host, link } { x.record event with host, link }
      rejections := by
  rw [← hs.host_eq, ← hs.link_eq] at hhost
  obtain ⟨hcancelled, hsenders⟩ := hhost.callers_eq
  rw [hs.link_eq] at hcancelled hsenders
  exact
    { sound := hs.sound.host hhost
      host_eq := rfl
      link_eq := rfl
      uncancelled := hcancelled.trans hs.uncancelled
      decoded := by simpa using hs.decoded
      output := by simpa using hs.output
      reading_eq := by simp only [hs.reading_eq, hsenders]
      ended := hs.ended
      handing := hs.handing
      writing := hs.writing
      finished := fun hdone => by
        have hclosed := hs.finished hdone
        rw [← hs.link_eq] at hclosed
        exact absurd hhost (hs.sound.linked.not_step_of_isClosed hclosed) }

theorem Serves.read {line : String} {rest : List String}
    (hs : s.Serves explain depth lines x rejections) (hlines : s.lines = line :: rest)
    (hidle : s.isIdle = true) (hreading : s.reading = true) :
    Accounted explain depth lines (readLine explain { s with lines := rest } line) := by
  obtain ⟨hdone, hhandover, houtgoing⟩ := isIdle_iff.1 hidle
  obtain ⟨consumed, hconsumed, hdecoded⟩ := hs.decoded
  have hconsumed' : lines = (consumed ++ [line]) ++ rest := by
    rw [hconsumed, hlines, List.append_assoc]
    rfl
  rw [hhandover, Option.toList_none, List.append_nil] at hdecoded
  have hended : s.reading = false → rest = [] := fun h => absurd h (by simp [hreading])
  rw [readLine]
  split
  next hblank =>
    have hsame : requestLines (consumed ++ [line]) = requestLines consumed := by
      rw [requestLines_concat, if_pos hblank, List.append_nil]
    refine ⟨x, rejections, { hs with decoded := ⟨_, hconsumed', ?_⟩, ended := hended }⟩
    simpa [hsame, hhandover] using hdecoded
  next hblank =>
    have hmore : requestLines (consumed ++ [line]) = requestLines consumed ++ [line] := by
      rw [requestLines_concat, if_neg hblank]
    split
    next request hrequest =>
      refine ⟨x, rejections, { hs with
        decoded := ⟨_, hconsumed', ?_⟩
        ended := hended
        handing := fun _ => ⟨hdone, hreading, houtgoing⟩ }⟩
      rw [hmore, List.map_append, List.map_singleton, hrequest, List.map_append, List.append_assoc]
      exact (hdecoded.append_right _).trans (by
        rw [List.append_assoc]
        exact List.perm_append_comm.append_left _)
    next response hrejected =>
      refine ⟨x, rejections ++ [response], { hs with
        decoded := ⟨_, hconsumed', ?_⟩
        output := ?_
        ended := hended
        handing := fun h => absurd h (by simp [hhandover])
        writing := fun _ => hdone }⟩
      · rw [hmore, List.map_append, List.map_singleton, hrejected, hhandover]
        simpa using hdecoded.append_right [Except.error response]
      · have houtput := hs.output.append_right [response]
        rwa [houtgoing, Option.toList_none, List.append_nil, List.append_assoc] at houtput

theorem Serves.close (hs : s.Serves explain depth lines x rejections) (hidle : s.isIdle = true)
    (hlines : s.lines = []) :
    Serves explain depth lines
      { s with
        reading := false
        link := { s.link with requests := s.link.requests.closeSenders } }
      { x with link := { x.link with requests := x.link.requests.closeSenders } } rejections := by
  obtain ⟨hdone, hhandover, -⟩ := isIdle_iff.1 hidle
  exact
    { hs with
      sound := hs.sound.close
      link_eq := by rw [hs.link_eq]
      reading_eq := rfl
      ended := fun _ => hlines
      handing := fun h => absurd h (by simp [hhandover])
      finished := fun h => absurd h (by simp [hdone]) }

theorem Serves.running_of_reading (hs : s.Serves explain depth lines x rejections)
    (hreading : s.reading = true) :
    s.host.running = true ∧ s.link.requests.receiverGone = false := by
  have hlinked := hs.sound.linked
  rw [hs.host_eq, hs.link_eq] at hlinked
  have hrunning : s.host.running = true := by
    by_contra hstopped
    have hgone := (hlinked.drained (by simpa using hstopped)).2
    simp [hs.reading_eq, hgone] at hreading
  exact ⟨hrunning, by rw [hlinked.receiver, hrunning]; rfl⟩

theorem Serves.handOver {e : Envelope} (hs : s.Serves explain depth lines x rejections)
    (hhandover : s.handover = some e) :
    Serves explain depth lines
      { s with
        handover := none
        link := { s.link with requests := s.link.requests.push e } }
      { x with
        link := { x.link with requests := x.link.requests.push e }
        accepted := x.accepted ++ [e] } rejections := by
  obtain ⟨hdone, hreading, -⟩ := hs.handing (by rw [hhandover]; rfl)
  obtain ⟨-, hreceiver⟩ := hs.running_of_reading hreading
  exact
    { hs with
      sound := hs.sound.accept (by rw [hs.link_eq, hreceiver])
      link_eq := by rw [hs.link_eq]
      decoded := by simpa [hhandover] using hs.decoded
      handing := nofun
      finished := fun h => absurd h (by simp [hdone]) }

theorem Serves.receive {response : Response} {rest : List Response}
    (hs : s.Serves explain depth lines x rejections) (hidle : s.isIdle = true)
    (hqueue : s.link.responses.queue = response :: rest) :
    Serves explain depth lines
      { s with
        link := { s.link with responses := { s.link.responses with queue := rest } }
        outgoing := some response }
      { x with
        link := { x.link with responses := { x.link.responses with queue := rest } }
        received := x.received ++ [response] } rejections := by
  obtain ⟨hdone, hhandover, houtgoing⟩ := isIdle_iff.1 hidle
  exact
    { hs with
      sound := hs.sound.receive (by rw [hs.link_eq, hqueue])
      link_eq := by rw [hs.link_eq]
      output := by
        have houtput := hs.output.append_right [response]
        rw [houtgoing, Option.toList_none, List.append_nil, List.append_assoc] at houtput
        rw [List.append_assoc]
        exact houtput.trans (List.perm_append_comm.append_left _)
      handing := fun h => absurd h (by simp [hhandover])
      writing := fun _ => hdone
      finished := fun h => absurd h (by simp [hdone]) }

theorem Serves.write {response : Response} (hs : s.Serves explain depth lines x rejections)
    (houtgoing : s.outgoing = some response) :
    Serves explain depth lines { s with outgoing := none, written := s.written ++ [response] } x
      rejections :=
  { hs with
    output := by simpa [houtgoing] using hs.output
    handing := fun h => absurd (hs.handing h).2.2 (by simp [houtgoing])
    writing := nofun }

theorem Serves.finish (hs : s.Serves explain depth lines x rejections) (hidle : s.isIdle = true)
    (hclosed : s.link.responses.isClosed = true) :
    Serves explain depth lines { s with done := true } x rejections := by
  obtain ⟨-, hhandover, houtgoing⟩ := isIdle_iff.1 hidle
  exact
    { hs with
      handing := fun h => absurd h (by simp [hhandover])
      writing := fun h => absurd h (by simp [houtgoing])
      finished := fun _ => hclosed }

/-- Whatever happens next, each line that was read is accounted for. -/
theorem Step.accounted {event : Event} (hstep : Step explain s event t)
    (hs : s.Accounted explain depth lines) :
    t.Accounted explain depth lines := by
  obtain ⟨x, rejections, hs⟩ := hs
  cases hstep with
  | host hhost => exact ⟨_, rejections, hs.host hhost⟩
  | read hidle hreading hlines => exact hs.read hlines hidle hreading
  | close hidle hreading hlines => exact ⟨_, rejections, hs.close hidle hlines⟩
  | refuse hhandover hgone =>
    -- The host takes requests as long as the server reads.
    obtain ⟨-, hreading, -⟩ := hs.handing (by rw [hhandover]; rfl)
    rw [(hs.running_of_reading hreading).2] at hgone
    cases hgone
  | handOver hhandover => exact ⟨_, rejections, hs.handOver hhandover⟩
  | receive hidle hqueue => exact ⟨_, rejections, hs.receive hidle hqueue⟩
  | write houtgoing => exact ⟨x, rejections, hs.write houtgoing⟩
  | finish hidle hclosed => exact ⟨x, rejections, hs.finish hidle hclosed⟩

theorem accounted_run {config : HostConfig} {input : String} {events : List Event}
    (h : (new config input).run? explain events = some s) :
    s.Accounted explain config.maxNestingDepth (Text.lines input) := by
  rw [run?_eq_foldlM] at h
  exact Run.induction
    (P := fun _ s => s.Accounted explain config.maxNestingDepth (Text.lines input))
    ⟨_, _, serves_new config input⟩ (fun _ _ _ _ hr hstep => (step_of_step? hstep).accounted hr) h

/-! ## Lines under way -/

/-- The requests that were read and not answered yet. -/
def pending (s : LineServer) : List Envelope :=
  s.handover.toList ++ s.link.requests.queue ++ s.host.workers.filterMap Worker.envelope?

/-- The responses on their way from the workers to the output, and those in the output. -/
def responses (s : LineServer) : List Response :=
  s.written ++ s.outgoing.toList ++ s.link.responses.queue ++
    s.host.workers.filterMap Worker.response?

/-- The lines that were read are those whose responses exist and those whose requests are under
way. -/
theorem Serves.exists_split (hs : s.Serves explain depth lines x rejections) :
    ∃ consumed answered waiting : List String, lines = consumed ++ s.lines ∧
      (answered ++ waiting).Perm (requestLines consumed) ∧
      s.responses.Perm (answered.map (Request.answerText explain · depth)) ∧
      (waiting.map (Request.decode · explain)).Perm (s.pending.map fun e => .ok e.request) := by
  obtain ⟨consumed, hconsumed, hdecoded⟩ := hs.decoded
  have hjobs := hs.sound.jobs
  rw [hs.host_eq, hs.link_eq, hs.uncancelled] at hjobs
  obtain ⟨finished, hperm, hresponses⟩ := Job.exists_finished hjobs
  have hbalance := hs.sound.balance
  rw [hs.link_eq] at hbalance
  -- The requests of `done` were answered, by their workers or further on.
  let done := finished ++ x.answered.map (·.1.envelope)
  have haccepted : (x.accepted ++ s.handover.toList).Perm (done ++ s.pending) := by
    simp only [List.perm_iff_count, List.count_append, done, pending] at hperm hbalance ⊢
    intro e
    have := hperm e
    have := hbalance e
    omega
  have hlines : ((requestLines consumed).map (Request.decode · explain)).Perm
      ((done.map (fun e => .ok e.request) ++ rejections.map .error) ++
        s.pending.map fun e => .ok e.request) := by
    refine hdecoded.trans (((haccepted.map _).append_right _).trans ?_)
    rw [List.map_append, List.append_assoc, List.append_assoc]
    exact List.perm_append_comm.append_left _
  obtain ⟨answered, waiting, hsplit, hanswered, hwaiting⟩ :=
    Lists.exists_perm_of_map_perm_append hlines
  refine ⟨consumed, answered, waiting, hconsumed, hsplit, ?_, by rw [hwaiting]⟩
  have hsent : (x.answered.map (·.1.envelope)).map (fun e => e.request.answer depth) =
      x.received ++ s.link.responses.queue := by
    rw [← hs.link_eq, ← hs.sound.delivery, List.map_map]
    refine List.map_congr_left fun p hp => ?_
    have hadmits := hs.sound.answers p hp
    rw [hs.link_eq, hs.uncancelled] at hadmits
    exact hadmits.eq_answer.symm
  have htexts : answered.map (Request.answerText explain · depth) =
      done.map (fun e => e.request.answer depth) ++ rejections := by
    rw [map_answerText, hanswered, List.map_append, List.map_map, List.map_map]
    exact congrArg (_ ++ ·) (List.map_id rejections)
  rw [htexts, List.map_append, hsent, ← hresponses]
  have houtput := hs.output
  simp only [List.perm_iff_count, List.count_append, responses] at houtput ⊢
  intro r
  have := houtput r
  omega

theorem Serves.written_of_done (hs : s.Serves explain depth lines x rejections)
    (hdone : s.done = true) :
    s.written.Perm ((requestLines lines).map (Request.answerText explain · depth)) := by
  have hclosed := hs.finished hdone
  have hlinked := hs.sound.linked
  rw [hs.host_eq, hs.link_eq] at hlinked
  obtain ⟨hstopped, hworkers⟩ := hlinked.gone_of_isClosed hclosed
  obtain ⟨hrequests, hgone⟩ := hlinked.drained hstopped
  have hreading : s.reading = false := by rw [hs.reading_eq, hgone]; rfl
  have hhandover : s.handover = none := by
    by_contra hsome
    have hopen := (hs.handing (Option.isSome_iff_ne_none.2 hsome)).1
    simp [hdone] at hopen
  have houtgoing : s.outgoing = none := by
    by_contra hsome
    have hopen := hs.writing (Option.isSome_iff_ne_none.2 hsome)
    simp [hdone] at hopen
  have hresponses : s.link.responses.queue = [] := by
    rw [Channel.isClosed, Bool.and_eq_true, List.isEmpty_iff] at hclosed
    exact hclosed.2
  obtain ⟨consumed, answered, waiting, hconsumed, hsplit, hanswers, hwaiting⟩ := hs.exists_split
  simp only [responses, houtgoing, hresponses, hworkers, Option.toList_none, List.filterMap_nil,
    List.append_nil] at hanswers
  simp only [pending, hhandover, hrequests, hworkers, Option.toList_none, List.filterMap_nil,
    List.append_nil, List.map_nil, List.perm_nil, List.map_eq_nil_iff] at hwaiting
  rw [hs.ended hreading, List.append_nil] at hconsumed
  rw [hwaiting, List.append_nil] at hsplit
  exact hconsumed ▸ hanswers.trans (hsplit.map _)

/-! ## The end of a run -/

/-- A bound for the number of events that are left. -/
def effort (s : LineServer) : Nat :=
  8 * s.lines.length + 7 * s.handover.isSome.toNat + s.host.effort 2 s.link +
    s.outgoing.isSome.toNat + s.reading.toNat + (!s.done).toNat

theorem Step.effort_lt {event : Event} (hstep : Step explain s event t) : t.effort < s.effort := by
  cases hstep with
  | host hhost =>
    have hlt := hhost.effort_lt 2
    simp only [effort]
    omega
  | read hidle hreading hlines =>
    obtain ⟨-, hhandover, houtgoing⟩ := isIdle_iff.1 hidle
    simp only [effort, readLine, hlines, hhandover, houtgoing, List.length_cons]
    split
    · simp
    · split
      · simp; omega
      · simp; omega
  | close hidle hreading => simp [effort, Host.effort, Channel.closeSenders, hreading]
  | refuse hhandover =>
    simp [effort, hhandover]
    omega
  | handOver hhandover =>
    simp [effort, Host.effort, Channel.push, hhandover]
    omega
  | receive hidle hqueue =>
    obtain ⟨-, -, houtgoing⟩ := isIdle_iff.1 hidle
    simp [effort, Host.effort, hqueue, houtgoing]
    omega
  | write houtgoing => simp [effort, houtgoing]
  | finish hidle => simp [effort, (isIdle_iff.1 hidle).1]

omit [Syntax.Language] in
theorem effort_new (config : HostConfig) (input : String) :
    (new config input).effort = (new config input).work := by
  simp [effort, work, new, Host.effort, Host.new, Link.new, Channel.new]

theorem run_bound {events : List Event} (h : s.run? explain events = some t) :
    events.length + t.effort ≤ s.effort := by
  rw [run?_eq_foldlM] at h
  refine Run.induction (P := fun events t => events.length + effort t ≤ s.effort) (by simp) ?_ h
  intro events r event t hr hstep
  have hlt := (step_of_step? hstep).effort_lt
  rw [List.length_append, List.length_singleton]
  omega

/-- A server that has not returned can go on. -/
theorem Serves.exists_next (hs : s.Serves explain depth lines x rejections)
    (hdone : s.done = false) :
    ∃ event, s.next? = some event ∧ (s.step? explain event).isSome = true := by
  have hlinked := hs.sound.linked
  rw [hs.host_eq, hs.link_eq] at hlinked
  simp only [next?, hdone, Bool.false_eq_true, if_false]
  cases hhost : s.host.next? s.link with
  | some event =>
    exact ⟨.host event, rfl, by rw [step?, Option.isSome_map, Host.isSome_step?_next? hhost]⟩
  | none =>
    have hidle := Host.idle_of_next?_eq_none hhost
    cases houtgoing : s.outgoing with
    | some response => exact ⟨.write, rfl, by simp [step?, houtgoing]⟩
    | none =>
      cases hhandover : s.handover with
      | some e =>
        -- A host that runs and is idle has emptied the channel.
        obtain ⟨-, hreading, -⟩ := hs.handing (by rw [hhandover]; rfl)
        obtain ⟨hrunning, hreceiver⟩ := hs.running_of_reading hreading
        have hroom : s.link.requests.hasRoom = true := by
          simp [Channel.hasRoom, hidle.requests hrunning, hlinked.requestRoom]
        exact ⟨.handOver, rfl, by simp [step?, hhandover, hreceiver, hroom]⟩
      | none =>
        have hserver : s.isIdle = true := isIdle_iff.2 ⟨hdone, hhandover, houtgoing⟩
        cases hresponses : s.link.responses.queue with
        | cons response rest =>
          exact ⟨.receive, rfl, by simp [step?, Channel.pop?, hserver, hresponses]⟩
        | nil =>
          cases hreading : s.reading with
          | true =>
            cases hlines : s.lines with
            | nil => exact ⟨.close, rfl, by simp [step?, hserver, hreading, hlines]⟩
            | cons line rest => exact ⟨.read, rfl, by simp [step?, hserver, hreading, hlines]⟩
          | false =>
            have hgone : s.link.requests.sendersGone = true := by
              simpa [hs.reading_eq] using hreading
            have hclosed : s.link.responses.isClosed = true := by
              rw [← hs.host_eq, ← hs.link_eq] at hidle
              rw [← hs.link_eq] at hresponses hgone ⊢
              exact (hs.sound.complete_of_idle hidle hresponses).2 hgone
            exact ⟨.finish, by simp [hclosed], by simp [step?, hserver, hclosed]⟩

theorem Accounted.settleFor (hs : s.Accounted explain depth lines) {fuel : Nat}
    (hfuel : s.effort ≤ fuel) :
    (s.settleFor explain fuel).done = true ∧
      ∃ events, s.run? explain events = some (s.settleFor explain fuel) := by
  induction fuel generalizing s with
  | zero =>
    have hdone : s.done = true := by
      by_contra hopen
      simp [effort, hopen] at hfuel
    exact ⟨hdone, [], rfl⟩
  | succ fuel ih =>
    cases hdone : s.done with
    | true =>
      have hstop : s.settleFor explain (fuel + 1) = s := by
        simp [LineServer.settleFor, next?, hdone]
      rw [hstop]
      exact ⟨hdone, [], rfl⟩
    | false =>
      have ⟨x, rejections, hserves⟩ := hs
      obtain ⟨event, hnext, hsome⟩ := hserves.exists_next hdone
      obtain ⟨t, hstep⟩ := Option.isSome_iff_exists.1 hsome
      have hlt := (step_of_step? hstep).effort_lt
      obtain ⟨hend, events, hrun⟩ := ih ((step_of_step? hstep).accounted hs) (by omega)
      have hsettle : s.settleFor explain (fuel + 1) = t.settleFor explain fuel := by
        simp [LineServer.settleFor, hnext, hstep]
      rw [hsettle]
      exact ⟨hend, event :: events, by rw [run?, hstep]; exact hrun⟩

/-- Whichever events happen and in whichever order, each line that was read and is not blank is in
one place: either its answer is on the way to the output or was written, or its request is on the
way to its worker. A server that returns has written the answers to all lines, and nothing else. It
returns after a bounded number of events, and before that it can always go on. -/
theorem serving_answers_each_line (explain : String → Option String) (config : HostConfig)
    (input : String) :
    (∀ events s, (new config input).run? explain events = some s →
      (∃ consumed answered waiting : List String, Text.lines input = consumed ++ s.lines ∧
        (answered ++ waiting).Perm (requestLines consumed) ∧
        s.responses.Perm (answered.map (Request.answerText explain · config.maxNestingDepth)) ∧
        (waiting.map (Request.decode · explain)).Perm (s.pending.map fun e => .ok e.request)) ∧
      (s.done = true → s.written.Perm ((requestLines (Text.lines input)).map
        (Request.answerText explain · config.maxNestingDepth))) ∧
      (s.done = false → ∃ event, (s.step? explain event).isSome = true) ∧
      events.length ≤ 8 * (Text.lines input).length + 3) ∧
    (∃ events, (new config input).run? explain events = some (run config input explain)) ∧
    (run config input explain).done = true := by
  refine ⟨fun events s h => ?_, ?_⟩
  · obtain ⟨x, rejections, hs⟩ := accounted_run h
    refine ⟨hs.exists_split, hs.written_of_done, fun hdone => ?_, ?_⟩
    · obtain ⟨event, -, hsome⟩ := hs.exists_next hdone
      exact ⟨event, hsome⟩
    · have hbound := run_bound h
      rw [effort_new] at hbound
      exact Nat.le_trans (Nat.le_add_right _ _) hbound
  · have hs : (new config input).Accounted explain config.maxNestingDepth (Text.lines input) :=
      ⟨_, _, serves_new config input⟩
    exact (hs.settleFor (Nat.le_of_eq (effort_new config input))).symm

end Runs

theorem serving_answers_each_line_of_two :
    let explain (_ : String) := some "expected value at line 1 column 1"
    let input := "\x7b\"type\":\"parse\",\"id\":\"a\"\x7d\n \n!\n"
    let events : List Event := [.read, .handOver, .read, .read, .host .take, .host (.start 0),
      .write, .close, .host .stop, .host (.finish 0), .host (.send 0), .receive, .write, .finish]
    ∃ s, (new {} input).run? explain events = some s ∧ s.done = true ∧
      s.written =
        [.refused "" (.malformed (some "expected value at line 1 column 1")),
          .refused "a" .invalid] ∧
      s.written.Perm ((requestLines (Text.lines input)).map
        (Request.answerText explain · ({} : HostConfig).maxNestingDepth)) := by
  intro explain input events
  have hseen : ((new {} input).run? explain events).map (fun s => (s.done, s.written)) =
      some (true,
        [.refused "" (.malformed (some "expected value at line 1 column 1")),
          .refused "a" .invalid]) := by decide +kernel
  obtain ⟨s, hs, hseen⟩ := Option.map_eq_some_iff.1 hseen
  obtain ⟨hdone, hwritten⟩ := Prod.mk.inj hseen
  refine ⟨s, hs, hdone, hwritten, ?_⟩
  exact ((serving_answers_each_line explain {} input).1 events s hs).2.1 hdone

end LineServer

end SubmissionGrader
