/-
# What is remembered during a session

A session announces the states that its runner remembers as it goes on, and a database
may look at them while it answers a call. A dialogue leaves the announcements out. A
transcript keeps them: it lists the exchanges of a session and its announcements as they
follow each other. From a transcript one reads off what is remembered at each call and
how it changes.

As with dialogues, the transcript of a composed session is a transcript of the one part
followed by a transcript of the other. A session that announces nothing has its
dialogues for transcripts.
-/

import MigrationLedger.Proofs.Session.Dialogue

namespace MigrationLedger

/-- A call, its answer, and what is remembered while the call is under way. -/
structure Moment where
  states : RunStates
  exchange : Exchange

/-- One entry of a transcript. -/
inductive Entry
  | said (exchange : Exchange)
  | announced (states : RunStates)

namespace Entry

/-- The exchanges of a transcript. -/
def exchanges : List Entry → List Exchange
  | [] => []
  | .said exchange :: later => exchange :: exchanges later
  | .announced _ :: later => exchanges later

/-- The announcements of a transcript. -/
def announcements : List Entry → List RunStates
  | [] => []
  | .said _ :: later => announcements later
  | .announced states :: later => states :: announcements later

/-- The exchanges of a transcript with what is remembered at each of them, given what
is remembered at first. -/
def moments : RunStates → List Entry → List Moment
  | _, [] => []
  | states, .said exchange :: later => ⟨states, exchange⟩ :: moments states later
  | _, .announced states :: later => moments states later

variable {states : RunStates} {exchanged : List Exchange} {later : List Entry}

@[simp]
theorem exchanges_said_append :
    exchanges (exchanged.map said ++ later) = exchanged ++ exchanges later := by
  induction exchanged with
  | nil => rfl
  | cons exchange rest ih => exact congrArg (exchange :: ·) ih

@[simp]
theorem announcements_said_append :
    announcements (exchanged.map said ++ later) = announcements later := by
  induction exchanged with
  | nil => rfl
  | cons exchange rest ih => exact ih

@[simp]
theorem moments_said_append :
    moments states (exchanged.map said ++ later) =
      exchanged.map (Moment.mk states) ++ moments states later := by
  induction exchanged with
  | nil => rfl
  | cons exchange rest ih => exact congrArg (⟨states, exchange⟩ :: ·) ih

@[simp]
theorem exchanges_said : exchanges (exchanged.map said) = exchanged := by
  simpa [exchanges] using @exchanges_said_append exchanged []

@[simp]
theorem announcements_said : announcements (exchanged.map said) = [] := by
  simpa [announcements] using @announcements_said_append exchanged []

@[simp]
theorem moments_said :
    moments states (exchanged.map said) = exchanged.map (Moment.mk states) := by
  simpa [moments] using @moments_said_append states exchanged []

end Entry

namespace Session

variable {α β σ : Type}

/-- The calls that a session makes to a database, each with what is remembered while it
is under way. -/
def moments (answering : Answering σ) : RunStates → σ → Session α → List Moment
  | _, _, .done _ => []
  | states, database, .ask call next =>
    match answering states database call with
    | (answer, database) =>
      ⟨states, ⟨call, answer⟩⟩ :: (next answer).moments answering states database
  | _, database, .announce states next => next.moments answering states database

/-- What a session with a database announces, in order. -/
def announcements (answering : Answering σ) : RunStates → σ → Session α → List RunStates
  | _, _, .done _ => []
  | states, database, .ask call next =>
    match answering states database call with
    | (answer, database) => (next answer).announcements answering states database
  | _, database, .announce states next =>
    states :: next.announcements answering states database

/-- The paths through a session with all that happens on them. -/
inductive Transcript : Session α → List Entry → α → Prop
  | /-- Nothing is left to do. -/
    done (value : α) : Transcript (.done value) [] value
  | /-- A call, some answer to it, and what follows that answer. -/
    ask {call : Call} {next : call.Answer → Session α} {later : List Entry} {value : α}
      (answer : call.Answer) (rest : Transcript (next answer) later value) :
      Transcript (.ask call next) (.said ⟨call, answer⟩ :: later) value
  | /-- An announcement, and what follows it. -/
    announce {states : RunStates} {next : Session α} {later : List Entry} {value : α}
      (rest : Transcript next later value) :
      Transcript (.announce states next) (.announced states :: later) value

/-- A session with a database has a transcript, which tells what is exchanged, what is
announced, and what is remembered at each call. -/
theorem exists_transcript (answering : Answering σ) (session : Session α) (states : RunStates)
    (database : σ) :
    ∃ entries, session.Transcript entries (session.hold answering states database).1 ∧
      session.exchanges answering states database = Entry.exchanges entries ∧
      session.announcements answering states database = Entry.announcements entries ∧
      session.moments answering states database = Entry.moments states entries := by
  induction session generalizing states database with
  | done value => exact ⟨[], .done value, rfl, rfl, rfl⟩
  | ask call next ih =>
      obtain ⟨entries, transcript, exchanged, announced, moments⟩ :=
        ih (answering states database call).1 states (answering states database call).2
      exact ⟨.said ⟨call, _⟩ :: entries, .ask _ transcript, congrArg (_ :: ·) exchanged,
        announced, congrArg (_ :: ·) moments⟩
  | announce announced next ih =>
      obtain ⟨entries, transcript, exchanged, others, moments⟩ := ih announced database
      exact ⟨.announced announced :: entries, .announce transcript, exchanged,
        congrArg (announced :: ·) others, moments⟩

@[simp]
theorem transcript_pure_iff {value outcome : α} {entries : List Entry} :
    (pure value : Session α).Transcript entries outcome ↔ entries = [] ∧ outcome = value := by
  constructor
  · intro transcript
    cases transcript
    exact ⟨rfl, rfl⟩
  · rintro ⟨rfl, rfl⟩
    exact .done _

theorem transcript_announce_iff {states : RunStates} {session : Session α} {value : α}
    {entries : List Entry} :
    (Session.announce states session).Transcript entries value ↔
      ∃ later, entries = .announced states :: later ∧ session.Transcript later value := by
  constructor
  · intro transcript
    cases transcript with
    | announce rest => exact ⟨_, rfl, rest⟩
  · rintro ⟨later, rfl, rest⟩
    exact .announce rest

/-- A transcript of a session and its continuation is a transcript of the one followed
by a transcript of the other. -/
theorem transcript_bind_iff {session : Session α} {f : α → Session β} {value : β}
    {entries : List Entry} :
    (session >>= f).Transcript entries value ↔
      ∃ first second middle, entries = first ++ second ∧
        session.Transcript first middle ∧ (f middle).Transcript second value := by
  constructor
  · intro transcript
    change (session.bind f).Transcript entries value at transcript
    induction session generalizing entries with
    | done middle => exact ⟨[], entries, middle, rfl, .done middle, transcript⟩
    | ask call next ih =>
        cases transcript with
        | ask answer rest =>
            obtain ⟨first, second, middle, rfl, before, after⟩ := ih answer rest
            exact ⟨.said ⟨call, answer⟩ :: first, second, middle, rfl, .ask answer before, after⟩
    | announce states next ih =>
        cases transcript with
        | announce rest =>
            obtain ⟨first, second, middle, rfl, before, after⟩ := ih rest
            exact ⟨.announced states :: first, second, middle, rfl, .announce before, after⟩
  · rintro ⟨first, second, middle, rfl, before, after⟩
    change (session.bind f).Transcript (first ++ second) value
    induction before with
    | done middle => exact after
    | ask answer rest ih => exact .ask answer (ih after)
    | announce rest ih => exact .announce (ih after)

/-- A continuation that only returns something announces nothing. -/
theorem announcements_bind_pure (answering : Answering σ) (f : α → β) (session : Session α)
    (states : RunStates) (database : σ) :
    (session >>= fun value => pure (f value)).announcements answering states database =
      session.announcements answering states database := by
  change (session.bind fun value => .done (f value)).announcements answering states database = _
  induction session generalizing states database with
  | done value => rfl
  | ask call next ih => exact ih _ states _
  | announce announced next ih => exact congrArg (announced :: ·) (ih announced database)

/-! ## Sessions that announce nothing -/

/-- The session announces nothing, however it is answered. -/
inductive Silent : Session α → Prop
  | done (value : α) : Silent (.done value)
  | ask {call : Call} {next : call.Answer → Session α}
      (silent : ∀ answer, Silent (next answer)) : Silent (.ask call next)

theorem silent_pure (value : α) : (pure value : Session α).Silent := .done value

/-- A call, and a silent session behind every answer. -/
theorem silent_call_bind {call : Call} {f : call.Answer → Session α}
    (silent : ∀ answer, (f answer).Silent) : (Session.call call >>= f).Silent :=
  .ask silent

theorem Silent.bind {session : Session α} {f : α → Session β} (first : session.Silent)
    (second : ∀ value, (f value).Silent) : (session >>= f).Silent := by
  change (session.bind f).Silent
  induction first with
  | done value => exact second value
  | ask silent ih => exact .ask ih

/-- The transcripts of a silent session are its dialogues. -/
theorem Silent.exists_dialogue {session : Session α} {entries : List Entry} {value : α}
    (silent : session.Silent) (transcript : session.Transcript entries value) :
    ∃ exchanged, entries = exchanged.map Entry.said ∧ session.Dialogue exchanged value := by
  induction transcript with
  | done value => exact ⟨[], rfl, .done value⟩
  | ask answer rest ih =>
      cases silent with
      | ask silent =>
          obtain ⟨exchanged, rfl, dialogue⟩ := ih (silent answer)
          exact ⟨⟨_, answer⟩ :: exchanged, rfl, .ask answer dialogue⟩
  | announce rest ih => cases silent

theorem Silent.announcements_eq_nil {session : Session α} (silent : session.Silent)
    (answering : Answering σ) (states : RunStates) (database : σ) :
    session.announcements answering states database = [] := by
  obtain ⟨entries, transcript, _, announced, _⟩ :=
    exists_transcript answering session states database
  obtain ⟨exchanged, rfl, _⟩ := silent.exists_dialogue transcript
  rw [announced, Entry.announcements_said]

end Session

end MigrationLedger
