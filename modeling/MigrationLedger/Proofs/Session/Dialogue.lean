/-
# Dialogues of a session

A session is a tree of calls whose branches are answers. A dialogue is one path
through that tree: the calls in order, each with the answer it got, and the value
at the end. The module relates three views of a session: the dialogues it admits,
whatever the answers may be; the dialogue that a given database leads with it; and
the value that holding the session with that database ends in.

Dialogues compose along `bind`, so what a session may say is read off its parts.
Nothing is assumed about databases here. A database that answers from a script
shows that every dialogue does take place with some database.
-/

import MigrationLedger.Database.Session

namespace MigrationLedger

/-- A call together with what it was answered with. -/
structure Exchange where
  call : Call
  answer : call.Answer

/-- How a database in some state answers a call while a runner remembers some
states, and what the database is like afterwards. -/
abbrev Answering (σ : Type) := RunStates → σ → (call : Call) → call.Answer × σ

namespace Session

variable {α β σ : Type}

/-- The paths through a session: what is asked and answered on the way, and the
value at the end. Any answer may be given to any call. -/
inductive Dialogue : Session α → List Exchange → α → Prop
  | /-- Nothing is left to ask. -/
    done (value : α) : Dialogue (.done value) [] value
  | /-- A call, some answer to it, and a dialogue of what follows that answer. -/
    ask {call : Call} {next : call.Answer → Session α} {later : List Exchange} {value : α}
      (answer : call.Answer) (rest : Dialogue (next answer) later value) :
      Dialogue (.ask call next) (⟨call, answer⟩ :: later) value
  | /-- Announcing states exchanges nothing. -/
    announce {states : RunStates} {next : Session α} {exchanges : List Exchange} {value : α}
      (rest : Dialogue next exchanges value) :
      Dialogue (.announce states next) exchanges value

/-- The dialogue that a database leads with a session. -/
def exchanges (answering : Answering σ) : RunStates → σ → Session α → List Exchange
  | _, _, .done _ => []
  | states, database, .ask call next =>
    match answering states database call with
    | (answer, database) =>
      ⟨call, answer⟩ :: (next answer).exchanges answering states database
  | _, database, .announce states next => next.exchanges answering states database

/-- What passes between a database and a session is one of the session's
dialogues, and its value is what the session ends in. -/
theorem dialogue_exchanges (answering : Answering σ) (session : Session α) :
    ∀ (states : RunStates) (database : σ),
      session.Dialogue (session.exchanges answering states database)
        (session.hold answering states database).1 := by
  induction session with
  | done value => exact fun _ _ => .done value
  | ask call next ih => exact fun states database => .ask _ (ih _ states _)
  | announce states next ih => exact fun _ database => .announce (ih states database)

/-- A database that answers from a script. Off the script it refuses. -/
def scripted : Answering (List Exchange)
  | _, [], _ => (.error (.connection ""), [])
  | _, ⟨expected, answer⟩ :: script, call =>
    if h : expected = call then (h ▸ answer, script) else (.error (.connection ""), script)

/-- Every dialogue takes place with the database that has it for a script. -/
theorem exchanges_scripted {session : Session α} {script : List Exchange} {value : α}
    (dialogue : session.Dialogue script value) (states : RunStates) :
    session.exchanges scripted states script = script ∧
      (session.hold scripted states script).1 = value := by
  induction dialogue generalizing states with
  | done value => exact ⟨rfl, rfl⟩
  | ask answer rest ih =>
      obtain ⟨sameExchanges, sameValue⟩ := ih states
      constructor
      · simp only [exchanges, scripted, dite_true, sameExchanges]
      · simpa only [hold, scripted, dite_true] using sameValue
  | @announce announced next exchanges value rest ih => exact ih announced

/-- The dialogues of a session are exactly those that it has with databases. -/
theorem dialogue_iff_exists_database (session : Session α) (states : RunStates)
    (exchanged : List Exchange) (value : α) :
    session.Dialogue exchanged value ↔
      ∃ (σ : Type) (answering : Answering σ) (database : σ),
        session.exchanges answering states database = exchanged ∧
          (session.hold answering states database).1 = value := by
  constructor
  · intro dialogue
    exact ⟨List Exchange, scripted, exchanged, exchanges_scripted dialogue states⟩
  · rintro ⟨σ, answering, database, rfl, rfl⟩
    exact dialogue_exchanges answering session states database

/-! ## Dialogues of composed sessions -/

@[simp]
theorem dialogue_pure_iff {value outcome : α} {exchanged : List Exchange} :
    (pure value : Session α).Dialogue exchanged outcome ↔
      exchanged = [] ∧ outcome = value := by
  constructor
  · intro dialogue
    cases dialogue
    exact ⟨rfl, rfl⟩
  · rintro ⟨rfl, rfl⟩
    exact .done _

@[simp]
theorem dialogue_announce_iff {states : RunStates} {session : Session α} {value : α}
    {exchanged : List Exchange} :
    (Session.announce states session).Dialogue exchanged value ↔
      session.Dialogue exchanged value := by
  constructor
  · intro dialogue
    cases dialogue with
    | announce rest => exact rest
  · exact .announce

/-- A dialogue that begins with a call begins with some answer to it. -/
theorem dialogue_call_bind_iff {call : Call} {f : call.Answer → Session α} {value : α}
    {exchanged : List Exchange} :
    (Session.call call >>= f).Dialogue exchanged value ↔
      ∃ answer later, exchanged = ⟨call, answer⟩ :: later ∧
        (f answer).Dialogue later value := by
  constructor
  · intro dialogue
    cases dialogue with
    | ask answer rest => exact ⟨answer, _, rfl, rest⟩
  · rintro ⟨answer, later, rfl, rest⟩
    exact .ask answer rest

/-- A dialogue of a session and its continuation is a dialogue of the one
followed by a dialogue of the other. -/
theorem dialogue_bind_iff {session : Session α} {f : α → Session β} {value : β}
    {exchanged : List Exchange} :
    (session >>= f).Dialogue exchanged value ↔
      ∃ first second middle, exchanged = first ++ second ∧
        session.Dialogue first middle ∧ (f middle).Dialogue second value := by
  constructor
  · intro dialogue
    change (session.bind f).Dialogue exchanged value at dialogue
    induction session generalizing exchanged with
    | done middle => exact ⟨[], exchanged, middle, rfl, .done middle, dialogue⟩
    | ask call next ih =>
        cases dialogue with
        | ask answer rest =>
            obtain ⟨first, second, middle, rfl, before, after⟩ := ih answer rest
            exact ⟨⟨call, answer⟩ :: first, second, middle, rfl, .ask answer before, after⟩
    | announce states next ih =>
        cases dialogue with
        | announce rest =>
            obtain ⟨first, second, middle, rfl, before, after⟩ := ih rest
            exact ⟨first, second, middle, rfl, .announce before, after⟩
  · rintro ⟨first, second, middle, rfl, before, after⟩
    change (session.bind f).Dialogue (first ++ second) value
    induction before with
    | done middle => exact after
    | ask answer rest ih => exact .ask answer (ih after)
    | announce rest ih => exact .announce (ih after)

theorem bind_assoc {γ : Type} (session : Session α) (f : α → Session β) (g : β → Session γ) :
    session >>= f >>= g = session >>= fun value => f value >>= g := by
  change (session.bind f).bind g = session.bind fun value => (f value).bind g
  induction session with
  | done value => rfl
  | ask call next ih => exact congrArg (ask call) (funext ih)
  | announce states next ih => exact congrArg (announce states) ih

/-- A continuation that only returns something exchanges nothing. -/
theorem exchanges_bind_pure (answering : Answering σ) (f : α → β) (session : Session α)
    (states : RunStates) (database : σ) :
    (session >>= fun value => pure (f value)).exchanges answering states database =
      session.exchanges answering states database := by
  change (session.bind fun value => .done (f value)).exchanges answering states database = _
  induction session generalizing states database with
  | done value => rfl
  | ask call next ih => simp only [bind, exchanges, ih]
  | announce announced next ih => exact ih announced database

/-- A continuation that only returns something changes what is returned. -/
theorem hold_bind_pure (answering : Answering σ) (f : α → β) (session : Session α)
    (states : RunStates) (database : σ) :
    (session >>= fun value => pure (f value)).hold answering states database =
      (f (session.hold answering states database).1,
        (session.hold answering states database).2) := by
  change (session.bind fun value => .done (f value)).hold answering states database = _
  induction session generalizing states database with
  | done value => rfl
  | ask call next ih => simp only [bind, hold, ih]
  | announce announced next ih => exact ih announced database

/-- A continuation that only returns something adds nothing to a dialogue. -/
theorem dialogue_of_bind_pure {session : Session α} {f : α → Session β} {value : β}
    {exchanged : List Exchange} (returns : ∀ middle, ∃ result, f middle = pure result)
    (dialogue : (session >>= f).Dialogue exchanged value) :
    ∃ middle, session.Dialogue exchanged middle := by
  obtain ⟨first, second, middle, rfl, before, after⟩ := dialogue_bind_iff.mp dialogue
  obtain ⟨result, same⟩ := returns middle
  rw [same] at after
  obtain ⟨rfl, _⟩ := dialogue_pure_iff.mp after
  rw [List.append_nil]
  exact ⟨middle, before⟩

end Session

end MigrationLedger
