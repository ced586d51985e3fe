/-
# Holding composed sessions

A session that announces nothing leaves what is remembered as it was, so what follows it
is held under the same states, with the database that the first part has left. For
sessions that announce something this is not so: what follows is held under what was
announced last.

What every call of a session leaves as it was, the session leaves as it was. Only the calls
that it makes with this database count.
-/

import MigrationLedger.Proofs.Session.Texts
import MigrationLedger.Proofs.Session.Transcript

namespace MigrationLedger.Session

variable {α β σ : Type} {answering : Answering σ} {states : RunStates} {database : σ}

theorem hold_call_bind {call : Call} {f : call.Answer → Session α} :
    (Session.call call >>= f).hold answering states database =
      (f (answering states database call).1).hold answering states
        (answering states database call).2 := rfl

/-- A silent session and its continuation are held one after the other. -/
theorem Silent.hold_bind {session : Session α} (silent : session.Silent) {f : α → Session β} :
    (session >>= f).hold answering states database =
      (f (session.hold answering states database).1).hold answering states
        (session.hold answering states database).2 := by
  change (session.bind f).hold answering states database = _
  induction silent generalizing database with
  | done value => rfl
  | ask _ ih => exact ih _

/-- What is exchanged with a silent session comes before what is exchanged with its
continuation. -/
theorem Silent.exchanges_bind {session : Session α} (silent : session.Silent)
    {f : α → Session β} :
    (session >>= f).exchanges answering states database =
      session.exchanges answering states database ++
        (f (session.hold answering states database).1).exchanges answering states
          (session.hold answering states database).2 := by
  change (session.bind f).exchanges answering states database = _
  induction silent generalizing database with
  | done value => rfl
  | @ask call next _ ih =>
      exact congrArg (List.cons (⟨call, (answering states database call).1⟩ : Exchange)) (ih _)

/-- What all calls preserve that a session makes, the session preserves. -/
theorem hold_preserves {P : Call → Prop} {I : σ → Prop} {session : Session α}
    (step : ∀ states database call, P call → I database → I (answering states database call).2)
    (makes : ∀ exchange ∈ session.exchanges answering states database, P exchange.call)
    (start : I database) : I (session.hold answering states database).2 := by
  induction session generalizing states database with
  | done value => exact start
  | ask call next ih =>
      obtain ⟨here, later⟩ := List.forall_mem_cons.mp makes
      exact ih _ later (step _ _ _ here start)
  | announce announced next ih => exact ih makes start

/-- What all calls preserve that a session can make, the session preserves. -/
theorem Asks.hold_preserves {P : Call → Prop} {I : σ → Prop} {session : Session α}
    (asks : Asks P session)
    (step : ∀ states database call, P call → I database → I (answering states database call).2)
    (start : I database) : I (session.hold answering states database).2 :=
  Session.hold_preserves step
    (asks.of_dialogue (dialogue_exchanges answering session states database)) start

end MigrationLedger.Session
