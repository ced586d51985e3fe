/-
# The texts that a session sends

What a session sends has two parts: the texts of its statements, and the values that are
bound to their placeholders. The module says two things of the texts. `Asks` is a property
of all calls that a session can make, whatever it is answered. `Mirrors` relates two
sessions: whatever the first is answered, the same answers lead the second through calls of
the same kinds and with the same texts, and only bound values may differ. Both follow the
composition of sessions, so they are shown for a program part by part.
-/

import Mathlib.Data.List.Forall2
import MigrationLedger.Proofs.Session.Dialogue

namespace MigrationLedger

/-- Two exchanges of the same kind, with the same text and the same answer. -/
inductive Exchange.Alike : Exchange → Exchange → Prop
  | /-- The same values are bound. -/
    same (exchange : Exchange) : Alike exchange exchange
  | /-- Other values are bound in a count. -/
    count (sql : String) (parameters others : List Parameter) (answer : Except DbError Int) :
      Alike ⟨.count sql parameters, answer⟩ ⟨.count sql others, answer⟩
  | /-- Other values are bound in a statement. -/
    execute (sql : String) (parameters others : List Parameter) (answer : Except DbError Nat) :
      Alike ⟨.execute sql parameters, answer⟩ ⟨.execute sql others, answer⟩

namespace Session

variable {α β γ δ : Type} {P : Call → Prop} {R : α → β → Prop} {Q : γ → δ → Prop}

/-! ## Properties of all calls -/

/-- Every call that the session can make has the property. -/
inductive Asks (P : Call → Prop) : Session α → Prop
  | done (value : α) : Asks P (.done value)
  | ask {call : Call} {next : call.Answer → Session α} (here : P call)
      (later : ∀ answer, Asks P (next answer)) : Asks P (.ask call next)
  | announce {states : RunStates} {next : Session α} (later : Asks P next) :
      Asks P (.announce states next)

theorem asks_pure (value : α) : Asks P (pure value : Session α) := .done value

/-- A call with the property, and a session that has it behind every answer. -/
theorem asks_call_bind {call : Call} {f : call.Answer → Session α} (here : P call)
    (later : ∀ answer, Asks P (f answer)) : Asks P (Session.call call >>= f) :=
  .ask here later

theorem Asks.bind {session : Session α} {f : α → Session β} (first : Asks P session)
    (second : ∀ value, Asks P (f value)) : Asks P (session >>= f) := by
  change Asks P (session.bind f)
  induction first with
  | done value => exact second value
  | ask here _ ih => exact .ask here ih
  | announce _ ih => exact .announce ih

theorem Asks.mono {P' : Call → Prop} {session : Session α} (asks : Asks P session)
    (weaker : ∀ call, P call → P' call) : Asks P' session := by
  induction asks with
  | done value => exact .done value
  | ask here _ ih => exact .ask (weaker _ here) ih
  | announce _ ih => exact .announce ih

/-- What passes between a session and a database are calls with the property. -/
theorem Asks.of_dialogue {session : Session α} {exchanged : List Exchange} {value : α}
    (asks : Asks P session) (dialogue : session.Dialogue exchanged value) :
    ∀ exchange ∈ exchanged, P exchange.call := by
  induction dialogue with
  | done value => exact fun _ member => absurd member List.not_mem_nil
  | ask answer _ ih =>
      obtain _ | ⟨here, later⟩ | _ := asks
      exact List.forall_mem_cons.mpr ⟨here, ih (later answer)⟩
  | announce _ ih =>
      obtain _ | _ | later := asks
      exact ih later

/-! ## Sessions that send the same texts -/

/-- Whatever the first session is answered, the same answers lead the second one through
the same texts, and to a related value. -/
def Mirrors (R : α → β → Prop) (first : Session α) (second : Session β) : Prop :=
  ∀ exchanged value, first.Dialogue exchanged value →
    ∃ others outcome, second.Dialogue others outcome ∧
      List.Forall₂ Exchange.Alike exchanged others ∧ R value outcome

/-- Whatever the first session is answered, the same answers lead the second one through
the same texts. -/
def SameTexts (first : Session α) (second : Session β) : Prop :=
  Mirrors (fun _ _ => True) first second

theorem mirrors_refl (session : Session α) : Mirrors Eq session session :=
  fun exchanged value dialogue =>
    ⟨exchanged, value, dialogue, List.forall₂_same.mpr fun exchange _ => .same exchange, rfl⟩

theorem mirrors_pure {value : α} {outcome : β} (related : R value outcome) :
    Mirrors R (pure value) (pure outcome) := by
  intro exchanged other dialogue
  obtain ⟨rfl, rfl⟩ := dialogue_pure_iff.mp dialogue
  exact ⟨[], outcome, dialogue_pure_iff.mpr ⟨rfl, rfl⟩, .nil, related⟩

theorem Mirrors.mono {R' : α → β → Prop} {first : Session α} {second : Session β}
    (mirrors : Mirrors R first second)
    (weaker : ∀ value outcome, R value outcome → R' value outcome) : Mirrors R' first second := by
  intro exchanged value dialogue
  obtain ⟨others, outcome, said, alike, related⟩ := mirrors exchanged value dialogue
  exact ⟨others, outcome, said, alike, weaker _ _ related⟩

/-- Sessions whose first parts mirror each other, and which go on so from related values. -/
theorem Mirrors.bind {first : Session α} {second : Session β} {f : α → Session γ}
    {g : β → Session δ} (here : Mirrors R first second)
    (later : ∀ value outcome, R value outcome → Mirrors Q (f value) (g outcome)) :
    Mirrors Q (first >>= f) (second >>= g) := by
  intro exchanged value dialogue
  obtain ⟨before, after, middle, rfl, said, rest⟩ := dialogue_bind_iff.mp dialogue
  obtain ⟨others, between, saidToo, alike, related⟩ := here before middle said
  obtain ⟨more, outcome, restToo, alikeRest, ended⟩ := later middle between related after value rest
  exact ⟨others ++ more, outcome,
    dialogue_bind_iff.mpr ⟨others, more, between, rfl, saidToo, restToo⟩,
    List.rel_append alike alikeRest, ended⟩

/-- Continuations that only return something send nothing. -/
theorem Mirrors.bind_pure {first : Session α} {second : Session β} {f : α → γ} {g : β → δ}
    (here : Mirrors R first second) :
    SameTexts (first >>= fun value => pure (f value)) (second >>= fun value => pure (g value)) :=
  here.bind fun _ _ _ => mirrors_pure trivial

theorem Mirrors.announce {first : Session α} {second : Session β} {states others : RunStates}
    (mirrors : Mirrors R first second) :
    Mirrors R (.announce states first) (.announce others second) := by
  intro exchanged value dialogue
  obtain ⟨others, outcome, said, rest⟩ :=
    mirrors exchanged value (dialogue_announce_iff.mp dialogue)
  exact ⟨others, outcome, dialogue_announce_iff.mpr said, rest⟩

/-- A call mirrors one that differs from it in bound values only. -/
theorem mirrors_call {call other : Call} {R : call.Answer → other.Answer → Prop}
    (alike : ∀ answer, ∃ reply, Exchange.Alike ⟨call, answer⟩ ⟨other, reply⟩ ∧ R answer reply) :
    Mirrors R (Session.call call) (Session.call other) := by
  intro exchanged value dialogue
  cases dialogue with
  | ask answer rest =>
      obtain ⟨rfl, rfl⟩ := dialogue_pure_iff.mp rest
      obtain ⟨reply, here, related⟩ := alike value
      exact ⟨_, reply, .ask reply (.done reply), .cons here .nil, related⟩

theorem mirrors_count (sql : String) (parameters others : List Parameter) :
    Mirrors (@Eq (Except DbError Int)) (Session.call (.count sql parameters))
      (Session.call (.count sql others)) :=
  @mirrors_call (.count sql parameters) (.count sql others) _ fun answer =>
    ⟨answer, .count sql parameters others answer, rfl⟩

theorem mirrors_execute (sql : String) (parameters others : List Parameter) :
    Mirrors (@Eq (Except DbError Nat)) (Session.call (.execute sql parameters))
      (Session.call (.execute sql others)) :=
  @mirrors_call (.execute sql parameters) (.execute sql others) _ fun answer =>
    ⟨answer, .execute sql parameters others answer, rfl⟩

end Session

end MigrationLedger
